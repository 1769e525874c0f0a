import StatusWatch.Binary64

/-!
Reading a decimal literal: a sign if any, digits with at most one point among them, and an
exponent if any. The value is the nearest one.
-/

namespace StatusWatch.Binary64

def digitsValue (digits : List Char) : Nat :=
  digits.foldl (fun n d => n * 10 + (d.toNat - '0'.toNat)) 0

def exponentOf? : List Char → Option Int
  | [] => some 0
  | e :: rest =>
    let (sign, digits) : Int × List Char :=
      match rest with
      | '+' :: digits => (1, digits)
      | '-' :: digits => (-1, digits)
      | digits => (1, digits)
    if (e = 'e' ∨ e = 'E') ∧ digits ≠ [] ∧ digits.all Char.isDigit then
      some (sign * digitsValue digits)
    else none

/-- Digits before and after the point count alike, and there is at least one of them. -/
def ofUnsignedText? (text : List Char) : Option Binary64 := do
  let whole := text.takeWhile Char.isDigit
  let rest := text.dropWhile Char.isDigit
  let (fraction, rest) :=
    match rest with
    | '.' :: rest => (rest.takeWhile Char.isDigit, rest.dropWhile Char.isDigit)
    | _ => ([], rest)
  if whole = [] ∧ fraction = [] then none
  let exponent ← exponentOf? rest
  ofDecimal? (digitsValue (whole ++ fraction)) (exponent - fraction.length)

def ofText? : List Char → Option Binary64
  | '-' :: text => (ofUnsignedText? text).map neg
  | '+' :: text => ofUnsignedText? text
  | text => ofUnsignedText? text

end StatusWatch.Binary64
