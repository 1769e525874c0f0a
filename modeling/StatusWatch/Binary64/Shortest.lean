import StatusWatch.Binary64

/-!
The shortest decimal that reads back as a given binary64 value: of all decimals with the
fewest digits inside the value's rounding interval, the nearest one, an exact tie going to
the even digit.
-/

namespace StatusWatch.Binary64

/-- `digits * 10 ^ exponent`. -/
structure Decimal where
  digits : Nat
  exponent : Int
  deriving DecidableEq, Repr

/-- Whether `candidate * scaleDen / scaleNum` units round to `units`. The interval reaches
half a step up and half a step down, a quarter step down below a power of two, and has its
ends only where the significand is even. -/
def readsBack (units scaleNum scaleDen candidate : Nat) : Bool :=
  let step := spacing units
  let significand := units / step
  let below := if significand = Nat.pow 2 52 ∧ 1 < step then step else 2 * step
  let low := (4 * units - below) * scaleNum
  let high := (4 * units + 2 * step) * scaleNum
  let point := 4 * candidate * scaleDen
  if significand % 2 = 0 then low ≤ point ∧ point ≤ high else low < point ∧ point < high

def leadingPower (units : Nat) : Int :=
  ((Nat.toDigits 10 (units * Nat.pow 10 345 / unitsPerOne)).length : Int) - 346

/-- The nearer neighbour of the value on the grid of multiples of `10 ^ exponent`, if one of
its two neighbours reads back. -/
def nearestOnGrid? (units : Nat) (exponent : Int) : Option Nat :=
  let scaleNum := Nat.pow 10 (-exponent).toNat
  let scaleDen := unitsPerOne * Nat.pow 10 exponent.toNat
  let num := units * scaleNum
  let low := num / scaleDen
  let reads := readsBack units scaleNum scaleDen
  let nearest := roundDiv num scaleDen
  let other := if nearest = low then low + 1 else low
  if reads nearest then some nearest
  else if reads other then some other
  else none

def shortestFrom (units : Nat) (exponent : Int) : Nat → Decimal
  | 0 =>
    let scaleNum := Nat.pow 10 (-exponent).toNat
    let scaleDen := unitsPerOne * Nat.pow 10 exponent.toNat
    ⟨roundDiv (units * scaleNum) scaleDen, exponent⟩
  | more + 1 =>
    match nearestOnGrid? units exponent with
    | some digits => ⟨digits, exponent⟩
    | none => shortestFrom units (exponent - 1) more

def Decimal.trim (d : Decimal) : Decimal :=
  if d.digits ≠ 0 ∧ d.digits % 10 = 0 then Decimal.trim ⟨d.digits / 10, d.exponent + 1⟩ else d
termination_by d.digits

def shortest (x : Binary64) : Decimal :=
  if x.units = 0 then ⟨0, 0⟩
  else (shortestFrom x.units (leadingPower x.units) 17).trim

def exponentText (e : Int) : String :=
  (if e < 0 then "e-" else "e+") ++ toString e.natAbs

/-- Where the decimal point of a value falls, counted from its first digit, decides its form:
from four places before it to sixteen after it the value is written in full with at least one
decimal, otherwise with an exponent. -/
def toText (x : Binary64) : String :=
  let d := x.shortest
  let text := toString d.digits
  let count := text.length
  let point : Int := count + d.exponent
  let zeros (n : Int) : String := "".pushn '0' n.toNat
  let insertPoint (place : Nat) : String :=
    (text.take place).toString ++ "." ++ (text.drop place).toString
  let body :=
    if x.units = 0 then "0.0"
    else if 0 ≤ d.exponent ∧ point ≤ 16 then text ++ zeros d.exponent ++ ".0"
    else if 0 < point ∧ point ≤ 16 then insertPoint point.toNat
    else if -5 < point ∧ point ≤ 0 then "0." ++ zeros (-point) ++ text
    else if count = 1 then text ++ exponentText (point - 1)
    else insertPoint 1 ++ exponentText (point - 1)
  (if x.negative then "-" else "") ++ body

end StatusWatch.Binary64
