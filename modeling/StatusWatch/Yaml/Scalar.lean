import StatusWatch.Binary64.Decimal

/-!
What a plain scalar of YAML denotes: null, a boolean, a number or just its text. Integers may be
written in base 2, 8, 10 or 16; digits behind a leading zero are text.
-/

namespace StatusWatch.Yaml

inductive Scalar where
  | null
  | bool (value : Bool)
  | int (value : Int)
  | double (value : Binary64)
  | infinity (negative : Bool)
  /-- The number that is none. -/
  | nan
  /-- Anything else: its own text. -/
  | word
  deriving DecidableEq, Repr

namespace Scalar

def isNull (text : String) : Bool :=
  text ∈ ["null", "Null", "NULL", "~"]

def bool? (text : String) : Option Bool :=
  if text ∈ ["true", "True", "TRUE"] then some true
  else if text ∈ ["false", "False", "FALSE"] then some false
  else none

def digit? (base : Nat) (c : Char) : Option Nat :=
  let value :=
    if c.isDigit then c.toNat - '0'.toNat
    else if 'a' ≤ c ∧ c ≤ 'z' then c.toNat - 'a'.toNat + 10
    else if 'A' ≤ c ∧ c ≤ 'Z' then c.toNat - 'A'.toNat + 10
    else base
  if value < base then some value else none

def digits? (base : Nat) : List Char → Option Nat
  | [] => none
  | cs => cs.foldlM (fun n c => (digit? base c).map (n * base + ·)) 0

def based? : List Char → Option Nat
  | '0' :: 'x' :: digits => digits? 16 digits
  | '0' :: 'o' :: digits => digits? 8 digits
  | '0' :: 'b' :: digits => digits? 2 digits
  | _ => none

def unsigned : List Char → List Char
  | '-' :: rest => rest
  | '+' :: rest => rest
  | text => text

def hasLeadingZero (text : List Char) : Bool :=
  match unsigned text with
  | '0' :: c :: rest => (c :: rest).all Char.isDigit
  | _ => false

def int? (text : List Char) : Option Int :=
  let magnitude (cs : List Char) : Option Nat :=
    (based? cs).or (if hasLeadingZero cs then none else digits? 10 cs)
  match text with
  | '-' :: rest =>
    ((magnitude rest).filter (· ≤ Nat.pow 2 127)).map fun n => -(n : Int)
  | '+' :: rest => ((magnitude rest).filter (· < Nat.pow 2 128)).map Int.ofNat
  | rest => ((magnitude rest).filter (· < Nat.pow 2 128)).map Int.ofNat

/-- The words for what is not finite. -/
def notFinite? (text : String) : Option Scalar :=
  if text ∈ [".inf", ".Inf", ".INF", "+.inf", "+.Inf", "+.INF"] then some (.infinity false)
  else if text ∈ ["-.inf", "-.Inf", "-.INF"] then some (.infinity true)
  else if text ∈ [".nan", ".NaN", ".NAN"] then some .nan
  else none

def startsWithSign : List Char → Bool
  | '-' :: _ => true
  | '+' :: _ => true
  | _ => false

def double? (text : List Char) : Option Binary64 :=
  match text with
  | '+' :: rest => if startsWithSign rest then none else Binary64.ofText? rest
  | _ => Binary64.ofText? text

def float? (text : String) : Option Scalar :=
  (notFinite? text).or ((double? text.toList).map .double)

def ofPlain (text : String) : Scalar :=
  if text = "" ∨ isNull text then .null
  else
    match bool? text, int? text.toList with
    | some b, _ => .bool b
    | none, some i => .int i
    | none, none =>
      if hasLeadingZero text.toList then .word else (float? text).getD .word

def standardTags : String := "tag:yaml.org,2002:"

/-- What a scalar with a tag denotes; four of the standard tags read the text as theirs. -/
def ofTag? (tag text : String) : Option Scalar :=
  if tag = standardTags ++ "bool" then (bool? text).map .bool
  else if tag = standardTags ++ "int" then (int? text.toList).map .int
  else if tag = standardTags ++ "float" then float? text
  else if tag = standardTags ++ "null" then if isNull text then some .null else none
  else some .word

/-- Integers of more than 64 bits are read but have no value. -/
def hasValue : Scalar → Bool
  | .int i => -(Nat.pow 2 63 : Int) ≤ i && i < Nat.pow 2 64
  | _ => true

def of? (tag : Option String) (text : String) (plain : Bool) : Option Scalar :=
  let scalar :=
    match tag with
    | some tag => ofTag? tag text
    | none => some (if plain then ofPlain text else .word)
  scalar.filter hasValue

example : ofPlain "017" = .word ∧ ofPlain "-0" = .int 0 ∧ ofPlain "0x1F" = .int 31 ∧
    ofPlain "1_000" = .word ∧ ofPlain "yes" = .word ∧ ofPlain "~" = .null := by
  decide +kernel

end Scalar

end StatusWatch.Yaml
