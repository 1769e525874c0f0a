import StatusWatch.Text.Blank

/-!
Spans of time and their written form: numbers with units, such as `1h 30m`. Months and years have
their mean length. A number may have a fraction if it comes to whole nanoseconds, or from an hour
up to whole seconds.
-/

namespace StatusWatch

structure Duration where
  seconds : Nat
  /-- Less than a second. -/
  nanoseconds : Nat
  deriving DecidableEq, Repr, Inhabited

namespace Duration

def zero : Duration := ⟨0, 0⟩

def ofSeconds (n : Nat) : Duration := ⟨n, 0⟩

def perSecond : Nat := 1000000000

def toNanoseconds (d : Duration) : Nat :=
  d.seconds * perSecond + d.nanoseconds

def bound : Nat := Nat.pow 2 64

def bounded? (n : Nat) : Option Nat :=
  if n < bound then some n else none

/-- What a number counts: nanoseconds, so many to the unit, or whole seconds. -/
inductive Scale where
  | fine (nanoseconds : Nat)
  | coarse (seconds : Nat)
  deriving DecidableEq, Repr

def units : List (List String × Scale) := [
  (["nanos", "nsec", "ns"], .fine 1),
  (["usec", "us", "\u00b5s"], .fine 1000),
  (["millis", "msec", "ms"], .fine 1000000),
  (["seconds", "second", "secs", "sec", "s"], .coarse 1),
  (["minutes", "minute", "mins", "min", "m"], .coarse 60),
  (["hours", "hour", "hrs", "hr", "h"], .coarse 3600),
  (["days", "day", "d"], .coarse 86400),
  (["weeks", "week", "wks", "wk", "w"], .coarse 604800),
  (["months", "month", "M"], .coarse 2630016),
  (["years", "year", "yrs", "yr", "y"], .coarse 31557600)]

def scale? (name : String) : Option Scale :=
  (units.find? fun unit => name ∈ unit.1).map Prod.snd

def plus? (d : Duration) (seconds nanoseconds : Nat) : Option Duration := do
  let nanos ← bounded? (d.nanoseconds + nanoseconds)
  let total ← bounded? (d.seconds + seconds + nanos / perSecond)
  some ⟨total, nanos % perSecond⟩

structure Fraction where
  digits : Nat
  /-- The power of ten that divides the digits. -/
  divisor : Nat

def addWhole? (d : Duration) (n : Nat) : Scale → Option Duration
  | .fine per => do d.plus? 0 (← bounded? (n * per))
  | .coarse per => do d.plus? (← bounded? (n * per)) 0

def Fraction.of? (f : Fraction) (count : Nat) : Option Nat := do
  let total ← bounded? (f.digits * count)
  if total % f.divisor = 0 then some (total / f.divisor) else none

/-- Adds a fraction of a unit. A nanosecond has none, and an hour and longer units are divided
into seconds only. -/
def addFraction? (d : Duration) (f : Fraction) : Scale → Option Duration
  | .fine per => if per = 1 then none else do d.plus? 0 (← f.of? per)
  | .coarse per =>
    if per < 3600 then do d.plus? 0 (← f.of? (per * perSecond))
    else do d.plus? (← f.of? per) 0

def isUnitLetter (c : Char) : Bool :=
  c.isAlpha || c = '\u00b5'

def digitValue (c : Char) : Nat :=
  c.toNat - '0'.toNat

def spanDigits (text : List Char) : List Char × List Char :=
  let inside (c : Char) : Bool := c.isDigit || Text.isBlank c
  ((text.takeWhile inside).filter Char.isDigit, text.dropWhile inside)

def number? (digits : List Char) : Option Nat :=
  digits.foldlM (fun n c => bounded? (n * 10 + digitValue c)) 0

def fraction? (digits : List Char) : Option Fraction := do
  if digits = [] then none
  let value ← number? digits
  let divisor ← bounded? (Nat.pow 10 digits.length)
  some ⟨value, divisor⟩

def addItem? (d : Duration) (whole : Nat) (fraction : Option Fraction) (name : String) :
    Option Duration := do
  let scale ← scale? name
  let d ← d.addWhole? whole scale
  match fraction with
  | none => some d
  | some f => d.addFraction? f scale

/-- Adds the numbers with their units that the text holds; it begins with a digit if anything but
blanks is left. -/
def addAll? (d : Duration) : Nat → List Char → Option Duration
  | 0, _ => none
  | fuel + 1, text => do
    let text := Text.skipBlanks text
    if text = [] then return d
    if !text.head?.any Char.isDigit then none
    let (digits, rest) := spanDigits text
    let whole ← number? digits
    let (fraction, rest) ←
      match rest with
      | '.' :: rest => do
        let (digits, rest) := spanDigits rest
        let f ← fraction? digits
        some (some f, rest)
      | rest => some (none, rest)
    let name := rest.takeWhile isUnitLetter
    let rest := rest.dropWhile isUnitLetter
    if !rest.head?.all fun c => c.isDigit || Text.isBlank c then none
    let d ← d.addItem? whole fraction (String.ofList name)
    addAll? d fuel rest

/-- A zero needs no unit. -/
def parse? (text : String) : Option Duration :=
  if text = "0" then some zero
  else
    let cs := text.toList
    if Text.isBlankText text then none else addAll? zero (cs.length + 1) cs

def item (count : Nat) (unit : String) : List String :=
  if count = 0 then [] else [toString count ++ unit]

def longItem (count : Nat) (unit : String) : List String :=
  item count (if count = 1 then unit else unit ++ "s")

def items (d : Duration) : List String :=
  let ofYear := d.seconds % 31557600
  let ofMonth := ofYear % 2630016
  let ofDay := ofMonth % 86400
  longItem (d.seconds / 31557600) "year" ++ longItem (ofYear / 2630016) "month" ++
    longItem (ofMonth / 86400) "day" ++ item (ofDay / 3600) "h" ++ item (ofDay % 3600 / 60) "m" ++
    item (ofDay % 60) "s" ++ item (d.nanoseconds / 1000000) "ms" ++
    item (d.nanoseconds / 1000 % 1000) "us" ++ item (d.nanoseconds % 1000) "ns"

def toText (d : Duration) : String :=
  if d = zero then "0s" else " ".intercalate d.items

example : parse? "1.5h 0.0001m" = some ⟨5400, 6000000⟩ ∧ parse? "0.00001h" = none := by
  decide +kernel

example : toText ⟨90, 500000000⟩ = "1m 30s 500ms" ∧ toText ⟨2630016 * 2, 1⟩ = "2months 1ns" := by
  decide +kernel

end Duration

end StatusWatch
