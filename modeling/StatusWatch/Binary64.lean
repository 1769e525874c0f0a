/-!
Finite binary64 values, held exactly as signed multiples of the smallest positive one.
Order is the order of integers, and every operation is one exact quotient rounded to
53 significant bits, so nothing here depends on the machine's own arithmetic.
-/

namespace StatusWatch

/-- The value `± units * 2 ^ (-1074)`. Both zeros are kept apart. -/
structure Binary64 where
  negative : Bool
  units : Nat
  deriving DecidableEq, Repr

namespace Binary64

def unitsPerOne : Nat := Nat.pow 2 1074

/-- The first magnitude, in units, that is no longer finite. -/
def unitsLimit : Nat := Nat.pow 2 2098

def signed (x : Binary64) : Int :=
  if x.negative then -(x.units : Int) else x.units

/-- Numeric order; the two zeros are equal. -/
def compare (x y : Binary64) : Ordering :=
  Ord.compare x.signed y.signed

/-- The integer nearest to `num / den`; a tie goes to the even neighbour. -/
def roundDiv (num den : Nat) : Nat :=
  let q := num / den
  let r := num % den
  if den < 2 * r ∨ (2 * r = den ∧ q % 2 = 1) then q + 1 else q

/-- The spacing, in units, of the values that have `n`'s leading bit. -/
def spacing (n : Nat) : Nat :=
  Nat.pow 2 (n.log2 - 52)

/-- The magnitude nearest to `num / den` units that has 53 significant bits. -/
def roundUnits (num den : Nat) : Nat :=
  let step := spacing (num / den)
  roundDiv num (den * step) * step

def ofNat (n : Nat) : Binary64 :=
  ⟨false, roundUnits (n * unitsPerOne) 1⟩

/-- Integers far beyond 64 bits are not asked for, so the result is finite. -/
def ofInt (i : Int) : Binary64 :=
  ⟨decide (i < 0), (ofNat i.natAbs).units⟩

def mul (x y : Binary64) : Binary64 :=
  ⟨x.negative != y.negative, roundUnits (x.units * y.units) unitsPerOne⟩

def div (x y : Binary64) : Binary64 :=
  ⟨x.negative != y.negative, roundUnits (x.units * unitsPerOne) y.units⟩

def neg (x : Binary64) : Binary64 :=
  { x with negative := !x.negative }

/-- A result whose magnitude has left the finite range is refused. -/
def finite? (x : Binary64) : Option Binary64 :=
  if x.units < unitsLimit then some x else none

/-- The value nearest to `digits * 10 ^ exponent`, if that is finite. Exponents so large
or so small that the outcome is plain are decided by counting digits. -/
def ofDecimal? (digits : Nat) (exponent : Int) : Option Binary64 :=
  let magnitude := (Nat.toDigits 10 digits).length + exponent
  if digits = 0 ∨ magnitude < -330 then some ⟨false, 0⟩
  else if 311 < magnitude then none
  else if 0 ≤ exponent then
    finite? ⟨false, roundUnits (digits * Nat.pow 10 exponent.toNat * unitsPerOne) 1⟩
  else
    finite? ⟨false, roundUnits (digits * unitsPerOne) (Nat.pow 10 (-exponent).toNat)⟩

def powerOfTen (k : Nat) : Binary64 :=
  ⟨false, roundUnits (Nat.pow 10 k * unitsPerOne) 1⟩

def divPowerOfTen (x : Binary64) (k : Nat) : Binary64 :=
  if k ≤ 308 then x.div (powerOfTen k)
  else if x.units = 0 then x
  else divPowerOfTen (x.div (powerOfTen 308)) (k - 308)
termination_by k

/-- `significand * 10 ^ exponent` as two rounded steps: the significand, then one product
or quotient by a power of ten. The result may differ from the nearest value in its last bit. -/
def ofScaled? (significand : Nat) (exponent : Int) : Option Binary64 :=
  let start := ofNat significand
  if exponent < 0 then some (start.divPowerOfTen (-exponent).toNat)
  else if exponent ≤ 308 then finite? (start.mul (powerOfTen exponent.toNat))
  else if significand = 0 then some start
  else none

end Binary64

end StatusWatch
