import StatusWatch.Proofs.Binary64
import StatusWatch.Proofs.Condition.Spelled

/-!
Comparisons of two fields that hold integers. Integers of 64 signed bits are compared as they are;
with one beyond them, the binary64 values nearest to the two are compared, so that neighbours beyond
53 bits can pass for equal. The verdict is right for all others.
-/

namespace StatusWatch.Condition

open Binary64 (compare_ofInt signed_ofInt_ne)
open Condition.Parser (alone?_of_spelled parse_eq_ok_iff)

def Comparison.Holds : Comparison → Int → Int → Prop
  | .eq, x, y => x = y
  | .ne, x, y => x ≠ y
  | .lt, x, y => x < y
  | .le, x, y => x ≤ y
  | .gt, x, y => y < x
  | .ge, x, y => y ≤ x

instance : (op : Comparison) → (x y : Int) → Decidable (op.Holds x y)
  | .eq, x, y => inferInstanceAs (Decidable (x = y))
  | .ne, x, y => inferInstanceAs (Decidable (x ≠ y))
  | .lt, x, y => inferInstanceAs (Decidable (x < y))
  | .le, x, y => inferInstanceAs (Decidable (x ≤ y))
  | .gt, x, y => inferInstanceAs (Decidable (y < x))
  | .ge, x, y => inferInstanceAs (Decidable (y ≤ x))

theorem Comparison.accepts_compare (op : Comparison) (x y : Int) :
    op.accepts (compare x y) = true ↔ op.Holds x y := by
  rcases lt_trichotomy x y with less | rfl | greater
  · rw [compare_lt_iff_lt.mpr less]
    cases op <;> simp [accepts, Holds, less, less.le, less.ne, less.not_gt, less.not_ge]
  · rw [compare_eq_iff_eq.mpr rfl]
    cases op <;> simp [accepts, Holds]
  · rw [compare_gt_iff_gt.mpr greater]
    cases op <;> simp [accepts, Holds, greater, greater.le, greater.ne', greater.not_gt,
      greater.not_ge]

theorem Comparison.accepts_eq (op : Comparison) (x : Int) :
    op.accepts .eq = true ↔ op.Holds x x := by
  rw [← op.accepts_compare, compare_eq_iff_eq.mpr rfl]

section Numbers

variable {x y : Int}

def Fits64 (i : Int) : Prop :=
  -(Number.signedBound : Int) ≤ i ∧ i < Number.unsignedBound

instance (i : Int) : Decidable (Fits64 i) :=
  inferInstanceAs (Decidable (_ ∧ _))

/-- Whether a comparison tells two integers apart that are apart. -/
def Told (x y : Int) : Prop :=
  IsInt64 x ∧ IsInt64 y ∨ (Binary64.ofInt x).signed ≠ (Binary64.ofInt y).signed

instance (x y : Int) : Decidable (Told x y) :=
  inferInstanceAs (Decidable (_ ∨ _))

theorem compareNumbers_int (x y : Int) : compareNumbers (.int x) (.int y) =
    if IsInt64 x ∧ IsInt64 y then compare x y
    else (Binary64.ofInt x).compare (Binary64.ofInt y) := by
  have toInt64 (i : Int) : (Number.int i).toInt64? = if IsInt64 i then some i else none := rfl
  unfold compareNumbers
  rw [toInt64, toInt64]
  by_cases exact : IsInt64 x ∧ IsInt64 y
  · rw [if_pos exact, if_pos exact.1, if_pos exact.2]
  · rw [if_neg exact]
    rcases not_and_or.mp exact with inexact | inexact
    · rw [if_neg inexact]
      rfl
    · rw [if_neg inexact]
      split <;> trivial

theorem compareNumbers_of_told (h : Told x y) :
    compareNumbers (.int x) (.int y) = compare x y := by
  rw [compareNumbers_int]
  split
  · rfl
  · next inexact => exact compare_ofInt (h.resolve_left inexact)

theorem compareNumbers_of_not_told (h : ¬Told x y) : compareNumbers (.int x) (.int y) = .eq := by
  obtain ⟨inexact, nearest⟩ := not_or.mp h
  rw [compareNumbers_int, if_neg inexact]
  exact compare_eq_iff_eq.mpr (not_not.mp nearest)

theorem Fits64.natAbs_lt (h : Fits64 x) : x.natAbs < 2 ^ 64 := by
  have signed : Number.signedBound = 2 ^ 63 := rfl
  have unsigned : Number.unsignedBound = 2 ^ 64 := rfl
  obtain ⟨low, high⟩ := h
  rw [signed] at low
  rw [unsigned] at high
  omega

theorem told_of_apart (hx : Fits64 x) (hy : Fits64 y) (apart : 2048 < (x - y).natAbs) : Told x y :=
  .inr (signed_ofInt_ne hx.natAbs_lt hy.natAbs_lt apart)

end Numbers

def Predicate.ofFields (a : String) (op : Comparison) (b : String) : Predicate :=
  .compare (.path (.mk .item [.field a])) op (.path (.mk .item [.field b]))

theorem spelled_ofFields {a b : String} {left right : List Char} (ha : IsName a.toList)
    (hb : IsName b.toList) (op : Comparison) (blank : Blank left) (blank' : Blank right) :
    (Predicate.ofFields a op b).Spelled ('@' :: '.' :: a.toList ++
      (left ++ (op.symbol.toList ++ (right ++ '@' :: '.' :: b.toList)))) := by
  have path {name : String} (h : IsName name.toList) :
      (Operand.path (.mk .item [.field name])).Spelled ('@' :: '.' :: name.toList) := by
    have segments := Segment.AllSpelled.cons (.name h) .nil
    rw [List.append_nil, String.ofList_toList] at segments
    exact .path (.item segments)
  have spelled := @Predicate.Spelled.compare _ _ op _ _ _ _ _ _ blank_nil (path ha) blank blank'
    (path hb) blank_nil
  rwa [List.append_nil, List.nil_append] at spelled

section Verdicts

variable {c : Condition} {a b : String} {op : Comparison} {object : Json}

theorem resolve_field {document item value : Json} (h : item.get? a = some value) :
    (Operand.path (.mk .item [.field a])).resolve document item = .ok value := by
  have found : selectField a [item] = .ok [value] := by
    simp only [selectField, List.filterMap_cons, List.filterMap_nil, h]
  simp only [Operand.resolve, Path.eval, evalSegments, Segment.eval, found]
  rfl

theorem evaluate_fields {m n : Number} (spelled : (Predicate.ofFields a op b).Spelled c.text.toList)
    (hm : object.get? a = some (.num m)) (hn : object.get? b = some (.num n)) :
    c.evaluate object = .ok (if op.accepts (compareNumbers m n) then .matched else .notMatched) := by
  have parsed := (parse_eq_ok_iff c.text _).mpr (.inl ⟨_, alone?_of_spelled spelled, rfl⟩)
  refine evaluate_of_test (compile_eq_ok_iff.mpr parsed) ?_
  simp only [Predicate.ofFields, Predicate.test, resolve_field hm, resolve_field hn]
  rfl

/-- A condition that compares two integer fields gives the verdict that the integers have if these
are told apart, or if its comparison is as true of them as of equal ones. All others are taken for
equal; they are 2048 apart at most. -/
theorem evaluate_integers (spelled : (Predicate.ofFields a op b).Spelled c.text.toList) {x y : Int}
    (hx : object.get? a = some (.num (.int x))) (hy : object.get? b = some (.num (.int y)))
    (fits : Fits64 x) (fits' : Fits64 y) :
    (c.evaluate object = .ok (if op.Holds x y then .matched else .notMatched) ↔
        Told x y ∨ (op.Holds x y ↔ op.Holds x x)) ∧
      (¬Told x y → c.evaluate object = .ok (if op.Holds x x then .matched else .notMatched)) ∧
      (2048 < (x - y).natAbs → Told x y) := by
  have evaluated := evaluate_fields spelled hx hy
  have blurred : ¬Told x y →
      c.evaluate object = .ok (if op.Holds x x then .matched else .notMatched) := by
    intro untold
    rw [evaluated, compareNumbers_of_not_told untold]
    simp only [op.accepts_eq x]
  refine ⟨?_, blurred, told_of_apart fits fits'⟩
  by_cases told : Told x y
  · rw [evaluated, compareNumbers_of_told told]
    simp only [op.accepts_compare, told, true_or]
  · rw [blurred told]
    by_cases holds : op.Holds x y <;> by_cases same : op.Holds x x <;>
      simp [holds, same, told]

theorem evaluate_integers_seen :
    let c : Condition := ⟨"@.seen < @.total"⟩
    let x : Int := 9223372036854775807
    let y : Int := 18446744073709551615
    let object : Json := .obj [("seen", .num (.int x)), ("total", .num (.int y))]
    (Predicate.ofFields "seen" .lt "total").Spelled c.text.toList ∧
      object.get? "seen" = some (.num (.int x)) ∧ object.get? "total" = some (.num (.int y)) ∧
      Fits64 x ∧ Fits64 y ∧
      (c.evaluate object = .ok (if Comparison.lt.Holds x y then .matched else .notMatched) ↔
        Told x y ∨ (Comparison.lt.Holds x y ↔ Comparison.lt.Holds x x)) ∧
      (¬Told x y →
        c.evaluate object = .ok (if Comparison.lt.Holds x x then .matched else .notMatched)) ∧
      (2048 < (x - y).natAbs → Told x y) := by
  intro c x y object
  have seen : IsName "seen".toList := ⟨by decide, List.all_eq_true.mp rfl, by decide⟩
  have total : IsName "total".toList := ⟨by decide, List.all_eq_true.mp rfl, by decide⟩
  have one : Blank [' '] := List.all_eq_true.mp rfl
  have spelled : (Predicate.ofFields "seen" .lt "total").Spelled c.text.toList := by
    simpa [c, Comparison.symbol] using spelled_ofFields seen total .lt one one
  have fits : Fits64 x := by decide
  have fits' : Fits64 y := by decide
  exact ⟨spelled, rfl, rfl, fits, fits', evaluate_integers spelled rfl rfl fits fits'⟩

/-- The greatest integer of 64 signed bits passes for equal to its successor. -/
theorem evaluate_neighbours :
    let c : Condition := ⟨"@.x==@.y"⟩
    let x : Int := 9223372036854775807
    let y : Int := 9223372036854775808
    let object : Json := .obj [("x", .num (.int x)), ("y", .num (.int y))]
    Fits64 x ∧ Fits64 y ∧ ¬Comparison.eq.Holds x y ∧ c.evaluate object = .ok .matched := by
  intro c x y object
  have nameX : IsName "x".toList := ⟨by decide, List.all_eq_true.mp rfl, by decide⟩
  have nameY : IsName "y".toList := ⟨by decide, List.all_eq_true.mp rfl, by decide⟩
  have spelled : (Predicate.ofFields "x" .eq "y").Spelled c.text.toList := by
    simpa [c, Comparison.symbol] using spelled_ofFields nameX nameY .eq blank_nil blank_nil
  have untold : ¬Told x y := by decide +kernel
  have evaluated : c.evaluate object = .ok _ :=
    evaluate_fields spelled (m := .int x) (n := .int y) rfl rfl
  rw [compareNumbers_of_not_told untold] at evaluated
  exact ⟨by decide, by decide, by decide, evaluated⟩

end Verdicts

end StatusWatch.Condition
