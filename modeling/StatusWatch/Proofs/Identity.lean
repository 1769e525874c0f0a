import StatusWatch.Identity

/-!
The order of identifiers: by group, kind, name and namespace it is a total order, so identifiers that
come in order come in one order.
-/

namespace StatusWatch

theorem GroupKind.eq_of_compare {a b : GroupKind} (h : a.compare b = .eq) : a = b := by
  obtain ⟨group, kind⟩ := Ordering.then_eq_eq.mp h
  cases a
  cases b
  exact congr (congrArg mk (Std.LawfulEqOrd.eq_of_compare group))
    (Std.LawfulEqOrd.eq_of_compare kind)

theorem ObjectId.eq_of_compare {a b : ObjectId} (h : a.compare b = .eq) : a = b := by
  obtain ⟨h, ns⟩ := Ordering.then_eq_eq.mp h
  obtain ⟨groupKind, name⟩ := Ordering.then_eq_eq.mp h
  cases a
  cases b
  exact congr (congr (congrArg mk (GroupKind.eq_of_compare groupKind))
    (Std.LawfulEqOrd.eq_of_compare name)) (Std.LawfulEqOrd.eq_of_compare ns)

namespace ObjectId

instance : Std.TransCmp compare :=
  let group (id : ObjectId) := id.groupKind.group
  let kind (id : ObjectId) := id.groupKind.kind
  inferInstanceAs (Std.TransCmp (compareLex (compareLex
    (compareLex (compareOn group) (compareOn kind)) (compareOn name)) (compareOn ns)))

theorem compare_swap (a b : ObjectId) : b.compare a = (a.compare b).swap :=
  Std.OrientedCmp.eq_swap

variable {a b c : ObjectId}

theorem le_trans (hab : a.le b = true) (hbc : b.le c = true) : a.le c = true :=
  Std.TransCmp.isLE_trans hab hbc

theorem le_total (a b : ObjectId) : (a.le b || b.le a) = true := by
  unfold le
  rw [compare_swap a b]
  cases a.compare b <;> rfl

theorem compare_eq_lt_of_le (h : a.le b = true) (apart : a ≠ b) : a.compare b = .lt := by
  unfold le at h
  cases order : a.compare b with
  | lt => rfl
  | eq => exact absurd (eq_of_compare order) apart
  | gt =>
    rw [order] at h
    cases h

theorem eq_of_le_of_le (hab : a.le b = true) (hba : b.le a = true) : a = b := by
  by_cases same : a = b
  · exact same
  · have before := compare_eq_lt_of_le hab same
    have behind := compare_eq_lt_of_le hba (Ne.symm same)
    rw [compare_swap, before] at behind
    cases behind

end ObjectId

end StatusWatch
