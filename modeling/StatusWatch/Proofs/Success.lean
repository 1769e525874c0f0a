import Mathlib.Data.List.Forall2

/-!
Computations that can fail, by their successes. A list is gone through up to the first member that
fails.
-/

namespace StatusWatch

@[simp]
theorem ok_bind (a : α) (f : α → Except ε β) : Except.ok a >>= f = f a := rfl

@[simp]
theorem error_bind (e : ε) (f : α → Except ε β) : Except.error e >>= f = .error e := rfl

theorem bind_eq_ok {x : Except ε α} {f : α → Except ε β} {b : β} :
    x >>= f = .ok b ↔ ∃ a, x = .ok a ∧ f a = .ok b := by
  cases x <;> simp

theorem map_eq_ok {x : Except ε α} {f : α → β} {b : β} :
    x.map f = .ok b ↔ ∃ a, x = .ok a ∧ f a = b := by
  cases x <;> simp [Except.map]

theorem mapError_eq_ok {x : Except ε α} {f : ε → ε'} {a : α} :
    x.mapError f = .ok a ↔ x = .ok a := by
  cases x <;> simp [Except.mapError]

theorem exists_of_mem_mapM {f : α → Except ε β} {l : List α} {out : List β}
    (h : l.mapM f = .ok out) {b : β} (mem : b ∈ out) : ∃ a ∈ l, f a = .ok b := by
  induction l generalizing out with
  | nil =>
    cases h
    cases mem
  | cons a rest ih =>
    simp only [List.mapM_cons, bind_eq_ok] at h
    obtain ⟨first, here, others, behind, ⟨⟩⟩ := h
    rcases List.mem_cons.mp mem with rfl | later
    · exact ⟨a, List.mem_cons_self, here⟩
    · obtain ⟨c, hc, made⟩ := ih behind later
      exact ⟨c, List.mem_cons_of_mem a hc, made⟩

theorem forall₂_of_mapM_eq_ok {f : α → Except ε β} {l : List α} {out : List β}
    (h : l.mapM f = .ok out) : List.Forall₂ (fun a b => f a = .ok b) l out := by
  induction l generalizing out with
  | nil =>
    cases h
    exact .nil
  | cons a rest ih =>
    simp only [List.mapM_cons, bind_eq_ok] at h
    obtain ⟨first, here, others, behind, ⟨⟩⟩ := h
    exact .cons here (ih behind)

theorem exists_mapM_eq_ok {f : α → Except ε β} {l : List α} :
    (∃ out, l.mapM f = .ok out) ↔ ∀ a ∈ l, ∃ b, f a = .ok b := by
  induction l with
  | nil => exact iff_of_true ⟨[], rfl⟩ nofun
  | cons a rest ih =>
    rw [List.forall_mem_cons, ← ih]
    simp only [List.mapM_cons, bind_eq_ok]
    constructor
    · rintro ⟨-, b, here, others, behind, -⟩
      exact ⟨⟨b, here⟩, others, behind⟩
    · rintro ⟨⟨b, here⟩, others, behind⟩
      exact ⟨b :: others, b, here, others, behind, rfl⟩

theorem mapM_eq_error {f : α → Except ε β} {l : List α} {e : ε} :
    l.mapM f = .error e ↔
      ∃ before a after, l = before ++ a :: after ∧ (∀ b ∈ before, ∃ c, f b = .ok c) ∧
        f a = .error e := by
  induction l with
  | nil =>
    refine iff_of_false nofun ?_
    rintro ⟨before, a, after, split, -⟩
    cases before <;> cases split
  | cons first rest ih =>
    rw [List.mapM_cons]
    cases here : f first with
    | error fault =>
      rw [error_bind, Except.error.injEq]
      constructor
      · rintro rfl
        exact ⟨[], first, rest, rfl, nofun, here⟩
      · rintro ⟨before, a, after, split, fine, failed⟩
        cases before with
        | nil =>
          cases split
          exact Except.error.inj (here.symm.trans failed)
        | cons b earlier =>
          cases split
          obtain ⟨c, ok⟩ := fine first List.mem_cons_self
          cases here.symm.trans ok
    | ok value =>
      have step : (Except.ok value >>= fun b => rest.mapM f >>= fun out => pure (b :: out)) =
          .error e ↔ rest.mapM f = .error e := by
        cases rest.mapM f with
        | error fault => exact Iff.rfl
        | ok out => exact iff_of_false nofun nofun
      rw [step, ih]
      constructor
      · rintro ⟨before, a, after, rfl, fine, failed⟩
        exact ⟨first :: before, a, after, rfl, List.forall_mem_cons.mpr ⟨⟨value, here⟩, fine⟩, failed⟩
      · rintro ⟨before, a, after, split, fine, failed⟩
        cases before with
        | nil =>
          cases split
          cases here.symm.trans failed
        | cons b earlier =>
          cases split
          exact ⟨earlier, a, after, rfl, (List.forall_mem_cons.mp fine).2, failed⟩

end StatusWatch
