import Mathlib.Data.List.Basic

/-!
Computations whose result is known in advance: from every state that satisfies `I` the result is
the same, and `I` holds again behind it.
-/

namespace StatusWatch

variable {I : σ → Prop}

def Yields (I : σ → Prop) (m : StateM σ α) (a : α) : Prop :=
  ∀ s, I s → (m.run s).1 = a ∧ I (m.run s).2

theorem run_bind_fst {m : StateM σ α} {a : α} {s : σ} (f : α → StateM σ β) (h : (m.run s).1 = a) :
    ((m >>= f).run s).1 = ((f a).run (m.run s).2).1 := by
  subst h
  rfl

namespace Yields

theorem pure (a : α) : Yields I (Pure.pure a) a := fun _ h => ⟨rfl, h⟩

theorem bind {m : StateM σ α} {f : α → StateM σ β} {a : α} {b : β} (h : Yields I m a)
    (hf : Yields I (f a) b) : Yields I (m >>= f) b := by
  intro s hs
  obtain ⟨ha, ht⟩ := h s hs
  rw [StateT.run_bind]
  change ((f (m.run s).1).run (m.run s).2).1 = b ∧ I ((f (m.run s).1).run (m.run s).2).2
  rw [ha]
  exact hf _ ht

theorem map {m : StateM σ α} {a : α} (h : Yields I m a) (f : α → β) : Yields I (f <$> m) (f a) :=
  fun s hs => ⟨congrArg f (h s hs).1, (h s hs).2⟩

theorem mapM {f : α → StateM σ β} {g : α → β} {l : List α} (h : ∀ a ∈ l, Yields I (f a) (g a)) :
    Yields I (l.mapM f) (l.map g) := by
  induction l with
  | nil => exact pure []
  | cons a rest ih =>
    rw [List.mapM_cons]
    have others := ih fun x hx => h x (List.mem_cons_of_mem a hx)
    exact (h a List.mem_cons_self).bind (others.bind (pure _))

theorem filterMapM {f : α → StateM σ (Option β)} {g : α → Option β} {l : List α}
    (h : ∀ a ∈ l, Yields I (f a) (g a)) : Yields I (l.filterMapM f) (l.filterMap g) := by
  induction l with
  | nil => exact pure []
  | cons a rest ih =>
    rw [List.filterMapM_cons, List.filterMap_cons]
    have others := ih fun x hx => h x (List.mem_cons_of_mem a hx)
    refine (h a List.mem_cons_self).bind ?_
    cases g a with
    | none => exact others
    | some b => exact others.bind (pure _)

end Yields

/-- A computation that gives what another one gives, which has no state. -/
abbrev Follows (I : σ → Prop) (m : StateM σ α) (fixed : StateM Unit α) : Prop :=
  Yields I m (fixed.run ()).1

namespace Follows

theorem pure (a : α) : Follows I (Pure.pure a) (Pure.pure a) := Yields.pure a

theorem bind {m : StateM σ α} {fixed : StateM Unit α} {f : α → StateM σ β}
    {g : α → StateM Unit β} (h : Follows I m fixed) (hf : ∀ a, Follows I (f a) (g a)) :
    Follows I (m >>= f) (fixed >>= g) :=
  Yields.bind h (hf _)

end Follows

end StatusWatch
