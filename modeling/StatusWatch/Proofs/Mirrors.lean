import StatusWatch.Proofs.Yields

/-!
Two computations side by side: from related states they give the same result, and leave related
states. A computation with a settled result is the case of a partner without state.
-/

namespace StatusWatch

def Mirrors (R : σ → τ → Prop) (m : StateM σ α) (m' : StateM τ α) : Prop :=
  ∀ s t, R s t → (m.run s).1 = (m'.run t).1 ∧ R (m.run s).2 (m'.run t).2

namespace Mirrors

variable {R : σ → τ → Prop}

theorem pure (a : α) : Mirrors R (Pure.pure a) (Pure.pure a) := fun _ _ h => ⟨rfl, h⟩

theorem bind {m : StateM σ α} {m' : StateM τ α} {f : α → StateM σ β} {f' : α → StateM τ β}
    (h : Mirrors R m m') (hf : ∀ a, Mirrors R (f a) (f' a)) : Mirrors R (m >>= f) (m' >>= f') := by
  intro s t related
  obtain ⟨same, related⟩ := h s t related
  rw [StateT.run_bind, StateT.run_bind]
  change ((f (m.run s).1).run (m.run s).2).1 = ((f' (m'.run t).1).run (m'.run t).2).1 ∧
    R ((f (m.run s).1).run (m.run s).2).2 ((f' (m'.run t).1).run (m'.run t).2).2
  rw [← same]
  exact hf _ _ _ related

theorem mapM {f : α → StateM σ β} {f' : α → StateM τ β} (h : ∀ a, Mirrors R (f a) (f' a))
    (l : List α) : Mirrors R (l.mapM f) (l.mapM f') := by
  induction l with
  | nil => exact pure []
  | cons a rest ih =>
    rw [List.mapM_cons, List.mapM_cons]
    exact (h a).bind fun b => ih.bind fun others => pure (b :: others)

theorem follows {I : σ → Prop} {m : StateM σ α} {fixed : StateM Unit α}
    (h : Mirrors (fun s _ => I s) m fixed) : Follows I m fixed :=
  fun s start => h s () start

end Mirrors

theorem Follows.mirrors {I : σ → Prop} {m : StateM σ α} {fixed : StateM Unit α}
    (h : Follows I m fixed) : Mirrors (fun s _ => I s) m fixed :=
  fun s _ start => h s start

end StatusWatch
