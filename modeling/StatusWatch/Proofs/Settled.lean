import StatusWatch.Cluster.Scripted
import StatusWatch.Proofs.Yields
import StatusWatch.Snapshot

/-!
Clusters that neither change nor fail, and views of them. Such a cluster holds a list of objects for
each collection and namespace; a view serves them if it answers by the catalog from these lists.
Only the wording of a not-found error is left open.
-/

namespace StatusWatch

abbrev Holdings := Resource → Option String → List Json

/-- An answer that gives the first object of a name, or says that there is none. -/
def Finds (name : String) (objects : List Json) (answer : Except Error Json) : Prop :=
  match objects.find? fun o => Document.name? o = some name with
  | some o => answer = .ok o
  | none => ∃ e : Error, answer = .error e ∧ e.isNotFound = true

theorem finds_named (gk : GroupKind) (name : String) (objects : List Json) :
    Finds name objects (Snapshot.named gk name objects) := by
  unfold Finds Snapshot.named
  cases objects.find? fun o => Document.name? o = some name with
  | some o => rfl
  | none => exact ⟨_, rfl, rfl⟩

theorem Finds.agree {name : String} {objects : List Json} {a b : Except Error Json}
    (ha : Finds name objects a) (hb : Finds name objects b) :
    (∃ o, a = .ok o ∧ b = .ok o) ∨
      ∃ e f : Error, a = .error e ∧ b = .error f ∧ e.isNotFound = true ∧ f.isNotFound = true := by
  unfold Finds at ha hb
  cases found : objects.find? fun o => Document.name? o = some name with
  | some o =>
    rw [found] at ha hb
    exact .inl ⟨o, ha, hb⟩
  | none =>
    rw [found] at ha hb
    obtain ⟨e, rfl, he⟩ := ha
    obtain ⟨f, rfl, hf⟩ := hb
    exact .inr ⟨e, f, rfl, rfl, he, hf⟩

theorem Finds.follows_bind {I : σ → Prop} {name : String} {objects : List Json}
    {m : StateM σ (Except Error Json)} {fixed : StateM Unit (Except Error Json)}
    {f : Except Error Json → StateM σ α} {g : Except Error Json → StateM Unit α}
    (left : ∀ world, I world → Finds name objects (m.run world).1 ∧ I (m.run world).2)
    (right : Finds name objects (fixed.run ()).1) (found : ∀ o, Follows I (f (.ok o)) (g (.ok o)))
    (absent : ∀ d e : Error, d.isNotFound = true → e.isNotFound = true →
      Follows I (f (.error d)) (g (.error e))) :
    Follows I (m >>= f) (fixed >>= g) := by
  intro world start
  obtain ⟨answer, kept⟩ := left world start
  simp only [StateT.run_bind]
  generalize m.run world = here at answer kept ⊢
  generalize fixed.run () = there at right ⊢
  obtain ⟨first, world⟩ := here
  obtain ⟨second, ⟨⟩⟩ := there
  rcases answer.agree right with ⟨o, rfl, rfl⟩ | ⟨d, e, rfl, rfl, hd, he⟩
  · exact found o world kept
  · exact absent d e hd he world kept

/-- In the states of `I`, which reads do not leave, the cluster holds the same objects. -/
structure Cluster.Settled (cluster : Cluster σ) (I : σ → Prop) (held : Holdings) : Prop where
  list : ∀ r ns, Yields I (cluster.list r ns) (.ok (held r ns))
  get : ∀ r ns name world, I world →
    Finds name (held r ns) ((cluster.get r ns name).run world).1 ∧
      I ((cluster.get r ns name).run world).2

/-- A view that answers for a kind from what its default version holds. -/
structure View.Serves (view : View σ) (I : σ → Prop) (catalog : Catalog) (held : Holdings) :
    Prop where
  list : ∀ gk ns selector, Yields I (view.list gk ns selector)
    ((catalog.resolve gk none).map fun r => pick selector (held r (r.namespaceFor ns)))
  get : ∀ gk r ns name world, catalog.resolve gk none = .ok r → I world →
    Finds name (held r (r.namespaceFor ns)) ((view.get gk ns name).run world).1 ∧
      I ((view.get gk ns name).run world).2

def Cluster.fixed (held : Holdings) : Cluster Unit where
  get r ns name := pure (Snapshot.named r.groupKind name (held r ns))
  list r ns := pure (.ok (held r ns))

theorem Cluster.fixed_settled (held : Holdings) : (fixed held).Settled (fun _ => True) held where
  list _ _ := .pure _
  get r ns name _ _ := ⟨finds_named r.groupKind name (held r ns), trivial⟩

namespace View

variable {cluster : Cluster σ} {I : σ → Prop} {held : Holdings}

theorem direct_serves (settled : cluster.Settled I held) (catalog : Catalog) :
    (direct cluster catalog).Serves I catalog held where
  list gk ns selector := by
    simp only [direct]
    cases catalog.resolve gk none with
    | error e => exact .pure _
    | ok r => exact (settled.list r _).bind (.pure _)
  get gk r ns name world resolved start := by
    simp only [direct, resolved]
    exact settled.get r _ name world start

abbrev fixed (catalog : Catalog) (held : Holdings) : View Unit :=
  direct (.fixed held) catalog

theorem fixed_serves (catalog : Catalog) (held : Holdings) :
    (fixed catalog held).Serves (fun _ => True) catalog held :=
  direct_serves (Cluster.fixed_settled held) catalog

end View

theorem Scripted.settled (objects : List Json) :
    Cluster.scripted.Settled (· = ⟨objects, [], []⟩) (Scripted.collection ⟨objects, [], []⟩) where
  list r ns world start := by
    subst start
    exact ⟨rfl, rfl⟩
  get r ns name world start := by
    subst start
    simp only [Cluster.scripted, takeFailure, StateT.run, Finds, beq_eq_decide]
    cases (collection ⟨objects, [], []⟩ r ns).find? fun o => Document.name? o = some name with
    | some o => exact ⟨rfl, rfl⟩
    | none => exact ⟨⟨_, rfl, rfl⟩, rfl⟩

end StatusWatch
