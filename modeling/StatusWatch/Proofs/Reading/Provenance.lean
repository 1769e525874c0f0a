import StatusWatch.Proofs.Reading
import StatusWatch.Proofs.Snapshot.Fresh

/-!
Which objects a status is computed from. Most statuses come from one object; that of a workload also
comes from the objects found for it, each by the rule of its own kind. Objects count even where a
failure keeps them out of the status.
-/

namespace StatusWatch

namespace Reading

def workloadStatus (object : Json) : Except Error (List ResourceStatus) → ResourceStatus
  | .error e => (ResourceStatus.unknown (Document.idOrBlank object) e).withLive object
  | .ok children =>
    match Readiness.assess object with
    | .error e => (ResourceStatus.unknown (Document.idOrBlank object) e).withLive object
    | .ok own =>
      let s := ResourceStatus.ofAssessment (Document.idOrBlank object) (combine own children)
      { s.withLive object with generated := children }

theorem workload_eq (view : View σ) (child : GroupKind) (readChild : Json → StateM σ ResourceStatus)
    (object : Json) :
    workload view child readChild object =
      generated view child readChild object >>= fun outcome =>
        pure (workloadStatus object outcome) := by
  unfold workload
  refine bind_congr fun outcome => ?_
  cases outcome with
  | error e => rfl
  | ok children =>
    unfold workloadStatus
    cases Readiness.assess object <;> rfl

/-- The status of an owner whose children are each computed, as `Child` says, from an object that is
available. -/
def FromChildren (Available : Json → Prop) (Child : Json → ResourceStatus → Prop) (owner : Json)
    (s : ResourceStatus) : Prop :=
  ∃ outcome, s = workloadStatus owner outcome ∧
    ∀ children, outcome = .ok children → ∀ c ∈ children, ∃ o, Available o ∧ Child o c

def FromPods (available : GroupKind → Json → Prop) : Json → ResourceStatus → Prop :=
  FromChildren (available Workload.pod) fun pod c => c = plain pod

def FromReplicaSets (available : GroupKind → Json → Prop) : Json → ResourceStatus → Prop :=
  FromChildren (available Workload.replicaSet) (FromPods available)

theorem FromChildren.mono {Available Later : Json → Prop}
    {Child Grown : Json → ResourceStatus → Prop} {owner : Json} {s : ResourceStatus}
    (h : FromChildren Available Child owner s) (objects : ∀ o, Available o → Later o)
    (children : ∀ o c, Child o c → Grown o c) : FromChildren Later Grown owner s := by
  obtain ⟨outcome, made, from_⟩ := h
  refine ⟨outcome, made, fun found ok c mem => ?_⟩
  obtain ⟨o, there, computed⟩ := from_ found ok c mem
  exact ⟨o, objects o there, children o c computed⟩

end Reading

namespace ReadingPlan

/-- The status is computed from the object in hand and from objects that are available. -/
def FromObject (plan : ReadingPlan) (available : GroupKind → Json → Prop) (m : Manner)
    (object : Json) (s : ResourceStatus) : Prop :=
  match m with
  | .plain => s = Reading.plain object
  | .deployment => Reading.FromReplicaSets available object s
  | .replicaSet => Reading.FromPods available object s
  | .statefulSet => Reading.FromPods available object s
  | .custom => s = Reading.custom plan.rules plan.overrides object

/-- The status of an identifier is computed from available objects, or says why there is none. -/
def FromAvailable (plan : ReadingPlan) (available : GroupKind → Json → Prop) (id : ObjectId)
    (s : ResourceStatus) : Prop :=
  (∃ e, s = .ofFailure id e) ∨
    ∃ o, available id.groupKind o ∧ plan.FromObject available (plan.manner id.groupKind) o s

variable {plan : ReadingPlan} {available later : GroupKind → Json → Prop} {id : ObjectId}
  {s : ResourceStatus}

theorem FromObject.mono {m : Manner} {object : Json} (h : plan.FromObject available m object s)
    (grown : ∀ gk o, available gk o → later gk o) : plan.FromObject later m object s := by
  have pods : ∀ owner s, Reading.FromPods available owner s → Reading.FromPods later owner s :=
    fun owner s h => Reading.FromChildren.mono h (grown Workload.pod) fun _ _ h => h
  cases m with
  | plain => exact h
  | deployment => exact Reading.FromChildren.mono h (grown Workload.replicaSet) pods
  | replicaSet => exact pods object s h
  | statefulSet => exact pods object s h
  | custom => exact h

theorem FromAvailable.mono (h : plan.FromAvailable available id s)
    (grown : ∀ gk o, available gk o → later gk o) : plan.FromAvailable later id s := by
  rcases h with failed | ⟨o, there, computed⟩
  · exact .inl failed
  · exact .inr ⟨o, grown _ o there, computed.mono grown⟩

end ReadingPlan

inductive ResourceStatus.Shows : ResourceStatus → Json → Prop
  | live {s : ResourceStatus} {o : Json} (here : s.live = some o) : Shows s o
  | generated {s c : ResourceStatus} {o : Json} (child : c ∈ s.generated) (below : Shows c o) :
      Shows s o

theorem Reading.generated_alone (assess : Json → Except Error Assessment) (object : Json) :
    (alone assess object).generated = [] := by
  unfold alone
  split <;> rfl

theorem Reading.generated_byOverride (c : Condition) (object : Json) :
    (byOverride c object).generated = [] := by
  unfold byOverride
  split <;> rfl

namespace ResourceStatus

variable {s : ResourceStatus} {o object : Json}

theorem generated_ofFailure (id : ObjectId) (e : Error) : (ofFailure id e).generated = [] := by
  unfold ofFailure
  split <;> rfl

theorem Shows.eq_live (h : s.Shows o) (childless : s.generated = []) : s.live = some o := by
  cases h with
  | live here => exact here
  | generated child below =>
    rw [childless] at child
    cases child

theorem not_shows_ofFailure (id : ObjectId) (e : Error) : ¬ (ofFailure id e).Shows o := by
  intro shown
  have none : (ofFailure id e).live = none := by
    unfold ofFailure
    split <;> rfl
  have here := shown.eq_live (generated_ofFailure id e)
  rw [none] at here
  cases here

theorem eq_of_shows_alone {assess : Json → Except Error Assessment}
    (h : (Reading.alone assess object).Shows o) : o = object := by
  have here := h.eq_live (Reading.generated_alone assess object)
  unfold Reading.alone at here
  split at here
  · exact (Option.some.inj here).symm
  · cases here

theorem eq_of_shows_custom {rules : Option StatusRules} {overrides : List Override}
    (h : (Reading.custom rules overrides object).Shows o) : o = object := by
  unfold Reading.custom at h
  split at h
  case h_1 c _ =>
    have here := h.eq_live (Reading.generated_byOverride c object)
    unfold Reading.byOverride at here
    split at here
    · exact (Option.some.inj here).symm
    · exact (Option.some.inj here).symm
    · cases here
  case h_2 => exact eq_of_shows_alone h

theorem live_workloadStatus (outcome : Except Error (List ResourceStatus)) :
    (Reading.workloadStatus object outcome).live = some object := by
  unfold Reading.workloadStatus
  split
  · rfl
  · split <;> rfl

theorem id_alone (assess : Json → Except Error Assessment) (object : Json) :
    (Reading.alone assess object).id = Document.idOrBlank object := by
  unfold Reading.alone
  split <;> rfl

theorem id_workloadStatus (outcome : Except Error (List ResourceStatus)) :
    (Reading.workloadStatus object outcome).id = Document.idOrBlank object := by
  unfold Reading.workloadStatus
  split
  · rfl
  · split <;> rfl

theorem exists_of_mem_generated {Available : Json → Prop} {Child : Json → ResourceStatus → Prop}
    (h : Reading.FromChildren Available Child object s) {c : ResourceStatus} (mem : c ∈ s.generated) :
    ∃ child, Available child ∧ Child child c := by
  obtain ⟨outcome, rfl, children⟩ := h
  unfold Reading.workloadStatus at mem
  split at mem
  case h_1 => cases mem
  case h_2 found =>
    split at mem
    · cases mem
    · exact children found rfl c mem

theorem Shows.of_workload {Available : Json → Prop} {Child : Json → ResourceStatus → Prop}
    (shown : s.Shows o) (h : Reading.FromChildren Available Child object s) :
    o = object ∨ ∃ c child, Available child ∧ Child child c ∧ c.Shows o := by
  cases shown with
  | live here =>
    obtain ⟨outcome, rfl, -⟩ := h
    rw [live_workloadStatus] at here
    exact .inl (Option.some.inj here).symm
  | @generated _ c _ mem below =>
    obtain ⟨child, there, computed⟩ := exists_of_mem_generated h mem
    exact .inr ⟨c, child, there, computed, below⟩

end ResourceStatus

namespace ReadingPlan

variable {plan : ReadingPlan} {available : GroupKind → Json → Prop} {s : ResourceStatus} {o : Json}

theorem shown_of_fromPods {owner : Json} (h : Reading.FromPods available owner s)
    (shown : s.Shows o) : o = owner ∨ available Workload.pod o := by
  rcases shown.of_workload h with own | ⟨c, pod, there, rfl, below⟩
  · exact .inl own
  · exact .inr (ResourceStatus.eq_of_shows_alone below ▸ there)

theorem FromAvailable.shown {id : ObjectId} (h : plan.FromAvailable available id s)
    (shown : s.Shows o) : ∃ gk, available gk o := by
  rcases h with ⟨e, rfl⟩ | ⟨object, there, computed⟩
  · exact absurd shown (ResourceStatus.not_shows_ofFailure id e)
  have pods : Reading.FromPods available object s → ∃ gk, available gk o := by
    intro computed
    rcases shown_of_fromPods computed shown with rfl | pod
    · exact ⟨_, there⟩
    · exact ⟨_, pod⟩
  cases manner : plan.manner id.groupKind with
  | plain =>
    rw [manner] at computed
    subst computed
    exact ⟨_, ResourceStatus.eq_of_shows_alone shown ▸ there⟩
  | custom =>
    rw [manner] at computed
    subst computed
    exact ⟨_, ResourceStatus.eq_of_shows_custom shown ▸ there⟩
  | replicaSet =>
    rw [manner] at computed
    exact pods computed
  | statefulSet =>
    rw [manner] at computed
    exact pods computed
  | deployment =>
    rw [manner] at computed
    rcases shown.of_workload computed with rfl | ⟨c, replicaSet, found, below, shown⟩
    · exact ⟨_, there⟩
    rcases shown_of_fromPods below shown with rfl | pod
    · exact ⟨_, found⟩
    · exact ⟨_, pod⟩

end ReadingPlan

section Receipted

variable {cluster : Cluster σ} {view : View (σ × Receipts cluster)} {catalog : Catalog}
  {before : Receipts cluster}

theorem Catalog.Supplied.later {receipts : Receipts cluster} {gk : GroupKind} {o : Json}
    (h : catalog.Supplied (before ++ receipts) gk o) {more : Receipts cluster} (sub : receipts ⊆ more) :
    catalog.Supplied (before ++ more) gk o :=
  h.mono (List.append_subset.mpr
    ⟨List.subset_append_left before more, List.subset_append_of_subset_right before sub⟩)

namespace Reading

section Children

variable {child : GroupKind} {readChild : Json → StateM (σ × Receipts cluster) ResourceStatus}
  {Child : Receipts cluster → Json → ResourceStatus → Prop} (shows : view.ShowsFrom catalog before)
  (grows : ∀ added more, added ⊆ more → ∀ o c, Child added o c → Child more o c)
  (children : ∀ o, Draws (readChild o) fun added c => Child added o c) (owner : Json)

include shows grows children

theorem draws_generated :
    DrawsOk (generated view child readChild owner) fun added found =>
      ∀ c ∈ found, ∃ o, catalog.Supplied (before ++ added) child o ∧ Child added o c := by
  unfold generated
  rcases Selector.ofWorkload owner with e | _ | selector
  · exact DrawsOk.error e _
  · exact DrawsOk.ok nofun
  · refine (shows.list child _ (some selector)).bind fun listed answer supplied => ?_
    cases answer with
    | error e => exact DrawsOk.error e _
    | ok objects =>
      have read : Draws ((objects.filter (owns owner)).mapM readChild) fun added found =>
          ∀ c ∈ found, ∃ o ∈ objects, Child added o c := by
        refine .mapM (fun sub ⟨o, mem, computed⟩ => ⟨o, mem, grows _ _ sub o _ computed⟩) ?_
        intro o mem
        exact (children o).mono fun added c computed => ⟨o, List.mem_of_mem_filter mem, computed⟩
      -- The order of the children is changed afterwards, not the children.
      refine read.bind_pure fun added found from_ sorted ok c mem => ?_
      cases ok
      obtain ⟨o, there, computed⟩ := from_ c (List.mem_mergeSort.mp mem)
      have returned := (supplied objects rfl o there).later (List.subset_append_left listed added)
      exact ⟨o, returned, grows _ _ (List.subset_append_right listed added) o c computed⟩

theorem draws_workload :
    Draws (workload view child readChild owner) fun added s =>
      FromChildren (catalog.Supplied (before ++ added) child) (Child added) owner s := by
  rw [workload_eq]
  exact (draws_generated shows grows children owner).bind_pure fun added outcome found =>
    ⟨outcome, rfl, found⟩

end Children

theorem draws_ofPods (shows : view.ShowsFrom catalog before) (owner : Json) :
    Draws (ofPods view owner) fun added s =>
      FromPods (catalog.Supplied (before ++ added)) owner s :=
  draws_workload shows (fun _ _ _ _ _ computed => computed) (fun _ => .pure rfl) owner

theorem draws_deployment (shows : view.ShowsFrom catalog before) (owner : Json) :
    Draws (deployment view owner) fun added s =>
      FromReplicaSets (catalog.Supplied (before ++ added)) owner s := by
  refine draws_workload shows (fun _ _ sub _ _ computed => ?_) (draws_ofPods shows) owner
  exact computed.mono (fun o supplied => supplied.later sub) fun _ _ same => same

end Reading

theorem ReadingPlan.draws_readObject (plan : ReadingPlan) (shows : view.ShowsFrom catalog before)
    (m : Manner) (object : Json) :
    Draws (plan.readObject view m object) fun added s =>
      plan.FromObject (catalog.Supplied (before ++ added)) m object s := by
  cases m with
  | plain => exact .pure rfl
  | deployment => exact Reading.draws_deployment shows object
  | replicaSet => exact Reading.draws_ofPods shows object
  | statefulSet => exact Reading.draws_ofPods shows object
  | custom => exact .pure rfl

theorem View.ShowsFrom.find (shows : view.ShowsFrom catalog before) (id : ObjectId) :
    DrawsOk (view.find catalog id) fun added o =>
      catalog.Supplied (before ++ added) id.groupKind o := by
  unfold View.find
  cases catalog.resolve id.groupKind none with
  | error e => exact DrawsOk.error e _
  | ok r => exact shows.get id.groupKind id.ns id.name

/-- A status is computed from what was returned before it was read and while it was, or says why
nothing was found. -/
theorem ReadingPlan.draws_read_of (plan : ReadingPlan) (shows : view.ShowsFrom plan.catalog before)
    (id : ObjectId) (F : Error → Prop)
    (faults : ∀ world e, ((view.find plan.catalog id).run world).1 = .error e → F e) :
    Draws (plan.read view id) fun added s =>
      (∃ e, F e ∧ s = .ofFailure id e) ∨
        ∃ o, plan.catalog.Supplied (before ++ added) id.groupKind o ∧
          plan.FromObject (plan.catalog.Supplied (before ++ added)) (plan.manner id.groupKind) o s := by
  have looked := (shows.find id).and (P := fun answer => ∀ e, answer = .error e → F e) faults
  refine looked.bind fun asked answer found => ?_
  cases answer with
  | error e => exact .pure (.inl ⟨e, found.2 e rfl, rfl⟩)
  | ok o =>
    refine (plan.draws_readObject shows _ o).mono fun more s computed => .inr ⟨o, ?_, ?_⟩
    · exact (found.1 o rfl).later (List.subset_append_left asked more)
    · exact computed.mono fun gk child supplied =>
        supplied.later (List.subset_append_right asked more)

theorem ReadingPlan.draws_read (plan : ReadingPlan) (shows : view.ShowsFrom plan.catalog before)
    (id : ObjectId) :
    Draws (plan.read view id) fun added s =>
      plan.FromAvailable (plan.catalog.Supplied (before ++ added)) id s := by
  refine (plan.draws_read_of shows id (fun _ => True) fun _ _ _ => trivial).mono fun added s => ?_
  exact Or.imp_left fun ⟨e, _, failed⟩ => ⟨e, failed⟩

end Receipted

end StatusWatch
