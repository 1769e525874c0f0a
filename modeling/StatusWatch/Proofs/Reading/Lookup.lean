import StatusWatch.Proofs.Catalog
import StatusWatch.Proofs.Reading.Provenance

/-!
Lookups that find no object, by why they fail. With this every status is either computed from an
object that a call returned, or has its reason outside of the rules for statuses.
-/

namespace StatusWatch

/-- Why no object is found for an identifier: the catalog lacks its kind, its name is not among what
is held, or the cluster refuses the request. -/
inductive Cluster.LookupFault (c : Cluster σ) (id : ObjectId) : Error → Prop
  | unmapped : LookupFault c id (.noMapping id.groupKind.toText)
  | absent : LookupFault c id (.notFound id.groupKind.toText id.name)
  | refused {r : Resource} {ns : Option String} {world : σ} {e : Error}
      (kind : r.groupKind = id.groupKind)
      (answer : ((c.get r ns id.name).run world).1 = .error e) : LookupFault c id e

variable {cluster : Cluster σ}

def View.Faults (view : View (σ × Receipts cluster)) (catalog : Catalog) : Prop :=
  ∀ id world e, ((view.find catalog id).run world).1 = .error e → cluster.LookupFault id e

theorem View.faults_of_get {view : View (σ × Receipts cluster)} {catalog : Catalog}
    (get : ∀ id r, catalog.find? id.groupKind none = some r → ∀ world e,
      ((view.get id.groupKind id.ns id.name).run world).1 = .error e → cluster.LookupFault id e) :
    view.Faults catalog := by
  intro id world e failed
  unfold find at failed
  rw [Catalog.resolve] at failed
  cases found : catalog.find? id.groupKind none with
  | none =>
    rw [found] at failed
    cases failed
    exact .unmapped
  | some r =>
    rw [found] at failed
    exact get id r found world e failed

theorem View.fault_of_direct {catalog : Catalog} {id : ObjectId} {r : Resource}
    (found : catalog.find? id.groupKind none = some r) {world : σ × Receipts cluster} {e : Error}
    (failed : (((direct cluster.receipted catalog).get id.groupKind id.ns id.name).run world).1 =
      .error e) : cluster.LookupFault id e := by
  simp only [direct, Catalog.resolve, found] at failed
  exact .refused (Catalog.groupKind_of_default found) failed

theorem View.direct_faults (catalog : Catalog) :
    (direct cluster.receipted catalog).Faults catalog :=
  faults_of_get fun _ _ found _ _ failed => fault_of_direct found failed

theorem Snapshot.view_faults (s : Snapshot) (catalog : Catalog) :
    (s.view cluster.receipted catalog).Faults catalog := by
  refine View.faults_of_get fun id r found world e failed => ?_
  simp only [view] at failed
  split at failed
  case h_1 objects known =>
    change named id.groupKind id.name objects = .error e at failed
    unfold named at failed
    split at failed
    · cases failed
    · cases failed
      exact .absent
  case h_2 fault known =>
    unfold held? at known
    split at known
    · cases known
    · cases known
      cases failed
      rw [place_groupKind]
      exact .unmapped
    · cases known
  case h_3 => exact View.fault_of_direct found failed

/-- The status of an identifier by calls: computed from an object that they returned, or what a
fault of the lookup makes of it. -/
def ReadingPlan.FromLookup (plan : ReadingPlan) (calls : Receipts cluster) (s : ResourceStatus) :
    Prop :=
  (∃ e, cluster.LookupFault s.id e ∧ s = .ofFailure s.id e) ∨
    ∃ o read, plan.catalog.Supplied calls s.id.groupKind o ∧
      plan.FromObject (plan.catalog.Supplied calls) (plan.manner s.id.groupKind) o read ∧
      s = { read with id := s.id }

theorem ReadingPlan.draws_readAs (plan : ReadingPlan) {view : View (σ × Receipts cluster)}
    {before : Receipts cluster} (shows : view.ShowsFrom plan.catalog before)
    (faults : view.Faults plan.catalog) (id : ObjectId) :
    Draws (plan.read view id >>= fun status => pure { status with id }) fun added s =>
      plan.FromLookup (before ++ added) s := by
  refine (plan.draws_read_of shows id (cluster.LookupFault id) (faults id)).bind_pure ?_
  rintro added read (⟨e, fault, rfl⟩ | ⟨o, supplied, computed⟩)
  · refine .inl ⟨e, fault, ?_⟩
    unfold ResourceStatus.ofFailure
    split <;> rfl
  · exact .inr ⟨o, read, supplied, computed, rfl⟩

end StatusWatch
