import StatusWatch.Proofs.Mirrors
import StatusWatch.Proofs.Settled
import StatusWatch.Reading

/-!
Reading where nothing changes. A status is then a function of the plan, of what the cluster holds,
and of the identifier; every view that serves the cluster gives it.
-/

namespace StatusWatch

variable {view : View σ} {I : σ → Prop} {catalog : Catalog} {held : Holdings}

theorem View.Serves.follows_list (h : view.Serves I catalog held) (gk : GroupKind) (ns : String)
    (selector : Option Selector) :
    Follows I (view.list gk ns selector) ((fixed catalog held).list gk ns selector) := by
  rw [Follows, ((fixed_serves catalog held).list gk ns selector () trivial).1]
  exact h.list gk ns selector

section SideBySide

variable {view : View σ} {other : View τ} {R : σ → τ → Prop}
  (lists : ∀ gk ns selector, Mirrors R (view.list gk ns selector) (other.list gk ns selector))

include lists

namespace Reading

theorem mirrors_generated {child : GroupKind} {readChild : Json → StateM σ ResourceStatus}
    {readOther : Json → StateM τ ResourceStatus}
    (children : ∀ o, Mirrors R (readChild o) (readOther o)) (owner : Json) :
    Mirrors R (generated view child readChild owner) (generated other child readOther owner) := by
  unfold generated
  rcases Selector.ofWorkload owner with e | _ | selector
  · exact .pure _
  · exact .pure _
  · refine (lists child _ (some selector)).bind fun objects => ?_
    cases objects with
    | error e => exact .pure _
    | ok objects => exact (Mirrors.mapM children _).bind fun _ => .pure _

theorem mirrors_workload {child : GroupKind} {readChild : Json → StateM σ ResourceStatus}
    {readOther : Json → StateM τ ResourceStatus}
    (children : ∀ o, Mirrors R (readChild o) (readOther o)) (object : Json) :
    Mirrors R (workload view child readChild object) (workload other child readOther object) := by
  unfold workload
  refine (mirrors_generated lists children object).bind fun found => ?_
  cases found with
  | error e => exact .pure _
  | ok found =>
    cases Readiness.assess object with
    | error e => exact .pure _
    | ok own => exact .pure _

theorem mirrors_ofPods (object : Json) : Mirrors R (ofPods view object) (ofPods other object) :=
  mirrors_workload lists (fun _ => .pure _) object

end Reading

theorem ReadingPlan.mirrors_readObject (plan : ReadingPlan) (m : Manner) (object : Json) :
    Mirrors R (plan.readObject view m object) (plan.readObject other m object) := by
  cases m with
  | plain => exact .pure _
  | deployment => exact Reading.mirrors_workload lists (Reading.mirrors_ofPods lists) object
  | replicaSet => exact Reading.mirrors_ofPods lists object
  | statefulSet => exact Reading.mirrors_ofPods lists object
  | custom => exact .pure _

end SideBySide

theorem ResourceStatus.ofFailure_of_isNotFound (id : ObjectId) {e f : Error}
    (he : e.isNotFound = true) (hf : f.isNotFound = true) :
    ResourceStatus.ofFailure id e = .ofFailure id f := by
  rw [ofFailure, ofFailure, if_pos he, if_pos hf]

namespace ReadingPlan

theorem follows_readObject (h : view.Serves I catalog held) (plan : ReadingPlan) (m : Manner)
    (object : Json) :
    Follows I (plan.readObject view m object)
      (plan.readObject (View.fixed catalog held) m object) :=
  (plan.mirrors_readObject (fun gk ns selector => (h.follows_list gk ns selector).mirrors) m
    object).follows

def statusIn (plan : ReadingPlan) (held : Holdings) (id : ObjectId) : ResourceStatus :=
  ((plan.read (View.fixed plan.catalog held) id).run ()).1

/-- Every view of a settled cluster reads the same. Two views may word an absence differently; the
status does not show it. -/
theorem yields_read (plan : ReadingPlan) (h : view.Serves I plan.catalog held) (id : ObjectId) :
    Yields I (plan.read view id) (plan.statusIn held id) := by
  unfold statusIn read
  cases resolved : plan.catalog.resolve id.groupKind none with
  | error e =>
    simp only [View.find, resolved]
    exact Yields.pure _
  | ok r =>
    have there := (View.fixed_serves plan.catalog held).get id.groupKind r id.ns id.name ()
      resolved trivial
    simp only [View.find, resolved]
    refine Finds.follows_bind (fun world => h.get id.groupKind r id.ns id.name world resolved)
      there.1 (follows_readObject h plan _) fun d e hd he => ?_
    simp only [ResourceStatus.ofFailure_of_isNotFound id hd he]
    exact .pure _

end ReadingPlan

end StatusWatch
