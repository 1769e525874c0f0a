import StatusWatch.Proofs.Reading
import StatusWatch.Proofs.Receipts
import StatusWatch.Proofs.Snapshot.Visits

/-!
Two clusters that answer alike, read side by side. Their views, their passes and the statuses read
from them are alike too. Of a snapshot that a pass replaces, only the count of timeouts matters:
what it holds is not looked at.
-/

namespace StatusWatch

structure Cluster.Alike (R : σ → τ → Prop) (cluster : Cluster σ) (other : Cluster τ) : Prop where
  get : ∀ r ns name, Mirrors R (cluster.get r ns name) (other.get r ns name)
  list : ∀ r ns, Mirrors R (cluster.list r ns) (other.list r ns)

structure View.Alike (R : σ → τ → Prop) (view : View σ) (other : View τ) : Prop where
  get : ∀ gk ns name, Mirrors R (view.get gk ns name) (other.get gk ns name)
  list : ∀ gk ns selector, Mirrors R (view.list gk ns selector) (other.list gk ns selector)

theorem Cluster.receipted_alike (cluster : Cluster σ) :
    Alike (fun world bare => world.1 = bare) cluster.receipted cluster where
  get r ns name := by
    rintro ⟨s, receipts⟩ _ rfl
    exact ⟨rfl, rfl⟩
  list r ns := by
    rintro ⟨s, receipts⟩ _ rfl
    exact ⟨rfl, rfl⟩

section SideBySide

variable {R : σ → τ → Prop} {cluster : Cluster σ} {other : Cluster τ}

theorem View.direct_alike (alike : cluster.Alike R other) (catalog : Catalog) :
    (direct cluster catalog).Alike R (direct other catalog) where
  get gk ns name := by
    simp only [direct]
    cases catalog.resolve gk none with
    | error e => exact .pure _
    | ok r => exact alike.get r _ name
  list gk ns selector := by
    simp only [direct]
    cases catalog.resolve gk none with
    | error e => exact .pure _
    | ok r => exact (alike.list r _).bind fun objects => .pure _

theorem ReadingPlan.mirrors_read {view : View σ} {twin : View τ} (alike : view.Alike R twin)
    (plan : ReadingPlan) (id : ObjectId) : Mirrors R (plan.read view id) (plan.read twin id) := by
  unfold read View.find
  cases plan.catalog.resolve id.groupKind none with
  | error e => exact .pure _
  | ok r =>
    refine (alike.get id.groupKind id.ns id.name).bind fun answer => ?_
    cases answer with
    | error e => exact .pure _
    | ok o => exact plan.mirrors_readObject alike.list _ o

namespace Snapshot

theorem view_alike (alike : cluster.Alike R other) (catalog : Catalog) (s : Snapshot) :
    (s.view cluster catalog).Alike R (s.view other catalog) where
  get gk ns name := by
    simp only [view]
    rcases s.held? (place catalog gk ns) with _ | e | objects
    · exact (View.direct_alike alike catalog).get gk ns name
    · exact .pure _
    · exact .pure _
  list gk ns selector := by
    simp only [view]
    rcases s.held? (place catalog gk ns) with _ | e | objects
    · exact (View.direct_alike alike catalog).list gk ns selector
    · exact .pure _
    · exact .pure _

theorem mirrors_visit (alike : cluster.Alike R other) (catalog : Catalog) (pass : Pass) (p : Place) :
    Mirrors R (visit cluster catalog pass p) (visit other catalog pass p) := by
  rw [visit_eq, visit_eq]
  cases catalog.find? p.groupKind none with
  | none => exact .pure _
  | some r =>
    dsimp only
    split
    · exact .pure _
    · exact (alike.list r _).bind fun answer => .pure _

theorem mirrors_visitAll (alike : cluster.Alike R other) (catalog : Catalog) (places : List Place)
    (pass : Pass) :
    Mirrors R (visitAll cluster catalog pass places) (visitAll other catalog pass places) := by
  induction places generalizing pass with
  | nil => exact .pure _
  | cons p rest ih =>
    refine (mirrors_visit alike catalog pass p).bind fun outcome => ?_
    cases outcome with
    | ok next => exact ih next
    | error failure => exact .pure _

/-- Two passes end alike. Their snapshots are related, and the same if the passes succeed. -/
structure SameOutcome (S : Snapshot → Snapshot → Prop) (a b : Except Error Unit × Snapshot) :
    Prop where
  answer : a.1 = b.1
  related : S a.2 b.2
  taken : a.1 = .ok () → a.2 = b.2

def SameTimeouts (s t : Snapshot) : Prop :=
  s.timeouts = t.timeouts

theorem sync_alike (alike : cluster.Alike R other) (catalog : Catalog) (ids : List ObjectId)
    {s t : Snapshot} (same : s.SameTimeouts t) {world : σ} {twin : τ} (start : R world twin) :
    SameOutcome SameTimeouts ((s.sync cluster catalog ids).run world).1
        ((t.sync other catalog ids).run twin).1 ∧
      R ((s.sync cluster catalog ids).run world).2 ((t.sync other catalog ids).run twin).2 := by
  have visited := mirrors_visitAll alike catalog (placesFor ids) ⟨[], s.timeouts⟩ world twin start
  unfold SameTimeouts at same
  -- Both passes start from nothing but the timeouts, and these are the same.
  rw [sync_eq, sync_eq, ← same]
  simp only [StateT.run_bind, StateT.run_pure]
  generalize (visitAll cluster catalog _ _).run world = here at visited ⊢
  generalize (visitAll other catalog _ _).run twin = there at visited ⊢
  obtain ⟨outcome, world⟩ := here
  obtain ⟨outcome', twin⟩ := there
  obtain ⟨rfl, related⟩ := visited
  refine ⟨?_, related⟩
  cases outcome with
  | ok pass => exact ⟨rfl, rfl, fun _ => rfl⟩
  | error failure => exact ⟨rfl, rfl, fun ok => by cases ok⟩

/-- A pass that fails changes nothing but the count of timeouts. -/
theorem holdings_sync {s : Snapshot} {ids : List ObjectId} {catalog : Catalog} {world : σ} {e : Error}
    (failed : ((s.sync cluster catalog ids).run world).1.1 = .error e) :
    ((s.sync cluster catalog ids).run world).1.2.holdings = s.holdings := by
  rw [sync_eq] at failed ⊢
  simp only [StateT.run_bind, StateT.run_pure] at failed ⊢
  generalize (visitAll cluster catalog _ _).run world = here at failed ⊢
  obtain ⟨outcome, world⟩ := here
  cases outcome with
  | ok pass => cases failed
  | error failure => rfl

end Snapshot

end SideBySide

end StatusWatch
