import StatusWatch.Proofs.Keyed
import StatusWatch.Proofs.Receipts
import StatusWatch.Proofs.Snapshot.Faithful
import StatusWatch.Proofs.Snapshot.Visits
import StatusWatch.Proofs.Success

/-!
Where the objects of a snapshot come from. A pass that succeeds leaves a snapshot of what its own
calls returned; one that fails changes no holding. Views answer from the snapshot and from calls
of their own, so they too show nothing that no call returned.
-/

namespace StatusWatch

variable {cluster : Cluster σ}

def Catalog.Supplied (catalog : Catalog) (receipts : Receipts cluster) (gk : GroupKind) (o : Json) : Prop :=
  ∃ r, catalog.find? gk none = some r ∧ receipts.Return r o

theorem Catalog.Supplied.mono {catalog : Catalog} {receipts more : Receipts cluster} {gk : GroupKind}
    {o : Json} (h : catalog.Supplied receipts gk o) (sub : receipts ⊆ more) :
    catalog.Supplied more gk o := by
  obtain ⟨r, found, returned⟩ := h
  exact ⟨r, found, returned.mono sub⟩

theorem mem_of_mem_pick {selector : Option Selector} {objects : List Json} {o : Json}
    (mem : o ∈ pick selector objects) : o ∈ objects := by
  cases selector with
  | none => exact mem
  | some s => exact List.mem_of_mem_filter mem

/-- A view that shows only what calls returned: those of `before`, or its own. -/
structure View.ShowsFrom (view : View (σ × Receipts cluster)) (catalog : Catalog)
    (before : Receipts cluster) : Prop where
  get : ∀ gk ns name, DrawsOk (view.get gk ns name) fun added o =>
    catalog.Supplied (before ++ added) gk o
  list : ∀ gk ns selector, DrawsOk (view.list gk ns selector) fun added objects =>
    ∀ o ∈ objects, catalog.Supplied (before ++ added) gk o

theorem View.direct_showsFrom (catalog : Catalog) (before : Receipts cluster) :
    (direct cluster.receipted catalog).ShowsFrom catalog before where
  get gk ns name := by
    simp only [direct, Catalog.resolve]
    cases found : catalog.find? gk none with
    | none => exact .error _ _
    | some r =>
      refine (cluster.draws_get r _ name).mono fun added answer returned o ok => ?_
      exact ⟨r, found, (returned o ok).mono (List.subset_append_right before added)⟩
  list gk ns selector := by
    simp only [direct, Catalog.resolve]
    cases found : catalog.find? gk none with
    | none => exact .error _ _
    | some r =>
      refine (cluster.draws_list r _).bind_pure fun added answer returned objects ok o mem => ?_
      obtain ⟨all, ok', rfl⟩ := map_eq_ok.mp ok
      have there := returned all ok' o (mem_of_mem_pick mem)
      exact ⟨r, found, there.mono (List.subset_append_right before added)⟩

namespace Snapshot

variable {catalog : Catalog} {before : Receipts cluster} {pass : Pass}

def HeldFrom (catalog : Catalog) (receipts : Receipts cluster)
    (holdings : List (Place × Holding)) : Prop :=
  ∀ p objects, (p, .objects objects) ∈ holdings → ∀ o ∈ objects,
    catalog.Supplied receipts p.groupKind o

theorem HeldFrom.mono {receipts more : Receipts cluster} {holdings : List (Place × Holding)}
    (h : HeldFrom catalog receipts holdings) (sub : receipts ⊆ more) :
    HeldFrom catalog more holdings :=
  fun p objects held o mem => (h p objects held o mem).mono sub

theorem HeldFrom.record_objects (h : HeldFrom catalog before pass.found) (p : Place)
    {objects : List Json} (supplied : ∀ o ∈ objects, catalog.Supplied before p.groupKind o) :
    HeldFrom catalog before (pass.record p (.objects objects)).found := by
  intro p' objects' held o mem
  rcases List.mem_append.mp held with old | new
  · exact h p' objects' old o mem
  · cases List.mem_singleton.mp new
    exact supplied o mem

theorem HeldFrom.record_unmapped (h : HeldFrom catalog before pass.found) (p : Place) :
    HeldFrom catalog before (pass.record p .unmapped).found := by
  intro p' objects' held o mem
  rcases List.mem_append.mp held with old | new
  · exact h p' objects' old o mem
  · cases List.mem_singleton.mp new

theorem HeldFrom.heard (h : HeldFrom catalog before pass.found) {p : Place}
    {answer : Except Error (List Json)}
    (supplied : ∀ objects, answer = .ok objects → ∀ o ∈ objects,
      catalog.Supplied before p.groupKind o)
    {next : Pass} (ok : pass.heard p answer = .ok next) : HeldFrom catalog before next.found := by
  unfold Pass.heard at ok
  cases answer with
  | ok objects =>
    cases ok
    exact h.record_objects p (supplied objects rfl)
  | error e =>
    dsimp only at ok
    split at ok
    · cases ok
      exact h.record_objects p nofun
    split at ok
    · split at ok
      · cases ok
      · cases ok
        exact h
    · cases ok

theorem draws_visit (h : HeldFrom catalog before pass.found) (named : Place) :
    DrawsOk (visit cluster.receipted catalog pass named) fun added next =>
      HeldFrom catalog (before ++ added) next.found := by
  rw [visit_eq]
  cases found : catalog.find? named.groupKind none with
  | none =>
    refine .ok ?_
    rw [List.append_nil]
    exact h.record_unmapped named
  | some r =>
    dsimp only
    split
    · refine .ok ?_
      rwa [List.append_nil]
    · refine (cluster.draws_list r _).bind_pure fun added answer returned next ok => ?_
      have kept : HeldFrom catalog (before ++ added) pass.found :=
        h.mono (List.subset_append_left before added)
      refine kept.heard (fun objects same o mem => ?_) ok
      refine ⟨r, found, ?_⟩
      exact (returned objects same o mem).mono (List.subset_append_right before added)

theorem draws_visitAll (places : List Place) (h : HeldFrom catalog before pass.found) :
    DrawsOk (visitAll cluster.receipted catalog pass places) fun added last =>
      HeldFrom catalog (before ++ added) last.found := by
  induction places generalizing before pass with
  | nil =>
    refine .ok ?_
    rwa [List.append_nil]
  | cons p rest ih =>
    refine (draws_visit h p).bind fun added outcome visited => ?_
    cases outcome with
    | error failure => exact DrawsOk.error failure _
    | ok next =>
      refine (ih (visited next rfl)).mono fun more outcome held last ok => ?_
      have later : HeldFrom catalog (before ++ added ++ more) last.found := held last ok
      rwa [List.append_assoc] at later

theorem draws_sync (s : Snapshot) (ids : List ObjectId) :
    Draws (s.sync cluster.receipted catalog ids) fun added outcome =>
      outcome.1 = .ok () → HeldFrom catalog added outcome.2.holdings := by
  have start : HeldFrom catalog ([] : Receipts cluster) (⟨[], s.timeouts⟩ : Pass).found := nofun
  rw [sync_eq]
  refine (draws_visitAll (placesFor ids) start).bind_pure fun added outcome visited ok => ?_
  cases outcome with
  | error failure => cases ok
  | ok last => exact visited last rfl

theorem HeldFrom.supplied {s : Snapshot} (h : HeldFrom catalog before s.holdings) {gk : GroupKind}
    {ns : String} {objects : List Json} (known : s.held? (place catalog gk ns) = some (.ok objects))
    {o : Json} (mem : o ∈ objects) : catalog.Supplied before gk o := by
  unfold held? at known
  split at known
  case h_1 found looked =>
    cases known
    have held := h _ objects (mem_of_lookup_eq_some looked) o mem
    rwa [place_groupKind] at held
  case h_2 => cases known
  case h_3 => cases known

theorem HeldFrom.view_showsFrom {s : Snapshot} (h : HeldFrom catalog before s.holdings) :
    (s.view cluster.receipted catalog).ShowsFrom catalog before where
  get gk ns name := by
    simp only [view]
    rcases known : s.held? (place catalog gk ns) with _ | e | objects
    · exact (View.direct_showsFrom catalog before).get gk ns name
    · exact .error e _
    · dsimp only [named]
      split
      case h_1 found =>
        refine .ok ?_
        rw [List.append_nil]
        exact h.supplied known (List.mem_of_find?_eq_some found)
      case h_2 => exact .error _ _
  list gk ns selector := by
    simp only [view]
    rcases known : s.held? (place catalog gk ns) with _ | e | objects
    · exact (View.direct_showsFrom catalog before).list gk ns selector
    · exact .error e _
    · refine .ok fun o mem => ?_
      rw [List.append_nil]
      exact h.supplied known (mem_of_mem_pick mem)

end Snapshot

end StatusWatch
