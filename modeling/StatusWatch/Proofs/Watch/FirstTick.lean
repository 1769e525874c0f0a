import StatusWatch.Proofs.Reading
import StatusWatch.Proofs.Snapshot.Faithful
import StatusWatch.Proofs.Watch.Ticks

/-!
The first tick of a watch on a settled cluster. It reports every identifier once, in order, with a
status that neither the snapshot nor the other identifiers enter into.
-/

namespace StatusWatch

def ReadingPlan.statusAs (plan : ReadingPlan) (held : Holdings) (id : ObjectId) : ResourceStatus :=
  { plan.statusIn held id with id }

variable {cluster : Cluster σ} {I : σ → Prop} {held : Holdings}

namespace Source

theorem yields_readAs (plan : ReadingPlan) (useSnapshot : Bool) {snapshot : Snapshot}
    (serves : (if useSnapshot then snapshot.view cluster plan.catalog
      else .direct cluster plan.catalog).Serves I plan.catalog held) (id : ObjectId) :
    Yields I ((ofCluster cluster plan useSnapshot).readAs snapshot id) (plan.statusAs held id) :=
  (plan.yields_read serves id).bind (.pure _)

theorem yields_sync (settled : cluster.Settled I held) (plan : ReadingPlan) (useSnapshot : Bool)
    (ids : List ObjectId) (snapshot : Snapshot) :
    ∃ taken, Yields I ((ofCluster cluster plan useSnapshot).sync ids snapshot) (.ok (), taken) ∧
      ∀ id, Yields I ((ofCluster cluster plan useSnapshot).readAs taken id)
        (plan.statusAs held id) := by
  cases useSnapshot with
  | false =>
    have serves := View.direct_serves settled plan.catalog
    exact ⟨snapshot, .pure _, yields_readAs plan false serves⟩
  | true =>
    obtain ⟨taken, synced, faithful⟩ := Snapshot.yields_sync settled plan.catalog ids snapshot
    exact ⟨taken, synced, yields_readAs plan true (faithful.view_serves settled)⟩

theorem answer_ofCluster (settled : cluster.Settled I held) (plan : ReadingPlan)
    (useSnapshot : Bool) (ids : List ObjectId) (snapshot : Snapshot) {world : σ}
    (start : I world) :
    ((ofCluster cluster plan useSnapshot).answer ids snapshot world).1 =
      .ok (ids.map (plan.statusAs held)) := by
  obtain ⟨taken, synced, readings⟩ := yields_sync settled plan useSnapshot ids snapshot
  obtain ⟨outcome, kept⟩ := synced world start
  have statuses := (Yields.mapM fun id (_ : id ∈ ids) => readings id) _ kept
  rw [answer_of_ok (Prod.ext outcome rfl) (Prod.ext statuses.1 rfl)]

end Source

namespace Watch

theorem events_settled (settled : cluster.Settled I held) (plan : ReadingPlan) (useSnapshot : Bool)
    {ids : List ObjectId} (distinct : ids.Nodup) (reportUnchanged : Bool) {world : σ}
    (start : I world) :
    let w : Watch σ := ⟨.ofCluster cluster plan useSnapshot, ids, reportUnchanged⟩
    ((w.run never 1).run (.initial world)).2.events =
      ids.map (fun id => .update (plan.statusAs held id)) ++ [.tickEnd] := by
  have answer := Source.answer_ofCluster settled plan useSnapshot ids .empty start
  have named : (ids.map (plan.statusAs held)).map (·.id) = ids := by
    rw [List.map_map]
    exact List.map_id ids
  have updates : Memory.updates reportUnchanged [] (ids.map (plan.statusAs held)) =
      (ids.map (plan.statusAs held)).map .update :=
    Memory.updates_of_new (named.symm ▸ distinct) (fun _ _ => rfl) _
  rw [List.map_map] at updates
  intro w
  rw [events_run]
  simp only [w, State.initial, Source.answers, Memory.allEvents, answer, Memory.events, updates,
    List.append_nil, List.nil_append]
  rfl

/-- What the first tick reports does not depend on whether a snapshot is used, and each identifier
has the status that it would have alone. -/
theorem events_firstTick (settled : cluster.Settled I held) (catalog : Catalog)
    (rules : Option StatusRules) (options : WatchOptions) (due : options.interval ≠ 0)
    {ids : List ObjectId} (distinct : ids.Nodup) {world : σ} (start : I world) :
    let statusOf := (planFor catalog rules options.overrides).statusAs held
    ∀ useSnapshot, ∃ w, start? cluster catalog rules ids { options with useSnapshot } = some w ∧
      ((w.run never 1).run (.initial world)).2.events =
        ids.map (fun id => .update (statusOf id)) ++ [.tickEnd] := by
  intro statusOf useSnapshot
  exact ⟨_, if_neg due, events_settled settled _ useSnapshot distinct _ start⟩

/-- A pod that is there, and one that is not, on a cluster that holds the first alone. -/
theorem events_firstTick_pods :
    let pod := Json.object [("apiVersion", .str "v1"), ("kind", .str "Pod"),
      ("metadata", .object [("name", .str "web"), ("namespace", .str "default")]),
      ("status", .object [("phase", .str "Succeeded")])]
    let web : ObjectId := ⟨⟨"", "Pod"⟩, "web", ""⟩
    let gone : ObjectId := ⟨⟨"", "Pod"⟩, "gone", "default"⟩
    ∀ useSnapshot, ∃ w,
      start? .scripted .builtin none [web, gone] ⟨1, useSnapshot, false, []⟩ = some w ∧
        ((w.run never 1).run (.initial ⟨[pod], [], []⟩)).2.events =
          [.update ⟨web, "Current", "Pod has completed successfully", none, some pod, []⟩,
            .update ⟨gone, "NotFound", "Resource not found", none, none, []⟩, .tickEnd] := by
  intro pod web gone
  exact events_firstTick (Scripted.settled [pod]) .builtin none ⟨1, true, false, []⟩ (by decide)
    (by decide) rfl

end Watch

end StatusWatch
