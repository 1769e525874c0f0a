import StatusWatch.Proofs.Reading.Provenance
import StatusWatch.Proofs.Watch.SideBySide

/-!
What a tick reports comes from the calls of this tick. A tick that does not get through its pass
reports no status at all, though the snapshot of an earlier pass is still there; and nothing that
an earlier pass found, or did not find, enters into later events.
-/

namespace StatusWatch

variable {cluster : Cluster σ}

namespace Source

def ReadsFrom (source : Source (σ × Receipts cluster))
    (From : Receipts cluster → ResourceStatus → Prop) (snapshot : Snapshot)
    (calls : Receipts cluster) : Prop :=
  ∀ id, Draws (source.readAs snapshot id) fun added status => From (calls ++ added) status

/-- A pass that succeeds makes the calls that readings behind it are from. -/
structure Fresh (source : Source (σ × Receipts cluster))
    (From : Receipts cluster → ResourceStatus → Prop) : Prop where
  grows : ∀ calls more, calls ⊆ more → ∀ status, From calls status → From more status
  sync : ∀ ids s, Draws (source.sync ids s) fun calls outcome =>
    outcome.1 = .ok () → source.ReadsFrom From outcome.2 calls

theorem Fresh.later {source : Source (σ × Receipts cluster)}
    {From : Receipts cluster → ResourceStatus → Prop} (fresh : source.Fresh From)
    {snapshot : Snapshot} {calls : Receipts cluster}
    (reads : source.ReadsFrom From snapshot calls) (more : Receipts cluster) :
    source.ReadsFrom From snapshot (calls ++ more) := by
  intro id
  refine (reads id).mono fun added status => fresh.grows _ _ ?_ status
  rw [List.append_assoc]
  have tail := List.subset_append_right more added
  exact List.append_subset.mpr
    ⟨List.subset_append_left calls _, List.subset_append_of_subset_right calls tail⟩

end Source

def ReadingPlan.FromCalls (plan : ReadingPlan) (calls : Receipts cluster) (s : ResourceStatus) :
    Prop :=
  ∃ read, plan.FromAvailable (plan.catalog.Supplied calls) s.id read ∧ s = { read with id := s.id }

theorem ReadingPlan.FromCalls.shown {plan : ReadingPlan} {calls : Receipts cluster} {s : ResourceStatus}
    (h : plan.FromCalls calls s) {o : Json} (shown : s.Shows o) :
    ∃ receipt ∈ calls, o ∈ receipt.objects := by
  obtain ⟨read, computed, same⟩ := h
  have below : read.Shows o := by
    rw [same] at shown
    cases shown with
    | live here => exact .live here
    | generated child below => exact .generated child below
  obtain ⟨gk, r, -, receipt, mem, -, returned⟩ := computed.shown below
  exact ⟨receipt, mem, returned⟩

theorem Source.ofCluster_fresh_of (cluster : Cluster σ) (plan : ReadingPlan) (useSnapshot : Bool)
    {From : Receipts cluster → ResourceStatus → Prop}
    (grows : ∀ calls more, calls ⊆ more → ∀ status, From calls status → From more status)
    (reads : ∀ (snapshot : Snapshot) (calls : Receipts cluster),
      (if useSnapshot then snapshot.view cluster.receipted plan.catalog
        else .direct cluster.receipted plan.catalog).ShowsFrom plan.catalog calls →
      (ofCluster cluster.receipted plan useSnapshot).ReadsFrom From snapshot calls) :
    (ofCluster cluster.receipted plan useSnapshot).Fresh From where
  grows := grows
  sync ids s := by
    cases useSnapshot with
    | false => exact .pure fun _ => reads s [] (View.direct_showsFrom plan.catalog [])
    | true =>
      refine (Snapshot.draws_sync s ids).mono fun calls outcome held ok => ?_
      exact reads outcome.2 calls (held ok).view_showsFrom

theorem Source.ofCluster_fresh (cluster : Cluster σ) (plan : ReadingPlan) (useSnapshot : Bool) :
    (ofCluster cluster.receipted plan useSnapshot).Fresh plan.FromCalls := by
  refine ofCluster_fresh_of cluster plan useSnapshot ?_ fun snapshot calls shows id => ?_
  · rintro calls more sub status ⟨read, computed, same⟩
    exact ⟨read, computed.mono fun gk o supplied => supplied.mono sub, same⟩
  · exact (plan.draws_read shows id).bind_pure fun added read computed => ⟨read, computed, rfl⟩

namespace Watch

/-- What a run added to its calls and events since `start`. Every update among the events is from
the calls. -/
structure State.Added (From : Receipts cluster → ResourceStatus → Prop)
    (start s : State (σ × Receipts cluster)) (calls : Receipts cluster) (events : List Event) :
    Prop where
  world : s.world.2 = start.world.2 ++ calls
  log : s.events = start.events ++ events
  updates : ∀ status, .update status ∈ events → From calls status

/-- All updates since `start` are from calls since `start`, and so will those be that are read now. -/
def State.Ready (source : Source (σ × Receipts cluster))
    (From : Receipts cluster → ResourceStatus → Prop) (start s : State (σ × Receipts cluster)) :
    Prop :=
  ∃ calls events, start.Added From s calls events ∧ source.ReadsFrom From s.snapshot calls

section Added

variable {w : Watch (σ × Receipts cluster)} {From : Receipts cluster → ResourceStatus → Prop}
  {start s : State (σ × Receipts cluster)} {calls : Receipts cluster} {events : List Event} {stop : Interruption}

theorem State.added_nil (s : State (σ × Receipts cluster)) : s.Added From s [] [] :=
  ⟨(List.append_nil _).symm, (List.append_nil _).symm, nofun⟩

theorem State.Added.report (h : start.Added From s calls events) (e : Event)
    (fresh : ∀ status, e = .update status → From calls status) :
    start.Added From (s.pass.reported e) calls (events ++ [e]) where
  world := h.world
  log := by
    rw [← List.append_assoc, ← h.log]
    rfl
  updates status mem := by
    rcases List.mem_append.mp mem with old | new
    · exact h.updates status old
    · exact fresh status (List.mem_singleton.mp new).symm

theorem State.Added.send (h : start.Added From s calls events) (stop : Interruption) (e : Event)
    (fresh : ∀ status, e = .update status → From calls status) :
    ∃ events', start.Added From ((send stop e).run s).2 calls events' := by
  rw [run_send]
  split
  · exact ⟨events, h⟩
  · exact ⟨events ++ [e], h.report e fresh⟩

theorem snapshot_send (stop : Interruption) (e : Event) (s : State σ) :
    ((send stop e).run s).2.snapshot = s.snapshot := by
  rw [run_send]
  split <;> rfl

theorem State.Added.note (h : start.Added From s calls events) (w : Watch (σ × Receipts cluster))
    (stop : Interruption) {status : ResourceStatus} (from_ : From calls status) :
    ∃ events', start.Added From ((w.note stop status).run s).2 calls events' := by
  have remembered : start.Added From (s.remembering status) calls events :=
    ⟨h.world, h.log, h.updates⟩
  rw [run_note]
  split
  · refine remembered.send stop (.update status) fun other same => ?_
    cases same
    exact from_
  · exact ⟨events, remembered⟩

theorem snapshot_note (w : Watch σ) (stop : Interruption) (status : ResourceStatus) (s : State σ) :
    ((w.note stop status).run s).2.snapshot = s.snapshot := by
  rw [run_note]
  split
  · exact snapshot_send stop _ _
  · rfl

variable (fresh : w.source.Fresh From)

include fresh

theorem keeps_report (stop : Interruption) (id : ObjectId) :
    Keeps (start.Ready w.source From) (w.report stop id) := by
  rintro s ⟨calls, events, added, reads⟩
  rw [run_report]
  split
  · exact ⟨calls, events, added, reads⟩
  obtain ⟨more, grown, from_⟩ := reads id s.world
  dsimp only
  generalize (w.source.readAs s.snapshot id).run s.world = reading at grown from_ ⊢
  have behind : start.Added From (s.pass.inWorld reading.2) (calls ++ more) events := by
    refine ⟨?_, added.log, fun status mem => ?_⟩
    · rw [← List.append_assoc, ← added.world]
      exact grown
    · exact fresh.grows _ _ (List.subset_append_left calls more) status (added.updates status mem)
  obtain ⟨events', noted⟩ := behind.note w stop from_
  refine ⟨calls ++ more, events', noted, ?_⟩
  rw [snapshot_note]
  exact fresh.later reads more

theorem added_tick (stop : Interruption) (s : State (σ × Receipts cluster)) :
    ∃ calls events, s.Added From ((w.tick stop).run s).2 calls events := by
  obtain ⟨calls, grown, reads⟩ := fresh.sync w.ids s.snapshot s.world
  rw [run_tick]
  split
  · exact ⟨[], [], s.added_nil⟩
  dsimp only
  generalize (w.source.sync w.ids s.snapshot).run s.world = pass at grown reads ⊢
  have synced : s.Added From (s.pass.synced pass) calls [] :=
    ⟨grown, (List.append_nil _).symm, nofun⟩
  split
  case h_1 e _ =>
    obtain ⟨events, sent⟩ := synced.send stop (.syncFailed e) nofun
    exact ⟨calls, events, sent⟩
  case h_2 ok =>
    have ready : s.Ready w.source From (s.pass.synced pass) := ⟨calls, [], synced, reads ok⟩
    have ended : Keeps (s.Ready w.source From) (send stop .tickEnd) := by
      rintro t ⟨calls, events, added, reads⟩
      obtain ⟨events', sent⟩ := added.send stop .tickEnd nofun
      exact ⟨calls, events', sent, by rwa [snapshot_send]⟩
    have reports : Keeps (s.Ready w.source From) (w.ids.forM (w.report stop)) :=
      .forM (keeps_report fresh stop) w.ids
    obtain ⟨calls, events, added, -⟩ := (reports.bind fun _ => ended) _ ready
    exact ⟨calls, events, added⟩

theorem added_run_succ (stop : Interruption) (n : Nat)
    (s : State (σ × Receipts cluster)) :
    ∃ calls events,
      ((w.run stop n).run s).2.Added From ((w.run stop (n + 1)).run s).2 calls events := by
  rw [run_succ]
  -- A run that was stopped before takes no further tick.
  rcases before : (w.run stop n).run s with ⟨_ | ⟨⟩, t⟩
  · rw [stopped_run _ before]
    exact ⟨[], [], t.added_nil⟩
  rw [bind_run _ before, run_behind]
  split
  · exact ⟨[], [], t.added_nil⟩
  · obtain ⟨calls, events, added⟩ := added_tick fresh stop t.pass
    exact ⟨calls, events, added.world, added.log, added.updates⟩

theorem added_run (stop : Interruption) (n : Nat) (s : State (σ × Receipts cluster)) :
    ∃ calls events, s.Added From ((w.run stop n).run s).2 calls events := by
  induction n with
  | zero => exact ⟨[], [], s.added_nil⟩
  | succ n ih =>
    obtain ⟨calls, events, before⟩ := ih
    obtain ⟨more, later, added⟩ := added_run_succ fresh stop n s
    refine ⟨calls ++ more, events ++ later, ?_, ?_, fun status mem => ?_⟩
    · rw [added.world, before.world, List.append_assoc]
    · rw [added.log, before.log, List.append_assoc]
    · rcases List.mem_append.mp mem with old | new
      · exact fresh.grows _ _ (List.subset_append_left calls more) status
          (before.updates status old)
      · exact fresh.grows _ _ (List.subset_append_right calls more) status
          (added.updates status new)

end Added

theorem exists_from (cluster : Cluster σ) (plan : ReadingPlan) (useSnapshot : Bool)
    {From : Receipts cluster → ResourceStatus → Prop}
    (fresh : (Source.ofCluster cluster.receipted plan useSnapshot).Fresh From)
    (ids : List ObjectId) (reportUnchanged : Bool) (stop : Interruption) (n : Nat) (world : σ)
    {s : ResourceStatus}
    (mem : .update s ∈ (((⟨.ofCluster cluster plan useSnapshot, ids, reportUnchanged⟩ :
      Watch σ).run stop n).run (.initial world)).2.events) :
    ∃ calls : Receipts cluster, From calls s := by
  let w : Watch (σ × Receipts cluster) :=
    ⟨.ofCluster cluster.receipted plan useSnapshot, ids, reportUnchanged⟩
  obtain ⟨calls, events, added⟩ := added_run (w := w) fresh stop n (.initial (world, []))
  have same : ((w.run stop n).run (.initial (world, []))).2.events =
      (((w.withSource (.ofCluster cluster plan useSnapshot)).run stop n).run (.initial world)).2.events := by
    cases useSnapshot with
    | true =>
      have alike := Source.withSnapshot_alike cluster.receipted_alike plan
      exact (mirrors_run (w := w) alike stop n (.initial (world, [])) (.initial world)
        ⟨rfl, rfl, rfl, rfl, rfl⟩).2.events
    | false =>
      have alike := Source.direct_alike cluster.receipted_alike plan
      exact (mirrors_run (w := w) alike stop n (.initial (world, [])) (.initial world)
        ⟨rfl, rfl, rfl, rfl, rfl⟩).2.events
  refine ⟨calls, added.updates s ?_⟩
  have log : events = ((w.run stop n).run (.initial (world, []))).2.events := added.log.symm
  rw [log, same]
  exact mem

/-- Every update of a run is computed from what calls of the run returned. -/
theorem exists_fromCalls (cluster : Cluster σ) (plan : ReadingPlan) (useSnapshot : Bool)
    (ids : List ObjectId) (reportUnchanged : Bool) (stop : Interruption) (n : Nat) (world : σ)
    {s : ResourceStatus}
    (mem : .update s ∈ (((⟨.ofCluster cluster plan useSnapshot, ids, reportUnchanged⟩ :
      Watch σ).run stop n).run (.initial world)).2.events) :
    ∃ calls : Receipts cluster, plan.FromCalls calls s :=
  exists_from cluster plan useSnapshot (Source.ofCluster_fresh cluster plan useSnapshot) ids
    reportUnchanged stop n world mem

section Failed

variable {w : Watch σ} {s t : State σ} {e : Error} {stop : Interruption}

theorem tick_of_failed (stop : Interruption)
    (failed : ((w.source.sync w.ids s.snapshot).run s.world).1.1 = .error e) :
    let synced := s.pass.synced ((w.source.sync w.ids s.snapshot).run s.world)
    (w.tick stop).run s = (none, s) ∨ (w.tick stop).run s = (none, synced) ∨
      (w.tick stop).run s = (some (), synced.pass.reported (.syncFailed e)) := by
  rw [run_tick]
  dsimp only
  split
  · exact .inl rfl
  rw [failed]
  dsimp only
  rw [run_send]
  split
  · exact .inr (.inl rfl)
  · exact .inr (.inr rfl)

/-- A run that goes on into a tick whose pass fails: it reports the failure and nothing else, if it
is not stopped before, and leaves the snapshot of that pass. -/
theorem run_succ_of_failed {n : Nat} (before : (w.run stop n).run s = (some (), t))
    (failed : ((w.source.sync w.ids t.snapshot).run t.world).1.1 = .error e) :
    let after := (w.run stop (n + 1)).run s
    (after.1 = none ∧ after.2.events = t.events ∨
      after.1 = some () ∧ after.2.events = t.events ++ [.syncFailed e]) ∧
      (after.2.snapshot = t.snapshot ∨
        after.2.snapshot = ((w.source.sync w.ids t.snapshot).run t.world).1.2) := by
  dsimp only
  rw [run_succ, bind_run _ before, run_behind]
  split
  · exact ⟨.inl ⟨rfl, rfl⟩, .inl rfl⟩
  rcases tick_of_failed stop (s := t.pass) failed with here | here | here
  · rw [here]
    exact ⟨.inl ⟨rfl, rfl⟩, .inl rfl⟩
  · rw [here]
    exact ⟨.inl ⟨rfl, rfl⟩, .inr rfl⟩
  · rw [here]
    exact ⟨.inr ⟨rfl, rfl⟩, .inr rfl⟩

end Failed

def State.withHoldings (s : State (σ × Receipts cluster)) (holdings : List (Place × Holding)) :
    State σ :=
  ⟨s.world.1, ⟨holdings, s.snapshot.timeouts⟩, s.last, s.events, s.passed⟩

/-- Ticks to come do the same, whatever the last pass left behind. -/
theorem run_withHoldings (cluster : Cluster σ) (plan : ReadingPlan) (ids : List ObjectId)
    (reportUnchanged : Bool) (stop : Interruption) (n : Nat) (s : State (σ × Receipts cluster))
    (holdings : List (Place × Holding)) :
    let w : Watch (σ × Receipts cluster) :=
      ⟨.ofCluster cluster.receipted plan true, ids, reportUnchanged⟩
    let bare : Watch σ := ⟨.ofCluster cluster plan true, ids, reportUnchanged⟩
    let kept := (w.run stop n).run s
    let replaced := (bare.run stop n).run (s.withHoldings holdings)
    replaced.1 = kept.1 ∧ replaced.2.events = kept.2.events ∧
      replaced.2.world = kept.2.world.1 := by
  intro w bare kept replaced
  have alike := Source.withSnapshot_alike cluster.receipted_alike plan
  have start : s.Alike (fun world bare => world.1 = bare) Snapshot.SameTimeouts
      (s.withHoldings holdings) := ⟨rfl, rfl, rfl, rfl, rfl⟩
  obtain ⟨same, behind⟩ := mirrors_run (w := w) alike stop n _ _ start
  exact ⟨same.symm, behind.events.symm, behind.world.symm⟩

/-- A run with a snapshot, over a cluster that changes and fails as it likes, and stopped anywhere.
What each tick adds to the events comes from the calls that this tick makes, at any depth of a
status; a tick whose pass fails adds no status; and the events to come are the same whatever the
last pass left behind. -/
theorem fresh_run (cluster : Cluster σ) (plan : ReadingPlan) (ids : List ObjectId)
    (reportUnchanged : Bool) (stop : Interruption) (world : σ) (n : Nat) :
    let w : Watch (σ × Receipts cluster) :=
      ⟨.ofCluster cluster.receipted plan true, ids, reportUnchanged⟩
    let bare : Watch σ := ⟨.ofCluster cluster plan true, ids, reportUnchanged⟩
    let before := (w.run stop n).run (.initial (world, []))
    let after := (w.run stop (n + 1)).run (.initial (world, []))
    ∃ calls events,
      after.2.world.2 = before.2.world.2 ++ calls ∧ after.2.events = before.2.events ++ events ∧
      (∀ s, .update s ∈ events → plan.FromCalls calls s ∧
        ∀ o, s.Shows o → ∃ receipt ∈ calls, o ∈ receipt.objects) ∧
      (∀ e, before.1 = some () →
        ((w.source.sync ids before.2.snapshot).run before.2.world).1.1 = .error e →
          (after.1 = none ∧ events = [] ∨ after.1 = some () ∧ events = [.syncFailed e]) ∧
            after.2.snapshot.holdings = before.2.snapshot.holdings) ∧
      ∀ holdings m,
        let kept := (w.run stop m).run before.2
        let replaced := (bare.run stop m).run (before.2.withHoldings holdings)
        replaced.1 = kept.1 ∧ replaced.2.events = kept.2.events ∧
          replaced.2.world = kept.2.world.1 := by
  intro w bare before after
  obtain ⟨calls, events, added⟩ :=
    added_run_succ (w := w) (Source.ofCluster_fresh cluster plan true) stop n (.initial (world, []))
  refine ⟨calls, events, added.world, added.log, ?_, ?_, ?_⟩
  · intro s mem
    have fresh := added.updates s mem
    exact ⟨fresh, fun o shown => fresh.shown shown⟩
  · intro e on failed
    have ran : (w.run stop n).run (.initial (world, [])) = (some (), before.2) := Prod.ext on rfl
    obtain ⟨reported, left⟩ := run_succ_of_failed ran failed
    have log : after.2.events = before.2.events ++ events := added.log
    refine ⟨?_, ?_⟩
    · rcases reported with ⟨stopped, none⟩ | ⟨through, one⟩
      · exact .inl ⟨stopped, List.append_right_eq_self.mp (log.symm.trans none)⟩
      · exact .inr ⟨through, List.append_cancel_left (log.symm.trans one)⟩
    · rcases left with same | replaced
      · exact congrArg Snapshot.holdings same
      · exact (congrArg Snapshot.holdings replaced).trans (Snapshot.holdings_sync failed)
  · intro holdings m
    exact run_withHoldings cluster plan ids reportUnchanged stop m before.2 holdings

end Watch

end StatusWatch
