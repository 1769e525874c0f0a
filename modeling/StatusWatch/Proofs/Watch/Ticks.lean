import StatusWatch.Proofs.Keyed
import StatusWatch.Proofs.Watch.Steps

/-!
A run that nothing stops, tick by tick. `Source.answers` is what the ticks read, with nothing about
reporting in it; `run_never` gives the events of the run from these answers and from what was
remembered before.
-/

namespace StatusWatch

/-- What a tick reads: the failure of its pass, or one status for each identifier. -/
abbrev Answer := Except Error (List ResourceStatus)

namespace Source

def answer (source : Source σ) (ids : List ObjectId) (snapshot : Snapshot) (world : σ) :
    Answer × Snapshot × σ :=
  match (source.sync ids snapshot).run world with
  | ((.error e, snapshot), world) => (.error e, snapshot, world)
  | ((.ok (), snapshot), world) =>
    let read := (ids.mapM (source.readAs snapshot)).run world
    (.ok read.1, snapshot, read.2)

def answers (source : Source σ) (ids : List ObjectId) : Nat → Snapshot → σ → List Answer
  | 0, _, _ => []
  | n + 1, snapshot, world =>
    let next := source.answer ids snapshot world
    next.1 :: source.answers ids n next.2.1 next.2.2

theorem mapM_run_cons (f : α → StateM σ β) (a : α) (rest : List α) (world : σ) :
    ((a :: rest).mapM f).run world =
      let first := (f a).run world
      let others := (rest.mapM f).run first.2
      (first.1 :: others.1, others.2) := by
  rw [List.mapM_cons]
  rfl

theorem answer_of_ok {source : Source σ} {ids : List ObjectId} {snapshot taken : Snapshot}
    {world passed behind : σ} {statuses : List ResourceStatus}
    (sync : (source.sync ids snapshot).run world = ((.ok (), taken), passed))
    (read : (ids.mapM (source.readAs taken)).run passed = (statuses, behind)) :
    source.answer ids snapshot world = (.ok statuses, taken, behind) := by
  simp [answer, sync, read]

theorem map_id_mapM_readAs (source : Source σ) (snapshot : Snapshot) (ids : List ObjectId)
    (world : σ) : ((ids.mapM (source.readAs snapshot)).run world).1.map (·.id) = ids := by
  induction ids generalizing world with
  | nil => rfl
  | cons id rest ih =>
    rw [mapM_run_cons]
    exact congrArg (id :: ·) (ih _)

theorem map_id_answer {source : Source σ} {ids : List ObjectId} {snapshot : Snapshot} {world : σ}
    {statuses : List ResourceStatus} (h : (source.answer ids snapshot world).1 = .ok statuses) :
    statuses.map (·.id) = ids := by
  unfold answer at h
  split at h
  · cases h
  · cases h
    exact map_id_mapM_readAs source _ ids _

end Source

namespace Watch

namespace Memory

theorem lookup_put (m : Memory) (s : ResourceStatus) (id : ObjectId) :
    (m.put s).lookup id = if id = s.id then some s else m.lookup id := by
  unfold put
  by_cases same : id = s.id
  · rw [if_pos same, same, List.lookup_cons_self]
  · rw [if_neg same, List.lookup_cons, beq_false_of_ne same]
    exact lookup_filter_ne m same

def updates (reportUnchanged : Bool) : Memory → List ResourceStatus → List Event
  | _, [] => []
  | m, status :: rest =>
    (if m.differs status || reportUnchanged then [.update status] else []) ++
      updates reportUnchanged (m.put status) rest

theorem updates_of_new {m : Memory} {statuses : List ResourceStatus}
    (distinct : (statuses.map (·.id)).Nodup) (new : ∀ s ∈ statuses, m.lookup s.id = none)
    (reportUnchanged : Bool) :
    m.updates reportUnchanged statuses = statuses.map .update := by
  induction statuses generalizing m with
  | nil => rfl
  | cons s rest ih =>
    rw [List.map_cons, List.nodup_cons] at distinct
    have first : m.differs s = true := by
      rw [differs, new s List.mem_cons_self]
      rfl
    have others : ∀ t ∈ rest, (m.put s).lookup t.id = none := by
      intro t ht
      have apart : t.id ≠ s.id := fun same => distinct.1 (same ▸ List.mem_map_of_mem ht)
      rw [lookup_put, if_neg apart]
      exact new t (List.mem_cons_of_mem s ht)
    rw [updates, ih distinct.2 others, first]
    rfl

/-- What is remembered after a tick. A failed one changes nothing. -/
def after (m : Memory) : Answer → Memory
  | .error _ => m
  | .ok statuses => statuses.foldl put m

def events (reportUnchanged : Bool) (m : Memory) : Answer → List Event
  | .error e => [.syncFailed e]
  | .ok statuses => m.updates reportUnchanged statuses ++ [.tickEnd]

def allEvents (reportUnchanged : Bool) : Memory → List Answer → List Event
  | _, [] => []
  | m, a :: rest => m.events reportUnchanged a ++ allEvents reportUnchanged (m.after a) rest

end Memory

variable {s t u : State σ}

/-- Steps that go on, with what they give and the state they leave, but for the places passed. -/
def Leaves (m : Steps σ α) (s : State σ) (a : α) (t : State σ) : Prop :=
  ∃ passed, m.run s = (some a, { t with passed })

theorem Leaves.bind {m : Steps σ α} {f : α → Steps σ β} {a : α} {b : β} (h : Leaves m s a t)
    (hf : ∀ passed, Leaves (f a) { t with passed } b u) : Leaves (m >>= f) s b u := by
  obtain ⟨n, hn⟩ := h
  obtain ⟨k, hk⟩ := hf n
  exact ⟨k, (bind_run f hn).trans hk⟩

theorem leaves_pure (a : α) (s : State σ) : Leaves (pure a) s a s := ⟨s.passed, rfl⟩

theorem leaves_checkpoint (s : State σ) : Leaves (checkpoint never) s () s :=
  ⟨s.passed + 1, rfl⟩

theorem leaves_send (e : Event) (s : State σ) : Leaves (send never e) s () (s.reported e) :=
  ⟨s.passed + 1, rfl⟩

def State.noted (s : State σ) (reportUnchanged : Bool) (read : List ResourceStatus × σ) :
    State σ :=
  { s with
    world := read.2
    last := read.1.foldl Memory.put s.last
    events := s.events ++ s.last.updates reportUnchanged read.1 }

theorem leaves_note (w : Watch σ) (status : ResourceStatus) (s : State σ) :
    Leaves (w.note never status) s () (s.noted w.reportUnchanged ([status], s.world)) := by
  rw [Leaves, run_note]
  simp only [State.noted, Memory.updates, List.append_nil]
  by_cases due : (s.last.differs status || w.reportUnchanged) = true
  · rw [if_pos due, if_pos due]
    exact leaves_send _ _
  · rw [if_neg due, if_neg due, List.append_nil]
    exact leaves_pure _ _

theorem leaves_report (w : Watch σ) (id : ObjectId) (s : State σ) :
    let read := (w.source.readAs s.snapshot id).run s.world
    Leaves (w.report never id) s () (s.noted w.reportUnchanged ([read.1], read.2)) := by
  extract_lets read
  rw [Leaves, run_report]
  exact leaves_note w read.1 (s.pass.inWorld read.2)

theorem noted_noted (s : State σ) (b : Bool) (status : ResourceStatus) (world : σ)
    (read : List ResourceStatus × σ) :
    (s.noted b ([status], world)).noted b read = s.noted b (status :: read.1, read.2) := by
  simp [State.noted, Memory.updates]

theorem leaves_reports (w : Watch σ) (ids : List ObjectId) (s : State σ) :
    Leaves (ids.forM (w.report never)) s ()
      (s.noted w.reportUnchanged ((ids.mapM (w.source.readAs s.snapshot)).run s.world)) := by
  induction ids generalizing s with
  | nil =>
    have same : s.noted w.reportUnchanged ([], s.world) = s := by
      simp [State.noted, Memory.updates]
    change Leaves (pure ()) s () (s.noted w.reportUnchanged ([], s.world))
    rw [same]
    exact leaves_pure () s
  | cons id rest ih =>
    refine (leaves_report w id s).bind fun passed => ?_
    rw [Source.mapM_run_cons, ← noted_noted]
    exact ih { s.noted w.reportUnchanged (_, _) with passed }

def State.ticked (s : State σ) (reportUnchanged : Bool) (answer : Answer × Snapshot × σ) :
    State σ :=
  { s with
    world := answer.2.2
    snapshot := answer.2.1
    last := s.last.after answer.1
    events := s.events ++ s.last.events reportUnchanged answer.1 }

theorem leaves_tick (w : Watch σ) (s : State σ) :
    Leaves (w.tick never) s ()
      (s.ticked w.reportUnchanged (w.source.answer w.ids s.snapshot s.world)) := by
  rw [Leaves, run_tick]
  simp only [never]
  unfold Source.answer State.ticked
  rcases (w.source.sync w.ids s.snapshot).run s.world with ⟨⟨e | ⟨⟩, snapshot⟩, world⟩
  · exact leaves_send _ _
  · refine (leaves_reports w w.ids _).bind fun _ => ?_
    simp only [Memory.events, ← List.append_assoc]
    exact leaves_send _ _

/-- Ticks in a row report what their answers give, each by what is remembered of those before. -/
theorem events_run (w : Watch σ) (n : Nat) (s : State σ) :
    ((w.run never n).run s).2.events =
      s.events ++
        s.last.allEvents w.reportUnchanged (w.source.answers w.ids n s.snapshot s.world) := by
  induction n generalizing s with
  | zero => exact (List.append_nil _).symm
  | succ n ih =>
    obtain ⟨p, hp⟩ := leaves_checkpoint s
    obtain ⟨q, hq⟩ := leaves_tick w { s with passed := p }
    have run : (w.run never (n + 1)).run s = (w.run never n).run _ :=
      (bind_run _ hp).trans (bind_run _ hq)
    rw [run, ih]
    exact List.append_assoc _ _ _

end Watch

end StatusWatch
