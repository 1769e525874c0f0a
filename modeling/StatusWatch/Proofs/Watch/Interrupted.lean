import StatusWatch.Proofs.Watch.SideBySide
import StatusWatch.Proofs.Watch.Ticks

/-!
Runs that are stopped somewhere. What a run does is a list of deeds, with one place in front of each
where it can be stopped: a wait, a pass, a reading, or an event sent. A run that is stopped has done
what stands before the first place that stopped it, and nothing else.
-/

namespace StatusWatch

namespace Watch

inductive Deed where
  | wait
  | sync
  | read (id : ObjectId)
  | send (event : Event)

namespace Deed

def event? : Deed → Option Event
  | .send e => some e
  | _ => none

def isCall : Deed → Bool
  | .sync | .read _ => true
  | _ => false

end Deed

/-- The status that was last computed for an identifier, in ticks one after another. A tick whose
pass fails computes none. -/
def lastComputed (earlier : List Answer) (id : ObjectId) : Option ResourceStatus :=
  earlier.reverse.findSome? fun
    | .ok statuses => statuses.find? (·.id = id)
    | .error _ => none

/-- A status is reported if it differs from the one last computed in its status, its message or the
text of its error, if there is none, or if everything is reported. -/
def isDue (reportUnchanged : Bool) (earlier : List Answer) (status : ResourceStatus) : Bool :=
  reportUnchanged || (lastComputed earlier status.id).all fun last =>
    last.status ≠ status.status ∨ last.message ≠ status.message ∨
      last.error.map Error.message ≠ status.error.map Error.message

def tickEvents (reportUnchanged : Bool) (earlier : List Answer) : Answer → List Event
  | .error e => [.syncFailed e]
  | .ok statuses => (statuses.filter (isDue reportUnchanged earlier)).map .update ++ [.tickEnd]

def statusDeeds (reportUnchanged : Bool) (earlier : List Answer) (status : ResourceStatus) :
    List Deed :=
  .read status.id :: if isDue reportUnchanged earlier status then [.send (.update status)] else []

def tickDeeds (reportUnchanged : Bool) (earlier : List Answer) : Answer → List Deed
  | .error e => [.sync, .send (.syncFailed e)]
  | .ok statuses =>
    .sync :: (statuses.flatMap (statusDeeds reportUnchanged earlier) ++ [.send .tickEnd])

def inTurn (f : List Answer → Answer → List α) : List Answer → List Answer → List α
  | _, [] => []
  | earlier, a :: rest => f earlier a ++ inTurn f (earlier ++ [a]) rest

def runDeeds (reportUnchanged : Bool) (earlier answers : List Answer) : List Deed :=
  inTurn (fun earlier a => .wait :: tickDeeds reportUnchanged earlier a) earlier answers

theorem lastComputed_append (earlier : List Answer) (a : Answer) (id : ObjectId) :
    lastComputed (earlier ++ [a]) id =
      match a with
      | .ok statuses => (statuses.find? (·.id = id)).or (lastComputed earlier id)
      | .error _ => lastComputed earlier id := by
  unfold lastComputed
  rw [List.reverse_concat, List.findSome?_cons]
  cases a with
  | error e => rfl
  | ok statuses =>
    dsimp only
    cases statuses.find? (·.id = id) <;> rfl

theorem filterMap_inTurn (f : List Answer → Answer → List α) (g : α → Option β)
    (earlier answers : List Answer) :
    (inTurn f earlier answers).filterMap g =
      inTurn (fun earlier a => (f earlier a).filterMap g) earlier answers := by
  induction answers generalizing earlier with
  | nil => rfl
  | cons a rest ih => rw [inTurn, List.filterMap_append, ih, inTurn]

theorem events_statusDeeds (reportUnchanged : Bool) (earlier : List Answer)
    (statuses : List ResourceStatus) :
    (statuses.flatMap (statusDeeds reportUnchanged earlier)).filterMap Deed.event? =
      (statuses.filter (isDue reportUnchanged earlier)).map .update := by
  induction statuses with
  | nil => rfl
  | cons s rest ih =>
    rw [List.flatMap_cons, List.filterMap_append, ih, List.filter_cons, statusDeeds]
    split <;> rfl

theorem events_tickDeeds (reportUnchanged : Bool) (earlier : List Answer) (a : Answer) :
    (tickDeeds reportUnchanged earlier a).filterMap Deed.event? =
      tickEvents reportUnchanged earlier a := by
  cases a with
  | error e => rfl
  | ok statuses =>
    have updates := events_statusDeeds reportUnchanged earlier statuses
    exact List.filterMap_append.trans (congrArg (· ++ [Event.tickEnd]) updates)

theorem events_runDeeds (reportUnchanged : Bool) (earlier answers : List Answer) :
    (runDeeds reportUnchanged earlier answers).filterMap Deed.event? =
      inTurn (tickEvents reportUnchanged) earlier answers := by
  have ticks : (fun earlier a =>
      (.wait :: tickDeeds reportUnchanged earlier a : List Deed).filterMap Deed.event?) =
        tickEvents reportUnchanged := by
    funext earlier a
    exact events_tickDeeds reportUnchanged earlier a
  rw [runDeeds, filterMap_inTurn, ticks]

end Watch

namespace Source

def traced (source : Source σ) : Source (σ × List Watch.Deed) where
  sync ids s := fun (world, log) =>
    let pass := (source.sync ids s).run world
    (pass.1, pass.2, log ++ [.sync])
  read s id := fun (world, log) =>
    let reading := (source.read s id).run world
    (reading.1, reading.2, log ++ [.read id])

theorem traced_alike (source : Source σ) :
    source.traced.Alike (fun world plain => world.1 = plain) Eq source where
  sync _ _ _ same _ _ start := by
    cases same
    cases start
    exact ⟨⟨rfl, rfl, fun _ => rfl⟩, rfl⟩
  read _ _ _ _ start := by
    cases start
    exact ⟨rfl, rfl⟩

theorem map_id_answers (source : Source σ) (ids : List ObjectId) (n : Nat) (snapshot : Snapshot)
    (world : σ) {statuses : List ResourceStatus}
    (mem : .ok statuses ∈ source.answers ids n snapshot world) : statuses.map (·.id) = ids := by
  induction n generalizing snapshot world with
  | zero => cases mem
  | succ n ih =>
    rcases List.mem_cons.mp mem with here | later
    · exact map_id_answer here.symm
    · exact ih _ _ later

end Source

namespace Watch

def traced (w : Watch σ) : Watch (σ × List Deed) :=
  w.withSource w.source.traced

namespace Memory

theorem lookup_foldl_put (m : Memory) {statuses : List ResourceStatus}
    (distinct : (statuses.map (·.id)).Nodup) (id : ObjectId) :
    (statuses.foldl put m).lookup id = (statuses.find? (·.id = id)).or (m.lookup id) := by
  induction statuses generalizing m with
  | nil => rfl
  | cons s rest ih =>
    rw [List.map_cons, List.nodup_cons] at distinct
    rw [List.foldl_cons, ih _ distinct.2, lookup_put, List.find?_cons]
    by_cases same : s.id = id
    · have once : rest.find? (·.id = id) = none := by
        refine List.find?_eq_none.mpr fun t ht again => distinct.1 ?_
        rw [same, ← of_decide_eq_true again]
        exact List.mem_map_of_mem ht
      rw [once, if_pos same.symm, decide_eq_true same]
      rfl
    · rw [if_neg (Ne.symm same), decide_eq_false same]

theorem lookup_after {m : Memory} {earlier : List Answer} {id : ObjectId}
    (recalled : m.lookup id = lastComputed earlier id) {a : Answer}
    (distinct : ∀ statuses, a = .ok statuses → (statuses.map (·.id)).Nodup) :
    (m.after a).lookup id = lastComputed (earlier ++ [a]) id := by
  rw [lastComputed_append]
  cases a with
  | error e => exact recalled
  | ok statuses => rw [after, lookup_foldl_put m (distinct statuses rfl), recalled]

theorem isDue_eq {m : Memory} {earlier : List Answer} {status : ResourceStatus}
    (recalled : m.lookup status.id = lastComputed earlier status.id) (reportUnchanged : Bool) :
    isDue reportUnchanged earlier status = (m.differs status || reportUnchanged) := by
  have same (last : ResourceStatus) : (!last.sameState status) = decide
      (last.status ≠ status.status ∨ last.message ≠ status.message ∨
        last.error.map Error.message ≠ status.error.map Error.message) := by
    rw [Bool.eq_iff_iff]
    simp only [ResourceStatus.sameState, ResourceStatus.errorText, Bool.not_eq_true',
      Bool.and_eq_false_iff, beq_eq_false_iff_ne, decide_eq_true_iff, or_assoc]
  rw [isDue, differs, recalled, Bool.or_comm]
  simp only [same]

end Memory

section Does

variable {stop : Interruption} {s t u : State (σ × List Deed)} {done more : List Deed}

/-- From one state to another, this was done, and at no place on the way was the run to stop. -/
structure State.Did (stop : Interruption) (s : State (σ × List Deed)) (done : List Deed)
    (t : State (σ × List Deed)) : Prop where
  events : t.events = s.events ++ done.filterMap Deed.event?
  calls : t.world.2 = s.world.2 ++ done.filter Deed.isCall
  passed : t.passed = s.passed + done.length
  free : ∀ j, s.passed ≤ j → j < t.passed → stop j = false

theorem State.did_nil (stop : Interruption) (s : State (σ × List Deed)) : s.Did stop [] s :=
  ⟨(List.append_nil _).symm, (List.append_nil _).symm, rfl,
    fun _ from_ before => absurd before (Nat.not_lt.mpr from_)⟩

theorem State.Did.trans (h : s.Did stop done t) (later : t.Did stop more u) :
    s.Did stop (done ++ more) u where
  events := by rw [later.events, h.events, List.filterMap_append, List.append_assoc]
  calls := by rw [later.calls, h.calls, List.filter_append, List.append_assoc]
  passed := by rw [later.passed, h.passed, List.length_append, Nat.add_assoc]
  free j from_ before := by
    rcases Nat.lt_or_ge j t.passed with first | second
    · exact h.free j from_ first
    · exact later.free j second before

theorem State.did_one {d : Deed} (on : stop s.passed = false)
    (events : t.events = s.events ++ d.event?.toList)
    (calls : t.world.2 = s.world.2 ++ [d].filter Deed.isCall) (passed : t.passed = s.passed + 1) :
    s.Did stop [d] t where
  events := by
    rw [events]
    cases d <;> rfl
  calls := calls
  passed := passed
  free j from_ before := by
    have only : j = s.passed := by omega
    rw [only, on]

/-- Steps that do all these deeds, and then are where `Q` holds; or that are stopped at the place
in front of one of them and have done those before it. -/
inductive Does (stop : Interruption) (m : Steps (σ × List Deed) Unit) (s : State (σ × List Deed))
    (deeds : List Deed) (Q : State (σ × List Deed) → Prop) : Prop where
  | through (t : State (σ × List Deed)) (run : m.run s = (some (), t)) (did : s.Did stop deeds t)
    (behind : Q t)
  | stopped (done : List Deed) (next : Deed) (rest : List Deed) (t : State (σ × List Deed))
    (split : deeds = done ++ next :: rest) (run : m.run s = (none, t)) (did : s.Did stop done t)
    (told : stop t.passed = true)

variable {m m' : Steps (σ × List Deed) Unit} {deeds others : List Deed} {d : Deed}
  {Q Q' : State (σ × List Deed) → Prop}

theorem Does.bind (h : Does stop m s deeds Q)
    (next : ∀ t, Q t → Does stop m' t others Q') :
    Does stop (m >>= fun _ => m') s (deeds ++ others) Q' := by
  cases h with
  | stopped done d rest t split run did told =>
    refine .stopped done d (rest ++ others) t ?_ (stopped_run _ run) did told
    rw [split, List.append_assoc, List.cons_append]
  | through t run did behind =>
    cases next t behind with
    | through u run' did' behind' =>
      exact .through u ((bind_run _ run).trans run') (did.trans did') behind'
    | stopped done d rest u split run' did' told =>
      refine .stopped (deeds ++ done) d rest u ?_ ((bind_run _ run).trans run') (did.trans did') told
      rw [split, List.append_assoc]

theorem Does.cons (run : m.run s = if stop s.passed then (none, s) else m'.run t)
    (did : stop s.passed = false → s.Did stop [d] t) (rest : Does stop m' t deeds Q) :
    Does stop m s (d :: deeds) Q := by
  cases here : stop s.passed with
  | true =>
    rw [if_pos here] at run
    exact .stopped [] d deeds s rfl run (s.did_nil stop) here
  | false =>
    rw [if_neg (Bool.eq_false_iff.mp here)] at run
    cases rest with
    | through u run' did' behind => exact .through u (run.trans run') ((did here).trans did') behind
    | stopped done next rest u split run' did' told =>
      refine .stopped (d :: done) next rest u ?_ (run.trans run') ((did here).trans did') told
      rw [split, List.cons_append]

theorem does_pure (stop : Interruption) (behind : Q s) : Does stop (pure ()) s [] Q :=
  .through s rfl (s.did_nil stop) behind

structure State.Holds (world : σ) (snapshot : Snapshot) (last : Memory)
    (t : State (σ × List Deed)) : Prop where
  world : t.world.1 = world
  snapshot : t.snapshot = snapshot
  last : t.last = last

variable {world : σ} {snapshot : Snapshot} {last : Memory}

theorem does_send (holds : s.Holds world snapshot last) (stop : Interruption) (e : Event) :
    Does stop (send stop e) s [.send e] (State.Holds world snapshot last) :=
  .cons (run_send stop e s) (fun on => State.did_one on rfl (List.append_nil _).symm rfl)
    (does_pure stop ⟨holds.world, holds.snapshot, holds.last⟩)

theorem does_note (holds : s.Holds world snapshot last) (w : Watch (σ × List Deed))
    (stop : Interruption) (status : ResourceStatus) :
    Does stop (w.note stop status) s
      (if last.differs status || w.reportUnchanged then [.send (.update status)] else [])
      (State.Holds world snapshot (last.put status)) := by
  have remembered : (s.remembering status).Holds world snapshot (last.put status) :=
    ⟨holds.world, holds.snapshot, congrArg (Memory.put · status) holds.last⟩
  have run := run_note w stop status s
  rw [holds.last] at run
  -- Remembering is no deed: behind it the run has done what it had done before.
  have same : s.Did stop [] (s.remembering status) :=
    ⟨(List.append_nil _).symm, (List.append_nil _).symm, rfl, (s.did_nil stop).free⟩
  split
  case isTrue due =>
    rw [if_pos due] at run
    cases does_send remembered stop (.update status) with
    | through t run' did behind => exact .through t (run.trans run') (same.trans did) behind
    | stopped done next rest t split run' did told =>
      exact .stopped done next rest t split (run.trans run') (same.trans did) told
  case isFalse notDue =>
    rw [if_neg notDue] at run
    exact .through _ run same remembered

theorem does_report (holds : s.Holds world snapshot last) (w : Watch σ) (stop : Interruption)
    (id : ObjectId) :
    let read := (w.source.readAs snapshot id).run world
    Does stop (w.traced.report stop id) s
      (.read id ::
        if last.differs read.1 || w.reportUnchanged then [.send (.update read.1)] else [])
      (State.Holds read.2 snapshot (last.put read.1)) := by
  obtain ⟨rfl, rfl, rfl⟩ := holds
  intro read
  have logged : (w.traced.source.readAs s.snapshot id).run s.world =
      (read.1, read.2, s.world.2 ++ [.read id]) := rfl
  have run := run_report w.traced stop id s
  rw [logged] at run
  exact .cons run (fun on => State.did_one on (List.append_nil _).symm rfl rfl)
    (does_note ⟨rfl, rfl, rfl⟩ w.traced stop read.1)

theorem does_reports (w : Watch σ) (stop : Interruption) {earlier : List Answer}
    {ids : List ObjectId} (distinct : ids.Nodup) (holds : s.Holds world snapshot last)
    (recalled : ∀ id ∈ ids, last.lookup id = lastComputed earlier id) :
    let read := (ids.mapM (w.source.readAs snapshot)).run world
    Does stop (ids.forM (w.traced.report stop)) s
      (read.1.flatMap (statusDeeds w.reportUnchanged earlier))
      (State.Holds read.2 snapshot (read.1.foldl Memory.put last)) := by
  induction ids generalizing s world last with
  | nil => exact does_pure stop holds
  | cons id rest ih =>
    rw [List.nodup_cons] at distinct
    intro read
    let first := (w.source.readAs snapshot id).run world
    let others := (rest.mapM (w.source.readAs snapshot)).run first.2
    have reading : read = (first.1 :: others.1, others.2) := Source.mapM_run_cons _ id rest world
    have due : isDue w.reportUnchanged earlier first.1 =
        (last.differs first.1 || w.reportUnchanged) :=
      Memory.isDue_eq (recalled id List.mem_cons_self) _
    -- What is remembered of the others is still from earlier ticks, for no identifier comes twice.
    have later : ∀ other ∈ rest, (last.put first.1).lookup other = lastComputed earlier other := by
      intro other mem
      have apart : other ≠ first.1.id := by
        rintro rfl
        exact distinct.1 mem
      rw [Memory.lookup_put, if_neg apart]
      exact recalled other (List.mem_cons_of_mem id mem)
    have here : Does stop (w.traced.report stop id) s (statusDeeds w.reportUnchanged earlier first.1)
        (State.Holds first.2 snapshot (last.put first.1)) := by
      rw [statusDeeds, due]
      exact does_report holds w stop id
    rw [reading]
    exact here.bind fun t behind => ih distinct.2 behind later

theorem does_tick (w : Watch σ) (stop : Interruption) {earlier : List Answer}
    (distinct : w.ids.Nodup) (holds : s.Holds world snapshot last)
    (recalled : ∀ id ∈ w.ids, last.lookup id = lastComputed earlier id) :
    let answer := w.source.answer w.ids snapshot world
    Does stop (w.traced.tick stop) s (tickDeeds w.reportUnchanged earlier answer.1)
      (State.Holds answer.2.2 answer.2.1 (last.after answer.1)) := by
  obtain ⟨rfl, rfl, rfl⟩ := holds
  have run := run_tick w.traced stop s
  have logged : (w.traced.source.sync w.traced.ids s.snapshot).run s.world =
      (((w.source.sync w.ids s.snapshot).run s.world.1).1,
        ((w.source.sync w.ids s.snapshot).run s.world.1).2, s.world.2 ++ [.sync]) := rfl
  rw [logged] at run
  unfold Source.answer
  have synced {taken : Snapshot} {outcome : Except Error Unit} {behind : σ}
      (on : stop s.passed = false) :
      s.Did stop [.sync] (s.pass.synced ((outcome, taken), behind, s.world.2 ++ [.sync])) :=
    State.did_one on (List.append_nil _).symm rfl rfl
  generalize (w.source.sync w.ids s.snapshot).run s.world.1 = pass at run ⊢
  rcases pass with ⟨⟨e | ⟨⟩, taken⟩, behind⟩
  · exact .cons run synced (does_send ⟨rfl, rfl, rfl⟩ stop (.syncFailed e))
  · have reports := does_reports w stop distinct
      (s := s.pass.synced ((.ok (), taken), behind, s.world.2 ++ [.sync])) ⟨rfl, rfl, rfl⟩ recalled
    exact .cons run synced (reports.bind fun t holds => does_send holds stop .tickEnd)

theorem does_run (w : Watch σ) (stop : Interruption) (n : Nat) {earlier : List Answer}
    (distinct : w.ids.Nodup) (holds : s.Holds world snapshot last)
    (recalled : ∀ id ∈ w.ids, last.lookup id = lastComputed earlier id) :
    Does stop (w.traced.run stop n) s
      (runDeeds w.reportUnchanged earlier (w.source.answers w.ids n snapshot world))
      fun _ => True := by
  -- Each tick hands on what it holds, and a memory that is that of the ticks up to it.
  induction n generalizing s earlier snapshot world last with
  | zero => exact does_pure stop trivial
  | succ n ih =>
    have run : (w.traced.run stop (n + 1)).run s = if stop s.passed then (none, s) else
        (w.traced.tick stop >>= fun _ => w.traced.run stop n).run s.pass :=
      run_behind stop _ s
    have waited : s.pass.Holds world snapshot last := ⟨holds.world, holds.snapshot, holds.last⟩
    refine .cons run
      (fun on => State.did_one on (List.append_nil _).symm (List.append_nil _).symm rfl) ?_
    refine (does_tick w stop distinct waited recalled).bind fun t behind => ih behind fun id mem => ?_
    refine Memory.lookup_after (recalled id mem) fun statuses same => ?_
    rw [Source.map_id_answer same]
    exact distinct

/-- What was done when a run ended, and what was still to do. It ended by itself with nothing left,
or at the first place that stopped it. -/
theorem Does.ends (h : Does stop m s deeds Q) :
    ∃ done rest, deeds = done ++ rest ∧ s.Did stop done (m.run s).2 ∧
      ((m.run s).1 = some () ∧ rest = [] ∨
        (m.run s).1 = none ∧ rest ≠ [] ∧ stop (m.run s).2.passed = true) := by
  cases h with
  | through t run did behind =>
    rw [run]
    exact ⟨deeds, [], (List.append_nil _).symm, did, .inl ⟨rfl, rfl⟩⟩
  | stopped done next rest t split run did told =>
    rw [run]
    exact ⟨done, next :: rest, split, did, .inr ⟨rfl, List.cons_ne_nil _ _, told⟩⟩

end Does

theorem run_traced (w : Watch σ) (stop : Interruption) (n : Nat) (world : σ) :
    let plain := (w.run stop n).run (.initial world)
    let logged := (w.traced.run stop n).run (.initial (world, []))
    logged.1 = plain.1 ∧ logged.2.events = plain.2.events ∧ logged.2.world.1 = plain.2.world := by
  intro plain logged
  obtain ⟨outcome, behind⟩ := mirrors_run (w := w.traced) w.source.traced_alike stop n
    (.initial (world, [])) (.initial world) ⟨rfl, rfl, rfl, rfl, rfl⟩
  exact ⟨outcome, behind.events, behind.world⟩

theorem ends_run (w : Watch σ) (distinct : w.ids.Nodup) (stop : Interruption) (n : Nat) (world : σ) :
    let ended := (w.run stop n).run (.initial world)
    let logged := (w.traced.run stop n).run (.initial (world, []))
    ∃ done rest,
      runDeeds w.reportUnchanged [] (w.source.answers w.ids n .empty world) = done ++ rest ∧
        (∀ j < done.length, stop j = false) ∧
        (ended.1 = some () ∧ rest = [] ∨ ended.1 = none ∧ rest ≠ [] ∧ stop done.length = true) ∧
        ended.2.events = done.filterMap Deed.event? ∧
        logged.1 = ended.1 ∧ logged.2.events = ended.2.events ∧
        logged.2.world = (ended.2.world, done.filter Deed.isCall) := by
  intro ended logged
  obtain ⟨outcome, events, behind⟩ := run_traced w stop n world
  have start : (State.initial (world, ([] : List Deed))).Holds world .empty [] := ⟨rfl, rfl, rfl⟩
  have does := does_run w stop n distinct start fun id _ => (rfl : _ = lastComputed [] id)
  obtain ⟨done, rest, split, did, ends⟩ := does.ends
  have passed : logged.2.passed = done.length := did.passed.trans (Nat.zero_add _)
  refine ⟨done, rest, split, fun j before => ?_, ?_, ?_, outcome, events, ?_⟩
  · exact did.free j (Nat.zero_le j) (passed ▸ before)
  · rw [← passed, ← outcome]
    exact ends
  · exact events.symm.trans did.events
  · exact Prod.ext behind did.calls

/-- A run through the given number of ticks reports, tick by tick, one failed pass, or the statuses
that are due and the end of the tick; a tick that reads has one status for each identifier, in the
order and under the identifiers that were asked for. Stopped anywhere, the run has done what stands
before the first place that stopped it: it has sent these events alone, and neither a pass nor a
reading is in its log behind that place. A pass or a reading that is given up midway has reported
nothing, so that the run is stopped at its place; a receiver that is gone stops the run at the place
of an event. -/
theorem run_interrupted (cluster : Cluster σ) (catalog : Catalog) (rules : Option StatusRules)
    {ids : List ObjectId} (distinct : ids.Nodup) (options : WatchOptions)
    (due : options.interval ≠ 0) :
    ∃ w, start? cluster catalog rules ids options = some w ∧ ∀ n world,
      let answers := w.source.answers ids n .empty world
      let through := (w.run never n).run (.initial world)
      (∀ statuses, .ok statuses ∈ answers → statuses.map (·.id) = ids) ∧
        through.1 = some () ∧
        through.2.events = inTurn (tickEvents options.reportUnchanged) [] answers ∧
        ∀ stop,
          let ended := (w.run stop n).run (.initial world)
          let logged := (w.traced.run stop n).run (.initial (world, []))
          ended.2.events <+: through.2.events ∧ ∃ done rest,
            runDeeds options.reportUnchanged [] answers = done ++ rest ∧
              (∀ j < done.length, stop j = false) ∧
              (ended.1 = some () ∧ rest = [] ∨
                ended.1 = none ∧ rest ≠ [] ∧ stop done.length = true) ∧
              ended.2.events = done.filterMap Deed.event? ∧
              logged.1 = ended.1 ∧ logged.2.events = ended.2.events ∧
              logged.2.world = (ended.2.world, done.filter Deed.isCall) := by
  refine ⟨_, if_neg due, fun n world => ?_⟩
  let w : Watch σ := ⟨.ofCluster cluster (planFor catalog rules options.overrides)
    options.useSnapshot, ids, options.reportUnchanged⟩
  have uninterrupted : ((w.run never n).run (.initial world)).1 = some () ∧
      ((w.run never n).run (.initial world)).2.events =
        inTurn (tickEvents w.reportUnchanged) [] (w.source.answers ids n .empty world) := by
    obtain ⟨done, rest, split, -, ends, sent, -⟩ := ends_run w distinct never n world
    rcases ends with ⟨through, rfl⟩ | ⟨-, -, told⟩
    · rw [List.append_nil] at split
      refine ⟨through, ?_⟩
      rw [sent, ← split, events_runDeeds]
    · cases told
  refine ⟨fun statuses => w.source.map_id_answers ids n .empty world, uninterrupted.1,
    uninterrupted.2, fun stop => ⟨?_, ends_run w distinct stop n world⟩⟩
  obtain ⟨done, rest, split, -, -, sent, -⟩ := ends_run w distinct stop n world
  rw [uninterrupted.2, ← events_runDeeds, split, List.filterMap_append]
  exact ⟨rest.filterMap Deed.event?, congrArg (· ++ _) sent⟩

/-- Two ticks over a pod that cannot be read at first and one that is gone all the time, stopped before
the second one ends. Of the second tick only the pod that is read by then is reported. -/
theorem run_interrupted_pods :
    let pod := Json.object [("apiVersion", .str "v1"), ("kind", .str "Pod"),
      ("metadata", .object [("name", .str "web"), ("namespace", .str "default")]),
      ("status", .object [("phase", .str "Succeeded")])]
    let web : ObjectId := ⟨⟨"", "Pod"⟩, "web", ""⟩
    let gone : ObjectId := ⟨⟨"", "Pod"⟩, "gone", "default"⟩
    let busy : Error := .timeout "get Pod/web"
    let world : Scripted := ⟨[pod], [⟨"Pod", busy⟩], []⟩
    let sent : List Event := [
      .update ⟨web, "Unknown", "request timed out: get Pod/web", some busy, none, []⟩,
      .update ⟨gone, "NotFound", "Resource not found", none, none, []⟩, .tickEnd,
      .update ⟨web, "Current", "Pod has completed successfully", none, some pod, []⟩]
    ∃ w, start? .scripted .builtin none [web, gone] ⟨1, false, false, []⟩ = some w ∧
      ((w.run never 2).run (.initial world)).2.events = sent ++ [.tickEnd] ∧
      ((w.run (· == 12) 2).run (.initial world)).1 = none ∧
      ((w.run (· == 12) 2).run (.initial world)).2.events = sent ∧
      ((w.traced.run (· == 12) 2).run (.initial (world, []))).2.world.2 =
        [.sync, .read web, .read gone, .sync, .read web, .read gone] := by
  intro pod web gone busy world sent
  have distinct : [web, gone].Nodup := by decide
  obtain ⟨w, started, all⟩ := run_interrupted .scripted .builtin none distinct
    ⟨1, false, false, []⟩ (by decide)
  obtain ⟨-, -, through, stopped⟩ := all 2 world
  obtain ⟨-, done, rest, split, free, ends, events, -, -, log⟩ := stopped (· == 12)
  refine ⟨w, started, ?_⟩
  cases started
  have deeds : done ++ rest =
      [.wait, .sync,
        .read web,
        .send (.update ⟨web, "Unknown", "request timed out: get Pod/web", some busy, none, []⟩),
        .read gone, .send (.update ⟨gone, "NotFound", "Resource not found", none, none, []⟩),
        .send .tickEnd, .wait, .sync,
        .read web,
        .send (.update ⟨web, "Current", "Pod has completed successfully", none, some pod, []⟩),
        .read gone, .send .tickEnd] := split.symm.trans rfl
  have before : done.length ≤ 12 := by
    by_contra beyond
    cases free 12 (Nat.lt_of_not_le beyond)
  rcases ends with ⟨-, rfl⟩ | ⟨none, -, told⟩
  · rw [List.append_nil] at deeds
    rw [deeds] at before
    exact absurd before (by decide)
  · have twelve : done.length = 12 := eq_of_beq told
    have first := (List.take_left' twelve).symm.trans (congrArg (List.take 12) deeds)
    rw [first] at events log
    exact ⟨through.trans rfl, none, events, congrArg Prod.snd log⟩

end Watch

end StatusWatch
