import StatusWatch.Proofs.Progress.Shown
import StatusWatch.Proofs.Watch.Script

/-!
Following a watch that reports only changes. The progress tracks what the watch remembers, and what
is not reported would change nothing that is shown; so leaving it out changes neither the verdict
nor a line. At the end of a tick every resource is shown as that tick read it.
-/

namespace StatusWatch

namespace Watch.Memory

/-- What is remembered of an identifier, as far as it is shown. -/
def shown (m : Memory) (id : ObjectId) : Option Shown :=
  (m.lookup id).map ResourceStatus.shown

theorem shown_put (m : Memory) (s : ResourceStatus) (id : ObjectId) :
    (m.put s).shown id = if id = s.id then some s.shown else m.shown id := by
  rw [shown, lookup_put]
  split <;> rfl

/-- Remembering what is not reported changes nothing that is shown. -/
theorem shown_put_of_not_differs {m : Memory} {s : ResourceStatus} (h : m.differs s = false) :
    (m.put s).shown = m.shown := by
  funext id
  rw [shown_put]
  split
  case isTrue same =>
    subst same
    cases before : m.lookup s.id with
    | none => simp [differs, before] at h
    | some old =>
      have alike : old.sameState s = true := by simpa [differs, before] using h
      simp [shown, before, ResourceStatus.sameState_iff.mp alike]
  case isFalse => rfl

theorem shown_after (m : Memory) (statusOf : ObjectId → ResourceStatus) (ids : List ObjectId)
    (id : ObjectId) :
    (m.after (Script.answer ids (.ok statusOf))).shown id =
      if id ∈ ids then some (statusOf id).shown else m.shown id := by
  change ((ids.map fun id => { statusOf id with id }).foldl put m).shown id = _
  induction ids generalizing m with
  | nil => simp
  | cons first rest ih =>
    rw [List.map_cons, List.foldl_cons, ih, shown_put]
    by_cases later : id ∈ rest
    · simp [later]
    · by_cases now : id = first
      · simp [now, ResourceStatus.shown, ResourceStatus.errorText]
      · simp [later, now]

end Watch.Memory

namespace Progress

open Watch (Memory)

variable {p q : Progress} {m : Memory}

/-- A progress that shows what a watch remembers. -/
def Tracks (p : Progress) (m : Memory) : Prop :=
  p.shown = p.ids.map fun id => (id, m.shown id)

theorem tracks_iff :
    p.Tracks m ↔ ∀ e ∈ p.entries, e.2.map ResourceStatus.shown = m.shown e.1 := by
  simp only [Tracks, shown, Progress.ids, List.map_map, List.map_inj_left, Function.comp_apply,
    Prod.mk.injEq, true_and]

theorem tracks_ofIds (ids : List ObjectId) : (ofIds ids).Tracks [] := by
  refine tracks_iff.mpr fun e he => ?_
  rw [eq_none_of_mem_ofIds e he]
  rfl

theorem Tracks.update (h : p.Tracks m) (s : ResourceStatus) : (p.update s).Tracks (m.put s) := by
  refine tracks_iff.mpr fun e he => ?_
  obtain ⟨before, hbefore, rfl⟩ := List.mem_map.mp he
  rw [Memory.shown_put]
  by_cases same : before.1 = s.id
  · simp [same]
  · simpa [same] using tracks_iff.mp h before hbefore

theorem Tracks.put (h : p.Tracks m) {s : ResourceStatus} (same : m.differs s = false) :
    p.Tracks (m.put s) := by
  unfold Tracks
  rw [Memory.shown_put_of_not_differs same]
  exact h

theorem Tracks.follow_updates (h : p.Tracks m) (desired : Status) (reportUnchanged : Bool)
    (statuses : List ResourceStatus) :
    ∃ q : Progress, q.Tracks (statuses.foldl Memory.put m) ∧ q.ids = p.ids ∧ ∀ rest,
      p.follow desired (m.updates reportUnchanged statuses ++ rest) = q.follow desired rest := by
  induction statuses generalizing p m with
  | nil => exact ⟨p, h, rfl, fun _ => rfl⟩
  | cons s others ih =>
    by_cases due : (m.differs s || reportUnchanged) = true
    · obtain ⟨q, tracks, ids, follow⟩ := ih (h.update s)
      refine ⟨q, tracks, ids.trans (p.ids_update s), fun rest => ?_⟩
      rw [Memory.updates, if_pos due]
      exact follow rest
    · have same : m.differs s = false := by grind
      obtain ⟨q, tracks, ids, follow⟩ := ih (h.put same)
      refine ⟨q, tracks, ids, fun rest => ?_⟩
      rw [Memory.updates, if_neg due]
      exact follow rest

structure Outcome.Alike (a b : Outcome) : Prop where
  verdict : a.verdict = b.verdict
  lines : a.lines = b.lines
  shown : a.progress.shown = b.progress.shown

/-- Two progresses that track one memory come to the same, whatever each is told of unchanged
resources. -/
theorem Tracks.follow_alike (hp : p.Tracks m) (hq : q.Tracks m) (ids : p.ids = q.ids)
    (desired : Status) (a b : Bool) (answers : List Answer) :
    (p.follow desired (m.allEvents a answers)).Alike
      (q.follow desired (m.allEvents b answers)) := by
  induction answers generalizing p q m with
  | nil =>
    have same : p.shown = q.shown := by rw [hp, hq, ids]
    exact ⟨rfl, rfl, same⟩
  | cons answer rest ih =>
    cases answer with
    | error e =>
      have behind := ih hp hq ids
      exact ⟨behind.verdict, congrArg (_ :: ·) behind.lines, behind.shown⟩
    | ok statuses =>
      -- Each progress takes its own share of the updates; behind them both track one memory.
      obtain ⟨p', hp', idsp, followp⟩ := hp.follow_updates desired a statuses
      obtain ⟨q', hq', idsq, followq⟩ := hq.follow_updates desired b statuses
      have ids' : p'.ids = q'.ids := by rw [idsp, idsq, ids]
      have same : p'.shown = q'.shown := by rw [hp', hq', ids']
      simp only [Memory.allEvents, Memory.events, List.append_assoc, followp, followq]
      simp only [List.singleton_append, Progress.follow, summary_congr same, verdict?_congr same]
      cases q'.verdict? desired with
      | some verdict => exact ⟨rfl, rfl, same⟩
      | none =>
        have behind := ih hp' hq' ids'
        exact ⟨behind.verdict, congrArg (_ :: ·) behind.lines, behind.shown⟩

/-- What a tick decides by the statuses that it reads, if anything. -/
def decision? (desired : Status) (ids : List ObjectId) :
    Except Error (ObjectId → ResourceStatus) → Option Verdict
  | .error _ => none
  | .ok statusOf =>
    if ∀ id ∈ ids, (statusOf id).status = desired then some .reached
    else if desired ≠ .failed ∧ ∃ id ∈ ids, (statusOf id).status = .failed then some .failed
    else none

theorem verdict?_eq_decision? {ids : List ObjectId} {statusOf : ObjectId → ResourceStatus}
    (same : ∀ id, id ∈ p.ids ↔ id ∈ ids)
    (h : p.Tracks (m.after (Script.answer ids (.ok statusOf)))) (desired : Status) :
    p.verdict? desired = decision? desired ids (.ok statusOf) := by
  have shown : p.shown = p.ids.map fun id => (id, some (statusOf id).shown) := by
    rw [h]
    refine List.map_congr_left fun id hid => ?_
    rw [Memory.shown_after, if_pos ((same id).mp hid)]
  have reached : p.allReached desired = true ↔ ∀ id ∈ ids, (statusOf id).status = desired := by
    simp [allReached_eq, shown, isShownAt, ResourceStatus.shown, same]
  have failed : (!p.failed.isEmpty) = true ↔ ∃ id ∈ ids, (statusOf id).status = .failed := by
    simp [isEmpty_failed_eq, shown, isShownAt, ResourceStatus.shown, same]
  simp only [verdict?, decision?, reached, failed]

theorem Tracks.verdict_follow {ids : List ObjectId} (h : p.Tracks m)
    (same : ∀ id, id ∈ p.ids ↔ id ∈ ids) (desired : Status) (reportUnchanged : Bool)
    (script : Script) :
    (p.follow desired (m.allEvents reportUnchanged (script.map (Script.answer ids)))).verdict =
      (script.findSome? (decision? desired ids)).getD .closed := by
  induction script generalizing p m with
  | nil => rfl
  | cons tick rest ih =>
    cases tick with
    | error e => exact ih h same
    | ok statusOf =>
      obtain ⟨q, hq, idsq, follow⟩ := h.follow_updates desired reportUnchanged
        (ids.map fun id => { statusOf id with id })
      have same' : ∀ id, id ∈ q.ids ↔ id ∈ ids := fun id => by rw [idsq, same]
      have decides := verdict?_eq_decision? same' hq desired
      rw [List.map_cons, List.findSome?_cons, ← decides]
      simp only [Script.answer, Except.map, Memory.allEvents, Memory.events, List.append_assoc,
        follow, List.singleton_append, Progress.follow]
      cases q.verdict? desired with
      | some verdict => rfl
      | none => exact ih hq same'

/-- Whether unchanged resources are reported makes no difference to one who follows, and the
verdict is that of the first tick whose own statuses decide. The ticks of every run are those of a
script. -/
theorem follow_events_script (ids : List ObjectId) (desired : Status) :
    (∀ script : Script,
      let changes := (ofIds ids).follow desired (script.events ids false)
      let all := (ofIds ids).follow desired (script.events ids true)
      (changes.verdict = all.verdict ∧ changes.lines = all.lines ∧
          changes.progress.shown = all.progress.shown) ∧
        changes.verdict = (script.findSome? (decision? desired ids)).getD .closed) ∧
    (ids.Nodup → ∀ {σ : Type} (source : Source σ) (n : Nat) (world : σ),
      ∃ script : Script, script.length = n ∧ ∀ reportUnchanged,
        (((⟨source, ids, reportUnchanged⟩ : Watch σ).run Watch.never n).run
          (.initial world)).2.events = script.events ids reportUnchanged) := by
  refine ⟨fun script => ?_, fun distinct _ source n world => ?_⟩
  · simp only [Script.events_eq]
    have start := tracks_ofIds ids
    have alike := start.follow_alike start rfl desired false true (script.map (Script.answer ids))
    exact ⟨⟨alike.verdict, alike.lines, alike.shown⟩,
      start.verdict_follow (fun _ => mem_ids_ofIds) desired false script⟩
  · exact Script.exists_events source distinct n world

/-- Two pods that wait for a tick longer than is reported, behind a pass that fails. -/
theorem follow_events_script_pods :
    let ids : List ObjectId := [⟨⟨"", "Pod"⟩, "web", "default"⟩, ⟨⟨"", "Pod"⟩, "db", "default"⟩]
    let tick (status : Status) : Except Error (ObjectId → ResourceStatus) :=
      .ok fun id => ⟨id, status, "", none, none, []⟩
    let script : Script := [.error (.timeout "list pods"), tick "InProgress", tick "InProgress",
      tick "Current", tick "Failed"]
    let changes := (ofIds ids).follow "Current" (script.events ids false)
    let all := (ofIds ids).follow "Current" (script.events ids true)
    (script.events ids false).length = 11 ∧ (script.events ids true).length = 13 ∧
      changes.verdict = .reached ∧ changes.lines = all.lines ∧
      changes.progress.shown = all.progress.shown ∧
      ∃ other : Script, other.length = 2 ∧ ∀ reportUnchanged,
        (((⟨Script.source, ids, reportUnchanged⟩ : Watch _).run Watch.never 2).run
          (.initial (script, fun id => .unknown id (.timeout "")))).2.events =
            other.events ids reportUnchanged := by
  intro ids tick script changes all
  obtain ⟨scripted, every⟩ := follow_events_script ids "Current"
  obtain ⟨⟨-, lines, shown⟩, verdict⟩ := scripted script
  refine ⟨by decide +kernel, by decide +kernel, verdict.trans (by decide +kernel), lines, shown, ?_⟩
  exact every (by decide) Script.source 2 _

end Progress

end StatusWatch
