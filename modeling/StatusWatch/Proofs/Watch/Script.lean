import StatusWatch.Proofs.Keyed
import StatusWatch.Proofs.Watch.Ticks
import StatusWatch.Proofs.Yields

/-!
Ticks by a script. A watch takes its statuses from a source that it knows nothing of, so a source
that goes by a script makes every sequence of ticks; and every uninterrupted run has a script that
makes the same events.
-/

namespace StatusWatch

/-- What ticks are to read: each fails, or has a status for every identifier. -/
abbrev Script := List (Except Error (ObjectId → ResourceStatus))

namespace Script

def source : Source (Script × (ObjectId → ResourceStatus)) where
  sync _ snapshot
    | (.ok statusOf :: rest, _) => ((.ok (), snapshot), rest, statusOf)
    | (.error e :: rest, current) => ((.error e, snapshot), rest, current)
    | ([], current) => ((.ok (), snapshot), [], current)
  read _ id := fun (rest, statusOf) => (statusOf id, rest, statusOf)

def events (script : Script) (ids : List ObjectId) (reportUnchanged : Bool) : List Event :=
  let w : Watch _ := ⟨source, ids, reportUnchanged⟩
  let start := (script, fun id => ResourceStatus.unknown id (.timeout ""))
  ((w.run Watch.never script.length).run (.initial start)).2.events

/-- What a tick reads for each identifier. -/
def answer (ids : List ObjectId) (tick : Except Error (ObjectId → ResourceStatus)) : Answer :=
  tick.map fun statusOf => ids.map fun id => { statusOf id with id }

theorem answers_source (ids : List ObjectId) (snapshot : Snapshot) (script : Script)
    (current : ObjectId → ResourceStatus) :
    source.answers ids script.length snapshot (script, current) = script.map (answer ids) := by
  induction script generalizing current with
  | nil => rfl
  | cons tick rest ih =>
    cases tick with
    | error e => exact congrArg _ (ih current)
    | ok statusOf =>
      have read : Yields (· = (rest, statusOf)) (ids.mapM (source.readAs snapshot))
          (ids.map fun id => { statusOf id with id }) := by
        refine .mapM fun id _ s hs => ?_
        subst hs
        exact ⟨rfl, rfl⟩
      have tick : source.answer ids snapshot (.ok statusOf :: rest, current) =
          (.ok (ids.map fun id => { statusOf id with id }), snapshot, rest, statusOf) :=
        Source.answer_of_ok rfl (Prod.ext (read _ rfl).1 (read _ rfl).2)
      rw [List.length_cons, Source.answers, tick, ih]
      rfl

theorem events_eq (script : Script) (ids : List ObjectId) (reportUnchanged : Bool) :
    script.events ids reportUnchanged =
      Watch.Memory.allEvents reportUnchanged [] (script.map (answer ids)) := by
  rw [events, Watch.events_run, ← answers_source ids .empty script]
  rfl

theorem exists_answer (source : Source σ) {ids : List ObjectId} (h : ids.Nodup)
    (snapshot : Snapshot) (world : σ) :
    ∃ tick, answer ids tick = (source.answer ids snapshot world).1 := by
  cases read : (source.answer ids snapshot world).1 with
  | error e => exact ⟨.error e, rfl⟩
  | ok statuses =>
    have same := Source.map_id_answer read
    rw [← same] at h ⊢
    refine ⟨.ok fun id => (statuses.find? (·.id = id)).getD (.unknown id (.timeout "")), ?_⟩
    simp only [answer, Except.map, List.map_map]
    refine congrArg _ ((List.map_congr_left fun status hs => ?_).trans (List.map_id _))
    simp only [Function.comp_apply, find?_key_eq h hs, Option.getD_some, id_eq]
    cases status
    rfl

/-- Every uninterrupted run goes by a script, and by the same one whatever is reported. -/
theorem exists_events (source : Source σ) {ids : List ObjectId} (h : ids.Nodup) (n : Nat)
    (world : σ) :
    ∃ script : Script, script.length = n ∧ ∀ b,
      (((⟨source, ids, b⟩ : Watch σ).run Watch.never n).run (.initial world)).2.events =
        script.events ids b := by
  have answers : ∀ snapshot world, ∃ script : Script, script.length = n ∧
      source.answers ids n snapshot world = script.map (answer ids) := by
    induction n with
    | zero => exact fun _ _ => ⟨[], rfl, rfl⟩
    | succ n ih =>
      intro snapshot world
      obtain ⟨tick, htick⟩ := exists_answer source h snapshot world
      obtain ⟨script, length, hscript⟩ := ih (source.answer ids snapshot world).2.1
        (source.answer ids snapshot world).2.2
      exact ⟨tick :: script, congrArg (· + 1) length, by simp [Source.answers, htick, hscript]⟩
  obtain ⟨script, length, hscript⟩ := answers .empty world
  refine ⟨script, length, fun b => ?_⟩
  rw [Watch.events_run, events_eq, ← hscript]
  rfl

end Script

end StatusWatch
