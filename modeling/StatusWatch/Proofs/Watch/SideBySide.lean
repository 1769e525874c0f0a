import StatusWatch.Proofs.Snapshot.SideBySide
import StatusWatch.Proofs.Watch.Steps

/-!
Two runs side by side, over sources that answer alike. They may begin with different snapshots, for
a tick reads nothing before its own pass has succeeded.
-/

namespace StatusWatch

/-- Passes over related snapshots end alike, and readings from one snapshot agree. -/
structure Source.Alike (R : σ → τ → Prop) (S : Snapshot → Snapshot → Prop) (source : Source σ)
    (other : Source τ) : Prop where
  sync : ∀ ids s t, S s t → ∀ world twin, R world twin →
    Snapshot.SameOutcome S ((source.sync ids s).run world).1 ((other.sync ids t).run twin).1 ∧
      R ((source.sync ids s).run world).2 ((other.sync ids t).run twin).2
  read : ∀ s id, Mirrors R (source.read s id) (other.read s id)

variable {R : σ → τ → Prop} {S : Snapshot → Snapshot → Prop}

theorem Source.withSnapshot_alike {cluster : Cluster σ} {other : Cluster τ}
    (alike : cluster.Alike R other) (plan : ReadingPlan) :
    (ofCluster cluster plan true).Alike R Snapshot.SameTimeouts (ofCluster other plan true) where
  sync ids _ _ same _ _ start := Snapshot.sync_alike alike plan.catalog ids same start
  read s id := plan.mirrors_read (Snapshot.view_alike alike plan.catalog s) id

theorem Source.direct_alike {cluster : Cluster σ} {other : Cluster τ}
    (alike : cluster.Alike R other) (plan : ReadingPlan) :
    (ofCluster cluster plan false).Alike R Eq (ofCluster other plan false) where
  sync _ _ _ same _ _ start := ⟨⟨rfl, same, fun _ => same⟩, start⟩
  read _ id := plan.mirrors_read (View.direct_alike alike plan.catalog) id

namespace Watch

def withSource (w : Watch σ) (other : Source τ) : Watch τ :=
  ⟨other, w.ids, w.reportUnchanged⟩

structure State.Alike (R : σ → τ → Prop) (S : Snapshot → Snapshot → Prop) (s : State σ)
    (t : State τ) : Prop where
  world : R s.world t.world
  snapshot : S s.snapshot t.snapshot
  last : s.last = t.last
  events : s.events = t.events
  passed : s.passed = t.passed

/-- States in the middle of a tick. -/
def State.InStep (R : σ → τ → Prop) (S : Snapshot → Snapshot → Prop) (s : State σ) (t : State τ) :
    Prop :=
  s.Alike R S t ∧ s.snapshot = t.snapshot

theorem mirrors_bind {Q : State σ → State τ → Prop} {m : Steps σ α} {m' : Steps τ α}
    {f : α → Steps σ β} {f' : α → Steps τ β} (h : Mirrors Q m.run m'.run)
    (hf : ∀ a, Mirrors Q (f a).run (f' a).run) : Mirrors Q (m >>= f).run (m' >>= f').run := by
  rw [OptionT.run_bind, OptionT.run_bind]
  refine Mirrors.bind h fun outcome => ?_
  cases outcome with
  | none => exact .pure none
  | some a => exact hf a

variable {s : State σ} {t : State τ} {stop : Interruption}

theorem State.Alike.pass (h : s.Alike R S t) : s.pass.Alike R S t.pass :=
  ⟨h.world, h.snapshot, h.last, h.events, congrArg (· + 1) h.passed⟩

theorem State.Alike.reported (h : s.Alike R S t) (e : Event) : (s.reported e).Alike R S (t.reported e) :=
  ⟨h.world, h.snapshot, h.last, congrArg (· ++ [e]) h.events, h.passed⟩

theorem mirrors_checkpoint (stop : Interruption) :
    Mirrors (State.Alike R S) (checkpoint stop).run (checkpoint stop).run := by
  intro s t alike
  change ((checkpoint stop).run s).1 = ((checkpoint stop).run t).1 ∧
    ((checkpoint stop).run s).2.Alike R S ((checkpoint stop).run t).2
  rw [run_checkpoint, run_checkpoint, alike.passed]
  split
  · exact ⟨rfl, alike⟩
  · exact ⟨rfl, alike.pass⟩

theorem mirrors_send (stop : Interruption) (e : Event) :
    Mirrors (State.Alike R S) (send stop e).run (send stop e).run :=
  mirrors_bind (mirrors_checkpoint stop) fun _ _ _ alike => ⟨rfl, alike.reported e⟩

theorem mirrors_send_inStep (stop : Interruption) (e : Event) :
    Mirrors (State.InStep R S) (send stop e).run (send stop e).run := by
  rintro s t ⟨alike, same⟩
  have sent := mirrors_send stop e s t alike
  change ((send stop e).run s).1 = ((send stop e).run t).1 ∧
    ((send stop e).run s).2.InStep R S ((send stop e).run t).2
  refine ⟨sent.1, sent.2, ?_⟩
  rw [run_send, run_send, alike.passed]
  split
  · exact same
  · exact same

theorem mirrors_note (w : Watch σ) (other : Source τ) (stop : Interruption)
    (status : ResourceStatus) :
    Mirrors (State.InStep R S) (w.note stop status).run ((w.withSource other).note stop status).run := by
  have remembered : Mirrors (State.InStep R S) (remember status).run (remember status).run := by
    rintro s t ⟨h, same⟩
    refine ⟨congrArg (fun last : Memory => some (last.differs status)) h.last, ?_, same⟩
    exact ⟨h.world, h.snapshot, congrArg (Memory.put · status) h.last, h.events, h.passed⟩
  refine mirrors_bind remembered fun changed => ?_
  change Mirrors (State.InStep R S)
    (if changed || w.reportUnchanged then send stop (.update status) else pure () : Steps σ Unit).run
    (if changed || w.reportUnchanged then send stop (.update status) else pure () : Steps τ Unit).run
  cases changed || w.reportUnchanged with
  | true => exact mirrors_send_inStep stop (.update status)
  | false => exact .pure (some ())

variable {w : Watch σ} {other : Source τ} (alike : w.source.Alike R S other)

include alike

theorem mirrors_report (stop : Interruption) (id : ObjectId) :
    Mirrors (State.InStep R S) (w.report stop id).run ((w.withSource other).report stop id).run := by
  rintro s t ⟨h, same⟩
  have readings : Mirrors R (w.source.readAs s.snapshot id) (other.readAs s.snapshot id) :=
    (alike.read s.snapshot id).bind fun status => .pure _
  obtain ⟨status, related⟩ := readings s.world t.world h.world
  change ((w.report stop id).run s).1 = (((w.withSource other).report stop id).run t).1 ∧
    ((w.report stop id).run s).2.InStep R S (((w.withSource other).report stop id).run t).2
  rw [run_report, run_report, h.passed, ← same]
  dsimp only [withSource]
  split
  · exact ⟨rfl, h, same⟩
  · rw [status]
    exact mirrors_note w other stop _ _ _
      ⟨⟨related, h.snapshot, h.last, h.events, h.pass.passed⟩, same⟩

theorem mirrors_reports (stop : Interruption) (rest : List ObjectId) :
    Mirrors (State.InStep R S) (rest.forM (w.report stop)).run
      (rest.forM ((w.withSource other).report stop)).run := by
  induction rest with
  | nil => exact .pure _
  | cons id rest ih => exact mirrors_bind (mirrors_report alike stop id) fun _ => ih

theorem mirrors_tick (stop : Interruption) :
    Mirrors (State.Alike R S) (w.tick stop).run ((w.withSource other).tick stop).run := by
  intro s t h
  obtain ⟨outcome, related⟩ :=
    alike.sync w.ids s.snapshot t.snapshot h.snapshot s.world t.world h.world
  change ((w.tick stop).run s).1 = (((w.withSource other).tick stop).run t).1 ∧
    ((w.tick stop).run s).2.Alike R S (((w.withSource other).tick stop).run t).2
  rw [run_tick, run_tick, h.passed]
  dsimp only [withSource]
  split
  · exact ⟨rfl, h⟩
  generalize (w.source.sync w.ids s.snapshot).run s.world = here at outcome related ⊢
  generalize (other.sync w.ids t.snapshot).run t.world = there at outcome related ⊢
  have synced : (s.pass.synced here).Alike R S (t.pass.synced there) :=
    ⟨related, outcome.related, h.last, h.events, h.pass.passed⟩
  rw [← outcome.answer]
  split
  case h_1 e failed => exact mirrors_send stop (.syncFailed e) _ _ synced
  case h_2 ok =>
    have inStep : (s.pass.synced here).InStep R S (t.pass.synced there) :=
      ⟨synced, outcome.taken ok⟩
    have rest := mirrors_bind (mirrors_reports alike stop w.ids)
      (fun _ => mirrors_send_inStep stop .tickEnd) _ _ inStep
    exact ⟨rest.1, rest.2.1⟩

theorem mirrors_run (stop : Interruption) (n : Nat) :
    Mirrors (State.Alike R S) (w.run stop n).run ((w.withSource other).run stop n).run := by
  induction n with
  | zero => exact .pure _
  | succ n ih =>
    exact mirrors_bind (mirrors_checkpoint stop) fun _ =>
      mirrors_bind (mirrors_tick alike stop) fun _ => ih

end Watch

end StatusWatch
