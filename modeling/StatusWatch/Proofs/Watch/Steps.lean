import Mathlib.Logic.Basic
import StatusWatch.Watch

/-!
What each step of a run does when it may be stopped at every checkpoint. A run that has been stopped
keeps its state, so the state behind some ticks is there however the run ended.
-/

namespace StatusWatch.Watch

variable {s t : State σ}

def State.pass (s : State σ) : State σ :=
  { s with passed := s.passed + 1 }

def State.reported (s : State σ) (e : Event) : State σ :=
  { s with events := s.events ++ [e] }

def State.inWorld (s : State σ) (world : σ) : State σ :=
  { s with world }

def State.remembering (s : State σ) (status : ResourceStatus) : State σ :=
  { s with last := s.last.put status }

def State.synced (s : State σ) (pass : (Except Error Unit × Snapshot) × σ) : State σ :=
  { s with snapshot := pass.1.2, world := pass.2 }

theorem bind_run {m : Steps σ α} {a : α} (f : α → Steps σ β) (h : m.run s = (some a, t)) :
    (m >>= f).run s = (f a).run t := by
  rw [OptionT.run_bind]
  simp only [Option.elimM, bind, StateT.bind, h]
  rfl

theorem stopped_run {m : Steps σ α} (f : α → Steps σ β) (h : m.run s = (none, t)) :
    (m >>= f).run s = (none, t) := by
  rw [OptionT.run_bind]
  simp only [Option.elimM, bind, StateT.bind, h]
  rfl

theorem run_checkpoint (stop : Interruption) (s : State σ) :
    (checkpoint stop).run s = if stop s.passed then (none, s) else (some (), s.pass) := by
  have step : (checkpoint stop).run s =
      (if stop s.passed then failure else set s.pass : Steps σ Unit).run s := bind_run _ rfl
  rw [step]
  split <;> rfl

theorem run_behind (stop : Interruption) (m : Steps σ α) (s : State σ) :
    (checkpoint stop >>= fun _ => m).run s =
      if stop s.passed then (none, s) else m.run s.pass := by
  have place := run_checkpoint stop s
  split
  case isTrue stopped =>
    rw [if_pos stopped] at place
    exact stopped_run _ place
  case isFalse on =>
    rw [if_neg on] at place
    exact bind_run _ place

theorem run_send (stop : Interruption) (e : Event) (s : State σ) :
    (send stop e).run s = if stop s.passed then (none, s) else (some (), s.pass.reported e) :=
  run_behind stop _ s

def note (w : Watch σ) (stop : Interruption) (status : ResourceStatus) : Steps σ Unit := do
  let changed ← remember status
  if changed || w.reportUnchanged then send stop (.update status)

theorem run_note (w : Watch σ) (stop : Interruption) (status : ResourceStatus) (s : State σ) :
    (w.note stop status).run s =
      if s.last.differs status || w.reportUnchanged then
        (send stop (.update status)).run (s.remembering status)
      else (some (), s.remembering status) := by
  have due : (if s.last.differs status || w.reportUnchanged then send stop (.update status)
      else pure () : Steps σ Unit).run (s.remembering status) =
        if s.last.differs status || w.reportUnchanged then
          (send stop (.update status)).run (s.remembering status)
        else (some (), s.remembering status) := by
    split <;> rfl
  exact (bind_run _ rfl).trans due

-- A report is a reading with a note of what was read.
theorem run_report (w : Watch σ) (stop : Interruption) (id : ObjectId) (s : State σ) :
    (w.report stop id).run s =
      if stop s.passed then (none, s) else
        let reading := (w.source.readAs s.snapshot id).run s.world
        (w.note stop reading.1).run (s.pass.inWorld reading.2) := by
  refine (run_behind stop _ s).trans (if_congr Iff.rfl rfl ?_)
  exact (bind_run _ rfl).trans (bind_run _ rfl)

theorem run_tick (w : Watch σ) (stop : Interruption) (s : State σ) :
    (w.tick stop).run s =
      if stop s.passed then (none, s) else
        let pass := (w.source.sync w.ids s.snapshot).run s.world
        match pass.1.1 with
        | .error e => (send stop (.syncFailed e)).run (s.pass.synced pass)
        | .ok () =>
          (w.ids.forM (w.report stop) >>= fun _ => send stop .tickEnd).run
            (s.pass.synced pass) := by
  refine (run_behind stop _ s).trans (if_congr Iff.rfl rfl ?_)
  extract_lets pass
  refine (bind_run (a := pass.1.1) (t := s.pass.synced pass) _ rfl).trans ?_
  cases pass.1.1 <;> rfl

def Keeps (P : State σ → Prop) (m : Steps σ α) : Prop :=
  ∀ s, P s → P (m.run s).2

theorem Keeps.bind {P : State σ → Prop} {m : Steps σ α} {f : α → Steps σ β} (h : Keeps P m)
    (hf : ∀ a, Keeps P (f a)) : Keeps P (m >>= f) := by
  intro s start
  have kept := h s start
  rcases here : m.run s with ⟨_ | a, t⟩
  · rw [here] at kept
    rwa [stopped_run f here]
  · rw [here] at kept
    rw [bind_run f here]
    exact hf a t kept

theorem Keeps.forM {P : State σ → Prop} {f : α → Steps σ Unit} (h : ∀ a, Keeps P (f a))
    (l : List α) : Keeps P (l.forM f) := by
  induction l with
  | nil => exact fun _ start => start
  | cons a rest ih => exact (h a).bind fun _ => ih

theorem run_succ (w : Watch σ) (stop : Interruption) (n : Nat) :
    w.run stop (n + 1) = w.run stop n >>= fun _ => checkpoint stop >>= fun _ => w.tick stop := by
  induction n with
  | zero => simp only [run, bind_pure_unit, pure_bind]
  | succ n ih =>
    have first (n : Nat) : w.run stop (n + 1) =
        checkpoint stop >>= fun _ => w.tick stop >>= fun _ => w.run stop n := rfl
    calc w.run stop (n + 2)
      _ = checkpoint stop >>= fun _ => w.tick stop >>= fun _ => w.run stop n >>= fun _ =>
          checkpoint stop >>= fun _ => w.tick stop := by rw [first, ih]
      _ = w.run stop (n + 1) >>= fun _ => checkpoint stop >>= fun _ => w.tick stop := by
        simp only [first, bind_assoc]

end StatusWatch.Watch
