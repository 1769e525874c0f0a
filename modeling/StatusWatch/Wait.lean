import StatusWatch.Progress
import StatusWatch.Session

/-!
Waiting for resources: a watch is run tick by tick, and followed up to the first tick that decides,
for as long as the time lasts.
-/

namespace StatusWatch.Wait

inductive Ending where
  | reached
  | failed
  | timedOut
  /-- The watch could not run. -/
  | stopped
  deriving DecidableEq, Repr

/-- How a wait ended, how far the resources had come by then, and after how many ticks. -/
structure Outcome where
  ending : Ending
  progress : Progress
  ticks : Nat

/-- The shortest time between two ticks, in nanoseconds. -/
def shortestInterval : Nat := 1000000

def ticksWithin (interval timeout : Nat) : Nat :=
  let interval := max interval shortestInterval
  (timeout + interval - 1) / interval

def follow (w : Watch σ) (desired : Status) (ticks : Nat) :
    Nat → Watch.State σ → Progress → Outcome × σ
  | 0, s, p => (⟨.timedOut, p, ticks⟩, s.world)
  | budget + 1, s, p =>
    let (_, s) := (w.run Watch.never 1).run { s with events := [] }
    let outcome := p.follow desired s.events
    match outcome.verdict with
    | .reached => (⟨.reached, outcome.progress, ticks + 1⟩, s.world)
    | .failed => (⟨.failed, outcome.progress, ticks + 1⟩, s.world)
    | .closed => follow w desired (ticks + 1) budget s outcome.progress

def run (s : Session σ) (desired : Status) (options : WatchOptions) (timeout : Nat) :
    StateM σ Outcome := fun world =>
  let start := Progress.ofIds s.ids
  match s.watch? s.ids options with
  | none => (⟨.stopped, start, 0⟩, world)
  | some w => follow w desired 0 (ticksWithin options.interval timeout) (.initial world) start

end StatusWatch.Wait
