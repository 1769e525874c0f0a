import StatusWatch.Reading
import StatusWatch.Snapshot

/-!
Watching resources. Each tick takes a snapshot, reads every resource, reports it, and ends; a
tick whose snapshot fails reports that and nothing else. Between these steps a run looks whether
it has been told to stop, and if so does nothing more.
-/

namespace StatusWatch

inductive Event where
  | update (status : ResourceStatus)
  | syncFailed (error : Error)
  | tickEnd

structure WatchOptions where
  /-- Time between ticks, in nanoseconds. -/
  interval : Nat
  useSnapshot : Bool
  /-- Report resources in every tick, and not only when their state changes. -/
  reportUnchanged : Bool
  overrides : List Override

/-- What a watch reads: a pass before each tick, which leaves a snapshot behind, and one status at
a time, for which the snapshot may be used. -/
structure Source (σ : Type) where
  sync : List ObjectId → Snapshot → StateM σ (Except Error Unit × Snapshot)
  read : Snapshot → ObjectId → StateM σ ResourceStatus

def Source.readAs (source : Source σ) (snapshot : Snapshot) (id : ObjectId) :
    StateM σ ResourceStatus := do
  let status ← source.read snapshot id
  pure { status with id }

def Source.ofCluster (cluster : Cluster σ) (plan : ReadingPlan) (useSnapshot : Bool) :
    Source σ where
  sync ids s := if useSnapshot then s.sync cluster plan.catalog ids else pure (.ok (), s)
  read s :=
    plan.read (if useSnapshot then s.view cluster plan.catalog else .direct cluster plan.catalog)

structure Watch (σ : Type) where
  source : Source σ
  ids : List ObjectId
  reportUnchanged : Bool

namespace Watch

def planFor (catalog : Catalog) (rules : Option StatusRules) (overrides : List Override) :
    ReadingPlan :=
  let merged := match rules with
    | some rules => catalog.merge rules.catalog
    | none => catalog
  ⟨merged, rules, overrides⟩

/-- A run needs time between its ticks. -/
def start? (cluster : Cluster σ) (catalog : Catalog) (rules : Option StatusRules)
    (ids : List ObjectId) (options : WatchOptions) : Option (Watch σ) :=
  if options.interval = 0 then none
  else some {
    source := .ofCluster cluster (planFor catalog rules options.overrides) options.useSnapshot
    ids
    reportUnchanged := options.reportUnchanged }

abbrev Memory := List (ObjectId × ResourceStatus)

namespace Memory

def differs (m : Memory) (status : ResourceStatus) : Bool :=
  (m.lookup status.id).all (!·.sameState status)

def put (m : Memory) (status : ResourceStatus) : Memory :=
  (status.id, status) :: m.filter (·.1 ≠ status.id)

end Memory

/-- A run between two steps. `world` is the state of what is read, and `passed` counts the places
where the run could have stopped. -/
structure State (σ : Type) where
  world : σ
  snapshot : Snapshot
  last : Memory
  events : List Event
  passed : Nat

def State.initial (world : σ) : State σ :=
  ⟨world, .empty, [], [], 0⟩

/-- Where a run is told to stop, by the number of the place; it goes on at all others. -/
abbrev Interruption := Nat → Bool

/-- Steps of a run; none is taken after it has stopped. -/
abbrev Steps (σ : Type) := OptionT (StateM (State σ))

def checkpoint (stop : Interruption) : Steps σ Unit := do
  let s ← get
  if stop s.passed then failure else set { s with passed := s.passed + 1 }

def onWorld (act : StateM σ α) : Steps σ α := do
  let s ← get
  let (a, world) := act.run s.world
  set { s with world }
  pure a

def send (stop : Interruption) (event : Event) : Steps σ Unit := do
  checkpoint stop
  modify fun s => { s with events := s.events ++ [event] }

def sync (w : Watch σ) : Steps σ (Except Error Unit) := do
  let s ← get
  let (outcome, snapshot) ← onWorld (w.source.sync w.ids s.snapshot)
  modify fun s => { s with snapshot }
  pure outcome

def remember (status : ResourceStatus) : Steps σ Bool := do
  let s ← get
  set { s with last := s.last.put status }
  pure (s.last.differs status)

def report (w : Watch σ) (stop : Interruption) (id : ObjectId) : Steps σ Unit := do
  checkpoint stop
  let s ← get
  let status ← onWorld (w.source.readAs s.snapshot id)
  let changed ← remember status
  if changed || w.reportUnchanged then send stop (.update status)

def tick (w : Watch σ) (stop : Interruption) : Steps σ Unit := do
  checkpoint stop
  match ← w.sync with
  | .error e => send stop (.syncFailed e)
  | .ok () =>
    w.ids.forM (w.report stop)
    send stop .tickEnd

def run (w : Watch σ) (stop : Interruption) : Nat → Steps σ Unit
  | 0 => pure ()
  | n + 1 => do
    checkpoint stop
    w.tick stop
    w.run stop n

def never : Interruption := fun _ => false

end Watch

end StatusWatch
