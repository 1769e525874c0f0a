import StatusWatch.Failure
import StatusWatch.Manifest
import StatusWatch.Watch

/-!
A session: a cluster, and the documents whose resources are asked about. `readStatuses` gives one
status for each distinct resource, in the order of documents: kinds with status checks by their
own rules, all others by one tick of a watch.
-/

namespace StatusWatch

structure Session (σ : Type) where
  cluster : Cluster σ
  catalog : Catalog
  rules : Option StatusRules
  entries : List (ObjectId × Json)

namespace Session

def ids (s : Session σ) : List ObjectId :=
  s.entries.map Prod.fst

/-- Rules without a table are as good as none. -/
def begin? (cluster : Cluster σ) (catalog : Catalog) (rules : StatusRules)
    (documents : List Json) : Except Failure (Session σ) :=
  match Manifest.entries documents with
  | .error e => .error (.because "Bundle contains an invalid document" (some e))
  | .ok [] => .error (.because "No resources found in bundle" none)
  | .ok entries =>
    .ok ⟨cluster, catalog, if rules.isEmpty then none else some rules, entries⟩

def rulesFor? (s : Session σ) (overrides : List Override) (gk : GroupKind) :
    Option StatusRules :=
  s.rules.filter fun rules => gk ∈ rules.kinds && (Override.find? overrides gk).isNone

def readChecked (s : Session σ) (rules : StatusRules) (entry : ObjectId × Json) :
    StateM σ ResourceStatus := do
  match ← rules.statusOf s.cluster entry.2 with
  | .ok status => pure (.ofAssessment entry.1 (.ofCheck entry.1.groupKind.kind status))
  | .error e => pure (.ofFailure entry.1 e)

def updatesOf : List Event → Except Failure (List ResourceStatus)
  | [] => .error (.because "Status poller stopped before reporting" none)
  | .tickEnd :: _ => .ok []
  | .syncFailed e :: _ => .error (.because s!"Failed to read resources: {e.message}" none)
  | .update status :: rest => (updatesOf rest).map (status :: ·)

def eventsOf (w : Watch σ) (ticks : Nat) : StateM σ (List Event) := fun world =>
  let (_, s) := (w.run Watch.never ticks).run (.initial world)
  (s.events, s.world)

def watch? (s : Session σ) (ids : List ObjectId) (options : WatchOptions) : Option (Watch σ) :=
  Watch.start? s.cluster s.catalog s.rules ids options

def readWatched (s : Session σ) (ids : List ObjectId) (options : WatchOptions) :
    StateM σ (Except Failure (List ResourceStatus)) := do
  if ids.isEmpty then pure (.ok [])
  else
    match s.watch? ids options with
    | none => pure (updatesOf [])
    | some w => updatesOf <$> eventsOf w 1

def readStatuses (s : Session σ) (options : WatchOptions) :
    StateM σ (Except Failure (List ResourceStatus)) := do
  let rulesFor (entry : ObjectId × Json) := s.rulesFor? options.overrides entry.1.groupKind
  let checked ← s.entries.filterMapM fun entry => do
    match rulesFor entry with
    | some rules => some <$> s.readChecked rules entry
    | none => pure none
  let rest := s.entries.filter fun entry => (rulesFor entry).isNone
  match ← s.readWatched (rest.map Prod.fst) options with
  | .error e => pure (.error e)
  | .ok watched =>
    pure (.ok (s.ids.filterMap fun id => (checked ++ watched).find? (·.id = id)))

end Session

end StatusWatch
