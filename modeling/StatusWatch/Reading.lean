import StatusWatch.Override
import StatusWatch.Readiness
import StatusWatch.ResourceStatus
import StatusWatch.StatusRules
import StatusWatch.View
import StatusWatch.Workload

/-!
From a live object to its status. Most kinds are judged by the object alone. A workload is also
judged by the objects it generated, found by its selector and owned by it, each read by the
rule of its own kind; it is current only when all of them are.
-/

namespace StatusWatch

inductive Manner where
  | plain
  | deployment
  | replicaSet
  | statefulSet
  | custom
  deriving DecidableEq, Repr

namespace Reading

def alone (assess : Json → Except Error Assessment) (object : Json) : ResourceStatus :=
  let id := Document.idOrBlank object
  match assess object with
  | .ok a => (ResourceStatus.ofAssessment id a).withLive object
  | .error e => .unknown id e

def byOverride (c : Condition) (object : Json) : ResourceStatus :=
  let id := Document.idOrBlank object
  match c.holds object with
  | .ok true =>
    (ResourceStatus.ofAssessment id
      (.current s!"Resource matches condition '{c.text}'")).withLive object
  | .ok false =>
    (ResourceStatus.ofAssessment id
      (.inProgress s!"Resource has not reached condition '{c.text}' yet")).withLive object
  | .error e => .unknown id e

def custom (rules : Option StatusRules) (overrides : List Override) (object : Json) :
    ResourceStatus :=
  match Override.find? overrides (Document.idOrBlank object).groupKind with
  | some c => byOverride c object
  | none =>
    alone (match rules with
      | some rules => rules.assess
      | none => Readiness.assess) object

/-- Whether the owner may count a child as its own: an owner with a uid must control it. -/
def owns (owner child : Json) : Bool :=
  match Document.uid? owner with
  | some uid => Document.isControlledBy uid child
  | none => true

def generated (view : View σ) (childKind : GroupKind) (readChild : Json → StateM σ ResourceStatus)
    (owner : Json) : StateM σ (Except Error (List ResourceStatus)) := do
  match Selector.ofWorkload owner with
  | .error e => pure (.error e)
  | .ok none => pure (.ok [])
  | .ok (some selector) =>
    let ns := (Document.namespace? owner).getD ""
    match ← view.list childKind ns (some selector) with
    | .error e => pure (.error e)
    | .ok children =>
      let statuses ← (children.filter (owns owner)).mapM readChild
      pure (.ok (statuses.mergeSort fun a b => a.id.le b.id))

/-- A workload that is current by itself waits for what it generated. -/
def combine (own : Assessment) (children : List ResourceStatus) : Assessment :=
  let pending := (children.filter (·.status != Status.current)).length
  if own.status ≠ .current ∨ pending = 0 then own
  else .inProgress s!"Waiting for {pending} of {children.length} generated resources"

def workload (view : View σ) (childKind : GroupKind) (readChild : Json → StateM σ ResourceStatus)
    (object : Json) : StateM σ ResourceStatus := do
  let id := Document.idOrBlank object
  match ← generated view childKind readChild object with
  | .error e => pure ((ResourceStatus.unknown id e).withLive object)
  | .ok children =>
    match Readiness.assess object with
    | .error e => pure ((ResourceStatus.unknown id e).withLive object)
    | .ok own =>
      let s := (ResourceStatus.ofAssessment id (combine own children)).withLive object
      pure { s with generated := children }

def plain (object : Json) : ResourceStatus :=
  alone Readiness.assess object

def ofPods (view : View σ) (object : Json) : StateM σ ResourceStatus :=
  workload view Workload.pod (fun pod => pure (plain pod)) object

def deployment (view : View σ) (object : Json) : StateM σ ResourceStatus :=
  workload view Workload.replicaSet (ofPods view) object

end Reading

structure ReadingPlan where
  catalog : Catalog
  rules : Option StatusRules
  overrides : List Override

namespace ReadingPlan

/-- Workloads are read as such, even if a definition claims their kind; an override comes before
everything. -/
def manner (plan : ReadingPlan) (gk : GroupKind) : Manner :=
  if (Override.find? plan.overrides gk).isSome then .custom
  else if gk = Workload.deployment then .deployment
  else if gk = Workload.replicaSet then .replicaSet
  else if gk = Workload.statefulSet then .statefulSet
  else if plan.rules.any (gk ∈ ·.kinds) then .custom
  else .plain

def readObject (plan : ReadingPlan) (view : View σ) (m : Manner) (object : Json) :
    StateM σ ResourceStatus :=
  match m with
  | .plain => pure (Reading.plain object)
  | .deployment => Reading.deployment view object
  | .replicaSet => Reading.ofPods view object
  | .statefulSet => Reading.ofPods view object
  | .custom => pure (Reading.custom plan.rules plan.overrides object)

def read (plan : ReadingPlan) (view : View σ) (id : ObjectId) : StateM σ ResourceStatus := do
  match ← view.find plan.catalog id with
  | .error e => pure (.ofFailure id e)
  | .ok object => plan.readObject view (plan.manner id.groupKind) object

end ReadingPlan

end StatusWatch
