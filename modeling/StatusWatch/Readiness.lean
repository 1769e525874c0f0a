import StatusWatch.Document
import StatusWatch.Status

/-!
The status of an object by its own fields. What holds for every kind comes first: deletion, a
generation not yet observed, and the conditions Reconciling and Stalled. Then each built-in kind
has a rule of its own, and all others go by the condition Ready.
-/

namespace StatusWatch.Readiness

open Document (StatusCondition condition?)

def explanation (c : StatusCondition) : String :=
  if c.message = "" then c.reason else c.message

/-- An integer field; what is absent or no integer counts as `default`. -/
def count (object : Json) (path : List String) (default : Int) : Int :=
  (object.nestedInt64? path).getD default

/-- A difference in 64 signed bits: one that does not fit wraps around. -/
def difference (a b : Int) : Int :=
  (a - b).bmod Number.unsignedBound

def fraction (label : String) (some all : Int) : String :=
  s!"{label}: {some}/{all}"

def isDeleted (object : Json) : Bool :=
  match object.nested? ["metadata", "deletionTimestamp"] with
  | some value => !value.isNull
  | none => false

def unobserved? (object : Json) : Option (Int × Int) :=
  match object.nestedInt64? ["metadata", "generation"],
    object.nestedInt64? ["status", "observedGeneration"] with
  | some generation, some observed =>
    if observed < generation then some (generation, observed) else none
  | _, _ => none

def trueCondition? (object : Json) (type : String) : Option StatusCondition :=
  (condition? object type).filter StatusCondition.isTrue

def general? (object : Json) : Option Assessment :=
  if isDeleted object then some ⟨.terminating, "Resource scheduled for deletion"⟩
  else match unobserved? object with
  | some (generation, observed) =>
    let kind := (Document.kind? object).getD "Resource"
    some (.inProgress
      s!"{kind} generation is {generation}, but latest observed generation is {observed}")
  | none => match trueCondition? object "Reconciling" with
  | some c => some (.inProgress (explanation c))
  | none => (trueCondition? object "Stalled").map fun c => .failed (explanation c)

def deployment (object : Json) : Assessment :=
  let desired := count object ["spec", "replicas"] 1
  let replicas := count object ["status", "replicas"] 0
  let updated := count object ["status", "updatedReplicas"] 0
  let ready := count object ["status", "readyReplicas"] 0
  let available := count object ["status", "availableReplicas"] 0
  let overdue := (condition? object "Progressing").filter (·.reason == "ProgressDeadlineExceeded")
  match overdue with
  | some c => .failed (explanation c)
  | none =>
    if (condition? object "Available").any StatusCondition.isFalse then
      .inProgress "Deployment not Available"
    else if updated < desired then .inProgress (fraction "Updated" updated desired)
    else if updated < replicas then .inProgress s!"Pending termination: {difference replicas updated}"
    else if available < updated then .inProgress (fraction "Available" available updated)
    else if ready < desired then .inProgress (fraction "Ready" ready desired)
    else .current s!"Deployment is available. Replicas: {replicas}"

def replicaSet (object : Json) : Assessment :=
  let desired := count object ["spec", "replicas"] 1
  let labelled := count object ["status", "fullyLabeledReplicas"] 0
  let available := count object ["status", "availableReplicas"] 0
  let ready := count object ["status", "readyReplicas"] 0
  if (condition? object "ReplicaFailure").any StatusCondition.isTrue then
    .inProgress "Replica Failure condition. See events for details"
  else if labelled < desired then .inProgress (fraction "Labelled" labelled desired)
  else if available < desired then .inProgress (fraction "Available" available desired)
  else if ready < desired then .inProgress (fraction "Ready" ready desired)
  else .current s!"ReplicaSet is available. Replicas: {desired}"

/-- A roll-out with a partition is over when all replicas beyond it are updated; one without has
to reach one revision. -/
def statefulSet (object : Json) : Assessment :=
  let strategy := (object.nestedStr? ["spec", "updateStrategy", "type"]).getD "RollingUpdate"
  let desired := count object ["spec", "replicas"] 1
  let ready := count object ["status", "readyReplicas"] 0
  let current := count object ["status", "currentReplicas"] 0
  let updated := count object ["status", "updatedReplicas"] 0
  let partition := count object ["spec", "updateStrategy", "rollingUpdate", "partition"] 0
  let expected := difference desired partition
  let revision := object.nestedStr? ["status", "currentRevision"]
  let target := object.nestedStr? ["status", "updateRevision"]
  if ready < desired then .inProgress (fraction "Ready" ready desired)
  else if strategy = "RollingUpdate" ∧ 0 < partition then
    if updated < expected then .inProgress (fraction "updated" updated expected)
    else .current s!"Partitioned roll out complete. updated: {updated}/{expected}"
  else if strategy = "RollingUpdate" ∧ revision ≠ target then
    .inProgress s!"Waiting for rolling update to complete {updated}/{desired}"
  else if strategy ≠ "OnDelete" ∧ current < desired then
    .inProgress (fraction "current" current desired)
  else .current s!"All replicas scheduled as expected. Replicas: {desired}"

def daemonSet (object : Json) : Assessment :=
  let desired := count object ["status", "desiredNumberScheduled"] 0
  let scheduled := count object ["status", "currentNumberScheduled"] 0
  let updated := count object ["status", "updatedNumberScheduled"] 0
  let available := count object ["status", "numberAvailable"] 0
  let ready := count object ["status", "numberReady"] 0
  if (object.nested? ["status", "desiredNumberScheduled"]).isNone then
    .inProgress "Missing .status.desiredNumberScheduled"
  else if scheduled < desired then .inProgress (fraction "Current" scheduled desired)
  else if updated < desired then .inProgress (fraction "Updated" updated desired)
  else if available < desired then .inProgress (fraction "Available" available desired)
  else if ready < desired then .inProgress (fraction "Ready" ready desired)
  else .current s!"All replicas scheduled as expected. Replicas: {desired}"

def pod (object : Json) : Assessment :=
  let phase := (object.nestedStr? ["status", "phase"]).getD ""
  if phase = "Succeeded" then .current "Pod has completed successfully"
  else if phase = "Failed" then .failed "Pod has completed, but not successfully"
  else if phase = "Running" then
    if (condition? object "Ready").any StatusCondition.isTrue then .current "Pod is Ready"
    else .inProgress "Pod is running but is not Ready"
  else if (condition? object "PodScheduled").any
      (fun c => c.isFalse && c.reason == "Unschedulable") then
    .inProgress "Pod could not be scheduled"
  else .inProgress "Pod is in the Pending phase"

/-- A job that has started counts as current while it runs. -/
def job (object : Json) : Assessment :=
  let completions := count object ["spec", "completions"] 1
  let succeeded := count object ["status", "succeeded"] 0
  let failed := count object ["status", "failed"] 0
  let active := count object ["status", "active"] 0
  if (condition? object "Failed").any StatusCondition.isTrue then
    .failed s!"Job Failed. failed: {failed}/{completions}"
  else if (condition? object "Complete").any StatusCondition.isTrue then
    .current s!"Job Completed. succeeded: {succeeded}/{completions}"
  else if (object.nested? ["status", "startTime"]).isNone then .inProgress "Job not started"
  else .current s!"Job in progress. success:{succeeded}, active: {active}, failed: {failed}"

def volumeClaim (object : Json) : Assessment :=
  if object.nestedStr? ["status", "phase"] = some "Bound" then .current "PVC is Bound"
  else .inProgress "PVC is not Bound"

def definition (object : Json) : Assessment :=
  match condition? object "Established" with
  | some c =>
    if c.isTrue then .current "CRD is established"
    else if c.reason = "NotAccepted" then .failed (explanation c)
    else .inProgress "CRD is not established"
  | none => .inProgress "CRD is not established"

/-- Kinds without a rule of their own are current unless they say that they are not ready. -/
def byReadyCondition (object : Json) : Assessment :=
  match (condition? object "Ready").filter StatusCondition.isFalse with
  | some c => .inProgress (explanation c)
  | none => .current "Resource is current"

def byKind (gk : GroupKind) (object : Json) : Assessment :=
  if gk = ⟨"apps", "Deployment"⟩ then deployment object
  else if gk = ⟨"apps", "ReplicaSet"⟩ then replicaSet object
  else if gk = ⟨"apps", "StatefulSet"⟩ then statefulSet object
  else if gk = ⟨"apps", "DaemonSet"⟩ then daemonSet object
  else if gk = ⟨"", "Pod"⟩ then pod object
  else if gk = ⟨"batch", "Job"⟩ then job object
  else if gk = ⟨"", "PersistentVolumeClaim"⟩ then volumeClaim object
  else if gk = ⟨"apiextensions.k8s.io", Document.definitionKind⟩ then definition object
  else byReadyCondition object

/-- An object needs a kind only where nothing general can be said. -/
def assess (object : Json) : Except Error Assessment :=
  match general? object with
  | some a => .ok a
  | none => (Document.groupKind object).map fun gk => byKind gk object

end StatusWatch.Readiness
