import StatusWatch.Proofs.Success
import StatusWatch.Readiness

/-!
What it takes to be current. No object that is being deleted, is not yet observed in its latest
generation, reconciles or stalls passes for current, whatever its kind; and no workload does before
as many replicas as it asks for are ready. Every other answer is that the object terminates, is in
progress or has failed.
-/

namespace StatusWatch.Readiness

open Document (StatusCondition condition?)

variable {object : Json} {a : Assessment}

section General

theorem isDeleted_eq_false_iff :
    isDeleted object = false ↔
      ∀ value, object.nested? ["metadata", "deletionTimestamp"] = some value → value = .null := by
  unfold isDeleted
  cases object.nested? ["metadata", "deletionTimestamp"] with
  | none => simp
  | some value => cases value <;> simp [Json.isNull]

theorem unobserved?_eq_none_iff :
    unobserved? object = none ↔
      ∀ generation observed, object.nestedInt64? ["metadata", "generation"] = some generation →
        object.nestedInt64? ["status", "observedGeneration"] = some observed →
          generation ≤ observed := by
  unfold unobserved?
  cases object.nestedInt64? ["metadata", "generation"] with
  | none => simp
  | some generation =>
    cases object.nestedInt64? ["status", "observedGeneration"] with
    | none => simp
    | some observed => simp

/-- Of the conditions of this type, this is the first in the object's status. -/
def IsFirst (object : Json) (type : String) (c : StatusCondition) : Prop :=
  c.type = type ∧ ∃ before after, Document.statusConditions object = before ++ c :: after ∧
    ∀ earlier ∈ before, earlier.type ≠ type

theorem condition?_eq_some_iff {type : String} {c : StatusCondition} :
    condition? object type = some c ↔ IsFirst object type c := by
  rw [condition?, List.find?_eq_some_iff_append]
  simp [IsFirst]

theorem trueCondition?_eq_none_iff {type : String} :
    trueCondition? object type = none ↔ ∀ c, IsFirst object type c → c.status ≠ "True" := by
  simp only [← condition?_eq_some_iff]
  unfold trueCondition?
  cases condition? object type with
  | none => simp
  | some c => simp [StatusCondition.isTrue]

structure Undisturbed (object : Json) : Prop where
  kept : ∀ value, object.nested? ["metadata", "deletionTimestamp"] = some value → value = .null
  observed : ∀ generation observed,
    object.nestedInt64? ["metadata", "generation"] = some generation →
      object.nestedInt64? ["status", "observedGeneration"] = some observed → generation ≤ observed
  reconciled : ∀ c, IsFirst object "Reconciling" c → c.status ≠ "True"
  moving : ∀ c, IsFirst object "Stalled" c → c.status ≠ "True"

theorem general?_cases (object : Json) :
    (∃ a, general? object = some a ∧
      a.status ∈ [Status.terminating, Status.inProgress, Status.failed]) ∨
      general? object = none ∧ Undisturbed object := by
  unfold general?
  cases deleted : isDeleted object with
  | true => exact .inl ⟨_, rfl, by decide⟩
  | false =>
    cases behind : unobserved? object with
    | some generations => exact .inl ⟨_, rfl, by simp [Assessment.inProgress]⟩
    | none =>
      cases reconciling : trueCondition? object "Reconciling" with
      | some c => exact .inl ⟨_, rfl, by simp [Assessment.inProgress]⟩
      | none =>
        cases stalled : trueCondition? object "Stalled" with
        | some c => exact .inl ⟨_, rfl, by simp [Assessment.failed]⟩
        | none =>
          exact .inr ⟨rfl, isDeleted_eq_false_iff.mp deleted, unobserved?_eq_none_iff.mp behind,
            trueCondition?_eq_none_iff.mp reconciling, trueCondition?_eq_none_iff.mp stalled⟩

end General

/-- What the rule of a kind may say. It says that an object is current only on the given ground. -/
inductive Grounded (ground : Prop) : Assessment → Prop
  | inProgress (message : String) : Grounded ground (.inProgress message)
  | failed (message : String) : Grounded ground (.failed message)
  | current (message : String) (holds : ground) : Grounded ground (.current message)

namespace Grounded

variable {ground other : Prop} {b : Assessment}

theorem mono (h : Grounded ground a) (implies : ground → other) : Grounded other a := by
  cases h with
  | inProgress message => exact .inProgress message
  | failed message => exact .failed message
  | current message holds => exact .current message (implies holds)

theorem ite {c : Prop} [Decidable c] (yes : c → Grounded ground a) (no : ¬c → Grounded ground b) :
    Grounded ground (if c then a else b) := by
  split
  · exact yes ‹c›
  · exact no ‹¬c›

theorem waits {c : Prop} [Decidable c] {message : String} (no : ¬c → Grounded ground b) :
    Grounded ground (if c then .inProgress message else b) :=
  ite (fun _ => .inProgress message) no

theorem status_mem (h : Grounded ground a) :
    a.status ∈ [Status.inProgress, Status.failed, Status.current] := by
  cases h <;> simp [Assessment.inProgress, Assessment.failed, Assessment.current]

theorem holds (h : Grounded ground a) (current : a.status = Status.current) : ground := by
  cases h with
  | inProgress message => exact absurd current (by decide : Status.inProgress ≠ Status.current)
  | failed message => exact absurd current (by decide : Status.failed ≠ Status.current)
  | current message holds => exact holds

end Grounded

section Rules

/-- All replicas of a deployment are of its latest version and available, in time. -/
structure Deployed (object : Json) : Prop where
  updated : count object ["spec", "replicas"] 1 ≤ count object ["status", "updatedReplicas"] 0
  available :
    count object ["status", "updatedReplicas"] 0 ≤ count object ["status", "availableReplicas"] 0
  alone : count object ["status", "replicas"] 0 ≤ count object ["status", "updatedReplicas"] 0
  inTime : ∀ c, IsFirst object "Progressing" c → c.reason ≠ "ProgressDeadlineExceeded"

structure RolledOut (gk : GroupKind) (object : Json) : Prop where
  replicas : gk ∈ [⟨"apps", "Deployment"⟩, ⟨"apps", "ReplicaSet"⟩, ⟨"apps", "StatefulSet"⟩] →
    count object ["spec", "replicas"] 1 ≤ count object ["status", "readyReplicas"] 0
  nodes : gk = ⟨"apps", "DaemonSet"⟩ →
    count object ["status", "desiredNumberScheduled"] 0 ≤ count object ["status", "numberReady"] 0
  deployed : gk = ⟨"apps", "Deployment"⟩ → Deployed object

theorem grounded_deployment (object : Json) :
    Grounded (Deployed object ∧
      count object ["spec", "replicas"] 1 ≤ count object ["status", "readyReplicas"] 0)
      (deployment object) := by
  unfold deployment
  dsimp only
  split
  case h_1 c overdue => exact .failed _
  case h_2 none =>
    have inTime : ∀ c, IsFirst object "Progressing" c → c.reason ≠ "ProgressDeadlineExceeded" := by
      simpa [Option.filter_eq_none_iff, condition?_eq_some_iff] using none
    refine .waits fun _ => ?_
    refine .waits fun updated => ?_
    refine .waits fun alone => ?_
    refine .waits fun available => ?_
    refine .waits fun ready => ?_
    apply Grounded.current
    constructor
    · exact ⟨by omega, by omega, by omega, inTime⟩
    · omega

theorem grounded_replicaSet (object : Json) :
    Grounded (count object ["spec", "replicas"] 1 ≤ count object ["status", "readyReplicas"] 0)
      (replicaSet object) := by
  unfold replicaSet
  refine .waits fun _ => .waits fun _ => .waits fun _ => ?_
  refine .waits fun ready => ?_
  apply Grounded.current
  omega

theorem grounded_statefulSet (object : Json) :
    Grounded (count object ["spec", "replicas"] 1 ≤ count object ["status", "readyReplicas"] 0)
      (statefulSet object) := by
  unfold statefulSet
  -- Readiness is asked for before the strategy, so a partition does not pass it by.
  refine .waits fun ready => ?_
  apply Grounded.ite
  · intro partitioned
    refine .waits fun _ => ?_
    apply Grounded.current
    omega
  · intro whole
    refine .waits fun _ => .waits fun _ => ?_
    apply Grounded.current
    omega

theorem grounded_daemonSet (object : Json) :
    Grounded (count object ["status", "desiredNumberScheduled"] 0 ≤
      count object ["status", "numberReady"] 0) (daemonSet object) := by
  unfold daemonSet
  refine .waits fun _ => .waits fun _ => .waits fun _ => .waits fun _ => ?_
  refine .waits fun ready => ?_
  apply Grounded.current
  omega

theorem grounded_pod (object : Json) : Grounded True (pod object) := by
  unfold pod
  refine .ite (fun succeeded => .current _ trivial) fun _ => ?_
  refine .ite (fun failed => .failed _) fun _ => ?_
  refine .ite (fun running => ?_) fun _ => ?_
  · exact .ite (fun _ => .current _ trivial) fun _ => .inProgress _
  · exact .waits fun _ => .inProgress _

theorem grounded_job (object : Json) : Grounded True (job object) := by
  unfold job
  refine .ite (fun failed => .failed _) fun _ => ?_
  refine .ite (fun complete => .current _ trivial) fun _ => ?_
  exact .waits fun _ => .current _ trivial

theorem grounded_volumeClaim (object : Json) : Grounded True (volumeClaim object) := by
  unfold volumeClaim
  exact .ite (fun bound => .current _ trivial) fun _ => .inProgress _

theorem grounded_definition (object : Json) : Grounded True (definition object) := by
  unfold definition
  split
  · refine .ite (fun established => .current _ trivial) fun _ => ?_
    exact .ite (fun refused => .failed _) fun _ => .inProgress _
  · exact .inProgress _

theorem grounded_byReadyCondition (object : Json) : Grounded True (byReadyCondition object) := by
  unfold byReadyCondition
  split
  · exact .inProgress _
  · exact .current _ trivial

theorem grounded_byKind (gk : GroupKind) (object : Json) :
    Grounded (RolledOut gk object) (byKind gk object) := by
  unfold byKind
  refine .ite (fun same => ?deployment) fun notDeployment =>
    .ite (fun same => ?replicaSet) fun notReplicaSet =>
      .ite (fun same => ?statefulSet) fun notStatefulSet =>
        .ite (fun same => ?daemonSet) fun notDaemonSet => ?others
  case deployment =>
    subst same
    refine (grounded_deployment object).mono fun ⟨deployed, ready⟩ => ?_
    exact ⟨fun _ => ready, fun other => absurd other (by decide), fun _ => deployed⟩
  case replicaSet =>
    subst same
    refine (grounded_replicaSet object).mono fun ready => ?_
    exact ⟨fun _ => ready, fun other => absurd other (by decide),
      fun other => absurd other (by decide)⟩
  case statefulSet =>
    subst same
    refine (grounded_statefulSet object).mono fun ready => ?_
    exact ⟨fun _ => ready, fun other => absurd other (by decide),
      fun other => absurd other (by decide)⟩
  case daemonSet =>
    subst same
    refine (grounded_daemonSet object).mono fun ready => ?_
    exact ⟨fun other => absurd other (by decide), fun _ => ready,
      fun other => absurd other (by decide)⟩
  case others =>
    -- No workload is left, so nothing is asked of what the other rules call current.
    have noWorkload : RolledOut gk object := by
      refine ⟨?_, fun same => absurd same notDaemonSet, fun same => absurd same notDeployment⟩
      simp [notDeployment, notReplicaSet, notStatefulSet]
    have free {a : Assessment} (h : Grounded True a) : Grounded (RolledOut gk object) a :=
      h.mono fun _ => noWorkload
    refine .ite (fun _ => free (grounded_pod object)) fun _ => ?_
    refine .ite (fun _ => free (grounded_job object)) fun _ => ?_
    refine .ite (fun _ => free (grounded_volumeClaim object)) fun _ => ?_
    refine .ite (fun _ => free (grounded_definition object)) fun _ => ?_
    exact free (grounded_byReadyCondition object)

end Rules

/-- An object that has a status has one of four. If it is current, nothing of its general state
speaks against it, and if it is a workload, it is rolled out. -/
theorem current_sound (assessed : assess object = .ok a) :
    a.status ∈ [Status.terminating, .inProgress, .failed, .current] ∧
      (a.status = Status.current → Undisturbed object ∧
        ∃ gk, Document.groupKind object = .ok gk ∧ RolledOut gk object) := by
  unfold assess at assessed
  rcases general?_cases object with ⟨b, general, status⟩ | ⟨general, undisturbed⟩
  · rw [general] at assessed
    cases assessed
    refine ⟨?_, fun current => ?_⟩
    · exact List.mem_append_left [Status.current] status
    · rw [current] at status
      exact absurd status (by decide)
  · rw [general] at assessed
    obtain ⟨gk, kind, rfl⟩ := map_eq_ok.mp assessed
    have grounded := grounded_byKind gk object
    refine ⟨List.mem_cons_of_mem _ grounded.status_mem, fun current => ?_⟩
    exact ⟨undisturbed, gk, kind, grounded.holds current⟩

/-- A deployment that counts its replicas, with one replica by default, and says that it is through
with them. -/
theorem current_sound_web :
    let condition (type status reason : String) : Json := .object
      [("type", .str type), ("status", .str status), ("reason", .str reason)]
    let object : Json := .object [("apiVersion", .str "apps/v1"), ("kind", .str "Deployment"),
      ("metadata", .object [("generation", .num (.int 2)), ("deletionTimestamp", .null)]),
      ("status", .object [("observedGeneration", .num (.int 2)), ("replicas", .num (.int 1)),
        ("updatedReplicas", .num (.int 1)), ("readyReplicas", .num (.int 1)),
        ("availableReplicas", .num (.int 1)),
        ("conditions", .arr [condition "Stalled" "False" "", condition "Stalled" "True" "Late",
          condition "Progressing" "True" "NewReplicaSetAvailable"])])]
    let a : Assessment := ⟨"Current", "Deployment is available. Replicas: 1"⟩
    assess object = .ok a ∧ a.status ∈ [Status.terminating, .inProgress, .failed, .current] ∧
      IsFirst object "Stalled" ⟨"Stalled", "False", "", ""⟩ ∧
      IsFirst object "Progressing" ⟨"Progressing", "True", "NewReplicaSetAvailable", ""⟩ ∧
      Undisturbed object ∧ RolledOut ⟨"apps", "Deployment"⟩ object := by
  intro condition object a
  have assessed : assess object = .ok a := by decide +kernel
  have kind : Document.groupKind object = .ok ⟨"apps", "Deployment"⟩ := by decide +kernel
  have stalled : IsFirst object "Stalled" ⟨"Stalled", "False", "", ""⟩ :=
    condition?_eq_some_iff.mp (by decide +kernel)
  have progressing :
      IsFirst object "Progressing" ⟨"Progressing", "True", "NewReplicaSetAvailable", ""⟩ :=
    condition?_eq_some_iff.mp (by decide +kernel)
  obtain ⟨status, sound⟩ := current_sound assessed
  obtain ⟨undisturbed, gk, found, rolledOut⟩ := sound rfl
  cases found.symm.trans kind
  exact ⟨assessed, status, stalled, progressing, undisturbed, rolledOut⟩

end StatusWatch.Readiness
