import StatusWatch.Proofs.Identity
import StatusWatch.Proofs.Reading.Lookup
import StatusWatch.Proofs.Session.Judged

/-!
How far an override reaches. A kind with an override is judged by its condition where it is asked
for; below a workload every kind is judged by its built-in rule, and only a workload without an
override has anything below it.
-/

namespace StatusWatch

def Condition.Decides (c : Condition) (o : Json) (s : ResourceStatus) : Prop :=
  match c.holds o with
  | .ok true => s.status = Status.current ∧ s.live = some o
  | .ok false => s.status = Status.inProgress ∧ s.live = some o
  | .error e => s.status = Status.unknown ∧ s.error = some e

/-- A status or one below it, at any depth. -/
inductive ResourceStatus.Within : ResourceStatus → ResourceStatus → Prop
  | self (s : ResourceStatus) : Within s s
  | deeper {part child s : ResourceStatus} (generated : child ∈ s.generated)
      (within : Within part child) : Within part s

theorem Condition.decides_byOverride (c : Condition) (o : Json) (id : ObjectId) :
    c.Decides o { Reading.byOverride c o with id } := by
  unfold Decides Reading.byOverride
  cases c.holds o with
  | error e => exact ⟨rfl, rfl⟩
  | ok met => cases met <;> exact ⟨rfl, rfl⟩

theorem Condition.Decides.status_ne {c : Condition} {o : Json} {s : ResourceStatus}
    (h : c.Decides o s) : s.status ≠ Status.failed := by
  have apart : Status.current ≠ Status.failed ∧ Status.inProgress ≠ Status.failed ∧
      Status.unknown ≠ Status.failed := by decide
  unfold Decides at h
  split at h
  · rw [h.1]
    exact apart.1
  · rw [h.1]
    exact apart.2.1
  · rw [h.1]
    exact apart.2.2

theorem ResourceStatus.ofFailure_status_ne (id : ObjectId) (e : Error) :
    (ofFailure id e).status ≠ Status.failed := by
  unfold ofFailure
  split
  · exact (by decide : Status.notFound ≠ Status.failed)
  · exact (by decide : Status.unknown ≠ Status.failed)

section Kinds

variable {plan : ReadingPlan} {gk : GroupKind}

theorem ReadingPlan.manner_of_override {c : Condition}
    (overridden : Override.find? plan.overrides gk = some c) : plan.manner gk = .custom := by
  rw [manner, overridden]
  rfl

theorem ReadingPlan.manner_cases (plan : ReadingPlan) (gk : GroupKind) :
    plan.manner gk = .custom ∨ plan.manner gk = .plain ∨ Override.find? plan.overrides gk = none ∧
      (gk = Workload.deployment ∧ plan.manner gk = .deployment ∨
        gk = Workload.replicaSet ∧ plan.manner gk = .replicaSet ∨
        gk = Workload.statefulSet ∧ plan.manner gk = .statefulSet) := by
  cases overridden : Override.find? plan.overrides gk with
  | some c => exact .inl (manner_of_override overridden)
  | none =>
    unfold manner
    rw [overridden]
    rw [Option.isSome_none, if_neg Bool.false_ne_true]
    split
    case isTrue deployment => exact .inr (.inr ⟨rfl, .inl ⟨deployment, rfl⟩⟩)
    split
    case isTrue replicaSet => exact .inr (.inr ⟨rfl, .inr (.inl ⟨replicaSet, rfl⟩)⟩)
    split
    case isTrue statefulSet => exact .inr (.inr ⟨rfl, .inr (.inr ⟨statefulSet, rfl⟩)⟩)
    split
    · exact .inl rfl
    · exact .inr (.inl rfl)

variable {available : GroupKind → Json → Prop} {o : Json} {s part child : ResourceStatus}

theorem Reading.generated_custom (rules : Option StatusRules) (overrides : List Override)
    (o : Json) : (custom rules overrides o).generated = [] := by
  unfold custom
  split
  · exact generated_byOverride _ o
  · exact generated_alone _ o

section Typed

variable (typed : ∀ gk o, available gk o → (Document.idOrBlank o).groupKind = gk)

include typed

theorem ResourceStatus.Within.kind_of_pod (generated : child ∈ s.generated)
    (within : part.Within child) (h : Reading.FromPods available o s) :
    part.id.groupKind = Workload.pod := by
  obtain ⟨pod, there, rfl⟩ := exists_of_mem_generated h generated
  cases within with
  | self =>
    rw [Reading.plain, id_alone]
    exact typed _ pod there
  | deeper generated _ =>
    rw [Reading.plain, Reading.generated_alone] at generated
    cases generated

theorem ResourceStatus.Within.kind_below (generated : child ∈ s.generated)
    (within : part.Within child) (h : plan.FromObject available (plan.manner gk) o s) :
    Override.find? plan.overrides gk = none ∧ part.id.groupKind ∈ Workload.generatedKinds gk := by
  rcases plan.manner_cases gk with custom | plain | ⟨free, workload⟩
  · rw [custom] at h
    change s = Reading.custom plan.rules plan.overrides o at h
    rw [h, Reading.generated_custom] at generated
    cases generated
  · rw [plain] at h
    change s = Reading.alone Readiness.assess o at h
    rw [h, Reading.generated_alone] at generated
    cases generated
  refine ⟨free, ?_⟩
  rcases workload with ⟨rfl, manner⟩ | ⟨rfl, manner⟩ | ⟨rfl, manner⟩
  · rw [manner] at h
    obtain ⟨replicaSet, there, computed⟩ := exists_of_mem_generated h generated
    change Reading.FromPods available replicaSet child at computed
    cases within with
    | self =>
      obtain ⟨outcome, rfl, -⟩ := computed
      rw [id_workloadStatus, typed _ replicaSet there]
      decide
    | deeper generated within =>
      rw [within.kind_of_pod typed generated computed]
      decide
  · rw [manner] at h
    rw [within.kind_of_pod typed generated h]
    decide
  · rw [manner] at h
    rw [within.kind_of_pod typed generated h]
    decide

end Typed

end Kinds

end StatusWatch
