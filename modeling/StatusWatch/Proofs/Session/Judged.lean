import StatusWatch.Proofs.Manifest
import StatusWatch.Proofs.Session.Settled
import StatusWatch.Proofs.StatusRules

/-!
Statuses of a kind with checks, by what the checks say of the live object. A session takes the
object behind a document, in the document's own version; a watch takes it by the identifier, in
the default version. Where these are one version, only the namespaces can differ.
-/

namespace StatusWatch

def Holdings.Typed (held : Holdings) (r : Resource) : Prop :=
  ∀ ns, ∀ o ∈ held r ns, Document.typeMeta o = .ok ⟨r.group, r.version, r.kind⟩

theorem Scripted.typed {r : Resource} (joined : splitApiVersion r.apiVersion = (r.group, r.version))
    (s : Scripted) : Holdings.Typed s.collection r := by
  intro ns o mem
  have meets := (List.mem_filter.mp mem).2
  simp only [isIn, Bool.and_eq_true, beq_iff_eq] at meets
  unfold Document.typeMeta
  rw [meets.1.1, meets.1.2]
  simp [joined]

def ResourceStatus.assessment (s : ResourceStatus) : Assessment :=
  ⟨s.status, s.message⟩

/-- A kind that both ways judge by its checks, in one version. -/
structure ByChecks (base : Catalog) (rules : StatusRules) (overrides : List Override)
    (t : Document.TypeMeta) (r : Resource) : Prop where
  annotated : t.groupKind ∈ rules.kinds
  free : Override.find? overrides t.groupKind = none
  noWorkload : t.groupKind ∉ [Workload.deployment, Workload.replicaSet, Workload.statefulSet]
  registered : rules.catalog.find? t.groupKind (some t.version) = some r
  default :
    ((base.merge rules.catalog).find? t.groupKind none).map Resource.version = some t.version

def StatusRules.judge (rules : StatusRules) (r : Resource) : Option Json → Assessment
  | none => ⟨.notFound, "Resource not found"⟩
  | some live =>
    match rules.statusIn r.collection live with
    | .ok status => .ofCheck r.kind status
    | .error e => ⟨.unknown, e.message⟩

def Session.namespaceOf (r : Resource) (document : Json) : Option String :=
  if r.namespaced then some ((Document.namespace? document).getD defaultNamespace) else none

def Holdings.live? (held : Holdings) (r : Resource) (ns : Option String) (name : String) :
    Option Json :=
  (held r ns).find? fun o => Document.name? o = some name

section Values

variable {base : Catalog} {rules : StatusRules} {overrides : List Override} {t : Document.TypeMeta}
  {r : Resource} {held : Holdings} {document : Json} {id : ObjectId}

theorem kind_of_registered
    (registered : rules.catalog.find? t.groupKind (some t.version) = some r) :
    r.group = t.group ∧ r.kind = t.kind ∧ r.version = t.version := by
  have key := Catalog.key_of_find? registered
  simpa [Resource.key, Resource.groupKind, Document.TypeMeta.groupKind, and_assoc] using key

theorem assessment_checkedIn (typed : Document.typeMeta document = .ok t)
    (kind : t.groupKind = id.groupKind) (named : Document.name? document = some id.name)
    (registered : rules.catalog.find? t.groupKind (some t.version) = some r) :
    (Session.checkedIn rules held (id, document)).assessment =
      rules.judge r (held.live? r (Session.namespaceOf r document) id.name) := by
  have sameKind : id.groupKind.kind = r.kind := by
    rw [← kind, (kind_of_registered registered).2.1]
    rfl
  unfold Session.checkedIn Session.readChecked StatusRules.statusOf Holdings.live?
    Session.namespaceOf
  simp only [typed, registered, named, Option.getD_some, Cluster.fixed, Snapshot.named, sameKind]
  generalize (if r.namespaced then _ else none : Option String) = ns
  cases (held r ns).find? fun o => Document.name? o = some id.name with
  | none => rfl
  | some live =>
    simp only [pure_bind, StatusRules.judge]
    cases judged : rules.statusIn r.collection live with
    | ok status => rfl
    | error e =>
      simp only [ResourceStatus.ofFailure, StatusRules.statusIn_error judged]
      rfl

theorem manner_planFor {gk : GroupKind} (annotated : gk ∈ rules.kinds)
    (free : Override.find? overrides gk = none)
    (noWorkload : gk ∉ [Workload.deployment, Workload.replicaSet, Workload.statefulSet])
    (base : Catalog) : (Watch.planFor base (some rules) overrides).manner gk = .custom := by
  simp only [List.mem_cons, List.not_mem_nil, or_false, not_or] at noWorkload
  simp [ReadingPlan.manner, Watch.planFor, free, noWorkload, annotated]

theorem manner_eq_custom (h : ByChecks base rules overrides t r) :
    (Watch.planFor base (some rules) overrides).manner t.groupKind = .custom :=
  manner_planFor h.annotated h.free h.noWorkload base

theorem resolve_default (sound : rules.Sound) (h : ByChecks base rules overrides t r) :
    (base.merge rules.catalog).find? t.groupKind none = some r := by
  obtain ⟨s, found, version⟩ := Option.map_eq_some_iff.mp h.default
  have known := sound.find?_merge base h.registered
  rw [← version, Catalog.find?_of_default found] at known
  rw [found, known]

theorem groupKind_idOrBlank {object : Json} (typed : Document.typeMeta object = .ok t) :
    (Document.idOrBlank object).groupKind = t.groupKind := by
  unfold Document.idOrBlank
  split
  case h_1 i known =>
    obtain ⟨t', typed', same, -⟩ := Document.id_eq_ok known
    rw [typed] at typed'
    cases typed'
    exact same.symm
  case h_2 =>
    unfold Document.typeMeta at typed
    split at typed
    case h_1 => cases typed
    case h_2 => cases typed
    case h_3 apiVersion kind =>
      rw [apiVersion, kind]
      cases typed
      rfl

theorem assessment_custom (h : ByChecks base rules overrides t r)
    {live : Json} (typed : Document.typeMeta live = .ok t) :
    (Reading.custom (some rules) overrides live).assessment = rules.judge r (some live) := by
  unfold Reading.custom
  rw [groupKind_idOrBlank typed, h.free]
  simp only [Reading.alone, StatusRules.assess_eq typed h.registered, StatusRules.judge]
  rw [(kind_of_registered h.registered).2.1]
  cases rules.statusIn r.collection live with
  | ok status => rfl
  | error e => rfl

theorem assessment_statusAs (sound : rules.Sound) (typed : held.Typed r)
    (h : ByChecks base rules overrides t r) (kind : t.groupKind = id.groupKind) :
    ((Watch.planFor base (some rules) overrides).statusAs held id).assessment =
      rules.judge r (held.live? r (r.namespaceFor id.ns) id.name) := by
  have resolved : (base.merge rules.catalog).resolve id.groupKind none = .ok r := by
    rw [← kind, Catalog.resolve, resolve_default sound h]
  change ((Watch.planFor base (some rules) overrides).statusIn held id).assessment = _
  unfold ReadingPlan.statusIn ReadingPlan.read Holdings.live?
  simp only [View.find, Watch.planFor, resolved, View.direct, Cluster.fixed, Snapshot.named]
  cases found : (held r (r.namespaceFor id.ns)).find? fun o => Document.name? o = some id.name with
  | none => rfl
  | some live =>
    have manner : ReadingPlan.manner ⟨base.merge rules.catalog, some rules, overrides⟩
        t.groupKind = .custom := manner_eq_custom h
    have typed' := typed _ live (List.mem_of_find?_eq_some found)
    have key := kind_of_registered h.registered
    rw [key.1, key.2.1, key.2.2] at typed'
    rw [← assessment_custom h typed', ← kind]
    simp only [pure_bind]
    rw [manner]
    rfl

theorem namespaceOf_eq_iff (r : Resource) (document : Json) :
    Session.namespaceOf r document = r.namespaceFor ((Document.namespace? document).getD "") ↔
      (r.namespaced = true → Document.namespace? document ≠ some "") := by
  unfold Session.namespaceOf Resource.namespaceFor
  cases r.namespaced with
  | false => simp
  | true =>
    cases Document.namespace? document with
    | none => simp
    | some ns =>
      by_cases blank : ns = ""
      · simp [blank, defaultNamespace]
      · simp [blank]

theorem judge_some_ne_judge_none (rules : StatusRules) (r : Resource) (live : Json) :
    rules.judge r (some live) ≠ rules.judge r none := by
  have apart : Status.unknown ≠ Status.notFound := by decide
  intro same
  unfold StatusRules.judge at same
  dsimp only at same
  split at same
  case h_1 status _ =>
    unfold Assessment.ofCheck at same
    split at same
    case isTrue unknown =>
      rw [unknown] at same
      exact apart (congrArg Assessment.status same)
    case isFalse =>
      obtain ⟨rfl, message⟩ := Assessment.mk.inj same
      -- the messages end alike but for one capital letter
      have ends := congrArg (fun text => (text.toList.reverse.take 5)) message
      simp [Status.notFound] at ends
  case h_2 => exact apart (congrArg Assessment.status same)

end Values

end StatusWatch
