import StatusWatch.Proofs.Reading.Overrides
import StatusWatch.Proofs.Watch.Fresh
import StatusWatch.Proofs.Watch.Workloads

/-!
Overrides in a run. What is asked for is judged by the override of its kind; what is found below a
workload is judged by the built-in rule of its kind, so that an override of the kind is not heard
there. It reaches all depths just if no workload without an override generates the kind.
-/

namespace StatusWatch

def Cluster.Typed (c : Cluster σ) (catalog : Catalog) : Prop :=
  ∀ r ∈ catalog.resources, ∀ o, c.Gives r o →
    Document.typeMeta o = .ok ⟨r.group, r.version, r.kind⟩

theorem Catalog.Supplied.typed {cluster : Cluster σ} {catalog : Catalog}
    (typed : cluster.Typed catalog) {calls : Receipts cluster} {gk : GroupKind} {o : Json}
    (h : catalog.Supplied calls gk o) :
    ∃ r, cluster.Gives r o ∧ Document.typeMeta o = .ok ⟨r.group, r.version, r.kind⟩ ∧
      r.groupKind = gk := by
  obtain ⟨r, found, returned⟩ := h
  have ofKind := groupKind_of_default found
  rw [find?_none_version] at found
  exact ⟨r, returned.gives, typed r (List.mem_of_find?_eq_some found) o returned.gives, ofKind⟩

theorem Scripted.mem_of_gives {r : Resource} {o : Json} (h : Cluster.scripted.Gives r o) :
    ∃ (s : Scripted) (ns : Option String), o ∈ s.collection r ns := by
  rcases h with ⟨ns, name, s, answer⟩ | ⟨ns, s, objects, answer, mem⟩
  · refine ⟨s, ns, ?_⟩
    simp only [Cluster.scripted, StateT.run] at answer
    split at answer
    · cases answer
    · split at answer
      case h_1 found =>
        cases answer
        exact List.mem_of_find?_eq_some found
      case h_2 => cases answer
  · refine ⟨s, ns, ?_⟩
    simp only [Cluster.scripted, StateT.run] at answer
    split at answer
    · cases answer
    · cases answer
      exact mem

theorem Scripted.typed_builtin : Cluster.scripted.Typed .builtin := by
  intro r mem o given
  have joined : ∀ r ∈ Catalog.builtin.resources,
      splitApiVersion r.apiVersion = (r.group, r.version) := by decide +kernel
  obtain ⟨s, ns, listed⟩ := mem_of_gives given
  exact Scripted.typed (joined r mem) s ns o listed

namespace Watch

/-- The status is in an update of a run with these overrides: with any catalog, rules, identifiers
and other options, stopped anywhere, over a cluster that gives objects of the types it is asked
for. -/
def Emits (overrides : List Override) (cluster : Cluster σ) (s : ResourceStatus) : Prop :=
  ∃ (catalog : Catalog) (rules : Option StatusRules) (ids : List ObjectId) (options : WatchOptions)
      (w : Watch σ) (stop : Interruption) (n : Nat) (world : σ),
    start? cluster catalog rules ids { options with overrides } = some w ∧
      cluster.Typed (planFor catalog rules overrides).catalog ∧
      .update s ∈ ((w.run stop n).run (.initial world)).2.events

/-- The condition decides the status, for an object of the status's kind that the cluster gave. -/
def Conforms (c : Condition) (cluster : Cluster σ) (s : ResourceStatus) : Prop :=
  ∃ r o, cluster.Gives r o ∧ Document.groupKind o = .ok s.id.groupKind ∧ c.Decides o s

def Failed (cluster : Cluster σ) (s : ResourceStatus) : Prop :=
  ∃ e, cluster.LookupFault s.id e ∧ s = .ofFailure s.id e

variable {overrides : List Override} {cluster : Cluster σ} {s part : ResourceStatus}
  {gk : GroupKind} {c : Condition}

theorem Emits.fromLookup (h : Emits overrides cluster s) :
    ∃ plan : ReadingPlan, plan.overrides = overrides ∧ cluster.Typed plan.catalog ∧
      ∃ calls : Receipts cluster, plan.FromLookup calls s := by
  obtain ⟨catalog, rules, ids, options, w, stop, n, world, started, typed, mem⟩ := h
  unfold start? at started
  split at started
  · cases started
  cases started
  let plan := planFor catalog rules overrides
  have fresh : (Source.ofCluster cluster.receipted plan options.useSnapshot).Fresh
      plan.FromLookup := by
    refine Source.ofCluster_fresh_of cluster plan _ ?_ fun snapshot calls shows id => ?_
    · rintro calls more sub status (failed | ⟨o, read, supplied, computed, same⟩)
      · exact .inl failed
      · exact .inr ⟨o, read, supplied.mono sub, computed.mono fun gk o h => h.mono sub, same⟩
    · refine plan.draws_readAs shows ?_ id
      cases options.useSnapshot with
      | true => exact snapshot.view_faults plan.catalog
      | false => exact View.direct_faults plan.catalog
  exact ⟨plan, rfl, typed,
    exists_from cluster plan options.useSnapshot fresh ids _ stop n world mem⟩

theorem Emits.conforms (h : Emits overrides cluster s)
    (overridden : Override.find? overrides s.id.groupKind = some c) :
    Failed cluster s ∨ Conforms c cluster s := by
  obtain ⟨plan, rfl, typed, calls, failed | ⟨o, read, supplied, computed, same⟩⟩ := h.fromLookup
  · exact .inl failed
  obtain ⟨r, given, ofType, ofKind⟩ := supplied.typed typed
  have key : (Document.idOrBlank o).groupKind = s.id.groupKind :=
    (groupKind_idOrBlank ofType).trans ofKind
  rw [ReadingPlan.manner_of_override overridden] at computed
  change read = Reading.custom plan.rules plan.overrides o at computed
  unfold Reading.custom at computed
  rw [key, overridden] at computed
  refine .inr ⟨r, o, given, ?_, ?_⟩
  · rw [Document.groupKind, ofType, ← ofKind]
    rfl
  · rw [same, computed]
    exact c.decides_byOverride o _

theorem Emits.generated (h : Emits overrides cluster s) (within : part.Within s)
    (apart : part ≠ s) :
    Override.find? overrides s.id.groupKind = none ∧
      part.id.groupKind ∈ Workload.generatedKinds s.id.groupKind := by
  obtain ⟨plan, rfl, typed, calls, ⟨e, -, failed⟩ | ⟨o, read, supplied, computed, same⟩⟩ :=
    h.fromLookup
  · cases within with
    | self => exact absurd rfl apart
    | deeper generated within =>
      rw [failed, ResourceStatus.generated_ofFailure] at generated
      cases generated
  · cases within with
    | self => exact absurd rfl apart
    | deeper generated within =>
      rw [same] at generated
      change _ ∈ read.generated at generated
      refine within.kind_below (fun gk o supplied => ?_) generated computed
      obtain ⟨r, -, ofType, ofKind⟩ := supplied.typed typed
      exact (groupKind_idOrBlank ofType).trans ofKind

theorem events_scripted (objects : List Json) (plan : ReadingPlan)
    (useSnapshot reportUnchanged : Bool) (id : ObjectId) :
    let w : Watch Scripted := ⟨.ofCluster .scripted plan useSnapshot, [id], reportUnchanged⟩
    ((w.run never 1).run (.initial ⟨objects, [], []⟩)).2.events =
      [.update (plan.statusAs (Scripted.collection ⟨objects, [], []⟩) id), .tickEnd] :=
  events_settled (Scripted.settled objects) plan useSnapshot (List.nodup_singleton id)
    reportUnchanged rfl

theorem emits_scripted (objects : List Json) (overrides : List Override) (id : ObjectId) :
    Emits overrides .scripted
      ((planFor .builtin none overrides).statusAs (Scripted.collection ⟨objects, [], []⟩) id) := by
  refine ⟨.builtin, none, [id], ⟨1, false, true, []⟩, _, never, 1, ⟨objects, [], []⟩, rfl,
    Scripted.typed_builtin, ?_⟩
  dsimp only
  rw [events_scripted]
  exact List.mem_cons_self

section Stalled

def stalled : String × Json :=
  ("status", .object [("conditions", .arr [.object [("type", .str "Stalled"),
    ("status", .str "True"), ("message", .str "quota exceeded")]])])

def stalledDeployment : Json :=
  webObject "apps/v1" "Deployment" "web" "d" "" [webSpec, stalled]

def stalledReplicaSet : Json :=
  webObject "apps/v1" "ReplicaSet" "web" "r" "d" [webSpec, stalled]

def stalledStatefulSet : Json :=
  webObject "apps/v1" "StatefulSet" "web" "s" "" [webSpec, stalled]

def stalledPod (name owner : String) : Json :=
  webObject "v1" "Pod" name name owner [stalled]

def stalledObjects : List Json :=
  [stalledDeployment, stalledReplicaSet, stalledStatefulSet, stalledPod "web-x" "r",
    stalledPod "web-0" "s"]

abbrev stalledHoldings : Holdings :=
  Scripted.collection ⟨stalledObjects, [], []⟩

theorem statusOf_single {held : Holdings} {r : Resource} {object child : Json} {selector : Selector}
    (read : Selector.ofWorkload object = .ok (some selector))
    (one : (pick (some selector)
      (held r (r.namespaceFor ((Document.namespace? object).getD "")))).filter
        (Reading.owns object) = [child]) (below : List Resource) :
    held.statusOf (r :: below) object =
      Reading.workloadStatus object (.ok [held.statusOf below child]) := by
  have known : held.children r object = .ok [child] := by
    unfold Holdings.children Document.sortById
    rw [read]
    simp only [Except.map, one, List.mergeSort_singleton]
  rw [Holdings.statusOf, known]
  rfl

theorem replicaSet_below_stalled :
    stalledHoldings.statusOf [Workload.pods] stalledReplicaSet ∈
      (stalledHoldings.statusOf (Workload.levels Workload.deployment) stalledDeployment).generated := by
  rw [Workload.levels_deployment, statusOf_single rfl rfl]
  exact List.mem_cons_self

theorem pod_below_stalledReplicaSet :
    Reading.plain (stalledPod "web-x" "r") ∈
      (stalledHoldings.statusOf (Workload.levels Workload.replicaSet) stalledReplicaSet).generated := by
  rw [Workload.levels_replicaSet, statusOf_single rfl rfl]
  exact List.mem_cons_self

theorem pod_below_stalledStatefulSet :
    Reading.plain (stalledPod "web-0" "s") ∈
      (stalledHoldings.statusOf (Workload.levels Workload.statefulSet)
        stalledStatefulSet).generated := by
  rw [Workload.levels_statefulSet, statusOf_single rfl rfl]
  exact List.mem_cons_self

theorem exists_failed_below {owner : GroupKind} (generates : gk ∈ Workload.generatedKinds owner)
    (free : Override.find? overrides owner = none) :
    ∃ part : ResourceStatus,
      part.Within ((planFor .builtin none overrides).statusAs stalledHoldings
        ⟨owner, "web", "infra"⟩) ∧ part.id.groupKind = gk ∧ part.status = Status.failed := by
  have status {object : Json} {r : Resource}
      (workload : owner ∈ [Workload.deployment, Workload.replicaSet, Workload.statefulSet])
      (found : Catalog.builtin.find? owner none = some r)
      (there : stalledHoldings.live? r (r.namespaceFor "infra") "web" = some object) :
      (planFor .builtin none overrides).statusAs stalledHoldings ⟨owner, "web", "infra"⟩ =
        { stalledHoldings.statusOf (Workload.levels owner) object with
          id := ⟨owner, "web", "infra"⟩ } :=
    ReadingPlan.statusAs_workload rfl workload free found there
  unfold Workload.generatedKinds at generates
  split at generates
  case isTrue deployment =>
    subst deployment
    rw [status List.mem_cons_self rfl rfl]
    rcases List.mem_cons.mp generates with rfl | pods
    · exact ⟨_, .deeper replicaSet_below_stalled (.self _), rfl, rfl⟩
    · rw [List.mem_singleton.mp pods]
      exact ⟨_, .deeper replicaSet_below_stalled (.deeper pod_below_stalledReplicaSet (.self _)),
        rfl, rfl⟩
  split at generates
  case isTrue owner =>
    rw [List.mem_singleton.mp generates]
    rcases owner with rfl | rfl
    · rw [status (by decide) rfl rfl]
      exact ⟨_, .deeper pod_below_stalledReplicaSet (.self _), rfl, rfl⟩
    · rw [status (by decide) rfl rfl]
      exact ⟨_, .deeper pod_below_stalledStatefulSet (.self _), rfl, rfl⟩
  case isFalse => cases generates

end Stalled

/-- In every run an override decides the statuses of its kind that are asked for. It decides those at
all depths just if no workload without an override of its own generates the kind: what a workload
generated is judged by the built-in rules. -/
theorem overrides_reach_iff (overridden : Override.find? overrides gk = some c) :
    (∀ {σ : Type} (cluster : Cluster σ) (s : ResourceStatus), Emits overrides cluster s →
      s.id.groupKind = gk → Failed cluster s ∨ Conforms c cluster s) ∧
    ((∀ {σ : Type} (cluster : Cluster σ) (s : ResourceStatus), Emits overrides cluster s →
      ∀ part : ResourceStatus, part.Within s → part.id.groupKind = gk →
        part = s ∧ Failed cluster s ∨ Conforms c cluster part) ↔
      ∀ owner, Override.find? overrides owner = none → gk ∉ Workload.generatedKinds owner) := by
  have top {σ : Type} (cluster : Cluster σ) (s : ResourceStatus) (emitted : Emits overrides cluster s)
      (ofKind : s.id.groupKind = gk) : Failed cluster s ∨ Conforms c cluster s :=
    emitted.conforms (ofKind ▸ overridden)
  refine ⟨top, ?_, ?_⟩
  · intro reaches owner free generates
    -- Failed objects below the workload: neither a condition nor a lookup says so of anything.
    obtain ⟨part, within, ofKind, failed⟩ := exists_failed_below generates free
    rcases reaches .scripted _ (emits_scripted stalledObjects overrides _) part within ofKind with
      ⟨rfl, e, -, lookup⟩ | ⟨r, o, -, -, decided⟩
    · rw [lookup] at failed
      exact ResourceStatus.ofFailure_status_ne _ e failed
    · exact decided.status_ne failed
  · intro unreached σ cluster s emitted part within ofKind
    by_cases same : part = s
    · subst same
      exact (top cluster part emitted ofKind).imp_left fun failed => ⟨rfl, failed⟩
    · obtain ⟨free, generated⟩ := emitted.generated within same
      exact absurd (ofKind ▸ generated) (unreached _ free)

/-- Nothing generates config maps. -/
theorem overrides_reach_configMaps :
    let c : Condition := ⟨"@.data.mode==\"ready\""⟩
    let configMap : GroupKind := ⟨"", "ConfigMap"⟩
    Override.find? [⟨configMap, c⟩] configMap = some c ∧
      ∀ {σ : Type} (cluster : Cluster σ) (s : ResourceStatus),
        Emits [⟨configMap, c⟩] cluster s → ∀ part : ResourceStatus, part.Within s →
          part.id.groupKind = configMap →
            part = s ∧ Failed cluster s ∨ Conforms c cluster part := by
  intro c configMap
  have overridden : Override.find? [⟨configMap, c⟩] configMap = some c := by decide
  refine ⟨overridden, (overrides_reach_iff overridden).2.mpr fun owner _ generated => ?_⟩
  unfold Workload.generatedKinds at generated
  split at generated
  · exact absurd generated (by decide)
  split at generated
  · exact absurd generated (by decide)
  · cases generated

def runningPod : Json :=
  webObject "v1" "Pod" "web-x" "p" "r" [("status", .object [("phase", .str "Running")])]

def availableReplicaSet : Json :=
  webObject "apps/v1" "ReplicaSet" "web" "r" "" [webSpec, ("status", .object
    (["fullyLabeledReplicas", "readyReplicas", "availableReplicas"].map (·, .num (.int 1))))]

/-- Pods are to be current as soon as they run. The one pod of a replica set runs and is not ready:
the override of its kind is not heard, and the replica set waits for it. -/
theorem not_overrides_reach_pods :
    let c : Condition := ⟨"@.status.phase==\"Running\""⟩
    let options : WatchOptions := ⟨1, true, true, [⟨Workload.pod, c⟩]⟩
    let id : ObjectId := ⟨Workload.replicaSet, "web", "infra"⟩
    Override.find? options.overrides Workload.pod = some c ∧ c.holds runningPod = .ok true ∧
      ∃ w, start? .scripted .builtin none [id] options = some w ∧
        ((w.run never 1).run (.initial ⟨[availableReplicaSet, runningPod], [], []⟩)).2.events =
          [.update ⟨id, "InProgress", "Waiting for 1 of 1 generated resources", none,
              some availableReplicaSet,
              [⟨⟨Workload.pod, "web-x", "infra"⟩, "InProgress", "Pod is running but is not Ready",
                none, some runningPod, []⟩]⟩,
            .tickEnd] := by
  intro c options id
  have there : Holdings.live? (Scripted.collection ⟨[availableReplicaSet, runningPod], [], []⟩)
      ⟨"apps", "v1", "ReplicaSet", "replicasets", true⟩ (some "infra") "web" =
        some availableReplicaSet := by rfl
  have status : (planFor .builtin none options.overrides).statusAs
      (Scripted.collection ⟨[availableReplicaSet, runningPod], [], []⟩) id =
        ⟨id, "InProgress", "Waiting for 1 of 1 generated resources", none, some availableReplicaSet,
          [⟨⟨Workload.pod, "web-x", "infra"⟩, "InProgress", "Pod is running but is not Ready", none,
            some runningPod, []⟩]⟩ := by
    rw [ReadingPlan.statusAs_workload rfl (by decide) (by decide) rfl there,
      Workload.levels_replicaSet, statusOf_single rfl rfl]
    rfl
  refine ⟨by decide, by decide +kernel,
    ⟨.ofCluster .scripted (planFor .builtin none options.overrides) true, [id], true⟩, rfl, ?_⟩
  rw [events_scripted, status]

end Watch

end StatusWatch
