import StatusWatch.Proofs.Reading.Workloads
import StatusWatch.Proofs.Watch.FirstTick

/-!
Workloads as a run reads them. Every view of a settled cluster gives a workload the status that
repeats its tree, so a run reports this status, with a snapshot or without.
-/

namespace StatusWatch

variable {view : View σ} {I : σ → Prop} {catalog : Catalog} {held : Holdings} {r : Resource}

namespace Reading

theorem yields_generated (serves : view.Serves I catalog held)
    (found : catalog.resolve r.groupKind none = .ok r)
    {readChild : Json → StateM σ ResourceStatus} {value : Json → ResourceStatus}
    (children : ∀ o, Yields I (readChild o) (value o))
    (named : ∀ o, (value o).id = Document.idOrBlank o) (owner : Json) :
    Yields I (generated view r.groupKind readChild owner)
      ((held.children r owner).map (List.map value)) := by
  unfold generated Holdings.children
  rcases Selector.ofWorkload owner with e | _ | selector
  · exact .pure _
  · exact .pure _
  · have listed := serves.list r.groupKind ((Document.namespace? owner).getD "") (some selector)
    rw [found] at listed
    refine listed.bind ?_
    have read (objects : List Json) : Yields I (objects.mapM readChild) (objects.map value) :=
      .mapM fun o _ => children o
    refine (read _).bind ?_
    have sorted (objects : List Json) :
        (objects.map value).mergeSort (fun a b => a.id.le b.id) =
          (Document.sortById objects).map value := by
      refine (List.map_mergeSort fun a _ b _ => ?_).symm
      rw [named a, named b]
    rw [sorted]
    exact .pure _

theorem yields_workload (serves : view.Serves I catalog held)
    (found : catalog.resolve r.groupKind none = .ok r)
    {readChild : Json → StateM σ ResourceStatus} (levels : List Resource)
    (children : ∀ o, Yields I (readChild o) (held.statusOf levels o)) (owner : Json) :
    Yields I (workload view r.groupKind readChild owner) (held.statusOf (r :: levels) owner) := by
  rw [workload_eq]
  exact (yields_generated serves found children (held.statusOf_id levels) owner).bind (.pure _)

end Reading

namespace ReadingPlan

variable {plan : ReadingPlan} {gk : GroupKind}

theorem yields_readObject (serves : view.Serves I .builtin held)
    (workload : gk ∈ [Workload.deployment, Workload.replicaSet, Workload.statefulSet])
    (free : Override.find? plan.overrides gk = none) (object : Json) :
    Yields I (plan.readObject view (plan.manner gk) object)
      (held.statusOf (Workload.levels gk) object) := by
  have podsKnown : Catalog.builtin.resolve Workload.pods.groupKind none = .ok Workload.pods := rfl
  have setsKnown : Catalog.builtin.resolve Workload.replicaSets.groupKind none =
      .ok Workload.replicaSets := rfl
  have plain (pod : Json) : Yields I (pure (Reading.plain pod)) (held.statusOf [] pod) := .pure _
  have ofPods (owner : Json) : Yields I (Reading.ofPods view owner)
      (held.statusOf [Workload.pods] owner) :=
    Reading.yields_workload serves podsKnown [] plain owner
  have deployment : Yields I (Reading.deployment view object)
      (held.statusOf [Workload.replicaSets, Workload.pods] object) :=
    Reading.yields_workload serves setsKnown [Workload.pods] ofPods object
  simp only [List.mem_cons, List.not_mem_nil, or_false] at workload
  unfold manner
  rw [free]
  rcases workload with rfl | rfl | rfl
  · rw [Workload.levels_deployment]
    exact deployment
  · rw [Workload.levels_replicaSet]
    exact ofPods object
  · rw [Workload.levels_statefulSet]
    exact ofPods object

theorem statusAs_workload (builtin : plan.catalog = .builtin) {id : ObjectId}
    (workload : id.groupKind ∈ [Workload.deployment, Workload.replicaSet, Workload.statefulSet])
    (free : Override.find? plan.overrides id.groupKind = none)
    (found : Catalog.builtin.find? id.groupKind none = some r) {object : Json}
    (there : held.live? r (r.namespaceFor id.ns) id.name = some object) :
    plan.statusAs held id = { held.statusOf (Workload.levels id.groupKind) object with id } := by
  have resolved : Catalog.builtin.resolve id.groupKind none = .ok r := by
    rw [Catalog.resolve, found]
  have serves := View.fixed_serves .builtin held
  have judged := (yields_readObject serves workload free object () trivial).1
  have read : plan.statusIn held id = held.statusOf (Workload.levels id.groupKind) object := by
    rw [← judged]
    unfold Holdings.live? at there
    unfold statusIn ReadingPlan.read
    rw [builtin]
    simp only [View.find, resolved, View.direct, Cluster.fixed, Snapshot.named, there, pure_bind]
  rw [statusAs, read]

end ReadingPlan

namespace Watch

variable {plan : ReadingPlan} {gk : GroupKind} {object : Json} {t : Document.TypeMeta}

/-- A workload has the status that repeats its tree, and is current just if the tree is. Every view of
the cluster reads this status, and the first tick of a run reports it, in whatever order the
cluster lists what it holds. -/
theorem reflects_workload (builtin : plan.catalog = .builtin)
    (workload : gk ∈ [Workload.deployment, Workload.replicaSet, Workload.statefulSet])
    (free : Override.find? plan.overrides gk = none)
    (orderly : held.Orderly (Workload.levels gk)) (typed : Document.typeMeta object = .ok t) :
    ∃ s, held.Reflects (Workload.levels gk) object s ∧
      ∀ other : Holdings, (∀ r ns, (other r ns).Perm (held r ns)) →
        (∀ {σ : Type} (view : View σ) (I : σ → Prop), view.Serves I plan.catalog other →
          Yields I (plan.readObject view (plan.manner gk) object) s) ∧
        ∀ {σ : Type} (cluster : Cluster σ) (I : σ → Prop), cluster.Settled I other →
          ∀ (useSnapshot reportUnchanged : Bool) (ids : List ObjectId), ids.Nodup →
          ∀ id ∈ ids, id.groupKind = gk →
          (∀ r, Catalog.builtin.find? gk none = some r →
            other.live? r (r.namespaceFor id.ns) id.name = some object) →
          ∀ world, I world →
            let w : Watch σ := ⟨.ofCluster cluster plan useSnapshot, ids, reportUnchanged⟩
            .update { s with id } ∈ ((w.run never 1).run (.initial world)).2.events := by
  refine ⟨held.statusOf (Workload.levels gk) object, Holdings.reflects_statusOf orderly typed, ?_⟩
  intro other same
  rw [← Holdings.statusOf_eq_of_perm same orderly object]
  refine ⟨fun view I serves => ?_, ?_⟩
  · rw [builtin] at serves
    exact ReadingPlan.yields_readObject serves workload free object
  · intro σ cluster I settled useSnapshot reportUnchanged ids distinct id mem ofKind there world start
    subst ofKind
    obtain ⟨r, found⟩ : ∃ r, Catalog.builtin.find? id.groupKind none = some r := by
      simp only [List.mem_cons, List.not_mem_nil, or_false] at workload
      rcases workload with same | same | same <;> rw [same] <;> exact ⟨_, rfl⟩
    have events := events_settled settled plan useSnapshot distinct reportUnchanged start
    have status := ReadingPlan.statusAs_workload builtin workload free found (there r found)
    intro w
    rw [events, ← status]
    exact List.mem_append_left _ (List.mem_map_of_mem mem)

def webObject (apiVersion kind name uid owner : String) (rest : List (String × Json)) : Json :=
  .object ([("apiVersion", .str apiVersion), ("kind", .str kind),
    ("metadata", .object [("name", .str name), ("namespace", .str "infra"), ("uid", .str uid),
      ("labels", .object [("app", .str "web")]),
      ("ownerReferences", .arr [.object [("uid", .str owner), ("controller", .bool true)]])])] ++
    rest)

def webSpec : String × Json :=
  ("spec", .object [("selector", .object [("matchLabels", .object [("app", .str "web")])])])

/-- A deployment with its replica set and the one pod of that, beside a pod of somebody else. While the
one pod is pending, neither the replica set nor the deployment is current. -/
theorem reflects_workload_web :
    let deployment := webObject "apps/v1" "Deployment" "web" "d" "" [webSpec,
      ("status", .object (["replicas", "updatedReplicas", "readyReplicas", "availableReplicas"].map
        (·, .num (.int 1))))]
    let replicaSet := webObject "apps/v1" "ReplicaSet" "web-1" "r" "d" [webSpec,
      ("status", .object (["fullyLabeledReplicas", "readyReplicas", "availableReplicas"].map
        (·, .num (.int 1))))]
    let pod (name uid owner phase : String) :=
      webObject "v1" "Pod" name uid owner [("status", .object [("phase", .str phase)])]
    let world (phase : String) : Scripted :=
      ⟨[pod "stray" "s" "" "Pending", pod "web-1-x" "p" "r" phase, replicaSet, deployment], [], []⟩
    let plan : ReadingPlan := ⟨.builtin, none, []⟩
    let id : ObjectId := ⟨Workload.deployment, "web", "infra"⟩
    let below (s : ResourceStatus) := s.generated.map fun child =>
      (child.id.name, child.status, child.generated.map fun pod => (pod.id.name, pod.status))
    let w : Watch Scripted := ⟨.ofCluster .scripted plan true, [id], false⟩
    (∃ s, Holdings.Reflects (world "Succeeded").collection (Workload.levels Workload.deployment)
        deployment s ∧ s.status = "Current" ∧
        below s = [("web-1", "Current", [("web-1-x", "Current")])] ∧
        .update { s with id } ∈ ((w.run never 1).run (.initial (world "Succeeded"))).2.events) ∧
      ∃ s, Holdings.Reflects (world "Pending").collection (Workload.levels Workload.deployment)
        deployment s ∧ s.status = "InProgress" ∧
        below s = [("web-1", "InProgress", [("web-1-x", "InProgress")])] ∧
        .update { s with id } ∈ ((w.run never 1).run (.initial (world "Pending"))).2.events := by
  intro deployment replicaSet pod world plan id below w
  have typed : Document.typeMeta deployment = .ok ⟨"apps", "v1", "Deployment"⟩ := by decide +kernel
  have builtin : plan.catalog = .builtin := rfl
  have known : Catalog.builtin.find? Workload.deployment none =
      some ⟨"apps", "v1", "Deployment", "deployments", true⟩ := by decide +kernel
  have reflected (phase : String)
      (distinct : ((world phase).objects.map Document.idOrBlank).Nodup)
      (there : Holdings.live? (world phase).collection
        ⟨"apps", "v1", "Deployment", "deployments", true⟩ (some "infra") "web" = some deployment) :
      ∃ s, Holdings.Reflects (world phase).collection (Workload.levels Workload.deployment)
          deployment s ∧
        ((plan.readObject (View.direct (.fixed (world phase).collection) plan.catalog)
          (plan.manner Workload.deployment) deployment).run ()).1 = s ∧
        .update { s with id } ∈ ((w.run never 1).run (.initial (world phase))).2.events := by
    have orderly : Holdings.Orderly (world phase).collection
        (Workload.levels Workload.deployment) := by
      rw [Workload.levels_deployment]
      refine ⟨fun r mem => ?_, fun r _ ns => distinct.sublist (List.filter_sublist.map _)⟩
      simp only [List.mem_cons, List.not_mem_nil, or_false] at mem
      rcases mem with rfl | rfl
      · exact Scripted.typed (by decide) (world phase)
      · exact Scripted.typed (by decide) (world phase)
    obtain ⟨s, reflects, reported⟩ := reflects_workload builtin List.mem_cons_self rfl orderly typed
    obtain ⟨read, inRun⟩ := reported (world phase).collection fun _ _ => .refl _
    refine ⟨s, reflects, (read _ _ (View.fixed_serves .builtin _) () trivial).1, ?_⟩
    have settled := Scripted.settled (world phase).objects
    have standing (r : Resource) (found : Catalog.builtin.find? Workload.deployment none = some r) :
        Holdings.live? (world phase).collection r (r.namespaceFor "infra") "web" =
          some deployment := by
      cases known.symm.trans found
      exact there
    have watch : w = ⟨.ofCluster .scripted plan true, [id], false⟩ := rfl
    rw [watch]
    exact inRun .scripted _ settled true false [id] (List.nodup_singleton id) id
      (List.mem_singleton_self id) rfl standing (world phase) rfl
  constructor
  · obtain ⟨s, reflects, read, reported⟩ := reflected "Succeeded" (by decide +kernel) (by rfl)
    exact ⟨s, reflects, by rw [← read]; decide +kernel, by rw [← read]; decide +kernel, reported⟩
  · obtain ⟨s, reflects, read, reported⟩ := reflected "Pending" (by decide +kernel) (by rfl)
    exact ⟨s, reflects, by rw [← read]; decide +kernel, by rw [← read]; decide +kernel, reported⟩

end Watch

end StatusWatch
