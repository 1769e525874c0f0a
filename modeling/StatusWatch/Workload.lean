import StatusWatch.Identity

/-!
Which kinds a workload generates: deployments make replica sets, and these and stateful sets
make pods.
-/

namespace StatusWatch.Workload

def deployment : GroupKind := ⟨"apps", "Deployment"⟩

def replicaSet : GroupKind := ⟨"apps", "ReplicaSet"⟩

def statefulSet : GroupKind := ⟨"apps", "StatefulSet"⟩

def pod : GroupKind := ⟨"", "Pod"⟩

/-- Every kind whose objects are looked at for a workload's status, at any depth. -/
def generatedKinds (gk : GroupKind) : List GroupKind :=
  if gk = deployment then [replicaSet, pod]
  else if gk = replicaSet ∨ gk = statefulSet then [pod]
  else []

end StatusWatch.Workload
