import StatusWatch.Error

/-!
The catalog of resources: under which collection, in which version and in which scope a kind is
served. The first version registered for a kind is the one used where none is asked for.
-/

namespace StatusWatch

structure Resource where
  group : String
  version : String
  kind : String
  plural : String
  namespaced : Bool
  deriving DecidableEq, Repr, Inhabited

structure Collection where
  group : String
  version : String
  plural : String
  deriving DecidableEq, Repr

namespace Resource

def groupKind (r : Resource) : GroupKind :=
  ⟨r.group, r.kind⟩

def apiVersion (r : Resource) : String :=
  joinApiVersion r.group r.version

def collection (r : Resource) : Collection :=
  ⟨r.group, r.version, r.plural⟩

def sameVersion (r s : Resource) : Bool :=
  r.groupKind = s.groupKind && r.version = s.version

end Resource

/-- The namespace of namespaced kinds that are named without one. -/
def defaultNamespace : String := "default"

def Resource.namespaceFor (r : Resource) (ns : String) : Option String :=
  if !r.namespaced then none
  else if ns = "" then some defaultNamespace
  else some ns

structure Catalog where
  resources : List Resource
  deriving DecidableEq, Repr, Inhabited

namespace Catalog

def empty : Catalog := ⟨[]⟩

/-- A registration takes the place of an earlier one of the same version of the same kind. -/
def put (r : Resource) : List Resource → List Resource
  | [] => [r]
  | s :: rest => if s.sameVersion r then r :: rest else s :: put r rest

def add (c : Catalog) (r : Resource) : Catalog :=
  ⟨put r c.resources⟩

def merge (c other : Catalog) : Catalog :=
  other.resources.foldl add c

/-- The registration of a version, or the first one if none is asked for. -/
def find? (c : Catalog) (gk : GroupKind) (version : Option String) : Option Resource :=
  c.resources.find? fun r => r.groupKind = gk && version.all (r.version == ·)

def resolve (c : Catalog) (gk : GroupKind) (version : Option String) : Except Error Resource :=
  match c.find? gk version with
  | some r => .ok r
  | none => .error (.noMapping gk.toText)

def served (group version : String) (namespaced : Bool) (kinds : List (String × String)) :
    List Resource :=
  kinds.map fun (kind, plural) => ⟨group, version, kind, plural, namespaced⟩

def builtin : Catalog :=
  ⟨served "" "v1" true [
      ("Pod", "pods"), ("Service", "services"), ("ConfigMap", "configmaps"),
      ("Secret", "secrets"), ("ServiceAccount", "serviceaccounts"), ("Endpoints", "endpoints"),
      ("PersistentVolumeClaim", "persistentvolumeclaims"), ("ResourceQuota", "resourcequotas"),
      ("LimitRange", "limitranges")] ++
    served "" "v1" false [
      ("Node", "nodes"), ("Namespace", "namespaces"), ("PersistentVolume", "persistentvolumes")] ++
    served "apps" "v1" true [
      ("Deployment", "deployments"), ("StatefulSet", "statefulsets"),
      ("DaemonSet", "daemonsets"), ("ReplicaSet", "replicasets")] ++
    served "batch" "v1" true [("Job", "jobs"), ("CronJob", "cronjobs")] ++
    served "networking.k8s.io" "v1" true [
      ("Ingress", "ingresses"), ("NetworkPolicy", "networkpolicies")] ++
    served "autoscaling" "v2" true [("HorizontalPodAutoscaler", "horizontalpodautoscalers")] ++
    served "policy" "v1" true [("PodDisruptionBudget", "poddisruptionbudgets")] ++
    served "storage.k8s.io" "v1" false [("StorageClass", "storageclasses")] ++
    served "rbac.authorization.k8s.io" "v1" true [
      ("Role", "roles"), ("RoleBinding", "rolebindings")] ++
    served "rbac.authorization.k8s.io" "v1" false [
      ("ClusterRole", "clusterroles"), ("ClusterRoleBinding", "clusterrolebindings")] ++
    served "apiextensions.k8s.io" "v1" false [
      ("CustomResourceDefinition", "customresourcedefinitions")]⟩

end Catalog

end StatusWatch
