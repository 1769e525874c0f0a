import StatusWatch.Catalog
import StatusWatch.Document

/-!
What the library asks of a cluster: one object, or all objects of a collection. A cluster is any
pair of such functions over a state of its own, which may change and fail as it likes.
`Cluster.recorded` keeps a log of the calls beside that state.
-/

namespace StatusWatch

/-- Reads of a cluster with state `σ`. Without a namespace, `list` is over all of them. -/
structure Cluster (σ : Type) where
  get : Resource → Option String → String → StateM σ (Except Error Json)
  list : Resource → Option String → StateM σ (Except Error (List Json))

inductive Call where
  | get (resource : Resource) (ns : Option String) (name : String)
  | list (resource : Resource) (ns : Option String)
  deriving DecidableEq, Repr

namespace Call

def toText (call : Call) : String :=
  let words := match call with
    | .get r ns name => ["get", r.apiVersion, r.plural, ns.getD "-", name]
    | .list r ns => ["list", r.apiVersion, r.plural, ns.getD "-"]
  " ".intercalate words

end Call

/-- The same cluster with a log of the calls made, failing ones too. -/
def Cluster.recorded (c : Cluster σ) : Cluster (σ × List Call) where
  get r ns name := fun (s, calls) =>
    let (answer, s) := (c.get r ns name).run s
    (answer, s, calls ++ [.get r ns name])
  list r ns := fun (s, calls) =>
    let (answer, s) := (c.list r ns).run s
    (answer, s, calls ++ [.list r ns])

end StatusWatch
