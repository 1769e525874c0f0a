import StatusWatch.Cluster
import StatusWatch.Selector

/-!
Reading objects by kind. A view answers for one object of a kind, and for all objects of a kind
in a namespace that a selector picks. The direct view asks the cluster every time, always in the
version that the catalog gives by default.
-/

namespace StatusWatch

structure View (σ : Type) where
  get : GroupKind → String → String → StateM σ (Except Error Json)
  list : GroupKind → String → Option Selector → StateM σ (Except Error (List Json))

def pick (selector : Option Selector) (objects : List Json) : List Json :=
  match selector with
  | some s => objects.filter fun o => s.holds (Document.labels o)
  | none => objects

namespace View

def direct (cluster : Cluster σ) (catalog : Catalog) : View σ where
  get gk ns name :=
    match catalog.resolve gk none with
    | .error e => pure (.error e)
    | .ok r => cluster.get r (r.namespaceFor ns) name
  list gk ns selector :=
    match catalog.resolve gk none with
    | .error e => pure (.error e)
    | .ok r => do
      let objects ← cluster.list r (r.namespaceFor ns)
      pure (objects.map (pick selector))

/-- One object of a kind; a kind that the catalog lacks is reported before anything is read. -/
def find (view : View σ) (catalog : Catalog) (id : ObjectId) : StateM σ (Except Error Json) :=
  match catalog.resolve id.groupKind none with
  | .error e => pure (.error e)
  | .ok _ => view.get id.groupKind id.ns id.name

end View

end StatusWatch
