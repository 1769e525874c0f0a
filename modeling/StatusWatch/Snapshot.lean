import StatusWatch.View
import StatusWatch.Workload

/-!
A snapshot holds one list of objects for each kind and namespace that a set of identifiers
needs, so that a pass over them costs one call for each. It is replaced as a whole: a pass that
fails leaves the last one as it was. A few timeouts in the life of a snapshot are passed over; a
pair that timed out is absent and is read directly.
-/

namespace StatusWatch

structure Place where
  groupKind : GroupKind
  ns : String
  deriving DecidableEq, Repr

/-- What a pass found at a place. The kind of an unmapped place is not in the catalog. -/
inductive Holding where
  | objects (found : List Json)
  | unmapped

structure Snapshot where
  holdings : List (Place × Holding)
  timeouts : Nat

namespace Snapshot

def empty : Snapshot := ⟨[], 0⟩

def timeoutLimit : Nat := 3

/-- The places that the identifiers need, as they name them, each once. -/
def placesFor (ids : List ObjectId) : List Place :=
  let named := ids.flatMap fun id =>
    (id.groupKind :: Workload.generatedKinds id.groupKind).map fun gk => ⟨gk, id.ns⟩
  named.foldl (fun places p => if p ∈ places then places else places ++ [p]) []

/-- Where the objects of a place are held: a namespaced kind has the default namespace for an
empty one, and a kind without namespaces is held under the empty one. -/
def place (catalog : Catalog) (gk : GroupKind) (ns : String) : Place :=
  match catalog.find? gk none with
  | some r => ⟨gk, (r.namespaceFor ns).getD ""⟩
  | none => ⟨gk, ns⟩

/-- A pass in progress: what it has found so far, and the timeouts seen in all. -/
structure Pass where
  found : List (Place × Holding)
  timeouts : Nat

def Pass.record (pass : Pass) (p : Place) (h : Holding) : Pass :=
  { pass with found := pass.found ++ [(p, h)] }

/-- Lists one place, unless the pass has it already. An absent collection is an empty one. A
failure carries the count of timeouts along. -/
def visit (cluster : Cluster σ) (catalog : Catalog) (pass : Pass) (named : Place) :
    StateM σ (Except (Error × Nat) Pass) := do
  match catalog.find? named.groupKind none with
  | none => pure (.ok (pass.record named .unmapped))
  | some r =>
    let ns := r.namespaceFor named.ns
    let p : Place := ⟨named.groupKind, ns.getD ""⟩
    if (pass.found.lookup p).isSome then pure (.ok pass)
    else
      match ← cluster.list r ns with
      | .ok objects => pure (.ok (pass.record p (.objects objects)))
      | .error e =>
        if e.isNotFound then pure (.ok (pass.record p (.objects [])))
        else if e.isTimeout then
          let timeouts := pass.timeouts + 1
          if timeoutLimit < timeouts then pure (.error (e, timeouts))
          else pure (.ok { pass with timeouts })
        else pure (.error (e, pass.timeouts))

def visitAll (cluster : Cluster σ) (catalog : Catalog) (pass : Pass) :
    List Place → StateM σ (Except (Error × Nat) Pass)
  | [] => pure (.ok pass)
  | p :: rest => do
    match ← visit cluster catalog pass p with
    | .ok pass => visitAll cluster catalog pass rest
    | .error failure => pure (.error failure)

/-- One pass for the identifiers. Only the count of timeouts outlives a failed one. -/
def sync (cluster : Cluster σ) (catalog : Catalog) (ids : List ObjectId) (s : Snapshot) :
    StateM σ (Except Error Unit × Snapshot) := do
  match ← visitAll cluster catalog ⟨[], s.timeouts⟩ (placesFor ids) with
  | .ok pass => pure (.ok (), ⟨pass.found, pass.timeouts⟩)
  | .error (e, timeouts) => pure (.error e, { s with timeouts })

def held? (s : Snapshot) (p : Place) : Option (Except Error (List Json)) :=
  match s.holdings.lookup p with
  | some (.objects found) => some (.ok found)
  | some .unmapped => some (.error (.noMapping p.groupKind.toText))
  | none => none

def named (gk : GroupKind) (name : String) (objects : List Json) : Except Error Json :=
  match objects.find? fun o => Document.name? o = some name with
  | some o => .ok o
  | none => .error (.notFound gk.toText name)

def view (s : Snapshot) (cluster : Cluster σ) (catalog : Catalog) : View σ where
  get gk ns name :=
    match s.held? (place catalog gk ns) with
    | some (.ok objects) => pure (named gk name objects)
    | some (.error e) => pure (.error e)
    | none => (View.direct cluster catalog).get gk ns name
  list gk ns selector :=
    match s.held? (place catalog gk ns) with
    | some (.ok objects) => pure (.ok (pick selector objects))
    | some (.error e) => pure (.error e)
    | none => (View.direct cluster catalog).list gk ns selector

end Snapshot

end StatusWatch
