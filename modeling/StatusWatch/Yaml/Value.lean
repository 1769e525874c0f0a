import StatusWatch.Json
import StatusWatch.Yaml.Node.Reading

/-!
The JSON values of YAML nodes. Keys are texts whatever they look like; of two entries of one key
the later counts. Tags of one's own have no value.
-/

namespace StatusWatch.Yaml

/-- What is not finite is null. -/
def Scalar.toJson (text : String) : Scalar → Json
  | .null => .null
  | .bool b => .bool b
  | .int i => .num (.int i)
  | .double x => .num (.double x)
  | .infinity _ => .null
  | .nan => .null
  | .word => .str text

namespace Node

def scalarValue? (p : NodeProperties) (text : String) (plain : Bool) : Option Json :=
  if p.ownTag?.isSome then none else (Scalar.of? p.tag text plain).map (·.toJson text)

def keyText (m : Meanings) (key : Node Nat) : Reading String := do
  match ← key.follow m with
  | .scalar _ text _ => pure text
  | _ => failure

/-- The value of a node below which `depth` collections may still stand inside one another. -/
def value (m : Meanings) : Nat → Node Nat → Reading Json
  | 0, node => do
    match ← node.follow m with
    | .scalar p text plain => scalarValue? p text plain
    | _ => failure
  | depth + 1, node => do
    match ← node.follow m with
    | .scalar p text plain => scalarValue? p text plain
    | .sequence p items =>
      if p.ownTag?.isSome then failure
      let items ← items.mapM (value m depth)
      pure (.arr items)
    | .mapping p entries =>
      if p.ownTag?.isSome then failure
      let fields ← entries.mapM fun (key, entry) => do
        let name ← key.keyText m
        pure (name, ← value m depth entry)
      pure (.object fields)
    | .alias _ => failure

def toJson? (tree : Tree) : Option Json :=
  tree.contents? value

end Node

end StatusWatch.Yaml
