import StatusWatch.Yaml.Node.Reading

/-!
The data of YAML documents as they are: tags of one's own are kept, and keys are data of any kind,
each of which stands once in its mapping.
-/

namespace StatusWatch.Yaml

inductive Datum where
  /-- The text counts only for a word. -/
  | scalar (meaning : Scalar) (text : String)
  | sequence (items : List Datum)
  | mapping (entries : List (Datum × Datum))
  | tagged (tag : String) (contents : Datum)
  deriving Inhabited

/-- Both zeros are the same number, and no integer is the same as a double. -/
def Scalar.same : Scalar → Scalar → Bool
  | .double x, .double y => x.compare y == .eq
  | a, b => a == b

namespace Datum

mutual

def same : Datum → Datum → Bool
  | .scalar a s, .scalar b t => a.same b && (a != .word || s == t)
  | .sequence xs, .sequence ys => sameItems xs ys
  | .mapping xs, .mapping ys => xs.length == ys.length && containsAll ys xs
  | .tagged t x, .tagged u y => t == u && same x y
  | _, _ => false

def sameItems : List Datum → List Datum → Bool
  | [], [] => true
  | x :: xs, y :: ys => same x y && sameItems xs ys
  | _, _ => false

def containsAll (others : List (Datum × Datum)) : List (Datum × Datum) → Bool
  | [] => true
  | (key, value) :: rest =>
    others.any (fun other => same key other.1 && same value other.2) && containsAll others rest

end

def keysDiffer : List (Datum × Datum) → Bool
  | [] => true
  | (key, _) :: rest => rest.all (fun other => !same key other.1) && keysDiffer rest

def untagged : Datum → Datum
  | .tagged _ contents => contents
  | d => d

def isNull : Datum → Bool
  | .scalar .null _ => true
  | _ => false

def text? (d : Datum) : Option String :=
  match d.untagged with
  | .scalar .word text => some text
  | _ => none

/-- The items of a sequence; null is an empty one. -/
def items? (d : Datum) : Option (List Datum) :=
  match d.untagged with
  | .sequence items => some items
  | .scalar .null _ => some []
  | _ => none

/-- The entries of a mapping whose keys are words; null is an empty one. -/
def fields? (d : Datum) : Option (List (String × Datum)) :=
  match d.untagged with
  | .mapping entries => entries.mapM fun (key, value) => key.text?.map (·, value)
  | .scalar .null _ => some []
  | _ => none

def get? (d : Datum) (name : String) : Option Datum :=
  d.fields?.bind (List.lookup name)

end Datum

namespace Node

def underTag (p : NodeProperties) (contents : Datum) : Datum :=
  match p.ownTag? with
  | some tag => .tagged tag contents
  | none => contents

def scalarDatum? (p : NodeProperties) (text : String) (plain : Bool) : Option Datum :=
  let tag := if p.ownTag?.isSome then none else p.tag
  (Scalar.of? tag text plain).map fun meaning => underTag p (.scalar meaning text)

/-- The data of a node below which `depth` collections may still stand inside one another. -/
def datum (m : Meanings) : Nat → Node Nat → Reading Datum
  | 0, node => do
    match ← node.follow m with
    | .scalar p text plain => scalarDatum? p text plain
    | _ => failure
  | depth + 1, node => do
    match ← node.follow m with
    | .scalar p text plain => scalarDatum? p text plain
    | .sequence p items =>
      let items ← items.mapM (datum m depth)
      pure (underTag p (.sequence items))
    | .mapping p entries =>
      let entries ← entries.mapM fun (key, entry) => do
        let key ← datum m depth key
        pure (key, ← datum m depth entry)
      if !Datum.keysDiffer entries then failure
      pure (underTag p (.mapping entries))
    | .alias _ => failure

def toDatum? (tree : Tree) : Option Datum :=
  tree.contents? datum

end Node

end StatusWatch.Yaml
