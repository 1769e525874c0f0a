import StatusWatch.Yaml.Token

/-!
The nodes of YAML documents. Aliases are of any type: names where a document is read, and numbers
once it is known which node each one means.
-/

namespace StatusWatch.Yaml

structure NodeProperties where
  anchor : Option String
  tag : Option String
  deriving DecidableEq, Repr, Inhabited

/-- A tag that is not one of a standard, without its mark if there is more to it. -/
def NodeProperties.ownTag? (p : NodeProperties) : Option String :=
  p.tag.bind fun tag =>
    match tag.toList with
    | ['!'] => some tag
    | '!' :: rest => some (String.ofList rest)
    | _ => none

inductive Node (α : Type) where
  | alias (target : α)
  | scalar (properties : NodeProperties) (text : String) (plain : Bool)
  | sequence (properties : NodeProperties) (items : List (Node α))
  | mapping (properties : NodeProperties) (entries : List (Node α × Node α))
  deriving Inhabited

namespace Node

def empty : Node α :=
  .scalar ⟨none, none⟩ "" true

end Node

end StatusWatch.Yaml
