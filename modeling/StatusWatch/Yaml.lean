import StatusWatch.Yaml.Datum
import StatusWatch.Yaml.Token.Lexer
import StatusWatch.Yaml.Value

/-!
Reading the documents of a YAML text, as JSON values or as data with their tags. A text may hold
documents that can be read before one that cannot.
-/

namespace StatusWatch.Yaml

/-- The documents of a text before the first that cannot be read, and whether there is no such
one. -/
structure Documents (α : Type) where
  values : List α
  complete : Bool

def Documents.ofTrees (contents? : Node.Tree → Option α) : List (Option Node.Tree) → Documents α
  | [] => ⟨[], true⟩
  | tree :: rest =>
    match tree.bind contents? with
    | none => ⟨[], false⟩
    | some value =>
      let more := ofTrees contents? rest
      { more with values := value :: more.values }

def trees (text : String) : List (Option Node.Tree) :=
  let ts := tokens text
  let limit := 2 * ts.length + 2
  Node.documents limit true limit ts

def read (text : String) : Documents Json :=
  .ofTrees Node.toJson? (trees text)

def readData (text : String) : Documents Datum :=
  .ofTrees Node.toDatum? (trees text)

end StatusWatch.Yaml
