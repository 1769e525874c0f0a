import StatusWatch.Document

/-!
Manifests: the documents whose resources are watched. A document of kind `List` stands for its
items, at any depth.
-/

namespace StatusWatch.Manifest

mutual

/-- The documents that one document stands for. -/
def leaves : Json → List Json
  | .obj fields =>
    if Document.kind? (.obj fields) = some "List" then itemLeaves fields else [.obj fields]
  | other => [other]

def itemLeaves : List (String × Json) → List Json
  | [] => []
  | (name, .arr items) :: rest => if name = "items" then allLeaves items else itemLeaves rest
  | (name, _) :: rest => if name = "items" then [] else itemLeaves rest

def allLeaves : List Json → List Json
  | [] => []
  | document :: rest => leaves document ++ allLeaves rest

end

def flatten (documents : List Json) : List Json :=
  allLeaves documents

def definitions (documents : List Json) : List Json :=
  documents.filter Document.isDefinition

/-- Keeps the first entry of each identifier. -/
def distinct (entries : List (ObjectId × Json)) : List (ObjectId × Json) :=
  entries.foldl (fun kept e => if kept.any (·.1 = e.1) then kept else kept ++ [e]) []

/-- Each identifier with the first document that has it, in order. Every document must have one. -/
def entries (documents : List Json) : Except Error (List (ObjectId × Json)) := do
  let all ← documents.mapM fun d => do
    let id ← Document.id d
    pure (id, d)
  pure (distinct all)

def ids (documents : List Json) : Except Error (List ObjectId) :=
  (entries documents).map fun es => es.map Prod.fst

end StatusWatch.Manifest
