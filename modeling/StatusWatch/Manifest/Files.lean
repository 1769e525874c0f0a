import StatusWatch.Failure
import StatusWatch.FileTree
import StatusWatch.Manifest
import StatusWatch.Yaml

/-!
Manifests from files. In a directory, all files with an ending for YAML or JSON are read, and all
directories in it, in the order of names. A file that is named itself is read whatever its ending.
-/

namespace StatusWatch.Manifest

def ofText (text : String) : Yaml.Documents Json :=
  let read := Yaml.read text
  { read with values := flatten (read.values.filter fun d => !d.isNull) }

/-- What follows the last point of a name that does not begin with it. -/
def ending? (name : String) : Option String :=
  let (after, before) := name.toList.reverse.span (· ≠ '.')
  if before.length ≤ 1 then none else some (String.ofList after.reverse)

def isManifest (name : String) : Bool :=
  ending? name ∈ [some "yaml", some "yml", some "json"]

def insertByName (entry : String × α) : List (String × α) → List (String × α)
  | [] => [entry]
  | other :: rest =>
    if entry.1 ≤ other.1 then entry :: other :: rest else other :: insertByName entry rest

def sortByName (entries : List (String × α)) : List (String × α) :=
  entries.foldr insertByName []

def ofFile (path : String) : Option String → Except Failure (List Json)
  | none => .error (.because s!"failed to read {path}" none)
  | some text =>
    let read := ofText text
    if read.complete then .ok read.values
    else .error (.because s!"failed to parse YAML in {path}" none)

mutual

def files (path : String) : FileTree → List (String × Option String)
  | .file text => [(path, text)]
  | .directory entries => (sortByName (entryFiles path entries)).flatMap Prod.snd

def entryFiles (path : String) :
    List (String × FileTree) → List (String × List (String × Option String))
  | [] => []
  | (name, tree) :: rest =>
    if tree.isDirectory || isManifest name then
      (name, files (FileTree.join path name) tree) :: entryFiles path rest
    else entryFiles path rest

end

def load (look : String → Option FileTree) (paths : List String) : Except Failure (List Json) := do
  let loaded ← paths.mapM fun path => do
    match look path with
    | none => .error (.because s!"failed to stat {path}" none)
    | some found =>
      let read ← (files path found).mapM fun (path, text) => ofFile path text
      pure read.flatten
  pure loaded.flatten

end StatusWatch.Manifest
