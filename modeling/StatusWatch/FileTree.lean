/-!
Files and directories, as far as a program that reads texts can tell them apart.
-/

namespace StatusWatch

/-- A file has a text unless it cannot be read as one. -/
inductive FileTree where
  | file (text : Option String)
  | directory (entries : List (String × FileTree))
  deriving Inhabited

namespace FileTree

def entry? : FileTree → String → Option FileTree
  | .directory entries, name => entries.lookup name
  | .file _, _ => none

def isDirectory : FileTree → Bool
  | .directory _ => true
  | .file _ => false

/-- Follows the steps of a path. `above` holds the directories that the tree stands in, the
innermost first; a step of two points goes there. -/
def walk? (above : List FileTree) (tree : FileTree) : List String → Option FileTree
  | [] => some tree
  | step :: rest =>
    if !tree.isDirectory then none
    else if step = "" ∨ step = "." then walk? above tree rest
    else if step = ".." then
      match above with
      | [] => walk? [] tree rest
      | outer :: above => walk? above outer rest
    else
      match tree.entry? step with
      | some inner => walk? (tree :: above) inner rest
      | none => none

def at? (tree : FileTree) (path : String) : Option FileTree :=
  tree.walk? [] (path.splitOn "/")

def text? : FileTree → Option String
  | .file text => text
  | .directory _ => none

def join (path name : String) : String :=
  if path.endsWith "/" then path ++ name else path ++ "/" ++ name

mutual

def put (leaf : FileTree) : List String → FileTree → FileTree
  | [], _ => leaf
  | step :: rest, .directory entries => .directory (putEntry leaf step rest entries)
  | step :: rest, .file _ => .directory (putEntry leaf step rest [])

def putEntry (leaf : FileTree) (step : String) (rest : List String) :
    List (String × FileTree) → List (String × FileTree)
  | [] => [(step, put leaf rest (.directory []))]
  | (name, tree) :: entries =>
    if name = step then (name, put leaf rest tree) :: entries
    else (name, tree) :: putEntry leaf step rest entries

end

end FileTree

end StatusWatch
