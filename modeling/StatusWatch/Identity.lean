/-!
Names of things on a cluster: a kind within its API group, and one object of a kind.
-/

namespace StatusWatch

/-- A kind and its API group; the core group is empty. -/
structure GroupKind where
  group : String
  kind : String
  deriving DecidableEq, Repr, Inhabited, Hashable

namespace GroupKind

def toText (gk : GroupKind) : String :=
  if gk.group = "" then gk.kind else gk.kind ++ "." ++ gk.group

def compare (a b : GroupKind) : Ordering :=
  (Ord.compare a.group b.group).then (Ord.compare a.kind b.kind)

end GroupKind

/-- Group and version of an `apiVersion`: all before the first slash, and all behind it. Without
a slash the group is the core group. -/
def splitApiVersion (apiVersion : String) : String × String :=
  let cs := apiVersion.toList
  match cs.dropWhile (· != '/') with
  | [] => ("", apiVersion)
  | _ :: version => (String.ofList (cs.takeWhile (· != '/')), String.ofList version)

def joinApiVersion (group version : String) : String :=
  if group = "" then version else group ++ "/" ++ version

def GroupKind.ofApiVersion (apiVersion kind : String) : GroupKind :=
  ⟨(splitApiVersion apiVersion).1, kind⟩

/-- One object. The namespace is empty for kinds that have none. -/
structure ObjectId where
  groupKind : GroupKind
  name : String
  ns : String
  deriving DecidableEq, Repr, Inhabited, Hashable

namespace ObjectId

def toText (id : ObjectId) : String :=
  if id.ns = "" then id.groupKind.toText ++ "/" ++ id.name
  else id.groupKind.toText ++ "/" ++ id.ns ++ "/" ++ id.name

def compare (a b : ObjectId) : Ordering :=
  ((a.groupKind.compare b.groupKind).then (Ord.compare a.name b.name)).then
    (Ord.compare a.ns b.ns)

def le (a b : ObjectId) : Bool :=
  (a.compare b).isLE

end ObjectId

end StatusWatch
