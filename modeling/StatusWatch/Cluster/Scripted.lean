import StatusWatch.Cluster

/-!
A cluster held in memory. Its objects change only between reads, by `apply` and `delete`, and
its next reads of a kind can be made to fail.
-/

namespace StatusWatch

structure PendingFailure where
  kind : String
  error : Error

structure Scripted where
  objects : List Json
  failingGets : List PendingFailure
  failingLists : List PendingFailure

namespace Scripted

def empty : Scripted := ⟨[], [], []⟩

/-- What tells objects apart: `apiVersion`, kind, namespace and name, as far as given. -/
def identity (object : Json) : Option String × Option String × Option String × Option String :=
  (Document.apiVersion? object, Document.kind? object, Document.namespace? object,
    Document.name? object)

def putObject (object : Json) : List Json → List Json
  | [] => [object]
  | o :: rest => if identity o = identity object then object :: rest else o :: putObject object rest

/-- Creates an object, or replaces it where it stands. -/
def apply (s : Scripted) (object : Json) : Scripted :=
  { s with objects := putObject object s.objects }

def delete (s : Scripted) (kind name : String) : Scripted :=
  { s with objects := s.objects.filter fun o =>
      !(Document.kind? o == some kind && Document.name? o == some name) }

def takeFailure (kind : String) : List PendingFailure → Option Error × List PendingFailure
  | [] => (none, [])
  | f :: rest =>
    if f.kind = kind then (some f.error, rest)
    else
      let (found, rest) := takeFailure kind rest
      (found, f :: rest)

def isIn (r : Resource) (ns : Option String) (object : Json) : Bool :=
  Document.apiVersion? object == some r.apiVersion && Document.kind? object == some r.kind &&
    ns.all fun ns => Document.namespace? object == some ns

def collection (s : Scripted) (r : Resource) (ns : Option String) : List Json :=
  s.objects.filter (isIn r ns)

end Scripted

/-- Reads of a scripted cluster. A waiting failure comes before everything else. -/
def Cluster.scripted : Cluster Scripted where
  get r ns name := fun s =>
    match Scripted.takeFailure r.kind s.failingGets with
    | (some e, rest) => (.error e, { s with failingGets := rest })
    | (none, _) =>
      match (s.collection r ns).find? fun o => Document.name? o == some name with
      | some o => (.ok o, s)
      | none => (.error (.notFound r.kind name), s)
  list r ns := fun s =>
    match Scripted.takeFailure r.kind s.failingLists with
    | (some e, rest) => (.error e, { s with failingLists := rest })
    | (none, _) => (.ok (s.collection r ns), s)

end StatusWatch
