import StatusWatch.Client.Library
import StatusWatch.Cluster

/-!
Reading a cluster through its API server. A request that fails for a moment is made up to three
times in all; a collection is read page by page, each page but the first by the token that came
with the one before it.
-/

namespace StatusWatch.Client

def send (server : Server) (request : Request) : Exchange Reply := fun log =>
  (server (log ++ [request]), log ++ [request])

/-- Makes a request, and makes it again as long as it fails for a moment, at most `retries`
times. -/
def ask (server : Server) (read : Reply → Except CallFault α) (request : Request) :
    Nat → Exchange (Except Error α)
  | 0 => do
    pure ((read (← send server request)).mapError CallFault.toError)
  | retries + 1 => do
    match read (← send server request) with
    | .ok a => pure (.ok a)
    | .error fault =>
      if fault.isTransient then ask server read request retries else pure (.error fault.toError)

def retries : Nat := 2

def pageSize : Nat := 500

def pageRequest (r : Resource) (ns token : Option String) : Request :=
  .page r ns pageSize token

/-- Objects in a list do not say what they are, so it is written into each. -/
def withType (r : Resource) (object : Json) : Json :=
  match object with
  | .obj fields =>
    .obj (Json.putField "kind" (.str r.kind)
      (Json.putField "apiVersion" (.str r.apiVersion) fields))
  | other => other

variable (library : Library) (server : Server)

def written (r : Resource) (object : library.Object) : Except Error Json :=
  ((library.toJson object).mapError .serialization).map (withType r)

/-- The token by which the next page is asked for; an empty one is none. -/
def Page.next? (page : Page α) : Option String :=
  page.token.filter (· ≠ "")

def fetchPage (r : Resource) (ns token : Option String) :
    Exchange (Except Error (Page library.Object)) :=
  ask server library.page (pageRequest r ns token) retries

/-- The objects of the page with a token, and those that `more` finds by the token that came with
it, if one did. -/
def listPage (r : Resource) (ns token : Option String)
    (more : String → Exchange (Except Error (List Json))) :
    Exchange (Except Error (List Json)) := do
  match ← fetchPage library server r ns token with
  | .error e => pure (.error e)
  | .ok page =>
    match page.items.mapM (written library r), page.next? with
    | .error e, _ => pure (.error e)
    | .ok items, none => pure (.ok items)
    | .ok items, some next =>
      match ← more next with
      | .error e => pure (.error e)
      | .ok others => pure (.ok (items ++ others))

/-- The objects of the page with a token and of all pages behind it. More than `pages` further pages
are not waited for. -/
def listFrom (r : Resource) (ns : Option String) :
    Nat → Option String → Exchange (Except Error (List Json))
  | 0, token =>
    listPage library server r ns token fun _ => pure (.error (.timeout s!"list {r.plural}"))
  | pages + 1, token =>
    listPage library server r ns token fun next => listFrom r ns pages (some next)

def get (r : Resource) (ns : Option String) (name : String) : Exchange (Except Error Json) := do
  match ← ask server library.object (.object r ns name) retries with
  | .ok object => pure (written library r object)
  | .error e => pure (.error (if e.isNotFound then .notFound r.kind name else e))

/-- The cluster behind a server, in which a collection has at most so many pages after the first. -/
def cluster (pages : Nat) : Cluster (List Request) where
  get r ns name := get library server r ns name
  list r ns := listFrom library server r ns pages none

/-- The catalog of what a server says it serves. Parts of objects are listed too, under names with a
slash; they are left out. -/
def discover : ExceptT Error Exchange Catalog := ExceptT.mk do
  match ← library.discover server with
  | .error fault => pure (.error fault.toError)
  | .ok resources =>
    pure (.ok ((resources.filter fun r => '/' ∉ r.plural.toList).foldl Catalog.add .empty))

end StatusWatch.Client
