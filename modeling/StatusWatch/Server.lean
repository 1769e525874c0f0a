import StatusWatch.Catalog

/-!
The API server, as its clients see it: requests, and replies that may depend on all requests made
so far.
-/

namespace StatusWatch

/-- A request for one object, for a page of a collection, or for a document of the server's own.
Without a namespace a page is of the whole collection; each page but the first has a token. -/
inductive Request where
  | object (resource : Resource) (ns : Option String) (name : String)
  | page (resource : Resource) (ns : Option String) (limit : Nat) (token : Option String)
  | index (path : String)
  deriving DecidableEq, Repr

inductive Reply where
  | answer (code : Nat) (body : String)
  | broken (fault : TransportFault)
  deriving DecidableEq, Repr

/-- The reply to the last of the requests made so far. -/
abbrev Server := List Request → Reply

def TransportFault.unreachable : TransportFault :=
  .other "ServiceError: client error (Connect)"

def Server.unreachable : Server :=
  fun _ => .broken .unreachable

end StatusWatch
