import StatusWatch.Server

/-!
The library through which an API server is called. It sends requests and makes objects of the
replies; how it does that is its own, so it is a parameter of the client.
-/

namespace StatusWatch.Client

abbrev Exchange := StateM (List Request)

/-- Why a call has no result: the server refused it, or no answer could be had or read. -/
inductive CallFault where
  | refused (status : ApiStatus)
  | transport (fault : TransportFault)
  deriving DecidableEq, Repr

namespace CallFault

def toError : CallFault → Error
  | .refused status => .api status
  | .transport fault => .transport fault

/-- The call may succeed if it is made again: the server is busy, or an answer broke off. -/
def isTransient : CallFault → Bool
  | .refused status => status.code ∈ [429, 503, 504]
  | .transport (.interrupted _) => true
  | .transport (.other _) => false

end CallFault

/-- One page of a collection, and the token that came with it. -/
structure Page (α : Type) where
  items : List α
  token : Option String
  deriving DecidableEq, Repr

/-- What the library makes of a reply, as one object or as a page of objects; what it finds a server
to serve, of each group in the version to be used; and how it writes an object. -/
structure Library where
  Object : Type
  object : Reply → Except CallFault Object
  page : Reply → Except CallFault (Page Object)
  discover : Server → Exchange (Except CallFault (List Resource))
  toJson : Object → Except String Json

def Library.offline : Library where
  Object := Empty
  object _ := .error (.transport .unreachable)
  page _ := .error (.transport .unreachable)
  discover _ := pure (.error (.transport .unreachable))
  toJson := nofun

end StatusWatch.Client
