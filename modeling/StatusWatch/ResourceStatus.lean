import StatusWatch.Document
import StatusWatch.Status

/-!
The status of one resource at one time, with the live object it was computed from and the
statuses of the objects that a workload generated.
-/

namespace StatusWatch

structure ResourceStatus where
  id : ObjectId
  status : Status
  message : String
  error : Option Error
  live : Option Json
  generated : List ResourceStatus

namespace ResourceStatus

def ofAssessment (id : ObjectId) (a : Assessment) : ResourceStatus :=
  ⟨id, a.status, a.message, none, none, []⟩

def withLive (s : ResourceStatus) (object : Json) : ResourceStatus :=
  { s with live := some object }

def unknown (id : ObjectId) (e : Error) : ResourceStatus :=
  ⟨id, .unknown, e.message, some e, none, []⟩

/-- A resource that could not be read: an absent one has a status of its own. -/
def ofFailure (id : ObjectId) (e : Error) : ResourceStatus :=
  if e.isNotFound then ofAssessment id ⟨.notFound, "Resource not found"⟩ else unknown id e

def errorText (s : ResourceStatus) : Option String :=
  s.error.map Error.message

def sameState (s t : ResourceStatus) : Bool :=
  s.status == t.status && s.message == t.message && s.errorText == t.errorText

end ResourceStatus

end StatusWatch
