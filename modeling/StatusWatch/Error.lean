import StatusWatch.Condition.Parser
import StatusWatch.Condition.Eval
import StatusWatch.Identity
import StatusWatch.Text.Quoted

/-!
What can go wrong below the command line, by cause, and the one wording of each cause.
`isNotFound` and `isTimeout` are the two classes that readers treat specially.
-/

namespace StatusWatch

/-- Why a status check is refused or cannot be answered. -/
inductive CheckFault where
  | notEntries (text reason : String)
  | missingStatus
  | missingCondition
  | badCondition (condition : String) (error : Condition.SyntaxError)
  | badObject (condition object : String) (fault : Condition.EvalFault)
  | described (what : String)
  deriving DecidableEq, Repr

inductive DocumentFault where
  | noApiVersion
  | noKind
  | noName (groupKind : GroupKind)
  | definitionLacks (name field : String)
  | described (what : String)
  deriving DecidableEq, Repr

structure ApiStatus where
  status : String
  message : String
  reason : String
  code : Nat
  deriving DecidableEq, Repr

/-- How a request fails without a refusal, in the words of the client library. It was interrupted if
the connection broke while the answer was being read. -/
inductive TransportFault where
  | interrupted (what : String)
  | other (what : String)
  deriving DecidableEq, Repr

inductive Error where
  | statusCheck (fault : CheckFault)
  | resourceNotFound (resource : String)
  | noMapping (groupKind : String)
  | notFound (resource name : String)
  | timeout (what : String)
  | document (fault : DocumentFault)
  | api (status : ApiStatus)
  | transport (fault : TransportFault)
  | serialization (what : String)
  deriving DecidableEq, Repr

namespace Condition

def EvalFault.message : EvalFault → String
  | .absent field => s!"{field} is not found"
  | .notList kind => s!"{kind} is not array or slice"
  | .outOfBounds index length =>
    s!"array index out of bounds: index {index}, length {length}"
  | .notSingle path count =>
    s!"{path} resolves to {count} elements, can only compare one element at a time"
  | .incomparable left comparison right =>
    s!"incompatible types for comparison: {left} {comparison.symbol} {right}"

end Condition

def CheckFault.message : CheckFault → String
  | .notEntries text reason => s!"unable to parse jsonpath: {Text.quoted text}: {reason}"
  | .missingStatus => "missing status field"
  | .missingCondition => "missing condition field"
  | .badCondition condition error =>
    let length := (Condition.Parser.wrap condition).length
    s!"unable to parse jsonpath {Text.quoted condition}: {error.message length}"
  | .badObject condition object fault =>
    s!"failed to execute condition {Text.quoted condition} on object {object}: {fault.message}"
  | .described what => what

def DocumentFault.message : DocumentFault → String
  | .noApiVersion => "object has no apiVersion"
  | .noKind => "object has no kind"
  | .noName groupKind => s!"{groupKind.toText} has no metadata.name"
  | .definitionLacks name field => s!"CRD {name} has no {field}"
  | .described what => what

def ApiStatus.toText (s : ApiStatus) : String :=
  s!"ApiError: {s.message}: {s.reason} (ErrorResponse \x7b status: {Text.quoted s.status}, " ++
    s!"message: {Text.quoted s.message}, reason: {Text.quoted s.reason}, code: {s.code} \x7d)"

def TransportFault.message : TransportFault → String
  | .interrupted what => s!"HyperError: {what}"
  | .other what => what

namespace Error

def message : Error → String
  | .statusCheck fault => s!"invalid status-check: {fault.message}"
  | .resourceNotFound resource => s!"could not find a status for resource {Text.quoted resource}"
  | .noMapping groupKind => s!"no matches for kind {Text.quoted groupKind}"
  | .notFound resource name => s!"{resource} {Text.quoted name} not found"
  | .timeout what => s!"request timed out: {what}"
  | .document fault => s!"invalid document: {fault.message}"
  | .api status => s!"Kubernetes API error: {status.toText}"
  | .transport fault => s!"Kubernetes API error: {fault.message}"
  | .serialization what => s!"serialization error: {what}"

def isNotFound : Error → Bool
  | .notFound _ _ => true
  | .api status => status.code = 404
  | _ => false

def mentions (part : List Char) : List Char → Bool
  | [] => part.isEmpty
  | c :: rest => part.isPrefixOf (c :: rest) || mentions part rest

def isTimeout : Error → Bool
  | .timeout _ => true
  | .api status => status.code = 504 || mentions "timed out".toList status.message.toList
  | .transport fault => mentions "timed out".toList fault.message.toList
  | _ => false

end Error

end StatusWatch
