import StatusWatch.Condition
import StatusWatch.Json.Record
import StatusWatch.Status

/-!
Status checks: an ordered list of statuses, each with the condition under which an object has
it. They are written as a JSON array of records in an annotation of the kind's definition.
-/

namespace StatusWatch

structure StatusCheck where
  status : Status
  condition : Condition
  deriving DecidableEq, Repr

namespace StatusCheck

def annotationName : String := "airshipit.org/status-check"

def entry? (tree : Spelled) : Option (String × String) := do
  match ← tree.record? ["status", "condition"] with
  | [status, condition] =>
    some (← Spelled.orDefault Spelled.string? "" status,
      ← Spelled.orDefault Spelled.string? "" condition)
  | _ => none

def entries? (text : String) : Option (List (String × String)) := do
  let items ← (← Spelled.read? text).items?
  items.mapM entry?

def ofEntry (entry : String × String) : Except Error StatusCheck :=
  if entry.1 = "" then .error (.statusCheck .missingStatus)
  else if entry.2 = "" then .error (.statusCheck .missingCondition)
  else
    let condition : Condition := ⟨entry.2⟩
    condition.compile.map fun _ => ⟨entry.1, condition⟩

/-- Adds a check; a repeated status keeps its place and takes the newer condition. -/
def put (check : StatusCheck) : List StatusCheck → List StatusCheck
  | [] => [check]
  | c :: rest => if c.status = check.status then check :: rest else c :: put check rest

/-- How the reader of JSON text words why a text is no list of entries. -/
abbrev Wording := String → String

def parse (words : Wording) (text : String) : Except Error (List StatusCheck) := do
  match entries? text with
  | none => .error (.statusCheck (.notEntries text (words text)))
  | some entries =>
    let checks ← entries.mapM ofEntry
    .ok (checks.foldl (fun table check => put check table) [])

/-- The status of the first check that the object matches. A check that compares an absent field
does not match; any other fault ends the search. -/
def firstMatch (object : Json) : List StatusCheck → Except Error Status
  | [] => .ok .unknown
  | check :: rest => do
    match ← check.condition.evaluate object with
    | .matched => .ok check.status
    | _ => firstMatch object rest

end StatusCheck

end StatusWatch
