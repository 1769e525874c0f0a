import StatusWatch.Document
import StatusWatch.Json.Printer

/-!
Label selectors: which objects a workload counts as its own. A selector asks that certain labels
have certain values, and makes further requirements by operator.
-/

namespace StatusWatch

/-- One requirement of a selector. An operator that is not known holds of no labels. -/
structure Requirement where
  key : String
  operator : String
  values : Option (List String)
  deriving DecidableEq, Repr

structure Selector where
  matchLabels : Option (List (String × String))
  matchExpressions : Option (List Requirement)
  deriving DecidableEq, Repr

abbrev Labels := List (String × String)

namespace Requirement

def holds (r : Requirement) (labels : Labels) : Bool :=
  let value := labels.lookup r.key
  let values := r.values.getD []
  if r.operator = "In" then value.any (values.contains ·)
  else if r.operator = "NotIn" then value.all (!values.contains ·)
  else if r.operator = "Exists" then value.isSome
  else if r.operator = "DoesNotExist" then value.isNone
  else false

end Requirement

namespace Selector

def holds (s : Selector) (labels : Labels) : Bool :=
  (s.matchLabels.getD []).all (fun (key, value) => labels.lookup key == some value) &&
    (s.matchExpressions.getD []).all (·.holds labels)

def described : Json → String
  | .null => "null"
  | .bool b => s!"boolean `{b}`"
  | .num (.int i) => s!"integer `{i}`"
  | .num (.double x) => s!"floating point `{x.toText}`"
  | .str s => s!"string {Text.quoted s}"
  | .arr _ => "sequence"
  | .obj _ => "map"

def expect (what : String) (part? : Json → Option α) (value : Json) : Except String α :=
  match part? value with
  | some a => .ok a
  | none => .error s!"invalid type: {described value}, expected {what}"

/-- An optional field: absent and null are the same. -/
def optional (read : Json → Except String α) (object : Json) (name : String) :
    Except String (Option α) :=
  match object.get? name with
  | none | some .null => .ok none
  | some value => (read value).map some

def readString (value : Json) : Except String String :=
  expect "a string" Json.str? value

def readStrings (value : Json) : Except String (List String) := do
  (← expect "a sequence" Json.arr? value).mapM readString

def readRequirement (value : Json) : Except String Requirement := do
  let _ ← expect "LabelSelectorRequirement" Json.fields? value
  let key ← optional readString value "key"
  let operator ← optional readString value "operator"
  let values ← optional readStrings value "values"
  .ok ⟨key.getD "", operator.getD "", values⟩

def readRequirements (value : Json) : Except String (List Requirement) := do
  (← expect "a sequence" Json.arr? value).mapM readRequirement

def readLabels (value : Json) : Except String (List (String × String)) := do
  (← expect "a map" Json.fields? value).mapM fun (key, value) => do
    .ok (key, ← readString value)

/-- Fields are read in the order of their names; the first that is not well-formed is reported. -/
def read (value : Json) : Except String Selector := do
  let _ ← expect "LabelSelector" Json.fields? value
  let matchExpressions ← optional readRequirements value "matchExpressions"
  let matchLabels ← optional readLabels value "matchLabels"
  .ok ⟨matchLabels, matchExpressions⟩

def ofWorkload (object : Json) : Except Error (Option Selector) :=
  match object.nested? ["spec", "selector"] with
  | none | some .null => .ok none
  | some value => ((read value).mapError .serialization).map some

def Requirement.toJson (r : Requirement) : Json :=
  let values := match r.values with
    | some values => [("values", Json.arr (values.map .str))]
    | none => []
  .object ([("key", .str r.key), ("operator", .str r.operator)] ++ values)

def toJson (s : Selector) : Json :=
  let expressions := match s.matchExpressions with
    | some rs => [("matchExpressions", Json.arr (rs.map Requirement.toJson))]
    | none => []
  let labels := match s.matchLabels with
    | some ls => [("matchLabels", Json.object (ls.map fun (k, v) => (k, .str v)))]
    | none => []
  .object (expressions ++ labels)

end Selector

end StatusWatch
