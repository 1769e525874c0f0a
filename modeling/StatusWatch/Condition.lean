import StatusWatch.Document

/-!
Conditions asked of objects. The object stands alone in the list `items` of a document, and it
matches if the filter lets it through.
-/

namespace StatusWatch

/-- A condition as it is written; whether it can be read shows when it is used. -/
structure Condition where
  text : String
  deriving DecidableEq, Repr

namespace Condition

inductive Outcome where
  | matched
  | notMatched
  | absent (field : String)
  deriving DecidableEq, Repr

def compile (c : Condition) : Except Error Path :=
  (Parser.parse c.text).mapError fun e => .statusCheck (.badCondition c.text e)

def wrapObject (object : Json) : Json :=
  .obj [("items", .arr [object])]

/-- A comparison with an absent field is an outcome of its own; any other fault is an error. -/
def evaluate (c : Condition) (object : Json) : Except Error Outcome := do
  let path ← c.compile
  let document := wrapObject object
  match path.eval document document with
  | .ok [_] => .ok .matched
  | .ok _ => .ok .notMatched
  | .error (.absent field) => .ok (.absent field)
  | .error fault => .error (.statusCheck (.badObject c.text (Document.describe object) fault))

/-- Whether the object satisfies the condition; an absent field is an error here. -/
def holds (c : Condition) (object : Json) : Except Error Bool := do
  match ← c.evaluate object with
  | .matched => .ok true
  | .notMatched => .ok false
  | .absent field =>
    .error (.statusCheck (.badObject c.text (Document.describe object) (.absent field)))

end Condition

end StatusWatch
