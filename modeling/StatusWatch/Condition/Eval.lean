import StatusWatch.Condition.Syntax

/-!
The meaning of paths and predicates. A path leads from one value to a list of values, segment
by segment. A field that none of the values has is a fault of its own kind, so that callers can
tell an absent field from a condition that makes no sense of the object.
-/

namespace StatusWatch.Condition

inductive EvalFault where
  | absent (field : String)
  | notList (kind : String)
  | outOfBounds (index : Int) (length : Nat)
  | notSingle (path : String) (count : Nat)
  | incomparable (left : String) (comparison : Comparison) (right : String)
  deriving DecidableEq, Repr

/-- The field of every value that has it; at least one must. -/
def selectField (name : String) (values : List Json) : Except EvalFault (List Json) :=
  match values.filterMap (·.get? name) with
  | [] => .error (.absent name)
  | found => .ok found

/-- The item at a position, counted from the end if negative. -/
def itemAt (position : Int) (value : Json) : Except EvalFault Json :=
  match value with
  | .arr items =>
    let resolved := if position < 0 then items.length + position else position
    match if resolved < 0 then none else items[resolved.toNat]? with
    | some item => .ok item
    | none => .error (.outOfBounds position items.length)
  | other => .error (.notList other.kindName)

def children : Json → List Json
  | .arr items => items
  | .obj fields => fields.map Prod.snd
  | _ => []

/-- The items that pass the test, in order; the first failing test ends the search. -/
def filterItems (test : Json → Except EvalFault Bool) : List Json → Except EvalFault (List Json)
  | [] => .ok []
  | item :: rest => do
    let passes ← test item
    let more ← filterItems test rest
    .ok (if passes then item :: more else more)

def selectItems (test : Json → Except EvalFault Bool) : List Json → Except EvalFault (List Json)
  | [] => .ok []
  | .arr items :: rest => do
    let found ← filterItems test items
    let more ← selectItems test rest
    .ok (found ++ more)
  | other :: _ => .error (.notList other.kindName)

/-- Integers of 64 signed bits compare exactly; any other pair of numbers compares after
rounding to binary64. -/
def compareNumbers (a b : Number) : Ordering :=
  match a.toInt64?, b.toInt64? with
  | some a, some b => compare a b
  | _, _ => a.toBinary64.compare b.toBinary64

/-- How two values stand, if the comparison is one that their kinds allow: truth values and
nulls are equal or not, and have no order. -/
def order? (left : Json) (comparison : Comparison) (right : Json) : Option Ordering :=
  match left, right with
  | .num a, .num b => some (compareNumbers a b)
  | .str a, .str b => some (compare a b)
  | .bool a, .bool b =>
    if comparison = .eq ∨ comparison = .ne then some (compare a b) else none
  | .null, .null => if comparison = .eq ∨ comparison = .ne then some .eq else none
  | _, _ => none

def compareValues (left : Json) (comparison : Comparison) (right : Json) :
    Except EvalFault Bool :=
  match order? left comparison right with
  | some order => .ok (comparison.accepts order)
  | none => .error (.incomparable left.kindName comparison right.kindName)

def single (path : Path) : List Json → Except EvalFault Json
  | [value] => .ok value
  | [] => .error (.absent path.toText)
  | values => .error (.notSingle path.toText values.length)

mutual

def Path.eval (document item : Json) : Path → Except EvalFault (List Json)
  | .mk .document segments => evalSegments document segments [document]
  | .mk .item segments => evalSegments document segments [item]

def evalSegments (document : Json) : List Segment → List Json → Except EvalFault (List Json)
  | [], values => .ok values
  | segment :: rest, values => do
    let values ← segment.eval document values
    evalSegments document rest values

def Segment.eval (document : Json) : Segment → List Json → Except EvalFault (List Json)
  | .field name, values => selectField name values
  | .index position, values => values.mapM (itemAt position)
  | .wildcard, values => .ok (values.flatMap children)
  | .filter predicate, values => selectItems (fun item => predicate.test document item) values

/-- Presence never fails: a path that leads into a fault leads nowhere. -/
def Predicate.test (document item : Json) : Predicate → Except EvalFault Bool
  | .present path =>
    match path.eval document item with
    | .ok found => .ok !found.isEmpty
    | .error _ => .ok false
  | .compare left comparison right => do
    let left ← left.resolve document item
    let right ← right.resolve document item
    compareValues left comparison right

def Operand.resolve (document item : Json) : Operand → Except EvalFault Json
  | .literal value => .ok value.toJson
  | .path path => do
    let found ← path.eval document item
    single path found

end

end StatusWatch.Condition
