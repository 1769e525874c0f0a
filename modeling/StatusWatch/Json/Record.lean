import StatusWatch.Json.Reader

/-!
Records in JSON text. A record is an object in which each known field stands at most once and
unknown ones are passed over, or an array of the fields' values in their order, from which the
last ones may be missing.
-/

namespace StatusWatch.Spelled

/-- The value given for a field, unless it is given twice. -/
def field? (name : String) (fields : List (String × Spelled)) : Option (Option Spelled) :=
  match fields.filter (·.1 = name) with
  | [] => some none
  | [(_, value)] => some (some value)
  | _ => none

def namedFields? (fields : List (Option String × Spelled)) : Option (List (String × Spelled)) :=
  fields.mapM fun (name, value) => name.map (·, value)

def record? (names : List String) : Spelled → Option (List (Option Spelled))
  | .obj fields => do
    let fields ← namedFields? fields
    names.mapM fun name => field? name fields
  | .arr items =>
    if items.length ≤ names.length then
      some (items.map some ++ List.replicate (names.length - items.length) none)
    else none
  | _ => none

def string? : Spelled → Option String
  | .str s => s
  | _ => none

def flag? : Spelled → Option Bool
  | .bool b => some b
  | _ => none

def items? : Spelled → Option (List Spelled)
  | .arr items => some items
  | _ => none

/-- A field that has a default: it may be missing, but what is given must be well-formed. -/
def orDefault (read : Spelled → Option α) (default : α) : Option Spelled → Option α
  | none => some default
  | some value => read value

def required (read : Spelled → Option α) (given : Option Spelled) : Option α :=
  given.bind read

end StatusWatch.Spelled
