import StatusWatch.Binary64

/-!
JSON values. Objects are lists of fields; `Json.object` keeps one field per name, in the
order of names, and every value that enters the library goes through it.
-/

namespace StatusWatch

/-- An integer of at most 64 bits (signed or not) is kept as it is written; every other number is
a binary64 value, so `3.0` is not an integer. -/
inductive Number where
  | int (value : Int)
  | double (value : Binary64)
  deriving DecidableEq, Repr

namespace Number

def signedBound : Nat := Nat.pow 2 63

def unsignedBound : Nat := Nat.pow 2 64

def toInt64? : Number → Option Int
  | .int i => if -(signedBound : Int) ≤ i ∧ i < signedBound then some i else none
  | .double _ => none

def toBinary64 : Number → Binary64
  | .int i => .ofInt i
  | .double x => x

end Number

inductive Json where
  | null
  | bool (value : Bool)
  | num (value : Number)
  | str (value : String)
  | arr (items : List Json)
  | obj (fields : List (String × Json))
  deriving BEq, Repr, Inhabited

namespace Json

def putField (name : String) (value : α) : List (String × α) → List (String × α)
  | [] => [(name, value)]
  | (other, old) :: rest =>
    if name = other then (name, value) :: rest
    else if name < other then (name, value) :: (other, old) :: rest
    else (other, old) :: putField name value rest

/-- Fields in the order of names; of two with one name the later counts. -/
def sortFields (fields : List (String × α)) : List (String × α) :=
  fields.foldl (fun done field => putField field.1 field.2 done) []

def object (fields : List (String × Json)) : Json :=
  .obj (sortFields fields)

def get? : Json → String → Option Json
  | .obj fields, name => fields.lookup name
  | _, _ => none

def nested? (value : Json) (path : List String) : Option Json :=
  path.foldlM get? value

def str? : Json → Option String
  | .str s => some s
  | _ => none

def bool? : Json → Option Bool
  | .bool b => some b
  | _ => none

def int64? : Json → Option Int
  | .num n => n.toInt64?
  | _ => none

def arr? : Json → Option (List Json)
  | .arr items => some items
  | _ => none

def fields? : Json → Option (List (String × Json))
  | .obj fields => some fields
  | _ => none

def nestedStr? (value : Json) (path : List String) : Option String :=
  (value.nested? path).bind str?

def nestedInt64? (value : Json) (path : List String) : Option Int :=
  (value.nested? path).bind int64?

def isNull : Json → Bool
  | .null => true
  | _ => false

def kindName : Json → String
  | .null => "null"
  | .bool _ => "bool"
  | .num _ => "number"
  | .str _ => "string"
  | .arr _ => "array"
  | .obj _ => "map"

end Json

end StatusWatch
