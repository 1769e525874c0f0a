import StatusWatch.Json

/-!
The syntax of conditions. A condition asks one predicate of one object: that a path leads
somewhere, or that two operands compare. Paths start at the document or at the current item
and go through fields, indices, wildcards and nested filters.
-/

namespace StatusWatch.Condition

inductive Root where
  | document
  | item
  deriving DecidableEq, Repr

inductive Comparison where
  | eq
  | ne
  | lt
  | le
  | gt
  | ge
  deriving DecidableEq, Repr

inductive Literal where
  | text (value : String)
  | number (value : Number)
  | flag (value : Bool)
  deriving DecidableEq, Repr

mutual

inductive Path where
  | mk (root : Root) (segments : List Segment)

inductive Segment where
  | field (name : String)
  | index (position : Int)
  | wildcard
  | filter (predicate : Predicate)

inductive Predicate where
  | present (path : Path)
  | compare (left : Operand) (comparison : Comparison) (right : Operand)

inductive Operand where
  | path (path : Path)
  | literal (value : Literal)

end

deriving instance Repr for Path, Segment, Predicate, Operand

def Comparison.symbol : Comparison → String
  | .eq => "=="
  | .ne => "!="
  | .lt => "<"
  | .le => "<="
  | .gt => ">"
  | .ge => ">="

def Comparison.accepts : Comparison → Ordering → Bool
  | .eq, order => order == .eq
  | .ne, order => order != .eq
  | .lt, order => order == .lt
  | .le, order => order != .gt
  | .gt, order => order == .gt
  | .ge, order => order != .lt

def Literal.toJson : Literal → Json
  | .text s => .str s
  | .number n => .num n
  | .flag b => .bool b

def Path.root : Path → Root
  | .mk root _ => root

def Path.segments : Path → List Segment
  | .mk _ segments => segments

/-- A segment as messages show it; what a filter asks is left out. -/
def Segment.toText : Segment → String
  | .field name => "." ++ name
  | .index i => "[" ++ toString i ++ "]"
  | .wildcard => "[*]"
  | .filter _ => "[?(...)]"

def Path.toText (path : Path) : String :=
  let root := match path.root with
    | .document => "$"
    | .item => "@"
  root ++ String.join (path.segments.map Segment.toText)

/-- Characters that end a field name written without quotes. -/
def isDelimiter (c : Char) : Bool :=
  c ∈ ['.', '[', ']', '(', ')', '=', '!', '<', '>', '\'', '"', '\x7b', '\x7d']

end StatusWatch.Condition
