/-!
Options of a command line. An option has a long name and may have a letter; letters may be joined
behind one dash, and a value may follow at once or as the next word. The words of an option are
taken in when the next option begins, so the first fault is the one that shows first in that order.
-/

namespace StatusWatch.CommandLine

/-- Why a command line is not carried out; two kinds are wishes rather than faults. -/
inductive Refusal where
  | unknownArgument
  | unknownCommand
  | noCommand
  | empty
  | invalidValue
  | unreadableValue
  | conflict
  | unwantedValue
  | missingOption
  | helpWanted
  | versionWanted
  deriving DecidableEq, Repr

inductive Arity where
  | none
  | one
  | oneOrMore
  deriving DecidableEq, Repr

structure CliOption (α : Type) where
  long : String
  letter : Option Char
  arity : Arity
  apply : List String → α → Except Refusal α

/-- What has been read: the arguments, and the option whose values are being read. -/
structure Scan (α : Type) where
  arguments : α
  pending : Option (CliOption α × List String)
  /-- The pending option takes the next word. -/
  wanting : Bool
  /-- Two dashes have been read; no option follows them. -/
  ended : Bool

namespace Scan

def start (arguments : α) : Scan α :=
  ⟨arguments, none, false, false⟩

def settle (s : Scan α) : Except Refusal (Scan α) :=
  match s.pending with
  | none => .ok s
  | some (o, values) =>
    if values.isEmpty then .error .invalidValue
    else do
      let arguments ← o.apply values s.arguments
      .ok { s with arguments, pending := none }

def apply (s : Scan α) (o : CliOption α) (values : List String) : Except Refusal (Scan α) := do
  let s ← s.settle
  let arguments ← o.apply values s.arguments
  .ok { s with arguments, wanting := false }

def beginValues (s : Scan α) (o : CliOption α) (attached : Option String) :
    Except Refusal (Scan α) :=
  match attached with
  | some value => s.apply o [value]
  | none => do
    let s ← s.settle
    .ok { s with pending := some (o, []), wanting := true }

def addValue (s : Scan α) (word : String) : Scan α :=
  match s.pending with
  | none => s
  | some (o, values) =>
    { s with pending := some (o, values ++ [word]), wanting := o.arity = .oneOrMore }

end Scan

variable (options : List (CliOption α))

def splitValue (word : List Char) : String × Option String :=
  let name := String.ofList (word.takeWhile (· ≠ '='))
  match word.dropWhile (· ≠ '=') with
  | [] => (name, none)
  | _ :: value => (name, some (String.ofList value))

def longOption (s : Scan α) (word : List Char) : Except Refusal (Scan α) :=
  let (name, value) := splitValue word
  match options.find? (·.long = name) with
  | none => .error .unknownArgument
  | some o =>
    match o.arity, value with
    | .none, some _ => .error .unwantedValue
    | .none, none => s.apply o []
    | _, value => s.beginValues o value

/-- Letters behind one dash. All behind a letter that takes values is its value, less an equals
sign. -/
def letters (s : Scan α) : List Char → Except Refusal (Scan α)
  | [] => .ok s
  | c :: rest =>
    match options.find? (·.letter = some c) with
    | none => .error .unknownArgument
    | some o =>
      match o.arity, rest with
      | .none, rest => do
        let s ← s.apply o []
        letters s rest
      | _, [] => s.beginValues o none
      | _, '=' :: value => s.beginValues o (some (String.ofList value))
      | _, value => s.beginValues o (some (String.ofList value))

abbrev Stop := Option (String × List String)

/-- Reads words up to the end or to a command. Without commands no other word may stand alone; with
them, every such word should be one. -/
def words (commands : List String) (s : Scan α) : List String → Except Refusal (Scan α × Stop)
  | [] => .ok (s, none)
  | word :: rest =>
    let alone : Except Refusal (Scan α × Stop) :=
      .error (if commands.isEmpty ∨ (s.ended ∧ word ∈ commands) then .unknownArgument
        else .unknownCommand)
    if s.ended then alone
    else if !s.wanting ∧ word ∈ commands then .ok (s, some (word, rest))
    else
      match word.toList with
      | ['-', '-'] => words commands { s with ended := true } rest
      | '-' :: '-' :: long => do
        let s ← longOption options s long
        words commands s rest
      | '-' :: c :: more => do
        let s ← letters options s (c :: more)
        words commands s rest
      | _ => if s.wanting then words commands (s.addValue word) rest else alone

end StatusWatch.CommandLine
