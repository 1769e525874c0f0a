import StatusWatch.Condition.Syntax
import StatusWatch.Binary64.Decimal
import StatusWatch.Binary64.Shortest
import StatusWatch.Json.Printer
import StatusWatch.Text.Blank

/-!
Reading a condition. The condition's text is put into the template `{$.items[?(…)]}`, so that
its predicate filters a list which holds the object alone, and the whole is read as one path.
Every step takes the rest of the text and hands on what it leaves. A failure notes how much
text was left where it arose, from which the message counts the position.
-/

namespace StatusWatch.Condition

open Text (isBlank skipBlanks)

inductive SyntaxError where
  | emptyCondition
  | expected (wanted found : Char) (left : Nat)
  | expectedAtEnd (wanted : Char)
  | unexpected (found : Char) (left : Nat)
  | badRoot (found : Char)
  | missingPath
  | missingField (left : Nat)
  | badIndex (value : Binary64)
  | badBracket (found : Char) (left : Nat)
  | openBracket
  | bareLiteral (value : Literal)
  | missingComparison
  | badComparison (found : Char) (left : Nat)
  | badWord (word : String)
  | missingOperand
  | openString
  | badNumber (text : String)
  deriving DecidableEq, Repr

def SyntaxError.message (length : Nat) : SyntaxError → String
  | .emptyCondition => "empty condition"
  | .expected wanted found left =>
    s!"expected '{wanted}' at position {length - left}, found '{found}'"
  | .expectedAtEnd wanted => s!"expected '{wanted}', found end of input"
  | .unexpected found left => s!"unexpected '{found}' at position {length - left}"
  | .badRoot found => s!"path must start with '$' or '@', found '{found}'"
  | .missingPath => "expected a path, found end of input"
  | .missingField left => s!"missing field name at position {length - left}"
  | .badIndex value => s!"array index must be an integer, found {value.toText}"
  | .badBracket found left => s!"unexpected '{found}' in brackets at position {length - left}"
  | .openBracket => "unterminated '['"
  | .bareLiteral value => s!"filter must test a path, found literal {value.toJson.toText}"
  | .missingComparison => "expected comparison operator, found end of input"
  | .badComparison found left => s!"unrecognized operator '{found}' at position {length - left}"
  | .badWord word => s!"unrecognized identifier '{word}'"
  | .missingOperand => "expected an operand, found end of input"
  | .openString => "unterminated string"
  | .badNumber text => s!"invalid number '{text}'"

/-- A step: it takes the rest of the text, and gives what it read and the text left. -/
abbrev Reads (α : Type) := List Char → Except SyntaxError (α × List Char)

namespace Parser

def expect (wanted : Char) : List Char → Except SyntaxError (List Char)
  | [] => .error (.expectedAtEnd wanted)
  | c :: rest => if c = wanted then .ok rest else .error (.expected wanted c (rest.length + 1))

def isNameChar (c : Char) : Bool :=
  !(isBlank c || isDelimiter c)

def isNumberChar (c : Char) : Bool :=
  c.isDigit || c = '.' || c = 'e' || c = 'E'

def startsNumber (c : Char) : Bool :=
  c = '-' || c.isDigit

/-- The rest of a string up to its closing quote; a backslash takes the next character as it is. -/
def stringBody (quote : Char) : Reads (List Char)
  | [] => .error .openString
  | [c] => if c = quote ∧ c ≠ '\\' then .ok ([], []) else .error .openString
  | c :: d :: rest =>
    if c = '\\' then (stringBody quote rest).map fun (s, rest) => (d :: s, rest)
    else if c = quote then .ok ([], d :: rest)
    else (stringBody quote (d :: rest)).map fun (s, rest) => (c :: s, rest)

/-- An integer of 64 signed bits spelled by digits alone after a sign if any. -/
def integerOf? (text : List Char) : Option Int :=
  let (sign, digits) : Int × List Char :=
    match text with
    | '-' :: digits => (-1, digits)
    | digits => (1, digits)
  if digits ≠ [] ∧ digits.all Char.isDigit then
    (Number.int (sign * Binary64.digitsValue digits)).toInt64?
  else none

/-- Integers first; what is none may still be a finite binary64 value. -/
def numberOf? (text : List Char) : Option Number :=
  match integerOf? text with
  | some i => some (.int i)
  | none => (Binary64.ofText? text).map .double

def number : Reads Number := fun text =>
  let (sign, rest) : List Char × List Char :=
    match text with
    | '-' :: rest => (['-'], rest)
    | rest => ([], rest)
  let spelled := sign ++ rest.takeWhile isNumberChar
  match numberOf? spelled with
  | some n => .ok (n, rest.dropWhile isNumberChar)
  | none => .error (.badNumber (String.ofList spelled))

def comparison : Reads Comparison
  | '=' :: '=' :: rest => .ok (.eq, rest)
  | '!' :: '=' :: rest => .ok (.ne, rest)
  | '<' :: '=' :: rest => .ok (.le, rest)
  | '>' :: '=' :: rest => .ok (.ge, rest)
  | '<' :: rest => .ok (.lt, rest)
  | '>' :: rest => .ok (.gt, rest)
  | c :: rest => .error (.badComparison c (rest.length + 1))
  | [] => .error .missingComparison

def operand (path : Reads Path) : Reads Operand := fun text =>
  match text with
  | [] => .error .missingOperand
  | c :: rest =>
    if c = '@' ∨ c = '$' then
      (path text).map fun (p, rest) => (.path p, rest)
    else if c = '\'' ∨ c = '"' then
      (stringBody c rest).map fun (s, rest) => (.literal (.text (String.ofList s)), rest)
    else if startsNumber c then
      (number text).map fun (n, rest) => (.literal (.number n), rest)
    else if c.isAlpha then
      let word := String.ofList (text.takeWhile isNameChar)
      let rest := text.dropWhile isNameChar
      if word = "true" then .ok (.literal (.flag true), rest)
      else if word = "false" then .ok (.literal (.flag false), rest)
      else .error (.badWord word)
    else .error (.unexpected c (rest.length + 1))

/-- What stands between the parentheses of a filter. A path alone asks whether it leads anywhere. -/
def predicate (path : Reads Path) : Reads Predicate := fun text => do
  let (left, rest) ← operand path (skipBlanks text)
  match skipBlanks rest with
  | ')' :: rest =>
    match left with
    | .path p => .ok (.present p, ')' :: rest)
    | .literal value => .error (.bareLiteral value)
  | rest =>
    let (comparison, rest) ← comparison rest
    let (right, rest) ← operand path (skipBlanks rest)
    .ok (.compare left comparison right, rest)

def bracketBody (path : Reads Path) : Reads Segment := fun text =>
  match text with
  | [] => .error .openBracket
  | c :: rest =>
    if c = '?' then do
      let rest ← expect '(' (skipBlanks rest)
      let (p, rest) ← predicate path rest
      let rest ← expect ')' (skipBlanks rest)
      .ok (.filter p, rest)
    else if c = '*' then .ok (.wildcard, rest)
    else if c = '\'' ∨ c = '"' then
      (stringBody c rest).map fun (s, rest) => (.field (String.ofList s), rest)
    else if startsNumber c then do
      match ← number text with
      | (.int i, rest) => .ok (.index i, rest)
      | (.double x, _) => .error (.badIndex x)
    else .error (.badBracket c (rest.length + 1))

def bracket (path : Reads Path) : Reads Segment := fun text => do
  let (segment, rest) ← bracketBody path (skipBlanks text)
  let rest ← expect ']' (skipBlanks rest)
  .ok (segment, rest)

/-- The segments of a path, as many as there are. Each takes a character at least, so the length
of the text is fuel enough. -/
def segments (path : Reads Path) : Nat → Reads (List Segment)
  | fuel + 1, '.' :: '*' :: rest => do
    let (more, rest) ← segments path fuel rest
    .ok (.wildcard :: more, rest)
  | fuel + 1, '.' :: rest => do
    let name := rest.takeWhile isNameChar
    if name = [] then .error (.missingField rest.length)
    else
      let (more, rest) ← segments path fuel (rest.dropWhile isNameChar)
      .ok (.field (String.ofList name) :: more, rest)
  | fuel + 1, '[' :: rest => do
    let (segment, rest) ← bracket path rest
    let (more, rest) ← segments path fuel rest
    .ok (segment :: more, rest)
  | _, rest => .ok ([], rest)

/-- A path whose filters stand at most `depth` deep in one another. A filter takes characters, so
a depth beyond the length of the text is never used up. -/
def path : Nat → Reads Path
  | 0, _ => .error .missingPath
  | _, [] => .error .missingPath
  | depth + 1, c :: rest =>
    let go (root : Root) : Except SyntaxError (Path × List Char) :=
      (segments (path depth) rest.length rest).map fun (s, rest) => (.mk root s, rest)
    if c = '$' then go .document
    else if c = '@' then go .item
    else .error (.badRoot c)

def template (text : List Char) : Except SyntaxError Path := do
  let rest ← expect '\x7b' (skipBlanks text)
  let (path, rest) ← path (text.length + 1) (skipBlanks rest)
  let rest ← expect '\x7d' (skipBlanks rest)
  match skipBlanks rest with
  | [] => .ok path
  | c :: rest => .error (.unexpected c (rest.length + 1))

def wrap (condition : String) : List Char :=
  "\x7b$.items[?(".toList ++ condition.toList ++ ")]\x7d".toList

def parse (condition : String) : Except SyntaxError Path :=
  if Text.isBlankText condition then .error .emptyCondition else template (wrap condition)

end Parser

end StatusWatch.Condition
