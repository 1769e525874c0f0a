import StatusWatch.Yaml.Characters
import StatusWatch.Yaml.Scalar

/-!
Writing records of texts as YAML. A text is written plain where that reads back as the same text,
in single quotes where it would denote something else or break the plain form, as a literal block
if it has several lines, and with escapes where nothing else can hold it.
-/

namespace StatusWatch.Yaml

inductive Style where
  | plain
  | singleQuoted
  | doubleQuoted
  | literal
  deriving DecidableEq, Repr

namespace Style

def hasPair (rel : Char → Char → Bool) : List Char → Bool
  | a :: b :: rest => rel a b || hasPair rel (b :: rest)
  | _ => false

def spaceBeforeBreak : List Char → Bool :=
  hasPair fun a b => a = ' ' && isBreak b

def spaceAfterBreak : List Char → Bool :=
  hasPair fun a b => isBreak a && b = ' '

def isEdge (c : Char) : Bool :=
  c = ' ' || isBreak c

def markInside (before : Char) : List Char → Bool
  | [] => false
  | c :: rest =>
    (c = ':' && blankFirst rest) || (c = '#' && blankFirst [before]) || markInside c rest

def markFirst : List Char → Bool
  | [] => false
  | c :: rest => isIndicator c || (c ∈ ['?', ':', '-'] && blankFirst rest)

def hasMark (text : List Char) : Bool :=
  ['-', '-', '-'].isPrefixOf text || ['.', '.', '.'].isPrefixOf text || markFirst text ||
    match text with
    | [] => false
    | c :: rest => markInside c rest

/-- What neither a block nor single quotes can hold. -/
def needsEscape (text : List Char) : Bool :=
  spaceBeforeBreak text || !text.all isPrintable

def plainAllowed (text : List Char) : Bool :=
  !needsEscape text && !text.any isBreak && !text.head?.any isEdge && !text.getLast?.any isEdge &&
    !hasMark text

def singleQuotedAllowed (text : List Char) : Bool :=
  !needsEscape text && !spaceAfterBreak text

def literalAllowed (text : List Char) : Bool :=
  !needsEscape text && text.getLast? ≠ some ' '

def readsOtherwise (text : String) : Bool :=
  Scalar.ofPlain text ≠ .word || Scalar.hasLeadingZero text.toList

def ofText (text : String) : Style :=
  let cs := text.toList
  if '\n' ∈ cs then
    if literalAllowed cs then .literal else .doubleQuoted
  else if !readsOtherwise text && plainAllowed cs then .plain
  else if singleQuotedAllowed cs then .singleQuoted
  else .doubleQuoted

end Style

namespace Printer

def textIndent : List Char :=
  List.replicate 4 ' '

def hexDigits (width n : Nat) : List Char :=
  let digits := (Nat.toDigits 16 n).map Char.toUpper
  List.replicate (width - digits.length) '0' ++ digits

def escape (c : Char) : List Char :=
  match c with
  | '\x00' => ['\\', '0']
  | '\x07' => ['\\', 'a']
  | '\x08' => ['\\', 'b']
  | '\t' => ['\\', 't']
  | '\n' => ['\\', 'n']
  | '\x0b' => ['\\', 'v']
  | '\x0c' => ['\\', 'f']
  | '\r' => ['\\', 'r']
  | '\x1b' => ['\\', 'e']
  | '"' => ['\\', '"']
  | '\\' => ['\\', '\\']
  | '\u0085' => ['\\', 'N']
  | '\u00a0' => ['\\', '_']
  | '\u2028' => ['\\', 'L']
  | '\u2029' => ['\\', 'P']
  | c =>
    if c.toNat < 0x100 then ['\\', 'x'] ++ hexDigits 2 c.toNat
    else if c.toNat < 0x10000 then ['\\', 'u'] ++ hexDigits 4 c.toNat
    else ['\\', 'U'] ++ hexDigits 8 c.toNat

def doubleBody (c : Char) : List Char :=
  if !isPrintable c || isBreak c || c = '"' || c = '\\' then escape c else [c]

/-- A line break between other characters would be read as a space, so it is written twice; the
next line is indented. -/
def singleBody (afterBreak : Bool) : List Char → List Char
  | [] => if afterBreak then textIndent else []
  | c :: rest =>
    if isBreak c then
      (if c = '\n' ∧ !afterBreak then ['\n'] else []) ++ c :: singleBody true rest
    else
      (if afterBreak then textIndent else []) ++
        (if c = '\'' then ['\'', '\''] else [c]) ++ singleBody false rest

def literalBody (afterBreak : Bool) : List Char → List Char
  | [] => []
  | c :: rest =>
    if isBreak c then c :: literalBody true rest
    else (if afterBreak then textIndent else []) ++ c :: literalBody false rest

/-- Behind the bar: the indent if the first line does not show it, and whether the text lacks its
last line break or has more than one. -/
def literalHints (text : List Char) : List Char :=
  let indent := if text.head?.any Style.isEdge then ['2'] else []
  let ending :=
    match text.reverse with
    | last :: rest =>
      if !isBreak last then ['-']
      else if rest.head?.all isBreak then ['+']
      else []
    | [] => ['-']
  indent ++ ending

def scalar (text : String) : List Char :=
  let cs := text.toList
  match Style.ofText text with
  | .plain => cs
  | .singleQuoted => '\'' :: (singleBody false cs ++ ['\''])
  | .doubleQuoted => '"' :: (cs.flatMap doubleBody ++ ['"'])
  | .literal => '|' :: (literalHints cs ++ '\n' :: literalBody true cs)

/-- A text and the end of its line; a literal block may have ended it already. -/
def scalarLine (text : String) : List Char :=
  let written := scalar text
  if Style.ofText text = .literal ∧ text.toList.getLast?.any isBreak then written
  else written ++ ['\n']

def isShortKey (key : String) : Bool :=
  !key.toList.any isBreak && key.utf8ByteSize ≤ 128

def field (key value : String) : List Char :=
  if isShortKey key then scalar key ++ [':', ' '] ++ scalarLine value
  else ['?', ' '] ++ scalarLine key ++ [' ', ' ', ':', ' '] ++ scalarLine value

def entry : List (String × String) → List Char
  | [] => "- \x7b\x7d\n".toList
  | (key, value) :: rest =>
    ['-', ' '] ++ field key value ++ rest.flatMap fun (key, value) => ' ' :: ' ' :: field key value

end Printer

def ofRecords (records : List (List (String × String))) : String :=
  if records.isEmpty then "[]\n" else String.ofList (records.flatMap Printer.entry)

end StatusWatch.Yaml
