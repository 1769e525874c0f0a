import StatusWatch.Yaml.Mark

/-!
Texts of scalars, in their four written forms. Line breaks inside plain and quoted text are
folded: one becomes a space, and of several the first is dropped.
-/

namespace StatusWatch.Yaml

structure Lexeme where
  text : List Char
  next : Cursor

def isGap (c : Char) : Bool :=
  isSpace c || isBreak c

def foldBreaks : List Char → List Char
  | [] => []
  | first :: more =>
    if first = '\n' then (if more = [] then [' '] else more) else first :: more

def foldGap (gap : List Char) : List Char :=
  if gap.any isBreak then foldBreaks (gap.filter isBreak) else gap

def tabInIndent (indent : Int) (column : Nat) (onNewLine : Bool) : List Char → Bool
  | [] => false
  | c :: rest =>
    if isBreak c then tabInIndent indent 0 true rest
    else (onNewLine && c = '\t' && (column : Int) < indent) ||
      tabInIndent indent (column + 1) onNewLine rest

namespace Plain

def isFlowMark (c : Char) : Bool :=
  c ∈ [',', '[', ']', '\x7b', '\x7d']

/-- A word ends before a blank, before a colon that a blank follows, and in a flow collection
before the marks of those, which may not follow a colon. -/
def word? (inFlow : Bool) : List Char → Option (List Char × List Char)
  | [] => some ([], [])
  | c :: rest =>
    if isGap c || (c = ':' && blankFirst rest) || (inFlow && isFlowMark c) then some ([], c :: rest)
    else if inFlow && c = ':' && rest.head?.any fun d => d = '?' || isFlowMark d then none
    else do
      let (word, rest) ← word? inFlow rest
      some (c :: word, rest)

/-- Words from here on, behind the gap before them. Also whether the text ended with a line
break; the gap at the end is skipped. -/
def words? (inFlow : Bool) (indent : Int) : Nat → List Char → Cursor → Option (Lexeme × Bool)
  | 0, _, _ => none
  | fuel + 1, gap, c =>
    let stop : Option (Lexeme × Bool) := some (⟨[], c⟩, gap.any isBreak)
    if c.atDocumentEdge || c.peek? = some '#' then stop
    else do
      let (word, rest) ← word? inFlow c.rest
      if word = [] then stop
      else
        let (after, next) := (Cursor.mk (c.mark.past word) rest).span isGap
        if tabInIndent indent (c.mark.column + word.length) false after then none
        let text := foldGap gap ++ word
        if after = [] ∨ (!inFlow ∧ (next.mark.column : Int) < indent) then
          some (⟨text, next⟩, after.any isBreak)
        else
          let (more, brokeLine) ← words? inFlow indent fuel after next
          some ({ more with text := text ++ more.text }, brokeLine)

end Plain

namespace Quoted

def simpleEscape? (c : Char) : Option Char :=
  match c with
  | '0' => some '\x00'
  | 'a' => some '\x07'
  | 'b' => some '\x08'
  | 't' => some '\t'
  | '\t' => some '\t'
  | 'n' => some '\n'
  | 'v' => some '\x0b'
  | 'f' => some '\x0c'
  | 'r' => some '\r'
  | 'e' => some '\x1b'
  | ' ' => some ' '
  | '"' => some '"'
  | '/' => some '/'
  | '\\' => some '\\'
  | 'N' => some '\u0085'
  | '_' => some '\u00a0'
  | 'L' => some '\u2028'
  | 'P' => some '\u2029'
  | _ => none

def codeLength? (c : Char) : Option Nat :=
  match c with
  | 'x' => some 2
  | 'u' => some 4
  | 'U' => some 8
  | _ => none

def hexDigit? (c : Char) : Option Nat :=
  if c.isDigit then some (c.toNat - '0'.toNat)
  else if 'a' ≤ c ∧ c ≤ 'f' then some (c.toNat - 'a'.toNat + 10)
  else if 'A' ≤ c ∧ c ≤ 'F' then some (c.toNat - 'A'.toNat + 10)
  else none

def charOfCode? (n : Nat) : Option Char :=
  if n.isValidChar then some (Char.ofNat n) else none

inductive Position where
  | outside
  | behindBackslash
  | inCode (left value : Nat)

/-- A word of quoted text up to a gap, the closing quote or an escaped line break, of which the
last component tells. -/
def word? (quote : Char) : Position → Mark → List Char → Option (Lexeme × Bool)
  | .outside, m, [] => some (⟨[], ⟨m, []⟩⟩, false)
  | .outside, m, c :: rest =>
    if isGap c then some (⟨[], ⟨m, c :: rest⟩⟩, false)
    else if c = quote then
      match quote, rest with
      | '\'', '\'' :: rest => do
        let (more, escaped) ← word? quote .outside ((m.next c).next c) rest
        some ({ more with text := c :: more.text }, escaped)
      | _, rest => some (⟨[], ⟨m, c :: rest⟩⟩, false)
    else if c = '\\' ∧ quote = '"' then word? quote .behindBackslash (m.next c) rest
    else do
      let (more, escaped) ← word? quote .outside (m.next c) rest
      some ({ more with text := c :: more.text }, escaped)
  | .behindBackslash, m, c :: rest =>
    if isBreak c then some (⟨[], ⟨m.next c, rest⟩⟩, true)
    else
      match simpleEscape? c, codeLength? c with
      | some e, _ => do
        let (more, escaped) ← word? quote .outside (m.next c) rest
        some ({ more with text := e :: more.text }, escaped)
      | none, some n => word? quote (.inCode n 0) (m.next c) rest
      | none, none => none
  | .inCode left value, m, c :: rest => do
    let value := value * 16 + (← hexDigit? c)
    if left ≤ 1 then
      let e ← charOfCode? value
      let (more, escaped) ← word? quote .outside (m.next c) rest
      some ({ more with text := e :: more.text }, escaped)
    else word? quote (.inCode (left - 1) value) (m.next c) rest
  | _, _, [] => none

/-- Quoted text from behind its opening quote, and the place behind the closing one. Behind an
escaped line break the other breaks count, and blanks do not. -/
def text? (quote : Char) : Nat → Cursor → Option Lexeme
  | 0, _ => none
  | fuel + 1, c =>
    if c.atDocumentEdge ∨ c.rest = [] then none
    else do
      let (word, escaped) ← word? quote .outside c.mark c.rest
      if !escaped ∧ word.next.peek? = some quote then some { word with next := word.next.advance }
      else
        let (gap, next) := word.next.span isGap
        let more ← text? quote fuel next
        let filling := if escaped then gap.filter isBreak else foldGap gap
        some { more with text := word.text ++ filling ++ more.text }

end Quoted

namespace Block

inductive Chomp where
  | strip
  | clip
  | keep
  deriving DecidableEq, Repr

def chomp? (c : Char) : Option Chomp :=
  match c with
  | '-' => some .strip
  | '+' => some .keep
  | _ => none

def indentDigit? (c : Char) : Option Nat :=
  if c.isDigit then some (c.toNat - '0'.toNat) else none

structure Header where
  chomp : Chomp
  /-- The indent that is asked for, zero if none. -/
  indent : Nat

def header? (c : Cursor) : Option (Header × Cursor) :=
  match c.peek?.bind chomp? with
  | some chomp =>
    let c := c.advance
    match c.peek?.bind indentDigit? with
    | some 0 => none
    | some n => some (⟨chomp, n⟩, c.advance)
    | none => some (⟨chomp, 0⟩, c)
  | none =>
    match c.peek?.bind indentDigit? with
    | some 0 => none
    | some n =>
      let c := c.advance
      match c.peek?.bind chomp? with
      | some chomp => some (⟨chomp, n⟩, c.advance)
      | none => some (⟨.clip, n⟩, c)
    | none => some (⟨.clip, 0⟩, c)

structure EmptyLines where
  breaks : List Char
  /-- The widest indent among them and of the line behind them. -/
  widest : Nat
  next : Cursor

/-- Skips indents, up to the given one if it is not zero, and the line breaks behind them. -/
def emptyLines? (indent : Nat) : Mark → List Char → Option EmptyLines
  | m, [] => some ⟨[], m.column, ⟨m, []⟩⟩
  | m, c :: rest =>
    let within := indent = 0 ∨ m.column < indent
    if c = ' ' ∧ within then emptyLines? indent (m.next c) rest
    else if c = '\t' ∧ within then none
    else if isBreak c then do
      let more ← emptyLines? indent (m.next c) rest
      some { more with breaks := c :: more.breaks, widest := max m.column more.widest }
    else some ⟨[], m.column, ⟨m, c :: rest⟩⟩

def joint (literal : Bool) (lineBreak empties : List Char) (beside : Bool) : List Char :=
  if !literal ∧ lineBreak = ['\n'] ∧ !beside then (if empties = [] then [' '] else [])
  else lineBreak

/-- The lines of a block from here on. `lineBreak` ended the last one, `empties` are the breaks of
empty lines behind it, and `blank` says whether it began with a blank. -/
def lines? (literal : Bool) (header : Header) (indent : Nat) :
    Nat → List Char → List Char → Bool → Cursor → Option Lexeme
  | 0, _, _, _, _ => none
  | fuel + 1, lineBreak, empties, blank, c =>
    match c.rest with
    | [] => finish lineBreak empties c
    | first :: _ =>
      if c.mark.column = indent then do
        let startsBlank := isSpace first
        let (line, c) := c.span (!isBreak ·)
        let (nextBreak, c) :=
          match c.rest with
          | [] => ([], c)
          | b :: _ => ([b], c.advance)
        let empty ← emptyLines? indent c.mark c.rest
        let more ← lines? literal header indent fuel nextBreak empty.breaks startsBlank empty.next
        some { more with
          text := joint literal lineBreak empties (blank || startsBlank) ++ empties ++ line ++
            more.text }
      else finish lineBreak empties c
where
  finish (lineBreak empties : List Char) (c : Cursor) : Option Lexeme :=
    match header.chomp with
    | .strip => some ⟨[], c⟩
    | .clip => some ⟨lineBreak, c⟩
    | .keep => some ⟨lineBreak ++ empties, c⟩

/-- The text of a block from behind its mark; `outer` is the indent of the block around it. The
first line gives the indent unless the header does. -/
def text? (literal : Bool) (outer : Int) (fuel : Nat) (c : Cursor) : Option Lexeme := do
  let (header, c) ← header? c
  let c ← c.skipToBreak?
  let c := c.advance
  let asked := if header.indent = 0 then 0 else (max outer 0).toNat + header.indent
  let empty ← emptyLines? asked c.mark c.rest
  let indent := if asked = 0 then max (max empty.widest (outer + 1).toNat) 1 else asked
  lines? literal header indent fuel [] empty.breaks false empty.next

end Block

end StatusWatch.Yaml
