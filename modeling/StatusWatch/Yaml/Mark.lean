import StatusWatch.Yaml.Characters

/-!
Places in a YAML text. Line breaks are made alike before a text is read, so that each is one
character.
-/

namespace StatusWatch.Yaml

def plainBreaks : List Char → List Char
  | [] => []
  | '\r' :: '\n' :: rest => '\n' :: plainBreaks rest
  | c :: rest => (if c = '\r' ∨ c = '\u0085' then '\n' else c) :: plainBreaks rest

structure Mark where
  /-- How many bytes of UTF-8 stand before it. -/
  index : Nat
  line : Nat
  column : Nat
  deriving DecidableEq, Repr, Inhabited

namespace Mark

def start : Mark := ⟨0, 0, 0⟩

def next (m : Mark) (c : Char) : Mark :=
  let index := m.index + c.utf8Size
  if isBreak c then ⟨index, m.line + 1, 0⟩ else ⟨index, m.line, m.column + 1⟩

def past (m : Mark) (text : List Char) : Mark :=
  text.foldl next m

end Mark

structure Cursor where
  mark : Mark
  rest : List Char

namespace Cursor

def advance (c : Cursor) : Cursor :=
  match c.rest with
  | [] => c
  | x :: rest => ⟨c.mark.next x, rest⟩

def skip (c : Cursor) : Nat → Cursor
  | 0 => c
  | n + 1 => c.advance.skip n

def span (p : Char → Bool) (c : Cursor) : List Char × Cursor :=
  let taken := c.rest.takeWhile p
  (taken, ⟨c.mark.past taken, c.rest.dropWhile p⟩)

def skipWhile (p : Char → Bool) (c : Cursor) : Cursor :=
  (c.span p).2

def peek? (c : Cursor) : Option Char :=
  c.rest.head?

def skipToBreak? (c : Cursor) : Option Cursor :=
  let c := c.skipWhile isSpace
  let c := if c.peek? = some '#' then c.skipWhile (!isBreak ·) else c
  if c.peek?.all isBreak then some c else none

/-- Three dashes or three points that stand alone at the start of a line. -/
def atDocumentMark (c : Cursor) (mark : Char) : Bool :=
  c.mark.column = 0 &&
    match c.rest with
    | a :: b :: d :: rest => a = mark && b = mark && d = mark && blankFirst rest
    | _ => false

def atDocumentEdge (c : Cursor) : Bool :=
  c.atDocumentMark '-' || c.atDocumentMark '.'

end Cursor

end StatusWatch.Yaml
