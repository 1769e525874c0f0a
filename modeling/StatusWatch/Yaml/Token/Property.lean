import StatusWatch.Yaml.Mark
import StatusWatch.Yaml.Token

/-!
What stands before a node: its anchor or alias, its tag, and the directives of a document.
-/

namespace StatusWatch.Yaml.Property

def isNameChar (c : Char) : Bool :=
  c.isAlphanum || c = '_' || c = '-'

def name? (c : Cursor) : Option (String × Cursor) :=
  let (name, c) := c.span isNameChar
  let ends := blankFirst c.rest ||
    c.peek?.any fun d => d ∈ ['?', ':', ',', ']', '\x7d', '%', '@', '`']
  if name ≠ [] ∧ ends then some (String.ofList name, c) else none

def isUriChar (inBrackets : Bool) (c : Char) : Bool :=
  isNameChar c ||
    c ∈ [';', '/', '?', ':', '@', '&', '=', '+', '$', '.', '%', '!', '~', '*', '\'', '(', ')'] ||
    (inBrackets && c ∈ [',', '[', ']'])

def hexDigit? (c : Char) : Option Nat :=
  if c.isDigit then some (c.toNat - '0'.toNat)
  else if 'a' ≤ c ∧ c ≤ 'f' then some (c.toNat - 'a'.toNat + 10)
  else if 'A' ≤ c ∧ c ≤ 'F' then some (c.toNat - 'A'.toNat + 10)
  else none

def byteCount? (first : Nat) : Option Nat :=
  if first < 0x80 then some 1
  else if first / 0x20 = 0x6 then some 2
  else if first / 0x10 = 0xE then some 3
  else if first / 0x08 = 0x1E then some 4
  else none

/-- Replaces escaped bytes of a tag; `due` bytes of a character are still to come. Only tags of
ASCII letters mean anything, so each byte stays on its own. -/
def unescape? : Nat → List Char → Option (List Char)
  | 0, [] => some []
  | _ + 1, [] => none
  | due, '%' :: a :: b :: rest => do
    let byte := (← hexDigit? a) * 16 + (← hexDigit? b)
    let due ←
      match due with
      | 0 => (byteCount? byte).map (· - 1)
      | due + 1 => if byte / 0x40 = 0x2 then some due else none
    let more ← unescape? due rest
    some (Char.ofNat byte :: more)
  | 0, c :: rest =>
    if c = '%' then none
    else do
      let more ← unescape? 0 rest
      some (c :: more)
  | _ + 1, _ :: _ => none

def uri? (inBrackets afterOther : Bool) (c : Cursor) : Option (List Char × Cursor) := do
  let (raw, c) := c.span (isUriChar inBrackets)
  if raw = [] ∧ !afterOther then none
  let text ← unescape? 0 raw
  some (text, c)

def handle (c : Cursor) : List Char × Cursor :=
  let start := c.advance
  let (name, next) := start.span isNameChar
  if next.peek? = some '!' then ('!' :: (name ++ ['!']), next.advance) else ('!' :: name, next)

/-- The tag at an exclamation mark: a text in angle brackets, a handle with a suffix, or a suffix
behind one mark. The lone mark is a tag too. -/
def tag? (inFlow : Bool) (c : Cursor) : Option (Token × Cursor) := do
  let (token, c) ←
    if c.rest.tail.head? = some '<' then do
      let (text, c) ← uri? true false (c.skip 2)
      if c.peek? = some '>' then some (Token.tag "" (String.ofList text), c.advance) else none
    else
      let (h, next) := handle c
      if 2 ≤ h.length ∧ h.getLast? = some '!' then do
        let (suffix, c) ← uri? false false next
        some (.tag (String.ofList h) (String.ofList suffix), c)
      else do
        let (more, c) ← uri? false true next
        let suffix := h.tail ++ more
        if suffix = [] then some (.tag "" "!", c) else some (.tag "!" (String.ofList suffix), c)
  if (inFlow ∧ c.peek? = some ',') ∨ blankFirst c.rest then some (token, c) else none

def versionNumber? (c : Cursor) : Option (Nat × Cursor) :=
  let (digits, c) := c.span Char.isDigit
  if digits = [] ∨ 9 < digits.length then none
  else some (digits.foldl (fun n d => n * 10 + (d.toNat - '0'.toNat)) 0, c)

def version? (c : Cursor) : Option (Token × Cursor) := do
  let (major, c) ← versionNumber? (c.skipWhile isSpace)
  if c.peek? ≠ some '.' then none
  let (minor, c) ← versionNumber? c.advance
  some (.version major minor, c)

def tagShorthand? (c : Cursor) : Option (Token × Cursor) := do
  let c := c.skipWhile isSpace
  if c.peek? ≠ some '!' then none
  let (h, c) := handle c
  if h ≠ ['!'] ∧ (h.length < 2 ∨ h.getLast? ≠ some '!') then none
  if !c.peek?.any isSpace then none
  let (stem, c) ← uri? true false (c.skipWhile isSpace)
  if blankFirst c.rest then some (.tagShorthand (String.ofList h) (String.ofList stem), c)
  else none

def directive? (c : Cursor) : Option (Token × Cursor) := do
  let (name, c) := c.advance.span isNameChar
  if name = [] ∨ !blankFirst c.rest then none
  let (token, c) ←
    if name = "YAML".toList then version? c
    else if name = "TAG".toList then tagShorthand? c
    else none
  let c ← c.skipToBreak?
  some (token, c.advance)

end StatusWatch.Yaml.Property
