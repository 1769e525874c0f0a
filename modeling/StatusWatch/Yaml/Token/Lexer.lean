import StatusWatch.Yaml.Token.Property
import StatusWatch.Yaml.Token.Text

/-!
Reading the tokens of a YAML text. What stands before a colon is known to be a key only when the
colon is reached, so a place where a key could begin is kept until then, one for each flow
collection that is open; the `key` token, and the start of a block mapping, are put there later.
-/

namespace StatusWatch.Yaml

structure KeyPlace where
  mark : Mark
  /-- How many tokens stood before it. -/
  position : Nat
  /-- In this place nothing but a key can stand. -/
  required : Bool

structure Lexer where
  cursor : Cursor
  /-- The newest token first. -/
  tokens : List Token
  count : Nat
  /-- The column of the innermost block, and those around it; -1 outside of all. -/
  indent : Int
  outerIndents : List Int
  /-- The key place of the innermost flow collection, or of the block around them. -/
  keyPlace : Option KeyPlace
  outerKeyPlaces : List (Option KeyPlace)
  keyAllowed : Bool

namespace Lexer

def start (text : List Char) : Lexer :=
  ⟨⟨.start, text⟩, [], 0, -1, [], none, [], true⟩

def inFlow (l : Lexer) : Bool :=
  !l.outerKeyPlaces.isEmpty

def column (l : Lexer) : Nat :=
  l.cursor.mark.column

def emit (l : Lexer) (t : Token) : Lexer :=
  { l with tokens := t :: l.tokens, count := l.count + 1 }

def emitAt (l : Lexer) (position : Nat) (t : Token) : Lexer :=
  let newer := l.count - position
  { l with tokens := l.tokens.take newer ++ t :: l.tokens.drop newer, count := l.count + 1 }

def advance (l : Lexer) (n : Nat) : Lexer :=
  { l with cursor := l.cursor.skip n }

def allowKey (l : Lexer) (allowed : Bool) : Lexer :=
  { l with keyAllowed := allowed }

/-- Skips blanks, comments and line breaks. A tab is no blank where a key could begin in a block.
A new line in a block is a place for a key, and a mark of byte order may begin it. -/
def skipGaps : Nat → Lexer → Lexer
  | 0, l => l
  | fuel + 1, l =>
    let isBlank (c : Char) : Bool := c = ' ' || (c = '\t' && (l.inFlow || !l.keyAllowed))
    let c := if l.column = 0 ∧ l.cursor.peek? = some '\uFEFF' then l.cursor.advance else l.cursor
    let c := c.skipWhile isBlank
    let c := if c.peek? = some '#' then c.skipWhile (!isBreak ·) else c
    if c.peek?.any isBreak then
      skipGaps fuel { l with cursor := c.advance, keyAllowed := l.keyAllowed || !l.inFlow }
    else { l with cursor := c }

/-- How many bytes behind its start the colon of a key may stand. -/
def keyReach : Nat := 1024

def isStale (now : Mark) (k : KeyPlace) : Bool :=
  k.mark.line < now.line || k.mark.index + keyReach < now.index

def refresh? (now : Mark) : Option KeyPlace → Option (Option KeyPlace)
  | none => some none
  | some k => if isStale now k then (if k.required then none else some none) else some (some k)

def refreshKeys? (l : Lexer) : Option Lexer := do
  let now := l.cursor.mark
  let keyPlace ← refresh? now l.keyPlace
  let outer ← l.outerKeyPlaces.mapM (refresh? now)
  some { l with keyPlace, outerKeyPlaces := outer }

def dropKey? (l : Lexer) : Option Lexer :=
  if l.keyPlace.any KeyPlace.required then none else some { l with keyPlace := none }

def saveKey? (l : Lexer) : Option Lexer :=
  if l.keyAllowed then do
    let l ← l.dropKey?
    let required := !l.inFlow && l.indent = l.column
    some { l with keyPlace := some ⟨l.cursor.mark, l.count, required⟩ }
  else some l

def closeBlocks (column : Int) : Int → List Int → Nat × Int × List Int
  | indent, [] => (0, indent, [])
  | indent, outer :: rest =>
    if column < indent then
      let (closed, state) := closeBlocks column outer rest
      (closed + 1, state)
    else (0, indent, outer :: rest)

def unindent (l : Lexer) (column : Int) : Lexer :=
  if l.inFlow then l
  else
    let (closed, indent, outer) := closeBlocks column l.indent l.outerIndents
    let l := { l with indent, outerIndents := outer }
    (List.replicate closed Token.blockEnd).foldl emit l

def openBlock (l : Lexer) (column position : Nat) (t : Token) : Lexer :=
  if l.inFlow ∨ (column : Int) ≤ l.indent then l
  else { l.emitAt position t with indent := column, outerIndents := l.indent :: l.outerIndents }

def breakOff? (l : Lexer) : Option Lexer := do
  let l ← (l.unindent (-1)).dropKey?
  some (l.allowKey false)

def directive? (l : Lexer) : Option Lexer := do
  let l ← l.breakOff?
  let (token, cursor) ← Property.directive? l.cursor
  some { l.emit token with cursor }

def documentMark? (l : Lexer) (t : Token) : Option Lexer := do
  let l ← l.breakOff?
  some ((l.emit t).advance 3)

def openFlow? (l : Lexer) (t : Token) : Option Lexer := do
  let l ← l.saveKey?
  let l := { l with keyPlace := none, outerKeyPlaces := l.keyPlace :: l.outerKeyPlaces }
  some (((l.allowKey true).emit t).advance 1)

def closeFlow? (l : Lexer) (t : Token) : Option Lexer := do
  let l ← l.dropKey?
  let l :=
    match l.outerKeyPlaces with
    | [] => l
    | keyPlace :: outer => { l with keyPlace, outerKeyPlaces := outer }
  some (((l.allowKey false).emit t).advance 1)

def flowEntry? (l : Lexer) : Option Lexer := do
  let l ← l.dropKey?
  some (((l.allowKey true).emit .flowEntry).advance 1)

def blockEntry? (l : Lexer) : Option Lexer := do
  if !l.inFlow ∧ !l.keyAllowed then none
  let l ← (l.openBlock l.column l.count .blockSequence).dropKey?
  some (((l.allowKey true).emit .blockEntry).advance 1)

def key? (l : Lexer) : Option Lexer := do
  if !l.inFlow ∧ !l.keyAllowed then none
  let l ← (l.openBlock l.column l.count .blockMapping).dropKey?
  some (((l.allowKey (!l.inFlow)).emit .key).advance 1)

def value? (l : Lexer) : Option Lexer :=
  match l.keyPlace with
  | some k =>
    let l := (l.emitAt k.position .key).openBlock k.mark.column k.position .blockMapping
    some ((({ l with keyPlace := none }.allowKey false).emit .value).advance 1)
  | none =>
    if !l.inFlow ∧ !l.keyAllowed then none
    else
      let l := l.openBlock l.column l.count .blockMapping
      some (((l.allowKey (!l.inFlow)).emit .value).advance 1)

def named? (l : Lexer) (t : String → Token) : Option Lexer := do
  let l ← l.saveKey?
  let (name, cursor) ← Property.name? l.cursor.advance
  some { (l.allowKey false).emit (t name) with cursor }

def tag? (l : Lexer) : Option Lexer := do
  let l ← l.saveKey?
  let (token, cursor) ← Property.tag? l.inFlow l.cursor
  some { (l.allowKey false).emit token with cursor }

def scalar (l : Lexer) (lexeme : Lexeme) (plain : Bool) : Lexer :=
  { l.emit (.scalar (String.ofList lexeme.text) plain) with cursor := lexeme.next }

def block? (l : Lexer) (fuel : Nat) (literal : Bool) : Option Lexer := do
  let l ← l.dropKey?
  let lexeme ← Block.text? literal l.indent fuel l.cursor.advance
  some ((l.allowKey true).scalar lexeme false)

def quoted? (l : Lexer) (fuel : Nat) (quote : Char) : Option Lexer := do
  let l ← l.saveKey?
  let lexeme ← Quoted.text? quote fuel l.cursor.advance
  some ((l.allowKey false).scalar lexeme false)

/-- A plain text that ends with a line break is followed by a place for a key. -/
def plain? (l : Lexer) (fuel : Nat) : Option Lexer := do
  let l ← l.saveKey?
  let (lexeme, brokeLine) ← Plain.words? l.inFlow (l.indent + 1) fuel [] l.cursor
  some ((l.allowKey brokeLine).scalar lexeme true)

def startsPlain (inFlow : Bool) (c : Char) (rest : List Char) : Bool :=
  if c = '-' then !rest.head?.any isSpace
  else if c = '?' ∨ c = ':' then !inFlow && !blankFirst rest
  else !isIndicator c && !isGap c

def token? (l : Lexer) (fuel : Nat) (c : Char) (rest : List Char) : Option Lexer :=
  if l.column = 0 ∧ c = '%' then l.directive?
  else if l.cursor.atDocumentMark '-' then l.documentMark? .documentStart
  else if l.cursor.atDocumentMark '.' then l.documentMark? .documentEnd
  else if c = '[' then l.openFlow? .flowSequence
  else if c = '\x7b' then l.openFlow? .flowMapping
  else if c = ']' then l.closeFlow? .flowSequenceEnd
  else if c = '\x7d' then l.closeFlow? .flowMappingEnd
  else if c = ',' then l.flowEntry?
  else if c = '-' ∧ blankFirst rest then l.blockEntry?
  else if c = '?' ∧ (l.inFlow ∨ blankFirst rest) then l.key?
  else if c = ':' ∧ (l.inFlow ∨ blankFirst rest) then l.value?
  else if c = '*' then l.named? .alias
  else if c = '&' then l.named? .anchor
  else if c = '!' then l.tag?
  else if c = '|' ∧ !l.inFlow then l.block? fuel true
  else if c = '>' ∧ !l.inFlow then l.block? fuel false
  else if c = '\'' ∨ c = '"' then l.quoted? fuel c
  else if startsPlain l.inFlow c rest then l.plain? fuel
  else none

def finish? (l : Lexer) : Option Lexer := do
  let l ← l.breakOff?
  some (l.emit .streamEnd)

/-- Reads on up to the end of the next token, and closes the blocks that end before it. -/
def next? (l : Lexer) (limit : Nat) : Option Lexer := do
  let l ← (l.skipGaps limit).refreshKeys?
  let l := l.unindent l.column
  match l.cursor.rest with
  | [] => l.finish?
  | c :: rest => l.token? limit c rest

/-- How many tokens can change no more: a key that is found late goes before its text. -/
def settled (l : Lexer) : Nat :=
  ((l.keyPlace :: l.outerKeyPlaces).filterMap id).foldl (fun n k => min n k.position) l.count

def cut (l : Lexer) (n : Nat) : List Token :=
  (Token.fault :: l.tokens.drop (l.count - n)).reverse

/-- Reads tokens up to the end or to where the text cannot be read on; in that case those that are
not settled are lost. Each token takes at least one character. -/
def run (limit : Nat) : Nat → Nat → Lexer → List Token
  | settled, 0, l => l.cut settled
  | settled, fuel + 1, l =>
    if l.tokens.head? = some .streamEnd then l.tokens.reverse
    else
      match l.refreshKeys? with
      | none => l.cut settled
      | some l =>
        match l.next? limit with
        | none => l.cut l.settled
        | some next => run limit l.settled fuel next

end Lexer

def tokens (text : String) : List Token :=
  let cs := text.toList
  if cs.all isAllowed then
    let fuel := cs.length + 2
    Lexer.run fuel 0 fuel (.start (plainBreaks cs))
  else [.fault]

end StatusWatch.Yaml
