import StatusWatch.Json

/-!
Reading JSON text, in two steps. `Spelled.read?` checks the grammar alone and keeps what is
written: the fields of objects in their order, with repeats, and at each scalar the value that
it denotes, if there is one. Readers of records work on that tree and pass over what they do not
know. `Json.parse?` asks for a value at every place, and limits the depth.
-/

namespace StatusWatch

/-- A JSON text as it is spelled. A number out of range and a string with half a surrogate pair
are well-formed and denote nothing. -/
inductive Spelled where
  | null
  | bool (value : Bool)
  | num (value : Option Number)
  | str (value : Option String)
  | arr (items : List Spelled)
  | obj (fields : List (Option String × Spelled))
  deriving Repr, Inhabited

namespace Spelled.Reader

def isBlank (c : Char) : Bool :=
  c = ' ' || c = '\n' || c = '\t' || c = '\r'

def skipBlanks (text : List Char) : List Char :=
  text.dropWhile isBlank

def digitValue (c : Char) : Nat :=
  c.toNat - '0'.toNat

def hexValue? (c : Char) : Option Nat :=
  if c.isDigit then some (c.toNat - '0'.toNat)
  else if 'a' ≤ c ∧ c ≤ 'f' then some (c.toNat - 'a'.toNat + 10)
  else if 'A' ≤ c ∧ c ≤ 'F' then some (c.toNat - 'A'.toNat + 10)
  else none

def hexWord? : List Char → Option (Nat × List Char)
  | a :: b :: c :: d :: rest => do
    let a ← hexValue? a
    let b ← hexValue? b
    let c ← hexValue? c
    let d ← hexValue? d
    some (((a * 16 + b) * 16 + c) * 16 + d, rest)
  | _ => none

/-- The character that an escape's word stands for, and the text left. The first half of a pair
takes a second half with it if one follows. -/
def unicodeEscape (word : Nat) (text : List Char) : Option Char × List Char :=
  if 0xDC00 ≤ word ∧ word ≤ 0xDFFF then (none, text)
  else if 0xD800 ≤ word ∧ word ≤ 0xDBFF then
    let second : Option (Nat × List Char) :=
      match text with
      | '\\' :: 'u' :: more => hexWord? more
      | _ => none
    match second with
    | some (low, rest) =>
      if 0xDC00 ≤ low ∧ low ≤ 0xDFFF then
        (some (Char.ofNat (0x10000 + (word - 0xD800) * 0x400 + (low - 0xDC00))), rest)
      else (none, text)
    | none => (none, text)
  else (some (Char.ofNat word), text)

def simpleEscape? (c : Char) : Option Char :=
  match c with
  | '"' => some '"'
  | '\\' => some '\\'
  | '/' => some '/'
  | 'b' => some '\x08'
  | 'f' => some '\x0c'
  | 'n' => some '\n'
  | 'r' => some '\r'
  | 't' => some '\t'
  | _ => none

/-- The rest of a string after its opening quote; `done` holds its characters backwards, if all of
them are characters. One unit of fuel for each character of the text is enough. -/
def stringBody? (done : Option (List Char)) : Nat → List Char → Option (Option String × List Char)
  | 0, _ => none
  | _, [] => none
  | _, '"' :: rest => some (done.map fun cs => String.ofList cs.reverse, rest)
  | fuel + 1, '\\' :: 'u' :: rest => do
    let (word, rest) ← hexWord? rest
    let (c, rest) := unicodeEscape word rest
    stringBody? (do some ((← c) :: (← done))) fuel rest
  | fuel + 1, '\\' :: e :: rest => do
    let c ← simpleEscape? e
    stringBody? (done.map (c :: ·)) fuel rest
  | fuel + 1, c :: rest =>
    if c = '\\' ∨ c.toNat < 32 then none else stringBody? (done.map (c :: ·)) fuel rest

/-- Takes digits into a significand of 64 bits while they fit, and counts the ones left over. -/
def takeDigits (significand : Nat) : List Char → Nat × Nat
  | [] => (significand, 0)
  | d :: rest =>
    let next := significand * 10 + digitValue d
    if next < Number.unsignedBound then takeDigits next rest else (significand, rest.length + 1)

def decimalValue (digits : List Char) : Nat :=
  digits.foldl (fun n d => n * 10 + digitValue d) 0

/-- The exponent behind `e`: a sign if any, and at least one digit. -/
def exponent? (text : List Char) : Option (Int × List Char) :=
  let (sign, rest) : Int × List Char :=
    match text with
    | '+' :: rest => (1, rest)
    | '-' :: rest => (-1, rest)
    | _ => (1, text)
  let digits := rest.takeWhile Char.isDigit
  if digits.isEmpty then none
  else some (sign * decimalValue digits, rest.dropWhile Char.isDigit)

def fraction? (text : List Char) : Option (List Char × List Char) :=
  let digits := text.takeWhile Char.isDigit
  if digits.isEmpty then none else some (digits, text.dropWhile Char.isDigit)

def signedDouble (negative : Bool) (x : Binary64) : Number :=
  .double { x with negative := negative }

/-- A literal without fraction and exponent that fits 64 bits is an integer, except for `-0`. All
others are a significand of at most 64 bits, scaled by a power of ten. -/
def number? (text : List Char) : Option (Option Number × List Char) := do
  let (negative, text) :=
    match text with
    | '-' :: rest => (true, rest)
    | _ => (false, text)
  let whole := text.takeWhile Char.isDigit
  let rest := text.dropWhile Char.isDigit
  if whole.isEmpty ∨ (whole.head? = some '0' ∧ whole.length ≠ 1) then none
  let (significand, dropped) := takeDigits 0 whole
  let scaled (significand : Nat) (exponent : Int) : Option Number :=
    (Binary64.ofScaled? significand exponent).map (signedDouble negative)
  match rest with
  | '.' :: rest =>
    let (digits, rest) ← fraction? rest
    let (significand, unused) := takeDigits significand digits
    let exponent : Int := dropped - (digits.length - unused : Nat)
    match rest with
    | 'e' :: rest | 'E' :: rest =>
      let (shift, rest) ← exponent? rest
      some (scaled significand (exponent + shift), rest)
    | _ => some (scaled significand exponent, rest)
  | 'e' :: rest | 'E' :: rest =>
    let (shift, rest) ← exponent? rest
    some (scaled significand (dropped + shift), rest)
  | _ =>
    if dropped ≠ 0 then some (scaled significand dropped, rest)
    else if !negative then some (some (.int significand), rest)
    else if significand = 0 ∨ Number.signedBound < significand then
      some (some (signedDouble true (.ofNat significand)), rest)
    else some (some (.int (-significand)), rest)

def literal? (word : String) (value : Spelled) (text : List Char) :
    Option (Spelled × List Char) :=
  if word.toList.isPrefixOf text then some (value, text.drop word.length) else none

mutual

/-- One value at the head of the text. Each call takes at least one character or hands
over to one that does, so twice the length of the text is fuel enough. -/
def value? : Nat → List Char → Option (Spelled × List Char)
  | 0, _ => none
  | fuel + 1, text =>
    match skipBlanks text with
    | [] => none
    | '"' :: rest => do
      let (s, rest) ← stringBody? (some []) (rest.length + 1) rest
      some (.str s, rest)
    | '[' :: rest =>
      match skipBlanks rest with
      | ']' :: rest => some (.arr [], rest)
      | rest => do
        let (items, rest) ← items? fuel rest
        some (.arr items, rest)
    | '\x7b' :: rest =>
      match skipBlanks rest with
      | '\x7d' :: rest => some (.obj [], rest)
      | rest => do
        let (fields, rest) ← fields? fuel rest
        some (.obj fields, rest)
    | 't' :: rest => literal? "rue" (.bool true) rest
    | 'f' :: rest => literal? "alse" (.bool false) rest
    | 'n' :: rest => literal? "ull" .null rest
    | text => do
      let (n, rest) ← number? text
      some (.num n, rest)

def items? : Nat → List Char → Option (List Spelled × List Char)
  | 0, _ => none
  | fuel + 1, text => do
    let (item, rest) ← value? fuel text
    match skipBlanks rest with
    | ',' :: rest => do
      let (items, rest) ← items? fuel rest
      some (item :: items, rest)
    | ']' :: rest => some ([item], rest)
    | _ => none

def fields? : Nat → List Char → Option (List (Option String × Spelled) × List Char)
  | 0, _ => none
  | fuel + 1, text =>
    match skipBlanks text with
    | '"' :: rest => do
      let (name, rest) ← stringBody? (some []) (rest.length + 1) rest
      match skipBlanks rest with
      | ':' :: rest => do
        let (value, rest) ← value? fuel rest
        match skipBlanks rest with
        | ',' :: rest => do
          let (fields, rest) ← fields? fuel rest
          some ((name, value) :: fields, rest)
        | '\x7d' :: rest => some ([(name, value)], rest)
        | _ => none
      | _ => none
    | _ => none

end

end Reader

def read? (text : String) : Option Spelled := do
  let cs := text.toList
  let (tree, rest) ← Reader.value? (2 * cs.length + 2) cs
  if (Reader.skipBlanks rest).isEmpty then some tree else none

mutual

/-- The value of a tree in which every scalar and every name denotes something and at most
`depth` arrays and objects stand inside one another. -/
def toJson? (depth : Nat) : Spelled → Option Json
  | .null => some .null
  | .bool b => some (.bool b)
  | .num n => n.map .num
  | .str s => s.map .str
  | .arr items =>
    match depth with
    | 0 => none
    | depth + 1 => (itemValues? depth items).map .arr
  | .obj fields =>
    match depth with
    | 0 => none
    | depth + 1 => (fieldValues? depth fields).map .object

def itemValues? (depth : Nat) : List Spelled → Option (List Json)
  | [] => some []
  | item :: rest => do some ((← item.toJson? depth) :: (← itemValues? depth rest))

def fieldValues? (depth : Nat) : List (Option String × Spelled) → Option (List (String × Json))
  | [] => some []
  | (name, value) :: rest => do
    some ((← name, ← value.toJson? depth) :: (← fieldValues? depth rest))

end

end Spelled

namespace Json

def depthLimit : Nat := 127

def parse? (text : String) : Option Json :=
  (Spelled.read? text).bind (·.toJson? depthLimit)

end Json

end StatusWatch
