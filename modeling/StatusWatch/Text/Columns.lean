import StatusWatch.Text.Ligature
import StatusWatch.Text.Emoji

/-!
How many columns a text takes on a terminal: the columns of its characters, less what is saved
where several are drawn as one (ligatures, joined pictures, an emoji and its skin tone, flags),
and with regard to selectors, which ask for the character before them to be shown as text, as a
picture or in full width. The text is read from its end, since what follows decides how a
character is drawn.
-/

namespace StatusWatch.Text

inductive Selector where
  | text
  | picture
  | wide
  deriving DecidableEq

def Selector.ofChar? (c : Char) : Option Selector :=
  if c = '\uFE0E' then some .text
  else if c = '\uFE0F' then some .picture
  else if c = '\uFE01' then some .wide
  else none

inductive Shape where
  | plain
  | lineFeed
  | alef
  | ligature (ending : Ending) (joined : Bool)
  | vowelE
  | vowelAi
  | skinTone
  | flag (letters : Nat)
  | picture
  | joinedPicture (keycap : Bool)
  | joinedFlag (letters : Nat)
  | tags (letters digits : Nat)
  deriving DecidableEq

def Shape.isLigature : Shape → Bool
  | .alef | .ligature _ _ => true
  | _ => false

def Shape.isJoined : Shape → Bool
  | .joinedPicture _ => true
  | _ => false

structure Following where
  shape : Shape
  selector : Option Selector
  deriving DecidableEq

namespace Following

def plain : Following := ⟨.plain, none⟩

def unselected (f : Following) : Shape :=
  if f.selector.isNone ∨ f.shape.isLigature then f.shape else .plain

def select (f : Following) (s : Selector) : Following :=
  let shape := f.unselected
  if shape.isLigature ∨ (s = .picture ∧ shape.isJoined) then ⟨shape, some s⟩
  else ⟨.plain, some s⟩

end Following

def isFlagLetter (c : Char) : Bool :=
  0x1F1E6 ≤ c.toNat && c.toNat ≤ 0x1F1FF

def isTagLetter (c : Char) : Bool :=
  0xE0061 ≤ c.toNat && c.toNat ≤ 0xE007A

def isTagDigit (c : Char) : Bool :=
  0xE0030 ≤ c.toNat && c.toNat ≤ 0xE0039

def Shape.ofChar (c : Char) : Shape :=
  match Ending.ofChar? c with
  | some ending => .ligature ending false
  | none =>
    if isAlef c then .alef
    else if c.toNat = 0x16D67 then .vowelE
    else if c.toNat = 0x16D68 then .vowelAi
    else if isFlagLetter c then .flag 1
    else if isSkinTone c then .skinTone
    else if isPicture c then .picture
    else .plain

/-- The columns that a character adds before a shape with which it is drawn as one, and the shape
that this makes. Of the letters of a joined flag, each second one completes a pair that the
joined picture has covered already. -/
def Shape.meld? (shape : Shape) (c : Char) : Option (Int × Shape) :=
  match shape with
  | .plain | .lineFeed => none
  | .alef =>
    if isLam c then some (0, .plain)
    else if isArabicTransparent c then some (0, .alef)
    else none
  | .ligature ending joined =>
    if c = joiner then some (0, .ligature ending true)
    else if isTransparent c then some (0, shape)
    else
      (ending.meld? joined c).map fun (columns, ending) =>
        (columns, (ending.map (Shape.ligature · true)).getD .plain)
  | .vowelE =>
    if c.toNat = 0x16D63 ∨ c.toNat = 0x16D69 then some (0, .plain)
    else if c.toNat = 0x16D67 then some (0, .vowelAi)
    else if c.toNat = 0x16D68 then some (1, .vowelE)
    else none
  | .vowelAi => if c.toNat = 0x16D63 then some (0, .plain) else none
  | .skinTone =>
    if isToneBase c then some (0, .picture)
    else if c = joiner then some (0, .joinedPicture false)
    else none
  | .flag letters =>
    if isFlagLetter c then some (1, .flag (letters + 1))
    else if c = joiner ∧ 2 ≤ letters then some (0, .joinedPicture false)
    else none
  | .picture => if c = joiner then some (0, .joinedPicture false) else none
  | .joinedPicture true => none
  | .joinedPicture false =>
    if c = '\u20E3' then some (0, .joinedPicture true)
    else if isFlagLetter c then some (1, .joinedFlag 1)
    else if isSkinTone c then some (0, .skinTone)
    else if c.toNat = 0xE007F then some (0, .tags 0 0)
    else if isPicture c then some (0, .picture)
    else none
  | .joinedFlag letters =>
    if isFlagLetter c then
      some (if letters % 2 = 1 then -1 else 3, .joinedFlag (letters + 1))
    else if c = joiner ∧ 2 ≤ letters then some (0, .joinedPicture false)
    else none
  | .tags letters digits =>
    if isTagLetter c ∧ digits = 0 ∧ letters < 6 then some (0, .tags (letters + 1) 0)
    else if isTagDigit c ∧ digits < 3 ∧ (0 < digits ∨ letters ≤ 4) then
      some (0, .tags letters (digits + 1))
    else if c.toNat = 0x1F3F4 ∧ (digits = 3 ∨ (digits = 0 ∧ 3 ≤ letters)) then
      some (0, .picture)
    else none

def isNarrowAsText (c : Char) : Bool :=
  isSelectable c && isPicture c && !(0x1F200 ≤ c.toNat && c.toNat ≤ 0x1F2FF)

def isWidenable (c : Char) : Bool :=
  c ∈ ['\u2018', '\u2019', '\u201C', '\u201D']

/-- The columns that a character adds before what follows it, and what it is to the character
before it. -/
def place (c : Char) (after : Following) : Int × Following :=
  if after.selector = some .picture ∧ isSelectable c then
    (if after.shape.isJoined then 0 else 2, ⟨.picture, none⟩)
  else if c = '\n' then (1, ⟨.lineFeed, none⟩)
  else if c = '\r' ∧ after = ⟨.lineFeed, none⟩ then (0, .plain)
  else if c.toNat ≤ 0xA0 then (1, .plain)
  else
    match Selector.ofChar? c with
    | some s => (0, after.select s)
    | none =>
      if after.selector = some .text ∧ isNarrowAsText c then (1, .plain)
      else if after.selector = some .wide ∧ isWidenable c then (2, .plain)
      else
        match after.unselected.meld? c with
        | some (columns, shape) => (columns, ⟨shape, none⟩)
        | none => (columnsOf c, ⟨Shape.ofChar c, none⟩)

def columnsWith (cs : List Char) : Int × Following :=
  cs.foldr
    (fun c (total, after) =>
      let (columns, before) := place c after
      (total + columns, before))
    (0, .plain)

def columns (s : String) : Nat :=
  (columnsWith s.toList).1.toNat

example : columns "pod" = 3 ∧ columns "\u65e5\u672c" = 4 ∧ columns "e\u0301" = 1 ∧
    columns "\u26a0\ufe0f" = 2 ∧ columns "\u26a0" = 1 ∧
    columns "\u0633\u0644\u0627\u0645" = 3 := by
  decide +kernel

end StatusWatch.Text
