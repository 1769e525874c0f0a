import StatusWatch.Text.Width

/-!
Letters that melt into the one before them: lam and alef in Arabic script, and pairs of Hebrew,
Khmer, Buginese, Tifinagh, Lisu, Old Turkic and Kirat Rai. A text is read from its end, so a
pair is known by its second letter first. Some pairs melt only where a joiner stands between.
-/

namespace StatusWatch.Text

def joiner : Char := '\u200D'

def partingBounds : List Nat := [
  0x605, 0x606, 0x890, 0x892, 0x8e2, 0x8e3, 0x9be, 0x9bf, 0x9d7, 0x9d8, 0xb3e, 0xb3f, 0xb53, 0xb55,
  0xb57, 0xb58, 0xbbe, 0xbbf, 0xbd7, 0xbd8, 0xcc0, 0xcc1, 0xcc2, 0xcc3, 0xcc7, 0xcc9, 0xcca, 0xccc,
  0xcd5, 0xcd7, 0xd3e, 0xd3f, 0xd4e, 0xd4f, 0xd57, 0xd58, 0xdcf, 0xdd0, 0xddf, 0xde0, 0x1160,
  0x1200, 0x1715, 0x1716, 0x1734, 0x1735, 0x180e, 0x180f, 0x1b35, 0x1b36, 0x1b3b, 0x1b3c, 0x1b3d,
  0x1b3e, 0x1b43, 0x1b45, 0x1baa, 0x1bab, 0x1bf2, 0x1bf4, 0x200c, 0x200e, 0x2065, 0x206a, 0x302e,
  0x3030, 0x3164, 0x3165, 0xa8fa, 0xa8fb, 0xa953, 0xa954, 0xa9c0, 0xa9c1, 0xd7b0, 0xd7c7, 0xd7cb,
  0xd7fc, 0xffa0, 0xffa1, 0xfff0, 0xfff9, 0x111c0, 0x111c1, 0x111c2, 0x111c4, 0x11235, 0x11236,
  0x1133e, 0x1133f, 0x1134d, 0x1134e, 0x11357, 0x11358, 0x113b8, 0x113b9, 0x113c2, 0x113c3, 0x113c5,
  0x113c6, 0x113c7, 0x113ca, 0x113cf, 0x113d0, 0x113d1, 0x113d2, 0x114b0, 0x114b1, 0x114bd, 0x114be,
  0x115af, 0x115b0, 0x116b6, 0x116b7, 0x11930, 0x11931, 0x1193d, 0x1193e, 0x1193f, 0x11940, 0x11941,
  0x11942, 0x11a84, 0x11a8a, 0x11d46, 0x11d47, 0x11f02, 0x11f03, 0x11f41, 0x11f42, 0x16ff0, 0x16ff2,
  0x1d165, 0x1d167, 0x1d16d, 0x1d173, 0xe0000, 0xe0001, 0xe0002, 0xe0020, 0xe0080, 0xe0100, 0xe01f0,
  0xe1000]

def isLam (c : Char) : Bool :=
  c.toNat ∈ [0x644, 0x6B5, 0x6B6, 0x6B7, 0x6B8, 0x76A, 0x8A6, 0x8C7]

def isAlef (c : Char) : Bool :=
  c.toNat ∈ [0x622, 0x623, 0x625, 0x627, 0x671, 0x672, 0x673, 0x675, 0x773, 0x774] ||
    (0x870 ≤ c.toNat && c.toNat ≤ 0x882)

/-- Marks that may stand between lam and alef. -/
def isArabicTransparent (c : Char) : Bool :=
  columnsOf c = 0 && !inRanges partingBounds c.toNat

/-- Selectors and the few other signs that may stand between the letters of the other scripts. -/
def isTransparent (c : Char) : Bool :=
  inRanges [0x34F, 0x350, 0x17B4, 0x17B6, 0x180B, 0x180E, 0x180F, 0x1810, 0xFE00, 0xFE10,
    0xE0100, 0xE01F0] c.toNat

def isTifinagh (c : Char) : Bool :=
  inRanges [0x2D31, 0x2D66, 0x2D6F, 0x2D70] c.toNat

/-- Khmer letters that have a form below the line. -/
def hasSubscript (c : Char) : Bool :=
  inRanges [0x1780, 0x1783, 0x1784, 0x1788, 0x1789, 0x178D, 0x178E, 0x1794, 0x1795, 0x1799,
    0x179B, 0x179E, 0x17A0, 0x17A1, 0x17A2, 0x17A3, 0x17A7, 0x17A8, 0x17AB, 0x17AD, 0x17AF,
    0x17B0] c.toNat

inductive Ending where
  | lamed
  | ya
  | vowelYa
  | tifinagh
  | tifinaghJoined
  | lisuTone
  | orkhonI
  | subscript
  deriving DecidableEq

def Ending.ofChar? (c : Char) : Option Ending :=
  if c = '\u05DC' then some .lamed
  else if c = '\u1A10' then some .ya
  else if isTifinagh c then some .tifinagh
  else if c = '\uA4FC' ∨ c = '\uA4FD' then some .lisuTone
  else if c.toNat = 0x10C03 then some .orkhonI
  else if hasSubscript c then some .subscript
  else none

/-- The columns that a character adds before an ending with which it is drawn as one, and the
ending that this makes, if any. `joined` says whether a joiner stands between the two. -/
def Ending.meld? (ending : Ending) (joined : Bool) (c : Char) : Option (Int × Option Ending) :=
  match ending with
  | .lamed => if joined ∧ c = '\u05D0' then some (0, none) else none
  | .ya => if joined ∧ c = '\u1A17' then some (0, some .vowelYa) else none
  | .vowelYa => if c = '\u1A15' then some (0, none) else none
  | .tifinagh =>
    if c = '\u2D7F' then some (1, some .tifinaghJoined)
    else if joined ∧ isTifinagh c then some (0, none)
    else none
  | .tifinaghJoined => if isTifinagh c then some (-1, none) else none
  | .lisuTone => if '\uA4F8' ≤ c ∧ c ≤ '\uA4FB' then some (0, none) else none
  | .orkhonI => if joined ∧ c.toNat = 0x10C32 then some (0, none) else none
  | .subscript => if c = '\u17D2' then some (-1, none) else none

end StatusWatch.Text
