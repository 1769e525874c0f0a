/-!
White space as Unicode has it, and the words of a text.
-/

namespace StatusWatch.Text

/-- The Unicode property White_Space. -/
def isBlank (c : Char) : Bool :=
  let n := c.toNat
  (9 ≤ n && n ≤ 13) || n == 0x20 || n == 0x85 || n == 0xA0 || n == 0x1680 ||
    (0x2000 ≤ n && n ≤ 0x200A) || n == 0x2028 || n == 0x2029 || n == 0x202F || n == 0x205F ||
    n == 0x3000

def isBlankText (s : String) : Bool :=
  s.toList.all isBlank

def skipBlanks (text : List Char) : List Char :=
  text.dropWhile isBlank

example : isBlank '\t' ∧ isBlank ' ' ∧ isBlank '\u3000' ∧ ¬ isBlank 'x' ∧ ¬ isBlank '\u200B' := by
  decide

end StatusWatch.Text
