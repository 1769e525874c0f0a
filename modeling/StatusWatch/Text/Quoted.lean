import StatusWatch.Text.Unprintable
import StatusWatch.Text.Combining

/-!
Text between double quotes, as messages show it: quotes and backslashes are escaped, so are
line ends, tabs and NUL, and whatever has no glyph of its own is written as its code point.
-/

namespace StatusWatch.Text

def escapeChar (c : Char) : List Char :=
  if c = '"' then ['\\', '"']
  else if c = '\\' then ['\\', '\\']
  else if c = '\n' then ['\\', 'n']
  else if c = '\r' then ['\\', 'r']
  else if c = '\t' then ['\\', 't']
  else if c = '\x00' then ['\\', '0']
  else if ' ' ≤ c ∧ c ≤ '~' then [c]
  else if isCombining c ∨ isUnprintable c then
    ['\\', 'u', '\x7b'] ++ Nat.toDigits 16 c.toNat ++ ['\x7d']
  else [c]

def quoted (s : String) : String :=
  String.ofList ('"' :: (s.toList.flatMap escapeChar ++ ['"']))

end StatusWatch.Text
