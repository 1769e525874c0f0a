import StatusWatch.Json
import StatusWatch.Binary64.Shortest

/-!
Writing JSON: on one line without blanks, or with one entry a line and two blanks an indent.
-/

namespace StatusWatch.Json

/-- Quotes, backslashes and control characters are escaped; all else is written as it is. -/
def escapeChar (c : Char) : List Char :=
  let hex (n : Nat) : Char := Nat.digitChar n
  if c = '"' then ['\\', '"']
  else if c = '\\' then ['\\', '\\']
  else if c = '\n' then ['\\', 'n']
  else if c = '\r' then ['\\', 'r']
  else if c = '\t' then ['\\', 't']
  else if c = '\x08' then ['\\', 'b']
  else if c = '\x0c' then ['\\', 'f']
  else if c.toNat < 32 then ['\\', 'u', '0', '0', hex (c.toNat / 16), hex (c.toNat % 16)]
  else [c]

def quote (s : String) : String :=
  "\"" ++ String.ofList (s.toList.flatMap escapeChar) ++ "\""

end StatusWatch.Json

namespace StatusWatch

def Number.toText : Number → String
  | .int i => toString i
  | .double x => x.toText

namespace Json

mutual

def toText : Json → String
  | .null => "null"
  | .bool b => if b then "true" else "false"
  | .num n => n.toText
  | .str s => quote s
  | .arr items => "[" ++ ",".intercalate (itemTexts items) ++ "]"
  | .obj fields => "\x7b" ++ ",".intercalate (fieldTexts fields) ++ "\x7d"

def itemTexts : List Json → List String
  | [] => []
  | item :: rest => item.toText :: itemTexts rest

def fieldTexts : List (String × Json) → List String
  | [] => []
  | (name, value) :: rest => (quote name ++ ":" ++ value.toText) :: fieldTexts rest

end

def block (opening closing : String) (indent : Nat) (entries : List String) : String :=
  let pad (n : Nat) : String := "".pushn ' ' (2 * n)
  if entries.isEmpty then opening ++ closing
  else
    let lines := entries.map fun entry => pad (indent + 1) ++ entry
    opening ++ "\n" ++ ",\n".intercalate lines ++ "\n" ++ pad indent ++ closing

mutual

def prettyAt (indent : Nat) : Json → String
  | .arr items => block "[" "]" indent (prettyItems (indent + 1) items)
  | .obj fields => block "\x7b" "\x7d" indent (prettyFields (indent + 1) fields)
  | .null => "null"
  | .bool b => if b then "true" else "false"
  | .num n => n.toText
  | .str s => quote s

def prettyItems (indent : Nat) : List Json → List String
  | [] => []
  | item :: rest => prettyAt indent item :: prettyItems indent rest

def prettyFields (indent : Nat) : List (String × Json) → List String
  | [] => []
  | (name, value) :: rest =>
    (quote name ++ ": " ++ prettyAt indent value) :: prettyFields indent rest

end

def pretty (value : Json) : String :=
  prettyAt 0 value

end Json

end StatusWatch
