/-!
Addresses of servers: a host, with a scheme in front of it or not. With a scheme, a path and a query
may follow the host; without one the whole address is a host or a path.
-/

namespace StatusWatch.Kubeconfig

structure HostScan where
  colons : Nat
  opened : Bool
  closed : Bool
  percent : Bool
  afterAt : Bool

namespace HostScan

def start : HostScan := ⟨0, false, false, false, false⟩

/-- Brackets come in one pair, no more than one colon and no percent sign stand outside of it, and
something follows the name of a user. -/
def isHost (s : HostScan) : Bool :=
  s.opened == s.closed && s.colons ≤ 1 && !s.percent && !s.afterAt

def isHostChar (c : Char) : Bool :=
  c.isAlphanum ||
    c ∈ ['!', '$', '&', '\'', '(', ')', '*', '+', ',', '-', '.', ';', '=', '_', '~']

def step? (s : HostScan) (c : Char) : Option HostScan :=
  match c with
  | ':' => some { s with colons := s.colons + 1, afterAt := false }
  | '[' => if s.percent ∨ s.opened then none else some { s with opened := true, afterAt := false }
  | ']' => if !s.opened ∨ s.closed then none else some ⟨0, s.opened, true, false, false⟩
  | '@' => some { s with colons := 0, percent := false, afterAt := true }
  | '%' => some { s with percent := true, afterAt := false }
  | c => if isHostChar c then some { s with afterAt := false } else none

end HostScan

def endsHost (c : Char) : Bool :=
  c = '/' || c = '?' || c = '#'

def isHost (text : List Char) : Bool :=
  (text.foldlM HostScan.step? .start).any HostScan.isHost

def isPathChar (c : Char) : Bool :=
  0x20 < c.toNat && c ∉ ['<', '>', '\x60', '\x7f']

def isQueryChar (c : Char) : Bool :=
  0x20 < c.toNat && c ∉ ['"', '<', '>', '\x7f']

/-- A path, with a query behind its first question mark; what a number sign begins is passed
over. -/
def isPath (text : List Char) : Bool :=
  let text := text.takeWhile (· ≠ '#')
  (text.takeWhile (· ≠ '?')).all isPathChar && (text.dropWhile (· ≠ '?')).all isQueryChar

def isSchemeChar (c : Char) : Bool :=
  c.isAlphanum || c ∈ ['+', '-', '.']

def schemeLimit : Nat := 64

def behindScheme? (text : List Char) : Option (List Char) :=
  match text.dropWhile isSchemeChar with
  | ':' :: '/' :: '/' :: rest => some rest
  | _ => none

def isAddress (address : String) : Bool :=
  let text := address.toList
  match text with
  | [] => false
  | ['*'] => true
  | '/' :: _ => isPath text
  | _ =>
    match behindScheme? text with
    | none => isHost text
    | some rest =>
      (text.takeWhile isSchemeChar).length ≤ schemeLimit &&
        !(rest.takeWhile (!endsHost ·)).isEmpty && isHost (rest.takeWhile (!endsHost ·)) &&
        isPath (rest.dropWhile (!endsHost ·))

example :
    isAddress "k8s://[::1]:80/api?x=<" = false ∧ isAddress "k8s://u@h:443/a\x7bb\x7d" = true ∧
      isAddress "a b" = false ∧ isAddress "localhost:8080" = true := by
  decide +kernel

end StatusWatch.Kubeconfig
