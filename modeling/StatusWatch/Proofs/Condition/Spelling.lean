import StatusWatch.Condition.Parser

/-!
The grammar of conditions: which texts spell a predicate. Fields stand behind a dot or in quotes,
numbers are integers of 64 signed bits, and blanks stand around operands and comparisons and within
brackets. Every predicate whose numbers are such integers has a spelling.
-/

namespace StatusWatch.Condition

open Text (isBlank)

def Blank (text : List Char) : Prop :=
  ∀ c ∈ text, isBlank c = true

structure IsName (name : List Char) : Prop where
  nonempty : name ≠ []
  plain : ∀ c ∈ name, Parser.isNameChar c = true
  start : name.head? ≠ some '*'

/-- What may stand between quotes for a value: its characters, each behind a backslash if need be. -/
inductive Quoted (quote : Char) : List Char → List Char → Prop
  | nil : Quoted quote [] []
  | plain {c : Char} {value text : List Char} (inside : c ≠ quote) (escape : c ≠ '\\')
      (rest : Quoted quote value text) : Quoted quote (c :: value) (c :: text)
  | escaped {c : Char} {value text : List Char} (rest : Quoted quote value text) :
      Quoted quote (c :: value) ('\\' :: c :: text)

inductive Literal.Quotes : String → List Char → Prop
  | mk {quote : Char} {value : String} {text : List Char} (either : quote = '\'' ∨ quote = '"')
      (inside : Quoted quote value.toList text) : Quotes value (quote :: (text ++ [quote]))

inductive Decimal : Int → List Char → Prop
  | positive {digits : List Char} (some : digits ≠ []) (all : ∀ d ∈ digits, d.isDigit = true) :
      Decimal (Nat.ofDigitChars 10 digits 0) digits
  | negative {digits : List Char} (some : digits ≠ []) (all : ∀ d ∈ digits, d.isDigit = true) :
      Decimal (-(Nat.ofDigitChars 10 digits 0 : Int)) ('-' :: digits)

def IsInt64 (i : Int) : Prop :=
  -(Number.signedBound : Int) ≤ i ∧ i < Number.signedBound

instance (i : Int) : Decidable (IsInt64 i) :=
  inferInstanceAs (Decidable (_ ∧ _))

mutual

inductive Path.Spelled : Path → List Char → Prop
  | document {segments : List Segment} {text : List Char} (h : Segment.AllSpelled segments text) :
      Path.Spelled (.mk .document segments) ('$' :: text)
  | item {segments : List Segment} {text : List Char} (h : Segment.AllSpelled segments text) :
      Path.Spelled (.mk .item segments) ('@' :: text)

inductive Segment.AllSpelled : List Segment → List Char → Prop
  | nil : Segment.AllSpelled [] []
  | cons {segment : Segment} {more : List Segment} {first others : List Char}
      (h : Segment.Spelled segment first) (hs : Segment.AllSpelled more others) :
      Segment.AllSpelled (segment :: more) (first ++ others)

inductive Segment.Spelled : Segment → List Char → Prop
  | name {name : List Char} (h : IsName name) :
      Segment.Spelled (.field (String.ofList name)) ('.' :: name)
  | star : Segment.Spelled .wildcard ['.', '*']
  | bracket {segment : Segment} {before inside after : List Char} (blank : Blank before)
      (h : Segment.Bracketed segment inside) (blank' : Blank after) :
      Segment.Spelled segment ('[' :: (before ++ (inside ++ (after ++ [']']))))

inductive Segment.Bracketed : Segment → List Char → Prop
  | name {name : String} {text : List Char} (h : Literal.Quotes name text) :
      Segment.Bracketed (.field name) text
  | index {i : Int} {text : List Char} (fits : IsInt64 i) (h : Decimal i text) :
      Segment.Bracketed (.index i) text
  | star : Segment.Bracketed .wildcard ['*']
  | filter {p : Predicate} {between text : List Char} (blank : Blank between)
      (h : Predicate.Spelled p text) :
      Segment.Bracketed (.filter p) ('?' :: (between ++ '(' :: (text ++ [')'])))

inductive Predicate.Spelled : Predicate → List Char → Prop
  | present {path : Path} {before text after : List Char} (blank : Blank before)
      (h : Path.Spelled path text) (blank' : Blank after) :
      Predicate.Spelled (.present path) (before ++ (text ++ after))
  | compare {left right : Operand} {comparison : Comparison}
      {before first between between' second after : List Char} (blank : Blank before)
      (hl : Operand.Spelled left first) (blankl : Blank between) (blankr : Blank between')
      (hr : Operand.Spelled right second) (blank' : Blank after) :
      Predicate.Spelled (.compare left comparison right)
        (before ++ (first ++ (between ++ (comparison.symbol.toList ++
          (between' ++ (second ++ after))))))

inductive Operand.Spelled : Operand → List Char → Prop
  | path {path : Path} {text : List Char} (h : Path.Spelled path text) :
      Operand.Spelled (.path path) text
  | text {value : String} {text : List Char} (h : Literal.Quotes value text) :
      Operand.Spelled (.literal (.text value)) text
  | number {i : Int} {text : List Char} (fits : IsInt64 i) (h : Decimal i text) :
      Operand.Spelled (.literal (.number (.int i))) text
  | yes : Operand.Spelled (.literal (.flag true)) ['t', 'r', 'u', 'e']
  | no : Operand.Spelled (.literal (.flag false)) ['f', 'a', 'l', 's', 'e']

end

section Existence

mutual

def Path.Integral : Path → Prop
  | .mk _ segments => Segment.AllIntegral segments

def Segment.AllIntegral : List Segment → Prop
  | [] => True
  | segment :: more => segment.Integral ∧ Segment.AllIntegral more

def Segment.Integral : Segment → Prop
  | .field _ => True
  | .index i => IsInt64 i
  | .wildcard => True
  | .filter p => p.Integral

def Predicate.Integral : Predicate → Prop
  | .present path => path.Integral
  | .compare left _ right => left.Integral ∧ right.Integral

def Operand.Integral : Operand → Prop
  | .path path => path.Integral
  | .literal (.number (.int i)) => IsInt64 i
  | .literal (.number (.double _)) => False
  | .literal (.text _) => True
  | .literal (.flag _) => True

end

theorem exists_quoted (quote : Char) (value : List Char) : ∃ text, Quoted quote value text := by
  induction value with
  | nil => exact ⟨[], .nil⟩
  | cons c value ih =>
    obtain ⟨text, rest⟩ := ih
    exact ⟨'\\' :: c :: text, .escaped rest⟩

theorem exists_quotes (value : String) : ∃ text, Literal.Quotes value text := by
  obtain ⟨text, inside⟩ := exists_quoted '"' value.toList
  exact ⟨_, .mk (.inr rfl) inside⟩

theorem exists_decimal (i : Int) : ∃ text, Decimal i text := by
  have some : Nat.toDigits 10 i.natAbs ≠ [] := Nat.toDigits_ne_nil
  have all : ∀ d ∈ Nat.toDigits 10 i.natAbs, d.isDigit = true :=
    fun d mem => Nat.isDigit_of_mem_toDigits (by decide) (by decide) mem
  have value : Nat.ofDigitChars 10 (Nat.toDigits 10 i.natAbs) 0 = i.natAbs :=
    Nat.ofDigitChars_ten_toDigits
  rcases Int.natAbs_eq i with same | same
  · have spelled := Decimal.positive some all
    rw [value, ← same] at spelled
    exact ⟨_, spelled⟩
  · have spelled := Decimal.negative some all
    rw [value, ← same] at spelled
    exact ⟨_, spelled⟩

theorem blank_nil : Blank [] := nofun

mutual

theorem Path.exists_spelled : ∀ path : Path, path.Integral → ∃ text, path.Spelled text
  | .mk .document segments, integral => by
    obtain ⟨text, spelled⟩ := Segment.exists_allSpelled segments integral
    exact ⟨_, .document spelled⟩
  | .mk .item segments, integral => by
    obtain ⟨text, spelled⟩ := Segment.exists_allSpelled segments integral
    exact ⟨_, .item spelled⟩

theorem Segment.exists_allSpelled :
    ∀ segments : List Segment, Segment.AllIntegral segments →
      ∃ text, Segment.AllSpelled segments text
  | [], _ => ⟨[], .nil⟩
  | segment :: more, integral => by
    obtain ⟨inside, bracketed⟩ := segment.exists_bracketed integral.1
    obtain ⟨others, spelled⟩ := Segment.exists_allSpelled more integral.2
    exact ⟨_, .cons (.bracket blank_nil bracketed blank_nil) spelled⟩

theorem Segment.exists_bracketed :
    ∀ segment : Segment, segment.Integral → ∃ text, segment.Bracketed text
  | .field name, _ => by
    obtain ⟨text, quotes⟩ := exists_quotes name
    exact ⟨text, .name quotes⟩
  | .index i, fits => by
    obtain ⟨text, decimal⟩ := exists_decimal i
    exact ⟨text, .index fits decimal⟩
  | .wildcard, _ => ⟨_, .star⟩
  | .filter p, integral => by
    obtain ⟨text, spelled⟩ := p.exists_spelled integral
    exact ⟨_, .filter blank_nil spelled⟩

theorem Predicate.exists_spelled : ∀ p : Predicate, p.Integral → ∃ text, p.Spelled text
  | .present path, integral => by
    obtain ⟨text, spelled⟩ := path.exists_spelled integral
    exact ⟨_, .present blank_nil spelled blank_nil⟩
  | .compare left comparison right, integral => by
    obtain ⟨first, spelledl⟩ := left.exists_spelled integral.1
    obtain ⟨second, spelledr⟩ := right.exists_spelled integral.2
    exact ⟨_, .compare blank_nil spelledl blank_nil blank_nil spelledr blank_nil⟩

theorem Operand.exists_spelled : ∀ operand : Operand, operand.Integral → ∃ text, operand.Spelled text
  | .path path, integral => by
    obtain ⟨text, spelled⟩ := path.exists_spelled integral
    exact ⟨text, .path spelled⟩
  | .literal (.number (.int i)), fits => by
    obtain ⟨text, decimal⟩ := exists_decimal i
    exact ⟨text, .number fits decimal⟩
  | .literal (.text value), _ => by
    obtain ⟨text, quotes⟩ := exists_quotes value
    exact ⟨text, .text quotes⟩
  | .literal (.flag true), _ => ⟨_, .yes⟩
  | .literal (.flag false), _ => ⟨_, .no⟩

end

mutual

theorem Path.Spelled.integral {path : Path} {text : List Char} : path.Spelled text → path.Integral
  | .document h => h.integral
  | .item h => h.integral

theorem Segment.AllSpelled.integral {segments : List Segment} {text : List Char} :
    Segment.AllSpelled segments text → Segment.AllIntegral segments
  | .nil => trivial
  | .cons h hs => ⟨h.integral, hs.integral⟩

theorem Segment.Spelled.integral {segment : Segment} {text : List Char} :
    segment.Spelled text → segment.Integral
  | .name _ => trivial
  | .star => trivial
  | .bracket _ h _ => h.integral

theorem Segment.Bracketed.integral {segment : Segment} {text : List Char} :
    segment.Bracketed text → segment.Integral
  | .name _ => trivial
  | .index fits _ => fits
  | .star => trivial
  | .filter _ h => h.integral

theorem Predicate.Spelled.integral {p : Predicate} {text : List Char} : p.Spelled text → p.Integral
  | .present _ h _ => h.integral
  | .compare _ hl _ _ hr _ => ⟨hl.integral, hr.integral⟩

theorem Operand.Spelled.integral {operand : Operand} {text : List Char} :
    operand.Spelled text → operand.Integral
  | .path h => h.integral
  | .text _ => trivial
  | .number fits _ => fits
  | .yes => trivial
  | .no => trivial

end

end Existence

end StatusWatch.Condition
