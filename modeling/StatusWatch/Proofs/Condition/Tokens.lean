import StatusWatch.Proofs.Condition.Spelling
import StatusWatch.Proofs.Condition.Steps

/-!
The tokens of conditions: blanks, names, strings, integers and symbols. Each is read up to its last
character and no further, given that what stands behind it cannot go on with it.
-/

namespace StatusWatch.Condition.Parser

open Text (isBlank skipBlanks)

/-- No token goes on into this text, and neither does a path. -/
def Ends (rest : List Char) : Prop :=
  ∀ c, rest.head? = some c → isNameChar c = false ∧ c ≠ '.' ∧ c ≠ '['

/-- What a text spells is read, wherever the text ends. -/
def Recovers (read : Reads α) (a : α) (text : List Char) : Prop :=
  ∀ rest, Ends rest → read (text ++ rest) = .ok (a, rest)

/-- A text that blanks in front of it lead to, and no comparison goes on into. -/
def Solid (text : List Char) : Prop :=
  ∃ c more, text = c :: more ∧ isBlank c = false ∧ c ≠ '='

theorem solid_cons {c : Char} {more : List Char} (h : isBlank c = false) (apart : c ≠ '=') :
    Solid (c :: more) :=
  ⟨c, more, rfl, h, apart⟩

theorem ends_cons {c : Char} {rest : List Char} (h : isNameChar c = false) (dot : c ≠ '.')
    (opening : c ≠ '[') : Ends (c :: rest) := by
  intro d first
  cases first
  exact ⟨h, dot, opening⟩

theorem Ends.behindBlanks {blanks rest : List Char} (h : Ends rest) (blank : Blank blanks) :
    Ends (blanks ++ rest) := by
  cases blanks with
  | nil => exact h
  | cons c blanks =>
    have here : isBlank c = true := blank c List.mem_cons_self
    refine ends_cons (by simp [isNameChar, here]) ?_ ?_
    · rintro rfl
      cases here
    · rintro rfl
      cases here

theorem span_append {p : Char → Bool} {text rest : List Char} (all : ∀ c ∈ text, p c = true)
    (stop : ∀ c, rest.head? = some c → p c = false) :
    (text ++ rest).takeWhile p = text ∧ (text ++ rest).dropWhile p = rest := by
  rw [List.takeWhile_append_of_pos all, List.dropWhile_append_of_pos all]
  cases rest with
  | nil => simp
  | cons c rest =>
    have here : p c = false := stop c rfl
    simp [here]

theorem skipBlanks_cons {blanks : List Char} {c : Char} (blank : Blank blanks)
    (solid : isBlank c = false) (rest : List Char) :
    skipBlanks (blanks ++ c :: rest) = c :: rest := by
  refine (span_append blank ?_).2
  rintro d ⟨⟩
  exact solid

theorem skipBlanks_solid {blanks text : List Char} (blank : Blank blanks) (solid : Solid text)
    (rest : List Char) : skipBlanks (blanks ++ (text ++ rest)) = text ++ rest := by
  obtain ⟨c, more, rfl, solid, -⟩ := solid
  exact skipBlanks_cons blank solid _

theorem skipBlanks_symbol {blanks : List Char} (blank : Blank blanks) (c : Comparison)
    (rest : List Char) :
    skipBlanks (blanks ++ (c.symbol.toList ++ rest)) = c.symbol.toList ++ rest := by
  cases c <;> exact skipBlanks_cons blank (by decide) _

theorem ends_symbol (c : Comparison) (rest : List Char) : Ends (c.symbol.toList ++ rest) := by
  cases c <;> exact ends_cons (by decide) (by decide) (by decide)

theorem isNameChar_of_isDigit {d : Char} (h : d.isDigit = true) : isNameChar d = true := by
  have digit := Char.isDigit_iff_toNat.mp h
  have solid : isBlank d = false := by
    have low : '0'.toNat = 48 := rfl
    have high : '9'.toNat = 57 := rfl
    simp [isBlank]
    omega
  have plain : isDelimiter d = false := by
    by_contra delimiter
    simp only [isDelimiter, List.mem_cons, List.not_mem_nil, or_false, decide_eq_false_iff_not,
      not_not] at delimiter
    rcases delimiter with rfl | rfl | rfl | rfl | rfl | rfl | rfl | rfl | rfl | rfl | rfl | rfl | rfl
    all_goals cases h
  simp [isNameChar, solid, plain]

theorem not_isNumberChar_of_ends {rest : List Char} (h : Ends rest) (c : Char)
    (first : rest.head? = some c) : isNumberChar c = false := by
  obtain ⟨stops, dot, -⟩ := h c first
  have digit : c.isDigit = false := by
    by_contra digit
    rw [isNameChar_of_isDigit (by simpa using digit)] at stops
    cases stops
  have small : c ≠ 'e' := by
    rintro rfl
    cases stops
  have large : c ≠ 'E' := by
    rintro rfl
    cases stops
  simp [isNumberChar, digit, dot, small, large]

theorem stringBody_quoted {quote : Char} {value text : List Char} (h : Quoted quote value text)
    (escape : quote ≠ '\\') (rest : List Char) :
    stringBody quote (text ++ quote :: rest) = .ok (value, rest) := by
  induction h with
  | nil => cases rest <;> simp [stringBody, escape]
  | plain inside escape' _ ih => exact stringBody_plain escape' inside ih
  | escaped _ ih =>
    rw [List.cons_append, List.cons_append, stringBody, if_pos rfl, ih]
    rfl

theorem digitsValue_eq (digits : List Char) :
    Binary64.digitsValue digits = Nat.ofDigitChars 10 digits 0 := by
  simp only [Binary64.digitsValue, Nat.ofDigitChars_eq_foldl, Nat.mul_comm]

theorem toInt64?_of_isInt64 {i : Int} (fits : IsInt64 i) : (Number.int i).toInt64? = some i :=
  if_pos fits

theorem not_sign_of_isDigit {d : Char} (h : d.isDigit = true) : d ≠ '-' := by
  rintro rfl
  cases h

theorem integerOf?_decimal {i : Int} {text : List Char} (h : Decimal i text) (fits : IsInt64 i) :
    integerOf? text = some i := by
  cases h with
  | positive some all =>
    cases text with
    | nil => exact absurd rfl some
    | cons d digits =>
      have apart := not_sign_of_isDigit (all d List.mem_cons_self)
      have every : (d :: digits).all Char.isDigit = true := List.all_eq_true.mpr all
      simp only [integerOf?, List.cons.injEq, apart, false_and, imp_self, implies_true]
      rw [if_pos ⟨some, every⟩, digitsValue_eq, Int.one_mul]
      exact toInt64?_of_isInt64 fits
  | @negative digits some all =>
    have every : digits.all Char.isDigit = true := List.all_eq_true.mpr all
    simp only [integerOf?]
    rw [if_pos ⟨some, every⟩, digitsValue_eq, Int.neg_mul, Int.one_mul]
    exact toInt64?_of_isInt64 fits

theorem unsigned_digits {sign digits : List Char} {n : Number}
    (all : ∀ d ∈ digits, d.isDigit = true) (value : numberOf? (sign ++ digits) = some n) :
    Recovers (unsigned sign) n digits := by
  intro rest ends
  have every : ∀ d ∈ digits, isNumberChar d = true := fun d mem => by
    simp [isNumberChar, all d mem]
  obtain ⟨taken, left⟩ := span_append every (not_isNumberChar_of_ends ends)
  rw [unsigned, taken, left, value]

theorem recovers_number {i : Int} {text : List Char} (h : Decimal i text) (fits : IsInt64 i) :
    Recovers number (.int i) text := by
  have value : numberOf? text = some (.int i) := by
    rw [numberOf?, integerOf?_decimal h fits]
  cases h with
  | positive some all =>
    intro rest ends
    cases text with
    | nil => exact absurd rfl some
    | cons d digits =>
      have apart := not_sign_of_isDigit (all d List.mem_cons_self)
      have read : Recovers (unsigned []) _ (d :: digits) := unsigned_digits all value
      rw [List.cons_append, number_cons apart]
      exact read rest ends
  | @negative digits some all =>
    have read : Recovers (unsigned ['-']) _ digits := unsigned_digits all value
    exact read

theorem comparison_symbol (c : Comparison) {rest : List Char} (h : rest.head? ≠ some '=') :
    comparison (c.symbol.toList ++ rest) = .ok (c, rest) := by
  -- The comparisons of one character are none of two.
  have single : ∀ more, rest = '=' :: more → False := by
    rintro more rfl
    exact h rfl
  cases c with
  | lt => exact comparison.eq_5 rest single
  | gt => exact comparison.eq_6 rest single
  | _ => rfl

theorem exists_of_quotes {value : String} {text : List Char} (h : Literal.Quotes value text) :
    ∃ quote more, text = quote :: more ∧ (quote = '\'' ∨ quote = '"') ∧
      ∀ rest, stringBody quote (more ++ rest) = .ok (value.toList, rest) := by
  obtain ⟨either, inside⟩ := h
  refine ⟨_, _, rfl, either, fun rest => ?_⟩
  rw [List.append_assoc]
  refine stringBody_quoted inside ?_ rest
  rcases either with rfl | rfl
  · decide
  · decide

theorem exists_of_decimal {i : Int} {text : List Char} (h : Decimal i text) :
    ∃ c more, text = c :: more ∧ startsNumber c = true := by
  cases h with
  | positive some all =>
    obtain ⟨d, digits, rfl⟩ := List.exists_cons_of_ne_nil some
    exact ⟨d, digits, rfl, by simp [startsNumber, all d List.mem_cons_self]⟩
  | negative => exact ⟨'-', _, rfl, rfl⟩

theorem not_isBlank_of_startsNumber {c : Char} (h : startsNumber c = true) :
    isBlank c = false := by
  by_cases sign : c = '-'
  · rw [sign]
    rfl
  · have digit : c.isDigit = true := by simpa [startsNumber, sign] using h
    have plain := isNameChar_of_isDigit digit
    simp only [isNameChar, Bool.not_eq_true', Bool.or_eq_false_iff] at plain
    exact plain.1

end StatusWatch.Condition.Parser
