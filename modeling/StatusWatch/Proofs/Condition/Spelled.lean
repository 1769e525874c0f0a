import StatusWatch.Proofs.Condition.Template
import StatusWatch.Proofs.Condition.Tokens

/-!
Every spelling of a predicate is read back as that predicate, whatever stands behind the text, as
long as no token of it can go on there. Each production of the grammar is read for any reader of the
paths in it; the induction on spellings then puts these together.
-/

namespace StatusWatch.Condition

namespace Parser

open Text (isBlank skipBlanks)

section Operands

variable {read : Reads Path} {text : List Char}

theorem recovers_operand_path {p : Path} (h : Recovers read p text)
    (root : ∃ c more, text = c :: more ∧ (c = '@' ∨ c = '$')) :
    Recovers (operand read) (.path p) text := by
  obtain ⟨c, more, rfl, root⟩ := root
  intro rest ends
  have path := h rest ends
  rw [List.cons_append] at path ⊢
  rw [operand, if_pos root, path]
  rfl

theorem recovers_operand_text {value : String} (h : Literal.Quotes value text) :
    Recovers (operand read) (.literal (.text value)) text := by
  obtain ⟨quote, more, rfl, either, body⟩ := exists_of_quotes h
  intro rest _
  have noPath : ¬ (quote = '@' ∨ quote = '$') := by rcases either with rfl | rfl <;> decide
  rw [List.cons_append, operand, if_neg noPath, if_pos either, body]
  simp [Except.map]

theorem recovers_operand_number {i : Int} (fits : IsInt64 i) (h : Decimal i text) :
    Recovers (operand read) (.literal (.number (.int i))) text := by
  intro rest ends
  have value := recovers_number h fits rest ends
  obtain ⟨c, more, rfl, starts⟩ := exists_of_decimal h
  have noPath : ¬ (c = '@' ∨ c = '$') := by
    rintro (rfl | rfl) <;> cases starts
  have noQuote : ¬ (c = '\'' ∨ c = '"') := by
    rintro (rfl | rfl) <;> cases starts
  rw [List.cons_append] at value ⊢
  rw [operand, if_neg noPath, if_neg noQuote, if_pos starts, value]
  rfl

theorem operand_word {c : Char} {more rest : List Char} (first : c = 't' ∨ c = 'f')
    (all : ∀ d ∈ c :: more, isNameChar d = true) (ends : Ends rest) :
    operand read (c :: more ++ rest) =
      if String.ofList (c :: more) = "true" then .ok (.literal (.flag true), rest)
      else if String.ofList (c :: more) = "false" then .ok (.literal (.flag false), rest)
      else .error (.badWord (String.ofList (c :: more))) := by
  obtain ⟨taken, left⟩ := span_append all fun c first => (ends c first).1
  rw [List.cons_append] at taken left ⊢
  rcases first with rfl | rfl
  · simp only [operand, taken, left]
    rfl
  · simp only [operand, taken, left]
    rfl

theorem recovers_operand_true : Recovers (operand read) (.literal (.flag true)) "true".toList :=
  fun _ ends => operand_word (.inl rfl) (List.all_eq_true.mp rfl) ends

theorem recovers_operand_false : Recovers (operand read) (.literal (.flag false)) "false".toList :=
  fun _ ends => operand_word (.inr rfl) (List.all_eq_true.mp rfl) ends

end Operands

section Predicates

variable {read : Reads Path}

def RecoversPredicate (read : Reads Path) (p : Predicate) (text : List Char) : Prop :=
  ∀ rest, ∃ left, predicate read (text ++ ')' :: rest) = .ok (p, left) ∧
    skipBlanks left = ')' :: rest

theorem ends_close (rest : List Char) : Ends (')' :: rest) :=
  ends_cons (by decide) (by decide) (by decide)

theorem recovers_present {p : Path} {before text after : List Char} (blank : Blank before)
    (h : Recovers (operand read) (.path p) text) (solid : Solid text) (blank' : Blank after) :
    RecoversPredicate read (.present p) (before ++ (text ++ after)) := by
  intro rest
  refine ⟨')' :: rest, ?_, skipBlanks_cons blank_nil rfl rest⟩
  rw [List.append_assoc, List.append_assoc, predicate_eq, skipBlanks_solid blank solid,
    h _ ((ends_close rest).behindBlanks blank'), ok_bind]
  dsimp only
  rw [skipBlanks_cons blank' rfl]
  rfl

theorem predicateOf_symbol (left : Operand) (c : Comparison) (text : List Char) :
    predicateOf read left (c.symbol.toList ++ text) =
      comparison (c.symbol.toList ++ text) >>= fun (c, rest) =>
        operand read (skipBlanks rest) >>= fun (right, rest) => .ok (.compare left c right, rest) := by
  cases c <;> rfl

theorem head_operand_ne {blanks text : List Char} (blank : Blank blanks)
    (solid : Solid text) (rest : List Char) :
    (blanks ++ (text ++ rest)).head? ≠ some '=' := by
  obtain ⟨c, more, rfl, -, apart⟩ := solid
  cases blanks with
  | nil => simpa using apart
  | cons d blanks =>
    have here : isBlank d = true := blank d List.mem_cons_self
    intro first
    cases first
    cases here

theorem recovers_compare {left right : Operand} {comparison : Comparison}
    {before first between between' second after : List Char} (blank : Blank before)
    (hl : Recovers (operand read) left first) (solid : Solid first) (blankl : Blank between)
    (blankr : Blank between') (hr : Recovers (operand read) right second) (solid' : Solid second)
    (blank' : Blank after) :
    RecoversPredicate read (.compare left comparison right)
      (before ++ (first ++ (between ++ (comparison.symbol.toList ++
        (between' ++ (second ++ after)))))) := by
  intro rest
  refine ⟨after ++ ')' :: rest, ?_, skipBlanks_cons blank' rfl rest⟩
  have last : Ends (after ++ ')' :: rest) := (ends_close rest).behindBlanks blank'
  simp only [List.append_assoc]
  generalize after ++ ')' :: rest = behind at last
  have middle := (ends_symbol comparison (between' ++ (second ++ behind))).behindBlanks blankl
  have skipSymbol := skipBlanks_symbol blankl comparison (between' ++ (second ++ behind))
  rw [predicate_eq, skipBlanks_solid blank solid, hl _ middle, ok_bind]
  dsimp only
  rw [skipSymbol, predicateOf_symbol,
    comparison_symbol comparison (head_operand_ne blankr solid' behind), ok_bind]
  dsimp only
  rw [skipBlanks_solid blankr solid', hr _ last]
  rfl

end Predicates

section Segments

variable {read : Reads Path}

theorem recovers_bracket_name {name : String} {text : List Char} (h : Literal.Quotes name text) :
    Recovers (bracketBody read) (.field name) text := by
  obtain ⟨quote, more, rfl, either, body⟩ := exists_of_quotes h
  intro rest _
  have noFilter : quote ≠ '?' := by rcases either with rfl | rfl <;> decide
  have noStar : quote ≠ '*' := by rcases either with rfl | rfl <;> decide
  rw [List.cons_append, bracketBody, if_neg noFilter, if_neg noStar, if_pos either, body]
  simp [Except.map]

theorem recovers_bracket_index {i : Int} {text : List Char} (fits : IsInt64 i)
    (h : Decimal i text) : Recovers (bracketBody read) (.index i) text := by
  intro rest ends
  have value := recovers_number h fits rest ends
  obtain ⟨c, more, rfl, starts⟩ := exists_of_decimal h
  have noFilter : c ≠ '?' := by rintro rfl; cases starts
  have noStar : c ≠ '*' := by rintro rfl; cases starts
  have noQuote : ¬ (c = '\'' ∨ c = '"') := by rintro (rfl | rfl) <;> cases starts
  rw [List.cons_append] at value ⊢
  rw [bracketBody, if_neg noFilter, if_neg noStar, if_neg noQuote, if_pos starts, value]
  rfl

theorem recovers_bracket_filter {p : Predicate} {between text : List Char} (blank : Blank between)
    (h : RecoversPredicate read p text) :
    Recovers (bracketBody read) (.filter p) ('?' :: (between ++ '(' :: (text ++ [')']))) := by
  intro rest _
  obtain ⟨left, found, closed⟩ := h rest
  have opened : skipBlanks (between ++ '(' :: (text ++ ')' :: rest)) =
      '(' :: (text ++ ')' :: rest) :=
    skipBlanks_cons blank rfl _
  have text : '?' :: (between ++ '(' :: (text ++ [')'])) ++ rest =
      '?' :: (between ++ '(' :: (text ++ ')' :: rest)) := by simp
  rw [text, bracketBody, if_pos rfl, opened, expect, if_pos rfl, ok_bind, found, ok_bind]
  dsimp only
  rw [closed, expect, if_pos rfl]
  rfl

def RecoversSegment (read : Reads Path) (segment : Segment) (text : List Char) : Prop :=
  ∀ fuel rest, (∀ c, rest.head? = some c → isNameChar c = false) →
    segments read (fuel + 1) (text ++ rest) =
      segments read fuel rest >>= fun (more, rest) => .ok (segment :: more, rest)

theorem recovers_name {name : List Char} (h : IsName name) :
    RecoversSegment read (.field (String.ofList name)) ('.' :: name) := by
  intro fuel rest stop
  obtain ⟨taken, left⟩ := span_append h.plain stop
  obtain ⟨c, more, rfl⟩ := List.exists_cons_of_ne_nil h.nonempty
  have star : c ≠ '*' := by
    rintro rfl
    exact h.start rfl
  have text : '.' :: c :: more ++ rest = '.' :: c :: (more ++ rest) := rfl
  rw [List.cons_append] at taken left
  rw [text, segments_dot]
  simp only [dotted, List.cons.injEq, star, false_and, imp_self, implies_true, taken, left]
  rfl

theorem recovers_star : RecoversSegment read .wildcard ['.', '*'] :=
  fun _ _ _ => rfl

theorem recovers_bracket {segment : Segment} {before inside after : List Char}
    (blank : Blank before) (h : Recovers (bracketBody read) segment inside)
    (solid : Solid inside) (blank' : Blank after) :
    RecoversSegment read segment ('[' :: (before ++ (inside ++ (after ++ [']'])))) := by
  intro fuel rest _
  have text : '[' :: (before ++ (inside ++ (after ++ [']']))) ++ rest =
      '[' :: (before ++ (inside ++ (after ++ ']' :: rest))) := by simp
  have close : Ends (']' :: rest) := ends_cons (by decide) (by decide) (by decide)
  have closed : skipBlanks (after ++ ']' :: rest) = ']' :: rest :=
    skipBlanks_cons blank' rfl rest
  have found : bracket read (before ++ (inside ++ (after ++ ']' :: rest))) = .ok (segment, rest) := by
    rw [bracket, skipBlanks_solid blank solid, h _ (close.behindBlanks blank'), ok_bind]
    dsimp only
    rw [closed, expect, if_pos rfl]
    rfl
  rw [text, segments, found]
  rfl

def RecoversSegments (read : Reads Path) (found : List Segment) (text : List Char) : Prop :=
  ∀ fuel, text.length ≤ fuel → Recovers (segments read fuel) found text

theorem recovers_no_segments : RecoversSegments read [] [] := by
  intro fuel _ rest ends
  cases rest with
  | nil => cases fuel <;> rfl
  | cons c rest =>
    obtain ⟨-, dot, opening⟩ := ends c rfl
    exact segments_plain dot opening fuel rest

theorem recovers_more_segments {segment : Segment} {more : List Segment} {first others : List Char}
    (nonempty : first ≠ []) (h : RecoversSegment read segment first)
    (hs : RecoversSegments read more others)
    (apart : ∀ rest, Ends rest → ∀ c, (others ++ rest).head? = some c → isNameChar c = false) :
    RecoversSegments read (segment :: more) (first ++ others) := by
  intro fuel enough rest ends
  obtain ⟨c, text, rfl⟩ := List.exists_cons_of_ne_nil nonempty
  rw [List.length_append, List.length_cons] at enough
  obtain ⟨fuel, rfl⟩ := Nat.exists_eq_succ_of_ne_zero (by omega : fuel ≠ 0)
  rw [List.append_assoc, h fuel (others ++ rest) (apart rest ends), hs fuel (by omega) rest ends]
  rfl

theorem recovers_root {found : List Segment} {text : List Char} {depth : Nat}
    (h : RecoversSegments (path depth) found text) {c : Char} {root : Root}
    (here : c = '$' ∧ root = .document ∨ c = '@' ∧ root = .item) :
    Recovers (path (depth + 1)) (.mk root found) (c :: text) := by
  intro rest ends
  have read : allSegments (path depth) (text ++ rest) = .ok (found, rest) :=
    h _ (by simp) rest ends
  rw [List.cons_append, path_cons, read]
  rcases here with ⟨rfl, rfl⟩ | ⟨rfl, rfl⟩
  · rfl
  · rfl

end Segments

/-! The first characters of a spelling, which show how it is to be read. -/

theorem exists_of_path {p : Path} {text : List Char} (h : p.Spelled text) :
    ∃ c more, text = c :: more ∧ (c = '@' ∨ c = '$') := by
  cases h with
  | document => exact ⟨_, _, rfl, .inr rfl⟩
  | item => exact ⟨_, _, rfl, .inl rfl⟩

theorem solid_of_path {p : Path} {text : List Char} (h : p.Spelled text) : Solid text := by
  obtain ⟨c, more, rfl, rfl | rfl⟩ := exists_of_path h
  · exact solid_cons (by decide) (by decide)
  · exact solid_cons (by decide) (by decide)

theorem solid_of_quotes {value : String} {text : List Char} (h : Literal.Quotes value text) :
    Solid text := by
  obtain ⟨c, more, rfl, rfl | rfl, -⟩ := exists_of_quotes h
  · exact solid_cons (by decide) (by decide)
  · exact solid_cons (by decide) (by decide)

theorem solid_of_decimal {i : Int} {text : List Char} (h : Decimal i text) : Solid text := by
  obtain ⟨c, more, rfl, starts⟩ := exists_of_decimal h
  refine solid_cons (not_isBlank_of_startsNumber starts) ?_
  rintro rfl
  cases starts

theorem solid_operand {operand : Operand} {text : List Char} (h : operand.Spelled text) :
    Solid text := by
  cases h with
  | path h => exact solid_of_path h
  | text h => exact solid_of_quotes h
  | number _ h => exact solid_of_decimal h
  | yes => exact solid_cons (by decide) (by decide)
  | no => exact solid_cons (by decide) (by decide)

theorem solid_bracketed {segment : Segment} {text : List Char} (h : segment.Bracketed text) :
    Solid text := by
  cases h with
  | name h => exact solid_of_quotes h
  | index _ h => exact solid_of_decimal h
  | star => exact solid_cons (by decide) (by decide)
  | filter => exact solid_cons (by decide) (by decide)

theorem head_segment {segment : Segment} {text : List Char} (h : segment.Spelled text) :
    ∃ c more, text = c :: more ∧ isNameChar c = false := by
  cases h with
  | name => exact ⟨_, _, rfl, by decide⟩
  | star => exact ⟨_, _, rfl, by decide⟩
  | bracket => exact ⟨_, _, rfl, by decide⟩

theorem head_segments {found : List Segment} {text : List Char}
    (h : Segment.AllSpelled found text) (rest : List Char) (ends : Ends rest) (c : Char)
    (first : (text ++ rest).head? = some c) : isNameChar c = false := by
  cases h with
  | nil => exact (ends c first).1
  | cons h =>
    obtain ⟨d, more, rfl, stop⟩ := head_segment h
    cases first
    exact stop

mutual

theorem recovers_path {p : Path} {text : List Char} :
    p.Spelled text → ∀ depth, text.length ≤ depth → Recovers (path depth) p text
  | .document h, depth + 1, deep =>
    recovers_root (recovers_segments h depth (Nat.le_of_succ_le_succ deep)) (.inl ⟨rfl, rfl⟩)
  | .item h, depth + 1, deep =>
    recovers_root (recovers_segments h depth (Nat.le_of_succ_le_succ deep)) (.inr ⟨rfl, rfl⟩)

theorem recovers_segments {found : List Segment} {text : List Char} :
    Segment.AllSpelled found text → ∀ depth, text.length ≤ depth →
      RecoversSegments (path depth) found text
  | .nil, _, _ => recovers_no_segments
  | .cons h hs, depth, deep => by
    rw [List.length_append] at deep
    obtain ⟨c, more, nonempty, -⟩ := head_segment h
    exact recovers_more_segments (by simp [nonempty]) (recovers_segment h depth (by omega))
      (recovers_segments hs depth (by omega)) (head_segments hs)

theorem recovers_segment {segment : Segment} {text : List Char} :
    segment.Spelled text → ∀ depth, text.length ≤ depth →
      RecoversSegment (path depth) segment text
  | .name h, _, _ => recovers_name h
  | .star, _, _ => recovers_star
  | .bracket blank h blank', depth, deep => by
    simp only [List.length_cons, List.length_append] at deep
    exact recovers_bracket blank (recovers_bracketed h depth (by omega)) (solid_bracketed h) blank'

theorem recovers_bracketed {segment : Segment} {text : List Char} :
    segment.Bracketed text → ∀ depth, text.length ≤ depth →
      Recovers (bracketBody (path depth)) segment text
  | .name h, _, _ => recovers_bracket_name h
  | .index fits h, _, _ => recovers_bracket_index fits h
  | .star, _, _ => fun _ _ => rfl
  | .filter blank h, depth, deep => by
    simp only [List.length_cons, List.length_append] at deep
    exact recovers_bracket_filter blank (recovers_predicate h depth (by omega))

theorem recovers_predicate {p : Predicate} {text : List Char} :
    p.Spelled text → ∀ depth, text.length ≤ depth → RecoversPredicate (path depth) p text
  | .present blank h blank', depth, deep => by
    simp only [List.length_append] at deep
    have path := recovers_path h depth (by omega)
    exact recovers_present blank (recovers_operand_path path (exists_of_path h)) (solid_of_path h)
      blank'
  | .compare blank hl blankl blankr hr blank', depth, deep => by
    simp only [List.length_append] at deep
    have left := recovers_operand hl depth (by omega)
    have right := recovers_operand hr depth (by omega)
    exact recovers_compare blank left (solid_operand hl) blankl blankr right (solid_operand hr) blank'

theorem recovers_operand {operand : Operand} {text : List Char} :
    operand.Spelled text → ∀ depth, text.length ≤ depth →
      Recovers (Parser.operand (path depth)) operand text
  | .path h, depth, deep => recovers_operand_path (recovers_path h depth deep) (exists_of_path h)
  | .text h, _, _ => recovers_operand_text h
  | .number fits h, _, _ => recovers_operand_number fits h
  | .yes, _, _ => recovers_operand_true
  | .no, _, _ => recovers_operand_false

end

theorem alone?_of_spelled {p : Predicate} {text : List Char} (h : p.Spelled text) :
    alone? text = some p := by
  obtain ⟨left, read, closed⟩ := recovers_predicate h ((text ++ [')']).length + 1) (by simp; omega) []
  exact alone?_eq_some.mpr ⟨left, read, closed⟩

end Parser

open Condition.Parser (alone?_of_spelled parse_eq_ok_iff wrapped)

theorem Predicate.Spelled.unique {p q : Predicate} {text : List Char} (hp : p.Spelled text)
    (hq : q.Spelled text) : p = q :=
  Option.some.inj ((alone?_of_spelled hp).symm.trans (alone?_of_spelled hq))

/-- The predicates with a spelling are those whose numbers are integers of 64 signed bits, and each
of their spellings compiles to the template with that same predicate in it. -/
theorem compile_spelling (p : Predicate) :
    (p.Integral ↔ ∃ c : Condition, p.Spelled c.text.toList) ∧
      ∀ c : Condition, p.Spelled c.text.toList → c.compile = .ok (wrapped p) := by
  refine ⟨⟨fun integral => ?_, fun ⟨_, spelled⟩ => spelled.integral⟩, fun c spelled => ?_⟩
  · obtain ⟨text, spelled⟩ := p.exists_spelled integral
    exact ⟨⟨String.ofList text⟩, by rwa [String.toList_ofList]⟩
  · have parsed := (parse_eq_ok_iff c.text _).mpr (.inl ⟨p, alone?_of_spelled spelled, rfl⟩)
    exact compile_eq_ok_iff.mpr parsed

/-- Segments of every kind, an escaped quote, blanks and a leading zero. -/
theorem compile_spelling_mixed :
    let p : Predicate := .compare
      (.path (.mk .item [.field "it's", .wildcard, .index (-1),
        .filter (.present (.mk .item [.field "a"]))]))
      .ge (.literal (.number (.int 7)))
    let c : Condition := ⟨"@['it\\'s'].*[ -1 ][?( @.a)] >=07 "⟩
    p.Spelled c.text.toList ∧ c.compile = .ok (wrapped p) := by
  intro p c
  have one : Blank [' '] := List.all_eq_true.mp rfl
  have quoted : Quoted '\'' ['i', 't', '\'', 's'] ['i', 't', '\\', '\'', 's'] :=
    .plain (by decide) (by decide) (.plain (by decide) (by decide)
      (.escaped (.plain (by decide) (by decide) .nil)))
  have quotes := @Literal.Quotes.mk '\'' "it's" _ (.inl rfl) quoted
  have field := Segment.Spelled.bracket blank_nil (.name quotes) blank_nil
  have minus : Decimal (-1) ['-', '1'] := @Decimal.negative ['1'] (by decide) (List.all_eq_true.mp rfl)
  have last := Segment.Spelled.bracket one (.index (by decide) minus) one
  have a := @Segment.Spelled.name ['a'] ⟨by decide, List.all_eq_true.mp rfl, by decide⟩
  have inner := Path.Spelled.item (.cons a .nil)
  have present := Predicate.Spelled.present one inner blank_nil
  have nested := Segment.Spelled.bracket blank_nil (.filter blank_nil present) blank_nil
  have left := Path.Spelled.item (.cons field (.cons .star (.cons last (.cons nested .nil))))
  have seven : Decimal 7 ['0', '7'] := @Decimal.positive ['0', '7'] (by decide)
    (List.all_eq_true.mp rfl)
  have right := Operand.Spelled.number (by decide) seven
  have compare := @Predicate.Spelled.compare _ _ .ge _ _ _ _ _ _ blank_nil (.path left) one blank_nil
    right one
  have spelled : p.Spelled c.text.toList := by simpa [p, c, Comparison.symbol] using compare
  exact ⟨spelled, (compile_spelling p).2 c spelled⟩

end StatusWatch.Condition
