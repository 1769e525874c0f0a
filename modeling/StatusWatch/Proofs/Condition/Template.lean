import StatusWatch.Condition
import StatusWatch.Proofs.Condition.Bounds

/-!
What a condition can do with the template that it is put into. A text that is a predicate by itself
becomes the filter of the template, and nothing else. A text can also close that filter and the
bracket around it, add segments to the path, and leave a filter of its own open for the end of the
template; these two kinds are all that can be read.
-/

namespace StatusWatch.Condition

open Text (isBlank skipBlanks)

namespace Parser

def ending : List Char := [')', ']', '\x7d']

theorem wrap_eq (condition : String) :
    wrap condition =
      '\x7b' :: '$' :: '.' :: 'i' :: 't' :: 'e' :: 'm' :: 's' :: '[' :: '?' :: '(' ::
        (condition.toList ++ ending) := rfl

theorem bracket_filter_eq_ok {read : Reads Path} {text rest : List Char} {segment : Segment} :
    bracket read ('?' :: '(' :: text) = .ok (segment, rest) ↔
      ∃ p left closing, predicate read text = .ok (p, left) ∧ skipBlanks left = ')' :: closing ∧
        skipBlanks closing = ']' :: rest ∧ segment = .filter p := by
  have asked : skipBlanks ('?' :: '(' :: text) = '?' :: '(' :: text := rfl
  have opened : skipBlanks ('(' :: text) = '(' :: text := rfl
  simp only [bracket, asked, bracketBody, opened, if_pos, bind_eq_ok, expect_eq_ok, Prod.exists,
    Except.ok.injEq, Prod.mk.injEq, List.cons.injEq, true_and]
  constructor
  · rintro ⟨_, _, ⟨_, rfl, p, left, read, closing, closed, rfl, rfl⟩, _, ended, rfl, rfl⟩
    exact ⟨p, left, closing, read, closed, ended, rfl⟩
  · rintro ⟨p, left, closing, read, closed, ended, rfl⟩
    exact ⟨_, _, ⟨_, rfl, p, left, read, closing, closed, rfl, rfl⟩, _, ended, rfl, rfl⟩

/-- A reading of the template, in the parts that the condition has a say in. -/
structure Wrapped (condition : List Char) (depth : Nat) (p : Predicate) (more : List Segment)
    (left closing behind last : List Char) : Prop where
  predicate : Parser.predicate (Parser.path depth) (condition ++ ending) = .ok (p, left)
  closed : skipBlanks left = ')' :: closing
  ended : skipBlanks closing = ']' :: behind
  more : allSegments (Parser.path depth) behind = .ok (more, last)
  last : ∃ rest, skipBlanks last = '\x7d' :: rest ∧ skipBlanks rest = []

theorem allSegments_items (depth : Nat) (text : List Char) :
    allSegments (path depth) ('.' :: 'i' :: 't' :: 'e' :: 'm' :: 's' :: '[' :: text) =
      (bracket (path depth) text >>= fun (segment, rest) =>
        segments (path depth) (text.length + 5) rest >>= fun (more, rest) =>
          .ok (segment :: more, rest)) >>= fun (more, rest) => .ok (.field "items" :: more, rest) :=
  rfl

theorem allSegments_items_eq_ok {depth : Nat} {text last : List Char} {found : List Segment} :
    allSegments (path depth) ('.' :: 'i' :: 't' :: 'e' :: 'm' :: 's' :: '[' :: text) =
        .ok (found, last) ↔
      ∃ segment behind more, bracket (path depth) text = .ok (segment, behind) ∧
        allSegments (path depth) behind = .ok (more, last) ∧
        found = .field "items" :: segment :: more := by
  rw [allSegments_items]
  simp only [bind_eq_ok, Prod.exists, Except.ok.injEq, Prod.mk.injEq]
  constructor
  · rintro ⟨_, _, ⟨segment, behind, read, more, _, others, rfl, rfl⟩, rfl, rfl⟩
    have shorter := (local_bracket (local_path depth)).length_le read
    refine ⟨segment, behind, more, read, ?_, rfl⟩
    rw [← others]
    exact segments_fuel (local_path depth) le_rfl (by omega)
  · rintro ⟨segment, behind, more, read, others, rfl⟩
    have shorter := (local_bracket (local_path depth)).length_le read
    refine ⟨_, _, ⟨segment, behind, read, more, _, ?_, rfl, rfl⟩, rfl, rfl⟩
    rw [← others]
    exact segments_fuel (local_path depth) (by omega) le_rfl

theorem template_wrap_eq_ok (condition : String) (path : Path) :
    template (wrap condition) = .ok path ↔
      ∃ p more left closing behind last,
        Wrapped condition.toList (wrap condition).length p more left closing behind last ∧
          path = .mk .document (.field "items" :: .filter p :: more) := by
  have opened (text : List Char) : skipBlanks ('\x7b' :: text) = '\x7b' :: text := rfl
  have rooted (text : List Char) : skipBlanks ('$' :: text) = '$' :: text := rfl
  generalize hdepth : (wrap condition).length = depth
  rw [template, hdepth, wrap_eq, opened]
  simp only [bind_eq_ok, expect_eq_ok, Prod.exists, List.cons.injEq, true_and]
  constructor
  · rintro ⟨_, rfl, found, last, read, rest, ending, done⟩
    rw [rooted, path_cons, if_pos rfl, map_eq_ok] at read
    obtain ⟨⟨found, _⟩, read, same⟩ := read
    cases same
    obtain ⟨segment, behind, more, bracketed, others, rfl⟩ := allSegments_items_eq_ok.mp read
    obtain ⟨p, left, closing, predicate, closed, ended, rfl⟩ := bracket_filter_eq_ok.mp bracketed
    split at done
    case h_1 nothing =>
      cases done
      exact ⟨p, more, left, closing, behind, last,
        ⟨predicate, closed, ended, others, rest, ending, nothing⟩, rfl⟩
    case h_2 => cases done
  · rintro ⟨p, more, left, closing, behind, last, h, rfl⟩
    obtain ⟨rest, ending, nothing⟩ := h.last
    have bracketed :=
      bracket_filter_eq_ok.mpr ⟨p, left, closing, h.predicate, h.closed, h.ended, rfl⟩
    have read := allSegments_items_eq_ok.mpr ⟨_, behind, more, bracketed, h.more, rfl⟩
    refine ⟨_, rfl, .mk .document (.field "items" :: .filter p :: more), last, ?_, rest, ending,
      ?_⟩
    · rw [rooted, path_cons, if_pos rfl, read]
      rfl
    · rw [nothing]

theorem takeWhile_append_skipBlanks (text : List Char) :
    text.takeWhile isBlank ++ skipBlanks text = text :=
  List.takeWhile_append_dropWhile

theorem eq_of_skipBlanks (before : List Char) (c : Char) {text left : List Char}
    (solid : isBlank c = false) (h : text <:+ before ++ c :: left) (skip : skipBlanks text = left) :
    text = left := by
  have split := takeWhile_append_skipBlanks text
  rw [skip] at split
  rw [← split, List.append_cons, List.suffix_append_self_iff, List.suffix_concat_iff] at h
  rcases h with none | ⟨blanks, some, -⟩
  · rw [none] at split
    exact split.symm
  · have blank : isBlank c = true := by
      have last : c ∈ text.takeWhile isBlank := some ▸ List.mem_concat_self
      exact List.mem_takeWhile_imp last
    rw [solid] at blank
    cases blank

def predicateIn : Reads Predicate := fun text =>
  predicate (path (text.length + 1)) text

def segmentsIn : Reads (List Segment) := fun text =>
  allSegments (path (text.length + 1)) text

theorem predicate_eq_predicateIn {depth : Nat} {text : List Char} (deep : text.length < depth) :
    predicate (path depth) text = predicateIn text :=
  predicate_agree (local_path depth) (path_agree deep (Nat.lt_succ_self _)) text le_rfl

theorem allSegments_eq_segmentsIn {depth : Nat} {text : List Char} (deep : text.length < depth) :
    allSegments (path depth) text = segmentsIn text :=
  segments_agree (local_path depth) (path_agree deep (Nat.lt_succ_self _)) text.length text le_rfl

/-- The predicate that a text is in front of a closing parenthesis. -/
def alone? (text : List Char) : Option Predicate :=
  match predicateIn (text ++ [')']) with
  | .ok (p, rest) => if skipBlanks rest = [')'] then some p else none
  | .error _ => none

theorem alone?_eq_some {text : List Char} {p : Predicate} :
    alone? text = some p ↔
      ∃ rest, predicateIn (text ++ [')']) = .ok (p, rest) ∧ skipBlanks rest = [')'] := by
  unfold alone?
  cases predicateIn (text ++ [')']) with
  | error e => simp
  | ok found =>
    obtain ⟨q, rest⟩ := found
    simp only [Option.ite_none_right_eq_some, Option.some.injEq, Except.ok.injEq, Prod.mk.injEq]
    constructor
    · rintro ⟨closed, rfl⟩
      exact ⟨rest, ⟨rfl, rfl⟩, closed⟩
    · rintro ⟨_, ⟨rfl, rfl⟩, closed⟩
      exact ⟨closed, rfl⟩

theorem predicate_eq_ok_iff {depth : Nat} {text closing : List Char} (deep : text.length < depth)
    {p : Predicate} :
    (∃ left, predicate (path depth) text = .ok (p, left) ∧ skipBlanks left = ')' :: closing) ↔
      ∃ inner, text = inner ++ ')' :: closing ∧ alone? inner = some p := by
  have hlocal := local_predicate (local_path depth)
  constructor
  · rintro ⟨left, read, closed⟩
    obtain ⟨taken, rfl⟩ := hlocal.suffix read
    have split := takeWhile_append_skipBlanks left
    have blank : ∀ c ∈ left.takeWhile isBlank, isBlank c = true := fun c => List.mem_takeWhile_imp
    generalize left.takeWhile isBlank = blanks at split blank
    rw [closed] at split
    subst split
    have text : taken ++ (blanks ++ ')' :: closing) = (taken ++ blanks ++ [')']) ++ closing := by
      simp
    have rest : blanks ++ ')' :: closing = (blanks ++ [')']) ++ closing := by simp
    have fits : (taken ++ blanks ++ [')']).length < depth := by
      rw [text, List.length_append] at deep
      omega
    refine ⟨taken ++ blanks, by simp, alone?_eq_some.mpr ⟨blanks ++ [')'], ?_, ?_⟩⟩
    · rw [text, rest] at read
      rw [← predicate_eq_predicateIn fits]
      exact hlocal.of_append (by simp) read
    · exact List.dropWhile_append_of_pos blank
  · rintro ⟨inner, rfl, only⟩
    obtain ⟨rest, read, closed⟩ := alone?_eq_some.mp only
    have fits : (inner ++ [')']).length < depth := by
      simp only [List.length_append, List.length_cons, List.length_nil] at deep ⊢
      omega
    rw [← predicate_eq_predicateIn fits] at read
    have left : rest ≠ [] := by
      rintro rfl
      cases closed
    have longer := hlocal.append read left closing
    rw [List.append_assoc] at longer
    refine ⟨_, longer, ?_⟩
    rw [skipBlanks, List.dropWhile_append]
    change (if (skipBlanks rest).isEmpty then _ else skipBlanks rest ++ closing) = _
    rw [closed]
    rfl

/-- A condition that closes the filter and its bracket, and goes on with segments, of which the
template closes the last. -/
def Escapes (condition : List Char) (p : Predicate) (more : List Segment) : Prop :=
  ∃ inner blanks extra, condition = inner ++ ')' :: (blanks ++ ']' :: extra) ∧
    blanks.all isBlank = true ∧ alone? inner = some p ∧
    segmentsIn (extra ++ ending) = .ok (more, ['\x7d'])

theorem dotted_ne_nil {read : Reads Path} {fuel : Nat} {text last : List Char}
    {found : List Segment} (h : dotted read fuel text = .ok (found, last)) : found ≠ [] := by
  rintro rfl
  unfold dotted at h
  split at h
  · simp [bind_eq_ok] at h
  · dsimp only at h
    split at h
    · cases h
    · simp [bind_eq_ok] at h

theorem allSegments_cases {read : Reads Path} {text last : List Char} {found : List Segment}
    (h : allSegments read text = .ok (found, last)) :
    found = [] ∧ last = text ∨
      found ≠ [] ∧ ∃ rest, text = '.' :: rest ∨ text = '[' :: rest := by
  cases text with
  | nil =>
    cases h
    exact .inl ⟨rfl, rfl⟩
  | cons c rest =>
    rw [allSegments, List.length_cons] at h
    by_cases dot : c = '.'
    · subst dot
      rw [segments_dot] at h
      exact .inr ⟨dotted_ne_nil h, rest, .inl rfl⟩
    · by_cases opening : c = '['
      · subst opening
        refine .inr ⟨?_, rest, .inr rfl⟩
        rintro rfl
        simp [segments, bind_eq_ok] at h
      · rw [segments_plain dot opening] at h
        cases h
        exact .inl ⟨rfl, rfl⟩

variable {condition left closing behind last : List Char} {depth : Nat} {p : Predicate}
  {more : List Segment}

theorem Wrapped.closing_suffix (h : Wrapped condition depth p more left closing behind last) :
    closing <:+ condition ++ ending := by
  have opened : ')' :: closing <:+ left := h.closed ▸ List.dropWhile_suffix isBlank
  have read := (local_predicate (local_path depth)).suffix h.predicate
  exact (List.suffix_cons _ _).trans (opened.trans read)

theorem Wrapped.behind_suffix (h : Wrapped condition depth p more left closing behind last) :
    behind <:+ condition ++ ending := by
  have opened : ']' :: behind <:+ closing := h.ended ▸ List.dropWhile_suffix isBlank
  exact (List.suffix_cons _ _).trans (opened.trans h.closing_suffix)

theorem Wrapped.ending_suffix (h : Wrapped condition depth p more left closing behind last)
    {rest : List Char} (first : behind = '.' :: rest ∨ behind = '[' :: rest) :
    ending <:+ behind := by
  rcases List.suffix_or_suffix_of_suffix h.behind_suffix (List.suffix_append condition ending)
    with within | longer
  · simp only [ending, List.suffix_cons_iff, List.suffix_nil] at within
    rcases first with rfl | rfl <;> simp at within
  · exact longer

theorem Wrapped.last_eq (h : Wrapped condition depth p more left closing behind last) :
    last = ['\x7d'] := by
  obtain ⟨rest, ended, nothing⟩ := h.last
  have part : last <:+ condition ++ ending :=
    ((local_allSegments (local_path depth)).suffix h.more).trans h.behind_suffix
  have end' : '\x7d' :: rest <:+ last := ended ▸ List.dropWhile_suffix isBlank
  have empty : rest = [] := by
    refine eq_of_skipBlanks (condition ++ [')', ']']) '\x7d' rfl ?_ nothing
    rw [List.append_assoc]
    exact (List.suffix_cons _ _).trans (end'.trans part)
  subst empty
  refine eq_of_skipBlanks (condition ++ [')']) ']' rfl ?_ ended
  rw [List.append_assoc]
  exact part

/-- The template is read in two ways: the condition is the predicate of its filter, or escapes. -/
theorem exists_wrapped_iff (deep : condition.length + 3 < depth) :
    (∃ left closing behind last, Wrapped condition depth p more left closing behind last) ↔
      alone? condition = some p ∧ more = [] ∨ Escapes condition p more := by
  have deep' : (condition ++ ending).length < depth := by
    rw [List.length_append]
    exact deep
  constructor
  · rintro ⟨left, closing, behind, last, h⟩
    obtain rfl := h.last_eq
    obtain ⟨inner, text, only⟩ :=
      (predicate_eq_ok_iff deep').mp ⟨left, h.predicate, h.closed⟩
    rcases allSegments_cases h.more with ⟨rfl, rfl⟩ | ⟨-, rest, first⟩
    · have closing_eq : closing = [']', '\x7d'] :=
        eq_of_skipBlanks condition ')' rfl h.closing_suffix h.ended
      have same : condition = inner := by
        rw [closing_eq] at text
        exact List.append_cancel_right text
      exact .inl ⟨same ▸ only, rfl⟩
    · obtain ⟨extra, rfl⟩ := h.ending_suffix first
      have split := takeWhile_append_skipBlanks closing
      have blank : ∀ c ∈ closing.takeWhile isBlank, isBlank c = true :=
        fun c => List.mem_takeWhile_imp
      rw [h.ended] at split
      rw [← split] at text
      have fits : (extra ++ ending).length < depth :=
        h.behind_suffix.length_le.trans_lt deep'
      refine .inr ⟨inner, closing.takeWhile isBlank, extra, ?_, List.all_eq_true.mpr blank, only,
        ?_⟩
      · refine (List.append_left_inj ending).mp (text.trans ?_)
        simp
      · rw [← allSegments_eq_segmentsIn fits]
        exact h.more
  · rintro (⟨only, rfl⟩ | ⟨inner, blanks, extra, rfl, blank, only, others⟩)
    · obtain ⟨left, read, closed⟩ := (predicate_eq_ok_iff deep').mpr ⟨condition, rfl, only⟩
      exact ⟨left, [']', '\x7d'], ['\x7d'], ['\x7d'], read, closed, rfl, rfl, [], rfl, rfl⟩
    · have text : inner ++ ')' :: (blanks ++ ']' :: extra) ++ ending =
          inner ++ ')' :: (blanks ++ ']' :: (extra ++ ending)) := by simp
      rw [text] at deep'
      obtain ⟨left, read, closed⟩ := (predicate_eq_ok_iff deep').mpr ⟨inner, rfl, only⟩
      have fits : (extra ++ ending).length < depth := by
        simp only [List.length_append, List.length_cons] at deep' ⊢
        omega
      refine ⟨left, _, extra ++ ending, ['\x7d'], text ▸ read, closed, ?_, ?_, [], rfl, rfl⟩
      · exact (List.dropWhile_append_of_pos (List.all_eq_true.mp blank)).trans rfl
      · rw [allSegments_eq_segmentsIn fits]
        exact others

theorem alone?_of_blank {text : List Char} (blank : text.all isBlank = true) :
    alone? text = none := by
  have skip : skipBlanks (text ++ [')']) = [')'] :=
    (List.dropWhile_append_of_pos (List.all_eq_true.mp blank)).trans rfl
  have failed : ∃ e, predicateIn (text ++ [')']) = .error e := by
    rw [predicateIn, predicate_eq, skip]
    exact ⟨_, rfl⟩
  obtain ⟨e, failed⟩ := failed
  rw [alone?, failed]

theorem Escapes.not_blank (h : Escapes condition p more) : condition.all isBlank = false := by
  obtain ⟨inner, blanks, extra, rfl, -⟩ := h
  have solid : isBlank ')' = false := rfl
  simp [solid]

theorem Escapes.more_ne_nil (h : Escapes condition p more) : more ≠ [] := by
  obtain ⟨inner, blanks, extra, -, -, -, read⟩ := h
  rcases allSegments_cases read with ⟨-, same⟩ | ⟨some, -⟩
  · have length := congrArg List.length same
    simp [ending] at length
  · exact some

def wrapped (p : Predicate) : Path :=
  .mk .document [.field "items", .filter p]

theorem parse_eq_ok_iff (condition : String) (path : Path) :
    parse condition = .ok path ↔
      (∃ p, alone? condition.toList = some p ∧ path = wrapped p) ∨
        ∃ p more, Escapes condition.toList p more ∧
          path = .mk .document (.field "items" :: .filter p :: more) := by
  unfold parse Text.isBlankText
  split
  case isTrue blank =>
    rw [alone?_of_blank blank]
    constructor
    · nofun
    · rintro (⟨p, none, -⟩ | ⟨p, more, escapes, -⟩)
      · cases none
      · rw [escapes.not_blank] at blank
        cases blank
  case isFalse =>
    have deep : condition.toList.length + 3 < (wrap condition).length := by
      rw [wrap_eq]
      simp [ending]
    rw [template_wrap_eq_ok]
    constructor
    · rintro ⟨p, more, left, closing, behind, last, h, rfl⟩
      rcases (exists_wrapped_iff deep).mp ⟨left, closing, behind, last, h⟩ with
        ⟨only, rfl⟩ | escapes
      · exact .inl ⟨p, only, rfl⟩
      · exact .inr ⟨p, more, escapes, rfl⟩
    · rintro (⟨p, only, rfl⟩ | ⟨p, more, escapes, rfl⟩)
      · obtain ⟨left, closing, behind, last, h⟩ := (exists_wrapped_iff deep).mpr (.inl ⟨only, rfl⟩)
        exact ⟨p, [], left, closing, behind, last, h, rfl⟩
      · obtain ⟨left, closing, behind, last, h⟩ := (exists_wrapped_iff deep).mpr (.inr escapes)
        exact ⟨p, more, left, closing, behind, last, h, rfl⟩

end Parser

open Condition.Parser (alone? wrapped Escapes)

theorem compile_eq_ok_iff {c : Condition} {path : Path} :
    c.compile = .ok path ↔ Parser.parse c.text = .ok path :=
  mapError_eq_ok

theorem eval_wrapped (p : Predicate) (object : Json) :
    (wrapped p).eval (wrapObject object) (wrapObject object) =
      (p.test (wrapObject object) object).map fun passes => if passes then [object] else [] := by
  have items : selectField "items" [wrapObject object] = .ok [.arr [object]] := rfl
  simp only [wrapped, Path.eval, evalSegments, Segment.eval, items]
  simp only [ok_bind, selectItems, filterItems]
  cases p.test (wrapObject object) object with
  | error fault => rfl
  | ok passes => cases passes <;> rfl

theorem evaluate_wrapped {c : Condition} {p : Predicate} (h : c.compile = .ok (wrapped p))
    (object : Json) :
    c.evaluate object = .ok .matched ↔ p.test (wrapObject object) object = .ok true := by
  simp only [evaluate, h, ok_bind, eval_wrapped]
  cases p.test (wrapObject object) object with
  | error fault => cases fault <;> simp [Except.map]
  | ok passes => cases passes <;> simp [Except.map]

theorem evaluate_of_test {c : Condition} {p : Predicate} (h : c.compile = .ok (wrapped p))
    {object : Json} {passes : Bool} (tested : p.test (wrapObject object) object = .ok passes) :
    c.evaluate object = .ok (if passes then .matched else .notMatched) := by
  simp only [evaluate, h, ok_bind, eval_wrapped, tested]
  cases passes <;> rfl

/-- A condition that compiles is the predicate of the template's filter and nothing else, and
matches where this predicate is true, unless it closes the filter itself and goes on behind it. -/
theorem compile_wrapped_iff (c : Condition) {path : Path} (compiles : c.compile = .ok path) :
    (∃ p, alone? c.text.toList = some p ∧ path = wrapped p ∧ ∀ object,
        c.evaluate object = .ok .matched ↔ p.test (wrapObject object) object = .ok true) ↔
      ¬∃ p more, Escapes c.text.toList p more := by
  have parsed := (Parser.parse_eq_ok_iff c.text path).mp (compile_eq_ok_iff.mp compiles)
  constructor
  · rintro ⟨p, only, rfl, -⟩ ⟨q, more, escapes⟩
    have parsed' := (Parser.parse_eq_ok_iff c.text _).mpr (.inr ⟨q, more, escapes, rfl⟩)
    rw [compile_eq_ok_iff.mp compiles] at parsed'
    cases parsed'
    exact escapes.more_ne_nil rfl
  · intro bound
    rcases parsed with ⟨p, only, rfl⟩ | ⟨p, more, escapes, -⟩
    · exact ⟨p, only, rfl, evaluate_wrapped compiles⟩
    · exact absurd ⟨p, more, escapes⟩ bound

theorem compile_wrapped_iff_of_comparison :
    let c : Condition := ⟨"@.state == 'stable'"⟩
    let stable : Predicate :=
      .compare (.path (.mk .item [.field "state"])) .eq (.literal (.text "stable"))
    c.compile = .ok (wrapped stable) ∧
      ((∃ p, alone? c.text.toList = some p ∧ wrapped stable = wrapped p ∧ ∀ object,
          c.evaluate object = .ok .matched ↔ p.test (wrapObject object) object = .ok true) ↔
        ¬∃ p more, Escapes c.text.toList p more) :=
  ⟨rfl, compile_wrapped_iff ⟨"@.state == 'stable'"⟩ rfl⟩

/-- A condition that compiles, but to the path of two filters. -/
theorem compile_two_filters :
    ∃ path, (⟨"@.a)].b[?(@.c"⟩ : Condition).compile = .ok path ∧ ∀ p, path ≠ wrapped p := by
  let has (name : String) : Predicate := .present (.mk .item [.field name])
  refine ⟨.mk .document [.field "items", .filter (has "a"), .field "b", .filter (has "c")], rfl, ?_⟩
  intro p same
  cases same

end StatusWatch.Condition
