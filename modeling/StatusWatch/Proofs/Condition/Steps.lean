import StatusWatch.Proofs.Condition.Local
import StatusWatch.Proofs.Success

/-!
Every step of the condition reader is local: strings, numbers and comparisons by themselves, all
others for any local way to read the paths in them.
-/

namespace StatusWatch.Condition.Parser

open Text (isBlank skipBlanks)

theorem stringBody_plain {quote c : Char} {text s rest : List Char} (escape : c ≠ '\\')
    (inside : c ≠ quote) (done : stringBody quote text = .ok (s, rest)) :
    stringBody quote (c :: text) = .ok (c :: s, rest) := by
  cases text with
  | nil => cases done
  | cons d text =>
    rw [stringBody, if_neg escape, if_neg inside, done]
    rfl

theorem local_stringBody (quote : Char) : Local (stringBody quote) := by
  intro text s rest done
  induction text using stringBody.induct quote generalizing s with
  | case1 => cases done
  | case2 c closes =>
    rw [stringBody, if_pos closes] at done
    cases done
    exact ⟨[c], rfl, nofun⟩
  | case3 c open' =>
    rw [stringBody, if_neg open'] at done
    cases done
  | case4 d text ih =>
    rw [stringBody, if_pos rfl, map_eq_ok] at done
    obtain ⟨⟨s, rest⟩, inner, rfl, rfl⟩ := done
    obtain ⟨taken, rfl, exchange⟩ := ih s inner
    refine ⟨'\\' :: d :: taken, rfl, fun c others left new => ?_⟩
    rw [List.cons_append, List.cons_append, stringBody, if_pos rfl, exchange c others left new]
    rfl
  | case5 d text escape =>
    rw [stringBody, if_neg escape, if_pos rfl] at done
    cases done
    refine ⟨[quote], rfl, fun c others left new => ?_⟩
    rw [List.singleton_append, stringBody, if_neg escape, if_pos rfl]
  | case6 c d text escape inside ih =>
    rw [stringBody, if_neg escape, if_neg inside, map_eq_ok] at done
    obtain ⟨⟨s, rest⟩, inner, rfl, rfl⟩ := done
    obtain ⟨taken, split, exchange⟩ := ih s inner
    refine ⟨c :: taken, congrArg (c :: ·) split, fun e others left new => ?_⟩
    exact stringBody_plain escape inside (exchange e others left new)

def unsigned (sign : List Char) : Reads Number := fun text =>
  match numberOf? (sign ++ text.takeWhile isNumberChar) with
  | some n => .ok (n, text.dropWhile isNumberChar)
  | none => .error (.badNumber (String.ofList (sign ++ text.takeWhile isNumberChar)))

theorem local_unsigned (sign : List Char) : Local (unsigned sign) := by
  have judged (digits : List Char) : Local fun rest =>
      match numberOf? (sign ++ digits) with
      | some n => .ok (n, rest)
      | none => .error (.badNumber (String.ofList (sign ++ digits))) := by
    cases numberOf? (sign ++ digits) with
    | some n => exact .pure n
    | none => exact .fail _
  exact (Local.span isNumberChar).bind judged

theorem number_nil : number [] = unsigned [] [] := rfl

theorem number_cons {c : Char} (h : c ≠ '-') (rest : List Char) :
    number (c :: rest) = unsigned [] (c :: rest) := by
  simp only [number, List.cons.injEq, h, false_and, imp_self, implies_true]
  rfl

theorem local_number : Local number := by
  refine .of_first ?_ fun c => ?_
  · intro x done
    rw [number_nil] at done
    exact List.suffix_nil.mp ((local_unsigned []).suffix done)
  · by_cases sign : c = '-'
    · subst sign
      exact ⟨_, (local_unsigned ['-']).tail .openString, fun rest x => Iff.rfl⟩
    · refine ⟨_, local_unsigned [], fun rest x => ?_⟩
      rw [number_cons sign]

theorem local_comparison : Local comparison := by
  intro text a rest done
  unfold comparison at done
  split at done
  case h_1 => cases done; exact ⟨['=', '='], rfl, fun c others left new => rfl⟩
  case h_2 => cases done; exact ⟨['!', '='], rfl, fun c others left new => rfl⟩
  case h_3 => cases done; exact ⟨['<', '='], rfl, fun c others left new => rfl⟩
  case h_4 => cases done; exact ⟨['>', '='], rfl, fun c others left new => rfl⟩
  case h_5 single =>
    cases done
    refine ⟨['<'], rfl, fun c others left new => ?_⟩
    subst left
    have apart : c ≠ '=' := fun same => single others (same ▸ rfl)
    simp [comparison, apart]
  case h_6 single =>
    cases done
    refine ⟨['>'], rfl, fun c others left new => ?_⟩
    subst left
    have apart : c ≠ '=' := fun same => single others (same ▸ rfl)
    simp [comparison, apart]
  case h_7 => cases done
  case h_8 => cases done

section Steps

variable {path : Reads Path}

theorem local_word (word : List Char) : Local fun rest =>
    if String.ofList word = "true" then .ok (Operand.literal (.flag true), rest)
    else if String.ofList word = "false" then .ok (.literal (.flag false), rest)
    else .error (.badWord (String.ofList word)) := by
  split_ifs
  · exact .pure _
  · exact .pure _
  · exact .fail _

theorem local_operand (h : Local path) : Local (operand path) := by
  refine .of_first nofun fun c => ?_
  simp only [operand]
  split_ifs with root quote digit word
  · exact ⟨_, h.map .path, fun rest x => Iff.rfl⟩
  · have text := (local_stringBody c).map fun s => Operand.literal (.text (String.ofList s))
    exact ⟨_, text.tail .openString, fun rest x => Iff.rfl⟩
  · exact ⟨_, local_number.map fun n => .literal (.number n), fun rest x => Iff.rfl⟩
  · exact ⟨_, (Local.span isNameChar).bind local_word, fun rest x => Iff.rfl⟩
  · exact ⟨_, .fail fun text => .unexpected c text.length, fun rest x => by simp⟩

def predicateOf (path : Reads Path) (left : Operand) : Reads Predicate := fun text =>
  match text with
  | ')' :: rest =>
    match left with
    | .path p => .ok (.present p, ')' :: rest)
    | .literal value => .error (.bareLiteral value)
  | rest => do
    let (comparison, rest) ← comparison rest
    let (right, rest) ← operand path (skipBlanks rest)
    .ok (.compare left comparison right, rest)

theorem predicate_eq (path : Reads Path) (text : List Char) :
    predicate path text = operand path (skipBlanks text) >>= fun (left, rest) =>
      predicateOf path left (skipBlanks rest) := rfl

theorem local_predicateOf (h : Local path) (left : Operand) : Local (predicateOf path left) := by
  refine .of_first nofun fun c => ?_
  by_cases close : c = ')'
  · subst close
    cases left with
    | path p => exact ⟨_, .pure (.present p), fun rest x => Iff.rfl⟩
    | literal value => exact ⟨_, .fail fun _ => .bareLiteral value, fun rest x => Iff.rfl⟩
  · refine ⟨_, local_comparison.bind fun c => (local_operand h).behindBlanks.bind fun right =>
      .pure (.compare left c right), fun rest x => ?_⟩
    simp [predicateOf, close]

theorem local_predicate (h : Local path) : Local (predicate path) :=
  (local_operand h).behindBlanks.bind fun left => (local_predicateOf h left).behindBlanks

theorem local_filter (h : Local path) : Local fun text =>
    expect '(' (skipBlanks text) >>= fun rest => predicate path rest >>= fun (p, rest) =>
      expect ')' (skipBlanks rest) >>= fun rest => .ok (Segment.filter p, rest) := by
  have closed (p : Predicate) := ((Local.pure (Segment.filter p)).behindExpected ')').behindBlanks
  exact (((local_predicate h).bind closed).behindExpected '(').behindBlanks

theorem local_ofNumber (n : Number) : Local fun rest =>
    match n with
    | .int i => .ok (Segment.index i, rest)
    | .double x => .error (.badIndex x) := by
  cases n with
  | int i => exact .pure _
  | double x => exact .fail _

theorem local_index : Local fun text =>
    number text >>= fun
      | (.int i, rest) => .ok (Segment.index i, rest)
      | (.double x, _) => .error (.badIndex x) := by
  refine (local_number.bind local_ofNumber).congr fun text x => ?_
  rcases number text with e | ⟨n | n, rest⟩ <;> rfl

theorem local_bracketBody (h : Local path) : Local (bracketBody path) := by
  refine .of_first nofun fun c => ?_
  simp only [bracketBody]
  split_ifs with filter star quote digit
  · exact ⟨_, (local_filter h).tail .openBracket, fun rest x => Iff.rfl⟩
  · exact ⟨_, (Local.pure .wildcard).tail .openBracket, fun rest x => Iff.rfl⟩
  · exact ⟨_, ((local_stringBody c).map fun s => .field (String.ofList s)).tail .openBracket,
      fun rest x => Iff.rfl⟩
  · exact ⟨_, local_index, fun rest x => Iff.rfl⟩
  · exact ⟨_, .fail fun text => .badBracket c text.length, fun rest x => by simp⟩

theorem local_bracket (h : Local path) : Local (bracket path) :=
  (local_bracketBody h).behindBlanks.bind fun segment =>
    ((Local.pure segment).behindExpected ']').behindBlanks

theorem segments_zero (text : List Char) : segments path 0 text = .ok ([], text) := by
  unfold segments
  rfl

theorem segments_plain {c : Char} (dot : c ≠ '.') (opening : c ≠ '[') (fuel : Nat)
    (rest : List Char) : segments path fuel (c :: rest) = .ok ([], c :: rest) := by
  cases fuel with
  | zero => exact segments_zero _
  | succ fuel => simp [segments, dot, opening]

def dotted (path : Reads Path) (fuel : Nat) : Reads (List Segment) := fun text =>
  match text with
  | '*' :: rest => do
    let (more, rest) ← segments path fuel rest
    .ok (.wildcard :: more, rest)
  | rest => do
    let name := rest.takeWhile isNameChar
    if name = [] then .error (.missingField rest.length)
    else
      let (more, rest) ← segments path fuel (rest.dropWhile isNameChar)
      .ok (.field (String.ofList name) :: more, rest)

theorem segments_dot (fuel : Nat) (rest : List Char) :
    segments path (fuel + 1) ('.' :: rest) = dotted path fuel rest := by
  cases rest with
  | nil => rfl
  | cons c rest =>
    by_cases star : c = '*'
    · subst star
      rfl
    · simp only [segments, dotted, List.cons.injEq, star, false_and, imp_self, implies_true]

theorem local_dotted {fuel : Nat} (h : Local (segments path fuel)) : Local (dotted path fuel) := by
  have named (name : List Char) : Local fun rest =>
      if name = [] then .error (.missingField rest.length)
      else segments path fuel rest >>= fun (more, rest) =>
        .ok (Segment.field (String.ofList name) :: more, rest) := by
    split_ifs
    · exact .fail _
    · exact h.bind fun more => .pure _
  refine .of_first nofun fun c => ?_
  by_cases star : c = '*'
  · subst star
    have wildcard := h.bind fun more => .pure (Segment.wildcard :: more)
    exact ⟨_, wildcard.tail .openBracket, fun rest x => Iff.rfl⟩
  · refine ⟨_, (Local.span isNameChar).bind named, fun rest x => ?_⟩
    simp only [dotted, List.cons.injEq, star, false_and, imp_self, implies_true]
    by_cases empty : (c :: rest).takeWhile isNameChar = []
    · simp [empty]
    · simp only [ok_bind, if_neg empty]

theorem local_segments (h : Local path) (fuel : Nat) : Local (segments path fuel) := by
  induction fuel with
  | zero => exact (Local.pure []).congr fun text x => by rw [segments_zero]
  | succ fuel ih =>
    refine .of_first ?_ fun c => ?_
    · intro x done
      cases done
      rfl
    · by_cases dot : c = '.'
      · subst dot
        exact ⟨_, (local_dotted ih).tail .openBracket, fun rest x => by rw [segments_dot]⟩
      · by_cases opening : c = '['
        · subst opening
          have bracketed := (local_bracket h).bind fun segment => ih.bind fun more =>
            .pure (segment :: more)
          exact ⟨_, bracketed.tail .openBracket, fun rest x => Iff.rfl⟩
        · exact ⟨_, .pure [], fun rest x => by rw [segments_plain dot opening]⟩

end Steps

end StatusWatch.Condition.Parser
