import StatusWatch.Proofs.Condition.Steps

/-!
Neither bound of the condition reader is ever used up: a path has fewer segments than its text has
characters, and filters stand less deep in one another. So paths are local at any depth, and every
depth beyond the length of the text reads the same.
-/

namespace StatusWatch.Condition.Parser

open Text (isBlank skipBlanks)

section Segments

variable {path : Reads Path}

theorem segments_fuel (h : Local path) {text : List Char} {fuel other : Nat}
    (enough : text.length ≤ fuel) (enough' : text.length ≤ other) :
    segments path fuel text = segments path other text := by
  induction fuel generalizing text other with
  | zero =>
    rw [List.eq_nil_of_length_eq_zero (Nat.le_zero.mp enough)]
    cases other <;> rfl
  | succ fuel ih =>
    cases text with
    | nil => cases other <;> rfl
    | cons c text =>
      obtain ⟨other, rfl⟩ := Nat.exists_eq_succ_of_ne_zero (by grind : other ≠ 0)
      have shorter {rest : List Char} (fewer : rest.length ≤ text.length) :
          segments path fuel rest = segments path other rest := by
        simp only [List.length_cons] at enough enough'
        exact ih (by omega) (by omega)
      by_cases dot : c = '.'
      · subst dot
        rw [segments_dot, segments_dot]
        unfold dotted
        split
        case h_1 => rw [shorter (by simp)]
        case h_2 => rw [shorter (List.dropWhile_suffix _).length_le]
      · by_cases opening : c = '['
        · subst opening
          simp only [segments]
          cases found : bracket path text with
          | error e => rfl
          | ok result => rw [ok_bind, ok_bind, shorter ((local_bracket h).length_le found)]
        · rw [segments_plain dot opening, segments_plain dot opening]

def allSegments (path : Reads Path) : Reads (List Segment) := fun text =>
  segments path text.length text

theorem local_allSegments (h : Local path) : Local (allSegments path) := by
  intro text found rest done
  obtain ⟨taken, rfl, -⟩ := local_segments h _ text found rest done
  refine ⟨taken, rfl, fun c others left new => ?_⟩
  -- One bound that is enough before and after the exchange.
  let bound := (taken ++ rest).length + (taken ++ c :: new).length
  have done' : segments path bound (taken ++ rest) = .ok (found, rest) :=
    (segments_fuel h (Nat.le_add_right _ _) le_rfl).trans done
  obtain ⟨taken', split, exchange⟩ := local_segments h bound _ found rest done'
  rw [List.append_cancel_right_eq] at split
  subst split
  exact (segments_fuel h le_rfl (Nat.le_add_left _ _)).trans (exchange c others left new)

end Segments

theorem path_cons (depth : Nat) (c : Char) (rest : List Char) :
    path (depth + 1) (c :: rest) =
      if c = '$' then (allSegments (path depth) rest).map fun (s, rest) => (.mk .document s, rest)
      else if c = '@' then (allSegments (path depth) rest).map fun (s, rest) => (.mk .item s, rest)
      else .error (.badRoot c) := rfl

theorem local_path (depth : Nat) : Local (path depth) := by
  induction depth with
  | zero => exact .fail fun _ => .missingPath
  | succ depth ih =>
    refine .of_first nofun fun c => ?_
    simp only [path_cons]
    have rooted (root : Root) := (local_allSegments ih).map (Path.mk root)
    split_ifs with document item
    · exact ⟨_, (rooted .document).tail .openBracket, fun rest x => Iff.rfl⟩
    · exact ⟨_, (rooted .item).tail .openBracket, fun rest x => Iff.rfl⟩
    · exact ⟨_, .fail fun _ => .badRoot c, fun rest x => by simp⟩

theorem length_skipBlanks_le (text : List Char) : (skipBlanks text).length ≤ text.length :=
  (List.dropWhile_suffix isBlank).length_le

theorem expect_eq_ok {wanted : Char} {text rest : List Char} :
    expect wanted text = .ok rest ↔ text = wanted :: rest := by
  cases text with
  | nil => simp [expect]
  | cons c text =>
    by_cases same : c = wanted
    · simp [expect, same]
    · simp [expect, same]

/-- Two steps that do the same with texts up to a length. -/
def AgreeTo (n : Nat) (read other : Reads α) : Prop :=
  ∀ text : List Char, text.length ≤ n → read text = other text

section Depth

variable {p q : Reads Path} {n : Nat}

theorem operand_agree (h : AgreeTo n p q) : AgreeTo n (operand p) (operand q) := by
  intro text fits
  unfold operand
  rw [h text fits]

theorem predicateOf_agree (h : AgreeTo n p q) (left : Operand) :
    AgreeTo n (predicateOf p left) (predicateOf q left) := by
  intro text fits
  unfold predicateOf
  split
  case h_1 => rfl
  case h_2 =>
    cases found : comparison text with
    | error e => rfl
    | ok result =>
      have shorter := (length_skipBlanks_le _).trans (local_comparison.length_le found)
      simp only [ok_bind, operand_agree h _ (shorter.trans fits)]

theorem predicate_agree (hp : Local p) (h : AgreeTo n p q) :
    AgreeTo n (predicate p) (predicate q) := by
  intro text fits
  have same := operand_agree h _ ((length_skipBlanks_le text).trans fits)
  rw [predicate_eq, predicate_eq, ← same]
  cases found : operand p (skipBlanks text) with
  | error e => rfl
  | ok result =>
    have shorter := (length_skipBlanks_le _).trans ((local_operand hp).behindBlanks.length_le found)
    exact predicateOf_agree h result.1 _ (shorter.trans fits)

theorem bracketBody_agree (hp : Local p) (h : AgreeTo n p q) :
    AgreeTo n (bracketBody p) (bracketBody q) := by
  intro text fits
  cases text with
  | nil => rfl
  | cons c text =>
    by_cases filter : c = '?'
    · simp only [bracketBody, if_pos filter]
      cases opened : expect '(' (skipBlanks text) with
      | error e => rfl
      | ok rest =>
        have shorter : rest.length < (skipBlanks text).length := by
          rw [expect_eq_ok.mp opened]
          exact Nat.lt_succ_self _
        have fits' : rest.length ≤ n :=
          (shorter.le.trans (length_skipBlanks_le text)).trans (Nat.le_of_succ_le fits)
        rw [ok_bind, ok_bind, predicate_agree hp h rest fits']
    · simp only [bracketBody, if_neg filter]

theorem bracket_agree (hp : Local p) (h : AgreeTo n p q) : AgreeTo n (bracket p) (bracket q) := by
  intro text fits
  unfold bracket
  rw [bracketBody_agree hp h _ ((length_skipBlanks_le text).trans fits)]

theorem segments_agree (hp : Local p) (h : AgreeTo n p q) (fuel : Nat) :
    AgreeTo n (segments p fuel) (segments q fuel) := by
  intro text fits
  induction fuel generalizing text with
  | zero => rw [segments_zero, segments_zero]
  | succ fuel ih =>
    cases text with
    | nil => rfl
    | cons c text =>
      have fits' : text.length ≤ n := Nat.le_of_succ_le fits
      by_cases dot : c = '.'
      · subst dot
        rw [segments_dot, segments_dot]
        unfold dotted
        split
        case h_1 => rw [ih _ (Nat.le_of_succ_le fits')]
        case h_2 => rw [ih _ ((List.dropWhile_suffix _).length_le.trans fits')]
      · by_cases opening : c = '['
        · subst opening
          simp only [segments]
          rw [← bracket_agree hp h text fits']
          cases found : bracket p text with
          | error e => rfl
          | ok result =>
            rw [ok_bind, ok_bind, ih _ (((local_bracket hp).length_le found).trans fits')]
        · rw [segments_plain dot opening, segments_plain dot opening]

/-- A depth beyond the length of the text is never used up. -/
theorem path_agree {depth other : Nat} (deep : n < depth) (deep' : n < other) :
    AgreeTo n (path depth) (path other) := by
  induction n generalizing depth other with
  | zero =>
    intro text fits
    rw [List.eq_nil_of_length_eq_zero (Nat.le_zero.mp fits)]
    cases depth <;> cases other <;> rfl
  | succ n ih =>
    obtain ⟨depth, rfl⟩ := Nat.exists_eq_succ_of_ne_zero (Nat.ne_zero_of_lt deep)
    obtain ⟨other, rfl⟩ := Nat.exists_eq_succ_of_ne_zero (Nat.ne_zero_of_lt deep')
    intro text fits
    cases text with
    | nil => rfl
    | cons c text =>
      have agree := ih (Nat.lt_of_succ_lt_succ deep) (Nat.lt_of_succ_lt_succ deep')
      have same := segments_agree (local_path depth) agree text.length text
        (Nat.le_of_succ_le_succ fits)
      rw [path_cons, path_cons, allSegments, allSegments, same]

end Depth

end StatusWatch.Condition.Parser
