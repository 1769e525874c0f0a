import StatusWatch.Condition.Eval

/-!
The six comparisons of two operands, side by side. All fail alike if an operand leads to no single
value or the two values are of different kinds. Otherwise the values stand in one order, which each
comparison reads in its own way. Truth values and nulls are the exception: they can be equal or not,
but neither comes before the other.
-/

namespace StatusWatch.Condition

def EvalFault.absentField? : EvalFault → Option String
  | .absent field => some field
  | _ => none

/-- Two comparisons that fail for want of the same field, or both for another reason, or of which
exactly one holds. -/
inductive Opposed : Except EvalFault Bool → Except EvalFault Bool → Prop
  | failed {f g : EvalFault} (alike : f.absentField? = g.absentField?) :
      Opposed (.error f) (.error g)
  | decided (holds : Bool) : Opposed (.ok holds) (.ok !holds)

/-- Of three comparisons exactly one holds, and none fails. -/
inductive OneHolds :
    Except EvalFault Bool → Except EvalFault Bool → Except EvalFault Bool → Prop
  | first : OneHolds (.ok true) (.ok false) (.ok false)
  | second : OneHolds (.ok false) (.ok true) (.ok false)
  | third : OneHolds (.ok false) (.ok false) (.ok true)

/-- Values that can be equal but have no order. -/
inductive Unordered : Json → Json → Prop
  | flags (a b : Bool) : Unordered (.bool a) (.bool b)
  | nulls : Unordered .null .null

namespace Comparison

def isEquality : Comparison → Bool
  | .eq => true
  | .ne => true
  | _ => false

def opposite : Comparison → Comparison
  | .eq => .ne
  | .ne => .eq
  | .lt => .ge
  | .ge => .lt
  | .gt => .le
  | .le => .gt

theorem accepts_opposite (op : Comparison) (order : Ordering) :
    op.opposite.accepts order = !op.accepts order := by
  cases op <;> cases order <;> rfl

theorem isEquality_opposite (op : Comparison) : op.opposite.isEquality = op.isEquality := by
  cases op <;> rfl

theorem isEquality_iff (op : Comparison) : op.isEquality = true ↔ op = .eq ∨ op = .ne := by
  cases op <;> simp [isEquality]

end Comparison

theorem order?_cases (a b : Json) :
    (∃ order, ∀ op, order? a op b = some order) ∨
      (Unordered a b ∧ ∃ order, ∀ op, order? a op b = if op.isEquality then some order else none) ∨
      ∀ op, order? a op b = none := by
  cases a with
  | num x =>
    cases b with
    | num y => exact .inl ⟨compareNumbers x y, fun _ => rfl⟩
    | _ => exact .inr (.inr fun _ => rfl)
  | str s =>
    cases b with
    | str t => exact .inl ⟨compare s t, fun _ => rfl⟩
    | _ => exact .inr (.inr fun _ => rfl)
  | bool p =>
    cases b with
    | bool q =>
      refine .inr (.inl ⟨.flags p q, compare p q, fun op => ?_⟩)
      simp [order?, op.isEquality_iff]
    | _ => exact .inr (.inr fun _ => rfl)
  | null =>
    cases b with
    | null =>
      refine .inr (.inl ⟨.nulls, .eq, fun op => ?_⟩)
      simp [order?, op.isEquality_iff]
    | _ => exact .inr (.inr fun _ => rfl)
  | arr items => exact .inr (.inr fun _ => rfl)
  | obj fields => exact .inr (.inr fun _ => rfl)

section Operands

variable (left right : Operand) (document item : Json)

def verdict (op : Comparison) : Except EvalFault Bool :=
  (Predicate.compare left op right).test document item

inductive Verdicts : Prop
  | failed (field : Option String)
      (all : ∀ op, ∃ f, verdict left right document item op = .error f ∧ f.absentField? = field)
  | ordered (order : Ordering)
      (all : ∀ op, verdict left right document item op = .ok (op.accepts order))
  | unordered {a b : Json} (order : Ordering) (here : left.resolve document item = .ok a)
      (there : right.resolve document item = .ok b) (values : Unordered a b)
      (equality : ∀ op, op.isEquality = true →
        verdict left right document item op = .ok (op.accepts order))
      (others : ∀ op, op.isEquality = false →
        ∃ f, verdict left right document item op = .error f ∧ f.absentField? = none)

variable {left right document item}

theorem verdict_of_resolved {a b : Json} (here : left.resolve document item = .ok a)
    (there : right.resolve document item = .ok b) (op : Comparison) :
    verdict left right document item op = compareValues a op b := by
  rw [verdict, Predicate.test, here, there]
  rfl

theorem verdict_of_unresolved {f : EvalFault} (failed : left.resolve document item = .error f ∨
      (∃ a, left.resolve document item = .ok a) ∧ right.resolve document item = .error f)
    (op : Comparison) : verdict left right document item op = .error f := by
  rw [verdict, Predicate.test]
  rcases failed with here | ⟨⟨a, here⟩, there⟩
  · rw [here]
    rfl
  · rw [here, there]
    rfl

theorem compareValues_of_some {a b : Json} {op : Comparison} {order : Ordering}
    (h : order? a op b = some order) : compareValues a op b = .ok (op.accepts order) := by
  rw [compareValues, h]

theorem compareValues_of_none {a b : Json} {op : Comparison} (h : order? a op b = none) :
    ∃ f, compareValues a op b = .error f ∧ f.absentField? = none := by
  rw [compareValues, h]
  exact ⟨_, rfl, rfl⟩

variable (left right document item)

theorem verdicts : Verdicts left right document item := by
  cases here : left.resolve document item with
  | error f =>
    exact .failed f.absentField? fun op => ⟨f, verdict_of_unresolved (.inl here) op, rfl⟩
  | ok a =>
    cases there : right.resolve document item with
    | error f =>
      exact .failed f.absentField? fun op =>
        ⟨f, verdict_of_unresolved (.inr ⟨⟨a, here⟩, there⟩) op, rfl⟩
    | ok b =>
      have resolved := verdict_of_resolved here there
      rcases order?_cases a b with ⟨order, all⟩ | ⟨values, order, all⟩ | none
      · exact .ordered order fun op => (resolved op).trans (compareValues_of_some (all op))
      · refine .unordered order here there values (fun op equality => ?_) fun op other => ?_
        · rw [resolved]
          exact compareValues_of_some ((all op).trans (if_pos equality))
        · rw [resolved]
          exact compareValues_of_none ((all op).trans (if_neg (by simp [other])))
      · refine .failed Option.none fun op => ?_
        rw [resolved]
        exact compareValues_of_none (none op)

variable {left right document item}

theorem opposed_opposite (op : Comparison) :
    Opposed (verdict left right document item op)
      (verdict left right document item op.opposite) := by
  cases verdicts left right document item with
  | failed field all =>
    obtain ⟨f, failed, hf⟩ := all op
    obtain ⟨g, failed', hg⟩ := all op.opposite
    rw [failed, failed']
    exact .failed (hf.trans hg.symm)
  | ordered order all =>
    rw [all, all, Comparison.accepts_opposite]
    exact .decided _
  | unordered order _ _ _ equality others =>
    -- A comparison and its opposite are both equalities or neither is.
    cases kind : op.isEquality with
    | true =>
      rw [equality op kind, equality op.opposite (op.isEquality_opposite.trans kind),
        Comparison.accepts_opposite]
      exact .decided _
    | false =>
      obtain ⟨f, failed, hf⟩ := others op kind
      obtain ⟨g, failed', hg⟩ := others op.opposite (op.isEquality_opposite.trans kind)
      rw [failed, failed']
      exact .failed (hf.trans hg.symm)

theorem ordered_of_lt {b : Bool} (succeeds : verdict left right document item .lt = .ok b) :
    ∃ order, ∀ op, verdict left right document item op = .ok (op.accepts order) := by
  cases verdicts left right document item with
  | failed field all =>
    obtain ⟨f, failed, -⟩ := all .lt
    cases failed.symm.trans succeeds
  | ordered order all => exact ⟨order, all⟩
  | unordered order _ _ _ _ others =>
    obtain ⟨f, failed, -⟩ := others .lt rfl
    cases failed.symm.trans succeeds

theorem unordered_of_lt {f : EvalFault} {b : Bool}
    (fails : verdict left right document item .lt = .error f)
    (succeeds : verdict left right document item .eq = .ok b) :
    ∃ a b, left.resolve document item = .ok a ∧ right.resolve document item = .ok b ∧
      Unordered a b := by
  cases verdicts left right document item with
  | failed field all =>
    obtain ⟨f, failed, -⟩ := all .eq
    cases failed.symm.trans succeeds
  | ordered order all => cases fails.symm.trans (all .lt)
  | unordered order here there values => exact ⟨_, _, here, there, values⟩

variable (left right document item)

structure Coherent : Prop where
  eq_ne : Opposed (verdict left right document item .eq) (verdict left right document item .ne)
  lt_ge : Opposed (verdict left right document item .lt) (verdict left right document item .ge)
  gt_le : Opposed (verdict left right document item .gt) (verdict left right document item .le)
  trichotomy : (∃ b, verdict left right document item .lt = .ok b) →
    OneHolds (verdict left right document item .lt) (verdict left right document item .eq)
      (verdict left right document item .gt)
  le_iff : (∃ b, verdict left right document item .lt = .ok b) →
    (verdict left right document item .le = .ok true ↔
      verdict left right document item .lt = .ok true ∨
        verdict left right document item .eq = .ok true)
  unordered : (∃ f, verdict left right document item .lt = .error f) →
    (∃ b, verdict left right document item .eq = .ok b) →
    ∃ a b, left.resolve document item = .ok a ∧ right.resolve document item = .ok b ∧
      Unordered a b

/-- Two operands at any item compare in one way, whichever comparison is asked. -/
theorem compare_coherent : Coherent left right document item where
  eq_ne := opposed_opposite .eq
  lt_ge := opposed_opposite .lt
  gt_le := opposed_opposite .gt
  trichotomy := by
    rintro ⟨b, succeeds⟩
    obtain ⟨order, all⟩ := ordered_of_lt succeeds
    rw [all, all, all]
    cases order with
    | lt => exact .first
    | eq => exact .second
    | gt => exact .third
  le_iff := by
    rintro ⟨b, succeeds⟩
    obtain ⟨order, all⟩ := ordered_of_lt succeeds
    simp only [all, Except.ok.injEq]
    cases order <;> decide
  unordered := by
    rintro ⟨f, fails⟩ ⟨b, succeeds⟩
    exact unordered_of_lt fails succeeds

end Operands

end StatusWatch.Condition
