import StatusWatch.Condition
import StatusWatch.Proofs.Rearranged
import StatusWatch.Proofs.Success

/-!
Conditions and the order of arrays. A path that counts no positions leads to the same values in some
order, or fails on both sides, though perhaps with another fault; so no condition without an index
tells apart two objects that differ in the order of their arrays.
-/

namespace StatusWatch.Condition

/-- Both succeed, with related results, or both fail. -/
inductive SameUpTo (R : α → β → Prop) : Except ε α → Except ε β → Prop
  | ok {a : α} {b : β} (related : R a b) : SameUpTo R (.ok a) (.ok b)
  | error (e f : ε) : SameUpTo R (.error e) (.error f)

theorem SameUpTo.bind {R : α → β → Prop} {S : γ → δ → Prop} {x : Except ε α} {y : Except ε β}
    {f : α → Except ε γ} {g : β → Except ε δ} (h : SameUpTo R x y)
    (related : ∀ a b, R a b → SameUpTo S (f a) (g b)) : SameUpTo S (x >>= f) (y >>= g) := by
  cases h with
  | ok here => exact related _ _ here
  | error e f => exact .error e f

section Gather

/-- Everything that the members of a list lead to; the first failure ends the search. -/
def gather (f : α → Except ε (List β)) : List α → Except ε (List β)
  | [] => .ok []
  | a :: rest => do
    let found ← f a
    let more ← gather f rest
    .ok (found ++ more)

def foundBy (f : α → Except ε (List β)) (a : α) : List β :=
  (f a).toOption.getD []

variable {R : α → β → Prop} {S : γ → δ → Prop} {l : List α} {m : List β}
  {f : α → Except ε (List γ)} {g : β → Except ε (List δ)}

theorem gather_of_ok (fine : ∀ a ∈ l, ∃ found, f a = .ok found) :
    gather f l = .ok (l.flatMap (foundBy f)) := by
  induction l with
  | nil => rfl
  | cons a rest ih =>
    rw [List.forall_mem_cons] at fine
    obtain ⟨⟨found, here⟩, fine⟩ := fine
    simp [gather, here, ih fine, foundBy, Except.toOption]

theorem gather_of_not_ok (failed : ¬∀ a ∈ l, ∃ found, f a = .ok found) :
    ∃ e, gather f l = .error e := by
  induction l with
  | nil => exact absurd nofun failed
  | cons a rest ih =>
    cases here : f a with
    | error e => exact ⟨e, by simp [gather, here]⟩
    | ok found =>
      obtain ⟨e, later⟩ := ih fun fine => failed (List.forall_mem_cons.mpr ⟨⟨found, here⟩, fine⟩)
      exact ⟨e, by simp [gather, here, later]⟩

theorem SameUpTo.foundBy {a : α} {b : β} (h : SameUpTo (Shuffled S) (f a) (g b)) :
    Shuffled S (foundBy f a) (foundBy g b) := by
  unfold Condition.foundBy
  generalize f a = x at h ⊢
  generalize g b = y at h ⊢
  cases h with
  | ok related => exact related
  | error => exact .nil

/-- The order in which the members stand decides at most which failure ends the search. -/
theorem gather_shuffled (h : Shuffled R l m)
    (related : ∀ a b, R a b → SameUpTo (Shuffled S) (f a) (g b)) :
    SameUpTo (Shuffled S) (gather f l) (gather g m) := by
  have fine : (∀ a ∈ l, ∃ found, f a = .ok found) ↔ ∀ b ∈ m, ∃ found, g b = .ok found := by
    refine h.forall_iff fun a b here => ?_
    have same := related a b here
    generalize f a = x at same ⊢
    generalize g b = y at same ⊢
    cases same with
    | ok => simp
    | error => simp
  by_cases all : ∀ a ∈ l, ∃ found, f a = .ok found
  · rw [gather_of_ok all, gather_of_ok (fine.mp all)]
    exact .ok (h.flatMap fun a b here => (related a b here).foundBy)
  · obtain ⟨e, failed⟩ := gather_of_not_ok all
    obtain ⟨e', failed'⟩ := gather_of_not_ok (mt fine.mpr all)
    rw [failed, failed']
    exact .error e e'

end Gather

variable {a b : Json} {values values' : List Json}

abbrev Alike := Shuffled Json.Rearranged

theorem filterItems_eq (test : Json → Except EvalFault Bool) (items : List Json) :
    filterItems test items = gather (fun item => do
      let passes ← test item
      .ok (if passes then [item] else [])) items := by
  induction items with
  | nil => rfl
  | cons item rest ih =>
    rw [filterItems, gather, ih]
    cases test item with
    | error fault => rfl
    | ok passes => cases passes <;> rfl

theorem selectItems_eq (test : Json → Except EvalFault Bool) (values : List Json) :
    selectItems test values = gather (fun value =>
      match value with
      | .arr items => filterItems test items
      | other => .error (.notList other.kindName)) values := by
  induction values with
  | nil => rfl
  | cons value rest ih =>
    cases value with
    | arr items => rw [selectItems, gather, ih]
    | _ => rfl

theorem filterItems_alike {test test' : Json → Except EvalFault Bool}
    (same : ∀ a b, a.Rearranged b → SameUpTo (· = ·) (test a) (test' b)) (h : Alike values values') :
    SameUpTo Alike (filterItems test values) (filterItems test' values') := by
  rw [filterItems_eq, filterItems_eq]
  refine gather_shuffled h fun a b here => (same a b here).bind ?_
  rintro passes _ rfl
  cases passes with
  | true => exact .ok (.of_forall₂ (.cons here .nil))
  | false => exact .ok .nil

theorem selectItems_alike {test test' : Json → Except EvalFault Bool}
    (same : ∀ a b, a.Rearranged b → SameUpTo (· = ·) (test a) (test' b)) (h : Alike values values') :
    SameUpTo Alike (selectItems test values) (selectItems test' values') := by
  rw [selectItems_eq, selectItems_eq]
  refine gather_shuffled h fun a b here => ?_
  cases here with
  | arr perm each => exact filterItems_alike same ⟨_, perm, each⟩
  | _ => exact .error _ _

theorem selectField_alike (name : String) (h : Alike values values') :
    SameUpTo Alike (selectField name values) (selectField name values') := by
  have found : Alike (values.filterMap (·.get? name)) (values'.filterMap (·.get? name)) := by
    simp only [List.filterMap_eq_flatMap_toList]
    exact h.flatMap fun a b here => .of_forall₂ (here.get? name)
  have length := found.length_eq
  unfold selectField
  generalize values.filterMap (·.get? name) = l at found length ⊢
  generalize values'.filterMap (·.get? name) = m at found length ⊢
  cases l with
  | nil =>
    cases m with
    | nil => exact .error _ _
    | cons => cases length
  | cons =>
    cases m with
    | nil => cases length
    | cons => exact .ok found

theorem children_alike (h : a.Rearranged b) : Alike (children a) (children b) := by
  cases h with
  | arr perm each => exact ⟨_, perm, each⟩
  | obj names each => exact .of_forall₂ each
  | _ => exact .nil

theorem single_alike (path : Path) (h : Alike values values') :
    SameUpTo Json.Rearranged (single path values) (single path values') := by
  have length := h.length_eq
  match values, values', length with
  | [], [], _ => exact .error _ _
  | [a], [b], _ => exact .ok h.of_singleton
  | _ :: _ :: _, _ :: _ :: _, _ => exact .error _ _

theorem order?_congr {left left' right right' : Json} (hl : left.Rearranged left')
    (hr : right.Rearranged right') (comparison : Comparison) :
    order? left comparison right = order? left' comparison right' := by
  cases hl <;> cases hr <;> rfl

theorem compareValues_alike {left left' right right' : Json} (hl : left.Rearranged left')
    (hr : right.Rearranged right') (comparison : Comparison) :
    SameUpTo (· = ·) (compareValues left comparison right)
      (compareValues left' comparison right') := by
  unfold compareValues
  rw [order?_congr hl hr]
  cases order? left' comparison right' with
  | none => exact .error _ _
  | some order => exact .ok rfl

mutual

/-- No segment of the path, nor of those in its filters, counts positions. -/
def Path.Unindexed : Path → Prop
  | .mk _ segments => Segment.AllUnindexed segments

def Segment.AllUnindexed : List Segment → Prop
  | [] => True
  | segment :: rest => segment.Unindexed ∧ Segment.AllUnindexed rest

def Segment.Unindexed : Segment → Prop
  | .field _ => True
  | .index _ => False
  | .wildcard => True
  | .filter p => p.Unindexed

def Predicate.Unindexed : Predicate → Prop
  | .present path => path.Unindexed
  | .compare left _ right => left.Unindexed ∧ right.Unindexed

def Operand.Unindexed : Operand → Prop
  | .path path => path.Unindexed
  | .literal _ => True

end

section Evaluation

variable {document document' : Json}

/-- Presence is where a path that fails and one that leads nowhere count alike. -/
theorem present_alike {path : Path} {item item' : Json}
    (found : SameUpTo Alike (path.eval document item) (path.eval document' item')) :
    SameUpTo (· = ·) ((Predicate.present path).test document item)
      ((Predicate.present path).test document' item') := by
  simp only [Predicate.test]
  generalize path.eval document item = x at found ⊢
  generalize path.eval document' item' = y at found ⊢
  cases found with
  | ok alike => exact .ok (by rw [alike.isEmpty_eq])
  | error => exact .ok rfl

mutual

theorem Path.eval_alike (hd : document.Rearranged document') :
    ∀ path : Path, path.Unindexed → ∀ {item item' : Json}, item.Rearranged item' →
      SameUpTo Alike (path.eval document item) (path.eval document' item')
  | .mk .document segments, unindexed, _, _, _ =>
    Segment.evalAll_alike hd segments unindexed (.of_forall₂ (.cons hd .nil))
  | .mk .item segments, unindexed, _, _, hi =>
    Segment.evalAll_alike hd segments unindexed (.of_forall₂ (.cons hi .nil))

theorem Segment.evalAll_alike (hd : document.Rearranged document') :
    ∀ segments : List Segment, Segment.AllUnindexed segments →
      ∀ {values values' : List Json}, Alike values values' →
        SameUpTo Alike (evalSegments document segments values)
          (evalSegments document' segments values')
  | [], _, _, _, h => .ok h
  | segment :: rest, ⟨first, others⟩, _, _, h =>
    (segment.eval_alike hd first h).bind fun _ _ => Segment.evalAll_alike hd rest others

theorem Segment.eval_alike (hd : document.Rearranged document') :
    ∀ segment : Segment, segment.Unindexed → ∀ {values values' : List Json}, Alike values values' →
      SameUpTo Alike (segment.eval document values) (segment.eval document' values')
  | .field name, _, _, _, h => selectField_alike name h
  | .wildcard, _, _, _, h => .ok (h.flatMap fun _ _ => children_alike)
  | .filter p, unindexed, _, _, h => selectItems_alike (fun _ _ => p.test_alike hd unindexed) h

theorem Predicate.test_alike (hd : document.Rearranged document') :
    ∀ p : Predicate, p.Unindexed → ∀ {item item' : Json}, item.Rearranged item' →
      SameUpTo (· = ·) (p.test document item) (p.test document' item')
  | .present path, unindexed, _, _, hi => present_alike (path.eval_alike hd unindexed hi)
  | .compare left comparison right, ⟨unindexed, unindexed'⟩, _, _, hi =>
    (left.resolve_alike hd unindexed hi).bind fun _ _ first =>
      (right.resolve_alike hd unindexed' hi).bind fun _ _ second =>
        compareValues_alike first second comparison

theorem Operand.resolve_alike (hd : document.Rearranged document') :
    ∀ operand : Operand, operand.Unindexed → ∀ {item item' : Json}, item.Rearranged item' →
      SameUpTo Json.Rearranged (operand.resolve document item) (operand.resolve document' item')
  | .literal value, _, _, _, _ => .ok (.refl value.toJson)
  | .path path, unindexed, _, _, hi =>
    (path.eval_alike hd unindexed hi).bind fun _ _ => single_alike path

end

end Evaluation

/-- Whether the object matches, unless a field is absent or the evaluation fails. -/
def verdict? (c : Condition) (object : Json) : Option Bool :=
  match c.evaluate object with
  | .ok .matched => some true
  | .ok .notMatched => some false
  | .ok (.absent _) => none
  | .error _ => none

theorem wrapObject_rearranged {object other : Json} (h : object.Rearranged other) :
    (wrapObject object).Rearranged (wrapObject other) :=
  .obj rfl (.cons (.arr (.refl [object]) (.cons h .nil)) .nil)

/-- A condition that compiles and counts no positions has the same verdict, if any, on two objects
that differ in the order of their arrays only. -/
theorem verdict?_rearranged (c : Condition) {path : Path} (compiles : c.compile = .ok path)
    (unindexed : path.Unindexed) {object other : Json} (h : object.Rearranged other) :
    c.verdict? object = c.verdict? other := by
  have wrapped := wrapObject_rearranged h
  have found := path.eval_alike wrapped unindexed wrapped
  unfold verdict? evaluate
  rw [compiles]
  simp only [ok_bind]
  generalize path.eval (wrapObject object) (wrapObject object) = x at found ⊢
  generalize path.eval (wrapObject other) (wrapObject other) = y at found ⊢
  cases found with
  | error e f => cases e <;> cases f <;> rfl
  | @ok values values' alike =>
    match values, values', alike.length_eq with
    | [], [], _ => rfl
    | [_], [_], _ => rfl
    | _ :: _ :: _, _ :: _ :: _, _ => rfl

theorem verdict?_rearranged_conditions :
    let c : Condition := ⟨"@.conditions[?(@.type=='Ready')].status=='True'"⟩
    let isReady : Predicate :=
      .compare (.path (.mk .item [.field "type"])) .eq (.literal (.text "Ready"))
    let path : Path := .mk .document [.field "items", .filter
      (.compare (.path (.mk .item [.field "conditions", .filter isReady, .field "status"])) .eq
        (.literal (.text "True")))]
    let ready : Json := .obj [("status", .str "True"), ("type", .str "Ready")]
    let stalled : Json := .obj [("status", .str "False"), ("type", .str "Stalled")]
    let object (conditions : List Json) : Json := .obj [("conditions", .arr conditions)]
    c.compile = .ok path ∧ path.Unindexed ∧
      (object [stalled, ready]).Rearranged (object [ready, stalled]) ∧
      c.verdict? (object [stalled, ready]) = c.verdict? (object [ready, stalled]) := by
  intro c isReady path ready stalled object
  have compiles : c.compile = .ok path := by
    dsimp only [c, path, isReady]
    rfl
  have unindexed : path.Unindexed := by simp [path, isReady, Path.Unindexed,
    Segment.AllUnindexed, Segment.Unindexed, Predicate.Unindexed, Operand.Unindexed]
  have order : (object [stalled, ready]).Rearranged (object [ready, stalled]) :=
    .obj rfl (.cons (.arr (.swap ready stalled []) (Json.Rearranged.refl_items _)) .nil)
  exact ⟨compiles, unindexed, order, verdict?_rearranged c compiles unindexed order⟩

end StatusWatch.Condition
