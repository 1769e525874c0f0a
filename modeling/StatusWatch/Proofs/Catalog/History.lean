import StatusWatch.Proofs.Catalog

/-!
Catalogs by what was ever registered in them. However a catalog came about, by registrations and by
merges that go through the kinds of the other catalog in any order, it answers by the list of all
registrations, oldest first: a version as it was registered last, and by default the version of a
kind that was registered first. The laws of merging are those of joining such lists.
-/

namespace StatusWatch.Catalog

variable {a b c d merged other : Catalog} {gk : GroupKind} {log log' order : List Resource}
  {r : Resource}

def ofKind (c : Catalog) (gk : GroupKind) : List Resource :=
  c.resources.filter (·.groupKind = gk)

/-- The registrations of a catalog in an order that may differ from its own between kinds, but not
within a kind. -/
def Arranges (order : List Resource) (c : Catalog) : Prop :=
  ∀ gk, order.filter (·.groupKind = gk) = c.ofKind gk

/-- All registrations of another catalog are added, one kind's in their order. -/
def Merges (c other merged : Catalog) : Prop :=
  ∃ order, Arranges order other ∧ merged = order.foldl add c

theorem merges_merge (c other : Catalog) : Merges c other (c.merge other) :=
  ⟨other.resources, fun _ => rfl, rfl⟩

/-- Catalogs as they come about, with all that was registered in them and in those merged into them,
oldest first. -/
inductive Made : List Resource → Catalog → Prop
  | empty : Made [] .empty
  | add {log : List Resource} {c : Catalog} (made : Made log c) (r : Resource) :
      Made (log ++ [r]) (c.add r)
  | merge {log log' : List Resource} {c other merged : Catalog} (made : Made log c)
      (made' : Made log' other) (merges : Merges c other merged) : Made (log ++ log') merged

def SameAnswers (c d : Catalog) : Prop :=
  ∀ gk version, c.resolve gk version = d.resolve gk version

def firstVersion? (log : List Resource) (gk : GroupKind) : Option String :=
  (log.find? (·.groupKind = gk)).map Resource.version

theorem firstVersion?_append (log log' : List Resource) (gk : GroupKind) :
    firstVersion? (log ++ log') gk = (firstVersion? log gk).or (firstVersion? log' gk) := by
  rw [firstVersion?, List.find?_append, Option.map_or]
  rfl

section Arranged

theorem find?_ofKind (c : Catalog) (gk : GroupKind) (version : Option String) :
    c.find? gk version = (c.ofKind gk).find? fun r => version.all (r.version == ·) := by
  simp [find?, ofKind, List.find?_filter]

theorem Arranges.find? (h : Arranges order c) (gk : GroupKind) (version : Option String) :
    find? ⟨order⟩ gk version = c.find? gk version := by
  rw [find?_ofKind, find?_ofKind, ← h gk]
  rfl

theorem Arranges.perm (h : Arranges order c) : order.Perm c.resources := by
  refine List.perm_iff_count.mpr fun r => ?_
  -- A registration is counted within its kind, where both orders are the same.
  have same := congrArg (List.count r) (h r.groupKind)
  rwa [ofKind, List.count_filter (by simp), List.count_filter (by simp)] at same

theorem Arranges.distinct (h : Arranges order c) (distinct : c.Distinct) : Distinct ⟨order⟩ :=
  (h.perm.map Resource.key).nodup_iff.mpr distinct

end Arranged

theorem Distinct.merge (h : c.Distinct) (other : Catalog) : (c.merge other).Distinct := by
  obtain ⟨resources⟩ := other
  unfold Catalog.merge
  dsimp only
  induction resources generalizing c with
  | nil => exact h
  | cons r rest ih => exact ih (h.add r)

theorem find?_none_eq (c : Catalog) (gk : GroupKind) :
    c.find? gk none = (c.defaultVersion? gk).bind fun version => c.find? gk (some version) := by
  unfold defaultVersion?
  cases found : c.find? gk none with
  | none => rfl
  | some r => exact (find?_of_default found).symm

structure AnswersBy (c : Catalog) (log : List Resource) : Prop where
  distinct : c.Distinct
  latest : ∀ gk version,
    c.find? gk (some version) = (log.filter (·.key = (gk, version))).getLast?
  first : ∀ gk, c.defaultVersion? gk = firstVersion? log gk

namespace AnswersBy

theorem empty : AnswersBy .empty [] :=
  ⟨List.nodup_nil, fun _ _ => rfl, fun _ => rfl⟩

theorem single (r : Resource) : AnswersBy ⟨[r]⟩ [r] where
  distinct := List.nodup_singleton _
  latest gk version := by
    rw [find?_some_version]
    by_cases same : r.key = (gk, version) <;> simp [same]
  first gk := by
    rw [defaultVersion?, find?_none_version]
    rfl

theorem merge (h : c.AnswersBy log) (h' : other.AnswersBy log') (merges : Merges c other merged) :
    merged.AnswersBy (log ++ log') := by
  obtain ⟨order, arranges, rfl⟩ := merges
  change (c.merge ⟨order⟩).AnswersBy (log ++ log')
  refine ⟨h.distinct.merge _, fun gk version => ?_, fun gk => ?_⟩
  · rw [find?_merge (arranges.distinct h'.distinct), arranges.find?, h.latest, h'.latest,
      List.filter_append, List.getLast?_append]
  · rw [defaultVersion?_merge, firstVersion?_append, h.first, ← h'.first, defaultVersion?,
      arranges.find?]
    rfl

theorem add (h : c.AnswersBy log) (r : Resource) : (c.add r).AnswersBy (log ++ [r]) := by
  -- A registration is added like a catalog that holds nothing else.
  have merges : Merges c ⟨[r]⟩ (c.add r) := merges_merge c ⟨[r]⟩
  exact h.merge (single r) merges

theorem of_repeated (h : c.AnswersBy (log ++ log' ++ log')) : c.AnswersBy (log ++ log') where
  distinct := h.distinct
  latest gk version := by
    rw [h.latest, List.filter_append, List.filter_append, List.append_assoc, List.getLast?_append,
      List.getLast?_append, List.getLast?_append, Option.or_self]
  first gk := by
    rw [h.first, firstVersion?_append, firstVersion?_append, Option.or_assoc, Option.or_self]

theorem sameAnswers (h : c.AnswersBy log) (h' : d.AnswersBy log) : c.SameAnswers d := by
  intro gk version
  have same : c.find? gk version = d.find? gk version := by
    cases version with
    | some version => rw [h.latest, h'.latest]
    | none => simp only [find?_none_eq, h.latest, h'.latest, h.first, h'.first]
  rw [resolve, same]
  rfl

end AnswersBy

theorem Made.answersBy (made : Made log c) : c.AnswersBy log := by
  induction made with
  | empty => exact .empty
  | add made r ih => exact ih.add r
  | merge made made' merges ih ih' => exact ih.merge ih' merges

theorem AnswersBy.ofKind_ne_nil (h : c.AnswersBy log) :
    c.ofKind gk ≠ [] ↔ ∃ r ∈ log, r.groupKind = gk := by
  have head : (c.ofKind gk).head?.map Resource.version = firstVersion? log gk := by
    rw [← h.first, defaultVersion?, find?_none_version, ofKind, List.head?_filter]
  rw [← List.isSome_head?, ← Option.isSome_map (f := Resource.version), head, firstVersion?,
    Option.isSome_map, List.find?_isSome]
  simp

/-- A version of a kind is registered once, and a kind that was ever registered has a version. -/
structure WellKept (log : List Resource) (c : Catalog) : Prop where
  once : c.Distinct
  filled : ∀ gk, (∃ r ∈ log, r.groupKind = gk) ↔ c.ofKind gk ≠ []

/-- What a merged catalog answers, by the two that it is merged from. -/
structure AnswersFrom (log log' : List Resource) (c other merged : Catalog) : Prop where
  taken : ∀ gk version r, other.resolve gk (some version) = .ok r →
    merged.resolve gk (some version) = .ok r
  kept : ∀ gk version e, other.resolve gk (some version) = .error e →
    merged.resolve gk (some version) = c.resolve gk (some version)
  default : ∀ gk, (merged.resolve gk none).toOption.map Resource.version =
    (firstVersion? log gk).or (firstVersion? log' gk)

structure MergeLaws (log log' : List Resource) (a b c : Catalog) : Prop where
  wellKept : WellKept log a
  answers : ∀ merged, Merges a b merged → AnswersFrom log log' a b merged
  again : ∀ merged merged', Merges a b merged → Merges merged b merged' →
    merged'.SameAnswers merged
  itself : ∀ merged, Merges a a merged → merged.SameAnswers a
  assoc : ∀ ab left bc right, Merges a b ab → Merges ab c left → Merges b c bc →
    Merges a bc right → left.SameAnswers right
  /-- One at a time, in any order that keeps the order within each kind. -/
  anyOrder : ∀ order, Arranges order b → (order.foldl add a).SameAnswers (a.merge b)

theorem toOption_resolve (c : Catalog) (gk : GroupKind) (version : Option String) :
    (c.resolve gk version).toOption = c.find? gk version := by
  unfold resolve
  cases c.find? gk version <;> rfl

theorem resolve_eq_error {version : Option String} :
    (∃ e, c.resolve gk version = .error e) ↔ c.find? gk version = none := by
  unfold resolve
  cases c.find? gk version <;> simp

theorem answersFrom (h : a.AnswersBy log) (h' : b.AnswersBy log') (merges : Merges a b merged) :
    AnswersFrom log log' a b merged := by
  have joined := h.merge h' merges
  have latest (gk : GroupKind) (version : String) : merged.find? gk (some version) =
      (b.find? gk (some version)).or (a.find? gk (some version)) := by
    rw [joined.latest, List.filter_append, List.getLast?_append, h.latest, h'.latest]
  refine ⟨fun gk version r found => ?_, fun gk version e lacking => ?_, fun gk => ?_⟩
  · rw [resolve_eq_ok] at found ⊢
    rw [latest, found]
    rfl
  · have none := resolve_eq_error.mp ⟨e, lacking⟩
    rw [resolve, latest, none]
    rfl
  · rw [toOption_resolve, ← firstVersion?_append]
    exact joined.first gk

/-- Catalogs that were made by registrations and merges keep the laws of merging. -/
theorem merge_laws {p q s : List Resource} (ha : Made p a) (hb : Made q b) (hc : Made s c) :
    MergeLaws p q a b c where
  wellKept := ⟨ha.answersBy.distinct, fun _ => ha.answersBy.ofKind_ne_nil.symm⟩
  answers merged merges := answersFrom ha.answersBy hb.answersBy merges
  again merged merged' merges merges' := by
    have once := ha.answersBy.merge hb.answersBy merges
    exact (once.merge hb.answersBy merges').of_repeated.sameAnswers once
  itself merged merges := by
    have twice : merged.AnswersBy ([] ++ p ++ p) := ha.answersBy.merge ha.answersBy merges
    exact twice.of_repeated.sameAnswers ha.answersBy
  assoc ab left bc right onto ontoBoth inner outer := by
    have one := (ha.answersBy.merge hb.answersBy onto).merge hc.answersBy ontoBoth
    have other := ha.answersBy.merge (hb.answersBy.merge hc.answersBy inner) outer
    rw [List.append_assoc] at one
    exact one.sameAnswers other
  anyOrder order arranges := by
    have one := ha.answersBy.merge hb.answersBy ⟨order, arranges, rfl⟩
    exact one.sameAnswers (ha.answersBy.merge hb.answersBy (merges_merge a b))

/-- A version that both know, behind one that is new: it stays the default, under the new plural. -/
theorem merge_laws_widgets :
    let widget (version plural : String) : Resource :=
      ⟨"example.com", version, "Widget", plural, true⟩
    let a := Catalog.empty.add (widget "v1" "widgets")
    let b := (Catalog.empty.add (widget "v2" "widgets")).add (widget "v1" "things")
    let p := [widget "v1" "widgets"]
    let q := [widget "v2" "widgets", widget "v1" "things"]
    Made p a ∧ Made q b ∧ Made (p ++ q) (a.merge b) ∧ MergeLaws p q a b (a.merge b) ∧
      (a.merge b).resolve ⟨"example.com", "Widget"⟩ none = .ok (widget "v1" "things") := by
  intro widget a b p q
  have ha : Made p a := .add .empty _
  have hb : Made q b := .add (.add .empty _) _
  have hc : Made (p ++ q) (a.merge b) := .merge ha hb (merges_merge a b)
  exact ⟨ha, hb, hc, merge_laws ha hb hc, by decide +kernel⟩

end StatusWatch.Catalog
