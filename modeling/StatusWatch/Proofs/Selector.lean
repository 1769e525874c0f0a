import StatusWatch.Proofs.Fields
import StatusWatch.Selector

/-!
Selectors as conjunctions. A pair demands what a requirement of one value demands; so a selector is
a list of demands, and labels match it just if they meet each of them, in whatever order and however
often they are made. What two selectors demand together is what both of them match.
-/

namespace StatusWatch

variable {labels : Labels}

namespace Requirement

def ofPair (pair : String × String) : Requirement :=
  ⟨pair.1, "In", some [pair.2]⟩

theorem holds_ofPair (pair : String × String) (labels : Labels) :
    (ofPair pair).holds labels = (labels.lookup pair.1 == some pair.2) := by
  cases found : labels.lookup pair.1 with
  | none => simp [ofPair, holds, found]
  | some value => simp [ofPair, holds, found, Bool.beq_eq_decide_eq]

theorem holds_notIn (key : String) (values : Option (List String)) (labels : Labels) :
    (Requirement.mk key "NotIn" values).holds labels =
      !(Requirement.mk key "In" values).holds labels := by
  cases found : labels.lookup key with
  | none => simp [holds, found]
  | some value => simp [holds, found]

theorem holds_doesNotExist (key : String) (values values' : Option (List String))
    (labels : Labels) :
    (Requirement.mk key "DoesNotExist" values).holds labels =
      !(Requirement.mk key "Exists" values').holds labels := by
  cases found : labels.lookup key with
  | none => simp [holds, found]
  | some value => simp [holds, found]

end Requirement

namespace Selector

variable {s t u : Selector}

def pairs (s : Selector) : List (String × String) :=
  s.matchLabels.getD []

def requirements (s : Selector) : List Requirement :=
  s.matchExpressions.getD []

def demands (s : Selector) : List Requirement :=
  s.pairs.map .ofPair ++ s.requirements

def asks (r : Requirement) : Selector :=
  ⟨none, some [r]⟩

theorem holds_asks (r : Requirement) (labels : Labels) : (asks r).holds labels = r.holds labels := by
  simp [asks, holds]

theorem holds_iff : s.holds labels = true ↔ ∀ r ∈ s.demands, r.holds labels = true := by
  rw [demands, List.forall_mem_append, List.forall_mem_map]
  simp only [Requirement.holds_ofPair]
  simp [holds, pairs, requirements]

theorem holds_of_subset (h : s.demands ⊆ t.demands) (matched : t.holds labels = true) :
    s.holds labels = true := by
  rw [holds_iff] at matched ⊢
  intro r mem
  exact matched r (h mem)

theorem holds_congr (h : ∀ r, r ∈ s.demands ↔ r ∈ t.demands) : s.holds labels = t.holds labels := by
  rw [Bool.eq_iff_iff]
  constructor
  · exact holds_of_subset fun r mem => (h r).mpr mem
  · exact holds_of_subset fun r mem => (h r).mp mem

theorem holds_of_union (h : ∀ r, r ∈ u.demands ↔ r ∈ s.demands ∨ r ∈ t.demands) :
    u.holds labels = (s.holds labels && t.holds labels) := by
  rw [Bool.eq_iff_iff, Bool.and_eq_true, holds_iff, holds_iff, holds_iff]
  simp only [h, or_imp, forall_and]

theorem mem_demands {r : Requirement} :
    r ∈ s.demands ↔ (∃ pair ∈ s.pairs, Requirement.ofPair pair = r) ∨ r ∈ s.requirements := by
  rw [demands, List.mem_append, List.mem_map]

theorem holds_of_extended (pairs : s.pairs ⊆ t.pairs)
    (requirements : s.requirements ⊆ t.requirements) :
    t.holds labels = true → s.holds labels = true := by
  apply holds_of_subset
  intro r
  rw [mem_demands, mem_demands]
  rintro (⟨pair, mem, made⟩ | own)
  · exact .inl ⟨pair, pairs mem, made⟩
  · exact .inr (requirements own)

/-- No two pairs ask for different values of one label. -/
def Agree (pairs : List (String × String)) : Prop :=
  ∀ key value other, (key, value) ∈ pairs → (key, other) ∈ pairs → other = value

theorem Agree.mono {pairs more : List (String × String)} (within : pairs ⊆ more)
    (agree : Agree more) : Agree pairs :=
  fun key value other here there => agree key value other (within here) (within there)

def putPairs (pairs more : List (String × String)) : List (String × String) :=
  more.foldl (fun done pair => Json.putField pair.1 pair.2 done) pairs

theorem mem_putPairs {pairs more : List (String × String)} (agree : Agree (pairs ++ more))
    (pair : String × String) : pair ∈ putPairs pairs more ↔ pair ∈ pairs ∨ pair ∈ more := by
  induction more generalizing pairs with
  | nil => simp [putPairs]
  | cons first rest ih =>
    obtain ⟨key, value⟩ := first
    have kept : ∀ other, (key, other) ∈ pairs → other = value := by
      intro other mem
      exact agree key value other (by simp) (List.mem_append_left _ mem)
    have put := Json.mem_putField kept
    have within : Json.putField key value pairs ++ rest ⊆ pairs ++ (key, value) :: rest := by
      intro field mem
      rw [List.mem_append, put] at mem
      rcases mem with (rfl | old) | behind
      · simp
      · exact List.mem_append_left _ old
      · exact List.mem_append_right _ (List.mem_cons_of_mem _ behind)
    have behind := ih (agree.mono within)
    rw [put] at behind
    rw [List.mem_cons, ← or_assoc, @or_comm (pair ∈ pairs)]
    exact behind

def withPair (s : Selector) (key value : String) : Selector :=
  { s with matchLabels := some (Json.putField key value s.pairs) }

def withRequirement (s : Selector) (r : Requirement) : Selector :=
  { s with matchExpressions := some (s.requirements ++ [r]) }

/-- The pairs of both selectors as one map, and the requirements of both. -/
def join (s t : Selector) : Selector where
  matchLabels := some (putPairs s.pairs t.pairs)
  matchExpressions := some (s.requirements ++ t.requirements)

theorem mem_demands_join (agree : Agree (s.pairs ++ t.pairs)) (r : Requirement) :
    r ∈ (s.join t).demands ↔ r ∈ s.demands ∨ r ∈ t.demands := by
  have pairs : (s.join t).pairs = putPairs s.pairs t.pairs := rfl
  have requirements : (s.join t).requirements = s.requirements ++ t.requirements := rfl
  simp only [mem_demands, pairs, requirements, mem_putPairs agree, List.mem_append, or_and_right,
    exists_or]
  exact or_or_or_comm

structure Lawful (s : Selector) (labels : Labels) : Prop where
  conjunction : s.holds labels = true ↔
    (∀ pair ∈ s.pairs, labels.lookup pair.1 = some pair.2) ∧
      ∀ r ∈ s.requirements, (asks r).holds labels = true
  replaced : ∀ kept gone : List (String × String),
    (∀ pair, pair ∈ s.pairs ↔ pair ∈ kept ∨ pair ∈ gone) →
      (Selector.mk (some kept) (some (gone.map .ofPair ++ s.requirements))).holds labels =
        s.holds labels
  extended : ∀ t : Selector, s.pairs ⊆ t.pairs → s.requirements ⊆ t.requirements →
    t.holds labels = true → s.holds labels = true
  withPair : ∀ key value, (∀ other, (key, other) ∈ s.pairs → other = value) →
    (s.withPair key value).holds labels = true → s.holds labels = true
  withRequirement : ∀ r, (s.withRequirement r).holds labels = true → s.holds labels = true
  rearranged : ∀ rs, (∀ r, r ∈ rs ↔ r ∈ s.requirements) →
    (Selector.mk s.matchLabels (some rs)).holds labels = s.holds labels
  join : ∀ t, Agree (s.pairs ++ t.pairs) →
    (s.join t).holds labels = (s.holds labels && t.holds labels)
  unrestricted : s.pairs = [] → s.requirements = [] → s.holds labels = true

theorem lawful (s : Selector) (labels : Labels) : s.Lawful labels where
  conjunction := by
    simp only [holds_asks]
    simp [holds, pairs, requirements]
  replaced kept gone split := by
    apply holds_congr
    intro r
    change r ∈ kept.map .ofPair ++ (gone.map .ofPair ++ s.requirements) ↔ _
    simp only [mem_demands, List.mem_append, List.mem_map, split, or_and_right, exists_or]
    exact or_assoc.symm
  extended t pairs requirements := holds_of_extended pairs requirements
  withPair key value kept := by
    apply holds_of_extended
    · intro pair mem
      exact (Json.mem_putField kept pair).mpr (.inr mem)
    · exact List.Subset.refl _
  withRequirement r := by
    apply holds_of_extended
    · exact List.Subset.refl _
    · exact List.subset_append_left _ _
  rearranged rs same := by
    apply holds_congr
    intro r
    rw [mem_demands, mem_demands, ← same r]
    exact Iff.rfl
  join t agree := holds_of_union (mem_demands_join agree)
  unrestricted noPairs noRequirements := by
    rw [holds_iff, demands, noPairs, noRequirements]
    exact nofun

/-- Of two opposite demands on a label exactly one is met: its value is in a list or not, it exists or
does not. A label that is absent is not in any list. -/
structure Opposed (key : String) (labels : Labels) : Prop where
  isIn : ∀ values, (asks ⟨key, "In", values⟩).holds labels = true ↔
    ∃ value ∈ values.getD [], labels.lookup key = some value
  isThere : ∀ values, (asks ⟨key, "Exists", values⟩).holds labels = true ↔
    ∃ value, labels.lookup key = some value
  values : ∀ values, (asks ⟨key, "NotIn", values⟩).holds labels =
    !(asks ⟨key, "In", values⟩).holds labels
  presence : ∀ values values', (asks ⟨key, "DoesNotExist", values⟩).holds labels =
    !(asks ⟨key, "Exists", values'⟩).holds labels
  absent : labels.lookup key = none → ∀ values,
    (asks ⟨key, "NotIn", values⟩).holds labels = true ∧
      (asks ⟨key, "DoesNotExist", values⟩).holds labels = true

theorem opposed (key : String) (labels : Labels) : Opposed key labels where
  isIn values := by
    cases found : labels.lookup key <;> simp [holds_asks, Requirement.holds, found]
  isThere values := by
    simp [holds_asks, Requirement.holds, Option.isSome_iff_exists]
  values values := by
    rw [holds_asks, holds_asks, Requirement.holds_notIn]
  presence values values' := by
    rw [holds_asks, holds_asks, Requirement.holds_doesNotExist]
  absent none values := by
    simp [holds_asks, Requirement.holds, none]

end Selector

/-- A selector is the conjunction of what it demands, each requirement of it is met just if the
selector that makes it alone matches, and of two opposite demands on a label labels meet exactly
one. -/
theorem selector_laws (s : Selector) (labels : Labels) :
    s.Lawful labels ∧ (∀ r, (Selector.asks r).holds labels = r.holds labels) ∧
      ∀ key, Selector.Opposed key labels :=
  ⟨s.lawful labels, fun r => Selector.holds_asks r labels, fun key => Selector.opposed key labels⟩

/-- A selector by two pairs and a requirement on a label that is absent, joined with one that asks for
this label. -/
theorem selector_laws_web :
    let apart : Requirement := ⟨"env", "NotIn", some ["test"]⟩
    let s : Selector := ⟨some [("app", "web"), ("tier", "front")], some [apart]⟩
    let t : Selector := ⟨some [("app", "web")], some [⟨"env", "Exists", none⟩]⟩
    let labels : Labels := [("app", "web"), ("tier", "front")]
    s.holds labels = true ∧
      (Selector.mk (some [("app", "web")])
        (some [⟨"tier", "In", some ["front"]⟩, apart])).holds labels = true ∧
      (Selector.asks ⟨"env", "In", some ["test"]⟩).holds labels = false ∧
      t.holds labels = false ∧ (s.join t).holds labels = false := by
  intro apart s t labels
  obtain ⟨lawful, alone, opposed⟩ := selector_laws s labels
  have absent : labels.lookup "env" = none := by decide
  have free := ((opposed "env").absent absent (some ["test"])).1
  have matched : s.holds labels = true := by
    refine lawful.conjunction.mpr ⟨by decide, fun r mem => ?_⟩
    rw [List.mem_singleton.mp mem]
    exact free
  have unmatched : t.holds labels = false := by decide
  have agree : Selector.Agree (s.pairs ++ t.pairs) := by
    have pairs : s.pairs ++ t.pairs = [("app", "web"), ("tier", "front"), ("app", "web")] := rfl
    intro key value other here there
    rw [pairs] at here there
    grind
  refine ⟨matched, ?_, ?_, unmatched, ?_⟩
  · have split : ∀ pair, pair ∈ s.pairs ↔ pair ∈ [("app", "web")] ∨ pair ∈ [("tier", "front")] := by
      simp [Selector.pairs, s]
    exact (lawful.replaced _ _ split).trans matched
  · simpa [free] using (opposed "env").values (some ["test"])
  · rw [lawful.join t agree, unmatched, Bool.and_false]

end StatusWatch
