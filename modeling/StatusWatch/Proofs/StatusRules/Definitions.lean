import StatusWatch.Proofs.Keyed
import StatusWatch.Proofs.StatusRules

/-!
Rules by the definitions they are made from, in their order. A version of a kind is registered as
the last definition says that serves it, and the table of a collection is the last one declared
in it. The two can come from different definitions: kinds that share a plural share the table.
-/

namespace StatusWatch

namespace Definition

def serves (d : Definition) (gk : GroupKind) (version : String) : Bool :=
  d.groupKind = gk && version ∈ d.versions

def declares (d : Definition) (c : Collection) : Bool :=
  d.group = c.group && d.plural = c.plural && c.version ∈ d.versions

theorem serves_iff {d : Definition} {gk : GroupKind} {version : String} :
    d.serves gk version = true ↔ d.groupKind = gk ∧ version ∈ d.versions := by
  simp [serves]

theorem declares_collection {d : Definition} {gk : GroupKind} {version : String}
    (h : d.serves gk version = true) : d.declares (d.resource version).collection = true := by
  rw [serves_iff] at h
  simp [declares, resource, Resource.collection, h.2]

theorem collection_eq_iff {d : Definition} {version : String} {c : Collection} :
    (d.resource version).collection = c ↔
      d.group = c.group ∧ d.plural = c.plural ∧ version = c.version := by
  obtain ⟨group, served, plural⟩ := c
  simp only [resource, Resource.collection, Collection.mk.injEq]
  tauto

theorem versions_ne_nil {words : StatusCheck.Wording} {document : Json} {d : Definition}
    (h : ofDocument words document = .ok (some d)) : d.versions ≠ [] := by
  unfold ofDocument at h
  split at h
  case h_1 => cases h
  case h_2 =>
    simp only [bind_eq_ok] at h
    obtain ⟨checks, -, group, -, kind, -, plural, -, h⟩ := h
    split at h
    case h_1 => cases h
    case h_2 _ filled =>
      cases h
      exact filled

end Definition

namespace StatusRules

variable {words : StatusCheck.Wording} {rules : StatusRules} {d : Definition}

section OneDefinition

theorem find?_addVersions (d : Definition) (versions : List String) (rules : StatusRules)
    (gk : GroupKind) (version : String) :
    (versions.foldl (addVersion d) rules).catalog.find? gk (some version) =
      if d.groupKind = gk ∧ version ∈ versions then some (d.resource version)
      else rules.catalog.find? gk (some version) := by
  induction versions generalizing rules with
  | nil => simp
  | cons first rest ih =>
    have here : (addVersion d rules first).catalog.find? gk (some version) =
        if d.groupKind = gk ∧ version = first then some (d.resource version)
        else rules.catalog.find? gk (some version) := by
      have key : (d.resource first).key = (gk, version) ↔ d.groupKind = gk ∧ version = first := by
        simp [Resource.key, Definition.resource, Resource.groupKind, Definition.groupKind, eq_comm]
      simp only [addVersion, Catalog.find?_add, key]
      by_cases same : d.groupKind = gk ∧ version = first
      · rw [if_pos same, if_pos same, same.2]
      · rw [if_neg same, if_neg same]
    rw [List.foldl_cons, ih, here]
    by_cases served : d.groupKind = gk ∧ version ∈ rest
    · rw [if_pos served, if_pos ⟨served.1, List.mem_cons_of_mem first served.2⟩]
    · rw [if_neg served]
      exact if_congr (by rw [List.mem_cons]; tauto) rfl rfl

theorem lookup_addVersions (d : Definition) (versions : List String) (rules : StatusRules)
    (c : Collection) :
    (versions.foldl (addVersion d) rules).tables.lookup c =
      if d.group = c.group ∧ d.plural = c.plural ∧ c.version ∈ versions then some d.checks
      else rules.tables.lookup c := by
  induction versions generalizing rules with
  | nil => simp
  | cons first rest ih =>
    have here : (addVersion d rules first).tables.lookup c =
        if d.group = c.group ∧ d.plural = c.plural ∧ first = c.version then some d.checks
        else rules.tables.lookup c := by
      rw [← if_congr Definition.collection_eq_iff rfl rfl]
      simp only [addVersion]
      split
      case isTrue same => rw [same, List.lookup_cons_self]
      case isFalse apart =>
        rw [List.lookup_cons, beq_false_of_ne (Ne.symm apart)]
        exact lookup_filter_ne _ (Ne.symm apart)
    rw [List.foldl_cons, ih, here]
    by_cases served : d.group = c.group ∧ d.plural = c.plural ∧ c.version ∈ rest
    · rw [if_pos served, if_pos ⟨served.1, served.2.1, List.mem_cons_of_mem first served.2.2⟩]
    · rw [if_neg served]
      exact if_congr (by rw [List.mem_cons, eq_comm]; tauto) rfl rfl

theorem kinds_addVersions (d : Definition) (versions : List String) (rules : StatusRules) :
    (versions.foldl (addVersion d) rules).kinds = rules.kinds := by
  induction versions generalizing rules with
  | nil => rfl
  | cons first rest ih => exact ih _

theorem find?_add (rules : StatusRules) (d : Definition) (gk : GroupKind) (version : String) :
    (rules.add d).catalog.find? gk (some version) =
      if d.serves gk version then some (d.resource version)
      else rules.catalog.find? gk (some version) := by
  have added := find?_addVersions d d.versions rules gk version
  rw [← if_congr Definition.serves_iff rfl rfl] at added
  unfold add
  dsimp only
  split <;> exact added

theorem lookup_add (rules : StatusRules) (d : Definition) (c : Collection) :
    (rules.add d).tables.lookup c =
      if d.declares c then some d.checks else rules.tables.lookup c := by
  have declares : d.declares c = true ↔
      d.group = c.group ∧ d.plural = c.plural ∧ c.version ∈ d.versions := by
    simp [Definition.declares, and_assoc]
  have added := lookup_addVersions d d.versions rules c
  rw [← if_congr declares rfl rfl] at added
  unfold add
  dsimp only
  split <;> exact added

theorem mem_kinds_add {gk : GroupKind} :
    gk ∈ (rules.add d).kinds ↔ gk ∈ rules.kinds ∨ gk = d.groupKind := by
  have same := kinds_addVersions d d.versions rules
  unfold add
  dsimp only
  split
  case isTrue known =>
    constructor
    · exact fun h => .inl (same ▸ h)
    · rintro (h | rfl)
      · exact same ▸ h
      · exact known
  case isFalse => simp [same]

end OneDefinition

section InOrder

variable (definitions : List Definition)

theorem find?_ofDefinitions (gk : GroupKind) (version : String) :
    (ofDefinitions definitions).catalog.find? gk (some version) =
      (definitions.filter (·.serves gk version)).getLast?.map (·.resource version) := by
  have last := reading_foldl (fun rules => rules.catalog.find? gk (some version))
    (fun rules d => rules.find?_add d gk version) definitions empty
  exact last.trans Option.or_none

theorem lookup_ofDefinitions (c : Collection) :
    (ofDefinitions definitions).tables.lookup c =
      (definitions.filter (·.declares c)).getLast?.map Definition.checks := by
  have last := reading_foldl (fun rules => rules.tables.lookup c)
    (fun rules d => rules.lookup_add d c) definitions empty
  exact last.trans Option.or_none

theorem mem_kinds_ofDefinitions {gk : GroupKind} :
    gk ∈ (ofDefinitions definitions).kinds ↔ ∃ d ∈ definitions, d.groupKind = gk := by
  suffices ∀ rules : StatusRules, gk ∈ (definitions.foldl add rules).kinds ↔
      gk ∈ rules.kinds ∨ ∃ d ∈ definitions, d.groupKind = gk by
    rw [ofDefinitions, this]
    simp [empty]
  induction definitions with
  | nil => simp
  | cons d rest ih =>
    intro rules
    rw [List.foldl_cons, ih, mem_kinds_add, List.exists_mem_cons_iff, or_assoc, eq_comm]

end InOrder

def definitionsIn (words : StatusCheck.Wording) (documents : List Json) : List Definition :=
  documents.filterMap fun document => (Definition.ofDocument words document).toOption.join

theorem eq_ofDefinitions {documents : List Json} (made : ofDocuments words documents = .ok rules) :
    rules = ofDefinitions (definitionsIn words documents) := by
  obtain ⟨found, read, ⟨⟩⟩ := bind_eq_ok.mp made
  suffices found.filterMap (fun d => d) = definitionsIn words documents by rw [this]
  unfold definitionsIn
  clear made
  induction documents generalizing found with
  | nil =>
    cases read
    rfl
  | cons document rest ih =>
    simp only [List.mapM_cons, bind_eq_ok] at read
    obtain ⟨first, here, others, behind, ⟨⟩⟩ := read
    rw [List.filterMap_cons, List.filterMap_cons, here, ih others behind]
    cases first <;> rfl

theorem exists_document_of_mem {documents : List Json} (h : d ∈ definitionsIn words documents) :
    ∃ document ∈ documents, Definition.ofDocument words document = .ok (some d) := by
  obtain ⟨document, listed, read⟩ := List.mem_filterMap.mp h
  refine ⟨document, listed, ?_⟩
  cases made : Definition.ofDocument words document with
  | error e => simp [made, Except.toOption] at read
  | ok found => simpa [made, Except.toOption] using read

theorem versions_ne_nil_of_mem {documents : List Json} (h : d ∈ definitionsIn words documents) :
    d.versions ≠ [] := by
  obtain ⟨document, -, made⟩ := exists_document_of_mem h
  exact Definition.versions_ne_nil made

end StatusRules

end StatusWatch
