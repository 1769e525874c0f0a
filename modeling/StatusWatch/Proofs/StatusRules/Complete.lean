import StatusWatch.Proofs.StatusRules.Judges
import StatusWatch.Proofs.StatusRules.Known

/-!
Rules made from documents, as a whole. Documents make rules if each does so by itself, and the first
that does not says why. In rules that are made, mappings, tables and kinds fit together: a mapping
leads to a table, a kind is listed just if it has a mapping, and there is a table just if some
document has checks.
-/

namespace StatusWatch

namespace StatusRules

variable {words : StatusCheck.Wording} {documents : List Json} {rules : StatusRules}
  {gk : GroupKind} {r : Resource}

section Alone

theorem exists_ofDocuments :
    (∃ rules, ofDocuments words documents = .ok rules) ↔
      ∀ document ∈ documents, ∃ d, Definition.ofDocument words document = .ok d := by
  rw [← exists_mapM_eq_ok]
  simp only [ofDocuments, bind_eq_ok]
  constructor
  · rintro ⟨rules, found, read, -⟩
    exact ⟨found, read⟩
  · rintro ⟨found, read⟩
    exact ⟨_, found, read, rfl⟩

theorem exists_alone {document : Json} :
    (∃ rules, ofDocuments words [document] = .ok rules) ↔
      ∃ d, Definition.ofDocument words document = .ok d := by
  rw [exists_ofDocuments, List.forall_mem_singleton]

theorem ofDocuments_eq_error {e : Error} :
    ofDocuments words documents = .error e ↔ documents.mapM (Definition.ofDocument words) = .error e := by
  unfold ofDocuments
  cases documents.mapM (Definition.ofDocument words) with
  | ok found => exact iff_of_false nofun nofun
  | error fault => simp

theorem alone_eq_error {document : Json} {e : Error} :
    ofDocuments words [document] = .error e ↔ Definition.ofDocument words document = .error e := by
  rw [ofDocuments_eq_error, List.mapM_cons]
  cases Definition.ofDocument words document with
  | ok d => exact iff_of_false nofun nofun
  | error fault => simp

end Alone

structure Complete (words : StatusCheck.Wording) (documents : List Json) (rules : StatusRules) :
    Prop where
  /-- No status of an object with a mapping is for want of a table. -/
  table : ∀ gk version r, rules.catalog.resolve gk version = .ok r →
    ∃ checks, rules.tables.lookup r.collection = some checks ∧
      ∀ object, rules.statusIn r.collection object = StatusCheck.firstMatch object checks
  once : rules.kinds.Nodup
  order : rules.kinds = ((definitionsIn words documents).map Definition.groupKind).eraseDups
  resolved : ∀ gk, gk ∈ rules.kinds ↔ ∃ r, rules.catalog.resolve gk none = .ok r
  versions : ∀ gk version r, rules.catalog.resolve gk version = .ok r → gk ∈ rules.kinds
  empty : rules.isEmpty = true ↔ ∀ document ∈ documents, Definition.annotation? document = none

end StatusRules

theorem Definition.annotation?_eq_none_iff {words : StatusCheck.Wording} {document : Json} {found : Option Definition}
    (read : ofDocument words document = .ok found) : annotation? document = none ↔ found = none := by
  unfold ofDocument at read
  split at read
  case h_1 none =>
    cases read
    exact iff_of_true none rfl
  case h_2 text some =>
    simp only [bind_eq_ok] at read
    obtain ⟨checks, -, group, -, kind, -, plural, -, read⟩ := read
    split at read
    case h_1 => cases read
    case h_2 =>
      cases read
      rw [some]
      exact iff_of_false nofun nofun

namespace StatusRules

theorem kinds_add (rules : StatusRules) (d : Definition) :
    (rules.add d).kinds = addNew rules.kinds d.groupKind := by
  have same := kinds_addVersions d d.versions rules
  unfold add addNew
  dsimp only
  rw [same]
  split <;> simp [same]

theorem kinds_ofDefinitions (definitions : List Definition) :
    (ofDefinitions definitions).kinds = (definitions.map Definition.groupKind).foldl addNew [] := by
  suffices ∀ rules : StatusRules, (definitions.foldl add rules).kinds =
      (definitions.map Definition.groupKind).foldl addNew rules.kinds from this empty
  induction definitions with
  | nil => exact fun _ => rfl
  | cons d rest ih =>
    intro rules
    rw [List.foldl_cons, ih, kinds_add]
    rfl

section Made

variable (made : ofDocuments words documents = .ok rules)

include made

theorem table_of_resolved {version : Option String} (found : rules.catalog.find? gk version = some r) :
    ∃ checks, rules.tables.lookup r.collection = some checks := by
  have own := Catalog.find?_own_version found
  obtain ⟨same, found', table⟩ := knows_of_registered made own
  cases found'.symm.trans own
  exact Option.isSome_iff_exists.mp table

theorem mem_kinds_of_resolved {version : Option String}
    (found : rules.catalog.find? gk version = some r) : gk ∈ rules.kinds := by
  have own := Catalog.find?_own_version found
  rw [eq_ofDefinitions made, find?_ofDefinitions] at own
  obtain ⟨d, last, -⟩ := Option.map_eq_some_iff.mp own
  obtain ⟨mem, serves⟩ := List.mem_filter.mp (List.mem_of_getLast? last)
  rw [eq_ofDefinitions made, mem_kinds_ofDefinitions]
  exact ⟨d, mem, (Definition.serves_iff.mp serves).1⟩

theorem isEmpty_iff : rules.isEmpty = true ↔ definitionsIn words documents = [] := by
  rw [eq_ofDefinitions made, isEmpty, List.isEmpty_iff]
  constructor
  · intro none
    refine List.eq_nil_iff_forall_not_mem.mpr fun d mem => ?_
    obtain ⟨version, served⟩ := List.exists_mem_of_ne_nil _ (versions_ne_nil_of_mem mem)
    have declares := Definition.declares_collection (Definition.serves_iff.mpr ⟨rfl, served⟩)
    have table : ((definitionsIn words documents).filter
        (·.declares (d.resource version).collection)).getLast?.isSome = true :=
      isSome_getLast?_filter mem declares
    rw [← Option.isSome_map (f := Definition.checks), ← lookup_ofDefinitions, none] at table
    cases table
  · intro none
    rw [none]
    rfl

theorem definitionsIn_eq_nil_iff :
    definitionsIn words documents = [] ↔
      ∀ document ∈ documents, Definition.annotation? document = none := by
  unfold definitionsIn
  rw [List.filterMap_eq_nil_iff]
  refine forall₂_congr fun document mem => ?_
  obtain ⟨found, read⟩ := exists_ofDocuments.mp ⟨rules, made⟩ document mem
  rw [read, Definition.annotation?_eq_none_iff read]
  rfl

theorem complete : Complete words documents rules where
  table gk version r resolved := by
    obtain ⟨checks, table⟩ := table_of_resolved made (Catalog.resolve_eq_ok.mp resolved)
    refine ⟨checks, table, fun object => ?_⟩
    rw [statusIn, table]
  once := by
    rw [eq_ofDefinitions made, kinds_ofDefinitions]
    exact nodup_foldl_addNew List.nodup_nil _
  order := by
    conv_lhs => rw [eq_ofDefinitions made, kinds_ofDefinitions, foldl_addNew]
    simp
  resolved gk := by
    constructor
    · intro annotated
      obtain ⟨r, found, -⟩ := exists_default made annotated
      exact ⟨r, Catalog.resolve_eq_ok.mpr found⟩
    · rintro ⟨r, resolved⟩
      exact mem_kinds_of_resolved made (Catalog.resolve_eq_ok.mp resolved)
  versions gk version r resolved := mem_kinds_of_resolved made (Catalog.resolve_eq_ok.mp resolved)
  empty := (isEmpty_iff made).trans (definitionsIn_eq_nil_iff made)

end Made

/-- Documents make rules if each does so alone; otherwise the first that fails alone gives its error.
Rules that are made are complete. -/
theorem complete_ofDocuments (words : StatusCheck.Wording) (documents : List Json) :
    ((∃ rules, ofDocuments words documents = .ok rules) ↔
        ∀ document ∈ documents, ∃ rules, ofDocuments words [document] = .ok rules) ∧
      (∀ e, ofDocuments words documents = .error e ↔
        ∃ before document after, documents = before ++ document :: after ∧
          (∀ earlier ∈ before, ∃ rules, ofDocuments words [earlier] = .ok rules) ∧
          ofDocuments words [document] = .error e) ∧
      ∀ rules, ofDocuments words documents = .ok rules → Complete words documents rules := by
  simp only [exists_alone, alone_eq_error]
  refine ⟨exists_ofDocuments, fun e => ?_, fun rules made => complete made⟩
  rw [ofDocuments_eq_error, mapM_eq_error]

/-- Widgets that come back with another plural, behind a document without checks. -/
theorem complete_ofDocuments_widgets :
    let words := StatusCheck.emptyText
    let documents := [thingDefinition "Widget" "widgets" "v1" "Ready",
      .obj [("kind", .str "ConfigMap")], thingDefinition "Gadget" "gadgets" "v2" "Charged",
      thingDefinition "Widget" "things" "v1" "Stable"]
    ∃ rules, ofDocuments words documents = .ok rules ∧ Complete words documents rules ∧
      rules.kinds = [⟨"example.com", "Widget"⟩, ⟨"example.com", "Gadget"⟩] := by
  intro words documents
  have made : ofDocuments words documents = .ok (ofDefinitions [thing "Widget" "widgets" "v1" "Ready",
      thing "Gadget" "gadgets" "v2" "Charged", thing "Widget" "things" "v1" "Stable"]) := by
    decide +kernel
  exact ⟨_, made, (complete_ofDocuments words documents).2.2 _ made, by decide +kernel⟩

end StatusRules

end StatusWatch
