import StatusWatch.Proofs.StatusRules.Checks
import StatusWatch.Proofs.StatusRules.Complete

/-!
Versions that a definition withdraws: it lists them, but marks every entry as not served. The rules
leave them out, with one exception. A definition that names no served version in its list is taken
to have the single version of old definitions, and that may be one that it withdraws.
-/

namespace StatusWatch

namespace Definition

variable {document : Json} {version : String} {d : Definition}

def versionEntries (document : Json) : List Json :=
  ((document.nested? ["spec", "versions"]).bind Json.arr?).getD []

def entryName? (entry : Json) : Option String :=
  (entry.get? "name").bind Json.str?

def isUnserved (entry : Json) : Bool :=
  (entry.get? "served").bind Json.bool? == some false

/-- The version is listed, and only in entries that are not served. -/
structure Withdraws (document : Json) (version : String) : Prop where
  listed : ∃ entry ∈ versionEntries document, entryName? entry = some version
  unserved : ∀ entry ∈ versionEntries document, entryName? entry = some version →
    isUnserved entry = true

structure WithdrawsAll (document : Json) : Prop where
  listed : versionEntries document ≠ []
  unserved : ∀ entry ∈ versionEntries document, isUnserved entry = true

def singleVersion? (document : Json) : Option String :=
  document.nestedStr? ["spec", "version"]

def fallback? (document : Json) : Option String :=
  match listedVersions document with
  | [] => singleVersion? document
  | _ :: _ => none

theorem mem_listedVersions :
    version ∈ listedVersions document ↔
      ∃ entry ∈ versionEntries document, isUnserved entry = false ∧ entryName? entry = some version := by
  simp only [listedVersions, versionEntries, isUnserved, entryName?, List.mem_filterMap,
    List.mem_filter, and_assoc, bne, Bool.not_eq_true']

theorem mem_servedVersions :
    version ∈ servedVersions document ↔
      version ∈ listedVersions document ∨ fallback? document = some version := by
  unfold servedVersions fallback?
  cases listedVersions document with
  | nil => simp [singleVersion?]
  | cons first rest => simp

/-- A withdrawn version is served just if the definition falls back on it. -/
theorem Withdraws.mem_servedVersions_iff (h : Withdraws document version) :
    version ∈ servedVersions document ↔ fallback? document = some version := by
  have unlisted : version ∉ listedVersions document := by
    intro mem
    obtain ⟨entry, among, served, name⟩ := mem_listedVersions.mp mem
    have unserved := h.unserved entry among name
    rw [served] at unserved
    cases unserved
  rw [mem_servedVersions]
  exact or_iff_right unlisted

theorem WithdrawsAll.servedVersions_eq (h : WithdrawsAll document) :
    servedVersions document = (singleVersion? document).toList := by
  have none : listedVersions document = [] := by
    rw [List.eq_nil_iff_forall_not_mem]
    intro version mem
    obtain ⟨entry, among, served, -⟩ := mem_listedVersions.mp mem
    have unserved := h.unserved entry among
    rw [served] at unserved
    cases unserved
  unfold servedVersions
  rw [none]
  rfl

/-- What a document with checks says of its kind, whether or not it has versions. -/
structure Describes (words : StatusCheck.Wording) (document : Json) (d : Definition) : Prop where
  checks : ∃ text, annotation? document = some text ∧ StatusCheck.parse words text = .ok d.checks
  group : document.nestedStr? ["spec", "group"] = some d.group
  kind : document.nestedStr? ["spec", "names", "kind"] = some d.kind
  plural : document.nestedStr? ["spec", "names", "plural"] = some d.plural
  namespaced : (document.nestedStr? ["spec", "scope"] != some "Cluster") = d.namespaced
  versions : servedVersions document = d.versions

end Definition

theorem StatusCheck.parse_error {words : Wording} {text : String} {e : Error} (h : parse words text = .error e) :
    ∃ fault, e = .statusCheck fault := by
  cases read : entries? text with
  | none =>
    rw [parse_eq_error_of_none read] at h
    exact ⟨_, (Except.error.inj h).symm⟩
  | some entries =>
    rcases parse_of_entries read with ⟨-, entry, -, e', -, -, offends, refused⟩ | ⟨-, checks, made, -⟩
    · cases h.symm.trans refused
      cases offends with
      | noStatus => exact ⟨_, rfl⟩
      | noCondition => exact ⟨_, rfl⟩
      | badCondition _ _ refused =>
        obtain ⟨fault, -, rfl⟩ := Condition.compile_eq_error.mp refused
        exact ⟨_, rfl⟩
    · cases h.symm.trans made

namespace Definition

variable {words : StatusCheck.Wording} {document : Json} {d : Definition}

def lacksVersions (document : Json) : Error :=
  .document (.definitionLacks ((Document.name? document).getD "<unnamed>") "served versions")

theorem ofDocument_cases (annotated : (annotation? document).isSome = true) :
    (∃ d, Describes words document d ∧ d.versions ≠ [] ∧ ofDocument words document = .ok (some d)) ∨
      (∃ d, Describes words document d ∧ d.versions = [] ∧
        ofDocument words document = .error (lacksVersions document)) ∨
      (∀ d, ¬ Describes words document d) ∧
        ∃ e, ofDocument words document = .error e ∧ e ≠ lacksVersions document := by
  obtain ⟨text, some⟩ := Option.isSome_iff_exists.mp annotated
  unfold ofDocument
  rw [some]
  dsimp only
  cases parsed : StatusCheck.parse words text with
  | error e =>
    obtain ⟨fault, rfl⟩ := StatusCheck.parse_error parsed
    refine .inr (.inr ⟨fun d h => ?_, _, rfl, nofun⟩)
    obtain ⟨text', some', parsed'⟩ := h.checks
    cases some.symm.trans some'
    cases parsed.symm.trans parsed'
  | ok checks =>
    cases group : document.nestedStr? ["spec", "group"] with
    | none =>
      refine .inr (.inr ⟨fun d h => ?_, _, rfl, by simp [lacksVersions]⟩)
      cases group.symm.trans h.group
    | some g =>
      cases kind : document.nestedStr? ["spec", "names", "kind"] with
      | none =>
        refine .inr (.inr ⟨fun d h => ?_, _, rfl, by simp [lacksVersions]⟩)
        cases kind.symm.trans h.kind
      | some k =>
        cases plural : document.nestedStr? ["spec", "names", "plural"] with
        | none =>
          refine .inr (.inr ⟨fun d h => ?_, _, rfl, by simp [lacksVersions]⟩)
          cases plural.symm.trans h.plural
        | some p =>
          have describes : Describes words document ⟨g, k, p, _, servedVersions document, checks⟩ :=
            ⟨⟨text, some, parsed⟩, group, kind, plural, rfl, rfl⟩
          cases served : servedVersions document with
          | nil => exact .inr (.inl ⟨_, describes, served, rfl⟩)
          | cons first rest =>
            refine .inl ⟨_, describes, by simp [served], ?_⟩
            rw [served]
            rfl

end Definition

namespace StatusRules

open Definition

variable {words : StatusCheck.Wording} {document : Json} {rules : StatusRules} {version : String}
  {d : Definition}

structure Lacks (rules : StatusRules) (version : String) : Prop where
  mapping : ∀ gk asked r, rules.catalog.resolve gk asked = .ok r → r.version ≠ version
  table : ∀ c : Collection, c.version = version → rules.tables.lookup c = none

theorem lacks_empty (version : String) : empty.Lacks version where
  mapping gk asked r found := by
    rw [Catalog.resolve_eq_ok] at found
    cases found
  table _ _ := rfl

/-- The rules of one definition have just the versions that it serves. -/
theorem lacks_single : (ofDefinitions [d]).Lacks version ↔ version ∉ d.versions := by
  have found (gk : GroupKind) (asked : String) : (ofDefinitions [d]).catalog.find? gk (some asked) =
      if d.serves gk asked then some (d.resource asked) else none := find?_add empty d gk asked
  have table (c : Collection) : (ofDefinitions [d]).tables.lookup c =
      if d.declares c then some d.checks else none := lookup_add empty d c
  constructor
  · intro lacks mem
    have serves : d.serves d.groupKind version = true := serves_iff.mpr ⟨rfl, mem⟩
    have mapping : (ofDefinitions [d]).catalog.resolve d.groupKind (some version) =
        .ok (d.resource version) := by
      rw [Catalog.resolve_eq_ok, found, if_pos serves]
    exact lacks.mapping _ _ _ mapping rfl
  · intro unserved
    constructor
    · rintro gk asked r mapping rfl
      have own := Catalog.find?_own_version (Catalog.resolve_eq_ok.mp mapping)
      rw [found] at own
      split at own
      case isTrue serves => exact unserved (serves_iff.mp serves).2
      case isFalse => cases own
    · rintro c rfl
      have undeclared : d.declares c = false := by
        rw [Bool.eq_false_iff]
        intro declared
        simp only [declares, Bool.and_eq_true, decide_eq_true_eq] at declared
        exact unserved declared.2
      rw [table, undeclared]
      rfl

theorem eq_of_alone {found : Option Definition} (read : ofDocument words document = .ok found)
    (made : ofDocuments words [document] = .ok rules) : rules = ofDefinitions found.toList := by
  have same := eq_ofDefinitions made
  unfold definitionsIn at same
  rw [List.filterMap_cons, read] at same
  cases found <;> exact same

theorem lacks_alone_iff (made : ofDocuments words [document] = .ok rules)
    (withdraws : Withdraws document version) :
    rules.Lacks version ↔ annotation? document = none ∨ fallback? document ≠ some version := by
  obtain ⟨found, read⟩ := exists_alone.mp ⟨rules, made⟩
  have same := eq_of_alone read made
  cases unannotated : annotation? document with
  | none =>
    rw [(annotation?_eq_none_iff read).mp unannotated] at same
    rw [same]
    exact iff_of_true (lacks_empty version) (.inl rfl)
  | some text =>
    rcases ofDocument_cases (by rw [unannotated]; rfl) with
      ⟨d, describes, -, described⟩ | ⟨-, -, -, refused⟩ | ⟨-, e, refused, -⟩
    · cases read.symm.trans described
      have served := withdraws.mem_servedVersions_iff
      rw [describes.versions] at served
      rw [same, Option.toList_some, lacks_single, served]
      simp
    · cases read.symm.trans refused
    · cases read.symm.trans refused

theorem refused_iff (annotated : (annotation? document).isSome = true)
    (all : WithdrawsAll document) :
    ((∃ e, ofDocuments words [document] = .error e) ↔
        (∀ d, ¬ Describes words document d) ∨ singleVersion? document = none) ∧
      (ofDocuments words [document] = .error (lacksVersions document) ↔
        (∃ d, Describes words document d) ∧ singleVersion? document = none) := by
  simp only [alone_eq_error]
  have single {d : Definition} (describes : Describes words document d) :
      d.versions = [] ↔ singleVersion? document = none := by
    rw [← describes.versions, all.servedVersions_eq, Option.toList_eq_nil_iff]
  rcases ofDocument_cases annotated with
    ⟨d, describes, some, read⟩ | ⟨d, describes, none, refused⟩ | ⟨undescribed, e, refused, other⟩
  · have named : singleVersion? document ≠ none := mt (single describes).mpr some
    rw [read]
    refine ⟨iff_of_false nofun ?_, iff_of_false nofun fun h => named h.2⟩
    rintro (undescribed | none)
    · exact undescribed d describes
    · exact named none
  · have unnamed := (single describes).mp none
    rw [refused]
    exact ⟨iff_of_true ⟨_, rfl⟩ (.inr unnamed), iff_of_true rfl ⟨⟨d, describes⟩, unnamed⟩⟩
  · rw [refused, Except.error.injEq]
    exact ⟨iff_of_true ⟨_, rfl⟩ (.inl undescribed),
      iff_of_false other fun h => h.1.elim undescribed⟩

/-- Rules have no mapping and no table for a withdrawn version, unless the definition falls back on
it; and a definition that withdraws all that it lists is refused, unless it has a fallback. -/
theorem withdrawn_iff (words : StatusCheck.Wording) (document : Json) :
    (∀ rules version, ofDocuments words [document] = .ok rules → Withdraws document version →
      (rules.Lacks version ↔ annotation? document = none ∨ fallback? document ≠ some version)) ∧
    ((annotation? document).isSome = true → WithdrawsAll document →
      ((∃ e, ofDocuments words [document] = .error e) ↔
          (∀ d, ¬ Describes words document d) ∨ singleVersion? document = none) ∧
        (ofDocuments words [document] = .error (lacksVersions document) ↔
          (∃ d, Describes words document d) ∧ singleVersion? document = none)) := by
  constructor
  · intro rules version made withdraws
    exact lacks_alone_iff made withdraws
  · intro annotated all
    exact refused_iff annotated all

end StatusRules

def versionEntry (version : String × Bool) : Json :=
  .obj [("name", .str version.1), ("served", .bool version.2)]

def widgetsServed (single : Option String) (versions : List (String × Bool)) : Json :=
  .obj [("metadata", .obj [("name", .str "widgets.example.com"),
      ("annotations", .obj [(StatusCheck.annotationName,
        .str "[\x7b\"status\":\"Stable\",\"condition\":\"@.state\"\x7d]")])]),
    ("spec", .obj ([("group", .str "example.com"), ("scope", .str "Namespaced"),
      ("names", .obj [("kind", .str "Widget"), ("plural", .str "widgets")])] ++
      single.toList.map (fun version => ("version", .str version)) ++
      [("versions", .arr (versions.map versionEntry))]))]

def widgets (versions : List String) : Definition :=
  ⟨"example.com", "Widget", "widgets", true, versions, [⟨"Stable", ⟨"@.state"⟩⟩]⟩

namespace StatusRules

open Definition

theorem versionEntries_widgetsServed (single : Option String) (versions : List (String × Bool)) :
    versionEntries (widgetsServed single versions) = versions.map versionEntry := by
  cases single <;> rfl

theorem withdrawsAll_widgetsServed (single : Option String) (version : String) :
    WithdrawsAll (widgetsServed single [(version, false)]) := by
  have listed := versionEntries_widgetsServed single [(version, false)]
  constructor
  · rw [listed]
    exact List.cons_ne_nil _ _
  · intro entry mem
    rw [listed, List.map_singleton, List.mem_singleton] at mem
    rw [mem]
    rfl

/-- Beside a served version, a withdrawn one is lacking; without one, the definition is refused. -/
theorem withdrawn_iff_widgets :
    let words := StatusCheck.emptyText
    let both := widgetsServed (some "v1") [("v1", false), ("v2", true)]
    let none := widgetsServed none [("v1", false)]
    (∃ rules, ofDocuments words [both] = .ok rules ∧ rules.Lacks "v1" ∧ ¬ rules.Lacks "v2") ∧
      ofDocuments words [none] = .error (lacksVersions none) := by
  intro words both none
  have made : ofDocuments words [both] = .ok (ofDefinitions [widgets ["v2"]]) := by decide +kernel
  have listed : versionEntries both = [versionEntry ("v1", false), versionEntry ("v2", true)] := rfl
  have withdraws : Withdraws both "v1" := by
    constructor
    · exact ⟨versionEntry ("v1", false), by rw [listed]; exact List.mem_cons_self, rfl⟩
    · intro entry mem name
      rw [listed, List.mem_cons, List.mem_singleton] at mem
      rcases mem with rfl | rfl
      · rfl
      · exact absurd name (by decide +kernel)
  have describes : Describes words none (widgets []) :=
    ⟨⟨_, rfl, by decide +kernel⟩, rfl, rfl, rfl, rfl, rfl⟩
  refine ⟨⟨_, made, ?_, fun lacks => lacks_single.mp lacks List.mem_cons_self⟩, ?_⟩
  · exact ((withdrawn_iff words both).1 _ "v1" made withdraws).mpr (.inr (by decide +kernel))
  · have all := withdrawsAll_widgetsServed .none "v1"
    exact ((withdrawn_iff words none).2 rfl all).2.mpr ⟨⟨_, describes⟩, rfl⟩

/-- The single version is one that the list withdraws, and is mapped all the same. -/
theorem not_lacks_withdrawn :
    let words := StatusCheck.emptyText
    let document := widgetsServed (some "v1") [("v1", false)]
    Withdraws document "v1" ∧ WithdrawsAll document ∧
      ∃ rules, ofDocuments words [document] = .ok rules ∧ ¬ rules.Lacks "v1" ∧
        rules.catalog.resolve ⟨"example.com", "Widget"⟩ none =
          .ok ⟨"example.com", "v1", "Widget", "widgets", true⟩ := by
  intro words document
  have all := withdrawsAll_widgetsServed (some "v1") "v1"
  have listed : ∃ entry ∈ versionEntries document, entryName? entry = some "v1" := by
    refine ⟨versionEntry ("v1", false), ?_, rfl⟩
    rw [versionEntries_widgetsServed]
    exact List.mem_cons_self
  refine ⟨⟨listed, fun entry mem _ => all.unserved entry mem⟩, all, ofDefinitions [widgets ["v1"]],
    by decide +kernel, ?_, by decide +kernel⟩
  exact fun lacks => lacks_single.mp lacks List.mem_cons_self

end StatusRules

end StatusWatch
