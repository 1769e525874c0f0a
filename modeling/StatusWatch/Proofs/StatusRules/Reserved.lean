import StatusWatch.Proofs.StatusRules.Checks
import StatusWatch.Proofs.StatusRules.Complete

/-!
The label Unknown. An object that matches no check is unknown, but a table may also hold a check of
this label. An object that matches it, and none before it, then passes for one that matches nothing.
-/

namespace StatusWatch

namespace StatusCheck

variable {object : Json} {checks : List StatusCheck} {check : StatusCheck} {status : Status}

def Matches (object : Json) (check : StatusCheck) : Prop :=
  check.condition.evaluate object = .ok .matched

instance (object : Json) (check : StatusCheck) : Decidable (Matches object check) :=
  inferInstanceAs (Decidable (_ = _))

def first? (object : Json) (checks : List StatusCheck) : Option StatusCheck :=
  checks.find? fun check => Matches object check

theorem first?_eq_none_iff :
    first? object checks = none ↔ ∀ check ∈ checks, ¬ Matches object check := by
  simp [first?]

/-- A search that does not fail ends at the first match, or finds none. -/
theorem firstMatch_eq_ok (found : firstMatch object checks = .ok status) :
    status = ((first? object checks).map StatusCheck.status).getD .unknown := by
  unfold first?
  induction checks with
  | nil =>
    cases found
    rfl
  | cons check rest ih =>
    obtain ⟨outcome, evaluated, found⟩ := bind_eq_ok.mp found
    by_cases matched : Matches object check
    · rw [List.find?_cons_of_pos (by simpa using matched)]
      cases evaluated.symm.trans matched
      cases found
      rfl
    · rw [List.find?_cons_of_neg (by simpa using matched)]
      -- An outcome that is no match sends the search on.
      cases outcome with
      | matched => exact absurd evaluated matched
      | notMatched => exact ih found
      | absent field => exact ih found

end StatusCheck

theorem Definition.exists_annotation {words : StatusCheck.Wording} {document : Json} {d : Definition}
    (read : ofDocument words document = .ok (some d)) :
    ∃ text, annotation? document = some text ∧ StatusCheck.parse words text = .ok d.checks := by
  unfold ofDocument at read
  split at read
  case h_1 => cases read
  case h_2 text annotated =>
    simp only [bind_eq_ok] at read
    obtain ⟨checks, parsed, group, -, kind, -, plural, -, read⟩ := read
    split at read
    case h_1 => cases read
    case h_2 =>
      cases read
      exact ⟨text, annotated, parsed⟩

namespace StatusRules

open StatusCheck (Matches first?)

variable {words : StatusCheck.Wording} {documents : List Json} {rules : StatusRules}
  {object : Json} {a : Assessment}

def KeepsUnknown (words : StatusCheck.Wording) (documents : List Json) : Prop :=
  ∀ document ∈ documents, ∀ text checks, Definition.annotation? document = some text →
    StatusCheck.parse words text = .ok checks → ∀ check ∈ checks, check.status ≠ .unknown

theorem exists_annotation_of_mem {d : Definition} (mem : d ∈ definitionsIn words documents) :
    ∃ document ∈ documents, ∃ text, Definition.annotation? document = some text ∧
      StatusCheck.parse words text = .ok d.checks := by
  obtain ⟨document, listed, read⟩ := exists_document_of_mem mem
  exact ⟨document, listed, Definition.exists_annotation read⟩

theorem ne_unknown_of_keeps (made : ofDocuments words documents = .ok rules)
    (keeps : KeepsUnknown words documents) {c : Collection} {checks : List StatusCheck}
    (table : rules.tables.lookup c = some checks) : ∀ check ∈ checks, check.status ≠ .unknown := by
  rw [eq_ofDefinitions made, lookup_ofDefinitions] at table
  obtain ⟨d, last, rfl⟩ := Option.map_eq_some_iff.mp table
  obtain ⟨mem, -⟩ := List.mem_filter.mp (List.mem_of_getLast? last)
  obtain ⟨document, listed, text, annotated, parsed⟩ := exists_annotation_of_mem mem
  exact keeps document listed text d.checks annotated parsed

/-- The status and message that an object has by a table, as far as Unknown goes. -/
structure UnknownBy (checks : List StatusCheck) (object : Json) (kind : String) (a : Assessment) :
    Prop where
  message : a.status = .unknown → a.message = kind ++ " matches no status check"
  unknown_iff : a.status = .unknown ↔ (∀ check ∈ checks, ¬ Matches object check) ∨
    ∃ check, first? object checks = some check ∧ check.status = .unknown
  /-- Unknown tells that no check matches, unless the first that does has this label itself. -/
  reserved_iff : (a.status = .unknown → ∀ check ∈ checks, ¬ Matches object check) ↔
    ∀ check, first? object checks = some check → check.status ≠ .unknown

theorem unknownBy {checks : List StatusCheck} {status : Status} (kind : String)
    (found : StatusCheck.firstMatch object checks = .ok status) :
    UnknownBy checks object kind (.ofCheck kind status) := by
  have same := StatusCheck.firstMatch_eq_ok found
  refine ⟨fun unknown => ?_, ?_, ?_⟩
  · rw [Assessment.ofCheck_status] at unknown
    rw [unknown]
    rfl
  all_goals
    rw [Assessment.ofCheck_status, same, ← StatusCheck.first?_eq_none_iff]
    cases StatusCheck.first? object checks with
    | none => simp
    | some check => simp

/-- In rules that are made from documents, an object that has a status has it by a table. It is
unknown if it matches no check, and also if the first that it matches is labelled so; no other way
is left where no document declares this label. -/
theorem unknown_iff_unmatched (made : ofDocuments words documents = .ok rules)
    (assessed : rules.assess object = .ok a) :
    ∃ t r checks, Document.typeMeta object = .ok t ∧
      rules.catalog.resolve t.groupKind (some t.version) = .ok r ∧
      rules.tables.lookup r.collection = some checks ∧ UnknownBy checks object t.kind a ∧
      (KeepsUnknown words documents →
        (a.status = .unknown ↔ ∀ check ∈ checks, ¬ Matches object check)) := by
  obtain ⟨t, typed, behind⟩ := bind_eq_ok.mp assessed
  obtain ⟨r, resolved, behind⟩ := bind_eq_ok.mp behind
  obtain ⟨status, found, same⟩ := bind_eq_ok.mp behind
  cases same
  obtain ⟨checks, table⟩ := table_of_resolved made (Catalog.resolve_eq_ok.mp resolved)
  rw [statusIn, table] at found
  have by_table := unknownBy t.kind found
  refine ⟨t, r, checks, typed, resolved, table, by_table, fun keeps => ?_⟩
  rw [by_table.unknown_iff, or_iff_left_iff_imp]
  rintro ⟨check, first, unknown⟩
  have mem : check ∈ checks := List.mem_of_find?_eq_some first
  exact absurd unknown (ne_unknown_of_keeps made keeps table check mem)

/-- An old widget matches no check. -/
theorem unknown_iff_unmatched_widgets :
    let words := StatusCheck.emptyText
    let documents := [thingDefinition "Widget" "widgets" "v1" "Stable"]
    let object : Json := .obj [("apiVersion", .str "example.com/v1"), ("kind", .str "Widget"),
      ("state", .str "old")]
    let a : Assessment := ⟨"Unknown", "Widget matches no status check"⟩
    ∃ rules, ofDocuments words documents = .ok rules ∧ rules.assess object = .ok a ∧
      ∃ t r checks, Document.typeMeta object = .ok t ∧
        rules.catalog.resolve t.groupKind (some t.version) = .ok r ∧
        rules.tables.lookup r.collection = some checks ∧ UnknownBy checks object t.kind a ∧
        (KeepsUnknown words documents →
          (a.status = .unknown ↔ ∀ check ∈ checks, ¬ Matches object check)) := by
  intro words documents object a
  have made : ofDocuments words documents =
      .ok (ofDefinitions [thing "Widget" "widgets" "v1" "Stable"]) := by decide +kernel
  have assessed : (ofDefinitions [thing "Widget" "widgets" "v1" "Stable"]).assess object = .ok a := by
    decide +kernel
  exact ⟨_, made, assessed, unknown_iff_unmatched made assessed⟩

/-- A stable widget matches the only check of its table, and is said to match none. -/
theorem unknown_of_matched_widgets :
    let words := StatusCheck.emptyText
    let documents := [thingDefinition "Widget" "widgets" "v1" "Unknown"]
    let check : StatusCheck := ⟨"Unknown", ⟨"@.state==\"stable\""⟩⟩
    let object := stableThing "Widget" "v1"
    ∃ rules, ofDocuments words documents = .ok rules ∧
      rules.tables.lookup ⟨"example.com", "v1", "widgets"⟩ = some [check] ∧
      Matches object check ∧
      rules.assess object = .ok ⟨"Unknown", "Widget matches no status check"⟩ := by
  intro words documents check object
  exact ⟨.ofDefinitions [thing "Widget" "widgets" "v1" "Unknown"], by decide +kernel,
    by decide +kernel, by decide +kernel, by decide +kernel⟩

end StatusRules

end StatusWatch
