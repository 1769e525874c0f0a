import StatusWatch.Proofs.StatusRules.Definitions

/-!
Which definition judges an object. The last definition that serves the object's version leads to a
collection; the checks are those of the last definition that declares this collection. A later
definition of another kind with the same plural thus takes the objects over.
-/

namespace StatusWatch

namespace StatusRules

def JudgedBy (rules : StatusRules) (t : Document.TypeMeta) (d : Definition) : Prop :=
  ∀ object, Document.typeMeta object = .ok t →
    rules.assess object = (StatusCheck.firstMatch object d.checks).map (.ofCheck t.kind)

theorem exists_last_of_mem {p : α → Bool} {l : List α} (h : ∃ a ∈ l, p a = true) :
    ∃ before a after, l = before ++ a :: after ∧ p a = true ∧ ∀ b ∈ after, p b = false := by
  obtain ⟨a, found⟩ : ∃ a, l.reverse.find? p = some a := by
    rw [← Option.isSome_iff_exists, List.find?_isSome]
    simpa using h
  obtain ⟨holds, later, earlier, split, none⟩ := List.find?_eq_some_iff_append.mp found
  refine ⟨earlier.reverse, a, later.reverse, ?_, holds, fun b mem => ?_⟩
  · rw [← l.reverse_reverse, split]
    simp
  · simpa using none b (List.mem_reverse.mp mem)

theorem getLast?_filter_split (p : α → Bool) {a : α} (holds : p a = true)
    (before after : List α) :
    ((before ++ a :: after).filter p).getLast? = some ((after.filter p).getLast?.getD a) := by
  rw [List.filter_append, List.filter_cons_of_pos holds, List.getLast?_append, List.getLast?_cons]
  rfl

variable {words : StatusCheck.Wording} {documents : List Json} {rules : StatusRules}
  {t : Document.TypeMeta} {before after : List Definition} {d : Definition}

section LastServing

variable (made : ofDocuments words documents = .ok rules)
  (split : definitionsIn words documents = before ++ d :: after)
  (serves : d.serves t.groupKind t.version = true)

include made split serves

theorem find?_of_last (last : ∀ e ∈ after, e.serves t.groupKind t.version = false) :
    rules.catalog.find? t.groupKind (some t.version) = some (d.resource t.version) := by
  have later : after.filter (·.serves t.groupKind t.version) = [] :=
    List.filter_eq_nil_iff.mpr fun e mem => by simp [last e mem]
  have latest := getLast?_filter_split (fun e => e.serves t.groupKind t.version) serves before after
  rw [eq_ofDefinitions made, find?_ofDefinitions, split, latest, later]
  rfl

theorem lookup_collection_of_last :
    rules.tables.lookup (d.resource t.version).collection =
      some ((after.filter (·.declares (d.resource t.version).collection)).getLast?.getD d).checks := by
  have declares := Definition.declares_collection serves
  have latest := getLast?_filter_split (fun e => e.declares (d.resource t.version).collection)
    declares before after
  rw [eq_ofDefinitions made, lookup_ofDefinitions, split, latest]
  rfl

theorem judgedBy_getD (last : ∀ e ∈ after, e.serves t.groupKind t.version = false) :
    rules.JudgedBy t
      ((after.filter (·.declares (d.resource t.version).collection)).getLast?.getD d) := by
  intro object typed
  have found := find?_of_last made split serves last
  have table := lookup_collection_of_last made split serves
  rw [assess_eq typed found]
  unfold statusIn
  rw [table]

end LastServing

/-- An object of a served version is judged by the last definition that serves it, unless later ones
declare the same collection: then by the last of these, which is of another kind. -/
theorem judgedBy_last (made : ofDocuments words documents = .ok rules)
    (served : ∃ d ∈ definitionsIn words documents, d.serves t.groupKind t.version = true) :
    ∃ before d after, definitionsIn words documents = before ++ d :: after ∧
      d.serves t.groupKind t.version = true ∧
      (∀ e ∈ after, e.serves t.groupKind t.version = false) ∧
      let takers := after.filter (·.declares (d.resource t.version).collection)
      (takers = [] → rules.JudgedBy t d) ∧
        ∀ e, takers.getLast? = some e → rules.JudgedBy t e ∧ e.groupKind ≠ t.groupKind := by
  obtain ⟨before, d, after, split, serves, last⟩ := exists_last_of_mem served
  have judged := judgedBy_getD made split serves last
  refine ⟨before, d, after, split, serves, last, fun none => ?_, fun e taker => ⟨?_, ?_⟩⟩
  · rwa [none] at judged
  · rwa [taker] at judged
  · -- A taker of the same kind serves the version as well, behind the last definition that does.
    intro same
    have mem := List.mem_filter.mp (List.mem_of_getLast? taker)
    have version : t.version ∈ e.versions := by
      have declared := mem.2
      simp only [Definition.declares, Bool.and_eq_true, decide_eq_true_eq] at declared
      exact declared.2
    have serves' := Definition.serves_iff.mpr ⟨same, version⟩
    rw [last e mem.1] at serves'
    cases serves'

end StatusRules

def thingDefinition (kind plural version status : String) : Json :=
  .object [("metadata", .object [("name", .str (plural ++ ".example.com")),
      ("annotations", .object [(StatusCheck.annotationName, .str ("[\x7b\"status\":\"" ++ status ++
        "\",\"condition\":\"@.state==\\\"stable\\\"\"\x7d]"))])]),
    ("spec", .object [("group", .str "example.com"), ("scope", .str "Namespaced"),
      ("names", .object [("kind", .str kind), ("plural", .str plural)]),
      ("versions", .arr [.object [("name", .str version)]])])]

def thing (kind plural version status : String) : Definition :=
  ⟨"example.com", kind, plural, true, [version], [⟨status, ⟨"@.state==\"stable\""⟩⟩]⟩

def stableThing (kind version : String) : Json :=
  .obj [("apiVersion", .str ("example.com/" ++ version)), ("kind", .str kind),
    ("metadata", .obj [("name", .str "w"), ("namespace", .str "infra")]), ("state", .str "stable")]

namespace StatusRules

/-- Of two definitions of widgets, the one behind the gadgets counts. -/
theorem judgedBy_last_widgets :
    let words := StatusCheck.emptyText
    let documents := [thingDefinition "Widget" "widgets" "v1" "Ready",
      thingDefinition "Gadget" "gadgets" "v1" "Charged",
      thingDefinition "Widget" "widgets" "v1" "Stable"]
    let t : Document.TypeMeta := ⟨"example.com", "v1", "Widget"⟩
    ∃ rules, ofDocuments words documents = .ok rules ∧
      ∃ before d after, definitionsIn words documents = before ++ d :: after ∧
        d.serves t.groupKind t.version = true ∧
        (∀ e ∈ after, e.serves t.groupKind t.version = false) ∧
        let takers := after.filter (·.declares (d.resource t.version).collection)
        (takers = [] → rules.JudgedBy t d) ∧
          ∀ e, takers.getLast? = some e → rules.JudgedBy t e ∧ e.groupKind ≠ t.groupKind := by
  intro words documents t
  have made : ofDocuments words documents = .ok (ofDefinitions [thing "Widget" "widgets" "v1" "Ready",
      thing "Gadget" "gadgets" "v1" "Charged", thing "Widget" "widgets" "v1" "Stable"]) := by
    decide +kernel
  exact ⟨_, made, judgedBy_last made
    ⟨thing "Widget" "widgets" "v1" "Stable", by decide +kernel, by decide +kernel⟩⟩

/-- Gadgets with the plural of the widgets: a widget has the status of a gadget. -/
theorem not_judgedBy_last_things :
    let words := StatusCheck.emptyText
    let documents := [thingDefinition "Widget" "things" "v1" "Stable",
      thingDefinition "Gadget" "things" "v1" "Charged"]
    let t : Document.TypeMeta := ⟨"example.com", "v1", "Widget"⟩
    let widgets := thing "Widget" "things" "v1" "Stable"
    let gadgets := thing "Gadget" "things" "v1" "Charged"
    ∃ rules, ofDocuments words documents = .ok rules ∧ definitionsIn words documents = [widgets, gadgets] ∧
      widgets.serves t.groupKind t.version = true ∧ gadgets.serves t.groupKind t.version = false ∧
      rules.assess (stableThing "Widget" "v1") = .ok ⟨"Charged", "Widget is Charged"⟩ ∧
      ¬ rules.JudgedBy t widgets := by
  intro words documents t widgets gadgets
  have judged : (ofDefinitions [widgets, gadgets]).assess (stableThing "Widget" "v1") =
      .ok ⟨"Charged", "Widget is Charged"⟩ := by decide +kernel
  refine ⟨ofDefinitions [widgets, gadgets], by decide +kernel, by decide +kernel, by decide +kernel,
    by decide +kernel, judged, fun own => ?_⟩
  have status := own (stableThing "Widget" "v1") (by decide +kernel)
  rw [judged] at status
  revert status
  decide +kernel

end StatusRules

end StatusWatch
