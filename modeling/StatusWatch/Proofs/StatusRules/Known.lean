import StatusWatch.Proofs.StatusRules.Definitions

/-!
The versions that rules know: those with a mapping and with checks for what it leads to. Whatever
is registered is known, and every annotated kind has a version that is.
-/

namespace StatusWatch

namespace StatusRules

variable {words : StatusCheck.Wording} {documents : List Json} {rules : StatusRules}
  {gk : GroupKind} {version : String} {r : Resource}

def Knows (rules : StatusRules) (gk : GroupKind) (version : String) : Prop :=
  ∃ r, rules.catalog.find? gk (some version) = some r ∧
    (rules.tables.lookup r.collection).isSome = true

theorem isSome_getLast?_filter {p : α → Bool} {l : List α} {a : α} (mem : a ∈ l)
    (holds : p a = true) : (l.filter p).getLast?.isSome = true := by
  rw [List.getLast?_isSome]
  exact List.ne_nil_of_mem (List.mem_filter.mpr ⟨mem, holds⟩)

/-- A registered version has checks: whoever registers it declares them too. -/
theorem knows_of_registered (made : ofDocuments words documents = .ok rules)
    (found : rules.catalog.find? gk (some version) = some r) : rules.Knows gk version := by
  refine ⟨r, found, ?_⟩
  rw [eq_ofDefinitions made, find?_ofDefinitions] at found
  obtain ⟨d, last, rfl⟩ := Option.map_eq_some_iff.mp found
  obtain ⟨mem, serves⟩ := List.mem_filter.mp (List.mem_of_getLast? last)
  rw [eq_ofDefinitions made, lookup_ofDefinitions, Option.isSome_map]
  exact isSome_getLast?_filter mem (Definition.declares_collection serves)

theorem exists_default (made : ofDocuments words documents = .ok rules) (annotated : gk ∈ rules.kinds) :
    ∃ r, rules.catalog.find? gk none = some r ∧ rules.Knows gk r.version := by
  have kinds := annotated
  rw [eq_ofDefinitions made, mem_kinds_ofDefinitions] at kinds
  obtain ⟨d, mem, ofKind⟩ := kinds
  obtain ⟨version, served⟩ := List.exists_mem_of_ne_nil _ (versions_ne_nil_of_mem mem)
  have registered : (rules.catalog.find? gk (some version)).isSome = true := by
    rw [eq_ofDefinitions made, find?_ofDefinitions, Option.isSome_map]
    exact isSome_getLast?_filter mem (Definition.serves_iff.mpr ⟨ofKind, served⟩)
  cases default : rules.catalog.find? gk none with
  | some r => exact ⟨r, rfl, knows_of_registered made (Catalog.find?_of_default default)⟩
  | none =>
    -- Whatever is registered for a version is an entry of the kind, so a default.
    rw [Catalog.find?_none_version, List.find?_eq_none] at default
    rw [Catalog.find?_some_version, List.find?_isSome] at registered
    obtain ⟨s, mem, key⟩ := registered
    have sameKind : s.groupKind = gk := congrArg Prod.fst (of_decide_eq_true key)
    exact absurd (decide_eq_true sameKind) (default s mem)

theorem noMapping_iff (made : ofDocuments words documents = .ok rules) {object : Json}
    {t : Document.TypeMeta} (typed : Document.typeMeta object = .ok t) :
    (∃ kind, rules.assess object = .error (.noMapping kind)) ↔
      ¬ rules.Knows t.groupKind t.version := by
  cases found : rules.catalog.find? t.groupKind (some t.version) with
  | none =>
    have lost : rules.assess object = .error (.noMapping t.groupKind.toText) := by
      unfold assess Catalog.resolve
      rw [typed]
      dsimp only [bind, Except.bind]
      rw [found]
    have unknown : ¬ rules.Knows t.groupKind t.version := by
      rintro ⟨r, known, -⟩
      rw [found] at known
      cases known
    exact iff_of_true ⟨_, lost⟩ unknown
  | some r =>
    refine iff_of_false ?_ fun unknown => unknown (knows_of_registered made found)
    rintro ⟨kind, lost⟩
    rw [assess_eq typed found] at lost
    unfold statusIn at lost
    split at lost
    case h_1 checks _ =>
      cases judged : StatusCheck.firstMatch object checks with
      | ok status => simp [judged, Except.map] at lost
      | error e =>
        obtain ⟨fault, rfl⟩ := StatusCheck.firstMatch_error judged
        simp [judged, Except.map] at lost
    case h_2 => simp [Except.map] at lost

end StatusRules

end StatusWatch
