import StatusWatch.Proofs.Catalog
import StatusWatch.Proofs.Success
import StatusWatch.StatusRules

/-!
Status rules as definitions make them: each version of a kind is registered once, and has a table.
An object of a registered version is judged by the table of its collection, and a fault in a check
is never taken for the absence of the object.
-/

namespace StatusWatch

def StatusCheck.emptyText : Wording :=
  fun _ => "EOF while parsing a value at line 1 column 0"

namespace StatusRules

variable {words : StatusCheck.Wording} {rules : StatusRules} {definitions : List Json}

structure Sound (rules : StatusRules) : Prop where
  distinct : rules.catalog.Distinct
  /-- Without tables, no version is registered. -/
  registered : rules.tables = [] → rules.catalog.resources = []

theorem Sound.addVersion (h : rules.Sound) (d : Definition) (version : String) :
    (addVersion d rules version).Sound where
  distinct := h.distinct.add _
  registered := nofun

theorem Sound.add (h : rules.Sound) (d : Definition) : (rules.add d).Sound := by
  have versions : ∀ versions : List String,
      (versions.foldl (StatusRules.addVersion d) rules).Sound := by
    intro versions
    induction versions generalizing rules with
    | nil => exact h
    | cons version rest ih => exact ih (h.addVersion d version)
  unfold StatusRules.add
  dsimp only
  split
  · exact versions d.versions
  · exact ⟨(versions d.versions).distinct, (versions d.versions).registered⟩

theorem sound_ofDefinitions (definitions : List Definition) :
    (ofDefinitions definitions).Sound := by
  suffices ∀ rules : StatusRules, rules.Sound → (definitions.foldl add rules).Sound from
    this empty ⟨List.nodup_nil, fun _ => rfl⟩
  induction definitions with
  | nil => exact fun _ h => h
  | cons d rest ih => exact fun rules h => ih _ (h.add d)

theorem sound_ofDocuments (h : ofDocuments words definitions = .ok rules) : rules.Sound := by
  obtain ⟨found, -, ⟨⟩⟩ := bind_eq_ok.mp h
  exact sound_ofDefinitions _

theorem Sound.isEmpty_eq_false (h : rules.Sound) {gk : GroupKind} {version : Option String}
    {r : Resource} (found : rules.catalog.find? gk version = some r) : rules.isEmpty = false := by
  rw [isEmpty, List.isEmpty_eq_false_iff]
  intro none
  rw [Catalog.find?, h.registered none] at found
  cases found

theorem Sound.find?_merge (h : rules.Sound) (base : Catalog) {gk : GroupKind} {version : String}
    {r : Resource} (found : rules.catalog.find? gk (some version) = some r) :
    (base.merge rules.catalog).find? gk (some version) = some r := by
  rw [Catalog.find?_merge h.distinct, found]
  rfl

theorem assess_eq {object : Json} {t : Document.TypeMeta} {r : Resource}
    (typed : Document.typeMeta object = .ok t)
    (found : rules.catalog.find? t.groupKind (some t.version) = some r) :
    rules.assess object = (rules.statusIn r.collection object).map (.ofCheck t.kind) := by
  unfold assess Catalog.resolve
  rw [typed]
  dsimp only [bind, Except.bind]
  rw [found]
  rfl

end StatusRules

theorem Condition.evaluate_error {c : Condition} {object : Json} {e : Error}
    (h : c.evaluate object = .error e) : ∃ fault, e = .statusCheck fault := by
  unfold evaluate compile at h
  cases parsed : Parser.parse c.text with
  | error e =>
    rw [parsed] at h
    cases h
    exact ⟨_, rfl⟩
  | ok path =>
    rw [parsed] at h
    dsimp only [Except.mapError, bind, Except.bind] at h
    split at h
    · cases h
    · cases h
    · cases h
    · cases h
      exact ⟨_, rfl⟩

theorem StatusCheck.firstMatch_error {object : Json} {checks : List StatusCheck} {e : Error}
    (h : firstMatch object checks = .error e) : ∃ fault, e = .statusCheck fault := by
  induction checks with
  | nil => cases h
  | cons check rest ih =>
    unfold firstMatch at h
    cases tested : check.condition.evaluate object with
    | error e =>
      rw [tested] at h
      cases h
      exact Condition.evaluate_error tested
    | ok outcome =>
      rw [tested] at h
      cases outcome with
      | matched => cases h
      | notMatched => exact ih h
      | absent field => exact ih h

theorem StatusRules.statusIn_error {rules : StatusRules} {c : Collection} {object : Json}
    {e : Error} (h : rules.statusIn c object = .error e) : e.isNotFound = false := by
  unfold statusIn at h
  split at h
  case h_1 checks _ =>
    obtain ⟨fault, rfl⟩ := StatusCheck.firstMatch_error h
    rfl
  case h_2 => cases h

end StatusWatch
