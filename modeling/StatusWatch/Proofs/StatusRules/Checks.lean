import StatusWatch.Proofs.StatusRules.Definitions

/-!
Checks from their text to a status. A text is read as a list of entries before any of them is looked
at; the first entry that is no check then refuses the whole. A table has each status once, where it
comes first and with the condition that comes last. Its checks are asked in order up to the first one
that matches or fails; a check on an absent field is passed over.
-/

namespace StatusWatch

theorem Condition.compile_eq_error {c : Condition} {e : Error} :
    c.compile = .error e ↔ ∃ fault, Parser.parse c.text = .error fault ∧
      e = .statusCheck (.badCondition c.text fault) := by
  unfold compile
  cases Parser.parse c.text with
  | ok path => exact iff_of_false nofun (by simp)
  | error fault => simp [Except.mapError, eq_comm]

namespace StatusCheck

variable {words : Wording} {entry : String × String} {entries : List (String × String)}
  {check : StatusCheck} {checks : List StatusCheck} {e : Error} {text : String} {object : Json}

section Reading

/-- Why an entry is no check. Its status is looked at before its condition. -/
inductive Offends : String × String → Error → Prop
  | noStatus (condition : String) : Offends ("", condition) (.statusCheck .missingStatus)
  | noCondition {status : String} (named : status ≠ "") :
      Offends (status, "") (.statusCheck .missingCondition)
  | badCondition {status condition : String} {e : Error} (named : status ≠ "")
      (given : condition ≠ "") (refused : Condition.compile ⟨condition⟩ = .error e) :
      Offends (status, condition) e

theorem Offends.unique {e' : Error} (h : Offends entry e) (h' : Offends entry e') : e = e' := by
  cases h with
  | noStatus =>
    cases h' with
    | noStatus => rfl
    | noCondition named => exact absurd rfl named
    | badCondition named => exact absurd rfl named
  | noCondition named =>
    cases h' with
    | noStatus => exact absurd rfl named
    | noCondition => rfl
    | badCondition _ given => exact absurd rfl given
  | badCondition named given refused =>
    cases h' with
    | noStatus => exact absurd rfl named
    | noCondition => exact absurd rfl given
    | badCondition _ _ refused' => exact Except.error.inj (refused.symm.trans refused')

def IsCheck (entry : String × String) : Prop := ∀ e, ¬ Offends entry e

def ofParts (entry : String × String) : StatusCheck := ⟨entry.1, ⟨entry.2⟩⟩

theorem ofEntry_cases (entry : String × String) :
    (∃ e, Offends entry e ∧ ofEntry entry = .error e) ∨
      IsCheck entry ∧ ofEntry entry = .ok (ofParts entry) := by
  obtain ⟨status, condition⟩ := entry
  by_cases named : status = ""
  · subst named
    exact .inl ⟨_, .noStatus condition, rfl⟩
  · by_cases given : condition = ""
    · subst given
      exact .inl ⟨_, .noCondition named, by simp [ofEntry, named]⟩
    · cases compiled : Condition.compile ⟨condition⟩ with
      | error e =>
        exact .inl ⟨e, .badCondition named given compiled,
          by simp [ofEntry, named, given, compiled, Except.map]⟩
      | ok path =>
        refine .inr ⟨fun e offends => ?_, ?_⟩
        · cases offends with
          | noStatus => exact named rfl
          | noCondition => exact given rfl
          | badCondition _ _ refused => cases compiled.symm.trans refused
        · simp [ofEntry, named, given, compiled, Except.map, ofParts]

theorem ofEntry_eq_error : ofEntry entry = .error e ↔ Offends entry e := by
  rcases ofEntry_cases entry with ⟨e', offends, refused⟩ | ⟨sound, read⟩
  · rw [refused, Except.error.injEq]
    constructor
    · rintro rfl
      exact offends
    · exact offends.unique
  · rw [read]
    exact iff_of_false nofun (sound e)

theorem exists_ofEntry_eq_ok : (∃ check, ofEntry entry = .ok check) ↔ IsCheck entry := by
  rcases ofEntry_cases entry with ⟨e, offends, refused⟩ | ⟨sound, read⟩
  · rw [refused]
    exact iff_of_false nofun fun sound => sound e offends
  · exact iff_of_true ⟨_, read⟩ sound

theorem mapM_ofEntry (sound : ∀ entry ∈ entries, IsCheck entry) :
    entries.mapM ofEntry = .ok (entries.map ofParts) := by
  induction entries with
  | nil => rfl
  | cons first rest ih =>
    rw [List.forall_mem_cons] at sound
    rcases ofEntry_cases first with ⟨e, offends, -⟩ | ⟨-, read⟩
    · exact absurd offends (sound.1 e)
    · rw [List.mapM_cons, read, ih sound.2]
      rfl

end Reading

section Tables

theorem put_eq_upsert (check : StatusCheck) (checks : List StatusCheck) :
    put check checks = upsert status check checks := by
  induction checks with
  | nil => rfl
  | cons first rest ih => rw [put, upsert, ih]

theorem statuses_foldl_put (checks table : List StatusCheck) :
    (checks.foldl (fun table check => put check table) table).map status =
      (checks.map status).foldl addNew (table.map status) := by
  induction checks generalizing table with
  | nil => rfl
  | cons first rest ih =>
    rw [List.foldl_cons, ih, put_eq_upsert, map_upsert, List.map_cons, List.foldl_cons]

theorem find?_foldl_put (checks : List StatusCheck) (label : Status) :
    (checks.foldl (fun table check => put check table) []).find? (·.status = label) =
      (checks.filter (·.status = label)).getLast? := by
  have last : (checks.foldl (fun table check => put check table) []).find? (·.status = label) =
      ((checks.filter (·.status = label)).getLast?.map id).or none :=
    reading_foldl (fun table : List StatusCheck => table.find? (·.status = label))
      (fun table c => by simp [put_eq_upsert, find?_upsert]) checks []
  rw [last, Option.map_id_apply, Option.or_none]

structure TableOf (entries : List (String × String)) (checks : List StatusCheck) : Prop where
  once : (checks.map status).Nodup
  order : checks.map status = (entries.map Prod.fst).eraseDups
  newest : ∀ check ∈ checks, (entries.filter (·.1 = check.status)).getLast? =
    some (check.status, check.condition.text)

theorem tableOf_put (entries : List (String × String)) :
    TableOf entries ((entries.map ofParts).foldl (fun table check => put check table) []) := by
  have labels : (entries.map ofParts).map status = entries.map Prod.fst := by
    rw [List.map_map]
    rfl
  have order := statuses_foldl_put (entries.map ofParts) []
  have newest := find?_foldl_put (entries.map ofParts)
  generalize (entries.map ofParts).foldl (fun table check => put check table) [] = table at order newest
  rw [labels, List.map_nil] at order
  have once : (table.map status).Nodup := order ▸ nodup_foldl_addNew List.nodup_nil _
  refine ⟨once, ?_, fun check mem => ?_⟩
  · rw [order, foldl_addNew]
    simp
  · -- Each label is found once, so what is found under a member's label is the member.
    have found := newest check.status
    have named : (fun c => decide (c.status = check.status)) ∘ ofParts =
        fun entry => decide (entry.1 = check.status) := rfl
    rw [find?_key_eq once mem, List.filter_map, List.getLast?_map, named, eq_comm,
      Option.map_eq_some_iff] at found
    obtain ⟨entry, last, rfl⟩ := found
    exact last

end Tables

theorem parse_eq_error_of_none (unread : entries? text = none) :
    parse words text = .error (.statusCheck (.notEntries text (words text))) := by
  rw [parse, unread]

theorem parse_of_entries (read : entries? text = some entries) :
    (∃ before entry after e, entries = before ++ entry :: after ∧
        (∀ earlier ∈ before, IsCheck earlier) ∧ Offends entry e ∧ parse words text = .error e) ∨
      (∀ entry ∈ entries, IsCheck entry) ∧
        ∃ checks, parse words text = .ok checks ∧ TableOf entries checks := by
  rw [parse, read]
  dsimp only
  cases made : entries.mapM ofEntry with
  | error e =>
    obtain ⟨before, entry, after, split, sound, refused⟩ := mapM_eq_error.mp made
    refine .inl ⟨before, entry, after, e, split, fun earlier mem => ?_,
      ofEntry_eq_error.mp refused, rfl⟩
    exact exists_ofEntry_eq_ok.mp (sound earlier mem)
  | ok checks =>
    have sound : ∀ entry ∈ entries, IsCheck entry := by
      intro entry mem
      exact exists_ofEntry_eq_ok.mp (exists_mapM_eq_ok.mp ⟨checks, made⟩ entry mem)
    rw [mapM_ofEntry sound] at made
    cases made
    exact .inr ⟨sound, _, rfl, tableOf_put entries⟩

section Scanning

/-- The check neither matches the object nor fails; one on an absent field does not match. -/
def Passes (object : Json) (check : StatusCheck) : Prop :=
  check.condition.evaluate object = .ok .notMatched ∨
    ∃ field, check.condition.evaluate object = .ok (.absent field)

theorem firstMatch_cons_of_passes (passes : Passes object check) (rest : List StatusCheck) :
    firstMatch object (check :: rest) = firstMatch object rest := by
  rcases passes with same | ⟨field, same⟩ <;> rw [firstMatch, same] <;> rfl

theorem firstMatch_append {before : List StatusCheck} (passed : ∀ c ∈ before, Passes object c)
    (rest : List StatusCheck) : firstMatch object (before ++ rest) = firstMatch object rest := by
  induction before with
  | nil => rfl
  | cons first others ih =>
    rw [List.forall_mem_cons] at passed
    rw [List.cons_append, firstMatch_cons_of_passes passed.1, ih passed.2]

theorem firstMatch_of_matched {before after : List StatusCheck}
    (passed : ∀ c ∈ before, Passes object c)
    (matched : check.condition.evaluate object = .ok .matched) :
    firstMatch object (before ++ check :: after) = .ok check.status := by
  rw [firstMatch_append passed, firstMatch, matched]
  rfl

theorem firstMatch_of_failed {before after : List StatusCheck}
    (passed : ∀ c ∈ before, Passes object c)
    (failed : check.condition.evaluate object = .error e) :
    firstMatch object (before ++ check :: after) = .error e := by
  rw [firstMatch_append passed, firstMatch, failed]
  rfl

theorem firstMatch_of_passed (passed : ∀ c ∈ checks, Passes object c) :
    firstMatch object checks = .ok .unknown := by
  rw [← List.append_nil checks, firstMatch_append passed]
  rfl

end Scanning

end StatusCheck

theorem Assessment.ofCheck_status (kind : String) (status : Status) :
    (ofCheck kind status).status = status := by
  unfold ofCheck
  split <;> rfl

namespace StatusRules

open StatusCheck (Passes)

variable {rules : StatusRules} {object : Json} {checks : List StatusCheck}
  {t : Document.TypeMeta} {r : Resource}

theorem status_assess (typed : Document.typeMeta object = .ok t)
    (found : rules.catalog.resolve t.groupKind (some t.version) = .ok r)
    (table : rules.tables.lookup r.collection = some checks) :
    (rules.assess object).map Assessment.status = StatusCheck.firstMatch object checks := by
  rw [assess_eq typed (Catalog.resolve_eq_ok.mp found), statusIn, table]
  dsimp only
  cases StatusCheck.firstMatch object checks with
  | error e => rfl
  | ok status => exact congrArg Except.ok (Assessment.ofCheck_status t.kind status)

/-- The object has the status of the first check that it matches, if none before that fails; otherwise
it gets the failure, or no check applies and nothing is known. -/
structure JudgedInOrder (rules : StatusRules) (object : Json) (checks : List StatusCheck) : Prop where
  matched : ∀ before check after, checks = before ++ check :: after →
    (∀ c ∈ before, Passes object c) → check.condition.evaluate object = .ok .matched →
    (rules.assess object).map Assessment.status = .ok check.status
  failed : ∀ before check after e, checks = before ++ check :: after →
    (∀ c ∈ before, Passes object c) → check.condition.evaluate object = .error e →
    rules.assess object = .error e
  passed : (∀ c ∈ checks, Passes object c) →
    (rules.assess object).map Assessment.status = .ok .unknown

theorem judgedInOrder (typed : Document.typeMeta object = .ok t)
    (found : rules.catalog.resolve t.groupKind (some t.version) = .ok r)
    (table : rules.tables.lookup r.collection = some checks) : rules.JudgedInOrder object checks := by
  have status := status_assess typed found table
  constructor
  · intro before check after split passed matched
    rw [status, split, StatusCheck.firstMatch_of_matched passed matched]
  · intro before check after e split passed failed
    rw [split, StatusCheck.firstMatch_of_failed passed failed] at status
    cases assessed : rules.assess object with
    | error fault => simpa [assessed, Except.map] using status
    | ok a => simp [assessed, Except.map] at status
  · intro passed
    rw [status, StatusCheck.firstMatch_of_passed passed]

open StatusCheck (entries? parse IsCheck Offends TableOf)

/-- A text that is no list of entries is refused as such. Entries are refused for the first one that
offends, or make a table with every status once; objects with a table are judged by it in order. -/
theorem declared_and_judged (words : StatusCheck.Wording) (text : String) (rules : StatusRules) (object : Json) :
    (entries? text = none → parse words text = .error (.statusCheck (.notEntries text (words text)))) ∧
    (∀ entries, entries? text = some entries →
      (∃ before entry after e, entries = before ++ entry :: after ∧
          (∀ earlier ∈ before, IsCheck earlier) ∧ Offends entry e ∧ parse words text = .error e) ∨
        (∀ entry ∈ entries, IsCheck entry) ∧
          ∃ checks, parse words text = .ok checks ∧ TableOf entries checks) ∧
    ∀ t r checks, Document.typeMeta object = .ok t →
      rules.catalog.resolve t.groupKind (some t.version) = .ok r →
      rules.tables.lookup r.collection = some checks → rules.JudgedInOrder object checks := by
  refine ⟨StatusCheck.parse_eq_error_of_none, ?_, ?_⟩
  · intro entries read
    exact StatusCheck.parse_of_entries read
  · intro t r checks typed found table
    exact judgedInOrder typed found table

/-- A status that is declared again keeps its place in front of the pending one. -/
theorem declared_and_judged_widgets :
    let words := StatusCheck.emptyText
    let text := "[\x7b\"status\":\"Stable\",\"condition\":\"@.state=='old'\"\x7d," ++
      "\x7b\"status\":\"Pending\",\"condition\":\"@.state\"\x7d," ++
      "\x7b\"status\":\"Stable\",\"condition\":\"@.state=='stable'\"\x7d]"
    let entries := [("Stable", "@.state=='old'"), ("Pending", "@.state"),
      ("Stable", "@.state=='stable'")]
    let checks : List StatusCheck :=
      [⟨"Stable", ⟨"@.state=='stable'"⟩⟩, ⟨"Pending", ⟨"@.state"⟩⟩]
    let rules := ofDefinitions [⟨"example.com", "Widget", "widgets", true, ["v1"], checks⟩]
    let object := Json.obj [("apiVersion", .str "example.com/v1"), ("kind", .str "Widget"),
      ("state", .str "old")]
    entries? text = some entries ∧ parse words text = .ok checks ∧ TableOf entries checks ∧
      (rules.assess object).map Assessment.status = .ok "Pending" := by
  intro words text entries checks rules object
  obtain ⟨-, declared, judged⟩ := declared_and_judged words text rules object
  have read : entries? text = some entries := by decide +kernel
  have parsed : parse words text = .ok checks := by decide +kernel
  refine ⟨read, parsed, ?_, ?_⟩
  · rcases declared entries read with ⟨-, -, -, e, -, -, -, refused⟩ | ⟨-, found, made, table⟩
    · cases parsed.symm.trans refused
    · cases parsed.symm.trans made
      exact table
  · have inOrder := judged ⟨"example.com", "v1", "Widget"⟩
      ⟨"example.com", "v1", "Widget", "widgets", true⟩ checks (by decide +kernel)
      (by decide +kernel) (by decide +kernel)
    refine inOrder.matched [⟨"Stable", ⟨"@.state=='stable'"⟩⟩] ⟨"Pending", ⟨"@.state"⟩⟩ [] rfl ?_
      (by decide +kernel)
    intro c mem
    rw [List.mem_singleton.mp mem]
    exact .inl (by decide +kernel)

/-- The first entry has no status, but the second, which is none, comes before it. -/
theorem parse_entry_without_status :
    let first := "\x7b\"status\":\"\",\"condition\":\"@.state\"\x7d"
    let text := "[" ++ first ++ ",\x7b\"status\":5\x7d]"
    let words : StatusCheck.Wording :=
      fun _ => "invalid type: integer `5`, expected a string at line 1 column 48"
    parse words ("[" ++ first ++ "]") = .error (.statusCheck .missingStatus) ∧
      parse words text = .error (.statusCheck (.notEntries text (words text))) ∧
      ∀ entry, ¬ Offends entry (.statusCheck (.notEntries text (words text))) := by
  intro first text words
  refine ⟨by decide +kernel, by decide +kernel, ?_⟩
  rintro ⟨status, condition⟩ offends
  cases offends with
  | badCondition _ _ refused =>
    obtain ⟨fault, -, same⟩ := Condition.compile_eq_error.mp refused
    cases same

end StatusRules

end StatusWatch
