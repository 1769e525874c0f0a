import Mathlib.Data.List.Nodup

/-!
Members of a list by a key that no two of them share, lists in which each member is kept once, where
it stands first, and lists in which a newer member takes the place of an older one of its key.
-/

namespace StatusWatch

theorem find?_of_unique {p : α → Bool} {a : α} {l : List α} (mem : a ∈ l) (holds : p a = true)
    (only : ∀ b ∈ l, p b = true → b = a) : l.find? p = some a := by
  cases found : l.find? p with
  | none => exact absurd holds (List.find?_eq_none.mp found a mem)
  | some b => rw [only b (List.mem_of_find?_eq_some found) (List.find?_some found)]

theorem lookup_cons_eq_ite [DecidableEq κ] (first : κ) (a : α) (entries : List (κ × α)) (key : κ) :
    ((first, a) :: entries).lookup key = if key = first then some a else entries.lookup key := by
  by_cases here : key = first
  · rw [here, List.lookup_cons_self, if_pos rfl]
  · rw [List.lookup_cons, beq_false_of_ne here, if_neg here]

theorem lookup_filter_ne [DecidableEq κ] (entries : List (κ × α)) {erased other : κ}
    (apart : other ≠ erased) :
    (entries.filter (·.1 ≠ erased)).lookup other = entries.lookup other := by
  induction entries with
  | nil => rfl
  | cons e rest ih =>
    obtain ⟨first, value⟩ := e
    by_cases same : first = erased
    · subst same
      rw [List.filter_cons_of_neg (by simp), ih, List.lookup_cons, beq_false_of_ne apart]
    · rw [List.filter_cons_of_pos (by simpa using same), List.lookup_cons, List.lookup_cons, ih]

theorem mem_of_lookup_eq_some [DecidableEq κ] {entries : List (κ × α)} {key : κ} {value : α}
    (h : entries.lookup key = some value) : (key, value) ∈ entries := by
  induction entries with
  | nil => cases h
  | cons e rest ih =>
    obtain ⟨first, found⟩ := e
    by_cases same : key = first
    · rw [same, List.lookup_cons_self, Option.some.injEq] at h
      rw [same, h]
      exact List.mem_cons_self
    · rw [List.lookup_cons, beq_false_of_ne same] at h
      exact List.mem_cons_of_mem _ (ih h)

theorem exists_lookup_of_mem [DecidableEq κ] {entries : List (κ × α)} {key : κ} {value : α}
    (mem : (key, value) ∈ entries) : ∃ found, entries.lookup key = some found := by
  rw [← Option.ne_none_iff_exists']
  intro none
  have apart := List.lookup_eq_none_iff.mp none (key, value) mem
  simp at apart

theorem lookup_map_mk [DecidableEq κ] (f : κ → α) (keys : List κ) (key : κ) :
    (keys.map fun k => (k, f k)).lookup key = if key ∈ keys then some (f key) else none := by
  induction keys with
  | nil => rfl
  | cons first rest ih =>
    rw [List.map_cons, lookup_cons_eq_ite, ih]
    by_cases here : key = first
    · simp [here]
    · simp [here]

/-- Where some steps of a fold overwrite what is read, the last of these counts. -/
theorem reading_foldl (reading : β → Option γ) {step : β → α → β} {writes : α → Bool}
    {written : α → γ}
    (overwrites : ∀ b a, reading (step b a) = if writes a then some (written a) else reading b)
    (l : List α) (b : β) :
    reading (l.foldl step b) = ((l.filter writes).getLast?.map written).or (reading b) := by
  induction l generalizing b with
  | nil => rfl
  | cons a rest ih =>
    rw [List.foldl_cons, ih, overwrites]
    -- What the rest overwrites hides `a`, so only an empty rest shows it.
    by_cases here : writes a = true
    · rw [if_pos here, List.filter_cons_of_pos here, List.getLast?_cons]
      cases (rest.filter writes).getLast? <;> rfl
    · rw [if_neg here, List.filter_cons_of_neg here]

section Distinct

variable [DecidableEq κ] {key : α → κ} {l : List α} {a : α}

theorem find?_key_eq (distinct : (l.map key).Nodup) (mem : a ∈ l) :
    l.find? (key · = key a) = some a := by
  refine find?_of_unique mem (by simp) fun b hb same => ?_
  exact List.inj_on_of_nodup_map distinct hb mem (by simpa using same)

theorem filter_key_eq (distinct : (l.map key).Nodup) (mem : a ∈ l) :
    l.filter (key · = key a) = [a] := by
  induction l with
  | nil => cases mem
  | cons b rest ih =>
    rw [List.map_cons, List.nodup_cons] at distinct
    obtain ⟨new, distinct⟩ := distinct
    rcases List.mem_cons.mp mem with rfl | later
    · have others : rest.filter (key · = key a) = [] := by
        refine List.filter_eq_nil_iff.mpr fun c hc => ?_
        have apart : key c ≠ key a := fun same => new (same ▸ List.mem_map_of_mem hc)
        simpa using apart
      rw [List.filter_cons_of_pos (by simp), others]
    · have apart : key b ≠ key a := fun same => new (same ▸ List.mem_map_of_mem later)
      rw [List.filter_cons_of_neg (by simpa using apart), ih distinct later]

theorem getLast?_filter_key (distinct : (l.map key).Nodup) (k : κ) :
    (l.filter (key · = k)).getLast? = l.find? (key · = k) := by
  cases found : l.find? (key · = k) with
  | none =>
    have others : l.filter (key · = k) = [] :=
      List.filter_eq_nil_iff.mpr (List.find?_eq_none.mp found)
    rw [others]
    rfl
  | some a =>
    have own : key a = k := by simpa using List.find?_some found
    subst own
    rw [filter_key_eq distinct (List.mem_of_find?_eq_some found)]
    rfl

end Distinct

section Once

variable [DecidableEq α]

def addNew (kept : List α) (a : α) : List α :=
  if a ∈ kept then kept else kept ++ [a]

theorem nodup_addNew {kept : List α} (distinct : kept.Nodup) (a : α) : (addNew kept a).Nodup := by
  unfold addNew
  split
  case isTrue => exact distinct
  case isFalse new => exact List.nodup_append_comm.mp (List.nodup_cons.mpr ⟨new, distinct⟩)

theorem nodup_foldl_addNew {kept : List α} (distinct : kept.Nodup) (l : List α) :
    (l.foldl addNew kept).Nodup := by
  induction l generalizing kept with
  | nil => exact distinct
  | cons a rest ih => exact ih (nodup_addNew distinct a)

theorem foldl_addNew (l kept : List α) :
    l.foldl addNew kept = kept ++ (l.filter (· ∉ kept)).eraseDups := by
  induction l generalizing kept with
  | nil => simp
  | cons a rest ih =>
    rw [List.foldl_cons, ih, addNew]
    split
    case isTrue known => rw [List.filter_cons_of_neg (by simpa using known)]
    case isFalse new =>
      have others : rest.filter (· ∉ kept ++ [a]) = (rest.filter (· ∉ kept)).filter (!· == a) := by
        rw [List.filter_filter]
        refine List.filter_congr fun b _ => ?_
        by_cases same : b = a <;> simp [same]
      rw [List.filter_cons_of_pos (by simpa using new), List.eraseDups_cons, others,
        List.append_assoc]
      rfl

end Once

section Upsert

variable [DecidableEq κ]

def upsert (key : α → κ) (a : α) : List α → List α
  | [] => [a]
  | b :: rest => if key b = key a then a :: rest else b :: upsert key a rest

theorem map_upsert (key : α → κ) (a : α) (l : List α) :
    (upsert key a l).map key = addNew (l.map key) (key a) := by
  induction l with
  | nil => rfl
  | cons b rest ih =>
    unfold upsert addNew
    by_cases same : key b = key a
    · simp [same]
    · rw [if_neg same, List.map_cons, ih, addNew]
      by_cases known : key a ∈ rest.map key
      · simp [known]
      · simp [known, Ne.symm same]

theorem find?_upsert (key : α → κ) (a : α) (l : List α) (k : κ) :
    (upsert key a l).find? (key · = k) = if key a = k then some a else l.find? (key · = k) := by
  induction l with
  | nil =>
    by_cases new : key a = k <;> simp [upsert, new]
  | cons b rest ih =>
    unfold upsert
    by_cases same : key b = key a
    · rw [if_pos same]
      by_cases here : key a = k
      · simp [here]
      · simp [here, same]
    · rw [if_neg same]
      by_cases here : key b = k
      · have apart : key a ≠ k := fun h => same (here.trans h.symm)
        simp [here, apart]
      · simp [here, ih]

end Upsert

end StatusWatch
