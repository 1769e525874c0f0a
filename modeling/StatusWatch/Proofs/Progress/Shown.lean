import StatusWatch.Progress
import StatusWatch.Proofs.Identity

/-!
Progresses by their states. Of each status a progress uses only what `sameState` compares; so what
it decides and shows is determined by the states of its entries.
-/

namespace StatusWatch

abbrev Shown := Status × String × Option String

def ResourceStatus.shown (s : ResourceStatus) : Shown :=
  (s.status, s.message, s.errorText)

theorem ResourceStatus.sameState_iff {s t : ResourceStatus} :
    s.sameState t = true ↔ s.shown = t.shown := by
  simp [sameState, shown, and_assoc]

namespace Progress

variable {p q : Progress}

def ids (p : Progress) : List ObjectId :=
  p.entries.map Prod.fst

def shown (p : Progress) : List (ObjectId × Option Shown) :=
  p.entries.map fun (id, s) => (id, s.map ResourceStatus.shown)

theorem forall_insert {motive : ObjectId × Option ResourceStatus → Prop} {id : ObjectId}
    {entries : List (ObjectId × Option ResourceStatus)} (h : ∀ e ∈ entries, motive e)
    (new : motive (id, none)) : ∀ e ∈ insert id entries, motive e := by
  induction entries with
  | nil => simpa [insert] using new
  | cons e rest ih =>
    unfold insert
    rw [List.forall_mem_cons] at h
    split
    · exact List.forall_mem_cons.mpr ⟨new, List.forall_mem_cons.mpr h⟩
    · exact List.forall_mem_cons.mpr h
    · exact List.forall_mem_cons.mpr ⟨h.1, ih h.2⟩

theorem ids_insert (id : ObjectId) (entries : List (ObjectId × Option ResourceStatus))
    (other : ObjectId) :
    other ∈ (insert id entries).map Prod.fst ↔ other = id ∨ other ∈ entries.map Prod.fst := by
  induction entries with
  | nil => simp [insert]
  | cons e rest ih =>
    obtain ⟨first, s⟩ := e
    unfold insert
    split
    case h_1 => simp
    case h_2 h =>
      have same := ObjectId.eq_of_compare h
      simp [same]
    case h_3 =>
      rw [List.map_cons, List.mem_cons, ih, List.map_cons, List.mem_cons]
      exact or_left_comm

theorem mem_ids_ofIds {ids : List ObjectId} {id : ObjectId} : id ∈ (ofIds ids).ids ↔ id ∈ ids := by
  suffices ∀ entries, id ∈ (ids.foldl (fun es id => insert id es) entries).map Prod.fst ↔
      id ∈ ids ∨ id ∈ entries.map Prod.fst by
    simpa [ofIds, Progress.ids] using this []
  induction ids with
  | nil => simp
  | cons first rest ih =>
    intro entries
    rw [List.foldl_cons, ih, ids_insert, List.mem_cons]
    exact or_left_comm.trans or_assoc.symm

theorem eq_none_of_mem_ofIds {ids : List ObjectId} :
    ∀ e ∈ (ofIds ids).entries, e.2 = none := by
  suffices ∀ entries, (∀ e ∈ entries, e.2 = none) →
      ∀ e ∈ ids.foldl (fun es id => insert id es) entries, e.2 = none from
    this [] (by simp)
  induction ids with
  | nil => exact fun _ h => h
  | cons first rest ih => exact fun entries h => ih _ (forall_insert h rfl)

theorem ids_update (p : Progress) (s : ResourceStatus) : (p.update s).ids = p.ids := by
  simp [update, ids, Function.comp_def]

theorem size_eq (p : Progress) : p.size = p.shown.length := by
  simp [size, shown]

def isShownAt (desired : Status) (s : Option Shown) : Bool :=
  s.any (·.1 == desired)

@[simp]
theorem isShownAt_map (desired : Status) (s : Option ResourceStatus) :
    isShownAt desired (s.map ResourceStatus.shown) = isAt desired s := by
  cases s <;> rfl

theorem allReached_eq (p : Progress) (desired : Status) :
    p.allReached desired = p.shown.all fun e => isShownAt desired e.2 := by
  simp [allReached, shown, List.all_map, Function.comp_def]

theorem pending_eq (p : Progress) (desired : Status) :
    p.pending desired = (p.shown.filter fun e => !isShownAt desired e.2).map Prod.fst := by
  simp only [pending, shown, List.filter_map, List.map_map]
  simp [Function.comp_def]

theorem isEmpty_failed_eq (p : Progress) :
    p.failed.isEmpty = p.shown.all fun e => !isShownAt .failed e.2 := by
  simp only [failed, statuses, shown, List.all_map, Function.comp_def, isShownAt_map]
  induction p.entries with
  | nil => rfl
  | cons e rest ih =>
    obtain ⟨id, _ | s⟩ := e
    · exact ih
    · by_cases h : s.status = Status.failed
      · simp [isAt, h]
      · have apart : (s.status == Status.failed) = false := beq_false_of_ne h
        simpa [isAt, apart] using ih

theorem summary_congr (h : p.shown = q.shown) (desired : Status) :
    p.summary desired = q.summary desired := by
  simp only [summary, pending_eq, size_eq, h]

theorem verdict?_congr (h : p.shown = q.shown) (desired : Status) :
    p.verdict? desired = q.verdict? desired := by
  simp only [verdict?, allReached_eq, isEmpty_failed_eq, h]

end Progress

end StatusWatch
