import Mathlib.Data.List.Count
import StatusWatch.Proofs.Keyed
import StatusWatch.Proofs.Progress.Shown

/-!
What a progress holds after updates. Each followed identifier has the last update that carries it,
and no other identifier has any; so the updates of one identifier do not touch those of another. All
that a progress tells of a status agrees: who is pending, how many have arrived, whether all have,
and which one is waited for.
-/

namespace StatusWatch.Progress

variable {p : Progress} {ids : List ObjectId} {updates : List ResourceStatus}

def lastFor (updates : List ResourceStatus) (id : ObjectId) : Option ResourceStatus :=
  (updates.filter (·.id = id)).getLast?

theorem lastFor_cons (s : ResourceStatus) (updates : List ResourceStatus) (id : ObjectId) :
    lastFor (s :: updates) id = (lastFor updates id).or (if id = s.id then some s else none) := by
  unfold lastFor
  by_cases own : id = s.id
  · rw [List.filter_cons_of_pos (by simp [own]), List.getLast?_cons, if_pos own]
    cases (updates.filter (·.id = id)).getLast? <;> rfl
  · have apart : s.id ≠ id := Ne.symm own
    rw [List.filter_cons_of_neg (by simpa using apart), if_neg own, Option.or_none]

section Order

theorem ascending_insert (id : ObjectId) {entries : List (ObjectId × Option ResourceStatus)}
    (ascending : (entries.map Prod.fst).Pairwise (·.compare · = .lt)) :
    ((insert id entries).map Prod.fst).Pairwise (·.compare · = .lt) := by
  induction entries with
  | nil => exact List.pairwise_singleton _ _
  | cons e rest ih =>
    obtain ⟨first, s⟩ := e
    have whole := ascending
    rw [List.map_cons, List.pairwise_cons] at ascending
    obtain ⟨before, ascending⟩ := ascending
    cases order : id.compare first with
    | lt =>
      rw [insert, order]
      refine List.pairwise_cons.mpr ⟨?_, whole⟩
      intro other mem
      rcases List.mem_cons.mp mem with rfl | later
      · exact order
      · exact Std.TransCmp.lt_trans order (before other later)
    | eq =>
      rw [insert, order]
      exact whole
    | gt =>
      rw [insert, order]
      refine List.pairwise_cons.mpr ⟨?_, ih ascending⟩
      intro other mem
      rcases (ids_insert id rest other).mp mem with rfl | later
      · rw [ObjectId.compare_swap, order]
        rfl
      · exact before other later

theorem ascending_ofIds (ids : List ObjectId) :
    (ofIds ids).ids.Pairwise (·.compare · = .lt) := by
  suffices ∀ entries : List (ObjectId × Option ResourceStatus),
      (entries.map Prod.fst).Pairwise (·.compare · = .lt) →
        ((ids.foldl (fun es id => insert id es) entries).map Prod.fst).Pairwise
          (·.compare · = .lt) from
    this [] .nil
  induction ids with
  | nil => exact fun _ h => h
  | cons first rest ih => exact fun entries h => ih _ (ascending_insert first h)

end Order

section Updates

theorem entries_foldl_update (p : Progress) (updates : List ResourceStatus) :
    (updates.foldl update p).entries =
      p.entries.map fun e => (e.1, (lastFor updates e.1).or e.2) := by
  induction updates generalizing p with
  | nil => simp [lastFor]
  | cons s rest ih =>
    rw [List.foldl_cons, ih, update, List.map_map]
    apply List.map_congr_left
    rintro ⟨id, old⟩ -
    change (id, (lastFor rest id).or (if id = s.id then some s else old)) = (id, _)
    rw [lastFor_cons, Option.or_assoc]
    by_cases own : id = s.id
    · rw [if_pos own, if_pos own, Option.some_or]
    · rw [if_neg own, if_neg own, Option.none_or]

def after (ids : List ObjectId) (updates : List ResourceStatus) : Progress :=
  updates.foldl update (ofIds ids)

theorem ids_after (ids : List ObjectId) (updates : List ResourceStatus) :
    (after ids updates).ids = (ofIds ids).ids := by
  rw [Progress.ids, after, entries_foldl_update, List.map_map]
  rfl

theorem entries_after (ids : List ObjectId) (updates : List ResourceStatus) :
    (after ids updates).entries =
      (after ids updates).ids.map fun id => (id, lastFor updates id) := by
  rw [ids_after, after, entries_foldl_update, Progress.ids, List.map_map]
  apply List.map_congr_left
  rintro ⟨id, s⟩ mem
  have unset : s = none := eq_none_of_mem_ofIds _ mem
  subst unset
  exact congrArg (id, ·) Option.or_none

theorem update_comm (p : Progress) {s t : ResourceStatus} (apart : s.id ≠ t.id) :
    (p.update s).update t = (p.update t).update s := by
  simp only [update, List.map_map]
  refine congrArg mk (List.map_congr_left ?_)
  rintro ⟨id, old⟩ -
  by_cases own : id = s.id
  · simp [own, apart]
  · simp [own]

end Updates

section Told

variable (p : Progress) (desired : Status)

theorem allReached_iff : p.allReached desired = true ↔ p.pending desired = [] := by
  simp [allReached, pending]

theorem pending_sublist : (p.pending desired).Sublist p.ids :=
  List.filter_sublist.map Prod.fst

theorem summary_of_complete (none : p.pending desired = []) :
    p.summary desired = s!"{p.size}/{p.size} resources {desired}" := by
  rw [summary, none]
  rfl

def arrived (p : Progress) (last : ObjectId → Option ResourceStatus) (desired : Status) : Nat :=
  p.ids.countP fun id => (last id).map ResourceStatus.status = some desired

theorem size_eq_length_ids : p.size = p.ids.length := by
  rw [size, Progress.ids, List.length_map]

theorem isAt_iff (s : Option ResourceStatus) :
    isAt desired s = true ↔ s.map ResourceStatus.status = some desired := by
  cases s with
  | none => simp [isAt]
  | some s => simp [isAt]

variable {p} {last : ObjectId → Option ResourceStatus}
  (held : p.entries = p.ids.map fun id => (id, last id))

include held

theorem pending_eq_filter : p.pending desired =
    p.ids.filter fun id => (last id).map ResourceStatus.status ≠ some desired := by
  rw [pending, held, List.filter_map, List.map_map]
  refine (List.map_id _).trans (List.filter_congr fun id _ => ?_)
  rw [Function.comp_apply, Bool.eq_iff_iff, Bool.not_eq_true', ← Bool.not_eq_true, isAt_iff]
  simp

theorem arrived_add_length_pending :
    p.arrived last desired + (p.pending desired).length = p.size := by
  rw [pending_eq_filter desired held, arrived, ← List.countP_eq_length_filter, size_eq_length_ids,
    List.length_eq_countP_add_countP fun id =>
      (last id).map ResourceStatus.status = some desired]
  simp only [decide_eq_true_eq, ne_eq]

theorem summary_of_waiting {first : ObjectId} {rest : List ObjectId}
    (some : p.pending desired = first :: rest) :
    p.summary desired =
      s!"{p.arrived last desired}/{p.size} resources {desired} (waiting for {first.toText})" := by
  have split := arrived_add_length_pending desired held
  have counted : p.size - (p.pending desired).length = p.arrived last desired := by omega
  rw [summary, counted, some]
  rfl

end Told

structure Latest (ids : List ObjectId) (updates : List ResourceStatus) (p : Progress) : Prop where
  ascending : p.ids.Pairwise (·.compare · = .lt)
  followed : ∀ id, id ∈ p.ids ↔ id ∈ ids
  held : ∀ id, p.entries.lookup id = if id ∈ ids then some (lastFor updates id) else none
  size : p.size = (ofIds ids).size
  swap : ∀ s t : ResourceStatus, s.id ≠ t.id → (p.update s).update t = (p.update t).update s

/-- A progress tells the same in all ways, by the last status of each identifier. -/
structure Consistent (last : ObjectId → Option ResourceStatus) (p : Progress)
    (desired : Status) : Prop where
  reached : p.allReached desired = true ↔ p.pending desired = []
  part : (p.pending desired).Sublist p.ids
  ascending : (p.pending desired).Pairwise (·.compare · = .lt)
  waiting : ∀ id, id ∈ p.pending desired ↔
    id ∈ p.ids ∧ (last id).map ResourceStatus.status ≠ some desired
  counted : p.arrived last desired + (p.pending desired).length = p.size
  complete : p.pending desired = [] →
    p.summary desired = s!"{p.size}/{p.size} resources {desired}"
  named : ∀ first rest, p.pending desired = first :: rest →
    (∀ other ∈ rest, first.compare other = .lt) ∧ p.summary desired =
      s!"{p.arrived last desired}/{p.size} resources {desired} (waiting for {first.toText})"

/-- Whatever updates come, a progress keeps the last ones, and what it tells agrees. -/
theorem latest_and_consistent (ids : List ObjectId) (updates : List ResourceStatus) :
    Latest ids updates (updates.foldl update (ofIds ids)) ∧ ∀ desired,
      Consistent (lastFor updates) (updates.foldl update (ofIds ids)) desired := by
  change Latest ids updates (after ids updates) ∧ ∀ desired,
    Consistent (lastFor updates) (after ids updates) desired
  have held := entries_after ids updates
  have ascending : (after ids updates).ids.Pairwise (·.compare · = .lt) := by
    rw [ids_after]
    exact ascending_ofIds ids
  have followed : ∀ id, id ∈ (after ids updates).ids ↔ id ∈ ids := by
    intro id
    rw [ids_after]
    exact mem_ids_ofIds
  constructor
  · refine ⟨ascending, followed, ?_, ?_, fun s t => update_comm _⟩
    · intro id
      rw [held, lookup_map_mk]
      simp only [followed]
    · rw [size_eq_length_ids, ids_after, ← size_eq_length_ids]
  · intro desired
    have part := pending_sublist (after ids updates) desired
    refine ⟨allReached_iff _ _, part, ascending.sublist part, ?_,
      arrived_add_length_pending desired held, summary_of_complete _ _, ?_⟩
    · intro id
      rw [pending_eq_filter desired held, List.mem_filter, decide_eq_true_iff]
    · intro first rest pending
      refine ⟨?_, summary_of_waiting desired held pending⟩
      have sorted := ascending.sublist part
      rw [pending] at sorted
      exact (List.pairwise_cons.mp sorted).1

end StatusWatch.Progress
