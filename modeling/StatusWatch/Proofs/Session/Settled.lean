import StatusWatch.Proofs.Keyed
import StatusWatch.Proofs.Watch.FirstTick
import StatusWatch.Session

/-!
Statuses of a session on a settled cluster: one for every entry, by the checks of its kind or as the
first tick of a watch reports it.
-/

namespace StatusWatch

namespace Session

variable {cluster : Cluster σ} {I : σ → Prop} {held : Holdings}

def checkedIn (rules : StatusRules) (held : Holdings) (entry : ObjectId × Json) : ResourceStatus :=
  ((readChecked ⟨.fixed held, .empty, none, []⟩ rules entry).run ()).1

theorem yields_readChecked {s : Session σ} (settled : s.cluster.Settled I held)
    (rules : StatusRules) (entry : ObjectId × Json) :
    Yields I (s.readChecked rules entry) (checkedIn rules held entry) := by
  unfold checkedIn readChecked StatusRules.statusOf
  cases Document.typeMeta entry.2 with
  | error e => exact .pure _
  | ok t =>
    dsimp only
    cases rules.catalog.find? t.groupKind (some t.version) with
    | none => exact .pure _
    | some r =>
      simp only [bind_assoc]
      refine Finds.follows_bind (fun world => settled.get r _ _ world)
        ((Cluster.fixed_settled held).get r _ _ () trivial).1 (fun o => ?_) fun d e hd he => ?_
      · simp only [pure_bind]
        cases rules.statusIn r.collection o with
        | error e => exact .pure _
        | ok status => exact .pure _
      · simp only [pure_bind, ResourceStatus.ofFailure_of_isNotFound _ hd he]
        exact .pure _

theorem ofFailure_id (id : ObjectId) (e : Error) : (ResourceStatus.ofFailure id e).id = id := by
  unfold ResourceStatus.ofFailure
  split <;> rfl

theorem readChecked_id (s : Session σ) (rules : StatusRules) (entry : ObjectId × Json) (world : σ) :
    ((s.readChecked rules entry).run world).1.id = entry.1 := by
  unfold readChecked
  rw [StateT.run_bind]
  rcases (rules.statusOf s.cluster entry.2).run world with ⟨e | status, world⟩
  · exact ofFailure_id entry.1 e
  · rfl

def statusIn (s : Session σ) (held : Holdings) (overrides : List Override)
    (entry : ObjectId × Json) : ResourceStatus :=
  match s.rulesFor? overrides entry.1.groupKind with
  | some rules => checkedIn rules held entry
  | none => (Watch.planFor s.catalog s.rules overrides).statusAs held entry.1

theorem statusIn_id (s : Session σ) (held : Holdings) (overrides : List Override)
    (entry : ObjectId × Json) : (s.statusIn held overrides entry).id = entry.1 := by
  unfold statusIn
  split
  · exact readChecked_id _ _ entry ()
  · rfl

theorem updatesOf_append_tickEnd (statuses : List ResourceStatus) :
    updatesOf (statuses.map .update ++ [.tickEnd]) = .ok statuses := by
  induction statuses with
  | nil => rfl
  | cons s rest ih =>
    rw [List.map_cons, List.cons_append, updatesOf, ih]
    rfl

variable {s : Session σ} {options : WatchOptions} {world : σ}

theorem readWatched_settled (settled : s.cluster.Settled I held) (due : options.interval ≠ 0)
    {ids : List ObjectId} (distinct : ids.Nodup) (start : I world) :
    ((s.readWatched ids options).run world).1 =
      .ok (ids.map ((Watch.planFor s.catalog s.rules options.overrides).statusAs held)) := by
  unfold readWatched
  cases ids with
  | nil => rfl
  | cons id rest =>
    simp only [List.isEmpty_cons, Bool.false_eq_true, if_false, watch?, Watch.start?, if_neg due]
    have events := Watch.events_settled settled
      (Watch.planFor s.catalog s.rules options.overrides) options.useSnapshot distinct
      options.reportUnchanged start
    have updates := updatesOf_append_tickEnd ((id :: rest).map
      ((Watch.planFor s.catalog s.rules options.overrides).statusAs held))
    rw [List.map_map] at updates
    exact (congrArg updatesOf events).trans updates

theorem eq_of_fst_eq (distinct : s.ids.Nodup) {a b : ObjectId × Json} (ha : a ∈ s.entries)
    (hb : b ∈ s.entries) (same : a.1 = b.1) : a = b :=
  List.inj_on_of_nodup_map distinct ha hb same

def checked (s : Session σ) (held : Holdings) (overrides : List Override) : List ResourceStatus :=
  s.entries.filterMap fun entry =>
    (s.rulesFor? overrides entry.1.groupKind).map (checkedIn · held entry)

def others (s : Session σ) (overrides : List Override) : List (ObjectId × Json) :=
  s.entries.filter fun entry => (s.rulesFor? overrides entry.1.groupKind).isNone

def watched (s : Session σ) (held : Holdings) (overrides : List Override) : List ResourceStatus :=
  ((s.others overrides).map Prod.fst).map
    ((Watch.planFor s.catalog s.rules overrides).statusAs held)

theorem yields_checked (settled : s.cluster.Settled I held) (overrides : List Override) :
    Yields I (s.entries.filterMapM fun entry => do
      match s.rulesFor? overrides entry.1.groupKind with
      | some rules => some <$> s.readChecked rules entry
      | none => pure none) (s.checked held overrides) := by
  refine .filterMapM fun entry _ => ?_
  cases s.rulesFor? overrides entry.1.groupKind with
  | none => exact .pure none
  | some rules => exact (yields_readChecked settled rules entry).map some

theorem mem_checked_append_watched {held : Holdings} {overrides : List Override}
    {status : ResourceStatus} :
    status ∈ s.checked held overrides ++ s.watched held overrides ↔
      ∃ entry ∈ s.entries, s.statusIn held overrides entry = status := by
  simp only [checked, watched, others, List.mem_append, List.mem_filterMap, List.mem_map,
    List.mem_filter, statusIn]
  constructor
  · rintro (⟨entry, mem, read⟩ | ⟨_, ⟨entry, ⟨mem, none⟩, rfl⟩, rfl⟩)
    · refine ⟨entry, mem, ?_⟩
      cases h : s.rulesFor? overrides entry.1.groupKind with
      | none => simp [h] at read
      | some rules => simpa [h] using read
    · refine ⟨entry, mem, ?_⟩
      rw [Option.isNone_iff_eq_none.mp none]
  · rintro ⟨entry, mem, rfl⟩
    cases h : s.rulesFor? overrides entry.1.groupKind with
    | none => exact .inr ⟨_, ⟨entry, ⟨mem, by simp [h]⟩, rfl⟩, rfl⟩
    | some rules => exact .inl ⟨entry, mem, by simp [h]⟩

/-- One status for every entry, in their order. -/
theorem readStatuses_settled (settled : s.cluster.Settled I held) (due : options.interval ≠ 0)
    (distinct : s.ids.Nodup) (start : I world) :
    ((s.readStatuses options).run world).1 =
      .ok (s.entries.map (s.statusIn held options.overrides)) := by
  obtain ⟨checked, kept⟩ := yields_checked settled options.overrides world start
  have distinct' : ((s.others options.overrides).map Prod.fst).Nodup :=
    distinct.sublist (List.filter_sublist.map _)
  have watched := readWatched_settled settled due distinct' kept
  have collected : s.ids.filterMap (fun id =>
      (s.checked held options.overrides ++ s.watched held options.overrides).find? (·.id = id)) =
        s.entries.map (s.statusIn held options.overrides) := by
    rw [ids, List.filterMap_map, ← List.filterMap_eq_map]
    refine List.filterMap_congr fun entry mem => ?_
    refine find?_of_unique (mem_checked_append_watched.mpr ⟨entry, mem, rfl⟩)
      (by simp [statusIn_id]) fun status hstatus same => ?_
    obtain ⟨other, mem', rfl⟩ := mem_checked_append_watched.mp hstatus
    have id : other.1 = entry.1 := by simpa [statusIn_id] using same
    rw [eq_of_fst_eq distinct mem' mem id]
  exact (run_bind_fst _ checked).trans
    ((run_bind_fst _ watched).trans (congrArg Except.ok collected))

end Session

end StatusWatch
