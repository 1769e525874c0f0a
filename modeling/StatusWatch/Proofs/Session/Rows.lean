import StatusWatch.Proofs.Manifest
import StatusWatch.Proofs.Session.Agreement
import StatusWatch.Proofs.Snapshot.Visits

/-!
The rows of a session on any cluster. Whatever the cluster does, the statuses of a session that reads
at all are those of its entries, one for each, in their order; and each is what reading the entry
gives, so a fault of one document is in no other row. Only a failed list keeps a session from reading.
-/

namespace StatusWatch

section Traversals

variable {R : α → β → Prop}

theorem forall₂_mapM {f : α → StateM σ β} {l : List α}
    (h : ∀ a ∈ l, ∀ world, R a ((f a).run world).1) (world : σ) :
    List.Forall₂ R l ((l.mapM f).run world).1 := by
  induction l generalizing world with
  | nil => exact .nil
  | cons a rest ih =>
    rw [List.forall_mem_cons] at h
    rw [Source.mapM_run_cons]
    exact .cons (h.1 world) (ih h.2 _)

theorem forall₂_filterMapM {f : α → StateM σ (Option β)} {chosen : α → Bool}
    (some : ∀ a, chosen a = true → ∀ world, ∃ b, ((f a).run world).1 = .some b ∧ R a b)
    (none : ∀ a, chosen a = false → ∀ world, ((f a).run world).1 = .none) (l : List α) (world : σ) :
    List.Forall₂ R (l.filter chosen) ((l.filterMapM f).run world).1 := by
  induction l generalizing world with
  | nil => exact .nil
  | cons a rest ih =>
    rw [List.filterMapM_cons]
    cases here : chosen a with
    | true =>
      obtain ⟨b, read, related⟩ := some a here world
      rw [List.filter_cons_of_pos here, run_bind_fst _ read]
      exact .cons related (ih _)
    | false =>
      rw [List.filter_cons_of_neg (by simp [here]), run_bind_fst _ (none a here world)]
      exact ih _

variable [DecidableEq κ] {keyOf : α → κ} {key : β → κ} (keyed : ∀ a b, R a b → key b = keyOf a)

include keyed

theorem find?_of_forall₂ {l : List α} {found : List β} (related : List.Forall₂ R l found)
    (distinct : (l.map keyOf).Nodup) {a : α} (mem : a ∈ l) :
    ∃ b, found.find? (key · = keyOf a) = some b ∧ R a b := by
  induction related with
  | nil => cases mem
  | @cons a' b' rest others here behind ih =>
    rw [List.map_cons, List.nodup_cons] at distinct
    rcases List.mem_cons.mp mem with rfl | later
    · exact ⟨b', by simp [keyed a b' here], here⟩
    · have apart : key b' ≠ keyOf a := by
        rw [keyed a' b' here]
        exact fun same => distinct.1 (same ▸ List.mem_map_of_mem later)
      rw [List.find?_cons_of_neg (by simpa using apart)]
      exact ih distinct.2 later

theorem forall₂_filterMap_find? {l all : List α} {found : List β}
    (related : List.Forall₂ R all found) (distinct : (all.map keyOf).Nodup) (within : l ⊆ all) :
    List.Forall₂ R l ((l.map keyOf).filterMap fun k => found.find? (key · = k)) := by
  induction l with
  | nil => exact .nil
  | cons a rest ih =>
    rw [List.cons_subset] at within
    obtain ⟨b, first, here⟩ := find?_of_forall₂ keyed related distinct within.1
    rw [List.map_cons, List.filterMap_cons, first]
    exact .cons here (ih within.2)

end Traversals

namespace Session

variable {s : Session σ} {options : WatchOptions} {world : σ}

def source (s : Session σ) (options : WatchOptions) : Source σ :=
  .ofCluster s.cluster (Watch.planFor s.catalog s.rules options.overrides) options.useSnapshot

/-- The status of an entry as it is read for itself: by the checks of its kind, or by a watch behind
the pass that it begins with, in some state of the cluster. -/
inductive Row (s : Session σ) (options : WatchOptions) (entry : ObjectId × Json) :
    ResourceStatus → Prop
  | checked {rules : StatusRules}
      (byRules : s.rulesFor? options.overrides entry.1.groupKind = some rules) (world : σ) :
      Row s options entry ((s.readChecked rules entry).run world).1
  | watched {ids : List ObjectId} {taken : Snapshot} {before behind : σ}
      (byWatch : s.rulesFor? options.overrides entry.1.groupKind = none)
      (pass : ((s.source options).sync ids .empty).run before = ((.ok (), taken), behind))
      (world : σ) :
      Row s options entry (((s.source options).readAs taken entry.1).run world).1

theorem Row.id {entry : ObjectId × Json} {status : ResourceStatus} (h : Row s options entry status) :
    status.id = entry.1 := by
  cases h with
  | checked _ world => exact readChecked_id s _ entry world
  | watched => rfl

def ofAnswer : Answer → Except Failure (List ResourceStatus)
  | .error e => .error (.because s!"Failed to read resources: {e.message}" none)
  | .ok statuses => .ok statuses

theorem updatesOf_tick (answer : Answer) {ids : List ObjectId} (distinct : ids.Nodup)
    (named : ∀ statuses, answer = .ok statuses → statuses.map (·.id) = ids)
    (reportUnchanged : Bool) :
    updatesOf (Watch.Memory.allEvents reportUnchanged [] [answer]) = ofAnswer answer := by
  cases answer with
  | error e => rfl
  | ok statuses =>
    have same := named statuses rfl
    have updates : Watch.Memory.updates reportUnchanged [] statuses = statuses.map .update :=
      Watch.Memory.updates_of_new (same.symm ▸ distinct) (fun _ _ => rfl) _
    simp only [Watch.Memory.allEvents, Watch.Memory.events, updates, List.append_nil]
    exact updatesOf_append_tickEnd statuses

theorem readWatched_eq (due : options.interval ≠ 0) {ids : List ObjectId} (some : ids ≠ [])
    (distinct : ids.Nodup) (world : σ) :
    ((s.readWatched ids options).run world).1 =
      ofAnswer ((s.source options).answer ids .empty world).1 := by
  have filled : ids.isEmpty = false := by simpa using some
  unfold readWatched
  rw [filled]
  simp only [Bool.false_eq_true, if_false, watch?, Watch.start?, if_neg due]
  let w : Watch σ := ⟨s.source options, ids, options.reportUnchanged⟩
  have events := w.events_run 1 (.initial world)
  have updates := updatesOf_tick ((s.source options).answer ids .empty world).1 distinct
    (fun statuses ok => Source.map_id_answer ok) options.reportUnchanged
  exact (congrArg updatesOf events).trans updates

theorem interval_ne_zero {ids : List ObjectId} (some : ids ≠ []) {statuses : List ResourceStatus}
    (ok : ((s.readWatched ids options).run world).1 = .ok statuses) : options.interval ≠ 0 := by
  intro none
  have filled : ids.isEmpty = false := by simpa using some
  unfold readWatched at ok
  rw [filled] at ok
  simp only [Bool.false_eq_true, if_false, watch?, Watch.start?, if_pos none] at ok
  cases ok

theorem forall₂_readWatched {entries : List (ObjectId × Json)}
    (distinct : (entries.map Prod.fst).Nodup)
    (byWatch : ∀ entry ∈ entries, s.rulesFor? options.overrides entry.1.groupKind = none)
    {statuses : List ResourceStatus}
    (ok : ((s.readWatched (entries.map Prod.fst) options).run world).1 = .ok statuses) :
    List.Forall₂ (s.Row options) entries statuses := by
  by_cases none : entries = []
  · subst none
    cases ok
    exact .nil
  · have some : entries.map Prod.fst ≠ [] := by simpa using none
    rw [readWatched_eq (interval_ne_zero some ok) some distinct, Source.answer] at ok
    rcases pass : ((s.source options).sync (entries.map Prod.fst) .empty).run world with
      ⟨⟨e | ⟨⟩, taken⟩, behind⟩
    · rw [pass] at ok
      cases ok
    · rw [pass] at ok
      cases ok
      rw [List.mapM_map]
      exact forall₂_mapM (fun entry mem => .watched (byWatch entry mem) pass) behind

theorem readWatched_ok (due : options.interval ≠ 0) (lists : s.cluster.Lists)
    {ids : List ObjectId} (distinct : ids.Nodup) (world : σ) :
    ∃ statuses, ((s.readWatched ids options).run world).1 = .ok statuses := by
  by_cases none : ids = []
  · subst none
    exact ⟨[], rfl⟩
  · have passed : (((s.source options).sync ids .empty).run world).1.1 = .ok () := by
      unfold source Source.ofCluster
      cases options.useSnapshot with
      | true => exact Snapshot.sync_ok lists _ ids .empty world
      | false => rfl
    rw [readWatched_eq due none distinct, Source.answer]
    rcases pass : ((s.source options).sync ids .empty).run world with ⟨⟨outcome, taken⟩, behind⟩
    rw [pass] at passed
    cases passed
    exact ⟨_, rfl⟩

def ruled (s : Session σ) (overrides : List Override) : List (ObjectId × Json) :=
  s.entries.filter fun entry => (s.rulesFor? overrides entry.1.groupKind).isSome

theorem ruled_append_others (s : Session σ) (overrides : List Override) :
    (s.ruled overrides ++ s.others overrides).Perm s.entries := by
  have parts := List.filter_append_perm
    (fun entry : ObjectId × Json => (s.rulesFor? overrides entry.1.groupKind).isSome) s.entries
  simpa [ruled, others] using parts

def readRuled (s : Session σ) (overrides : List Override) : StateM σ (List ResourceStatus) :=
  s.entries.filterMapM fun entry => do
    match s.rulesFor? overrides entry.1.groupKind with
    | some rules => some <$> s.readChecked rules entry
    | none => pure none

theorem forall₂_readRuled (s : Session σ) (options : WatchOptions) (world : σ) :
    List.Forall₂ (s.Row options) (s.ruled options.overrides)
      ((s.readRuled options.overrides).run world).1 := by
  refine forall₂_filterMapM (fun entry chosen world => ?_) (fun entry other world => ?_) _ world
  · obtain ⟨rules, byRules⟩ := Option.isSome_iff_exists.mp chosen
    rw [byRules]
    exact ⟨_, rfl, .checked byRules world⟩
  · rw [Option.isSome_eq_false_iff, Option.isNone_iff_eq_none] at other
    rw [other]
    rfl

theorem readStatuses_eq (s : Session σ) (options : WatchOptions) (world : σ) :
    ((s.readStatuses options).run world).1 =
      let checked := (s.readRuled options.overrides).run world
      (((s.readWatched ((s.others options.overrides).map Prod.fst) options).run checked.2).1).map
        fun watched => s.ids.filterMap fun id => (checked.1 ++ watched).find? (·.id = id) := by
  dsimp only
  generalize checked : (s.readRuled options.overrides).run world = c
  cases read : ((s.readWatched ((s.others options.overrides).map Prod.fst) options).run c.2).1 with
  | error e =>
    subst checked
    exact (run_bind_fst _ rfl).trans (run_bind_fst _ read)
  | ok watched =>
    subst checked
    exact (run_bind_fst _ rfl).trans (run_bind_fst _ read)

theorem nodup_others (distinct : s.ids.Nodup) (overrides : List Override) :
    ((s.others overrides).map Prod.fst).Nodup :=
  distinct.sublist (List.filter_sublist.map _)

theorem forall₂_readStatuses (distinct : s.ids.Nodup) {statuses : List ResourceStatus}
    (ok : ((s.readStatuses options).run world).1 = .ok statuses) :
    List.Forall₂ (s.Row options) s.entries statuses := by
  rw [readStatuses_eq] at ok
  obtain ⟨watched, read, rfl⟩ := map_eq_ok.mp ok
  have byWatch : ∀ entry ∈ s.others options.overrides,
      s.rulesFor? options.overrides entry.1.groupKind = none := by
    intro entry mem
    simpa using (List.mem_filter.mp mem).2
  have rows := List.rel_append (s.forall₂_readRuled options world)
    (forall₂_readWatched (nodup_others distinct _) byWatch read)
  have parts := s.ruled_append_others options.overrides
  have keyed : ∀ entry status, s.Row options entry status → status.id = entry.1 :=
    fun _ _ row => row.id
  exact forall₂_filterMap_find? keyed rows
    ((parts.map Prod.fst).nodup_iff.mpr distinct) parts.symm.subset

theorem map_id_of_rows {entries : List (ObjectId × Json)} {statuses : List ResourceStatus}
    (rows : List.Forall₂ (s.Row options) entries statuses) :
    statuses.map (·.id) = entries.map Prod.fst := by
  induction rows with
  | nil => rfl
  | cons here _ ih => rw [List.map_cons, List.map_cons, here.id, ih]

variable {cluster : Cluster σ} {catalog : Catalog} {rules : StatusRules} {documents : List Json}

theorem of_begin?_eq_ok (begun : begin? cluster catalog rules documents = .ok s) :
    s.cluster = cluster ∧ Manifest.entries documents = .ok s.entries := by
  unfold begin? at begun
  split at begun
  case h_1 => cases begun
  case h_2 => cases begun
  case h_3 =>
    cases begun
    exact ⟨rfl, by assumption⟩

/-- A session has one identifier for each resource that its documents name, where it is first named.
What it reads, if it reads at all, is one row for each of them, in that order, and only a list that
fails keeps it from reading. -/
theorem readStatuses_rows (begun : begin? cluster catalog rules documents = .ok s)
    (options : WatchOptions) :
    (∃ ids, documents.mapM Document.id = .ok ids ∧ s.ids = ids.eraseDups) ∧
    (∀ world statuses, ((s.readStatuses options).run world).1 = .ok statuses →
      statuses.map (·.id) = s.ids ∧ List.Forall₂ (s.Row options) s.entries statuses) ∧
    (options.interval ≠ 0 → cluster.Lists →
      ∀ world, ∃ statuses, ((s.readStatuses options).run world).1 = .ok statuses) := by
  obtain ⟨rfl, read⟩ := of_begin?_eq_ok begun
  have distinct : s.ids.Nodup := Manifest.nodup_entries read
  refine ⟨Manifest.ids_entries read, fun world statuses ok => ?_, fun due lists world => ?_⟩
  · have rows := forall₂_readStatuses distinct ok
    exact ⟨map_id_of_rows rows, rows⟩
  · obtain ⟨watched, heard⟩ := readWatched_ok due lists (nodup_others distinct options.overrides)
      ((s.readRuled options.overrides).run world).2
    have read := s.readStatuses_eq options world
    dsimp only at read
    rw [heard] at read
    exact ⟨_, read⟩

end Session

/-- A pod that is named twice, a widget that the cluster lacks, and a gadget, which has no kind. -/
theorem readStatuses_rows_mixed :
    let pod := bare "v1" "Pod" "a"
    let documents : List Json := [pod, widget "infra", pod, bare "example.com/v1" "Gadget" "g"]
    let podId : ObjectId := ⟨Workload.pod, "a", "default"⟩
    let gadgetId : ObjectId := ⟨⟨"example.com", "Gadget"⟩, "g", "default"⟩
    let options : WatchOptions := ⟨1, true, false, []⟩
    let pods := Holdings.single ⟨"", "v1", "Pod", "pods", true⟩ (some "default") pod
    ∃ s, Session.begin? (.fixed pods) .builtin widgetRules documents = .ok s ∧
      s.ids = [podId, widgetId "infra", gadgetId] ∧
      ∃ statuses, ((s.readStatuses options).run ()).1 = .ok statuses ∧
        (statuses.map (·.id) = s.ids ∧ List.Forall₂ (s.Row options) s.entries statuses) ∧
        statuses.map (fun row => (row.status, row.message, row.error, row.live.isSome)) = [
          (Status.inProgress, "Pod is in the Pending phase", none, true),
          (.notFound, "Resource not found", none, false),
          (.unknown, (Error.noMapping "Gadget.example.com").message,
            some (.noMapping "Gadget.example.com"), false)] := by
  intro pod documents podId gadgetId options pods
  let s : Session Unit := ⟨.fixed pods, .builtin, some widgetRules,
    [(podId, pod), (widgetId "infra", widget "infra"), (gadgetId, documents[3])]⟩
  have begun : Session.begin? (.fixed pods) .builtin widgetRules documents = .ok s := rfl
  have lists : (Cluster.fixed pods).Lists := fun r ns _ => ⟨pods r ns, rfl⟩
  obtain ⟨-, rows, reads⟩ := Session.readStatuses_rows begun options
  obtain ⟨statuses, read⟩ := reads (by decide) lists ()
  refine ⟨s, begun, rfl, statuses, read, rows () statuses read, ?_⟩
  apply Except.ok.inj (ε := Failure)
  change (Except.ok statuses).map _ = _
  rw [← read]
  decide +kernel

end StatusWatch
