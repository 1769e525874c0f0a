import StatusWatch.Proofs.Session.Judged

/-!
Agreement of a session with its watch. Both report one status of a resource whose kind has checks,
and say the same of it, but for a document with an empty namespace: a watch reads the object in
the default namespace, a session in one without a name.
-/

namespace StatusWatch

/-- Of the statuses of a session, exactly this one is of the identifier. -/
def Session.Reports (s : Session σ) (options : WatchOptions) (world : σ) (id : ObjectId)
    (status : ResourceStatus) : Prop :=
  ∃ statuses, ((s.readStatuses options).run world).1 = .ok statuses ∧
    statuses.filter (·.id = id) = [status]

def Watch.Reports (w : Watch σ) (world : σ) (id : ObjectId) (status : ResourceStatus) : Prop :=
  ∃ updates, Session.updatesOf ((w.run never 1).run (.initial world)).2.events = .ok updates ∧
    updates.filter (·.id = id) = [status]

def Session.Agrees (s : Session σ) (options : WatchOptions) (ids : List ObjectId) (world : σ)
    (id : ObjectId) : Prop :=
  ∃ w row update, s.watch? ids options = some w ∧ s.Reports options world id row ∧
    w.Reports world id update ∧ row.status = update.status ∧ row.message = update.message

namespace Session

variable {cluster : Cluster σ} {I : σ → Prop} {held : Holdings} {s : Session σ}
  {options : WatchOptions} {world : σ} {ids : List ObjectId}

theorem reports_iff (settled : s.cluster.Settled I held) (due : options.interval ≠ 0)
    (distinct : s.ids.Nodup) (start : I world) {entry : ObjectId × Json} (mem : entry ∈ s.entries)
    {status : ResourceStatus} :
    s.Reports options world entry.1 status ↔ s.statusIn held options.overrides entry = status := by
  have named : (s.entries.map (s.statusIn held options.overrides)).map (·.id) = s.ids := by
    simp [Session.ids, statusIn_id]
  have only := filter_key_eq (named ▸ distinct) (List.mem_map_of_mem mem)
  rw [statusIn_id] at only
  unfold Reports
  rw [readStatuses_settled settled due distinct start]
  constructor
  · rintro ⟨_, ⟨⟩, found⟩
    exact List.singleton_inj.mp (only.symm.trans found)
  · rintro rfl
    exact ⟨_, rfl, only⟩

theorem exists_watch (settled : s.cluster.Settled I held) (due : options.interval ≠ 0)
    (distinct : ids.Nodup) (start : I world) {id : ObjectId} (mem : id ∈ ids) :
    ∃ w, s.watch? ids options = some w ∧ ∀ status, w.Reports world id status ↔
      (Watch.planFor s.catalog s.rules options.overrides).statusAs held id = status := by
  let statusOf := (Watch.planFor s.catalog s.rules options.overrides).statusAs held
  have named : (ids.map statusOf).map (·.id) = ids := by
    rw [List.map_map]
    exact List.map_id ids
  have only := filter_key_eq (named ▸ distinct) (List.mem_map_of_mem (f := statusOf) mem)
  have updates := updatesOf_append_tickEnd (ids.map statusOf)
  rw [List.map_map] at updates
  refine ⟨_, if_neg due, fun status => ?_⟩
  unfold Watch.Reports
  rw [Watch.events_settled settled _ options.useSnapshot distinct options.reportUnchanged start]
  constructor
  · rintro ⟨found, collected, alone⟩
    cases updates.symm.trans collected
    exact List.singleton_inj.mp (only.symm.trans alone)
  · rintro rfl
    exact ⟨_, updates, only⟩

theorem agrees_iff (settled : s.cluster.Settled I held) (due : options.interval ≠ 0)
    (distinct : s.ids.Nodup) (start : I world) {entry : ObjectId × Json} (mem : entry ∈ s.entries)
    (distinct' : ids.Nodup) (mem' : entry.1 ∈ ids) :
    s.Agrees options ids world entry.1 ↔
      (s.statusIn held options.overrides entry).assessment =
        ((Watch.planFor s.catalog s.rules options.overrides).statusAs held entry.1).assessment := by
  obtain ⟨w, begun, reports⟩ := exists_watch settled due distinct' start mem'
  unfold Agrees
  constructor
  · rintro ⟨w', row, update, begun', hrow, hupdate, status, message⟩
    cases begun.symm.trans begun'
    rw [(reports_iff settled due distinct start mem).mp hrow, (reports update).mp hupdate]
    exact congrArg₂ Assessment.mk status message
  · intro same
    exact ⟨w, _, _, begun, (reports_iff settled due distinct start mem).mpr rfl,
      (reports _).mpr rfl, congrArg Assessment.status same, congrArg Assessment.message same⟩

theorem begin?_eq_ok {base : Catalog} {rules : StatusRules} {documents : List Json}
    {entries : List (ObjectId × Json)} (read : Manifest.entries documents = .ok entries)
    {entry : ObjectId × Json} (mem : entry ∈ entries) (filled : rules.isEmpty = false) :
    begin? cluster base rules documents = .ok ⟨cluster, base, some rules, entries⟩ := by
  cases entries with
  | nil => cases mem
  | cons first rest =>
    unfold begin?
    rw [read, filled]
    rfl

end Session

section Readings

variable {base : Catalog} {rules : StatusRules} {documents : List Json}
  {entries : List (ObjectId × Json)} {id : ObjectId} {document : Json} {t : Document.TypeMeta}
  {r : Resource} (options : WatchOptions)

theorem agrees_iff_judge {cluster : Cluster σ} {I : σ → Prop} {held : Holdings}
    (sound : rules.Sound) (settled : cluster.Settled I held) (kinds : held.Typed r)
    (due : options.interval ≠ 0) (read : Manifest.entries documents = .ok entries)
    (mem : (id, document) ∈ entries) (typed : Document.typeMeta document = .ok t)
    (h : ByChecks base rules options.overrides t r) {world : σ} (start : I world)
    {ids : List ObjectId} (distinct : ids.Nodup) (mem' : id ∈ ids) :
    (∃ s, Session.begin? cluster base rules documents = .ok s ∧ s.Agrees options ids world id) ↔
      rules.judge r (held.live? r (Session.namespaceOf r document) id.name) =
        rules.judge r (held.live? r (r.namespaceFor id.ns) id.name) := by
  let s : Session σ := ⟨cluster, base, some rules, entries⟩
  have begun : Session.begin? cluster base rules documents = .ok s :=
    Session.begin?_eq_ok read mem (sound.isEmpty_eq_false h.registered)
  obtain ⟨t', typed', kind, named, -⟩ := Document.id_eq_ok (Manifest.id_of_mem_entries read mem)
  cases typed.symm.trans typed'
  have own : s.rulesFor? options.overrides id.groupKind = some rules := by
    have annotated := h.annotated
    have free := h.free
    rw [kind] at annotated free
    simp [Session.rulesFor?, s, annotated, free]
  have row : s.statusIn held options.overrides (id, document) =
      Session.checkedIn rules held (id, document) := by
    unfold Session.statusIn
    rw [own]
  rw [← assessment_checkedIn typed kind named h.registered, ← row,
    ← assessment_statusAs sound kinds h kind]
  have agrees := Session.agrees_iff (s := s) settled due (Manifest.nodup_entries read) start mem
    distinct mem'
  constructor
  · rintro ⟨s', begun', same⟩
    cases begun.symm.trans begun'
    exact agrees.mp same
  · exact fun same => ⟨s, begun, agrees.mpr same⟩

def bare (apiVersion kind name : String) : Json :=
  .obj [("apiVersion", .str apiVersion), ("kind", .str kind),
    ("metadata", .obj [("name", .str name), ("namespace", .str defaultNamespace)])]

theorem exists_bare (typed : Document.typeMeta document = .ok t) (name : String) :
    ∃ live, Document.typeMeta live = .ok t ∧ Document.name? live = some name := by
  unfold Document.typeMeta at typed
  split at typed
  case h_1 => cases typed
  case h_2 => cases typed
  case h_3 version kind _ _ =>
    cases typed
    exact ⟨bare version kind name, rfl, rfl⟩

def Holdings.single (r : Resource) (ns : Option String) (live : Json) : Holdings :=
  fun r' ns' => if r' = r ∧ ns' = ns then [live] else []

theorem Holdings.typed_single {ns : Option String} {live : Json}
    (typed : Document.typeMeta live = .ok ⟨r.group, r.version, r.kind⟩) :
    (single r ns live).Typed r := by
  intro ns' o mem
  unfold single at mem
  split at mem
  case isTrue => rwa [List.mem_singleton.mp mem]
  case isFalse => cases mem

theorem Holdings.live?_single {ns ns' : Option String} {live : Json} {name : String}
    (named : Document.name? live = some name) :
    (single r ns live).live? r ns' name = if ns' = ns then some live else none := by
  unfold live? single
  by_cases same : ns' = ns
  · simp [same, named]
  · simp [same]

/-- On clusters that neither change nor fail, a session and its watch agree about the resource of
every document, unless the kind is namespaced and the document's namespace is the empty text. -/
theorem agrees_iff_namespace {words : StatusCheck.Wording} {definitions : List Json}
    (made : StatusRules.ofDocuments words definitions = .ok rules) (due : options.interval ≠ 0)
    (read : Manifest.entries documents = .ok entries) (mem : (id, document) ∈ entries)
    (typed : Document.typeMeta document = .ok t) (h : ByChecks base rules options.overrides t r) :
    (∀ {σ : Type} (cluster : Cluster σ) (I : σ → Prop) (held : Holdings), cluster.Settled I held →
      held.Typed r → ∀ world, I world → ∀ ids : List ObjectId, ids.Nodup → id ∈ ids →
        ∃ s, Session.begin? cluster base rules documents = .ok s ∧
          s.Agrees options ids world id) ↔
      (r.namespaced = true → Document.namespace? document ≠ some "") := by
  have sound := StatusRules.sound_ofDocuments made
  obtain ⟨_, -, -, named, ns⟩ := Document.id_eq_ok (Manifest.id_of_mem_entries read mem)
  rw [← namespaceOf_eq_iff, ns]
  constructor
  · intro agree
    obtain ⟨live, typed', named'⟩ := exists_bare typed id.name
    obtain ⟨group, kind, version⟩ := kind_of_registered h.registered
    have typed'' : Document.typeMeta live = .ok ⟨r.group, r.version, r.kind⟩ := by
      rw [typed', group, kind, version]
    -- Where the namespaces differ, the object stands only where the watch looks.
    let held := Holdings.single r (r.namespaceFor id.ns) live
    have settled := Cluster.fixed_settled held
    have kinds : held.Typed r := Holdings.typed_single typed''
    have distinct := List.nodup_singleton id
    have mem' := List.mem_singleton_self id
    have judged := (agrees_iff_judge options sound settled kinds due read mem typed h trivial
      distinct mem').mp (agree _ _ held settled kinds () trivial _ distinct mem')
    by_contra other
    rw [Holdings.live?_single named', Holdings.live?_single named', if_neg other, if_pos rfl]
      at judged
    exact judge_some_ne_judge_none rules r live judged.symm
  · intro same σ cluster I held settled kinds world start ids distinct mem'
    rw [agrees_iff_judge options sound settled kinds due read mem typed h start distinct mem', same]

end Readings

def widgetDefinition : Json :=
  .object [("metadata", .object [("name", .str "widgets.example.com"), ("annotations", .object [
      (StatusCheck.annotationName,
        .str "[\x7b\"status\":\"Stable\",\"condition\":\"@.state==\\\"stable\\\"\"\x7d]")])]),
    ("spec", .object [("group", .str "example.com"), ("scope", .str "Namespaced"),
      ("names", .object [("kind", .str "Widget"), ("plural", .str "widgets")]),
      ("versions", .arr [.object [("name", .str "v1")]])])]

def widgetResource : Resource :=
  ⟨"example.com", "v1", "Widget", "widgets", true⟩

def widgetRules : StatusRules :=
  ⟨[(widgetResource.collection, [⟨"Stable", ⟨"@.state==\"stable\""⟩⟩])],
    [widgetResource.groupKind], ⟨[widgetResource]⟩⟩

def widget (ns : String) : Json :=
  .obj [("apiVersion", .str "example.com/v1"), ("kind", .str "Widget"),
    ("metadata", .obj [("name", .str "w"), ("namespace", .str ns)]), ("state", .str "stable")]

theorem widgetRules_eq :
    StatusRules.ofDocuments StatusCheck.emptyText [widgetDefinition] = .ok widgetRules := by
  decide +kernel

theorem widget_byChecks : ByChecks .builtin widgetRules [] ⟨"example.com", "v1", "Widget"⟩
    widgetResource where
  annotated := by decide +kernel
  free := rfl
  noWorkload := by decide +kernel
  registered := by decide +kernel
  default := by decide +kernel

def widgetId (ns : String) : ObjectId :=
  ⟨widgetResource.groupKind, "w", ns⟩

theorem entries_widget (ns : String) :
    Manifest.entries [widget ns] = .ok [(widgetId ns, widget ns)] :=
  rfl

/-- A widget with a namespace, on a cluster that holds it. -/
theorem agrees_widget :
    ∃ s, Session.begin? .scripted .builtin widgetRules [widget "infra"] = .ok s ∧
      s.Agrees ⟨1, true, false, []⟩ [widgetId "infra"] ⟨[widget "infra"], [], []⟩
        (widgetId "infra") :=
  (agrees_iff_namespace ⟨1, true, false, []⟩ widgetRules_eq (by decide) (entries_widget "infra")
    (List.mem_singleton_self _) (by decide +kernel) widget_byChecks).mpr
    (by decide +kernel) .scripted _ _ (Scripted.settled [widget "infra"])
    (Scripted.typed (by decide +kernel) _) _ rfl _ (by decide) (by decide)

/-- A document with an empty namespace, and the widget in the default one. -/
theorem not_agrees_widget :
    let options : WatchOptions := ⟨1, true, false, []⟩
    let world : Scripted := ⟨[widget "default"], [], []⟩
    ∃ s w row update, Session.begin? .scripted .builtin widgetRules [widget ""] = .ok s ∧
      s.watch? [widgetId ""] options = some w ∧ s.Reports options world (widgetId "") row ∧
      w.Reports world (widgetId "") update ∧ row.assessment = ⟨"NotFound", "Resource not found"⟩ ∧
      update.assessment = ⟨"Stable", "Widget is Stable"⟩ ∧
      ¬ s.Agrees options [widgetId ""] world (widgetId "") := by
  intro options world
  let s : Session Scripted := ⟨.scripted, .builtin, some widgetRules, [(widgetId "", widget "")]⟩
  have settled : s.cluster.Settled (· = world) world.collection := Scripted.settled _
  have due : options.interval ≠ 0 := by decide
  have distinct : s.ids.Nodup := List.nodup_singleton _
  have mem : (widgetId "", widget "") ∈ s.entries := List.mem_singleton_self _
  have distinct' := List.nodup_singleton (widgetId "")
  have mem' := List.mem_singleton_self (widgetId "")
  obtain ⟨w, begun, reports⟩ := s.exists_watch settled due distinct' rfl mem'
  have row : (s.statusIn world.collection [] (widgetId "", widget "")).assessment =
      ⟨"NotFound", "Resource not found"⟩ := by decide +kernel
  have update : ((Watch.planFor s.catalog s.rules []).statusAs world.collection
      (widgetId "")).assessment = ⟨"Stable", "Widget is Stable"⟩ := by decide +kernel
  refine ⟨s, w, _, _, rfl, begun, (Session.reports_iff settled due distinct rfl mem).mpr rfl,
    (reports _).mpr rfl, row, update, fun agrees => ?_⟩
  have same := (Session.agrees_iff settled due distinct rfl mem distinct' mem').mp agrees
  exact absurd (row.symm.trans (same.trans update)) (by decide)

end StatusWatch
