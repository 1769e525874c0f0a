import StatusWatch.Proofs.Identity
import StatusWatch.Proofs.Reading.Provenance
import StatusWatch.Proofs.Session.Judged

/-!
Workloads on a settled cluster. What a workload generated is a tree of objects, one level for each
kind: the reader's verdict is a condition on this tree, its status repeats the tree, and the order
of the lists that the cluster answers with leaves no trace.
-/

namespace StatusWatch

namespace Document

def sortById (objects : List Json) : List Json :=
  objects.mergeSort fun a b => (idOrBlank a).le (idOrBlank b)

theorem sortById_perm (objects : List Json) : (sortById objects).Perm objects :=
  List.mergeSort_perm objects _

theorem sortById_sorted (objects : List Json) :
    (sortById objects).Pairwise fun a b => (idOrBlank a).le (idOrBlank b) = true := by
  have trans (a b c : Json) (hab : (idOrBlank a).le (idOrBlank b) = true)
      (hbc : (idOrBlank b).le (idOrBlank c) = true) : (idOrBlank a).le (idOrBlank c) = true :=
    ObjectId.le_trans hab hbc
  have total (a b : Json) :
      ((idOrBlank a).le (idOrBlank b) || (idOrBlank b).le (idOrBlank a)) = true :=
    ObjectId.le_total _ _
  exact List.pairwise_mergeSort trans total objects

theorem sortById_ascending {objects : List Json} (distinct : (objects.map idOrBlank).Nodup) :
    (sortById objects).Pairwise fun a b => (idOrBlank a).compare (idOrBlank b) = .lt := by
  have apart : ((sortById objects).map idOrBlank).Nodup :=
    ((sortById_perm objects).map idOrBlank).nodup_iff.mpr distinct
  exact (sortById_sorted objects).imp₂ (fun a b before ne => ObjectId.compare_eq_lt_of_le before ne)
    (List.pairwise_map.mp apart)

theorem sortById_eq_of_perm {objects reordered : List Json} (same : reordered.Perm objects)
    (distinct : (objects.map idOrBlank).Nodup) : sortById reordered = sortById objects := by
  have there := sortById_perm reordered
  have here := sortById_perm objects
  refine List.Perm.eq_of_pairwise (fun a b ha hb ab ba => ?_) (sortById_sorted reordered)
    (sortById_sorted objects) ((there.trans same).trans here.symm)
  have mem : a ∈ objects := same.mem_iff.mp (there.mem_iff.mp ha)
  exact List.inj_on_of_nodup_map distinct mem (here.mem_iff.mp hb) (ObjectId.eq_of_le_of_le ab ba)

end Document

namespace Workload

def replicaSets : Resource := ⟨"apps", "v1", "ReplicaSet", "replicasets", true⟩

def pods : Resource := ⟨"", "v1", "Pod", "pods", true⟩

def levels (gk : GroupKind) : List Resource :=
  (generatedKinds gk).filterMap (Catalog.builtin.find? · none)

theorem levels_deployment : levels deployment = [replicaSets, pods] := by decide

theorem levels_replicaSet : levels replicaSet = [pods] := by decide

theorem levels_statefulSet : levels statefulSet = [pods] := by decide

end Workload

namespace Selector

variable {object : Json} {selector : Selector}

/-- The workload has a field for its selector, and the selector is what is read from it. -/
def Selects (object : Json) (selector : Selector) : Prop :=
  ∃ value, object.nested? ["spec", "selector"] = some value ∧ read value = .ok selector

theorem ofWorkload_eq_some_iff : ofWorkload object = .ok (some selector) ↔ Selects object selector := by
  unfold ofWorkload Selects
  split
  case h_1 absent => simp [absent]
  case h_2 null =>
    refine iff_of_false nofun ?_
    rintro ⟨value, given, readable⟩
    cases null.symm.trans given
    cases readable
  case h_3 value _ given =>
    simp only [given, map_eq_ok, mapError_eq_ok, Option.some.injEq, exists_eq_right,
      exists_eq_left']

theorem exists_ofWorkload_iff : (∃ found, ofWorkload object = .ok found) ↔
    object.nested? ["spec", "selector"] = none ∨ object.nested? ["spec", "selector"] = some .null ∨
      ∃ selector, Selects object selector := by
  unfold ofWorkload Selects
  split
  case h_1 absent => exact iff_of_true ⟨none, rfl⟩ (.inl absent)
  case h_2 null => exact iff_of_true ⟨none, rfl⟩ (.inr (.inl null))
  case h_3 value notNull given =>
    have filled : value ≠ .null := notNull
    simp [given, map_eq_ok, mapError_eq_ok, filled]

end Selector

namespace Holdings

/-- An object that the owner's selector picks in the owner's namespace, and that the owner controls
if it has a uid. -/
def Generates (held : Holdings) (r : Resource) (owner child : Json) : Prop :=
  ∃ selector, Selector.Selects owner selector ∧
    child ∈ held r (r.namespaceFor ((Document.namespace? owner).getD "")) ∧
    selector.holds (Document.labels child) = true ∧
    ∀ uid, Document.uid? owner = some uid → Document.isControlledBy uid child = true

def children (held : Holdings) (r : Resource) (owner : Json) : Except Error (List Json) :=
  (Selector.ofWorkload owner).map fun
    | none => []
    | some selector =>
      let listed := held r (r.namespaceFor ((Document.namespace? owner).getD ""))
      Document.sortById ((pick (some selector) listed).filter (Reading.owns owner))

def CurrentAlone (object : Json) : Prop :=
  ∃ a, Readiness.assess object = .ok a ∧ a.status = Status.current

/-- The object is current, its selector is absent, null or well-formed, and all that it generated is
current by the same rule. -/
def Current (held : Holdings) : List Resource → Json → Prop
  | [], object => CurrentAlone object
  | r :: below, object =>
    CurrentAlone object ∧
      (object.nested? ["spec", "selector"] = none ∨
        object.nested? ["spec", "selector"] = some .null ∨
          ∃ selector, Selector.Selects object selector) ∧
      ∀ child, held.Generates r object child → held.Current below child

structure Heads (held : Holdings) (levels : List Resource) (object : Json) (s : ResourceStatus) :
    Prop where
  id : s.id = Document.idOrBlank object
  live : s.live = some object
  verdict : s.status = Status.current ↔ held.Current levels object

/-- A status that repeats the tree below an object: one entry for each child, with the identifiers in
ascending order, and below each entry the same. -/
def Reflects (held : Holdings) : List Resource → Json → ResourceStatus → Prop
  | [], object, s => held.Heads [] object s ∧ s.generated = []
  | r :: below, object, s => held.Heads (r :: below) object s ∧
    ∃ children, (∀ child, child ∈ children ↔ held.Generates r object child) ∧
      children.Pairwise (fun a b =>
        (Document.idOrBlank a).compare (Document.idOrBlank b) = .lt) ∧
      List.Forall₂ (held.Reflects below) children s.generated

/-- What is held of these resources is of their kinds, and told apart by name. -/
structure Orderly (held : Holdings) (levels : List Resource) : Prop where
  typed : ∀ r ∈ levels, held.Typed r
  distinct : ∀ r ∈ levels, ∀ ns, ((held r ns).map Document.idOrBlank).Nodup

def statusOf (held : Holdings) : List Resource → Json → ResourceStatus
  | [], object => Reading.plain object
  | r :: below, object =>
    Reading.workloadStatus object ((held.children r object).map (List.map (held.statusOf below)))

variable {held other : Holdings} {r : Resource} {levels below : List Resource}
  {object owner child : Json}

theorem mem_children {found : List Json} (known : held.children r owner = .ok found) :
    child ∈ found ↔ held.Generates r owner child := by
  unfold children at known
  obtain ⟨selector, read, rfl⟩ := map_eq_ok.mp known
  cases selector with
  | none =>
    refine iff_of_false List.not_mem_nil ?_
    rintro ⟨selector, selects, -⟩
    cases read.symm.trans (Selector.ofWorkload_eq_some_iff.mpr selects)
  | some selector =>
    have owned : Reading.owns owner child = true ↔
        ∀ uid, Document.uid? owner = some uid → Document.isControlledBy uid child = true := by
      unfold Reading.owns
      cases Document.uid? owner with
      | none => exact iff_of_true rfl nofun
      | some uid => simp
    dsimp only
    rw [(Document.sortById_perm _).mem_iff, List.mem_filter, owned, pick, List.mem_filter, and_assoc]
    constructor
    · rintro ⟨listed, picked, owned⟩
      exact ⟨selector, Selector.ofWorkload_eq_some_iff.mp read, listed, picked, owned⟩
    · rintro ⟨selector', selects, listed, picked, owned⟩
      cases read.symm.trans (Selector.ofWorkload_eq_some_iff.mpr selects)
      exact ⟨listed, picked, owned⟩

theorem not_generates {e : Error} (unread : held.children r owner = .error e) :
    ¬ held.Generates r owner child := by
  rintro ⟨selector, selects, -⟩
  unfold children at unread
  rw [Selector.ofWorkload_eq_some_iff.mpr selects] at unread
  cases unread

theorem exists_children_iff :
    (∃ found, held.children r owner = .ok found) ↔
      owner.nested? ["spec", "selector"] = none ∨
        owner.nested? ["spec", "selector"] = some .null ∨
          ∃ selector, Selector.Selects owner selector := by
  rw [← Selector.exists_ofWorkload_iff]
  unfold children
  cases Selector.ofWorkload owner with
  | error e => exact iff_of_false nofun nofun
  | ok selector => exact iff_of_true ⟨_, rfl⟩ ⟨_, rfl⟩

theorem Orderly.nodup_owned (h : held.Orderly (r :: below)) (ns : Option String)
    (selector : Selector) (owner : Json) :
    (((pick (some selector) (held r ns)).filter (Reading.owns owner)).map
      Document.idOrBlank).Nodup := by
  have picked : (pick (some selector) (held r ns)).Sublist (held r ns) := List.filter_sublist
  have owned := (List.filter_sublist (p := Reading.owns owner)).trans picked
  exact (h.distinct r List.mem_cons_self ns).sublist (owned.map _)

theorem children_ascending {found : List Json} (orderly : held.Orderly (r :: below))
    (known : held.children r owner = .ok found) :
    found.Pairwise fun a b => (Document.idOrBlank a).compare (Document.idOrBlank b) = .lt := by
  obtain ⟨selector, -, rfl⟩ := map_eq_ok.mp known
  cases selector with
  | none => exact .nil
  | some selector => exact Document.sortById_ascending (orderly.nodup_owned _ selector owner)

theorem children_eq_of_perm (same : ∀ r ns, (other r ns).Perm (held r ns))
    (orderly : held.Orderly (r :: below)) (owner : Json) :
    other.children r owner = held.children r owner := by
  unfold children
  rcases Selector.ofWorkload owner with e | _ | selector
  · rfl
  · rfl
  · have owned := ((same r (r.namespaceFor ((Document.namespace? owner).getD ""))).filter
      (fun o => selector.holds (Document.labels o))).filter (Reading.owns owner)
    exact congrArg Except.ok
      (Document.sortById_eq_of_perm owned (orderly.nodup_owned _ selector owner))

theorem statusOf_id (held : Holdings) (levels : List Resource) (object : Json) :
    (held.statusOf levels object).id = Document.idOrBlank object := by
  cases levels with
  | nil => exact ResourceStatus.id_alone _ object
  | cons r below => exact ResourceStatus.id_workloadStatus _

end Holdings

theorem Readiness.exists_assess {object : Json} {t : Document.TypeMeta}
    (typed : Document.typeMeta object = .ok t) : ∃ a, assess object = .ok a := by
  unfold assess Document.groupKind
  rw [typed]
  cases general? object with
  | some a => exact ⟨a, rfl⟩
  | none => exact ⟨_, rfl⟩

theorem Reading.combine_current_iff {own : Assessment} {children : List ResourceStatus} :
    (combine own children).status = Status.current ↔
      own.status = Status.current ∧ ∀ c ∈ children, c.status = Status.current := by
  have none_pending : (children.filter (·.status != Status.current)).length = 0 ↔
      ∀ c ∈ children, c.status = Status.current := by
    rw [List.length_eq_zero_iff, List.filter_eq_nil_iff]
    simp
  unfold combine
  dsimp only
  split
  case isTrue done =>
    constructor
    · intro current
      exact ⟨current, none_pending.mp (done.resolve_left (not_not.mpr current))⟩
    · exact And.left
  case isFalse waits =>
    have waiting : (Assessment.inProgress "").status ≠ Status.current := by decide
    refine iff_of_false waiting fun all => waits (.inr (none_pending.mpr all.2))

namespace Holdings

variable {held other : Holdings} {r : Resource} {levels below : List Resource}
  {object : Json} {t : Document.TypeMeta}

theorem Orderly.tail (h : held.Orderly (r :: below)) : held.Orderly below where
  typed s mem := h.typed s (List.mem_cons_of_mem r mem)
  distinct s mem := h.distinct s (List.mem_cons_of_mem r mem)

theorem typed_of_generates {owner child : Json} (orderly : held.Orderly (r :: below))
    (generated : held.Generates r owner child) :
    Document.typeMeta child = .ok ⟨r.group, r.version, r.kind⟩ := by
  obtain ⟨-, -, mem, -⟩ := generated
  exact orderly.typed r List.mem_cons_self _ child mem

theorem Reflects.heads {s : ResourceStatus} (h : held.Reflects levels object s) :
    held.Heads levels object s := by
  cases levels with
  | nil => exact h.1
  | cons r below => exact h.1

theorem reflects_statusOf (orderly : held.Orderly levels)
    (typed : Document.typeMeta object = .ok t) :
    held.Reflects levels object (held.statusOf levels object) := by
  obtain ⟨own, assessed⟩ := Readiness.exists_assess typed
  have alone : CurrentAlone object ↔ own.status = Status.current := by
    simp [CurrentAlone, assessed]
  -- The children of an object are trees of one level less.
  induction levels generalizing object t own with
  | nil =>
    rw [statusOf, Reading.plain, Reading.alone, assessed]
    exact ⟨⟨rfl, rfl, alone.symm⟩, rfl⟩
  | cons r below ih =>
    have reflected (child : Json) (generated : held.Generates r object child) :
        held.Reflects below child (held.statusOf below child) := by
      have typed := typed_of_generates orderly generated
      obtain ⟨own, assessed⟩ := Readiness.exists_assess typed
      exact ih orderly.tail typed own assessed (by simp [CurrentAlone, assessed])
    rw [statusOf]
    cases known : held.children r object with
    | error e =>
      -- Without a selector the status is unknown, and nothing was generated.
      have unknown : Status.unknown ≠ Status.current := by decide
      refine ⟨⟨rfl, rfl, iff_of_false unknown fun all => ?_⟩, [], ?_, .nil, .nil⟩
      · obtain ⟨found, known'⟩ := exists_children_iff.mpr all.2.1
        cases known.symm.trans known'
      · exact fun child => iff_of_false List.not_mem_nil (not_generates known)
    | ok found =>
      have mem (child : Json) : child ∈ found ↔ held.Generates r object child :=
        mem_children known
      simp only [Except.map, Reading.workloadStatus, assessed]
      refine ⟨⟨rfl, rfl, ?_⟩, found, mem, children_ascending orderly known, ?_⟩
      · change (Reading.combine own (found.map (held.statusOf below))).status = _ ↔ _
        rw [Reading.combine_current_iff, List.forall_mem_map]
        constructor
        · rintro ⟨current, all⟩
          refine ⟨alone.mpr current, exists_children_iff.mp ⟨found, known⟩, fun child generated => ?_⟩
          exact (reflected child generated).heads.verdict.mp (all child ((mem child).mpr generated))
        · rintro ⟨current, -, all⟩
          refine ⟨alone.mp current, fun child listed => ?_⟩
          have generated := (mem child).mp listed
          exact (reflected child generated).heads.verdict.mpr (all child generated)
      · rw [List.forall₂_map_right_iff, List.forall₂_same]
        exact fun child listed => reflected child ((mem child).mp listed)

theorem statusOf_eq_of_perm (same : ∀ r ns, (other r ns).Perm (held r ns))
    (orderly : held.Orderly levels) (object : Json) :
    other.statusOf levels object = held.statusOf levels object := by
  induction levels generalizing object with
  | nil => rfl
  | cons r below ih =>
    have below_eq : other.statusOf below = held.statusOf below := funext (ih orderly.tail)
    rw [statusOf, statusOf, children_eq_of_perm same orderly, below_eq]

end Holdings

end StatusWatch
