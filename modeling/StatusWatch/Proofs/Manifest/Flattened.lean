import StatusWatch.Proofs.Manifest

/-!
The leaves of nested lists. A leaf has a path: the positions on the way to it, from the outermost
list on. Flattening gives the leaves in the order of their paths, each once; so lists that are
joined are flattened one after the other, and what is flat stays as it is. The identifiers of the
leaves are those that their fields spell, if each leaf has all that an identifier is made of.
-/

namespace StatusWatch.Manifest

def IsWrapper (document : Json) : Prop :=
  Document.kind? document = some "List"

instance (document : Json) : Decidable (IsWrapper document) :=
  inferInstanceAs (Decidable (_ = _))

/-- A wrapper without an array of items has none. -/
def itemsOf (document : Json) : List Json :=
  ((document.get? "items").bind Json.arr?).getD []

def leafAt? : List Nat → Json → Option Json
  | [], document => if IsWrapper document then none else some document
  | i :: path, document =>
    if IsWrapper document then (itemsOf document)[i]?.bind (leafAt? path) else none

def leafIn? (documents : List Json) : List Nat → Option Json
  | [] => none
  | i :: path => documents[i]?.bind (leafAt? path)

def InOrder (leafAt : List Nat → Option Json) (leaves : List Json) : Prop :=
  ∃ paths : List (List Nat), paths.Pairwise (· < ·) ∧
    (∀ path, path ∈ paths ↔ (leafAt path).isSome = true) ∧ paths.map leafAt = leaves.map some

theorem inOrder_single {leafAt : List Nat → Option Json} {leaf : Json}
    (root : leafAt [] = some leaf) (below : ∀ i path, leafAt (i :: path) = none) :
    InOrder leafAt [leaf] := by
  refine ⟨[[]], List.pairwise_singleton _ _, ?_, ?_⟩
  · intro path
    cases path with
    | nil => simp [root]
    | cons i path => simp [below]
  · simp [root]

theorem inOrder_nil : InOrder (leafIn? []) [] := by
  refine ⟨[], .nil, ?_, rfl⟩
  intro path
  cases path with
  | nil => simp [leafIn?]
  | cons i path => simp [leafIn?]

def shift : List Nat → List Nat
  | [] => []
  | i :: path => (i + 1) :: path

theorem shift_lt_shift {path other : List Nat} (h : path < other) : shift path < shift other := by
  cases other with
  | nil => cases h
  | cons j other =>
    cases path with
    | nil => exact List.nil_lt_cons _ _
    | cons i path => simpa [shift, List.cons_lt_cons_iff] using h

theorem leafIn?_shift (document : Json) (documents : List Json) (path : List Nat) :
    leafIn? (document :: documents) (shift path) = leafIn? documents path := by
  cases path with
  | nil => rfl
  | cons i path => simp [shift, leafIn?]

theorem mem_map_shift {paths : List (List Nat)} {i : Nat} {path : List Nat} :
    i :: path ∈ paths.map shift ↔ ∃ j, i = j + 1 ∧ j :: path ∈ paths := by
  rw [List.mem_map]
  constructor
  · rintro ⟨before, mem, moved⟩
    cases before with
    | nil => cases moved
    | cons j rest =>
      cases moved
      exact ⟨j, rfl, mem⟩
  · rintro ⟨j, rfl, mem⟩
    exact ⟨j :: path, mem, rfl⟩

theorem inOrder_cons {document : Json} {documents first rest : List Json}
    (here : InOrder (fun path => leafAt? path document) first)
    (behind : InOrder (leafIn? documents) rest) :
    InOrder (leafIn? (document :: documents)) (first ++ rest) := by
  obtain ⟨paths, ascending, found, leaves⟩ := here
  obtain ⟨paths', ascending', found', leaves'⟩ := behind
  have rooted : [] ∉ paths' := by
    rw [found']
    exact nofun
  -- What is found here gets the position 0; what is behind moves on by one, past all of these.
  refine ⟨paths.map (0 :: ·) ++ paths'.map shift, ?_, ?_, ?_⟩
  · rw [List.pairwise_append]
    refine ⟨?_, ?_, ?_⟩
    · refine ascending.map _ fun path other before => ?_
      exact List.cons_lt_cons_iff.mpr (.inr ⟨rfl, before⟩)
    · exact ascending'.map _ fun path other before => shift_lt_shift before
    · intro path left other right
      obtain ⟨path, -, rfl⟩ := List.mem_map.mp left
      obtain ⟨other, mem, rfl⟩ := List.mem_map.mp right
      cases other with
      | nil => exact absurd mem rooted
      | cons i other => exact List.cons_lt_cons_iff.mpr (.inl (Nat.succ_pos i))
  · intro path
    cases path with
    | nil =>
      have moved : [] ∉ paths'.map shift := by
        intro mem
        obtain ⟨before, mem, moved⟩ := List.mem_map.mp mem
        cases before with
        | nil => exact rooted mem
        | cons i path => cases moved
      simpa [leafIn?] using moved
    | cons i path =>
      rw [List.mem_append, mem_map_shift]
      cases i with
      | zero => simp [leafIn?, found]
      | succ i => simp [found', leafIn?]
  · rw [List.map_append, List.map_append, List.map_map, List.map_map, ← leaves, ← leaves']
    refine congrArg₂ (· ++ ·) rfl (List.map_congr_left fun path _ => ?_)
    exact leafIn?_shift document documents path

theorem itemLeaves_eq (fields : List (String × Json)) :
    itemLeaves fields = allLeaves (itemsOf (.obj fields)) := by
  induction fields with
  | nil => simp [itemLeaves, itemsOf, Json.get?, allLeaves]
  | cons field rest ih =>
    obtain ⟨name, value⟩ := field
    rw [itemsOf, Json.get?, lookup_cons_eq_ite]
    by_cases here : name = "items"
    · subst here
      cases value with
      | _ => simp [itemLeaves, Json.arr?, allLeaves]
    · rw [if_neg (Ne.symm here)]
      cases value with
      | _ => simpa [itemLeaves, here, itemsOf, Json.get?] using ih

theorem leaves_of_wrapper {document : Json} (wrapper : IsWrapper document) :
    leaves document = allLeaves (itemsOf document) := by
  cases document with
  | obj fields =>
    rw [leaves, ← itemLeaves_eq]
    exact if_pos wrapper
  | _ => cases wrapper

theorem leaves_of_not_wrapper {document : Json} (plain : ¬ IsWrapper document) :
    leaves document = [document] := by
  cases document with
  | obj fields =>
    rw [leaves]
    exact if_neg plain
  | _ => rfl

theorem sizeOf_lt_of_mem_itemsOf {document item : Json} (mem : item ∈ itemsOf document) :
    sizeOf item < sizeOf document := by
  cases document with
  | obj fields =>
    cases found : fields.lookup "items" with
    | none => simp [itemsOf, Json.get?, found] at mem
    | some value =>
      cases value with
      | arr items =>
        have inside : item ∈ items := by simpa [itemsOf, Json.get?, found, Json.arr?] using mem
        have small := List.sizeOf_lt_of_mem inside
        have field := List.sizeOf_lt_of_mem (mem_of_lookup_eq_some found)
        simp only [Prod.mk.sizeOf_spec, Json.arr.sizeOf_spec, Json.obj.sizeOf_spec] at field ⊢
        omega
      | _ => simp [itemsOf, Json.get?, found, Json.arr?] at mem
  | _ => simp [itemsOf, Json.get?] at mem

theorem leafAt?_of_wrapper {document : Json} (wrapper : IsWrapper document) :
    (fun path => leafAt? path document) = leafIn? (itemsOf document) := by
  funext path
  cases path with
  | nil => exact if_pos wrapper
  | cons i path => exact if_pos wrapper

theorem inOrder_allLeaves {documents : List Json}
    (each : ∀ document ∈ documents, InOrder (fun path => leafAt? path document) (leaves document)) :
    InOrder (leafIn? documents) (allLeaves documents) := by
  induction documents with
  | nil => exact inOrder_nil
  | cons document rest ih =>
    rw [List.forall_mem_cons] at each
    rw [allLeaves]
    exact inOrder_cons each.1 (ih each.2)

theorem inOrder_leaves (document : Json) :
    InOrder (fun path => leafAt? path document) (leaves document) := by
  -- By the size of the document: a wrapper is larger than each of its items.
  by_cases wrapper : IsWrapper document
  · rw [leaves_of_wrapper wrapper, leafAt?_of_wrapper wrapper]
    exact inOrder_allLeaves fun item mem => inOrder_leaves item
  · rw [leaves_of_not_wrapper wrapper]
    exact inOrder_single (if_neg wrapper) fun i path => if_neg wrapper
termination_by sizeOf document
decreasing_by exact sizeOf_lt_of_mem_itemsOf mem

theorem not_wrapper_of_leafAt? {path : List Nat} {document leaf : Json}
    (found : leafAt? path document = some leaf) : ¬ IsWrapper leaf := by
  induction path generalizing document with
  | nil =>
    unfold leafAt? at found
    split at found
    case isTrue => cases found
    case isFalse plain =>
      cases found
      exact plain
  | cons i path ih =>
    unfold leafAt? at found
    split at found
    case isTrue =>
      obtain ⟨item, -, below⟩ := Option.bind_eq_some_iff.mp found
      exact ih below
    case isFalse => cases found

theorem not_wrapper_of_mem_flatten {documents : List Json} {leaf : Json}
    (mem : leaf ∈ flatten documents) : ¬ IsWrapper leaf := by
  have ordered : InOrder (leafIn? documents) (flatten documents) :=
    inOrder_allLeaves fun document _ => inOrder_leaves document
  obtain ⟨paths, -, -, leaves⟩ := ordered
  have given : some leaf ∈ paths.map (leafIn? documents) := by
    rw [leaves]
    exact List.mem_map_of_mem mem
  obtain ⟨path, -, found⟩ := List.mem_map.mp given
  cases path with
  | nil => cases found
  | cons i path =>
    obtain ⟨document, -, below⟩ := Option.bind_eq_some_iff.mp found
    exact not_wrapper_of_leafAt? below

theorem flatten_append (documents more : List Json) :
    flatten (documents ++ more) = flatten documents ++ flatten more := by
  induction documents with
  | nil => rfl
  | cons document rest ih =>
    change leaves document ++ flatten (rest ++ more) =
      leaves document ++ flatten rest ++ flatten more
    rw [ih, List.append_assoc]

theorem flatten_of_plain {documents : List Json}
    (plain : ∀ document ∈ documents, ¬ IsWrapper document) : flatten documents = documents := by
  induction documents with
  | nil => rfl
  | cons document rest ih =>
    rw [List.forall_mem_cons] at plain
    change leaves document ++ flatten rest = document :: rest
    rw [leaves_of_not_wrapper plain.1, ih plain.2]
    rfl

structure Identifies (document : Json) (id : ObjectId) : Prop where
  groupKind : ∃ apiVersion kind, Document.apiVersion? document = some apiVersion ∧
    Document.kind? document = some kind ∧ id.groupKind = .ofApiVersion apiVersion kind
  name : Document.name? document = some id.name
  ns : id.ns = (Document.namespace? document).getD ""

theorem identifies_of_id {document : Json} {id : ObjectId} (h : Document.id document = .ok id) :
    Identifies document id := by
  obtain ⟨t, typed, groupKind, name, ns⟩ := Document.id_eq_ok h
  refine ⟨?_, name, ns.symm⟩
  unfold Document.typeMeta at typed
  split at typed
  case h_3 apiVersion kind given kind' =>
    cases typed
    exact ⟨apiVersion, kind, given, kind', groupKind.symm⟩
  all_goals cases typed

structure Complete (document : Json) : Prop where
  apiVersion : ∃ apiVersion, Document.apiVersion? document = some apiVersion
  kind : ∃ kind, Document.kind? document = some kind
  name : ∃ name, Document.name? document = some name

theorem exists_id_iff {document : Json} :
    (∃ id, Document.id document = .ok id) ↔ Complete document := by
  constructor
  · rintro ⟨id, known⟩
    obtain ⟨⟨apiVersion, kind, given, given', -⟩, name, -⟩ := identifies_of_id known
    exact ⟨⟨apiVersion, given⟩, ⟨kind, given'⟩, ⟨id.name, name⟩⟩
  · rintro ⟨⟨apiVersion, given⟩, ⟨kind, given'⟩, ⟨name, given''⟩⟩
    rw [Document.id, Document.groupKind, Document.typeMeta, given, given', given'']
    exact ⟨_, rfl⟩

theorem ids_eq_ok {documents : List Json} {found : List ObjectId} :
    ids documents = .ok found ↔
      ∃ kept, entries documents = .ok kept ∧ kept.map Prod.fst = found :=
  map_eq_ok

theorem exists_ids_iff {documents : List Json} :
    (∃ found, ids documents = .ok found) ↔ ∀ document ∈ documents, Complete document := by
  simp only [← exists_id_iff, ids_eq_ok, entries, bind_eq_ok]
  constructor
  · rintro ⟨-, -, ⟨all, read, -⟩, -⟩ document mem
    obtain ⟨entry, made⟩ := exists_mapM_eq_ok.mp ⟨all, read⟩ document mem
    obtain ⟨id, known, -⟩ := bind_eq_ok.mp made
    exact ⟨id, known⟩
  · intro known
    obtain ⟨all, read⟩ := exists_mapM_eq_ok.mpr fun document mem =>
      (known document mem).imp' (·, document) fun id here => bind_eq_ok.mpr ⟨id, here, rfl⟩
    exact ⟨_, distinct all, ⟨all, read, rfl⟩, rfl⟩

structure Flattened (documents : List Json) : Prop where
  leaves : InOrder (leafIn? documents) (flatten documents)
  plain : ∀ leaf ∈ flatten documents, Document.kind? leaf ≠ some "List"
  append : ∀ more, flatten (documents ++ more) = flatten documents ++ flatten more
  again : flatten (flatten documents) = flatten documents
  identified : (∃ found, ids (flatten documents) = .ok found) ↔
    ∀ leaf ∈ flatten documents, Complete leaf
  distinct : ∀ found, ids (flatten documents) = .ok found → found.Nodup ∧
    ∃ all, List.Forall₂ Identifies (flatten documents) all ∧ found = all.eraseDups

theorem flattened (documents : List Json) : Flattened documents where
  leaves := inOrder_allLeaves fun document _ => inOrder_leaves document
  plain _ mem := not_wrapper_of_mem_flatten mem
  append := flatten_append documents
  again := flatten_of_plain fun _ mem => not_wrapper_of_mem_flatten mem
  identified := exists_ids_iff
  distinct := by
    intro found read
    obtain ⟨kept, listed, rfl⟩ := ids_eq_ok.mp read
    obtain ⟨all, known, once⟩ := ids_entries listed
    have each := (forall₂_of_mapM_eq_ok known).imp fun _ _ => identifies_of_id
    exact ⟨nodup_entries listed, all, each, once⟩

end StatusWatch.Manifest
