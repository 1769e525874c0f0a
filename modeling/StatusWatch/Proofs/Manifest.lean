import StatusWatch.Manifest
import StatusWatch.Proofs.Keyed
import StatusWatch.Proofs.Success
import Mathlib.Data.List.Nodup

/-!
The entries of a manifest: each has the identifier of its document, no two have the same, and they
stand where their identifiers are first named.
-/

namespace StatusWatch

namespace Manifest

theorem distinct_spec (entries : List (ObjectId × Json)) :
    ((distinct entries).map Prod.fst).Nodup ∧ distinct entries ⊆ entries := by
  suffices ∀ kept, (kept.map Prod.fst).Nodup → kept ⊆ entries → ∀ rest, rest ⊆ entries →
      let all := rest.foldl (fun kept e => if kept.any (·.1 = e.1) then kept else kept ++ [e]) kept
      (all.map Prod.fst).Nodup ∧ all ⊆ entries from
    this [] List.nodup_nil (List.nil_subset _) entries (List.Subset.refl _)
  intro kept distinct within rest
  induction rest generalizing kept with
  | nil => exact fun _ => ⟨distinct, within⟩
  | cons e rest ih =>
    intro others
    rw [List.cons_subset] at others
    rw [List.foldl_cons]
    split
    case isTrue => exact ih kept distinct within others.2
    case isFalse new =>
      have apart : e.1 ∉ kept.map Prod.fst := by simpa using new
      refine ih (kept ++ [e]) ?_ ?_ others.2
      · rw [List.map_append]
        exact List.nodup_append_comm.mp (List.nodup_cons.mpr ⟨apart, distinct⟩)
      · exact List.append_subset.mpr ⟨within, List.cons_subset.mpr ⟨others.1, List.nil_subset _⟩⟩

variable {documents : List Json} {found : List (ObjectId × Json)}

theorem nodup_entries (h : entries documents = .ok found) : (found.map Prod.fst).Nodup := by
  obtain ⟨all, -, ⟨⟩⟩ := bind_eq_ok.mp h
  exact (distinct_spec all).1

theorem id_of_mem_entries (h : entries documents = .ok found) {entry : ObjectId × Json}
    (mem : entry ∈ found) : Document.id entry.2 = .ok entry.1 := by
  obtain ⟨all, read, ⟨⟩⟩ := bind_eq_ok.mp h
  obtain ⟨document, -, made⟩ := exists_of_mem_mapM read ((distinct_spec all).2 mem)
  obtain ⟨id, known, ⟨⟩⟩ := bind_eq_ok.mp made
  exact known

theorem map_fst_distinct (all : List (ObjectId × Json)) :
    (distinct all).map Prod.fst = (all.map Prod.fst).eraseDups := by
  have firsts : ∀ kept : List (ObjectId × Json),
      (all.foldl (fun kept e => if kept.any (·.1 = e.1) then kept else kept ++ [e]) kept).map
        Prod.fst = (all.map Prod.fst).foldl addNew (kept.map Prod.fst) := by
    intro kept
    induction all generalizing kept with
    | nil => rfl
    | cons e rest ih =>
      have known : kept.any (·.1 = e.1) = true ↔ e.1 ∈ kept.map Prod.fst := by simp
      rw [List.foldl_cons, ih, List.map_cons, List.foldl_cons, addNew]
      by_cases seen : e.1 ∈ kept.map Prod.fst
      · rw [if_pos seen, if_pos (known.mpr seen)]
      · rw [if_neg seen, if_neg (mt known.mp seen), List.map_append]
        rfl
  have once := firsts []
  rw [List.map_nil, foldl_addNew] at once
  simpa [distinct] using once

theorem ids_entries (h : entries documents = .ok found) :
    ∃ ids, documents.mapM Document.id = .ok ids ∧ found.map Prod.fst = ids.eraseDups := by
  obtain ⟨all, read, ⟨⟩⟩ := bind_eq_ok.mp h
  refine ⟨all.map Prod.fst, ?_, map_fst_distinct all⟩
  clear h
  induction documents generalizing all with
  | nil =>
    cases read
    rfl
  | cons document rest ih =>
    simp only [List.mapM_cons, bind_eq_ok] at read
    obtain ⟨first, ⟨id, known, ⟨⟩⟩, others, behind, ⟨⟩⟩ := read
    rw [List.mapM_cons, known, ih others behind]
    rfl

end Manifest

theorem Document.id_eq_ok {document : Json} {id : ObjectId} (h : Document.id document = .ok id) :
    ∃ t, Document.typeMeta document = .ok t ∧ t.groupKind = id.groupKind ∧
      Document.name? document = some id.name ∧ (Document.namespace? document).getD "" = id.ns := by
  obtain ⟨gk, kind, named⟩ := bind_eq_ok.mp h
  obtain ⟨t, typed, rfl⟩ := map_eq_ok.mp kind
  split at named
  case h_1 name found =>
    cases named
    exact ⟨t, typed, rfl, found, rfl⟩
  case h_2 => cases named

end StatusWatch
