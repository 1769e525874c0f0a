import StatusWatch.Proofs.Snapshot.SideBySide
import StatusWatch.Proofs.Snapshot.Transcript

/-!
A snapshot over its lifetime. Three timeouts are passed over in all, however they are spread over
the passes; a pass fails just at the next one, or at a failure of another kind. It then leaves the
snapshot's holdings alone; otherwise it replaces them by what it has heard.
-/

namespace StatusWatch

namespace Snapshot

theorem mirrors_sync {R : σ → τ → Prop} {cluster : Cluster σ} {other : Cluster τ}
    (alike : cluster.Alike R other) (catalog : Catalog) (ids : List ObjectId) (s : Snapshot) :
    Mirrors R (s.sync cluster catalog ids) (s.sync other catalog ids) := by
  rw [sync_eq, sync_eq]
  exact (mirrors_visitAll alike catalog (placesFor ids) _).bind fun outcome => .pure _

variable {catalog : Catalog} {ids : List ObjectId} {heard : List Listed} {last : Pass}

theorem nodup_placesFor (ids : List ObjectId) : (placesFor ids).Nodup :=
  nodup_foldl_addNew List.nodup_nil _

/-- Holdings made of what a pass heard: what came back for a place, once for each place. -/
structure TakenFrom (catalog : Catalog) (ids : List ObjectId) (heard : List Listed)
    (holdings : List (Place × Holding)) : Prop where
  once : (holdings.map Prod.fst).Nodup
  unmapped : ∀ p, (p, .unmapped) ∈ holdings ↔
    p ∈ placesFor ids ∧ catalog.find? p.groupKind none = none
  returned : ∀ p objects, (p, .objects objects) ∈ holdings ↔
    ∃ l ∈ heard, l.place = p ∧ l.objects? = some objects
  lost : ∀ p, (catalog.find? p.groupKind none).isSome = true →
    (∀ l ∈ heard, l.place = p → l.timedOut = true) → ∀ h, (p, h) ∉ holdings
  /-- Only places of the identifiers are asked for, and all of them that are in the catalog. -/
  asked : ∀ l ∈ heard, ∃ named ∈ placesFor ids, l.For catalog named
  covered : ∀ named ∈ placesFor ids, (catalog.find? named.groupKind none).isSome = true →
    ∃ l ∈ heard, l.place = place catalog named.groupKind named.ns

theorem Transcript.takenFrom {timeouts : Nat}
    (t : Transcript catalog ⟨[], timeouts⟩ (placesFor ids) heard (.ok last)) :
    TakenFrom catalog ids heard last.found where
  once := t.nodup_found ⟨List.nodup_nil, fun _ _ _ => List.not_mem_nil⟩ (nodup_placesFor ids)
  unmapped p := by simp [t.mem_found]
  returned p objects := by
    simp only [t.mem_found, List.not_mem_nil, reduceCtorEq, false_and, false_or,
      Holding.objects.injEq]
    constructor
    · rintro ⟨l, mem, _, there, rfl, rfl⟩
      exact ⟨l, mem, rfl, there⟩
    · rintro ⟨l, mem, rfl, there⟩
      exact ⟨l, mem, objects, there, rfl, rfl⟩
  lost p mapped late h mem := by
    rcases t.mem_found.mp mem with before | ⟨-, -, unknown⟩ | ⟨l, now, objects, there, rfl, -⟩
    · cases before
    · rw [unknown] at mapped
      cases mapped
    · rw [Listed.objects?_of_timedOut (late l now rfl)] at there
      cases there
  asked l mem := t.exists_call mem
  covered named mem mapped := by
    rcases t.covers mem mapped with ⟨h, before⟩ | asked
    · cases before
    · exact asked

theorem exists_heard (cluster : Cluster σ) (catalog : Catalog) (ids : List ObjectId) (s : Snapshot)
    (world : σ) (earlier : List Listed) :
    let result := (s.sync cluster.heard catalog ids).run (world, earlier)
    ∃ heard outcome, result.2.2 = earlier ++ heard ∧ result.1 = s.replacedBy outcome ∧
      Transcript catalog ⟨[], s.timeouts⟩ (placesFor ids) heard outcome := by
  obtain ⟨heard, log, t⟩ :=
    exists_transcript cluster catalog (placesFor ids) ⟨[], s.timeouts⟩ (world, earlier)
  intro result
  have same : result = (do
      let outcome ← visitAll cluster.heard catalog ⟨[], s.timeouts⟩ (placesFor ids)
      pure (s.replacedBy outcome) : StateM _ _).run (world, earlier) :=
    congrArg (·.run (world, earlier)) (sync_eq cluster.heard catalog ids s)
  rw [same]
  exact ⟨heard, _, log, rfl, t⟩

section Replaced

variable (s : Snapshot) (outcome : Except (Error × Nat) Pass)

theorem replacedBy_eq_ok : (s.replacedBy outcome).1 = .ok () ↔ ∃ last, outcome = .ok last := by
  cases outcome with
  | ok last => exact iff_of_true rfl ⟨last, rfl⟩
  | error failure => exact iff_of_false nofun nofun

end Replaced

end Snapshot

end StatusWatch
