import StatusWatch.Proofs.Session.Judged
import StatusWatch.Proofs.StatusRules.Judges
import StatusWatch.Proofs.StatusRules.Known
import StatusWatch.Proofs.Watch.Fresh

/-!
The version that a watch reads a custom kind in. The catalog of the run gives way to the rules for
versions that both have, but its own first version stays the default; the rules have a mapping and
checks for what is read just if they know that version.
-/

namespace StatusWatch

namespace Watch

/-- What the events say of a resource's kind: that no object could be read, or what the rules say of
an object that the cluster gave for this resource. -/
def ReportsBy (rules : StatusRules) (cluster : Cluster σ) (r : Resource) (events : List Event) :
    Prop :=
  ∀ s, .update s ∈ events → s.id.groupKind = r.groupKind → (∃ e, s = .ofFailure s.id e) ∨
    ∃ object, cluster.Gives r object ∧ s = { Reading.alone rules.assess object with id := s.id }

variable {rules : StatusRules} {overrides : List Override} {r : Resource}

theorem reportsBy_run {cluster : Cluster σ}
    (typed : ∀ object, cluster.Gives r object →
      Document.typeMeta object = .ok ⟨r.group, r.version, r.kind⟩) {base : Catalog}
    (default : (base.merge rules.catalog).find? r.groupKind none = some r)
    (annotated : r.groupKind ∈ rules.kinds) (free : Override.find? overrides r.groupKind = none)
    (noWorkload :
      r.groupKind ∉ [Workload.deployment, Workload.replicaSet, Workload.statefulSet])
    (useSnapshot : Bool) (ids : List ObjectId) (reportUnchanged : Bool) (stop : Interruption)
    (n : Nat) (world : σ) :
    ReportsBy rules cluster r (((⟨.ofCluster cluster (planFor base (some rules) overrides)
      useSnapshot, ids, reportUnchanged⟩ : Watch σ).run stop n).run (.initial world)).2.events := by
  intro s mem ofKind
  obtain ⟨calls, read, computed, same⟩ := exists_fromCalls cluster _ _ _ _ _ _ _ mem
  rcases computed with ⟨e, rfl⟩ | ⟨object, ⟨found, resolved, returned⟩, made⟩
  · refine .inl ⟨e, ?_⟩
    rw [same]
    unfold ResourceStatus.ofFailure
    split <;> rfl
  · rw [ofKind] at resolved made
    have same' : found = r := Option.some.inj (resolved.symm.trans default)
    subst same'
    rw [manner_planFor annotated free noWorkload base] at made
    -- The reader looks for an override of the object's own kind, which is the kind that was asked for.
    have judged : read = Reading.alone rules.assess object := by
      have key := groupKind_idOrBlank (typed object returned.gives)
      change read = Reading.custom (some rules) overrides object at made
      unfold Reading.custom at made
      change (Document.idOrBlank object).groupKind = found.groupKind at key
      rwa [key, free] at made
    exact .inr ⟨object, returned.gives, judged ▸ same⟩

/-- An annotated kind is read in the version that the base catalog has for it, else in one of the
rules. The rules miss a mapping for what is read just if the base has a version of the kind that
they do not know. -/
theorem knows_default_iff {words : StatusCheck.Wording} {documents : List Json} {gk : GroupKind}
    (made : StatusRules.ofDocuments words documents = .ok rules) (annotated : gk ∈ rules.kinds)
    (base : Catalog) :
    ∃ r, (base.merge rules.catalog).find? gk none = some r ∧
      (rules.Knows gk r.version ↔ ∀ b, base.find? gk none = some b → rules.Knows gk b.version) ∧
      (∀ object, Document.typeMeta object = .ok ⟨r.group, r.version, r.kind⟩ →
        ((∃ kind, rules.assess object = .error (.noMapping kind)) ↔ ¬ rules.Knows gk r.version)) ∧
      ∀ {σ : Type} (cluster : Cluster σ) (overrides : List Override),
        (∀ object, cluster.Gives r object →
          Document.typeMeta object = .ok ⟨r.group, r.version, r.kind⟩) →
        Override.find? overrides gk = none →
        gk ∉ [Workload.deployment, Workload.replicaSet, Workload.statefulSet] →
        ∀ useSnapshot ids reportUnchanged stop n world,
          ReportsBy rules cluster r (((⟨.ofCluster cluster (planFor base (some rules) overrides)
            useSnapshot, ids, reportUnchanged⟩ : Watch σ).run stop n).run
              (.initial world)).2.events := by
  obtain ⟨own, ownDefault, known⟩ := StatusRules.exists_default made annotated
  have versions : ((base.merge rules.catalog).find? gk none).map Resource.version =
      ((base.find? gk none).map Resource.version).or (some own.version) := by
    have both := base.defaultVersion?_merge rules.catalog gk
    simpa only [Catalog.defaultVersion?, ownDefault, Option.map_some] using both
  obtain ⟨r, merged⟩ : ∃ r, (base.merge rules.catalog).find? gk none = some r := by
    rw [← Option.isSome_iff_exists, ← Option.isSome_map, versions, Option.isSome_or]
    exact Bool.or_true _
  have ofKind : r.groupKind = gk := Catalog.groupKind_of_default merged
  rw [merged, Option.map_some] at versions
  refine ⟨r, merged, ?_, fun object typed => ?_, fun cluster overrides typed free noWorkload => ?_⟩
  · cases found : base.find? gk none with
    | none =>
      rw [found] at versions
      have same : r.version = own.version := Option.some.inj versions
      rw [same]
      exact iff_of_true known fun _ none => by cases none
    | some b =>
      rw [found] at versions
      have same : r.version = b.version := Option.some.inj versions
      rw [same]
      exact ⟨fun knows c sameBase => Option.some.inj sameBase ▸ knows, fun all => all b rfl⟩
  · rw [StatusRules.noMapping_iff made typed]
    subst ofKind
    rfl
  · subst ofKind
    exact reportsBy_run typed merged annotated free noWorkload

/-- Widgets that the base catalog does not know are read in the version of the rules. -/
theorem knows_default_widgets :
    let words := StatusCheck.emptyText
    let documents := [thingDefinition "Widget" "widgets" "v1" "Stable"]
    let gk : GroupKind := ⟨"example.com", "Widget"⟩
    ∃ rules, StatusRules.ofDocuments words documents = .ok rules ∧ gk ∈ rules.kinds ∧
      ∃ r, (Catalog.builtin.merge rules.catalog).find? gk none = some r ∧
        rules.Knows gk r.version ∧
        ∀ object, Document.typeMeta object = .ok ⟨r.group, r.version, r.kind⟩ →
          ¬ ∃ kind, rules.assess object = .error (.noMapping kind) := by
  intro words documents gk
  let rules := StatusRules.ofDefinitions [thing "Widget" "widgets" "v1" "Stable"]
  have made : StatusRules.ofDocuments words documents = .ok rules := by decide +kernel
  have annotated : gk ∈ rules.kinds := by decide +kernel
  have new : Catalog.builtin.find? gk none = none := by decide +kernel
  obtain ⟨r, found, known, lost, -⟩ := knows_default_iff made annotated .builtin
  have knows : rules.Knows gk r.version := known.mpr fun b mem => by
    rw [new] at mem
    cases mem
  refine ⟨rules, made, annotated, r, found, knows, fun object typed unmapped => ?_⟩
  exact (lost object typed).mp unmapped knows

/-- Widgets that the base catalog knows in another version. -/
theorem not_knows_default_widgets :
    let words := StatusCheck.emptyText
    let documents := [thingDefinition "Widget" "widgets" "v1" "Stable"]
    let gk : GroupKind := ⟨"example.com", "Widget"⟩
    let base := Catalog.builtin.add ⟨"example.com", "v2", "Widget", "widgets", true⟩
    let id : ObjectId := ⟨gk, "w", "infra"⟩
    let world : Scripted := ⟨[stableThing "Widget" "v1", stableThing "Widget" "v2"], [], []⟩
    ∃ rules, StatusRules.ofDocuments words documents = .ok rules ∧ gk ∈ rules.kinds ∧
      ((base.merge rules.catalog).find? gk none).map Resource.version = some "v2" ∧
      ¬ rules.Knows gk "v2" ∧
      let w : Watch Scripted := ⟨.ofCluster .scripted (planFor base (some rules) []) true, [id], false⟩
      ((w.run never 1).run (.initial world)).2.events =
        [.update ⟨id, "Unknown", "no matches for kind \"Widget.example.com\"",
          some (.noMapping "Widget.example.com"), none, []⟩, .tickEnd] := by
  intro words documents gk base id world
  refine ⟨.ofDefinitions [thing "Widget" "widgets" "v1" "Stable"], by decide +kernel,
    by decide +kernel, by decide +kernel, ?_, ?_⟩
  · rintro ⟨r, registered, -⟩
    have unregistered : (StatusRules.ofDefinitions
        [thing "Widget" "widgets" "v1" "Stable"]).catalog.find? gk (some "v2") = none := by
      decide +kernel
    rw [unregistered] at registered
    cases registered
  · rfl

end Watch

end StatusWatch
