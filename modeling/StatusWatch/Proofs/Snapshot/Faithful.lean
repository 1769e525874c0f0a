import StatusWatch.Proofs.Settled

/-!
Snapshots of settled clusters. A pass never fails there, and the snapshot it leaves holds under each
place what the cluster holds in it; so its view serves the cluster as the direct one does, places
that it lacks included.
-/

namespace StatusWatch

theorem Resource.namespaceFor_ne_empty (r : Resource) (ns : String) :
    r.namespaceFor ns ≠ some "" := by
  unfold namespaceFor defaultNamespace
  split
  · exact nofun
  · split <;> simp_all

/-- A kind has no namespaces, or none that is empty: the place tells them apart. -/
theorem Resource.namespaceFor_inj {r : Resource} {a b : String}
    (h : (r.namespaceFor a).getD "" = (r.namespaceFor b).getD "") :
    r.namespaceFor a = r.namespaceFor b := by
  have ha := r.namespaceFor_ne_empty a
  have hb := r.namespaceFor_ne_empty b
  cases left : r.namespaceFor a <;> cases right : r.namespaceFor b <;> simp_all

namespace Snapshot

variable {cluster : Cluster σ} {I : σ → Prop} {catalog : Catalog} {held : Holdings}

theorem place_of_find? {gk : GroupKind} {r : Resource} (h : catalog.find? gk none = some r)
    (ns : String) : place catalog gk ns = ⟨gk, (r.namespaceFor ns).getD ""⟩ := by
  rw [place, h]

theorem place_groupKind (catalog : Catalog) (gk : GroupKind) (ns : String) :
    (place catalog gk ns).groupKind = gk := by
  unfold place
  split <;> rfl

def heldAt (catalog : Catalog) (held : Holdings) (gk : GroupKind) (ns : String) : Holding :=
  match catalog.find? gk none with
  | some r => .objects (held r (r.namespaceFor ns))
  | none => .unmapped

/-- What was found is what is held, for every way to name a place. -/
def Faithful (catalog : Catalog) (held : Holdings) (found : List (Place × Holding)) : Prop :=
  ∀ gk ns h, found.lookup (place catalog gk ns) = some h → h = heldAt catalog held gk ns

theorem faithful_nil : Faithful catalog held [] := nofun

theorem heldAt_congr {gk other : GroupKind} {ns ns' : String}
    (h : place catalog gk ns = place catalog other ns') :
    heldAt catalog held gk ns = heldAt catalog held other ns' := by
  have same : gk = other := by
    rw [← place_groupKind catalog gk ns, h, place_groupKind]
  subst same
  unfold heldAt
  cases found : catalog.find? gk none with
  | none => rfl
  | some r =>
    rw [place_of_find? found, place_of_find? found, Place.mk.injEq] at h
    simp only [Resource.namespaceFor_inj h.2]

theorem Faithful.record {pass : Pass} (faithful : Faithful catalog held pass.found)
    (gk : GroupKind) (ns : String) :
    Faithful catalog held
      (pass.record (place catalog gk ns) (heldAt catalog held gk ns)).found := by
  intro other ns' h found
  rw [Pass.record, List.lookup_append, Option.or_eq_some_iff] at found
  rcases found with before | ⟨-, now⟩
  · exact faithful other ns' h before
  · by_cases same : place catalog other ns' = place catalog gk ns
    · rw [same, List.lookup_cons_self, Option.some.injEq] at now
      rw [← now]
      exact heldAt_congr same.symm
    · rw [List.lookup_cons, beq_false_of_ne same] at now
      cases now

theorem yields_visit (settled : cluster.Settled I held) {pass : Pass}
    (faithful : Faithful catalog held pass.found) (named : Place) :
    ∃ next, Yields I (visit cluster catalog pass named) (.ok next) ∧
      Faithful catalog held next.found := by
  obtain ⟨gk, ns⟩ := named
  have recorded := faithful.record gk ns
  unfold visit
  cases found : catalog.find? gk none with
  | none =>
    simp only [place, heldAt, found] at recorded
    exact ⟨_, .pure _, recorded⟩
  | some r =>
    simp only [heldAt, place_of_find? found, found] at recorded
    by_cases visited : (pass.found.lookup ⟨gk, (r.namespaceFor ns).getD ""⟩).isSome = true
    · simp only [visited, if_true]
      exact ⟨pass, .pure _, faithful⟩
    · simp only [visited]
      exact ⟨_, (settled.list r _).bind (.pure _), recorded⟩

theorem yields_visitAll (settled : cluster.Settled I held) (places : List Place) {pass : Pass}
    (faithful : Faithful catalog held pass.found) :
    ∃ last, Yields I (visitAll cluster catalog pass places) (.ok last) ∧
      Faithful catalog held last.found := by
  induction places generalizing pass with
  | nil => exact ⟨pass, .pure _, faithful⟩
  | cons p rest ih =>
    obtain ⟨next, visited, faithful⟩ := yields_visit settled faithful p
    obtain ⟨last, others, faithful⟩ := ih faithful
    exact ⟨last, visited.bind others, faithful⟩

theorem yields_sync (settled : cluster.Settled I held) (catalog : Catalog) (ids : List ObjectId)
    (s : Snapshot) :
    ∃ taken, Yields I (s.sync cluster catalog ids) (.ok (), taken) ∧
      Faithful catalog held taken.holdings := by
  have start : Faithful catalog held (Pass.mk [] s.timeouts).found := faithful_nil
  obtain ⟨last, visited, faithful⟩ := yields_visitAll settled (placesFor ids) start
  exact ⟨⟨last.found, last.timeouts⟩, visited.bind (.pure _), faithful⟩

/-- What a snapshot answers of a place, if it is faithful: the objects in it, if its kind is in the
catalog. -/
theorem Faithful.held?_eq {s : Snapshot} (faithful : Faithful catalog held s.holdings)
    {gk : GroupKind} {ns : String} {answer : Except Error (List Json)}
    (h : s.held? (place catalog gk ns) = some answer) :
    answer = (catalog.resolve gk none).map fun r => held r (r.namespaceFor ns) := by
  unfold held? at h
  cases looked : s.holdings.lookup (place catalog gk ns) with
  | none => simp [looked] at h
  | some holding =>
    rw [faithful gk ns holding looked] at looked
    rw [looked, place_groupKind] at h
    unfold heldAt at h
    unfold Catalog.resolve
    cases found : catalog.find? gk none with
    | none => simpa [found, Except.map] using h.symm
    | some r => simpa [found, Except.map] using h.symm

theorem Faithful.view_serves {s : Snapshot} (faithful : Faithful catalog held s.holdings)
    (settled : cluster.Settled I held) : (s.view cluster catalog).Serves I catalog held where
  list gk ns selector := by
    simp only [view]
    cases known : s.held? (place catalog gk ns) with
    | none => exact (View.direct_serves settled catalog).list gk ns selector
    | some answer =>
      rw [faithful.held?_eq known]
      cases catalog.resolve gk none <;> exact Yields.pure _
  get gk r ns name world resolved start := by
    simp only [view]
    cases known : s.held? (place catalog gk ns) with
    | none => exact (View.direct_serves settled catalog).get gk r ns name world resolved start
    | some answer =>
      rw [faithful.held?_eq known, resolved]
      exact ⟨finds_named gk name _, start⟩

end Snapshot

end StatusWatch
