import Mathlib.Data.List.Count
import StatusWatch.Proofs.Snapshot.Lifetime

/-!
How often a pass asks for one place. What has come back is not asked for again, so a place is listed
once, unless a timeout leaves nothing behind and the identifiers name the place in another way too.
-/

namespace StatusWatch

theorem Cluster.heard_answers {P : Listed → Prop} (cluster : Cluster σ)
    (answers : ∀ r ns world, P ⟨r, ns, ((cluster.list r ns).run world).1⟩) :
    Alike (fun world twin => world = twin ∧ ∀ l ∈ world.2, P l) cluster.heard cluster.heard where
  get r ns name := by
    rintro ⟨s, log⟩ _ ⟨rfl, earlier⟩
    exact ⟨rfl, rfl, earlier⟩
  list r ns := by
    rintro ⟨s, log⟩ _ ⟨rfl, earlier⟩
    refine ⟨rfl, rfl, fun l mem => ?_⟩
    rcases List.mem_append.mp mem with old | new
    · exact earlier l old
    · rw [List.mem_singleton.mp new]
      exact answers r ns s

/-- A cluster without objects, in which the lists for one place run out of time. -/
def Cluster.lateAt (late : Place) : Cluster Unit where
  get r _ name := pure (.error (.notFound r.kind name))
  list r ns := pure (if (⟨r.groupKind, ns.getD ""⟩ : Place) = late then .error (.timeout r.plural) else .ok [])

namespace Snapshot

def listed (s : Snapshot) (cluster : Cluster σ) (catalog : Catalog) (ids : List ObjectId) (world : σ) :
    List Listed :=
  ((s.sync cluster.heard catalog ids).run (world, [])).2.2

def resolved (catalog : Catalog) (named : List Place) : List Place :=
  named.filterMap fun p =>
    (catalog.find? p.groupKind none).map fun r => ⟨p.groupKind, (r.namespaceFor p.ns).getD ""⟩

variable {catalog : Catalog} {pass next last : Pass} {named p : Place} {places : List Place}
  {l : Listed} {here : Option Listed} {heard : List Listed} {outcome : Except (Error × Nat) Pass}

theorem resolved_cons_of_none (unknown : catalog.find? named.groupKind none = none)
    (places : List Place) : resolved catalog (named :: places) = resolved catalog places := by
  simp [resolved, unknown]

theorem resolved_cons_of_some (known : (catalog.find? named.groupKind none).isSome = true)
    (places : List Place) :
    resolved catalog (named :: places) =
      place catalog named.groupKind named.ns :: resolved catalog places := by
  obtain ⟨r, found⟩ := Option.isSome_iff_exists.mp known
  simp [resolved, found, place_of_find? found]

theorem resolved_cons_of_call (call : l.For catalog named) (places : List Place) :
    resolved catalog (named :: places) = l.place :: resolved catalog places := by
  rw [call.place_eq]
  exact resolved_cons_of_some (by rw [call.found]; rfl) places

theorem Visit.new (visit : Visit catalog pass named (some l) outcome) :
    pass.found.lookup l.place = none := by
  cases visit <;> assumption

theorem Visit.still_held (visit : Visit catalog pass named here (.ok next))
    (held : (pass.found.lookup p).isSome = true) : (next.found.lookup p).isSome = true := by
  obtain ⟨h, before⟩ := Option.isSome_iff_exists.mp held
  cases visit with
  | unmapped => simp [Pass.record, List.lookup_append, before]
  | known => exact held
  | recorded => simp [Pass.record, List.lookup_append, before]
  | passedOver => exact held

theorem Visit.held_or_timedOut (visit : Visit catalog pass named (some l) (.ok next)) :
    (next.found.lookup l.place).isSome = true ∨ l.timedOut = true := by
  cases visit with
  | recorded call new => exact .inl (by simp [Pass.record, List.lookup_append, new])
  | passedOver _ _ late => exact .inr late

theorem Transcript.not_asked_of_held (t : Transcript catalog pass places heard outcome)
    (held : (pass.found.lookup p).isSome = true) (mem : l ∈ heard) : l.place ≠ p := by
  intro same
  have asked_new {pass : Pass} {named : Place} {outcome : Except (Error × Nat) Pass}
      (visit : Visit catalog pass named (some l) outcome)
      (held : (pass.found.lookup p).isSome = true) : False := by
    rw [← same, visit.new] at held
    cases held
  induction t with
  | done => cases mem
  | step visit _ ih =>
    rcases List.mem_append.mp mem with now | later
    · cases Option.mem_toList.mp now
      exact asked_new visit held
    · exact ih (visit.still_held held) later
  | stop visit =>
    cases Option.mem_toList.mp mem
    exact asked_new visit held

theorem Transcript.timedOut_of_again (t : Transcript catalog pass places heard outcome)
    {before after : List Listed} (split : heard = before ++ l :: after)
    (again : ∃ m ∈ after, m.place = l.place) : l.timedOut = true := by
  obtain ⟨m, mem, same⟩ := again
  induction t generalizing before with
  | done => cases before <;> cases split
  | @step _ _ _ _ here _ _ visit rest ih =>
    cases here with
    | none => exact ih split
    | some first =>
      cases before with
      | nil =>
        cases split
        rcases visit.held_or_timedOut with held | late
        · exact absurd same (rest.not_asked_of_held held mem)
        · exact late
      | cons _ before =>
        cases split
        exact ih rfl
  | @stop _ _ _ here _ visit =>
    cases here with
    | none => cases before <;> cases split
    | some first =>
      cases before with
      | nil =>
        cases split
        cases mem
      | cons _ before => cases before <;> cases split

theorem nodup_of_timedOut (apart : ∀ before l after, heard = before ++ l :: after →
    (∃ m ∈ after, m.place = l.place) → False) : (heard.map Listed.place).Nodup := by
  induction heard with
  | nil => exact List.nodup_nil
  | cons l rest ih =>
    rw [List.map_cons, List.nodup_cons]
    constructor
    · intro mem
      obtain ⟨m, later, same⟩ := List.mem_map.mp mem
      exact apart [] l rest rfl ⟨m, later, same⟩
    · exact ih fun before l after split => apart (_ :: before) l after (congrArg _ split)

/-- Behind three timeouts no other one is passed over, so nothing is asked for again. -/
theorem Transcript.nodup_of_many (t : Transcript catalog pass places heard outcome)
    (many : 3 ≤ pass.timeouts) : (heard.map Listed.place).Nodup := by
  refine nodup_of_timedOut fun before l after split again => ?_
  have late := t.timedOut_of_again split again
  have ends : l.EndsPass (pass.timeouts + timeoutsIn before) :=
    (Listed.endsPass_iff_of_timedOut late).mpr (by omega)
  obtain ⟨rfl, -⟩ := t.stops split ends
  obtain ⟨_, mem, -⟩ := again
  cases mem

theorem Transcript.sublist_resolved (t : Transcript catalog pass places heard outcome) :
    (heard.map Listed.place).Sublist (resolved catalog places) := by
  induction t with
  | done => exact List.nil_sublist _
  | @step _ _ named places here _ _ visit _ ih =>
    cases here with
    | none => exact ih.trans ((List.sublist_cons_self named places).filterMap _)
    | some l =>
      rw [resolved_cons_of_call visit.call]
      exact ih.cons_cons l.place
  | @stop _ named places here _ visit =>
    cases here with
    | none => exact List.nil_sublist _
    | some l =>
      rw [resolved_cons_of_call visit.call]
      exact (List.nil_sublist _).cons_cons l.place

theorem mem_resolved_isSome (mem : p ∈ resolved catalog places) :
    (catalog.find? p.groupKind none).isSome = true := by
  obtain ⟨named, -, made⟩ := List.mem_filterMap.mp mem
  obtain ⟨r, found, rfl⟩ := Option.map_eq_some_iff.mp made
  exact Option.isSome_of_eq_some found

theorem Transcript.count_of_late (t : Transcript catalog pass places heard (.ok last))
    (mapped : (catalog.find? p.groupKind none).isSome = true) (new : pass.found.lookup p = none)
    (late : ∀ l ∈ heard, l.place = p → l.timedOut = true) :
    (heard.map Listed.place).count p = (resolved catalog places).count p := by
  generalize ended : Except.ok last = outcome at t
  induction t with
  | done => rfl
  | @step pass next named places here heard _ visit _ ih =>
    have later : ∀ l ∈ heard, l.place = p → l.timedOut = true :=
      fun l mem => late l (List.mem_append_right _ mem)
    cases visit with
    | unmapped unknown =>
      have apart : p ≠ named := by
        rintro rfl
        rw [unknown] at mapped
        cases mapped
      have still : (pass.record named .unmapped).found.lookup p = none := by
        simp [Pass.record, List.lookup_append, new, List.lookup_cons, beq_false_of_ne apart]
      rw [resolved_cons_of_none unknown]
      exact ih still later ended
    | known known held =>
      have apart : place catalog named.groupKind named.ns ≠ p := by
        intro same
        rw [same, new] at held
        cases held
      rw [resolved_cons_of_some known, List.count_cons_of_ne apart]
      exact ih new later ended
    | @recorded l objects call _ there =>
      have apart : l.place ≠ p := by
        intro same
        have timedOut := late l List.mem_cons_self same
        rw [Listed.timedOut_of_objects? there] at timedOut
        cases timedOut
      have still : (pass.record l.place (.objects objects)).found.lookup p = none := by
        simp [Pass.record, List.lookup_append, new, List.lookup_cons, beq_false_of_ne apart.symm]
      rw [resolved_cons_of_call call]
      simp [List.count_cons_of_ne apart, ih still later ended]
    | passedOver call =>
      rw [resolved_cons_of_call call]
      simp [List.count_cons, ih new later ended]
  | stop => cases ended

theorem lateAt_answers (late : Place) (r : Resource) (ns : Option String) (world : Unit) :
    let l : Listed := ⟨r, ns, (((Cluster.lateAt late).list r ns).run world).1⟩
    if l.place = late then l.timedOut = true else l.objects? = some [] := by
  intro l
  have answer : l.answer = if l.place = late then .error (.timeout r.plural) else .ok [] := rfl
  split
  case isTrue here =>
    rw [if_pos here] at answer
    rw [Listed.timedOut, answer]
    rfl
  case isFalse elsewhere =>
    rw [if_neg elsewhere] at answer
    rw [Listed.objects?, answer]

theorem listed_lateAt (s : Snapshot) (ids : List ObjectId) :
    ∀ l ∈ s.listed (.lateAt p) catalog ids (),
      if l.place = p then l.timedOut = true else l.objects? = some [] :=
  have same := mirrors_sync ((Cluster.lateAt p).heard_answers (lateAt_answers p)) catalog ids s
  (same ((), []) ((), []) ⟨rfl, nofun⟩).2.2

theorem exists_listed (cluster : Cluster σ) (catalog : Catalog) (ids : List ObjectId) (s : Snapshot)
    (world : σ) :
    ∃ outcome, Transcript catalog ⟨[], s.timeouts⟩ (placesFor ids)
      (s.listed cluster catalog ids world) outcome := by
  obtain ⟨heard, outcome, log, -, t⟩ := exists_heard cluster catalog ids s world []
  have same : s.listed cluster catalog ids world = heard := log
  exact ⟨outcome, same ▸ t⟩

theorem not_nodup_listed_lateAt {s : Snapshot} {ids : List ObjectId} (few : s.timeouts < 3)
    (twice : 2 ≤ (resolved catalog (placesFor ids)).count p) :
    ¬((s.listed (.lateAt p) catalog ids ()).map Listed.place).Nodup := by
  intro once
  obtain ⟨outcome, t⟩ := exists_listed (.lateAt p) catalog ids s ()
  have answers := @listed_lateAt catalog p s ids
  generalize s.listed (.lateAt p) catalog ids () = heard at once t answers
  have late : ∀ l ∈ heard, l.place = p → l.timedOut = true := by
    intro l mem here
    simpa [here] using answers l mem
  have there : ∀ l ∈ heard, l.place ≠ p → l.objects? = some [] := by
    intro l mem elsewhere
    simpa [elsewhere] using answers l mem
  have named : p ∈ resolved catalog (placesFor ids) := List.count_pos_iff.mp (Nat.zero_lt_of_lt twice)
  have mapped := mem_resolved_isSome named
  cases outcome with
  | ok last =>
    have asked := t.count_of_late mapped rfl late
    have single := List.nodup_iff_count_le_one.mp once p
    omega
  | error failure =>
    -- It takes three timeouts to end the pass, but only the last call was for the place.
    obtain ⟨before, l, rfl, -, ends⟩ := t.ends
    have here : l.place = p := by
      by_contra elsewhere
      exact Listed.not_endsPass_of_objects? (there l (by simp) elsewhere) ends
    have earlier : timeoutsIn before = 0 := by
      refine List.countP_eq_zero.mpr fun m mem timedOut => ?_
      have elsewhere : m.place ≠ p := by
        intro same
        simp only [List.map_append, List.map_cons, List.map_nil] at once
        exact List.disjoint_of_nodup_append once (List.mem_map_of_mem mem)
          (List.mem_singleton.mpr (same.trans here.symm))
      rw [Listed.timedOut_of_objects? (there m (List.mem_append_left _ mem) elsewhere)] at timedOut
      cases timedOut
    rw [Listed.endsPass_iff_of_timedOut (late l (by simp) here), earlier] at ends
    exact absurd ends (Nat.not_le.mpr few)

/-- A pass lists no place twice, whatever the cluster answers, just if the identifiers name each
place of the catalog once, or three timeouts have been passed over already. In any pass a place is
listed again only behind a list of it that timed out, and only under another name. -/
theorem listed_once_iff (catalog : Catalog) (ids : List ObjectId) (s : Snapshot) :
    ((∀ {σ : Type} (cluster : Cluster σ) (world : σ),
        ((s.listed cluster catalog ids world).map Listed.place).Nodup) ↔
      3 ≤ s.timeouts ∨ (resolved catalog (placesFor ids)).Nodup) ∧
    ∀ {σ : Type} (cluster : Cluster σ) (world : σ),
      ((s.listed cluster catalog ids world).map Listed.place).Sublist
          (resolved catalog (placesFor ids)) ∧
        ∀ before l after, s.listed cluster catalog ids world = before ++ l :: after →
          (∃ m ∈ after, m.place = l.place) → l.timedOut = true := by
  refine ⟨⟨fun once => ?_, fun enough σ cluster world => ?_⟩, fun cluster world => ?_⟩
  · by_contra neither
    obtain ⟨few, twice⟩ := not_or.mp neither
    obtain ⟨p, count⟩ : ∃ p, 2 ≤ (resolved catalog (placesFor ids)).count p := by
      simpa [List.nodup_iff_count_le_one, Nat.lt_iff_add_one_le] using twice
    exact not_nodup_listed_lateAt (Nat.not_le.mp few) count (once (.lateAt p) ())
  · obtain ⟨outcome, t⟩ := exists_listed cluster catalog ids s world
    rcases enough with many | distinct
    · exact t.nodup_of_many many
    · exact distinct.sublist t.sublist_resolved
  · obtain ⟨outcome, t⟩ := exists_listed cluster catalog ids s world
    exact ⟨t.sublist_resolved, fun before l after split again => t.timedOut_of_again split again⟩

/-- Two names of one place, the first list of which times out: the pass succeeds and lists it twice. -/
theorem not_listed_once_configMaps :
    let configMaps : GroupKind := ⟨"", "ConfigMap"⟩
    let ids : List ObjectId := [⟨configMaps, "a", ""⟩, ⟨configMaps, "b", "default"⟩]
    let world : Scripted := ⟨[], [], [⟨"ConfigMap", .timeout "list configmaps"⟩]⟩
    ((empty.sync .scripted .builtin ids).run world).1.1 = .ok () ∧
      (empty.listed .scripted .builtin ids world).map Listed.place =
        [⟨configMaps, "default"⟩, ⟨configMaps, "default"⟩] :=
  ⟨rfl, rfl⟩

end Snapshot

end StatusWatch
