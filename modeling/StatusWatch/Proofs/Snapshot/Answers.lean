import StatusWatch.Proofs.Snapshot.Lifetime
import StatusWatch.Proofs.Success

/-!
What a snapshot answers by itself. Behind a pass in which no list timed out, all that the identifiers
need is held under the place that a reader looks it up at, however the namespace is given.
-/

namespace StatusWatch.Snapshot

/-- What a pass has to say about a kind in a namespace: what a call for them returned, or that the
kind is not in the catalog. -/
inductive Tells (catalog : Catalog) (heard : List Listed) (gk : GroupKind) (ns : String) :
    Except Error (List Json) → Prop
  | unmapped (unknown : catalog.find? gk none = none) :
      Tells catalog heard gk ns (.error (.noMapping gk.toText))
  | returned {l : Listed} {objects : List Json} (mem : l ∈ heard) (call : l.For catalog ⟨gk, ns⟩)
      (there : l.objects? = some objects) : Tells catalog heard gk ns (.ok objects)

/-- What one who asks for a name gets of an answer: the first object that has it, or that there is
none. -/
inductive Named (gk : GroupKind) (name : String) :
    Except Error (List Json) → Except Error Json → Prop
  | found {before after : List Json} {object : Json} (own : Document.name? object = some name)
      (first : ∀ other ∈ before, Document.name? other ≠ some name) :
      Named gk name (.ok (before ++ object :: after)) (.ok object)
  | absent {objects : List Json} (none : ∀ object ∈ objects, Document.name? object ≠ some name) :
      Named gk name (.ok objects) (.error (.notFound gk.toText name))
  | failed (e : Error) : Named gk name (.error e) (.error e)

/-- What one who asks by a selector gets of an answer: all objects that it picks, in their order. -/
inductive Picked (selector : Option Selector) :
    Except Error (List Json) → Except Error (List Json) → Prop
  | objects (objects : List Json) : Picked selector (.ok objects)
      (.ok (objects.filter fun o => ∀ s ∈ selector, s.holds (Document.labels o) = true))
  | failed (e : Error) : Picked selector (.error e) (.error e)

theorem named_answer (gk : GroupKind) (name : String) (answer : Except Error (List Json)) :
    Named gk name answer (answer >>= named gk name) := by
  cases answer with
  | error e => exact .failed e
  | ok objects =>
    rw [ok_bind, named]
    cases sought : objects.find? fun o => Document.name? o = some name with
    | none =>
      refine .absent fun object mem own => ?_
      exact List.find?_eq_none.mp sought object mem (decide_eq_true own)
    | some object =>
      obtain ⟨own, before, after, rfl, first⟩ := List.find?_eq_some_iff_append.mp sought
      refine .found (of_decide_eq_true own) fun other mem => ?_
      simpa using first other mem

theorem picked_answer (selector : Option Selector) (answer : Except Error (List Json)) :
    Picked selector answer (answer.map (pick selector)) := by
  cases answer with
  | error e => exact .failed e
  | ok objects =>
    have same : pick selector objects =
        objects.filter fun o => ∀ s ∈ selector, s.holds (Document.labels o) = true := by
      cases selector <;> simp [pick]
    change Picked selector _ (.ok (pick selector objects))
    rw [same]
    exact .objects objects

variable {catalog : Catalog} {ids : List ObjectId} {heard : List Listed} {s : Snapshot} {l : Listed}
  {gk : GroupKind} {ns : String}

theorem mem_placesFor {id : ObjectId} (mem : id ∈ ids)
    (needed : gk ∈ id.groupKind :: Workload.generatedKinds id.groupKind) :
    ⟨gk, id.ns⟩ ∈ placesFor ids := by
  have named : (⟨gk, id.ns⟩ : Place) ∈ ids.flatMap fun id =>
      (id.groupKind :: Workload.generatedKinds id.groupKind).map fun gk => ⟨gk, id.ns⟩ :=
    List.mem_flatMap.mpr ⟨id, mem, List.mem_map_of_mem needed⟩
  have kept := foldl_addNew (ids.flatMap fun id =>
    (id.groupKind :: Workload.generatedKinds id.groupKind).map fun gk => (⟨gk, id.ns⟩ : Place)) []
  change (⟨gk, id.ns⟩ : Place) ∈ List.foldl addNew [] _
  rw [kept]
  simpa using named

theorem for_of_place_eq {named : Place} (call : l.For catalog named)
    (same : l.place = place catalog gk ns) : l.For catalog ⟨gk, ns⟩ := by
  have kind : named.groupKind = gk := by
    rw [← place_groupKind catalog gk ns, ← same, call.place_eq, place_groupKind]
  have found : catalog.find? gk none = some l.resource := kind ▸ call.found
  refine ⟨found, ?_⟩
  rw [place_of_find? found, Listed.place, Place.mk.injEq, call.ns] at same
  rw [call.ns]
  exact Resource.namespaceFor_inj same.2

theorem TakenFrom.held?_tells (taken : TakenFrom catalog ids heard s.holdings) {h : Holding}
    (held : (place catalog gk ns, h) ∈ s.holdings) :
    ∃ answer, s.held? (place catalog gk ns) = some answer ∧ Tells catalog heard gk ns answer := by
  obtain ⟨found, looked⟩ := exists_lookup_of_mem held
  have mem := mem_of_lookup_eq_some looked
  cases found with
  | objects objects =>
    obtain ⟨l, heard, same, there⟩ := (taken.returned _ objects).mp mem
    obtain ⟨named, -, call⟩ := taken.asked l heard
    exact ⟨.ok objects, by rw [held?, looked], .returned heard (for_of_place_eq call same) there⟩
  | unmapped =>
    obtain ⟨-, unknown⟩ := (taken.unmapped _).mp mem
    rw [place_groupKind] at unknown
    exact ⟨_, by rw [held?, looked, place_groupKind], .unmapped unknown⟩

theorem TakenFrom.exists_held (taken : TakenFrom catalog ids heard s.holdings)
    (there : ∀ l ∈ heard, ∃ objects, l.objects? = some objects) (named : ⟨gk, ns⟩ ∈ placesFor ids) :
    ∃ h, (place catalog gk ns, h) ∈ s.holdings := by
  cases known : catalog.find? gk none with
  | none =>
    have bare : place catalog gk ns = ⟨gk, ns⟩ := by rw [place, known]
    exact ⟨.unmapped, (taken.unmapped _).mpr ⟨by rwa [bare], by rwa [bare]⟩⟩
  | some r =>
    obtain ⟨l, mem, same⟩ := taken.covered ⟨gk, ns⟩ named (Option.isSome_of_eq_some known)
    obtain ⟨objects, back⟩ := there l mem
    exact ⟨.objects objects, (taken.returned _ objects).mpr ⟨l, mem, same, back⟩⟩

/-- A pass that succeeds gets over every call, and only timeouts leave nothing. -/
theorem Transcript.exists_objects {pass last : Pass} {places : List Place}
    (t : Transcript catalog pass places heard (.ok last)) (mem : l ∈ heard)
    (punctual : l.timedOut = false) : ∃ objects, l.objects? = some objects := by
  obtain ⟨before, after, split⟩ := List.append_of_mem mem
  have goesOn : ¬l.EndsPass (pass.timeouts + timeoutsIn before) := by
    intro ends
    obtain ⟨-, e, n, failed, -⟩ := t.stops split ends
    cases failed
  cases answer : l.answer with
  | ok objects => exact ⟨objects, by rw [Listed.objects?, answer]⟩
  | error e =>
    by_cases absent : e.Absent
    · exact ⟨[], by simp [Listed.objects?, answer, absent]⟩
    · have notLate : ¬ e.Late := by simpa [Listed.timedOut, answer, absent] using punctual
      exact absurd ⟨e, answer, absent, fun late => absurd late notLate⟩ goesOn

theorem view_of_held {cluster : Cluster σ} {answer : Except Error (List Json)}
    (held : s.held? (place catalog gk ns) = some answer) :
    (∀ name, (s.view cluster catalog).get gk ns name = pure (answer >>= named gk name)) ∧
      ∀ selector, (s.view cluster catalog).list gk ns selector = pure (answer.map (pick selector)) := by
  simp only [view, held]
  cases answer with
  | ok objects => exact ⟨fun name => rfl, fun selector => rfl⟩
  | error e => exact ⟨fun name => rfl, fun selector => rfl⟩

/-- Behind a pass that succeeds and in which no list timed out, every look-up of a kind that an
identifier needs, in its namespace as given, is answered from what that pass heard: by the object of
a name, or by those that a selector picks. No cluster has a part in the answer. -/
theorem answered_from_pass (cluster : Cluster σ) (catalog : Catalog) (ids : List ObjectId)
    (s : Snapshot) (world : σ) :
    let result := (s.sync cluster.heard catalog ids).run (world, [])
    result.1.1 = .ok () → (∀ l ∈ result.2.2, l.timedOut = false) →
      ∀ id ∈ ids, ∀ gk ∈ id.groupKind :: Workload.generatedKinds id.groupKind,
        ∃ answer, Tells catalog result.2.2 gk id.ns answer ∧
          ∀ {τ : Type} (later : Cluster τ),
            (∀ name, ∃ found, Named gk name answer found ∧
              (result.1.2.view later catalog).get gk id.ns name = pure found) ∧
            ∀ selector, ∃ found, Picked selector answer found ∧
              (result.1.2.view later catalog).list gk id.ns selector = pure found := by
  intro result ok punctual id mem gk needed
  obtain ⟨heard, outcome, log, left, t⟩ := exists_heard cluster catalog ids s world []
  have log : result.2.2 = heard := log
  have left : result.1 = s.replacedBy outcome := left
  rw [left, replacedBy_eq_ok] at ok
  obtain ⟨last, rfl⟩ := ok
  rw [log] at punctual ⊢
  have taken : TakenFrom catalog ids heard result.1.2.holdings := left ▸ t.takenFrom
  have there (l : Listed) (mem : l ∈ heard) := t.exists_objects mem (punctual l mem)
  obtain ⟨h, held⟩ := taken.exists_held there (mem_placesFor mem needed)
  obtain ⟨answer, known, tells⟩ := taken.held?_tells held
  refine ⟨answer, tells, fun later => ⟨fun name => ?_, fun selector => ?_⟩⟩
  · exact ⟨_, named_answer gk name answer, (view_of_held known).1 name⟩
  · exact ⟨_, picked_answer selector answer, (view_of_held known).2 selector⟩

/-- The pods of a deployment without a namespace, behind a list of replica sets that was not found; a
node that is given a namespace and a kind that is not in the catalog were named before. -/
theorem answered_from_pass_deployment :
    let node : ObjectId := ⟨⟨"", "Node"⟩, "n", "infra"⟩
    let thing : ObjectId := ⟨⟨"example.com", "Thing"⟩, "t", "infra"⟩
    let web : ObjectId := ⟨Workload.deployment, "web", ""⟩
    let pod (name app : String) : Json := .object [("apiVersion", .str "v1"), ("kind", .str "Pod"),
      ("metadata", .object [("name", .str name), ("namespace", .str "default"),
        ("labels", .object [("app", .str app)])])]
    let ofWeb : Selector := ⟨some [("app", "web")], none⟩
    let world : Scripted :=
      ⟨[pod "db-0" "db", pod "web-0" "web"], [], [⟨"ReplicaSet", .notFound "ReplicaSet" ""⟩]⟩
    let result := (empty.sync Cluster.scripted.heard .builtin [node, thing, web]).run (world, [])
    result.1.1 = .ok () ∧ (∀ l ∈ result.2.2, l.timedOut = false) ∧
      web ∈ [node, thing, web] ∧
      Workload.pod ∈ web.groupKind :: Workload.generatedKinds web.groupKind ∧
      ∃ answer, Tells .builtin result.2.2 Workload.pod "" answer ∧
        ∀ {τ : Type} (later : Cluster τ),
          ((∀ name, ∃ found, Named Workload.pod name answer found ∧
              (result.1.2.view later .builtin).get Workload.pod "" name = pure found) ∧
            ∀ selector, ∃ found, Picked selector answer found ∧
              (result.1.2.view later .builtin).list Workload.pod "" selector = pure found) ∧
          (result.1.2.view later .builtin).get Workload.pod "" "web-0" =
            pure (.ok (pod "web-0" "web")) ∧
          (result.1.2.view later .builtin).get Workload.pod "" "web-1" =
            pure (.error (.notFound "Pod" "web-1")) ∧
          (result.1.2.view later .builtin).list Workload.pod "" (some ofWeb) =
            pure (.ok [pod "web-0" "web"]) := by
  intro node thing web pod ofWeb world result
  have ok : result.1.1 = .ok () := by decide +kernel
  have punctual : ∀ l ∈ result.2.2, l.timedOut = false := by decide +kernel
  have third : web ∈ [node, thing, web] := by decide
  have needed : Workload.pod ∈ web.groupKind :: Workload.generatedKinds web.groupKind := by decide
  obtain ⟨answer, tells, answered⟩ := answered_from_pass .scripted .builtin [node, thing, web] empty
    world ok punctual web third Workload.pod needed
  exact ⟨ok, punctual, third, needed, answer, tells, fun later => ⟨answered later, rfl, rfl, rfl⟩⟩

end StatusWatch.Snapshot
