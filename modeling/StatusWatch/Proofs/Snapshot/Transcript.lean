import StatusWatch.Proofs.Catalog
import StatusWatch.Proofs.Errors
import StatusWatch.Proofs.Keyed
import StatusWatch.Proofs.Snapshot.Faithful
import StatusWatch.Proofs.Snapshot.Visits

/-!
What a pass hears, answer by answer. A transcript tells a pass by the answers that it gets; from it
follow when a pass fails, what it has counted, and what it leaves.
-/

namespace StatusWatch

structure Listed where
  resource : Resource
  ns : Option String
  answer : Except Error (List Json)

namespace Listed

def place (l : Listed) : Place :=
  ⟨l.resource.groupKind, l.ns.getD ""⟩

/-- An absent collection is empty, also if the call ran out of time. -/
def objects? (l : Listed) : Option (List Json) :=
  match l.answer with
  | .ok objects => some objects
  | .error e => if e.Absent then some [] else none

def timedOut (l : Listed) : Bool :=
  match l.answer with
  | .ok _ => false
  | .error e => ¬ e.Absent ∧ e.Late

/-- The answer is a failure that a pass does not get over, behind so many timeouts. -/
def EndsPass (l : Listed) (timeouts : Nat) : Prop :=
  ∃ e, l.answer = .error e ∧ ¬ e.Absent ∧ (e.Late → 3 ≤ timeouts)

/-- The call for the objects of a place, in the version that the catalog gives by default. -/
structure For (l : Listed) (catalog : Catalog) (named : Place) : Prop where
  found : catalog.find? named.groupKind none = some l.resource
  ns : l.ns = l.resource.namespaceFor named.ns

end Listed

def timeoutsIn (heard : List Listed) : Nat :=
  heard.countP Listed.timedOut

def Cluster.heard (c : Cluster σ) : Cluster (σ × List Listed) where
  get r ns name := fun (s, log) =>
    let result := (c.get r ns name).run s
    (result.1, result.2, log)
  list r ns := fun (s, log) =>
    let result := (c.list r ns).run s
    (result.1, result.2, log ++ [⟨r, ns, result.1⟩])

namespace Listed

variable {l : Listed} {objects : List Json} {timeouts : Nat}

theorem timedOut_of_objects? (there : l.objects? = some objects) : l.timedOut = false := by
  unfold objects? at there
  unfold timedOut
  split at there
  case h_1 => rfl
  case h_2 e _ =>
    split at there
    case isTrue absent => simp [absent]
    case isFalse => cases there

theorem objects?_of_timedOut (late : l.timedOut = true) : l.objects? = none := by
  rw [Option.eq_none_iff_forall_not_mem]
  intro objects there
  rw [timedOut_of_objects? there] at late
  cases late

theorem not_endsPass_of_objects? (there : l.objects? = some objects) : ¬ l.EndsPass timeouts := by
  rintro ⟨e, failed, present, -⟩
  simp [objects?, failed, present] at there

theorem endsPass_iff_of_timedOut (late : l.timedOut = true) :
    l.EndsPass timeouts ↔ 3 ≤ timeouts := by
  unfold timedOut at late
  split at late
  case h_1 => cases late
  case h_2 e answer =>
    have late := of_decide_eq_true late
    constructor
    · rintro ⟨e', answer', -, many⟩
      cases answer.symm.trans answer'
      exact many late.2
    · exact fun many => ⟨e, answer, late.1, fun _ => many⟩

end Listed

theorem timeoutsIn_cons (l : Listed) (heard : List Listed) :
    timeoutsIn (l :: heard) = timeoutsIn [l] + timeoutsIn heard := by
  rw [← List.singleton_append, timeoutsIn, List.countP_append]
  rfl

theorem Listed.For.place_eq {l : Listed} {catalog : Catalog} {named : Place}
    (call : l.For catalog named) : l.place = Snapshot.place catalog named.groupKind named.ns := by
  have ofKind : l.resource.groupKind = named.groupKind := Catalog.groupKind_of_default call.found
  rw [Snapshot.place_of_find? call.found, place, ofKind, call.ns]

namespace Snapshot

inductive Visit (catalog : Catalog) (pass : Pass) (named : Place) :
    Option Listed → Except (Error × Nat) Pass → Prop
  | unmapped (unknown : catalog.find? named.groupKind none = none) :
      Visit catalog pass named none (.ok (pass.record named .unmapped))
  | known (mapped : (catalog.find? named.groupKind none).isSome = true)
      (held : (pass.found.lookup (place catalog named.groupKind named.ns)).isSome = true) :
      Visit catalog pass named none (.ok pass)
  | recorded {l : Listed} {objects : List Json} (call : l.For catalog named)
      (new : pass.found.lookup l.place = none) (there : l.objects? = some objects) :
      Visit catalog pass named l (.ok (pass.record l.place (.objects objects)))
  | passedOver {l : Listed} (call : l.For catalog named)
      (new : pass.found.lookup l.place = none) (timedOut : l.timedOut = true)
      (few : pass.timeouts < 3) :
      Visit catalog pass named l (.ok { pass with timeouts := pass.timeouts + 1 })
  | ended {l : Listed} {e : Error} (call : l.For catalog named)
      (new : pass.found.lookup l.place = none) (failed : l.answer = .error e)
      (ends : l.EndsPass pass.timeouts) :
      Visit catalog pass named l (.error (e, pass.timeouts + timeoutsIn [l]))

/-- Visits to places in order, with all that is heard on the way and how they end. -/
inductive Transcript (catalog : Catalog) :
    Pass → List Place → List Listed → Except (Error × Nat) Pass → Prop
  | done (pass : Pass) : Transcript catalog pass [] [] (.ok pass)
  | step {pass next : Pass} {named : Place} {places : List Place} {here : Option Listed}
      {heard : List Listed} {outcome : Except (Error × Nat) Pass}
      (visit : Visit catalog pass named here (.ok next))
      (rest : Transcript catalog next places heard outcome) :
      Transcript catalog pass (named :: places) (here.toList ++ heard) outcome
  | stop {pass : Pass} {named : Place} {places : List Place} {here : Option Listed}
      {failure : Error × Nat} (visit : Visit catalog pass named here (.error failure)) :
      Transcript catalog pass (named :: places) here.toList (.error failure)

variable {catalog : Catalog} {pass next last : Pass} {named : Place} {places : List Place}
  {l : Listed} {here : Option Listed} {heard : List Listed} {outcome : Except (Error × Nat) Pass}

theorem visit_of_heard (call : l.For catalog named) (new : pass.found.lookup l.place = none) :
    Visit catalog pass named l (pass.heard l.place l.answer) := by
  unfold Pass.heard
  split
  case h_1 objects answer => exact .recorded call new (by rw [Listed.objects?, answer])
  case h_2 e answer =>
    have timeouts : timeoutsIn [l] = if ¬ e.Absent ∧ e.Late then 1 else 0 := by
      simp [timeoutsIn, Listed.timedOut, answer]
    simp only [Error.isNotFound_iff, Error.isTimeout_iff]
    split
    case isTrue absent => exact .recorded call new (by simp [Listed.objects?, answer, absent])
    case isFalse there =>
      split
      case isTrue late =>
        rw [if_pos ⟨there, late⟩] at timeouts
        split
        case isTrue many =>
          have ended := Visit.ended call new answer ⟨e, answer, there, fun _ => Nat.lt_succ_iff.mp many⟩
          rwa [timeouts] at ended
        case isFalse few =>
          refine .passedOver call new ?_ (Nat.not_le.mp fun many => few (Nat.lt_succ_iff.mpr many))
          simp [Listed.timedOut, answer, there, late]
      case isFalse punctual =>
        rw [if_neg fun both => punctual both.2] at timeouts
        have ends : l.EndsPass pass.timeouts := ⟨e, answer, there, fun late => absurd late punctual⟩
        have ended := Visit.ended call new answer ends
        rwa [timeouts] at ended

variable {cluster : Cluster σ}

theorem exists_visit (cluster : Cluster σ) (catalog : Catalog) (pass : Pass) (named : Place)
    (world : σ × List Listed) :
    let result := (visit cluster.heard catalog pass named).run world
    ∃ here, result.2.2 = world.2 ++ here.toList ∧ Visit catalog pass named here result.1 := by
  dsimp only
  rw [visit_eq]
  cases found : catalog.find? named.groupKind none with
  | none => exact ⟨none, (List.append_nil _).symm, .unmapped found⟩
  | some r =>
    have here := place_of_find? found named.ns
    dsimp only
    split
    case isTrue held =>
      rw [← here] at held
      exact ⟨none, (List.append_nil _).symm, .known (by rw [found]; rfl) held⟩
    case isFalse new =>
      let l : Listed := ⟨r, r.namespaceFor named.ns,
        ((cluster.list r (r.namespaceFor named.ns)).run world.1).1⟩
      have call : l.For catalog named := ⟨found, rfl⟩
      have same : l.place = ⟨named.groupKind, (r.namespaceFor named.ns).getD ""⟩ :=
        call.place_eq.trans here
      rw [← same, Option.not_isSome_iff_eq_none] at new
      refine ⟨some l, rfl, ?_⟩
      have visited := visit_of_heard call new
      rw [same] at visited
      exact visited

theorem exists_transcript (cluster : Cluster σ) (catalog : Catalog) (places : List Place)
    (pass : Pass) (world : σ × List Listed) :
    let result := (visitAll cluster.heard catalog pass places).run world
    ∃ heard, result.2.2 = world.2 ++ heard ∧ Transcript catalog pass places heard result.1 := by
  induction places generalizing pass world with
  | nil => exact ⟨[], (List.append_nil _).symm, .done pass⟩
  | cons named places ih =>
    obtain ⟨here, log, visited⟩ := exists_visit cluster catalog pass named world
    unfold visitAll
    simp only [StateT.run_bind]
    generalize (visit cluster.heard catalog pass named).run world = result at log visited ⊢
    obtain ⟨outcome, world⟩ := result
    cases outcome with
    | error failure => exact ⟨here.toList, log, .stop visited⟩
    | ok next =>
      obtain ⟨heard, log', rest⟩ := ih next world
      refine ⟨here.toList ++ heard, ?_, .step visited rest⟩
      rw [← List.append_assoc, ← log]
      exact log'

section Endings

def timeoutsBehind : Except (Error × Nat) Pass → Nat
  | .ok pass => pass.timeouts
  | .error failure => failure.2

theorem Visit.timeouts (visit : Visit catalog pass named here outcome) :
    timeoutsBehind outcome = pass.timeouts + timeoutsIn here.toList := by
  cases visit with
  | unmapped => rfl
  | known => rfl
  | recorded _ _ there =>
    simp [timeoutsBehind, Pass.record, timeoutsIn, Listed.timedOut_of_objects? there]
  | passedOver _ _ late => simp [timeoutsBehind, timeoutsIn, late]
  | ended => rfl

theorem Transcript.timeouts (t : Transcript catalog pass places heard outcome) :
    timeoutsBehind outcome = pass.timeouts + timeoutsIn heard := by
  induction t with
  | done => rfl
  | step visit _ ih =>
    have counted := visit.timeouts
    rw [timeoutsBehind] at counted
    rw [ih, counted, timeoutsIn, timeoutsIn, timeoutsIn, List.countP_append, Nat.add_assoc]
  | stop visit => exact visit.timeouts

theorem Visit.goesOn (visit : Visit catalog pass named (some l) (.ok next)) :
    ¬ l.EndsPass pass.timeouts := by
  cases visit with
  | recorded _ _ there => exact Listed.not_endsPass_of_objects? there
  | passedOver _ _ late few =>
    rw [Listed.endsPass_iff_of_timedOut late]
    exact Nat.not_le.mpr few

theorem Visit.ends {e : Error} {n : Nat} (visit : Visit catalog pass named here (.error (e, n))) :
    ∃ l, here = some l ∧ l.answer = .error e ∧ l.EndsPass pass.timeouts := by
  cases visit with
  | ended _ _ failed ends => exact ⟨_, rfl, failed, ends⟩

theorem Transcript.ends {e : Error} {n : Nat}
    (t : Transcript catalog pass places heard (.error (e, n))) :
    ∃ before l, heard = before ++ [l] ∧ l.answer = .error e ∧
      l.EndsPass (pass.timeouts + timeoutsIn before) := by
  generalize failure : Except.error (e, n) = outcome at t
  induction t with
  | done => cases failure
  | @step _ _ _ _ here _ _ visit _ ih =>
    obtain ⟨before, l, rfl, failed, ends⟩ := ih failure
    have counted := visit.timeouts
    rw [timeoutsBehind] at counted
    refine ⟨here.toList ++ before, l, (List.append_assoc ..).symm, failed, ?_⟩
    rwa [counted, Nat.add_assoc, timeoutsIn, timeoutsIn, ← List.countP_append] at ends
  | stop visit =>
    cases failure
    obtain ⟨l, rfl, failed, ends⟩ := visit.ends
    exact ⟨[], l, rfl, failed, ends⟩

theorem Transcript.stops (t : Transcript catalog pass places heard outcome) {before after : List Listed}
    (split : heard = before ++ l :: after) (ends : l.EndsPass (pass.timeouts + timeoutsIn before)) :
    after = [] ∧ ∃ e n, outcome = .error (e, n) ∧ l.answer = .error e := by
  induction t generalizing before with
  | done => cases before <;> cases split
  | @step _ _ _ _ here _ _ visit _ ih =>
    cases here with
    | none =>
      have counted := visit.timeouts
      refine ih split ?_
      rw [timeoutsBehind] at counted
      rwa [counted]
    | some first =>
      cases before with
      | nil =>
        cases split
        exact absurd ends visit.goesOn
      | cons _ before =>
        cases split
        have counted := visit.timeouts
        refine ih rfl ?_
        rw [timeoutsBehind] at counted
        rwa [counted, Option.toList, Nat.add_assoc, ← timeoutsIn_cons]
  | stop visit =>
    obtain ⟨first, rfl, failed, -⟩ := visit.ends
    cases before with
    | nil =>
      cases split
      exact ⟨rfl, _, _, rfl, failed⟩
    | cons _ before => cases before <;> cases split

end Endings

section Findings

theorem Visit.call (visit : Visit catalog pass named (some l) outcome) : l.For catalog named := by
  cases visit <;> assumption

theorem Visit.mem_found (visit : Visit catalog pass named here (.ok next)) {p : Place} {h : Holding} :
    (p, h) ∈ next.found ↔ (p, h) ∈ pass.found ∨
      (h = .unmapped ∧ p = named ∧ catalog.find? p.groupKind none = none) ∨
      ∃ l ∈ here, ∃ objects, l.objects? = some objects ∧ p = l.place ∧ h = .objects objects := by
  cases visit with
  | unmapped unknown =>
    simp only [Pass.record, List.mem_append, List.mem_singleton, Prod.mk.injEq,
      Option.not_mem_none, false_and, exists_false, or_false]
    refine or_congr_right ⟨?_, ?_⟩
    · rintro ⟨rfl, rfl⟩
      exact ⟨rfl, rfl, unknown⟩
    · rintro ⟨kind, same, -⟩
      exact ⟨same, kind⟩
  | known mapped =>
    have none : ¬ (h = .unmapped ∧ p = named ∧ catalog.find? p.groupKind none = none) := by
      rintro ⟨-, rfl, unknown⟩
      rw [unknown] at mapped
      cases mapped
    simp [none]
  | recorded call new there =>
    have mapped := call.found
    have none : ¬ (h = .unmapped ∧ p = named ∧ catalog.find? p.groupKind none = none) := by
      rintro ⟨-, rfl, unknown⟩
      cases mapped.symm.trans unknown
    simp [Pass.record, none, there]
  | passedOver call _ late =>
    have mapped := call.found
    have none : ¬ (h = .unmapped ∧ p = named ∧ catalog.find? p.groupKind none = none) := by
      rintro ⟨-, rfl, unknown⟩
      cases mapped.symm.trans unknown
    simp [none, Listed.objects?_of_timedOut late]

/-- What is found is what calls of the pass returned, besides the places that are not mapped. -/
theorem Transcript.mem_found (t : Transcript catalog pass places heard (.ok last)) {p : Place}
    {h : Holding} :
    (p, h) ∈ last.found ↔ (p, h) ∈ pass.found ∨
      (h = .unmapped ∧ p ∈ places ∧ catalog.find? p.groupKind none = none) ∨
      ∃ l ∈ heard, ∃ objects, l.objects? = some objects ∧ p = l.place ∧ h = .objects objects := by
  generalize ended : Except.ok last = outcome at t
  induction t with
  | done =>
    cases ended
    simp
  | @step _ _ named places here heard _ visit _ ih =>
    have unmapped : (h = .unmapped ∧ p ∈ named :: places ∧ catalog.find? p.groupKind none = none) ↔
        (h = .unmapped ∧ p = named ∧ catalog.find? p.groupKind none = none) ∨
          (h = .unmapped ∧ p ∈ places ∧ catalog.find? p.groupKind none = none) := by
      rw [List.mem_cons, or_and_right, and_or_left]
    have returned (P : Listed → Prop) :
        (∃ l ∈ here.toList ++ heard, P l) ↔ (∃ l ∈ here, P l) ∨ ∃ l ∈ heard, P l := by
      simp only [List.mem_append, Option.mem_toList, Option.mem_def, or_and_right, exists_or]
    rw [ih ended, visit.mem_found, unmapped, returned, or_assoc, or_or_or_comm]
  | stop => cases ended

theorem Transcript.exists_call (t : Transcript catalog pass places heard outcome) (mem : l ∈ heard) :
    ∃ named ∈ places, l.For catalog named := by
  induction t with
  | done => cases mem
  | @step _ _ named _ here _ _ visit _ ih =>
    rcases List.mem_append.mp mem with now | later
    · cases Option.mem_toList.mp now
      exact ⟨named, List.mem_cons_self, visit.call⟩
    · obtain ⟨other, among, call⟩ := ih later
      exact ⟨other, List.mem_cons_of_mem named among, call⟩
  | @stop _ named _ here _ visit =>
    cases Option.mem_toList.mp mem
    exact ⟨named, List.mem_cons_self, visit.call⟩

/-- A pass that succeeds has the objects of every place in the catalog, or has asked for them. -/
theorem Transcript.covers (t : Transcript catalog pass places heard (.ok last)) (mem : named ∈ places)
    (mapped : (catalog.find? named.groupKind none).isSome = true) :
    (∃ h, (place catalog named.groupKind named.ns, h) ∈ pass.found) ∨
      ∃ l ∈ heard, l.place = place catalog named.groupKind named.ns := by
  generalize ended : Except.ok last = outcome at t
  induction t with
  | done => cases mem
  | @step _ _ first _ here _ _ visit rest ih =>
    rcases List.mem_cons.mp mem with rfl | later
    · cases visit with
      | unmapped unknown =>
        rw [unknown] at mapped
        cases mapped
      | known _ held =>
        obtain ⟨h, looked⟩ := Option.isSome_iff_exists.mp held
        exact .inl ⟨h, mem_of_lookup_eq_some looked⟩
      | recorded call => exact .inr ⟨_, List.mem_cons_self, call.place_eq⟩
      | passedOver call => exact .inr ⟨_, List.mem_cons_self, call.place_eq⟩
    · rcases ih later ended with ⟨h, found⟩ | ⟨l, asked, same⟩
      · rcases visit.mem_found.mp found with before | ⟨-, -, unknown⟩ | ⟨l, now, -, -, same, -⟩
        · exact .inl ⟨h, before⟩
        · rw [place_groupKind] at unknown
          rw [unknown] at mapped
          cases mapped
        · exact .inr ⟨l, List.mem_append_left _ (Option.mem_toList.mpr now), same.symm⟩
      · exact .inr ⟨l, List.mem_append_right _ asked, same⟩
  | stop => cases ended

/-- Each place is found once, and those to come that are not mapped are new. -/
structure Pass.Orderly (pass : Pass) (catalog : Catalog) (coming : List Place) : Prop where
  once : (pass.found.map Prod.fst).Nodup
  new : ∀ p ∈ coming, catalog.find? p.groupKind none = none → p ∉ pass.found.map Prod.fst

theorem Pass.nodup_record {p : Place} (once : (pass.found.map Prod.fst).Nodup)
    (new : p ∉ pass.found.map Prod.fst) (h : Holding) :
    ((pass.record p h).found.map Prod.fst).Nodup := by
  rw [record, List.map_append]
  exact List.nodup_append_comm.mp (List.nodup_cons.mpr ⟨new, once⟩)

theorem Visit.orderly (visit : Visit catalog pass named here (.ok next))
    (orderly : pass.Orderly catalog (named :: places)) (distinct : (named :: places).Nodup) :
    next.Orderly catalog places where
  once := by
    cases visit with
    | unmapped unknown =>
      exact Pass.nodup_record orderly.once (orderly.new named List.mem_cons_self unknown) _
    | known => exact orderly.once
    | recorded _ new =>
      refine Pass.nodup_record orderly.once (fun held => ?_) _
      obtain ⟨entry, mem, same⟩ := List.mem_map.mp held
      have apart := List.lookup_eq_none_iff.mp new entry mem
      simp [same] at apart
    | passedOver => exact orderly.once
  new p mem unknown held := by
    obtain ⟨⟨_, h⟩, found, rfl⟩ := List.mem_map.mp held
    rcases visit.mem_found.mp found with before | ⟨-, same, -⟩ | ⟨l, now, -, -, same, -⟩
    · exact orderly.new _ (List.mem_cons_of_mem named mem) unknown (List.mem_map_of_mem before)
    · exact (List.nodup_cons.mp distinct).1 (same ▸ mem)
    · cases now
      dsimp only at same unknown
      rw [same, visit.call.place_eq, place_groupKind, visit.call.found] at unknown
      cases unknown

theorem Transcript.nodup_found (t : Transcript catalog pass places heard (.ok last))
    (orderly : pass.Orderly catalog places) (distinct : places.Nodup) :
    (last.found.map Prod.fst).Nodup := by
  generalize ended : Except.ok last = outcome at t
  induction t with
  | done =>
    cases ended
    exact orderly.once
  | step visit _ ih => exact ih (visit.orderly orderly distinct) (List.nodup_cons.mp distinct).2 ended
  | stop => cases ended

end Findings

end Snapshot

end StatusWatch
