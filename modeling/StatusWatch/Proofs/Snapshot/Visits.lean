import StatusWatch.Proofs.Yields
import StatusWatch.Snapshot

/-!
A pass in two parts: the calls that it makes, at most one for a place, and what it makes of the
answers. The second part is a function, and fails only with an answer that does.
-/

namespace StatusWatch

def Cluster.Lists (cluster : Cluster σ) : Prop :=
  ∀ r ns world, ∃ objects, ((cluster.list r ns).run world).1 = .ok objects

namespace Snapshot

def Pass.heard (pass : Pass) (p : Place) : Except Error (List Json) → Except (Error × Nat) Pass
  | .ok objects => .ok (pass.record p (.objects objects))
  | .error e =>
    if e.isNotFound then .ok (pass.record p (.objects []))
    else if e.isTimeout then
      if timeoutLimit < pass.timeouts + 1 then .error (e, pass.timeouts + 1)
      else .ok { pass with timeouts := pass.timeouts + 1 }
    else .error (e, pass.timeouts)

theorem visit_eq (cluster : Cluster σ) (catalog : Catalog) (pass : Pass) (named : Place) :
    visit cluster catalog pass named =
      match catalog.find? named.groupKind none with
      | none => pure (.ok (pass.record named .unmapped))
      | some r =>
        let p : Place := ⟨named.groupKind, (r.namespaceFor named.ns).getD ""⟩
        if (pass.found.lookup p).isSome then pure (.ok pass)
        else cluster.list r (r.namespaceFor named.ns) >>= fun answer => pure (pass.heard p answer) := by
  unfold visit
  cases catalog.find? named.groupKind none with
  | none => rfl
  | some r =>
    dsimp only
    split
    · rfl
    · refine bind_congr fun answer => ?_
      unfold Pass.heard
      cases answer with
      | ok objects => rfl
      | error e =>
        dsimp only
        repeat' split
        all_goals rfl

def replacedBy (s : Snapshot) : Except (Error × Nat) Pass → Except Error Unit × Snapshot
  | .ok pass => (.ok (), ⟨pass.found, pass.timeouts⟩)
  | .error (e, timeouts) => (.error e, { s with timeouts })

theorem sync_eq (cluster : Cluster σ) (catalog : Catalog) (ids : List ObjectId) (s : Snapshot) :
    s.sync cluster catalog ids =
      visitAll cluster catalog ⟨[], s.timeouts⟩ (placesFor ids) >>= fun outcome =>
        pure (s.replacedBy outcome) := by
  refine bind_congr fun outcome => ?_
  cases outcome <;> rfl

section Lists

variable {cluster : Cluster σ} (lists : cluster.Lists) (catalog : Catalog)

include lists

theorem visit_ok (pass : Pass) (named : Place) (world : σ) :
    ∃ pass', ((visit cluster catalog pass named).run world).1 = .ok pass' := by
  rw [visit_eq]
  cases catalog.find? named.groupKind none with
  | none => exact ⟨_, rfl⟩
  | some r =>
    dsimp only
    split
    case isTrue => exact ⟨_, rfl⟩
    case isFalse =>
      obtain ⟨objects, listed⟩ := lists r (r.namespaceFor named.ns) world
      rw [run_bind_fst _ listed]
      exact ⟨_, rfl⟩

theorem visitAll_ok (pass : Pass) (places : List Place) (world : σ) :
    ∃ pass', ((visitAll cluster catalog pass places).run world).1 = .ok pass' := by
  induction places generalizing pass world with
  | nil => exact ⟨pass, rfl⟩
  | cons p rest ih =>
    obtain ⟨next, visited⟩ := visit_ok lists catalog pass p world
    rw [visitAll, run_bind_fst _ visited]
    exact ih next _

theorem sync_ok (ids : List ObjectId) (s : Snapshot) (world : σ) :
    ((s.sync cluster catalog ids).run world).1.1 = .ok () := by
  obtain ⟨pass, visited⟩ := visitAll_ok lists catalog ⟨[], s.timeouts⟩ (placesFor ids) world
  rw [sync_eq, run_bind_fst _ visited]
  rfl

end Lists

end Snapshot

end StatusWatch
