import Mathlib.Data.List.Basic
import StatusWatch.Client

/-!
Requests that are made again. A request is made up to three times; only failures that pass are got
over, and the last reply is the one that counts. Of all this a server sees the same request so many
times in a row.
-/

namespace StatusWatch.Client

/-- Failures that may pass: the server is too busy or a gateway is, or an answer broke off. -/
inductive Transient : CallFault → Prop
  | busy (status : ApiStatus) (code : status.code = 429 ∨ status.code = 503 ∨ status.code = 504) :
      Transient (.refused status)
  | interrupted (what : String) : Transient (.transport (.interrupted what))

theorem isTransient_iff {fault : CallFault} : fault.isTransient = true ↔ Transient fault := by
  constructor
  · intro h
    rcases fault with status | what | what
    · exact .busy status (by simpa [CallFault.isTransient] using h)
    · exact .interrupted what
    · cases h
  · rintro (⟨status, code⟩ | ⟨what⟩)
    · simpa [CallFault.isTransient] using code
    · rfl

variable {server : Server} {read : Reply → Except CallFault α} {request : Request}
  {limit failures : Nat} {log : List Request} {result : Except CallFault α}

/-- The result of making a request behind others: so many transient failures, not more than
`limit`, then a reply that counts. It is a transient failure only if the limit is reached. -/
structure Fetched (server : Server) (read : Reply → Except CallFault α) (request : Request)
    (limit : Nat) (log : List Request) (failures : Nat) (result : Except CallFault α) : Prop where
  few : failures ≤ limit
  failed : ∀ i < failures, ∃ fault, Transient fault ∧
    read (server (log ++ List.replicate (i + 1) request)) = .error fault
  settled : read (server (log ++ List.replicate (failures + 1) request)) = result
  lasting : ∀ fault, result = .error fault → Transient fault → failures = limit

theorem append_replicate_succ (log : List Request) (request : Request) (n : Nat) :
    log ++ List.replicate (n + 1) request = log ++ [request] ++ List.replicate n request := by
  rw [List.replicate_succ, List.append_assoc, List.singleton_append]

theorem fetched_at_once (settled : read (server (log ++ [request])) = result)
    (lasting : ∀ fault, result = .error fault → Transient fault → limit = 0) :
    Fetched server read request limit log 0 result where
  few := Nat.zero_le limit
  failed i before := absurd before (Nat.not_lt_zero i)
  settled := settled
  lasting fault failed transient := (lasting fault failed transient).symm

theorem Fetched.again {fault : CallFault} (transient : Transient fault)
    (failed : read (server (log ++ [request])) = .error fault)
    (h : Fetched server read request limit (log ++ [request]) failures result) :
    Fetched server read request (limit + 1) log (failures + 1) result where
  few := Nat.succ_le_succ h.few
  failed i before := by
    cases i with
    | zero => exact ⟨fault, transient, failed⟩
    | succ i =>
      rw [append_replicate_succ]
      exact h.failed i (Nat.lt_of_succ_lt_succ before)
  settled := by
    rw [append_replicate_succ]
    exact h.settled
  lasting fault failed transient := congrArg (· + 1) (h.lasting fault failed transient)

theorem run_bind {m : Exchange α} {a : α} {log' : List Request} (f : α → Exchange β)
    (h : m.run log = (a, log')) : (m >>= f).run log = (f a).run log' := by
  rw [StateT.run_bind, h]
  rfl

theorem run_ask_succ (server : Server) (read : Reply → Except CallFault α) (request : Request)
    (limit : Nat) (log : List Request) :
    (ask server read request (limit + 1)).run log =
      match read (server (log ++ [request])) with
      | .ok a => (.ok a, log ++ [request])
      | .error fault =>
        if fault.isTransient then (ask server read request limit).run (log ++ [request])
        else (.error fault.toError, log ++ [request]) := by
  rw [ask, run_bind _ (rfl : (send server request).run log = _)]
  cases read (server (log ++ [request])) with
  | ok a => rfl
  | error fault => exact apply_ite (StateT.run · _) _ _ _

/-- Whatever the server is, a request is made at most `limit` times more than once. -/
theorem exists_fetched (server : Server) (read : Reply → Except CallFault α) (request : Request)
    (limit : Nat) (log : List Request) :
    ∃ failures result, Fetched server read request limit log failures result ∧
      (ask server read request limit).run log =
        (result.mapError CallFault.toError, log ++ List.replicate (failures + 1) request) := by
  induction limit generalizing log with
  | zero => exact ⟨0, _, fetched_at_once rfl (fun _ _ _ => rfl), rfl⟩
  | succ limit ih =>
    rw [run_ask_succ]
    cases reply : read (server (log ++ [request])) with
    | ok a => exact ⟨0, .ok a, fetched_at_once reply nofun, rfl⟩
    | error fault =>
      by_cases transient : Transient fault
      · obtain ⟨failures, result, fetched, run⟩ := ih (log ++ [request])
        refine ⟨failures + 1, result, fetched.again transient reply, ?_⟩
        rw [append_replicate_succ, ← run]
        exact if_pos (isTransient_iff.mpr transient)
      · refine ⟨0, .error fault, fetched_at_once reply ?_, if_neg (mt isTransient_iff.mp transient)⟩
        intro fault' same transient'
        cases same
        exact absurd transient' transient

theorem Fetched.failures_le {failures' : Nat} {result' : Except CallFault α}
    (h : Fetched server read request limit log failures result)
    (h' : Fetched server read request limit log failures' result') : failures ≤ failures' := by
  by_contra behind
  rw [Nat.not_le] at behind
  obtain ⟨fault, transient, failed⟩ := h.failed failures' behind
  have ends := h'.lasting fault (h'.settled.symm.trans failed) transient
  have few := h.few
  omega

theorem Fetched.run (h : Fetched server read request limit log failures result) :
    (ask server read request limit).run log =
      (result.mapError CallFault.toError, log ++ List.replicate (failures + 1) request) := by
  obtain ⟨failures', result', h', run⟩ := exists_fetched server read request limit log
  have same : failures = failures' := Nat.le_antisymm (h.failures_le h') (h'.failures_le h)
  subst same
  rw [run, ← h.settled, ← h'.settled]

end StatusWatch.Client
