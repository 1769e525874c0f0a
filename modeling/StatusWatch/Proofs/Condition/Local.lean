import StatusWatch.Condition.Parser
import Mathlib.Data.List.TakeWhile

/-!
Steps of the condition reader are local: they leave an end of their text, and what they read does
not depend on what stands behind the first character that they leave. Each step is put together
from a few kinds of steps, and locality goes with them.
-/

namespace StatusWatch.Condition

open Text (isBlank skipBlanks)

/-- A successful reading stays as it is when all is exchanged behind the first character left. -/
def Local (read : Reads α) : Prop :=
  ∀ text a rest, read text = .ok (a, rest) → ∃ taken, text = taken ++ rest ∧
    ∀ c others, rest = c :: others → ∀ new, read (taken ++ c :: new) = .ok (a, c :: new)

namespace Local

variable {read : Reads α} {text rest : List Char} {a : α}

theorem suffix (h : Local read) (done : read text = .ok (a, rest)) : rest <:+ text := by
  obtain ⟨taken, rfl, -⟩ := h text a rest done
  exact List.suffix_append taken rest

theorem length_le (h : Local read) (done : read text = .ok (a, rest)) :
    rest.length ≤ text.length :=
  (h.suffix done).length_le

theorem append (h : Local read) (done : read text = .ok (a, rest)) (left : rest ≠ [])
    (more : List Char) : read (text ++ more) = .ok (a, rest ++ more) := by
  obtain ⟨taken, rfl, exchange⟩ := h text a rest done
  obtain ⟨c, others, rfl⟩ := List.exists_cons_of_ne_nil left
  rw [List.append_assoc]
  exact exchange c others rfl (others ++ more)

theorem of_append {more : List Char} (h : Local read) (left : rest ≠ [])
    (done : read (text ++ more) = .ok (a, rest ++ more)) : read text = .ok (a, rest) := by
  obtain ⟨taken, split, exchange⟩ := h _ a _ done
  obtain ⟨c, others, rfl⟩ := List.exists_cons_of_ne_nil left
  rw [← List.append_assoc, List.append_cancel_right_eq] at split
  rw [split]
  exact exchange c (others ++ more) rfl others

theorem pure (a : α) : Local fun text => .ok (a, text) := by
  intro text b rest done
  cases done
  exact ⟨[], rfl, fun c others h new => rfl⟩

theorem fail (e : List Char → SyntaxError) :
    Local fun text => (.error (e text) : Except _ (α × _)) :=
  nofun

theorem bind {next : α → Reads β} (h : Local read) (hn : ∀ a, Local (next a)) :
    Local fun text => read text >>= fun (a, rest) => next a rest := by
  intro text b rest done
  dsimp only at done ⊢
  cases first : read text with
  | error e =>
    rw [first] at done
    cases done
  | ok found =>
    obtain ⟨a, middle⟩ := found
    rw [first] at done
    obtain ⟨taken, rfl, exchange⟩ := h text a middle first
    obtain ⟨taken', rfl, exchange'⟩ := hn a middle b rest done
    refine ⟨taken ++ taken', (List.append_assoc ..).symm, fun c others left new => ?_⟩
    subst left
    -- What the first step leaves begins as before, with its own text or with `c`.
    have first' : read (taken ++ (taken' ++ c :: new)) = .ok (a, taken' ++ c :: new) := by
      cases taken' with
      | nil => exact exchange c others rfl new
      | cons d taken' => exact exchange d _ rfl (taken' ++ c :: new)
    rw [List.append_assoc, first']
    exact exchange' c others rfl new

theorem map (h : Local read) (f : α → β) :
    Local fun text => (read text).map fun (a, rest) => (f a, rest) := by
  have same : (fun text => (read text).map fun (a, rest) => (f a, rest)) =
      fun text => read text >>= fun (a, rest) => .ok (f a, rest) := by
    funext text
    cases read text <;> rfl
  rw [same]
  exact h.bind fun a => pure (f a)

theorem congr {other : Reads α} (h : Local read)
    (same : ∀ text x, other text = .ok x ↔ read text = .ok x) : Local other := by
  intro text a rest done
  obtain ⟨taken, split, exchange⟩ := h text a rest ((same text _).mp done)
  exact ⟨taken, split, fun c others left new => (same _ _).mpr (exchange c others left new)⟩

theorem of_first {body : Reads α} (nil : ∀ x, body [] = .ok x → x.2 = [])
    (cons : ∀ c, ∃ read : Reads α, Local read ∧
      ∀ rest x, body (c :: rest) = .ok x ↔ read (c :: rest) = .ok x) : Local body := by
  intro text a rest done
  cases text with
  | nil =>
    have empty := nil _ done
    refine ⟨[], empty.symm, fun c others left => ?_⟩
    cases left.symm.trans empty
  | cons c text =>
    obtain ⟨read, hread, same⟩ := cons c
    obtain ⟨taken, split, exchange⟩ := hread (c :: text) a rest ((same text _).mp done)
    refine ⟨taken, split, fun d others left new => ?_⟩
    have done' := exchange d others left new
    cases taken with
    | nil =>
      have head : d = c := by
        rw [left] at split
        exact (List.cons.inj split).1.symm
      subst head
      exact (same _ _).mpr done'
    | cons b taken =>
      have head : b = c := (List.cons.inj split).1.symm
      subst head
      exact (same _ _).mpr done'

theorem tail (h : Local read) (e : SyntaxError) :
    Local fun
      | [] => .error e
      | _ :: rest => read rest := by
  intro text a rest done
  cases text with
  | nil => cases done
  | cons c text =>
    obtain ⟨taken, rfl, exchange⟩ := h text a rest done
    exact ⟨c :: taken, rfl, exchange⟩

theorem span (p : Char → Bool) :
    Local fun text => .ok (text.takeWhile p, text.dropWhile p) := by
  intro text a rest done
  cases done
  refine ⟨text.takeWhile p, List.takeWhile_append_dropWhile.symm, fun c others left new => ?_⟩
  have ends : p c = false := by
    have first := List.head?_dropWhile_not p text
    simpa [left] using first
  have all : ∀ d ∈ text.takeWhile p, p d = true := fun d hd => List.mem_takeWhile_imp hd
  dsimp only
  rw [List.takeWhile_append_of_pos all, List.dropWhile_append_of_pos all,
    List.takeWhile_cons_of_neg (by simp [ends]), List.dropWhile_cons_of_neg (by simp [ends]),
    List.append_nil]

theorem behindBlanks (h : Local read) : Local fun text => read (skipBlanks text) :=
  (span isBlank).bind fun _ => h

theorem behindExpected (h : Local read) (wanted : Char) :
    Local fun text => Parser.expect wanted text >>= read := by
  refine of_first nofun fun c => ?_
  by_cases same : c = wanted
  · refine ⟨_, h.tail .openString, fun rest x => ?_⟩
    rw [Parser.expect, if_pos same]
    rfl
  · refine ⟨_, fail fun rest => .expected wanted c rest.length, fun rest x => ?_⟩
    rw [Parser.expect, if_neg same]
    rfl

end Local

end StatusWatch.Condition
