import StatusWatch.Json
import StatusWatch.Proofs.Keyed

/-!
Fields by their names. A field that is put in is the one found under its name, and nothing else is
found differently; where no other value stood under the name, nothing is lost.
-/

namespace StatusWatch.Json

variable {fields : List (String × α)} {name : String} {value : α}

theorem lookup_putField (name : String) (value : α) (fields : List (String × α)) (other : String) :
    (putField name value fields).lookup other =
      if other = name then some value else fields.lookup other := by
  induction fields with
  | nil => exact lookup_cons_eq_ite name value [] other
  | cons field rest ih =>
    obtain ⟨first, old⟩ := field
    unfold putField
    split
    case isTrue same =>
      subst same
      by_cases here : other = name
      · simp [here]
      · simp [lookup_cons_eq_ite, here]
    case isFalse apart =>
      split
      case isTrue => exact lookup_cons_eq_ite name value _ other
      case isFalse =>
        rw [lookup_cons_eq_ite, lookup_cons_eq_ite, ih]
        by_cases here : other = first
        · simp [here, Ne.symm apart]
        · simp [here]

theorem mem_putField (agree : ∀ other, (name, other) ∈ fields → other = value)
    (field : String × α) :
    field ∈ putField name value fields ↔ field = (name, value) ∨ field ∈ fields := by
  induction fields with
  | nil => simp [putField]
  | cons first rest ih =>
    obtain ⟨name', old⟩ := first
    unfold putField
    split
    case isTrue same =>
      subst same
      have kept := agree old List.mem_cons_self
      subst kept
      simp
    case isFalse =>
      split
      case isTrue => exact List.mem_cons
      case isFalse =>
        have behind := ih fun other mem => agree other (List.mem_cons_of_mem _ mem)
        rw [List.mem_cons, behind, List.mem_cons]
        exact or_left_comm

end StatusWatch.Json
