import Mathlib.Data.List.Infix
import StatusWatch.Error

/-!
The two classes of errors that readers treat specially, constructor by constructor.
-/

namespace StatusWatch.Error

variable {e : Error}

inductive Absent : Error → Prop
  | notFound (resource name : String) : Absent (.notFound resource name)
  | refused (status : ApiStatus) (code : status.code = 404) : Absent (.api status)

/-- A call ran out of time, here or at a gateway, or its failure says so in words. -/
inductive Late : Error → Prop
  | timeout (what : String) : Late (.timeout what)
  | gateway (status : ApiStatus) (code : status.code = 504) : Late (.api status)
  | refused (status : ApiStatus) (told : "timed out".toList <:+: status.message.toList) :
      Late (.api status)
  | transport (fault : TransportFault) (told : "timed out".toList <:+: fault.message.toList) :
      Late (.transport fault)

theorem mentions_iff {part text : List Char} : mentions part text = true ↔ part <:+: text := by
  induction text with
  | nil => simp [mentions]
  | cons c rest ih =>
    rw [mentions, Bool.or_eq_true, ih, List.infix_cons_iff, List.isPrefixOf_iff_prefix]

theorem isNotFound_iff : e.isNotFound = true ↔ e.Absent := by
  constructor
  · intro h
    cases e with
    | notFound resource name => exact .notFound resource name
    | api status => exact .refused status (of_decide_eq_true h)
    | _ => cases h
  · rintro (⟨resource, name⟩ | ⟨status, code⟩)
    · rfl
    · exact decide_eq_true code

theorem isTimeout_iff : e.isTimeout = true ↔ e.Late := by
  constructor
  · intro h
    cases e with
    | timeout what => exact .timeout what
    | api status =>
      rcases Bool.or_eq_true_iff.mp h with code | told
      · exact .gateway status (of_decide_eq_true code)
      · exact .refused status (mentions_iff.mp told)
    | transport fault => exact .transport fault (mentions_iff.mp h)
    | _ => cases h
  · rintro (⟨what⟩ | ⟨status, code⟩ | ⟨status, told⟩ | ⟨fault, told⟩)
    · rfl
    · exact Bool.or_eq_true_iff.mpr (.inl (decide_eq_true code))
    · exact Bool.or_eq_true_iff.mpr (.inr (mentions_iff.mpr told))
    · exact mentions_iff.mpr told

instance (e : Error) : Decidable e.Absent :=
  decidable_of_iff (e.isNotFound = true) isNotFound_iff

instance (e : Error) : Decidable e.Late :=
  decidable_of_iff (e.isTimeout = true) isTimeout_iff

end StatusWatch.Error
