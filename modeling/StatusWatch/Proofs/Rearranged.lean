import Mathlib.Data.List.Forall2
import Mathlib.Data.List.Perm.Basic
import StatusWatch.Json

/-!
Values that differ only in the order of their arrays. Lists of such values are compared as
collections: member by member, in some order.
-/

namespace StatusWatch

/-- The lists have related members, up to their order. -/
def Shuffled (R : α → β → Prop) (l : List α) (m : List β) : Prop :=
  ∃ k, l.Perm k ∧ List.Forall₂ R k m

namespace Shuffled

variable {R : α → β → Prop} {S : γ → δ → Prop} {l : List α} {m : List β}

theorem nil : Shuffled R [] [] := ⟨[], .nil, .nil⟩

theorem of_forall₂ (each : List.Forall₂ R l m) : Shuffled R l m := ⟨l, .refl l, each⟩

theorem of_perm {k : List α} (perm : l.Perm k) (h : Shuffled R k m) : Shuffled R l m := by
  obtain ⟨order, perm', each⟩ := h
  exact ⟨order, perm.trans perm', each⟩

theorem length_eq (h : Shuffled R l m) : l.length = m.length := by
  obtain ⟨k, perm, each⟩ := h
  rw [perm.length_eq, each.length_eq]

theorem isEmpty_eq (h : Shuffled R l m) : l.isEmpty = m.isEmpty := by
  have length := h.length_eq
  cases l <;> cases m <;> simp_all

theorem forall_iff {P : α → Prop} {Q : β → Prop} (h : Shuffled R l m)
    (related : ∀ a b, R a b → (P a ↔ Q b)) : (∀ a ∈ l, P a) ↔ ∀ b ∈ m, Q b := by
  obtain ⟨k, perm, each⟩ := h
  have moved : (∀ a ∈ l, P a) ↔ ∀ a ∈ k, P a := by simp only [perm.mem_iff]
  rw [moved]
  clear perm moved
  induction each with
  | nil => simp
  | cons head _ ih => simp only [List.forall_mem_cons, related _ _ head, ih]

theorem append {l' : List α} {m' : List β} (h : Shuffled R l m) (h' : Shuffled R l' m') :
    Shuffled R (l ++ l') (m ++ m') := by
  obtain ⟨k, perm, each⟩ := h
  obtain ⟨k', perm', each'⟩ := h'
  exact ⟨k ++ k', perm.append perm', List.rel_append each each'⟩

theorem of_singleton {a : α} {b : β} (h : Shuffled R [a] [b]) : R a b := by
  obtain ⟨k, perm, each⟩ := h
  rw [List.perm_singleton.mp perm.symm] at each
  cases each with
  | cons related _ => exact related

theorem flatMap {f : α → List γ} {g : β → List δ} (h : Shuffled R l m)
    (related : ∀ a b, R a b → Shuffled S (f a) (g b)) :
    Shuffled S (l.flatMap f) (m.flatMap g) := by
  obtain ⟨k, perm, each⟩ := h
  refine of_perm (perm.flatMap_right f) ?_
  clear perm
  induction each with
  | nil => exact nil
  | cons head _ ih => exact (related _ _ head).append ih

end Shuffled

namespace Json

/-- The same value but for the order of arrays, at any depth. -/
inductive Rearranged : Json → Json → Prop
  | null : Rearranged .null .null
  | bool (b : Bool) : Rearranged (.bool b) (.bool b)
  | num (n : Number) : Rearranged (.num n) (.num n)
  | str (s : String) : Rearranged (.str s) (.str s)
  | arr {items order items' : List Json} (perm : items.Perm order)
      (each : List.Forall₂ Rearranged order items') : Rearranged (.arr items) (.arr items')
  | obj {fields fields' : List (String × Json)}
      (names : fields.map Prod.fst = fields'.map Prod.fst)
      (each : List.Forall₂ Rearranged (fields.map Prod.snd) (fields'.map Prod.snd)) :
      Rearranged (.obj fields) (.obj fields')

mutual

theorem Rearranged.refl : ∀ value : Json, value.Rearranged value
  | .null => .null
  | .bool b => .bool b
  | .num n => .num n
  | .str s => .str s
  | .arr items => .arr (.refl items) (Rearranged.refl_items items)
  | .obj fields => .obj rfl (Rearranged.refl_fields fields)

theorem Rearranged.refl_items : ∀ items : List Json, List.Forall₂ Rearranged items items
  | [] => .nil
  | value :: rest => .cons (Rearranged.refl value) (Rearranged.refl_items rest)

theorem Rearranged.refl_fields : ∀ fields : List (String × Json),
    List.Forall₂ Rearranged (fields.map Prod.snd) (fields.map Prod.snd)
  | [] => .nil
  | (_, value) :: rest => .cons (Rearranged.refl value) (Rearranged.refl_fields rest)

end

theorem Rearranged.lookup {fields fields' : List (String × Json)}
    (names : fields.map Prod.fst = fields'.map Prod.fst)
    (each : List.Forall₂ Rearranged (fields.map Prod.snd) (fields'.map Prod.snd)) (name : String) :
    List.Forall₂ Rearranged (fields.lookup name).toList (fields'.lookup name).toList := by
  induction fields generalizing fields' with
  | nil =>
    cases fields' with
    | nil => exact .nil
    | cons => cases names
  | cons field rest ih =>
    cases fields' with
    | nil => cases names
    | cons field' rest' =>
      obtain ⟨first, value⟩ := field
      obtain ⟨first', value'⟩ := field'
      simp only [List.map_cons, List.cons.injEq, List.forall₂_cons] at names each
      obtain ⟨rfl, names⟩ := names
      rw [List.lookup_cons, List.lookup_cons]
      by_cases here : name = first
      · simp [here, each.1]
      · rw [beq_false_of_ne here]
        exact ih names each.2

theorem Rearranged.get? {a b : Json} (h : a.Rearranged b) (name : String) :
    List.Forall₂ Rearranged (a.get? name).toList (b.get? name).toList := by
  cases h with
  | obj names each => exact lookup names each name
  | _ => exact .nil

end Json

end StatusWatch
