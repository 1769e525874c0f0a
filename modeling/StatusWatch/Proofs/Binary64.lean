import StatusWatch.Binary64
import Mathlib.Data.Nat.Log
import Mathlib.Tactic.Ring

/-!
Rounding to binary64 keeps the order of what it rounds and moves a magnitude by half its spacing at
most. Integers of 64 bits are 2048 apart at most where rounding makes them equal.
-/

namespace StatusWatch.Binary64

section Quotients

variable {num num' den k : Nat}

theorem le_roundDiv (pos : 0 < den) (h : k * den ≤ num) : k ≤ roundDiv num den := by
  have whole : k ≤ num / den := (Nat.le_div_iff_mul_le pos).mpr h
  dsimp only [roundDiv]
  split <;> omega

theorem roundDiv_le (pos : 0 < den) (h : num ≤ k * den) : roundDiv num den ≤ k := by
  have split' := Nat.div_add_mod num den
  rcases h.lt_or_eq with below | rfl
  · have whole : num / den < k := Nat.div_lt_of_lt_mul (by rwa [Nat.mul_comm])
    dsimp only [roundDiv]
    split <;> omega
  · have exact : roundDiv (k * den) den = k := by
      simp [roundDiv, pos, pos.ne]
    exact exact.le

theorem roundDiv_mono (pos : 0 < den) (h : num ≤ num') : roundDiv num den ≤ roundDiv num' den := by
  have whole : num / den ≤ num' / den := Nat.div_le_div_right h
  rcases whole.lt_or_eq with less | same
  · have up : roundDiv num den ≤ num / den + 1 := by
      dsimp only [roundDiv]
      split <;> omega
    have down : num' / den ≤ roundDiv num' den := le_roundDiv pos (Nat.div_mul_le_self num' den)
    omega
  · have rest : num % den ≤ num' % den := by
      have first := Nat.div_add_mod num den
      have second := Nat.div_add_mod num' den
      rw [same] at first
      omega
    dsimp only [roundDiv]
    rw [same]
    split <;> split <;> omega

theorem roundDiv_near (pos : 0 < den) :
    2 * num ≤ 2 * (roundDiv num den * den) + den ∧ 2 * (roundDiv num den * den) ≤ 2 * num + den := by
  have split' := Nat.div_add_mod num den
  have less := Nat.mod_lt num pos
  rw [Nat.mul_comm] at split'
  dsimp only [roundDiv]
  split
  · rw [Nat.add_mul]
    omega
  · omega

end Quotients

section Magnitudes

variable {num num' den n : Nat}

theorem spacing_pos (n : Nat) : 0 < spacing n :=
  Nat.two_pow_pos _

theorem spacing_dvd {e : Nat} (h : n.log2 ≤ e) : spacing n ∣ 2 ^ e :=
  Nat.pow_dvd_pow 2 (by omega)

theorem roundUnits_le_pow {e : Nat} (pos : 0 < den) (bound : (num / den).log2 ≤ e)
    (h : num ≤ 2 ^ e * den) : roundUnits num den ≤ 2 ^ e := by
  obtain ⟨m, power⟩ := spacing_dvd bound
  have steps : roundDiv num (den * spacing (num / den)) ≤ m := by
    refine roundDiv_le (Nat.mul_pos pos (spacing_pos _)) ?_
    calc num ≤ 2 ^ e * den := h
      _ = m * (den * spacing (num / den)) := by rw [power]; ring
  calc roundUnits num den ≤ m * spacing (num / den) := Nat.mul_le_mul_right _ steps
    _ = 2 ^ e := by rw [power, Nat.mul_comm]

theorem pow_le_roundUnits {e : Nat} (pos : 0 < den) (bound : (num / den).log2 ≤ e)
    (h : 2 ^ e * den ≤ num) : 2 ^ e ≤ roundUnits num den := by
  obtain ⟨m, power⟩ := spacing_dvd bound
  have steps : m ≤ roundDiv num (den * spacing (num / den)) := by
    refine le_roundDiv (Nat.mul_pos pos (spacing_pos _)) ?_
    calc m * (den * spacing (num / den)) = 2 ^ e * den := by rw [power]; ring
      _ ≤ num := h
  calc 2 ^ e = m * spacing (num / den) := by rw [power, Nat.mul_comm]
    _ ≤ roundUnits num den := Nat.mul_le_mul_right _ steps

theorem roundUnits_mono (pos : 0 < den) (h : num ≤ num') :
    roundUnits num den ≤ roundUnits num' den := by
  have whole : num / den ≤ num' / den := Nat.div_le_div_right h
  have bits : (num / den).log2 ≤ (num' / den).log2 := by
    rw [Nat.log2_eq_log_two, Nat.log2_eq_log_two]
    exact Nat.log_mono_right whole
  -- With one leading bit there is one spacing; else a power of two lies between, and rounding
  -- leaves both on their sides of it.
  rcases bits.lt_or_eq with fewer | same
  · have some : num' / den ≠ 0 := by
      intro zero
      simp [zero] at fewer
    have below : num / den < 2 ^ (num' / den).log2 :=
      Nat.lt_log2_self.trans_le (Nat.pow_le_pow_right (by decide) fewer)
    have above : 2 ^ (num' / den).log2 ≤ num' / den := Nat.log2_self_le some
    exact (roundUnits_le_pow pos bits ((Nat.div_lt_iff_lt_mul pos).mp below).le).trans
      (pow_le_roundUnits pos le_rfl ((Nat.le_div_iff_mul_le pos).mp above))
  · have spacings : spacing (num / den) = spacing (num' / den) := by
      simp only [spacing, same]
    dsimp only [roundUnits]
    rw [spacings]
    exact Nat.mul_le_mul_right _ (roundDiv_mono (Nat.mul_pos pos (spacing_pos _)) h)

theorem roundUnits_near (n : Nat) :
    2 * n ≤ 2 * roundUnits n 1 + spacing n ∧ 2 * roundUnits n 1 ≤ 2 * n + spacing n := by
  have near := @roundDiv_near n _ (spacing_pos n)
  simpa only [roundUnits, Nat.div_one, Nat.one_mul] using near

end Magnitudes

section Integers

theorem exists_unitsPerOne_eq : ∃ e, unitsPerOne = 2 ^ e := by
  unfold unitsPerOne
  generalize 1074 = e
  exact ⟨e, rfl⟩

theorem unitsPerOne_pos : 0 < unitsPerOne := by
  obtain ⟨e, power⟩ := exists_unitsPerOne_eq
  exact power ▸ Nat.two_pow_pos e

/-- Integers of 64 bits have 11 bits more than the significant ones. -/
theorem spacing_le {n : Nat} (h : n < 2 ^ 64) : spacing (n * unitsPerOne) ≤ 2048 * unitsPerOne := by
  obtain ⟨e, power⟩ := exists_unitsPerOne_eq
  rw [power]
  have unit : 0 < 2 ^ e := Nat.two_pow_pos e
  rcases Nat.eq_zero_or_pos n with rfl | pos
  · rw [Nat.zero_mul]
    exact Nat.mul_pos (by decide) unit
  · have bits : (n * 2 ^ e).log2 < 64 + e := by
      rw [Nat.log2_lt (Nat.mul_pos pos unit).ne', Nat.pow_add]
      exact Nat.mul_lt_mul_of_pos_right h unit
    calc spacing (n * 2 ^ e) ≤ 2 ^ (11 + e) := Nat.pow_le_pow_right (by decide) (by omega)
      _ = 2048 * 2 ^ e := Nat.pow_add 2 11 e

theorem signed_ofInt (i : Int) : (ofInt i).signed =
    if i < 0 then -(roundUnits (i.natAbs * unitsPerOne) 1 : Int)
    else roundUnits (i.natAbs * unitsPerOne) 1 := by
  simp only [signed, ofInt, ofNat, decide_eq_true_eq]

theorem signed_ofInt_mono {x y : Int} (h : x ≤ y) : (ofInt x).signed ≤ (ofInt y).signed := by
  have closer {m n : Nat} (h : m ≤ n) :
      roundUnits (m * unitsPerOne) 1 ≤ roundUnits (n * unitsPerOne) 1 :=
    roundUnits_mono Nat.one_pos (Nat.mul_le_mul_right _ h)
  rw [signed_ofInt, signed_ofInt]
  by_cases left : x < 0
  · by_cases right : y < 0
    · rw [if_pos left, if_pos right]
      have units := closer (m := y.natAbs) (n := x.natAbs) (by omega)
      omega
    · rw [if_pos left, if_neg right]
      omega
  · rw [if_neg left, if_neg (by omega)]
    have units := closer (m := x.natAbs) (n := y.natAbs) (by omega)
    omega

/-- Two integers stand as their nearest values do, unless these are equal. -/
theorem compare_ofInt {x y : Int} (h : (ofInt x).signed ≠ (ofInt y).signed) :
    (ofInt x).compare (ofInt y) = Ord.compare x y := by
  have less {x y : Int} (h : (ofInt x).signed < (ofInt y).signed) : x < y :=
    Int.not_le.mp fun le => Int.not_le.mpr h (signed_ofInt_mono le)
  rcases lt_or_gt_of_ne h with lt | gt
  · rw [compare, compare_lt_iff_lt.mpr lt, compare_lt_iff_lt.mpr (less lt)]
  · rw [compare, compare_gt_iff_gt.mpr gt, compare_gt_iff_gt.mpr (less gt)]

theorem signed_ofInt_near {i : Int} (h : i.natAbs < 2 ^ 64) :
    i * unitsPerOne ≤ (ofInt i).signed + 1024 * unitsPerOne ∧
      (ofInt i).signed ≤ i * unitsPerOne + 1024 * unitsPerOne := by
  have near := roundUnits_near (i.natAbs * unitsPerOne)
  have step := spacing_le h
  rw [signed_ofInt]
  by_cases below : i < 0
  · have units : i * unitsPerOne = -((i.natAbs * unitsPerOne : Nat) : Int) := by
      rw [Int.natCast_mul, ← Int.neg_mul, Int.ofNat_natAbs_of_nonpos below.le, Int.neg_neg]
    rw [if_pos below, units]
    omega
  · have units : i * unitsPerOne = ((i.natAbs * unitsPerOne : Nat) : Int) := by
      rw [Int.natCast_mul, Int.natAbs_of_nonneg (not_lt.mp below)]
    rw [if_neg below, units]
    omega

/-- Integers further apart than the widest spacing of 64 bits have different nearest values. -/
theorem signed_ofInt_ne {x y : Int} (hx : x.natAbs < 2 ^ 64) (hy : y.natAbs < 2 ^ 64)
    (apart : 2048 < (x - y).natAbs) : (ofInt x).signed ≠ (ofInt y).signed := by
  intro same
  have first := signed_ofInt_near hx
  have second := signed_ofInt_near hy
  have unit : (0 : Int) < unitsPerOne := Int.natCast_pos.mpr unitsPerOne_pos
  have close {x y : Int} (h : x * unitsPerOne ≤ y * unitsPerOne + 2048 * unitsPerOne) :
      x ≤ y + 2048 := by
    rw [← Int.add_mul] at h
    exact Int.le_of_mul_le_mul_right h unit
  have above : x ≤ y + 2048 := close (by omega)
  have below : y ≤ x + 2048 := close (by omega)
  omega

end Integers

end StatusWatch.Binary64
