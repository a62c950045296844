import Mathlib.Algebra.Order.Ring.Nat
import Mathlib.Tactic.Ring
import NodeLink.Number.Binary64

/-!
# Rounding to the nearest double

The magnitudes that a double can have are taken through their codes. This module says what the
nearest code of a quotient of grains is: it grows with the quotient, it does not depend on how the
quotient is written, and a quotient that a code stands for is rounded to that code. So natural
numbers up to two to the power of 53 are doubles exactly.

Rounding is only compared and never measured: no bound on its error is shown, and none is needed
for a power that is either exact or beyond every cap.
-/

set_option autoImplicit false

namespace NodeLink.Number

/-! ## The rounded quotient -/

theorem divideHalfEven_bounds (num den : Nat) :
    num / den ≤ divideHalfEven num den ∧ divideHalfEven num den ≤ num / den + 1 := by
  unfold divideHalfEven
  split
  · omega
  · split <;> omega

/-- A larger quotient is not rounded to a smaller number. -/
theorem divideHalfEven_mono {num num' : Nat} (den : Nat) (h : num ≤ num') :
    divideHalfEven num den ≤ divideHalfEven num' den := by
  have quotients := Nat.div_le_div_right (c := den) h
  rcases Nat.lt_or_eq_of_le quotients with less | same
  · have low := (divideHalfEven_bounds num den).2
    have high := (divideHalfEven_bounds num' den).1
    omega
  · -- with the same whole part, the remainders decide
    have rest := Nat.div_add_mod num den
    have rest' := Nat.div_add_mod num' den
    rw [← same] at rest'
    unfold divideHalfEven
    rw [← same]
    split
    · split
      · omega
      · split <;> omega
    · split
      · split
        · omega
        · split <;> omega
      · split
        · omega
        · split <;> omega

theorem divideHalfEven_mul_right (n : Nat) {den : Nat} (pos : 0 < den) :
    divideHalfEven (n * den) den = n := by
  have even : 2 * (n * den % den) < den := by rw [Nat.mul_mod_left]; exact pos
  rw [divideHalfEven, if_pos even, Nat.mul_div_cancel n pos]

/-- A quotient may be widened. -/
theorem divideHalfEven_widen (num den : Nat) {k : Nat} (pos : 0 < k) :
    divideHalfEven (num * k) (den * k) = divideHalfEven num den := by
  have quotient : num * k / (den * k) = num / den := Nat.mul_div_mul_right num den pos
  have rest : num * k % (den * k) = num % den * k := Nat.mul_mod_mul_right k num den
  have below : 2 * (num % den * k) < den * k ↔ 2 * (num % den) < den := by
    rw [← Nat.mul_assoc]
    exact Nat.mul_lt_mul_right pos
  have above : den * k < 2 * (num % den * k) ↔ den < 2 * (num % den) := by
    rw [← Nat.mul_assoc]
    exact Nat.mul_lt_mul_right pos
  simp only [divideHalfEven, quotient, rest, below, above]

namespace Binary64

/-! ## Codes and grains -/

/-- A scale and a significand that belong to each other: the leading bit is in its place, unless the
number is subnormal. The significand after the last one of a scale is allowed, since rounding can
end there. -/
structure Fits (scale significand : Nat) : Prop where
  upper : significand ≤ 2 ^ 53
  lower : scale = 0 ∨ 2 ^ 52 ≤ significand

/-- What the code stands for that a scale and a significand make. -/
theorem grainsOf_of_fits {scale significand : Nat} (fits : Fits scale significand) :
    grainsOf (scale * 2 ^ 52 + significand) = significand * 2 ^ scale := by
  obtain ⟨upper, lower⟩ := fits
  simp only [grainsOf, significandOf, scaleOf, Nat.pow_eq]
  by_cases last : significand = 2 ^ 53
  · -- the significand carries over into the next scale
    have there : (scale * 2 ^ 52 + significand) / 2 ^ 52 - 1 = scale + 1 := by omega
    have small : ¬ scale * 2 ^ 52 + significand < 2 ^ 52 := by omega
    have low : (scale * 2 ^ 52 + significand) % 2 ^ 52 = 0 := by omega
    rw [there, if_neg small, low, last, Nat.pow_succ 2 scale]
    ring
  · by_cases subnormal : significand < 2 ^ 52
    · have zero : scale = 0 := by omega
      subst zero
      have there : (0 * 2 ^ 52 + significand) / 2 ^ 52 - 1 = 0 := by omega
      have small : 0 * 2 ^ 52 + significand < 2 ^ 52 := by omega
      rw [there, if_pos small, Nat.zero_mul, Nat.zero_add]
    · have there : (scale * 2 ^ 52 + significand) / 2 ^ 52 - 1 = scale := by omega
      have small : ¬ scale * 2 ^ 52 + significand < 2 ^ 52 := by omega
      have low : 2 ^ 52 + (scale * 2 ^ 52 + significand) % 2 ^ 52 = significand := by omega
      rw [there, if_neg small, low]

/-- Every code is made of a scale and a significand. -/
theorem code_eq (code : Nat) :
    ∃ scale significand, Fits scale significand ∧ code = scale * 2 ^ 52 + significand := by
  by_cases subnormal : code < 2 ^ 52
  · exact ⟨0, code, ⟨by omega, .inl rfl⟩, by omega⟩
  · refine ⟨code / 2 ^ 52 - 1, 2 ^ 52 + code % 2 ^ 52, ⟨by omega, .inr (by omega)⟩, ?_⟩
    omega

/-! ## The nearest code -/

/-- The scale at which a whole number of grains is rounded. -/
theorem scale_spec (q : Nat) :
    q < 2 ^ (q.log2 - 52 + 53) ∧ (q.log2 - 52 = 0 ∨ 2 ^ (q.log2 - 52 + 52) ≤ q) := by
  constructor
  · calc q < 2 ^ (q.log2 + 1) := Nat.lt_log2_self
      _ ≤ 2 ^ (q.log2 - 52 + 53) := Nat.pow_le_pow_right (by decide) (by omega)
  · by_cases small : q.log2 - 52 = 0
    · exact .inl small
    · have whole : q.log2 - 52 + 52 = q.log2 := by omega
      have nonzero : q ≠ 0 := by
        intro zero
        rw [zero, Nat.log2_zero] at small
        omega
      rw [whole]
      exact .inr (Nat.log2_self_le nonzero)

/-- There is only one such scale. -/
theorem scale_unique {q s : Nat} (upper : q < 2 ^ (s + 53)) (lower : s = 0 ∨ 2 ^ (s + 52) ≤ q) :
    q.log2 - 52 = s := by
  obtain ⟨upper', lower'⟩ := scale_spec q
  generalize q.log2 - 52 = t at upper' lower' ⊢
  have le : ∀ {a b : Nat}, q < 2 ^ (a + 53) → (b = 0 ∨ 2 ^ (b + 52) ≤ q) → b ≤ a := by
    intro a b high low
    rcases low with rfl | low
    · exact Nat.zero_le a
    · have powers := (Nat.pow_lt_pow_iff_right (by decide)).mp (Nat.lt_of_le_of_lt low high)
      omega
  exact Nat.le_antisymm (le upper lower') (le upper' lower)

/-- The nearest code, as the scale and the significand that it is made of. -/
theorem nearestCode_eq (num den : Nat) :
    ∃ scale significand, scale = (num / den).log2 - 52 ∧
      significand = divideHalfEven num (den * 2 ^ scale) ∧ Fits scale significand ∧
      nearestCode num den = scale * 2 ^ 52 + significand := by
  refine ⟨_, _, rfl, rfl, ?_, by simp only [nearestCode, Nat.pow_eq]⟩
  obtain ⟨upper, lower⟩ := scale_spec (num / den)
  generalize (num / den).log2 - 52 = scale at upper lower ⊢
  have bounds := divideHalfEven_bounds num (den * 2 ^ scale)
  have quotient : num / (den * 2 ^ scale) = num / den / 2 ^ scale :=
    (Nat.div_div_eq_div_mul num den (2 ^ scale)).symm
  rw [quotient] at bounds
  have high : num / den / 2 ^ scale < 2 ^ 53 := by
    rw [Nat.div_lt_iff_lt_mul (Nat.two_pow_pos scale), ← Nat.pow_add, Nat.add_comm]
    exact upper
  refine ⟨by omega, lower.imp_right fun low => ?_⟩
  have enough : 2 ^ 52 ≤ num / den / 2 ^ scale := by
    rw [Nat.le_div_iff_mul_le (Nat.two_pow_pos scale), ← Nat.pow_add, Nat.add_comm]
    exact low
  omega

/-- A larger quotient has no smaller code. -/
theorem nearestCode_mono {num num' : Nat} (den : Nat) (h : num ≤ num') :
    nearestCode num den ≤ nearestCode num' den := by
  obtain ⟨s, m, hs, hm, fits, code⟩ := nearestCode_eq num den
  obtain ⟨s', m', hs', hm', fits', code'⟩ := nearestCode_eq num' den
  rw [code, code']
  have scales : s ≤ s' := by
    obtain ⟨-, lower⟩ := scale_spec (num / den)
    obtain ⟨upper, -⟩ := scale_spec (num' / den)
    rw [← hs] at lower
    rw [← hs'] at upper
    rcases lower with zero | lower
    · omega
    · have quotients := Nat.div_le_div_right (c := den) h
      have powers := (Nat.pow_lt_pow_iff_right (by decide)).mp
        (Nat.lt_of_le_of_lt (Nat.le_trans lower quotients) upper)
      omega
  rcases Nat.lt_or_eq_of_le scales with less | rfl
  · -- the last significand of one scale is the first one of the next
    have upper := fits.upper
    have lower := fits'.lower.resolve_left (by omega)
    omega
  · have significands : m ≤ m' := by
      rw [hm, hm']
      exact divideHalfEven_mono _ h
    omega

/-- The nearest code does not depend on how a quotient is written. -/
theorem nearestCode_widen (num den : Nat) {k : Nat} (pos : 0 < k) :
    nearestCode (num * k) (den * k) = nearestCode num den := by
  have quotient : num * k / (den * k) = num / den := Nat.mul_div_mul_right num den pos
  unfold nearestCode
  rw [quotient]
  dsimp only
  rw [Nat.mul_right_comm den k, divideHalfEven_widen _ _ pos]

/-- What a code stands for is rounded to that code. -/
theorem nearestCode_grainsOf (code : Nat) {den : Nat} (pos : 0 < den) :
    nearestCode (grainsOf code * den) den = code := by
  obtain ⟨scale, significand, fits, rfl⟩ := code_eq code
  rw [grainsOf_of_fits fits]
  have quotient : significand * 2 ^ scale * den / den = significand * 2 ^ scale :=
    Nat.mul_div_cancel _ pos
  by_cases last : significand = 2 ^ 53
  · -- rounding finds the first significand of the next scale
    have same : significand * 2 ^ scale = 2 ^ (scale + 53) := by
      rw [last, ← Nat.pow_add, Nat.add_comm]
    have found : (significand * 2 ^ scale).log2 - 52 = scale + 1 := by
      rw [same, Nat.log2_two_pow]
      omega
    have half : significand * 2 ^ scale * den = 2 ^ 52 * (den * 2 ^ (scale + 1)) := by
      rw [last, Nat.pow_succ 2 scale]
      ring
    simp only [nearestCode, quotient, found, Nat.pow_eq]
    rw [half, divideHalfEven_mul_right _ (Nat.mul_pos pos (Nat.two_pow_pos _))]
    omega
  · have found : (significand * 2 ^ scale).log2 - 52 = scale := by
      refine scale_unique ?_ (fits.lower.imp_right fun low => ?_)
      · rw [Nat.add_comm scale, Nat.pow_add]
        exact Nat.mul_lt_mul_of_pos_right (by have := fits.upper; omega) (Nat.two_pow_pos scale)
      · rw [Nat.add_comm scale, Nat.pow_add]
        exact Nat.mul_le_mul_right _ low
    have whole : significand * 2 ^ scale * den = significand * (den * 2 ^ scale) := by ring
    simp only [nearestCode, quotient, found, Nat.pow_eq]
    rw [whole, divideHalfEven_mul_right _ (Nat.mul_pos pos (Nat.two_pow_pos _))]

theorem grainsOf_zero : grainsOf 0 = 0 := by decide

/-- Nothing is rounded to nothing. -/
theorem nearestCode_zero {den : Nat} (pos : 0 < den) : nearestCode 0 den = 0 := by
  have code := nearestCode_grainsOf 0 pos
  rwa [grainsOf_zero, Nat.zero_mul] at code

/-- A larger code stands for no fewer grains. -/
theorem grainsOf_mono {code code' : Nat} (h : code ≤ code') : grainsOf code ≤ grainsOf code' := by
  by_contra fewer
  have codes := nearestCode_mono 1
    (Nat.mul_le_mul_right 1 (Nat.le_of_lt (Nat.not_le.mp fewer)))
  rw [nearestCode_grainsOf code' Nat.one_pos, nearestCode_grainsOf code Nat.one_pos] at codes
  have same : code = code' := Nat.le_antisymm h codes
  rw [same] at fewer
  exact fewer (Nat.le_refl _)

/-! ## Powers of two and natural numbers -/

/-- The code of two to the power of a natural number. -/
def powerCode (n : Nat) : Nat := (1023 + n) * 2 ^ 52

/-- The number of grains is a power of two. Its exponent is kept from being evaluated. -/
theorem grainsPerUnit_eq {depth : Nat} (h : depth = 1074) : grainsPerUnit = 2 ^ depth := by
  unfold grainsPerUnit
  rw [← h, Nat.pow_eq]

theorem grainsPerUnit_pos : 0 < grainsPerUnit := by
  obtain ⟨depth, deep⟩ : ∃ depth, depth = 1074 := ⟨_, rfl⟩
  rw [grainsPerUnit_eq deep]
  exact Nat.two_pow_pos depth

theorem grainsOf_powerCode (n : Nat) : grainsOf (powerCode n) = 2 ^ n * grainsPerUnit := by
  have fits : Fits (1022 + n) (2 ^ 52) := ⟨by decide, .inr (Nat.le_refl _)⟩
  have code : powerCode n = (1022 + n) * 2 ^ 52 + 2 ^ 52 := by
    unfold powerCode
    omega
  obtain ⟨depth, deep⟩ : ∃ depth, depth = 1074 := ⟨_, rfl⟩
  have exponents : 52 + (1022 + n) = n + depth := by omega
  rw [code, grainsOf_of_fits fits, grainsPerUnit_eq deep, ← Nat.pow_add, ← Nat.pow_add, exponents]

/-- The code of a natural number. -/
def natCode (n : Nat) : Nat := nearestCode (n * grainsPerUnit) 1

theorem natCode_mono {n n' : Nat} (h : n ≤ n') : natCode n ≤ natCode n' :=
  nearestCode_mono 1 (Nat.mul_le_mul_right _ h)

theorem natCode_two_pow (n : Nat) : natCode (2 ^ n) = powerCode n := by
  have exact := nearestCode_grainsOf (powerCode n) Nat.one_pos
  rwa [grainsOf_powerCode, Nat.mul_one] at exact

/-- Natural numbers up to two to the power of 53 are rounded to themselves. -/
theorem grainsOf_natCode {n : Nat} (small : n ≤ 2 ^ 53) :
    grainsOf (natCode n) = n * grainsPerUnit := by
  rcases Nat.lt_or_eq_of_le small with less | rfl
  · obtain ⟨scale, significand, hs, hm, fits, code⟩ :=
      nearestCode_eq (n * grainsPerUnit) 1
    obtain ⟨depth, deep⟩ : ∃ depth, depth = 1074 := ⟨_, rfl⟩
    rw [Nat.div_one] at hs
    have few : scale ≤ depth := by
      rcases (scale_spec (n * grainsPerUnit)).2 with zero | lower
      · omega
      · rw [← hs] at lower
        have high : n * grainsPerUnit < 2 ^ 53 * grainsPerUnit :=
          Nat.mul_lt_mul_of_pos_right less grainsPerUnit_pos
        rw [grainsPerUnit_eq deep, ← Nat.pow_add 2 53] at high
        have powers := (Nat.pow_lt_pow_iff_right (by decide)).mp
          (Nat.lt_of_le_of_lt (grainsPerUnit_eq deep ▸ lower) high)
        omega
    have whole : n * grainsPerUnit = n * 2 ^ (depth - scale) * 2 ^ scale := by
      rw [Nat.mul_assoc, ← Nat.pow_add, Nat.sub_add_cancel few, grainsPerUnit_eq deep]
    rw [natCode, code, grainsOf_of_fits fits, hm, Nat.one_mul, whole,
      divideHalfEven_mul_right _ (Nat.two_pow_pos scale)]
  · rw [natCode_two_pow, grainsOf_powerCode]

end Binary64

end NodeLink.Number
