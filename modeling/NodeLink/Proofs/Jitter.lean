import NodeLink.Proofs.Growth
import NodeLink.Proofs.Loading

/-!
# When a wait has no jitter to draw

A backoff with jitter draws from a range around nought, and there is no delay if the range is not
one. This module says for which parameters, and before which attempts, that happens.

It takes the signs of products only. The sign of a product of doubles is the product of the signs,
where a product that is rounded to zero, or is not a number, counts as having none. So a power is
negative only if its base is negative and its exponent odd, and then alone the capped delay can be
negative, from which a positive jitter makes a range that is turned round.

Settings in a file can name such parameters: a jitter that is not a number passes the clamp, and
leaves the link without a delay before every attempt.
-/

set_option autoImplicit false

namespace NodeLink

namespace Number.Binary64

/-! ## Signs -/

theorem less_zero_iff {x : Binary64} : x.less (zero false) = true ↔ x.rank < 0 := by
  cases x <;> simp [less, isNaN, zero, rank]

theorem zero_less_iff {x : Binary64} : (zero false).less x = true ↔ 0 < x.rank := by
  cases x <;> simp [less, isNaN, zero, rank]

theorem same_zero_iff {x : Binary64} :
    x.same (zero false) = true ↔ x.isNaN = false ∧ x.rank = 0 := by
  cases x <;> simp [same, isNaN, zero, rank]

theorem rank_of_isNaN {x : Binary64} (h : x.isNaN = true) : x.rank = 0 := by
  cases x with
  | nan => rfl
  | infinity _ => cases h
  | finite _ _ _ => cases h

@[simp] theorem isNaN_neg (x : Binary64) : (-x).isNaN = x.isNaN := by
  cases x <;> rfl

@[simp] theorem rank_neg (x : Binary64) : (-x).rank = -x.rank := by
  show (neg x).rank = _
  cases x with
  | nan => rfl
  | infinity negative => cases negative <;> simp [neg, rank]
  | finite negative code bound => cases negative <;> simp [neg, rank]

theorem rank_atCode_nonneg (code : Nat) : 0 ≤ (atCode code).rank := by
  rw [rank_atCode]
  split <;> omega

/-- Whether a number has the sign, zero among them. -/
def negative : Binary64 → Bool
  | nan => false
  | infinity negative => negative
  | finite negative _ _ => negative

theorem rank_nonpos_of_negative {x : Binary64} (h : x.negative = true) : x.rank ≤ 0 := by
  cases x with
  | nan => exact Int.le_refl 0
  | infinity s => rw [show s = true from h]; simp [rank]
  | finite s code bound => rw [show s = true from h]; simp [rank]

theorem rank_nonneg_of_negative {x : Binary64} (h : x.negative = false) : 0 ≤ x.rank := by
  cases x with
  | nan => exact Int.le_refl 0
  | infinity s => rw [show s = false from h]; simp [rank]
  | finite s code bound => rw [show s = false from h]; simp [rank]

theorem negative_ofGrains (s : Bool) (num den : Nat) : (ofGrains s num den).negative = s := by
  unfold ofGrains
  dsimp only
  split <;> rfl

theorem rank_ofGrains_zero (s : Bool) {den : Nat} (pos : 0 < den) :
    (ofGrains s 0 den).rank = 0 := by
  have finite : ofGrains s 0 den = zero s := by
    unfold ofGrains zero
    simp only [nearestCode_zero pos]
    exact dif_pos (by decide)
  rw [finite]
  cases s <;> rfl

theorem negative_mul {x y : Binary64} (h : (x * y).negative = true) :
    x.negative ≠ y.negative := by
  have differ : ∀ {s t : Bool}, (s != t) = true → s ≠ t := by decide
  replace h : (mul x y).negative = true := h
  cases x with
  | nan => cases h
  | infinity s =>
    cases y with
    | nan => cases h
    | infinity t => exact differ h
    | finite t d bound =>
      rw [mul] at h
      split at h
      · cases h
      · exact differ h
  | finite s c bound =>
    cases y with
    | nan => cases h
    | infinity t =>
      rw [mul] at h
      split at h
      · cases h
      · exact differ h
    | finite t d bound' =>
      rw [mul, negative_ofGrains] at h
      exact differ h

theorem rank_eq_zero {x : Binary64} (h : x.rank = 0) :
    x = nan ∨ ∃ s, x = zero s := by
  have top : infinityCode ≠ 0 := by decide
  cases x with
  | nan => exact .inl rfl
  | infinity s => cases s <;> simp [rank, top] at h
  | finite s code bound =>
    have nothing : code = 0 := by cases s <;> simpa [rank] using h
    subst nothing
    exact .inr ⟨s, rfl⟩

/-- A product without a factor has no rank. -/
theorem rank_zero_mul {x : Binary64} (h : x.rank = 0) (y : Binary64) : (x * y).rank = 0 := by
  show (mul x y).rank = 0
  obtain rfl | ⟨s, rfl⟩ := rank_eq_zero h
  · rfl
  · cases y with
    | nan => rfl
    | infinity t => rfl
    | finite t d bound =>
      rw [zero, mul, grainsOf_zero, Nat.zero_mul]
      exact rank_ofGrains_zero _ grainsPerUnit_pos

/-- A product is negative only if one factor is negative and the other one positive. -/
theorem rank_mul_neg {x y : Binary64} (h : (x * y).rank < 0) :
    x.rank < 0 ∧ 0 < y.rank ∨ 0 < x.rank ∧ y.rank < 0 := by
  have left : x.rank ≠ 0 := by
    intro nothing
    rw [rank_zero_mul nothing] at h
    exact Int.lt_irrefl 0 h
  have right : y.rank ≠ 0 := by
    intro nothing
    rw [Binary64.mul_comm, rank_zero_mul nothing] at h
    exact Int.lt_irrefl 0 h
  have sign : (x * y).negative = true := by
    by_contra plain
    have nonneg := rank_nonneg_of_negative (Bool.not_eq_true _ ▸ plain)
    omega
  have differ := negative_mul sign
  cases hx : x.negative with
  | true =>
    have hy : y.negative = false := by rw [hx] at differ; simpa using differ.symm
    have := rank_nonpos_of_negative hx
    have := rank_nonneg_of_negative hy
    omega
  | false =>
    have hy : y.negative = true := by rw [hx] at differ; simpa using differ.symm
    have := rank_nonneg_of_negative hx
    have := rank_nonpos_of_negative hy
    omega

theorem isNaN_mul_right (x : Binary64) {y : Binary64} (h : y.isNaN = true) :
    (x * y).isNaN = true := by
  cases y with
  | nan => cases x <;> rfl
  | infinity _ => cases h
  | finite _ _ _ => cases h

/-- A product with a positive number that is finite is a number. -/
theorem isNaN_mul {x y : Binary64} (number : x.isNaN = false) (pos : 0 < y.rank)
    (finite : y.rank < infinityCode) : (x * y).isNaN = false := by
  show (mul x y).isNaN = false
  cases y with
  | nan => exact absurd pos (by decide)
  | infinity t => cases t <;> simp [rank] at pos finite; omega
  | finite t d bound =>
    have something : d ≠ 0 := by
      rintro rfl
      cases t <;> simp [rank] at pos
    cases x with
    | nan => cases number
    | infinity s => rw [mul, if_neg something]; rfl
    | finite s c bound' =>
      rw [mul]
      unfold ofGrains
      dsimp only
      split <;> rfl

/-- A product is negative only if one factor is. -/
theorem rank_mul_nonneg {x y : Binary64} (hx : 0 ≤ x.rank) (hy : 0 ≤ y.rank) :
    0 ≤ (x * y).rank := by
  by_contra negative
  have signs := rank_mul_neg (Int.not_le.mp negative)
  omega

theorem rank_square_nonneg (x : Binary64) : 0 ≤ (x * x).rank := by
  by_contra negative
  have signs := rank_mul_neg (Int.not_le.mp negative)
  omega

/-- A power is negative only if its base is negative and its exponent odd. -/
theorem rank_powFrom_nonneg {b r : Binary64} {k : Nat} (hr : 0 ≤ r.rank)
    (hb : 0 ≤ b.rank ∨ k % 2 = 0) : 0 ≤ (powFrom b r k).rank := by
  induction k using Nat.evenOddRec generalizing b r with
  | h0 =>
    rw [powFrom_zero]
    exact hr
  | h_even k ih =>
    rw [powFrom_even]
    exact ih hr (.inl (rank_square_nonneg b))
  | h_odd k ih =>
    have plain : 0 ≤ b.rank := hb.resolve_right (by omega)
    rw [powFrom_odd]
    exact ih (rank_mul_nonneg hr plain) (.inl (rank_square_nonneg b))

/-! ## The clamp -/

section Clamp

variable {high : Binary64} (number : high.isNaN = false)

include number

/-- The clamp keeps what is not a number. -/
theorem isNaN_clamp (x : Binary64) : (x.clamp (zero false) high).isNaN = x.isNaN := by
  cases h : x.isNaN with
  | true => simp [clamp, less, h]
  | false =>
    have raised : (if x.less (zero false) then zero false else x).isNaN = false := by
      split
      · rfl
      · exact h
    unfold clamp
    dsimp only
    generalize (if x.less (zero false) = true then zero false else x) = y at raised ⊢
    split
    · exact number
    · exact raised

theorem rank_clamp (pos : 0 < high.rank) (x : Binary64) :
    (x.clamp (zero false) high).rank = Max.max 0 (Min.min x.rank high.rank) := by
  have origin : (zero false).rank = 0 := rfl
  have above : ∀ {y : Binary64}, high.less y = true ↔ high.rank < y.rank := by
    intro y
    cases h : y.isNaN with
    | true =>
      have := rank_of_isNaN h
      simp [less, h]
      omega
    | false => simp [less, h, number]
  unfold clamp
  dsimp only
  by_cases low : x.less (zero false) = true
  · have below := less_zero_iff.mp low
    rw [if_pos low, if_neg (by rw [above]; omega)]
    omega
  · have nonneg := Int.not_lt.mp (mt less_zero_iff.mpr low)
    rw [if_neg low]
    split
    next beyond =>
      have := above.mp beyond
      omega
    next within =>
      have := mt above.mpr within
      omega

end Clamp

/-- The smaller of two numbers is one of them, and so is what is taken of one number alone. -/
theorem min_cases (x : Binary64) {y : Binary64} (number : y.isNaN = false) :
    Binary64.min x y = x ∧ x.isNaN = false ∨ Binary64.min x y = y := by
  cases h : x.isNaN with
  | true => simp [Binary64.min, h]
  | false =>
    simp only [Binary64.min, h, number, Bool.false_eq_true, ↓reduceIte, and_true]
    split
    · exact .inr rfl
    · exact .inl rfl

theorem isNaN_one : (1 : Binary64).isNaN = false := isNaN_ofNat 1

theorem rank_one : (1 : Binary64).rank = powerCode 0 := by
  rw [one_eq, rank_atCode, if_pos (by decide)]

end Number.Binary64

open Number (Binary64 infinityCode)
open Number.Binary64 (less_zero_iff zero_less_iff same_zero_iff)

/-! ## The range -/

/-- A double and its opposite bound a range, in this order, if the double has no sign. -/
theorem Number.Binary64.neg_atMost_iff {x : Binary64} :
    (-x).atMost x = true ↔ x.isNaN = false ∧ 0 ≤ x.rank := by
  show -x ≤ x ↔ _
  rw [Binary64.le_iff, Binary64.isNaN_neg, Binary64.rank_neg]
  constructor
  · rintro ⟨-, number, range⟩
    exact ⟨number, by omega⟩
  · rintro ⟨number, range⟩
    exact ⟨number, number, by omega⟩

namespace Exponential

theorem isNaN_capped (e : Exponential) (attempt : UInt64) : (e.capped attempt).isNaN = false := by
  have cap := Binary64.isNaN_ofNat e.cap.toNat
  rw [capped_eq_factor]
  obtain ⟨same, number⟩ | same :=
    Binary64.min_cases (Binary64.ofNat e.base.toNat * e.factor attempt) cap
  · rw [same]
    exact number
  · rw [same]
    exact cap

/-- The capped delay is negative only for a multiplier that is and an odd power of it. -/
theorem rank_capped_neg {e : Exponential} {attempt : UInt64} (h : (e.capped attempt).rank < 0) :
    e.base ≠ 0 ∧ e.multiplier.rank < 0 ∧ min (attempt.toNat - 1) maxPower % 2 = 1 := by
  have base : 0 ≤ (Binary64.ofNat e.base.toNat).rank := Binary64.rank_atCode_nonneg _
  have cap : 0 ≤ (Binary64.ofNat e.cap.toNat).rank := Binary64.rank_atCode_nonneg _
  have product : (Binary64.ofNat e.base.toNat * e.factor attempt).rank < 0 := by
    rw [capped_eq_factor] at h
    obtain ⟨same, -⟩ | same := Binary64.min_cases
      (Binary64.ofNat e.base.toNat * e.factor attempt) (Binary64.isNaN_ofNat e.cap.toNat)
    · rw [same] at h
      exact h
    · rw [same] at h
      omega
  have negative : (e.factor attempt).rank < 0 ∧ 0 < (Binary64.ofNat e.base.toNat).rank := by
    have := Binary64.rank_mul_neg product
    omega
  refine ⟨?_, ?_⟩
  · intro nothing
    rw [nothing, UInt64.toNat_zero, Binary64.ofNat_zero] at negative
    exact absurd negative.2 (by decide)
  · have one : 0 ≤ (1 : Binary64).rank := by
      rw [Binary64.rank_one]
      exact Int.natCast_nonneg _
    by_contra plain
    have power : 0 ≤ (e.factor attempt).rank :=
      Binary64.rank_powFrom_nonneg one (by omega)
    omega

theorem delay?_eq_none_iff (e : Exponential) (draw : Binary64 → Binary64) (attempt : UInt64) :
    e.delay? draw attempt = none ↔
      ¬ e.jitter.same (.zero false) = true ∧
        ¬ (-(e.capped attempt * e.jitter)).atMost (e.capped attempt * e.jitter) = true := by
  unfold delay?
  dsimp only
  split
  next still => simp [still]
  next moves =>
    split
    next range => simp [range]
    next range => simp [moves, range]

/-- Without a number for a jitter there is no range. -/
theorem delay?_of_isNaN {e : Exponential} (h : e.jitter.isNaN = true) (draw : Binary64 → Binary64)
    (attempt : UInt64) : e.delay? draw attempt = none := by
  have range := Binary64.isNaN_mul_right (e.capped attempt) h
  rw [delay?_eq_none_iff, Binary64.neg_atMost_iff]
  simp [Binary64.same, h, range]

end Exponential

namespace Reconnect

theorem jitter_growth (r : Reconnect) :
    r.growth.jitter = r.jitter.clamp (.zero false) 1 := by
  simp only [growth, Exponential.withJitter]

theorem isNaN_jitter (r : Reconnect) : r.growth.jitter.isNaN = r.jitter.isNaN := by
  rw [jitter_growth, Binary64.isNaN_clamp Binary64.isNaN_one]

theorem rank_jitter (r : Reconnect) :
    r.growth.jitter.rank = max 0 (min r.jitter.rank (Binary64.powerCode 0)) := by
  have pos : 0 < (1 : Binary64).rank := by
    rw [Binary64.rank_one]
    decide
  rw [jitter_growth, Binary64.rank_clamp Binary64.isNaN_one pos, Binary64.rank_one]

/-- A delay is missing when the range of the jitter is not one. That is so before every attempt if
the jitter is not a number, and otherwise only for a jitter that is positive, and a negative number
that it is a fraction of: then the base is not zero, the multiplier is negative, and the attempt
takes an odd power of it. -/
theorem delay_missing_iff (r : Reconnect) (draw : Binary64 → Binary64) (attempt : UInt64) :
    (r.growth.delay? draw attempt = none ↔
      r.jitter.isNaN = true ∨
        (Binary64.zero false).less r.jitter = true ∧
          (r.growth.capped attempt * r.growth.jitter).less (.zero false) = true) ∧
    ((r.growth.capped attempt * r.growth.jitter).less (.zero false) = true →
      r.base ≠ 0 ∧ r.multiplier.less (.zero false) = true ∧
        min (attempt.toNat - 1) Exponential.maxPower % 2 = 1) := by
  have jitter := rank_jitter r
  have last : (Binary64.powerCode 0 : Int) < infinityCode := by decide
  have pos : (0 : Int) < Binary64.powerCode 0 := by decide
  constructor
  · cases nan : r.jitter.isNaN with
    | true =>
      have missing := Exponential.delay?_of_isNaN ((isNaN_jitter r).trans nan) draw attempt
      simp [missing]
    | false =>
      rw [Exponential.delay?_eq_none_iff, same_zero_iff, Binary64.neg_atMost_iff, zero_less_iff,
        less_zero_iff, isNaN_jitter, nan]
      by_cases moves : 0 < r.growth.jitter.rank
      · have range : (r.growth.capped attempt * r.growth.jitter).isNaN = false :=
          Binary64.isNaN_mul (Exponential.isNaN_capped _ _) moves (by omega)
        simp [range]
        omega
      · simp
        omega
  · intro negative
    rw [less_zero_iff] at negative ⊢
    refine Exponential.rank_capped_neg (e := r.growth) ?_
    have := Binary64.rank_mul_neg negative
    omega

/-- A negative multiplier leaves no delay before the second attempt, once there is a jitter. -/
theorem delay_missing_negative :
    ∃ r : Reconnect, r.jitter.isNaN = false ∧ r.multiplier = .ofInt (-2) ∧
      ∀ draw, r.growth.delay? draw 2 = none := by
  refine ⟨{ multiplier := .ofInt (-2), jitter := .ofDecimal false 5 (-1) }, by decide +kernel, rfl,
    fun draw => (delay_missing_iff _ draw 2).1.mpr (.inr ⟨?_, ?_⟩)⟩
  · decide +kernel
  · decide +kernel

end Reconnect

/-! ## Settings in a file -/

/-- Settings that name a jitter that is not a number are loaded, and leave no delay at all. -/
theorem Settings.loaded_without_delay :
    ∃ d s,
      ({} : Directory).write? "link.toml" "[reconnect]\njitter_factor = nan\n".toUTF8 = some d ∧
      Settings.load d "link.toml" = .ok s ∧
      ∀ draw attempt, s.reconnect.growth.delay? draw attempt = none := by
  have read : Settings.ofText? "[reconnect]\njitter_factor = nan\n".toList =
      some { reconnect := { jitter := .nan } } := by decide +kernel
  have name : Directory.fileName? "link.toml" = some "link.toml" := by decide +kernel
  obtain ⟨d, written⟩ : ∃ d, ({} : Directory).write? "link.toml"
      "[reconnect]\njitter_factor = nan\n".toUTF8 = some d := by
    rw [Directory.write?, name]
    exact ⟨_, rfl⟩
  refine ⟨d, _, written, load_written written read, fun draw attempt => ?_⟩
  exact Exponential.delay?_of_isNaN (Reconnect.isNaN_jitter _) draw attempt

end NodeLink
