import NodeLink.Backoff
import NodeLink.Proofs.Powers

/-!
# Capped growth on natural numbers

A backoff whose base, cap and multiplier are natural numbers up to two to the power of 53, and
which has no jitter, waits what the closed form says: the base times a power of the multiplier, or
the cap where that is less. The closed form is taken of natural numbers without bound. Neither the
clamp on the exponent nor the overflow of the power shows in it, as both lie far beyond every cap.

There is one exception, a base of zero. Zero times a power is zero until the power overflows. Then
the product is not a number, the smaller of it and the cap is the cap, and the wait jumps from
nothing to the cap at once. The wait still never falls from one attempt to the next, and never
exceeds the cap.
-/

set_option autoImplicit false

namespace NodeLink.Exponential

open Number (Binary64 infinityCode)
open Number.Binary64 (exactLimit Stands powerCode atCode)

/-- What the base is multiplied by before an attempt. -/
def factor (e : Exponential) (attempt : UInt64) : Binary64 :=
  e.multiplier.pow (min (attempt.toNat - 1) maxPower)

/-- Parameters that are natural numbers and doubles at once, and no jitter. -/
structure Integral (e : Exponential) (m : Nat) : Prop where
  still : e.jitter.same (.zero false) = true
  multiplier : e.multiplier = .ofNat m
  one_le : 1 ≤ m
  small : m ≤ exactLimit
  base : e.base.toNat ≤ exactLimit
  cap : e.cap.toNat ≤ exactLimit

/-- The closed form of the wait before an attempt. -/
def closedForm (e : Exponential) (m : Nat) (attempt : UInt64) : Nat :=
  min (e.base.toNat * m ^ (max attempt.toNat 1 - 1)) e.cap.toNat

/-- The attempts at which the closed form fails: nothing is multiplied, and with too much. -/
def Overflows (e : Exponential) (attempt : UInt64) : Prop :=
  e.base = 0 ∧ e.factor attempt = .infinity false

theorem capped_eq_factor (e : Exponential) (attempt : UInt64) :
    e.capped attempt =
      Binary64.min (.ofNat e.base.toNat * e.factor attempt) (.ofNat e.cap.toNat) := by
  have spelled : ∀ a b : Nat, Nat.min a b = min a b := fun _ _ => rfl
  simp only [capped, factor, spelled]

variable {e : Exponential} {m : Nat} {attempt next : UInt64}

/-! ## The factor -/

theorem Integral.one_le_multiplier (whole : e.Integral m) : 1 ≤ e.multiplier := by
  rw [whole.multiplier]
  exact Binary64.ofNat_mono whole.one_le

theorem Integral.one_le_factor (whole : e.Integral m) (attempt : UInt64) :
    1 ≤ e.factor attempt :=
  Binary64.one_le_powFrom whole.one_le_multiplier Binary64.one_le_one _

/-- The factor never falls. -/
theorem Integral.factor_mono (whole : e.Integral m) (h : attempt ≤ next) :
    e.factor attempt ≤ e.factor next := by
  have attempts : attempt.toNat ≤ next.toNat := UInt64.le_iff_toNat_le.mp h
  refine Binary64.pow_mono_right whole.one_le_multiplier ?_
  omega

/-- The factor stands for a power, as far as the exponent goes. -/
theorem Integral.factor_stands (whole : e.Integral m) (attempt : UInt64) :
    Stands (e.factor attempt) (m ^ min (attempt.toNat - 1) maxPower) := by
  have base : Stands e.multiplier m := by
    rw [whole.multiplier]
    exact Binary64.stands_ofNat whole.small
  have one : Stands 1 1 := Binary64.stands_ofNat (by decide)
  have power := base.powFrom one whole.one_le (Nat.le_refl 1) (min (attempt.toNat - 1) maxPower)
  rwa [Nat.one_mul] at power

/-- From the 1025th attempt on, a factor that grows at all has overflowed. -/
theorem Integral.factor_eq_infinity (whole : e.Integral m) (two : 2 ≤ m)
    (late : 1025 ≤ attempt.toNat) : e.factor attempt = .infinity false := by
  have double : atCode (powerCode 1) ≤ e.multiplier := by
    rw [whole.multiplier, ← Binary64.natCode_two_pow, ← Binary64.ofNat_eq]
    exact Binary64.ofNat_mono two
  have one : atCode (powerCode 0) ≤ 1 := by
    rw [← Binary64.one_eq]
    exact Binary64.one_le_one
  have power := Binary64.powerCode_le_powFrom double one (min (attempt.toNat - 1) maxPower)
  have beyond : infinityCode ≤ powerCode (0 + 1 * min (attempt.toNat - 1) maxPower) := by
    have last : infinityCode = powerCode 1024 := by decide
    have clamp : 1024 ≤ maxPower := by decide
    rw [last]
    unfold powerCode
    omega
  rw [Binary64.atCode_beyond beyond] at power
  exact Binary64.eq_infinity power

/-- A factor that stays within the limit has not overflowed. -/
theorem Integral.factor_ne_infinity (whole : e.Integral m)
    (early : m ^ (max attempt.toNat 1 - 1) ≤ exactLimit) : e.factor attempt ≠ .infinity false := by
  have clamped : m ^ min (attempt.toNat - 1) maxPower ≤ m ^ (max attempt.toNat 1 - 1) :=
    Nat.pow_le_pow_right whole.one_le (by omega)
  have finite := clamped.trans early
  rw [(whole.factor_stands attempt).eq finite, Binary64.ofNat_eq_finite finite]
  exact Binary64.noConfusion

/-! ## The wait -/

/-- Beyond the clamp on the exponent, growth is beyond the cap, or there is no growth. -/
theorem Integral.closedForm_clamped (whole : e.Integral m) (attempt : UInt64) :
    min (e.base.toNat * m ^ min (attempt.toNat - 1) maxPower) e.cap.toNat =
      e.closedForm m attempt := by
  have exponent : max attempt.toNat 1 - 1 = attempt.toNat - 1 := by omega
  rw [closedForm, exponent]
  by_cases within : attempt.toNat - 1 ≤ maxPower
  · rw [Nat.min_eq_left within]
  · have beyond : maxPower ≤ attempt.toNat - 1 := by omega
    rw [Nat.min_eq_right beyond]
    rcases Nat.eq_zero_or_pos e.base.toNat with nothing | something
    · rw [nothing, Nat.zero_mul, Nat.zero_mul]
    · rcases Nat.lt_or_eq_of_le whole.one_le with grows | rfl
      · have capped : ∀ k, 53 ≤ k → e.cap.toNat ≤ e.base.toNat * m ^ k := by
          intro k many
          calc e.cap.toNat ≤ 2 ^ 53 := whole.cap
            _ ≤ 2 ^ k := Nat.pow_le_pow_right (by decide) many
            _ ≤ m ^ k := Nat.pow_le_pow_left grows k
            _ ≤ e.base.toNat * m ^ k := Nat.le_mul_of_pos_left _ something
        have many : 53 ≤ maxPower := by decide
        rw [Nat.min_eq_right (capped _ many), Nat.min_eq_right (capped _ (many.trans beyond))]
      · rw [Nat.one_pow, Nat.one_pow]

theorem closedForm_of_nothing (nothing : e.base.toNat = 0) : e.closedForm m attempt = 0 := by
  rw [closedForm, nothing, Nat.zero_mul, Nat.zero_min]

/-- The delay before an attempt is a natural number. -/
theorem Integral.capped_eq (whole : e.Integral m) (attempt : UInt64)
    [Decidable (e.Overflows attempt)] :
    e.capped attempt =
      .ofNat (if e.Overflows attempt then e.cap.toNat else e.closedForm m attempt) := by
  rw [capped_eq_factor]
  have one := whole.one_le_factor attempt
  rcases Nat.eq_zero_or_pos e.base.toNat with nothing | something
  · have base : e.base = 0 := UInt64.toNat_inj.mp nothing
    rw [nothing, Binary64.zero_mul one]
    by_cases overflow : e.factor attempt = .infinity false
    · rw [if_pos overflow, if_pos ⟨base, overflow⟩, Binary64.nan_min]
    · have not_over : ¬ e.Overflows attempt := fun h => overflow h.2
      rw [if_neg overflow, if_neg not_over, closedForm_of_nothing nothing,
        ← Nat.zero_min e.cap.toNat]
      exact (Binary64.stands_ofNat (Nat.zero_le _)).min whole.cap
  · have not_over : ¬ e.Overflows attempt := by
      intro overflow
      rw [overflow.1] at something
      exact Nat.lt_irrefl 0 something
    have base : Stands (.ofNat e.base.toNat) e.base.toNat := Binary64.stands_ofNat whole.base
    have stands := whole.factor_stands attempt
    rw [if_neg not_over, ← whole.closedForm_clamped]
    -- the exponent is a large literal as soon as it is looked into
    generalize min (attempt.toNat - 1) maxPower = k at stands ⊢
    exact (base.mul stands something (Nat.pow_pos whole.one_le)).min whole.cap

theorem Integral.delay_eq (whole : e.Integral m) (draw : Binary64 → Binary64) (attempt : UInt64)
    [Decidable (e.Overflows attempt)] :
    e.delay? draw attempt =
      some (if e.Overflows attempt then e.cap else .ofNat (e.closedForm m attempt)) := by
  have below : e.closedForm m attempt ≤ exactLimit := (Nat.min_le_right _ _).trans whole.cap
  rw [delay?, if_pos whole.still, whole.capped_eq]
  split
  next => rw [Binary64.toUInt64_ofNat whole.cap, UInt64.ofNat_toNat]
  next => rw [Binary64.toUInt64_ofNat below]

theorem toNat_closedForm (e : Exponential) (m : Nat) (attempt : UInt64) :
    (UInt64.ofNat (e.closedForm m attempt)).toNat = e.closedForm m attempt := by
  have below : e.closedForm m attempt ≤ e.cap.toNat := Nat.min_le_right _ _
  exact UInt64.toNat_ofNat_of_lt' (Nat.lt_of_le_of_lt below e.cap.toNat_lt)

theorem Integral.closedForm_mono (whole : e.Integral m) (h : attempt ≤ next) :
    e.closedForm m attempt ≤ e.closedForm m next := by
  have attempts : attempt.toNat ≤ next.toNat := UInt64.le_iff_toNat_le.mp h
  have powers : m ^ (max attempt.toNat 1 - 1) ≤ m ^ (max next.toNat 1 - 1) :=
    Nat.pow_le_pow_right whole.one_le (by omega)
  have products := Nat.mul_le_mul_left e.base.toNat powers
  unfold closedForm
  omega

/-- Before every attempt the wait is what the closed form says, and the cap where nothing is
multiplied with too much. It never falls, and never exceeds the cap. -/
theorem delay_integral (whole : e.Integral m) (draw : Binary64 → Binary64) (attempt : UInt64) :
    ∃ wait : UInt64, e.delay? draw attempt = some wait ∧
      (¬ e.Overflows attempt → wait.toNat = e.closedForm m attempt) ∧
      (e.Overflows attempt → wait = e.cap ∧ exactLimit < m ^ (max attempt.toNat 1 - 1)) ∧
      (e.base = 0 → 2 ≤ m → 1025 ≤ attempt.toNat → e.Overflows attempt) ∧
      wait ≤ e.cap ∧
      ∀ draw' next, attempt ≤ next → ∃ wait', e.delay? draw' next = some wait' ∧ wait ≤ wait' := by
  classical
  have capped : ∀ attempt, UInt64.ofNat (e.closedForm m attempt) ≤ e.cap := by
    intro attempt
    rw [UInt64.le_iff_toNat_le, toNat_closedForm]
    exact Nat.min_le_right _ _
  refine ⟨_, whole.delay_eq draw attempt, ?_, ?_, ?_, ?_, ?_⟩
  · intro exact
    rw [if_neg exact, toNat_closedForm]
  · intro overflow
    rw [if_pos overflow]
    refine ⟨rfl, Nat.lt_of_not_le fun early => ?_⟩
    exact whole.factor_ne_infinity early overflow.2
  · intro nothing grows late
    exact ⟨nothing, whole.factor_eq_infinity grows late⟩
  · split
    · exact UInt64.le_refl e.cap
    · exact capped attempt
  · intro draw' next later
    refine ⟨_, whole.delay_eq draw' next, ?_⟩
    have carried : e.Overflows attempt → e.Overflows next := by
      intro overflow
      have grown := whole.factor_mono later
      rw [overflow.2] at grown
      exact ⟨overflow.1, Binary64.eq_infinity grown⟩
    by_cases overflow : e.Overflows next
    · rw [if_pos overflow]
      split
      · exact UInt64.le_refl e.cap
      · exact capped attempt
    · rw [if_neg overflow, if_neg (mt carried overflow), UInt64.le_iff_toNat_le, toNat_closedForm,
        toNat_closedForm]
      exact whole.closedForm_mono later

@[simp] theorem multiplier_new (base cap : UInt64) (multiplier : Binary64) :
    (Exponential.new base cap multiplier).multiplier = multiplier := rfl

theorem integral_new {base cap : UInt64} (one : 1 ≤ m) (small : m ≤ exactLimit)
    (base_small : base.toNat ≤ exactLimit) (cap_small : cap.toNat ≤ exactLimit) :
    (Exponential.new base cap (.ofNat m)).Integral m where
  still := by
    show (Binary64.zero false).same (.zero false) = true
    decide
  multiplier := multiplier_new base cap _
  one_le := one
  small := small
  base := base_small
  cap := cap_small

/-- The wait before the seventh attempt, from 32 milliseconds by doubling. -/
theorem delay_doubling :
    (Exponential.new 32 4096 (.ofNat 2)).Integral 2 ∧
      (Exponential.new 32 4096 (.ofNat 2)).delay? id 7 = some 2048 := by
  have whole : (Exponential.new 32 4096 (.ofNat 2)).Integral 2 :=
    integral_new (by decide) (by decide) (by decide) (by decide)
  obtain ⟨wait, found, exact, -⟩ := delay_integral whole id 7
  have something : ¬ (Exponential.new 32 4096 (.ofNat 2)).Overflows 7 := by
    intro overflow
    exact absurd overflow.1 (by show ¬ (32 : UInt64) = 0; decide)
  have seventh : (Exponential.new 32 4096 (.ofNat 2)).closedForm 2 7 = 2048 := by
    show min ((32 : UInt64).toNat * 2 ^ (max (7 : UInt64).toNat 1 - 1)) (4096 : UInt64).toNat = 2048
    decide
  refine ⟨whole, ?_⟩
  rw [found, Option.some_inj, ← UInt64.toNat_inj, exact something, seventh]
  rfl

/-- From a base of zero the closed form is zero, and the wait does not stay so. -/
theorem zero_base_jumps :
    (Exponential.new 0 4096 (.ofNat 2)).Integral 2 ∧
      (Exponential.new 0 4096 (.ofNat 2)).closedForm 2 1025 = 0 ∧
      ∀ draw, (Exponential.new 0 4096 (.ofNat 2)).delay? draw 1025 = some 4096 := by
  classical
  have whole : (Exponential.new 0 4096 (.ofNat 2)).Integral 2 :=
    integral_new (by decide) (by decide) (by decide) (by decide)
  refine ⟨whole, closedForm_of_nothing rfl, fun draw => ?_⟩
  have overflow : (Exponential.new 0 4096 (.ofNat 2)).Overflows 1025 :=
    ⟨rfl, whole.factor_eq_infinity (by decide) (by decide)⟩
  rw [whole.delay_eq, if_pos overflow]
  rfl

end NodeLink.Exponential
