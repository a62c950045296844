import NodeLink.Number.Decimal
import NodeLink.Proofs.Digits
import NodeLink.Proofs.Rounding

/-!
# The shortest decimal reads back

A finite double is written with digits that are tried until they read back, and with its exact
value if none did. So the decimal that writes a double is read as that double, whichever of the two
it was. What there is to show is that the exact value reads back, that the digits may lose their
trailing zeros, and that the sign, which is not tried, changes nothing.

That seventeen digits are always enough, and that no fewer digits would do, is not shown; no reader
depends on it.
-/

set_option autoImplicit false

namespace NodeLink.Number

namespace Binary64

/-! ## One double for many decimals -/

/-- A quotient of grains may be widened. -/
theorem ofGrains_widen (negative : Bool) (num den : Nat) {k : Nat} (pos : 0 < k) :
    ofGrains negative (num * k) (den * k) = ofGrains negative num den := by
  unfold ofGrains
  dsimp only
  rw [nearestCode_widen num den pos]

/-- How far to the left a decimal begins. -/
def reach (digits : Nat) (exponent : Int) : Int := exponent + (Nat.toDigits 10 digits).length

/-- The cases of reading a decimal, with both signs of the exponent in one. -/
theorem ofDecimal_eq (negative : Bool) {digits : Nat} (exponent : Int) (nonzero : digits ≠ 0) :
    ofDecimal negative digits exponent =
      if 400 < reach digits exponent then infinity negative
      else if reach digits exponent < -400 then zero negative
      else ofGrains negative (digits * 10 ^ exponent.toNat * grainsPerUnit)
        (10 ^ (-exponent).toNat) := by
  unfold ofDecimal reach
  simp only [if_neg nonzero, Nat.pow_eq]
  by_cases sign : 0 ≤ exponent
  · have none : (-exponent).toNat = 0 := by omega
    rw [if_pos sign, none, Nat.pow_zero]
  · have none : exponent.toNat = 0 := by omega
    rw [if_neg sign, none, Nat.pow_zero, Nat.mul_one]

/-- A trailing zero may be moved into the exponent. -/
theorem ofDecimal_mul_ten (negative : Bool) (digits : Nat) (exponent : Int) :
    ofDecimal negative (digits * 10) (exponent - 1) = ofDecimal negative digits exponent := by
  by_cases none : digits = 0
  · subst none
    simp [ofDecimal]
  · have pos : 0 < digits := Nat.pos_of_ne_zero none
    have same : reach (digits * 10) (exponent - 1) = reach digits exponent := by
      unfold reach
      rw [length_toDigits_mul_ten pos]
      omega
    have grains : ofGrains negative (digits * 10 * 10 ^ (exponent - 1).toNat * grainsPerUnit)
        (10 ^ (-(exponent - 1)).toNat) =
        ofGrains negative (digits * 10 ^ exponent.toNat * grainsPerUnit)
          (10 ^ (-exponent).toNat) := by
      by_cases large : 1 ≤ exponent
      · -- the power of ten in the numerator has one factor more
        have more : exponent.toNat = (exponent - 1).toNat + 1 := by omega
        have num : digits * 10 * 10 ^ (exponent - 1).toNat * grainsPerUnit =
            digits * 10 ^ exponent.toNat * grainsPerUnit := by
          rw [more, Nat.pow_succ]
          ring
        have den : (-(exponent - 1)).toNat = (-exponent).toNat := by omega
        rw [num, den]
      · have more : (-(exponent - 1)).toNat = (-exponent).toNat + 1 := by omega
        have no : (exponent - 1).toNat = 0 ∧ exponent.toNat = 0 := by omega
        have num : digits * 10 * 10 ^ 0 * grainsPerUnit =
            digits * 10 ^ 0 * grainsPerUnit * 10 := by ring
        rw [more, no.1, no.2, Nat.pow_succ, num]
        exact ofGrains_widen negative _ _ (by decide)
    rw [ofDecimal_eq negative _ (Nat.mul_ne_zero none (by decide)), ofDecimal_eq negative _ none,
      same, grains]

theorem ofDecimal_mul_pow (negative : Bool) (digits n : Nat) (exponent : Int) :
    ofDecimal negative (digits * 10 ^ n) (exponent - n) = ofDecimal negative digits exponent := by
  induction n with
  | zero => simp
  | succ n ih =>
    have digits_eq : digits * 10 ^ (n + 1) = digits * 10 ^ n * 10 := by
      rw [Nat.pow_succ, Nat.mul_assoc]
    have exponent_eq : exponent - ((n + 1 : Nat) : Int) = exponent - n - 1 := by omega
    rw [digits_eq, exponent_eq, ofDecimal_mul_ten, ih]

/-- A decimal is read as an infinity or as a finite double, whatever its sign is. -/
theorem ofDecimal_cases (digits : Nat) (exponent : Int) :
    (∀ negative, ofDecimal negative digits exponent = infinity negative) ∨
      ∃ code, ∃ bound : code < infinityCode,
        ∀ negative, ofDecimal negative digits exponent = finite negative code bound := by
  by_cases none : digits = 0
  · exact .inr ⟨0, by decide, fun negative => by simp [ofDecimal, none, zero]⟩
  · simp only [ofDecimal_eq _ exponent none]
    split
    · exact .inl fun _ => rfl
    · split
      · exact .inr ⟨0, by decide, fun _ => rfl⟩
      · unfold ofGrains
        dsimp only
        split
        next bound => exact .inr ⟨_, bound, fun _ => rfl⟩
        next => exact .inl fun _ => rfl

/-- The sign of a decimal is the sign of the double. -/
theorem ofDecimal_of_finite {digits code : Nat} {exponent : Int} {bound : code < infinityCode}
    {s s' : Bool} (h : ofDecimal s digits exponent = finite s' code bound) (negative : Bool) :
    ofDecimal negative digits exponent = finite negative code bound := by
  rcases ofDecimal_cases digits exponent with beyond | ⟨found, bounded, there⟩
  · rw [beyond] at h
    cases h
  · rw [there] at h ⊢
    cases h
    rfl

/-- Only digits that are all zero are read as zero. -/
theorem digits_ne_zero_of_ofDecimal {digits code : Nat} {exponent : Int} {negative : Bool}
    {bound : code < infinityCode}
    (h : ofDecimal negative digits exponent = finite negative code bound) (nonzero : code ≠ 0) :
    digits ≠ 0 := by
  intro none
  subst none
  simp only [ofDecimal, ↓reduceIte, zero, finite.injEq, true_and] at h
  exact nonzero h.symm

/-! ## The exact value -/

theorem grainsOf_lt {code : Nat} (bound : code < infinityCode) :
    grainsOf code ≤ 2 ^ 1024 * grainsPerUnit := by
  have top : infinityCode = powerCode 1024 := by decide
  rw [← grainsOf_powerCode, ← top]
  exact grainsOf_mono (Nat.le_of_lt bound)

theorem grainsOf_pos {code : Nat} (nonzero : code ≠ 0) : 0 < grainsOf code := by
  refine Nat.pos_of_ne_zero fun none => nonzero ?_
  rw [← nearestCode_grainsOf code Nat.one_pos, none, Nat.zero_mul, nearestCode_zero Nat.one_pos]

end Binary64

namespace Decimal

open Binary64

/-- The exact value of a magnitude, with its depth below the point kept from being evaluated. -/
theorem exact_eq {depth : Nat} (deep : depth = 1074) (code : Nat) :
    exact code = ⟨grainsOf code * 5 ^ depth, -depth⟩ := by
  have below : (-1074 : Int) = -depth := by omega
  unfold exact
  rw [← deep, below, Nat.pow_eq]

/-- The exact value begins within the range in which decimals are looked at. -/
theorem reach_exact {depth code : Nat} (deep : depth = 1074) (nonzero : code ≠ 0)
    (bound : code < infinityCode) :
    -400 ≤ reach (grainsOf code * 5 ^ depth) (-depth) ∧
      reach (grainsOf code * 5 ^ depth) (-depth) ≤ 400 := by
  have pos := grainsOf_pos nonzero
  have long : ¬ (Nat.toDigits 10 (grainsOf code * 5 ^ depth)).length ≤ 2 * 358 := by
    rw [Nat.length_toDigits_le_iff (by decide) (by decide)]
    have fives : ∀ k, depth = 3 * k → 10 ^ (2 * k) ≤ 5 ^ depth := by
      intro k split
      calc 10 ^ (2 * k) = (10 ^ 2) ^ k := Nat.pow_mul 10 2 k
        _ ≤ (5 ^ 3) ^ k := Nat.pow_le_pow_left (by decide) k
        _ = 5 ^ depth := by rw [← Nat.pow_mul, split]
    have many := fives 358 deep
    have one := Nat.le_mul_of_pos_left (5 ^ depth) pos
    omega
  have short : ∀ k, 1024 < 3 * k →
      (Nat.toDigits 10 (grainsOf code * 5 ^ depth)).length ≤ k + depth := by
    intro k more
    rw [Nat.length_toDigits_le_iff (by decide) (by omega)]
    have twos : ∀ n, n < 3 * k → 2 ^ n < 10 ^ k := by
      intro n less
      calc 2 ^ n < 2 ^ (3 * k) := Nat.pow_lt_pow_right (by decide) less
        _ = (2 ^ 3) ^ k := Nat.pow_mul 2 3 k
        _ ≤ 10 ^ k := Nat.pow_le_pow_left (by decide) k
    calc grainsOf code * 5 ^ depth
        ≤ 2 ^ 1024 * grainsPerUnit * 5 ^ depth := Nat.mul_le_mul_right _ (grainsOf_lt bound)
      _ = 2 ^ 1024 * 10 ^ depth := by
        rw [grainsPerUnit_eq deep, Nat.mul_assoc, ← Nat.mul_pow]
      _ < 10 ^ k * 10 ^ depth :=
        Nat.mul_lt_mul_of_pos_right (twos 1024 more) (Nat.pow_pos (by decide))
      _ = 10 ^ (k + depth) := (Nat.pow_add 10 k depth).symm
  have few := short 342 (by decide)
  unfold reach
  omega

theorem toBinary64_exact {code : Nat} (nonzero : code ≠ 0) (bound : code < infinityCode) :
    (exact code).toBinary64 false = finite false code bound := by
  obtain ⟨depth, deep⟩ : ∃ depth, depth = 1074 := ⟨_, rfl⟩
  have fives : 0 < 5 ^ depth := Nat.pow_pos (by decide)
  have digits : grainsOf code * 5 ^ depth ≠ 0 :=
    Nat.mul_ne_zero (Nat.ne_of_gt (grainsOf_pos nonzero)) (Nat.ne_of_gt fives)
  have within := reach_exact deep nonzero bound
  have up : (-(depth : Int)).toNat = 0 := by omega
  have down : (-(-(depth : Int))).toNat = depth := by omega
  -- two and five make the ten of the denominator
  have grains : grainsOf code * 5 ^ depth * 10 ^ 0 * grainsPerUnit =
      grainsOf code * 10 ^ depth := by
    rw [grainsPerUnit_eq deep, Nat.pow_zero, Nat.mul_one, Nat.mul_assoc, ← Nat.mul_pow]
  have code_eq : nearestCode (grainsOf code * 10 ^ depth) (10 ^ depth) = code :=
    nearestCode_grainsOf code (Nat.pow_pos (by decide))
  rw [exact_eq deep, toBinary64]
  dsimp only
  rw [ofDecimal_eq false _ digits, if_neg (by omega), if_neg (by omega), up, down, grains,
    ofGrains]
  simp only [code_eq, bound, ↓reduceDIte]

/-! ## The digits that are chosen -/

theorem toBinary64_stripZeros (d : Decimal) (n : Nat) (negative : Bool) :
    (d.stripZeros n).toBinary64 negative = d.toBinary64 negative := by
  induction n generalizing d with
  | zero => rfl
  | succ n ih =>
    unfold stripZeros
    split
    next trailing =>
      have whole : d.digits = d.digits / 10 * 10 := by omega
      have back : d.exponent = d.exponent + 1 - 1 := by omega
      rw [ih, toBinary64, toBinary64, ← ofDecimal_mul_ten, ← whole, ← back]
    next => rfl

/-- The decimal that writes a finite double is read as that double. -/
theorem toBinary64_shortest {code : Nat} (nonzero : code ≠ 0) (bound : code < infinityCode)
    (negative : Bool) : (shortest code).toBinary64 negative = finite negative code bound := by
  suffices unsigned : (shortest code).toBinary64 false = finite false code bound from
    ofDecimal_of_finite unsigned negative
  unfold shortest
  dsimp only
  rw [toBinary64_stripZeros]
  generalize h : List.findSome? _ _ = found
  cases found with
  | none => exact toBinary64_exact nonzero bound
  | some d =>
    -- the digits were tried
    obtain ⟨i, -, there⟩ := List.exists_of_findSome?_eq_some h
    have tried := List.find?_some there
    rw [Option.getD_some]
    split at tried
    next c _ read =>
      obtain rfl := eq_of_beq tried
      exact ofDecimal_of_finite read false
    next => cases tried

end Decimal

end NodeLink.Number
