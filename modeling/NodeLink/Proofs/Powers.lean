import Mathlib.Data.Nat.EvenOddRec
import NodeLink.Proofs.Rounding

/-!
# Powers of doubles

A double that is no less than one stands at a code, and the product of two of them at the nearest
code of the product of their grains. Products of such doubles therefore grow with their factors,
and they reach infinity rather than fail.

From this follows what repeated squaring does. A power grows with its exponent, exactly so and in
spite of the rounding: the low bits of an exponent are all multiplied together before the next
higher one is, and what they make never outgrows the square that replaces them. A power of a
natural number is that natural number as long as this is at most two to the power of 53, and is no
smaller from there on.
-/

set_option autoImplicit false

namespace NodeLink.Number.Binary64

/-! ## Order -/

instance : LE Binary64 := ⟨fun a b => a.atMost b = true⟩

theorem le_iff {a b : Binary64} :
    a ≤ b ↔ a.isNaN = false ∧ b.isNaN = false ∧ a.rank ≤ b.rank := by
  show a.atMost b = true ↔ _
  simp [atMost, and_assoc]

theorem le_trans {a b c : Binary64} (h : a ≤ b) (h' : b ≤ c) : a ≤ c := by
  rw [le_iff] at *
  exact ⟨h.1, h'.2.1, h.2.2.trans h'.2.2⟩

/-- The double without sign at a code; infinity stands at all codes beyond the last one. -/
def atCode (code : Nat) : Binary64 :=
  if bound : code < infinityCode then finite false code bound else infinity false

@[simp] theorem isNaN_atCode (code : Nat) : (atCode code).isNaN = false := by
  unfold atCode
  split <;> rfl

@[simp] theorem rank_atCode (code : Nat) :
    (atCode code).rank = if code < infinityCode then code else infinityCode := by
  unfold atCode
  split <;> rfl

theorem atCode_mono {code code' : Nat} (h : code ≤ code') : atCode code ≤ atCode code' := by
  rw [le_iff, rank_atCode, rank_atCode]
  refine ⟨isNaN_atCode code, isNaN_atCode code', ?_⟩
  split <;> split <;> omega

theorem atCode_beyond {code : Nat} (beyond : infinityCode ≤ code) :
    atCode code = infinity false := dif_neg (Nat.not_lt.mpr beyond)

/-- Codes that make doubles no greater than each other make the same double. -/
theorem atCode_antisymm {code code' : Nat} (h : atCode code ≤ atCode code')
    (h' : atCode code' ≤ atCode code) : atCode code = atCode code' := by
  rw [le_iff, rank_atCode, rank_atCode] at h h'
  by_cases bound : code < infinityCode
  · by_cases bound' : code' < infinityCode
    · have same : code = code' := by simp only [bound, bound', ↓reduceIte] at h h'; omega
      rw [same]
    · simp only [bound, bound', ↓reduceIte] at h h'
      omega
  · by_cases bound' : code' < infinityCode
    · simp only [bound, bound', ↓reduceIte] at h h'
      omega
    · rw [atCode_beyond (Nat.not_lt.mp bound), atCode_beyond (Nat.not_lt.mp bound')]

theorem ofGrains_eq (num den : Nat) : ofGrains false num den = atCode (nearestCode num den) := rfl

theorem ofNat_eq (n : Nat) : ofNat n = atCode (natCode n) := rfl

theorem one_eq : (1 : Binary64) = atCode (powerCode 0) := by
  show ofNat 1 = _
  rw [ofNat_eq, ← natCode_two_pow, Nat.pow_zero]

theorem ofNat_zero : ofNat 0 = zero false := by
  rw [ofNat_eq, natCode, Nat.zero_mul, nearestCode_zero Nat.one_pos]
  exact dif_pos (by decide)

theorem ofNat_mono {m n : Nat} (h : m ≤ n) : ofNat m ≤ ofNat n := atCode_mono (natCode_mono h)

theorem one_le_one : (1 : Binary64) ≤ 1 := ofNat_mono (Nat.le_refl 1)

theorem powerCode_zero_lt : 0 < powerCode 0 := by decide

/-- What is no less than one has no sign. -/
theorem exists_code {x : Binary64} (one : 1 ≤ x) :
    ∃ code, powerCode 0 ≤ code ∧ code ≤ infinityCode ∧ x = atCode code := by
  obtain ⟨-, number, rank⟩ := le_iff.mp one
  rw [one_eq, rank_atCode, if_pos (by decide)] at rank
  have pos := powerCode_zero_lt
  cases x with
  | nan => cases number
  | infinity negative =>
    cases negative with
    | true => simp only [Binary64.rank, ↓reduceIte] at rank; omega
    | false => exact ⟨infinityCode, by decide, Nat.le_refl _, (atCode_beyond (Nat.le_refl _)).symm⟩
  | finite negative code bound =>
    cases negative with
    | true => simp only [Binary64.rank, ↓reduceIte] at rank; omega
    | false => exact ⟨code, Int.ofNat_le.mp rank, Nat.le_of_lt bound, (dif_pos bound).symm⟩

/-! ## Products -/

/-- The code nearest to a product. -/
def productCode (code code' : Nat) : Nat :=
  nearestCode (grainsOf code * grainsOf code') grainsPerUnit

theorem productCode_mono {c c' d d' : Nat} (hc : c ≤ c') (hd : d ≤ d') :
    productCode c d ≤ productCode c' d' :=
  nearestCode_mono _ (Nat.mul_le_mul (grainsOf_mono hc) (grainsOf_mono hd))

theorem productCode_comm (c d : Nat) : productCode c d = productCode d c := by
  rw [productCode, Nat.mul_comm, productCode]

/-- One is neutral. -/
theorem productCode_one (c : Nat) : productCode c (powerCode 0) = c := by
  rw [productCode, grainsOf_powerCode, Nat.pow_zero, Nat.one_mul]
  exact nearestCode_grainsOf c grainsPerUnit_pos

theorem le_productCode {c d : Nat} (one : powerCode 0 ≤ d) : c ≤ productCode c d := by
  calc c = productCode c (powerCode 0) := (productCode_one c).symm
    _ ≤ productCode c d := productCode_mono (Nat.le_refl c) one

theorem finite_mul_finite (c d : Nat) (hc : c < infinityCode) (hd : d < infinityCode) :
    finite false c hc * finite false d hd = atCode (productCode c d) := by
  show mul _ _ = _
  rw [mul, bne_self_eq_false, ofGrains_eq, productCode]

protected theorem mul_comm (x y : Binary64) : x * y = y * x := by
  show mul x y = mul y x
  have signs : ∀ s t : Bool, (s != t) = (t != s) := by decide
  cases x <;> cases y <;> simp only [mul, signs, Nat.mul_comm]

/-- Doubles that are no less than one are multiplied at their codes. -/
theorem atCode_mul {c d : Nat} (hc : powerCode 0 ≤ c) (hd : powerCode 0 ≤ d) :
    atCode c * atCode d = atCode (productCode c d) := by
  have pos := powerCode_zero_lt
  by_cases boundc : c < infinityCode
  · by_cases boundd : d < infinityCode
    · rw [atCode, dif_pos boundc, atCode, dif_pos boundd]
      exact finite_mul_finite c d boundc boundd
    · have beyond := Nat.not_lt.mp boundd
      have product : d ≤ productCode c d := by
        rw [productCode_comm]
        exact le_productCode hc
      rw [atCode_beyond (beyond.trans product), atCode_beyond beyond, atCode, dif_pos boundc]
      exact if_neg (by omega)
  · have beyond := Nat.not_lt.mp boundc
    have product : c ≤ productCode c d := le_productCode hd
    rw [atCode_beyond (beyond.trans product), atCode_beyond beyond]
    by_cases boundd : d < infinityCode
    · rw [atCode, dif_pos boundd]
      exact if_neg (by omega)
    · rw [atCode_beyond (Nat.not_lt.mp boundd)]
      rfl

/-- A product grows with its factors. -/
theorem mul_mono {x x' y y' : Binary64} (hx : 1 ≤ x) (hy : 1 ≤ y) (hxx' : x ≤ x') (hyy' : y ≤ y') :
    x * y ≤ x' * y' := by
  obtain ⟨c, hc, cin, rfl⟩ := exists_code hx
  obtain ⟨d, hd, din, rfl⟩ := exists_code hy
  obtain ⟨c', hc', cin', rfl⟩ := exists_code (le_trans hx hxx')
  obtain ⟨d', hd', din', rfl⟩ := exists_code (le_trans hy hyy')
  have codes : ∀ {a b : Nat}, a ≤ infinityCode → b ≤ infinityCode → atCode a ≤ atCode b →
      a ≤ b := by
    intro a b ha hb h
    rw [le_iff, rank_atCode, rank_atCode] at h
    split at h <;> split at h <;> omega
  rw [atCode_mul hc hd, atCode_mul hc' hd']
  exact atCode_mono (productCode_mono (codes cin cin' hxx') (codes din din' hyy'))

theorem le_refl_of_one_le {x : Binary64} (hx : 1 ≤ x) : x ≤ x := by
  obtain ⟨-, number, -⟩ := le_iff.mp hx
  exact le_iff.mpr ⟨number, number, le_rfl⟩

theorem one_mul_of_one_le {x : Binary64} (hx : 1 ≤ x) : 1 * x = x := by
  obtain ⟨c, hc, -, rfl⟩ := exists_code hx
  rw [one_eq, atCode_mul (Nat.le_refl _) hc, productCode_comm, productCode_one]

/-- A factor that is no less than one takes nothing away. -/
theorem le_mul_of_one_le {x y : Binary64} (hx : 1 ≤ x) (hy : 1 ≤ y) : x ≤ y * x := by
  have product : 1 * x ≤ y * x := mul_mono one_le_one hx hy (le_refl_of_one_le hx)
  rwa [one_mul_of_one_le hx] at product

theorem one_le_mul {x y : Binary64} (hx : 1 ≤ x) (hy : 1 ≤ y) : 1 ≤ y * x :=
  le_trans hx (le_mul_of_one_le hx hy)

/-- What is no less than infinity is infinity. -/
theorem eq_infinity {x : Binary64} (h : infinity false ≤ x) : x = infinity false := by
  obtain ⟨-, number, upper⟩ := le_iff.mp h
  have pos : 0 < infinityCode := by decide
  simp only [rank, Bool.false_eq_true, ↓reduceIte] at upper
  cases x with
  | nan => cases number
  | infinity negative =>
    cases negative with
    | true => simp only [↓reduceIte] at upper; omega
    | false => rfl
  | finite negative code bound => dsimp only at upper; split at upper <;> omega

/-- Nothing times a number is nothing, as long as the number is finite. -/
theorem zero_mul {x : Binary64} (one : 1 ≤ x) :
    ofNat 0 * x = if x = infinity false then nan else ofNat 0 := by
  obtain ⟨code, -, -, rfl⟩ := exists_code one
  rw [ofNat_zero, zero]
  by_cases bound : code < infinityCode
  · have product : productCode 0 code = 0 := by
      rw [productCode, grainsOf_zero, Nat.zero_mul, nearestCode_zero grainsPerUnit_pos]
    have number : atCode code ≠ infinity false := by
      rw [atCode, dif_pos bound]
      exact Binary64.noConfusion
    rw [if_neg number, atCode, dif_pos bound, finite_mul_finite, product, atCode, dif_pos]
  · rw [atCode_beyond (Nat.not_lt.mp bound), if_pos rfl]
    rfl

/-! ## Repeated squaring -/

theorem powFrom_zero (base result : Binary64) : powFrom base result 0 = result := by
  rw [powFrom]
  rfl

/-- A round takes the lowest bit of the exponent. The last round is no exception. -/
theorem powFrom_step (base result : Binary64) (exponent : Nat) :
    powFrom base result exponent =
      powFrom (base * base) (if exponent % 2 = 1 then result * base else result)
        (exponent / 2) := by
  conv_lhs => rw [powFrom]
  split
  next last => rw [last, powFrom_zero]
  next => rfl

theorem powFrom_even (base result : Binary64) (half : Nat) :
    powFrom base result (2 * half) = powFrom (base * base) result half := by
  rw [powFrom_step, Nat.mul_div_cancel_left half Nat.two_pos, if_neg (by omega)]

theorem powFrom_odd (base result : Binary64) (half : Nat) :
    powFrom base result (2 * half + 1) = powFrom (base * base) (result * base) half := by
  have rest : (2 * half + 1) / 2 = half := by omega
  rw [powFrom_step, rest, if_pos (by omega)]

section Powers

variable {b b' r r' : Binary64}

theorem one_le_powFrom (hb : 1 ≤ b) (hr : 1 ≤ r) (k : Nat) : 1 ≤ powFrom b r k := by
  induction k using Nat.evenOddRec generalizing b r with
  | h0 =>
    rw [powFrom_zero]
    exact hr
  | h_even k ih =>
    rw [powFrom_even]
    exact ih (one_le_mul hb hb) hr
  | h_odd k ih =>
    rw [powFrom_odd]
    exact ih (one_le_mul hb hb) (one_le_mul hb hr)

/-- A power grows with its base, and with the result that it goes on from. -/
theorem powFrom_mono (hb : 1 ≤ b) (hr : 1 ≤ r) (hbb' : b ≤ b') (hrr' : r ≤ r') (k : Nat) :
    powFrom b r k ≤ powFrom b' r' k := by
  induction k using Nat.evenOddRec generalizing b r b' r' with
  | h0 =>
    rw [powFrom_zero, powFrom_zero]
    exact hrr'
  | h_even k ih =>
    rw [powFrom_even, powFrom_even]
    exact ih (one_le_mul hb hb) hr (mul_mono hb hb hbb' hbb') hrr'
  | h_odd k ih =>
    rw [powFrom_odd, powFrom_odd]
    exact ih (one_le_mul hb hb) (one_le_mul hb hr) (mul_mono hb hb hbb' hbb')
      (mul_mono hr hb hrr' hbb')

/-- What was made of the low bits of an exponent does not outgrow the base that comes next, so
carrying over into the next bit loses nothing. -/
theorem powFrom_le_succ (hr : 1 ≤ r) (hrb : r ≤ b) (k : Nat) :
    powFrom b r k ≤ powFrom b 1 (k + 1) := by
  induction k using Nat.evenOddRec generalizing b r with
  | h0 =>
    rw [powFrom_zero, powFrom_odd b 1 0, powFrom_zero, one_mul_of_one_le (le_trans hr hrb)]
    exact hrb
  | h_even k ih =>
    -- the next exponent has the lowest bit, and the same ones above it
    have hb : 1 ≤ b := le_trans hr hrb
    have square : 1 ≤ b * b := one_le_mul hb hb
    rw [powFrom_even, powFrom_odd, one_mul_of_one_le hb]
    exact powFrom_mono square hr (le_refl_of_one_le square) hrb k
  | h_odd k ih =>
    have hb : 1 ≤ b := le_trans hr hrb
    have carried : 2 * k + 1 + 1 = 2 * (k + 1) := by omega
    have next : r * b ≤ b * b := mul_mono hr hb hrb (le_refl_of_one_le hb)
    rw [powFrom_odd, carried, powFrom_even]
    exact ih (one_le_mul hb hr) next

/-- A power grows with its exponent. -/
theorem pow_mono_right (hb : 1 ≤ b) {k k' : Nat} (h : k ≤ k') : b.pow k ≤ b.pow k' := by
  induction h with
  | refl => exact le_refl_of_one_le (one_le_powFrom hb one_le_one k)
  | step _ ih => exact le_trans ih (powFrom_le_succ one_le_one hb _)

/-- Powers of two bound powers from below. -/
theorem powerCode_le_powFrom {i j : Nat} (hb : atCode (powerCode i) ≤ b)
    (hr : atCode (powerCode j) ≤ r) (k : Nat) :
    atCode (powerCode (j + i * k)) ≤ powFrom b r k := by
  have one : ∀ n, powerCode 0 ≤ powerCode n := by
    intro n
    unfold powerCode
    omega
  have above : ∀ n, 1 ≤ atCode (powerCode n) := by
    intro n
    rw [one_eq]
    exact atCode_mono (one n)
  have product : ∀ {m n : Nat} {x y : Binary64}, atCode (powerCode m) ≤ x →
      atCode (powerCode n) ≤ y → atCode (powerCode (m + n)) ≤ x * y := by
    intro m n x y hx hy
    have exact : productCode (powerCode m) (powerCode n) = powerCode (m + n) := by
      have grains : grainsOf (powerCode m) * grainsOf (powerCode n) =
          grainsOf (powerCode (m + n)) * grainsPerUnit := by
        rw [grainsOf_powerCode, grainsOf_powerCode, grainsOf_powerCode, Nat.pow_add]
        ring
      rw [productCode, grains, nearestCode_grainsOf _ grainsPerUnit_pos]
    rw [← exact, ← atCode_mul (one m) (one n)]
    exact mul_mono (above m) (above n) hx hy
  induction k using Nat.evenOddRec generalizing b r i j with
  | h0 =>
    rw [powFrom_zero, Nat.mul_zero, Nat.add_zero]
    exact hr
  | h_even k ih =>
    have exponent : j + i * (2 * k) = j + (i + i) * k := by ring
    rw [powFrom_even, exponent]
    exact ih (product hb hb) hr
  | h_odd k ih =>
    have exponent : j + i * (2 * k + 1) = j + i + (i + i) * k := by ring
    rw [powFrom_odd, exponent]
    exact ih (product hb hb) (product hr hb)

end Powers

/-! ## Powers of natural numbers -/

/-- The largest natural number up to which all are doubles. -/
def exactLimit : Nat := 2 ^ 53

theorem natCode_lt {n : Nat} (h : n ≤ exactLimit) : natCode n < infinityCode := by
  have limit : natCode exactLimit = powerCode 53 := natCode_two_pow 53
  calc natCode n ≤ powerCode 53 := limit ▸ natCode_mono h
    _ < infinityCode := by decide

theorem ofNat_eq_finite {n : Nat} (h : n ≤ exactLimit) :
    ofNat n = finite false (natCode n) (natCode_lt h) := dif_pos (natCode_lt h)

theorem isNaN_ofNat (n : Nat) : (ofNat n).isNaN = false := isNaN_atCode (natCode n)

/-- Up to the limit, natural numbers are ordered as their codes are. -/
theorem natCode_le_iff {m n : Nat} (hm : m ≤ exactLimit) (hn : n ≤ exactLimit) :
    natCode m ≤ natCode n ↔ m ≤ n := by
  refine ⟨fun h => ?_, natCode_mono⟩
  have grains := grainsOf_mono h
  rw [grainsOf_natCode hm, grainsOf_natCode hn] at grains
  exact Nat.le_of_mul_le_mul_right grains grainsPerUnit_pos

/-- The product of two natural numbers is rounded once. -/
theorem ofNat_mul {m n : Nat} (hm : m ≤ exactLimit) (hn : n ≤ exactLimit) :
    ofNat m * ofNat n = ofNat (m * n) := by
  have grains : m * grainsPerUnit * (n * grainsPerUnit) =
      m * n * grainsPerUnit * grainsPerUnit := by ring
  have code : productCode (natCode m) (natCode n) = natCode (m * n) := by
    have widened := nearestCode_widen (m * n * grainsPerUnit) 1 grainsPerUnit_pos
    rw [Nat.one_mul] at widened
    rw [productCode, grainsOf_natCode hm, grainsOf_natCode hn, grains, widened, natCode]
  rw [ofNat_eq_finite hm, ofNat_eq_finite hn, finite_mul_finite, code, ofNat_eq]

/-- A natural number is cut off to itself. -/
theorem toUInt64_ofNat {n : Nat} (h : n ≤ exactLimit) : (ofNat n).toUInt64 = UInt64.ofNat n := by
  have quotient : grainsOf (natCode n) / grainsPerUnit = n := by
    rw [grainsOf_natCode h, Nat.mul_div_cancel n grainsPerUnit_pos]
  have least : Nat.min n (UInt64.size - 1) = n := Nat.min_eq_left (h.trans (by decide))
  rw [ofNat_eq_finite h]
  simp only [toUInt64, quotient, least, Bool.false_eq_true, ↓reduceIte]

/-- A double stands for a natural number: it is that number up to the limit, and it is not below
the limit for any number beyond. -/
def Stands (x : Binary64) (n : Nat) : Prop :=
  if n ≤ exactLimit then x = ofNat n else ofNat exactLimit ≤ x

theorem stands_ofNat {n : Nat} (h : n ≤ exactLimit) : Stands (ofNat n) n := by
  rw [Stands, if_pos h]

theorem Stands.eq {x : Binary64} {n : Nat} (stands : Stands x n) (h : n ≤ exactLimit) :
    x = ofNat n := by
  rwa [Stands, if_pos h] at stands

theorem Stands.limit_le {x : Binary64} {n : Nat} (stands : Stands x n) (h : exactLimit ≤ n) :
    ofNat exactLimit ≤ x := by
  rcases Nat.lt_or_eq_of_le h with beyond | rfl
  · rwa [Stands, if_neg (Nat.not_le.mpr beyond)] at stands
  · rw [stands.eq (Nat.le_refl _)]
    exact ofNat_mono (Nat.le_refl _)

theorem Stands.one_le {x : Binary64} {n : Nat} (stands : Stands x n) (pos : 1 ≤ n) : 1 ≤ x := by
  by_cases h : n ≤ exactLimit
  · rw [stands.eq h]
    exact ofNat_mono pos
  · exact le_trans (ofNat_mono (by decide)) (stands.limit_le (by omega))

/-- A product stands for the product: it is exact up to the limit, and cannot fall back below. -/
theorem Stands.mul {x y : Binary64} {m n : Nat} (hx : Stands x m) (hy : Stands y n) (hm : 1 ≤ m)
    (hn : 1 ≤ n) : Stands (x * y) (m * n) := by
  have one := hx.one_le hm
  have one' := hy.one_le hn
  have larger : m ≤ m * n := Nat.le_mul_of_pos_right m hn
  have larger' : n ≤ m * n := Nat.le_mul_of_pos_left n hm
  unfold Stands
  split
  next small => rw [hx.eq (by omega), hy.eq (by omega), ofNat_mul (by omega) (by omega)]
  next large =>
    by_cases first : exactLimit ≤ m
    · rw [Binary64.mul_comm]
      exact le_trans (hx.limit_le first) (le_mul_of_one_le one one')
    · by_cases second : exactLimit ≤ n
      · exact le_trans (hy.limit_le second) (le_mul_of_one_le one' one)
      · rw [hx.eq (by omega), hy.eq (by omega), ofNat_mul (by omega) (by omega)]
        exact ofNat_mono (by omega)

/-- So does a power. -/
theorem Stands.powFrom {b r : Binary64} {m n : Nat} (hb : Stands b m) (hr : Stands r n)
    (hm : 1 ≤ m) (hn : 1 ≤ n) (k : Nat) : Stands (powFrom b r k) (n * m ^ k) := by
  induction k using Nat.evenOddRec generalizing b r m n with
  | h0 =>
    rw [powFrom_zero, Nat.pow_zero, Nat.mul_one]
    exact hr
  | h_even k ih =>
    have powers : n * m ^ (2 * k) = n * (m * m) ^ k := by rw [Nat.pow_mul, Nat.pow_two]
    rw [powFrom_even, powers]
    exact ih (hb.mul hb hm hm) hr (Nat.mul_pos hm hm) hn
  | h_odd k ih =>
    have powers : n * m ^ (2 * k + 1) = n * m * (m * m) ^ k := by
      rw [Nat.pow_succ, Nat.pow_mul, Nat.pow_two]
      ring
    rw [powFrom_odd, powers]
    exact ih (hb.mul hb hm hm) (hr.mul hb hn hm) (Nat.mul_pos hm hm) (Nat.mul_pos hn hm)

/-- What is not a number is passed over. -/
theorem nan_min (x : Binary64) : Binary64.min nan x = x := rfl

/-- The smaller of a number that is stood for and of one up to the limit. -/
theorem Stands.min {x : Binary64} {n cap : Nat} (stands : Stands x n) (h : cap ≤ exactLimit) :
    Binary64.min x (ofNat cap) = ofNat (Min.min n cap) := by
  have number : x.isNaN = false := by
    by_cases small : n ≤ exactLimit
    · rw [stands.eq small]
      exact isNaN_ofNat n
    · exact (le_iff.mp (stands.limit_le (by omega))).2.1
  have chosen : Binary64.min x (ofNat cap) = if (ofNat cap).less x then ofNat cap else x := by
    simp only [Binary64.min, number, isNaN_ofNat, Bool.false_eq_true, ↓reduceIte]
  rw [chosen]
  by_cases small : n ≤ exactLimit
  · have less : (ofNat cap).less x = true ↔ cap < n := by
      rw [stands.eq small, ← Nat.not_le, ← natCode_le_iff small h]
      simp [Binary64.less, ofNat_eq, natCode_lt small, natCode_lt h]
    split
    next above => rw [Nat.min_eq_right (Nat.le_of_lt (less.mp above))]
    next below => rw [Nat.min_eq_left (Nat.not_lt.mp (mt less.mpr below)), stands.eq small]
  · rw [Nat.min_eq_right (by omega)]
    split
    next => rfl
    next below =>
      -- then the number is at the limit, and so is the cap
      have limit := stands.limit_le (by omega)
      have upper : ofNat cap ≤ x := le_trans (ofNat_mono h) limit
      have lower : x ≤ ofNat cap := by
        refine le_iff.mpr ⟨number, isNaN_ofNat cap, ?_⟩
        simpa [Binary64.less, number, isNaN_ofNat] using below
      obtain ⟨c, -, -, rfl⟩ := exists_code (stands.one_le (by omega))
      exact atCode_antisymm lower upper

end NodeLink.Number.Binary64
