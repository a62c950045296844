/-!
# Double precision numbers, exactly

A double is a sign and a magnitude, an infinity, or the one value that is not a
number. The magnitude is held by its *code*, the number that its sixty-three
low bits spell; codes are ordered as the magnitudes are. Every finite magnitude
is a whole number of *grains*, a grain being two to the power of -1074, so sums
and products are computed in natural numbers and rounded once, to the nearest
double, an even code winning a tie.

All operations are total functions on natural numbers and can be reasoned about.
Which payload a not-a-number carries is not part of the type.
-/

set_option autoImplicit false

namespace NodeLink.Number

/-- The code at which magnitudes end and infinity stands. -/
def infinityCode : Nat := 2047 * Nat.pow 2 52

inductive Binary64
  | nan
  | infinity (negative : Bool)
  /-- A finite number, zero of either sign among them. -/
  | finite (negative : Bool) (code : Nat) (bound : code < infinityCode)
deriving DecidableEq

/-- The quotient of two natural numbers, rounded to the nearest, a tie to the even one. -/
def divideHalfEven (num den : Nat) : Nat :=
  if 2 * (num % den) < den then num / den
  else if den < 2 * (num % den) then num / den + 1
  else num / den + num / den % 2

namespace Binary64

/-! ## Codes and grains -/

/-- The power of two by which the significand of a code is scaled. -/
def scaleOf (code : Nat) : Nat := code / Nat.pow 2 52 - 1

/-- The significand of a code, with its leading one unless the number is subnormal. -/
def significandOf (code : Nat) : Nat :=
  if code < Nat.pow 2 52 then code else Nat.pow 2 52 + code % Nat.pow 2 52

/-- How many grains a code stands for. -/
def grainsOf (code : Nat) : Nat := significandOf code * Nat.pow 2 (scaleOf code)

/-- How many grains make one. -/
def grainsPerUnit : Nat := Nat.pow 2 1074

/-- The code nearest to `num / den` grains. It may lie beyond the finite codes. -/
def nearestCode (num den : Nat) : Nat :=
  let scale := (num / den).log2 - 52
  scale * Nat.pow 2 52 + divideHalfEven num (den * Nat.pow 2 scale)

/-- The double nearest to `num / den` grains, of the given sign. -/
def ofGrains (negative : Bool) (num den : Nat) : Binary64 :=
  let code := nearestCode num den
  if bound : code < infinityCode then finite negative code bound else infinity negative

/-- Zero of the given sign. -/
def zero (negative : Bool) : Binary64 := finite negative 0 (by decide)

/-- The double nearest to a natural number. -/
def ofNat (n : Nat) : Binary64 := ofGrains false (n * grainsPerUnit) 1

instance (n : Nat) : OfNat Binary64 n := ⟨ofNat n⟩

/-- The double nearest to `digits` times ten to the power of `exponent`. The two early
exits only spare the work of computing powers that decide nothing. -/
def ofDecimal (negative : Bool) (digits : Nat) (exponent : Int) : Binary64 :=
  let size : Int := exponent + (Nat.toDigits 10 digits).length
  if digits = 0 then zero negative
  else if 400 < size then infinity negative
  else if size < -400 then zero negative
  else if 0 ≤ exponent then
    ofGrains negative (digits * Nat.pow 10 exponent.toNat * grainsPerUnit) 1
  else
    ofGrains negative (digits * grainsPerUnit) (Nat.pow 10 (-exponent).toNat)

/-! ## Signs and order -/

/-- The number with the other sign. -/
def neg : Binary64 → Binary64
  | nan => nan
  | infinity negative => infinity !negative
  | finite negative code bound => finite (!negative) code bound

instance : Neg Binary64 := ⟨neg⟩

/-- The double nearest to an integer. Zero has no sign. -/
def ofInt (n : Int) : Binary64 := if n < 0 then -ofNat n.natAbs else ofNat n.natAbs

/-- Whether this is not a number. -/
def isNaN : Binary64 → Bool
  | nan => true
  | _ => false

/-- Where a number stands on the line of codes; both zeros stand at the origin. -/
def rank : Binary64 → Int
  | nan => 0
  | infinity negative => if negative then -infinityCode else infinityCode
  | finite negative code _ => if negative then -code else code

/-- Strictly less. Nothing is less than what is not a number, nor the other way round. -/
def less (a b : Binary64) : Bool := !a.isNaN && !b.isNaN && a.rank < b.rank

/-- Less or equal, with both zeros equal. -/
def atMost (a b : Binary64) : Bool := !a.isNaN && !b.isNaN && a.rank ≤ b.rank

/-- Equal in value: the zeros are, and what is not a number equals nothing. -/
def same (a b : Binary64) : Bool := !a.isNaN && !b.isNaN && a.rank == b.rank

/-- The smaller of two; the other one if one is not a number. -/
def min (a b : Binary64) : Binary64 :=
  if a.isNaN then b else if b.isNaN then a else if b.less a then b else a

/-- The larger of two; the other one if one is not a number. -/
def max (a b : Binary64) : Binary64 :=
  if a.isNaN then b else if b.isNaN then a else if a.less b then b else a

/-- Moves a number into the range from `low` to `high`; what is not a number stays so. -/
def clamp (a low high : Binary64) : Binary64 :=
  let raised := if a.less low then low else a
  if high.less raised then high else raised

/-! ## Arithmetic -/

/-- The signed number of grains. -/
def signedGrains (negative : Bool) (code : Nat) : Int :=
  if negative then -(grainsOf code : Int) else grainsOf code

/-- The sum, rounded once. Opposite infinities have none. -/
def add : Binary64 → Binary64 → Binary64
  | nan, _ => nan
  | _, nan => nan
  | infinity a, infinity b => if a = b then infinity a else nan
  | infinity a, finite .. => infinity a
  | finite .., infinity b => infinity b
  | finite a c _, finite b d _ =>
    let sum := signedGrains a c + signedGrains b d
    if sum = 0 then zero (a && b) else ofGrains (sum < 0) sum.natAbs 1

/-- The product, rounded once. Zero times an infinity has none. -/
def mul : Binary64 → Binary64 → Binary64
  | nan, _ => nan
  | _, nan => nan
  | infinity a, infinity b => infinity (a != b)
  | infinity a, finite b d _ => if d = 0 then nan else infinity (a != b)
  | finite a c _, infinity b => if c = 0 then nan else infinity (a != b)
  | finite a c _, finite b d _ => ofGrains (a != b) (grainsOf c * grainsOf d) grainsPerUnit

instance : Add Binary64 := ⟨add⟩
instance : Mul Binary64 := ⟨mul⟩

/-- One round of raising to a power: the result so far takes a factor for each bit set in
the exponent, and the base is squared while bits remain. -/
def powFrom (base result : Binary64) (exponent : Nat) : Binary64 :=
  let taken := if exponent % 2 = 1 then result * base else result
  if exponent / 2 = 0 then taken else powFrom (base * base) taken (exponent / 2)
termination_by exponent

/-- The power by repeated squaring, each product rounded. -/
def pow (base : Binary64) (exponent : Nat) : Binary64 := powFrom base 1 exponent

/-- The whole part as a 64-bit natural number, kept within its range. -/
def toUInt64 : Binary64 → UInt64
  | nan => 0
  | infinity negative => if negative then 0 else UInt64.ofNat (UInt64.size - 1)
  | finite negative code _ =>
    if negative then 0 else UInt64.ofNat (Nat.min (grainsOf code / grainsPerUnit) (UInt64.size - 1))

/-- The number of bits of the interchange format; of the patterns that are not a number,
the one with only the leading bit of the fraction. -/
def toBits : Binary64 → Nat
  | nan => infinityCode + Nat.pow 2 51
  | infinity negative => (if negative then Nat.pow 2 63 else 0) + infinityCode
  | finite negative code _ => (if negative then Nat.pow 2 63 else 0) + code

end Binary64

end NodeLink.Number
