import NodeLink.Number.Binary64

/-!
# The shortest decimal of a double

A double is written with the fewest digits that read back as the same double.
For each count of digits in turn the two neighbours of the value on the grid of
that many digits are tried; the first count with a neighbour that reads back
wins, and of two such neighbours the nearer, the upper one in a tie. If no count
up to seventeen had one, the exact decimal would be taken, so that the result
reads back in every case.

How digits are laid out around the decimal point is decided by a `Style`; the
two styles of this library stand at the end.
-/

set_option autoImplicit false

namespace NodeLink.Number

/-- A natural number of digits times a power of ten. -/
structure Decimal where
  /-- The digits, read as one number. -/
  digits : Nat
  /-- The power of ten that scales them. -/
  exponent : Int
deriving DecidableEq

namespace Decimal

/-- The double nearest to a decimal. -/
def toBinary64 (d : Decimal) (negative : Bool) : Binary64 :=
  .ofDecimal negative d.digits d.exponent

/-- Takes trailing zeros off the digits, at most `n` of them. -/
def stripZeros (d : Decimal) : Nat → Decimal
  | 0 => d
  | n + 1 =>
    if d.digits ≠ 0 ∧ d.digits % 10 = 0 then stripZeros ⟨d.digits / 10, d.exponent + 1⟩ n else d

/-- The power of ten that makes every magnitude a number above one. -/
def lift : Nat := 350

/-- The decimal neighbours of a magnitude with a given count of digits, the nearer first.
`size` is the count of digits of the whole part of the lifted magnitude. -/
def neighbours (code size count : Nat) : List Decimal :=
  let num := Binary64.grainsOf code * Nat.pow 10 lift
  let den := Binary64.grainsPerUnit * Nat.pow 10 (size - count)
  let low := num / den
  let exponent : Int := (size : Int) - count - lift
  if 2 * (num % den) < den then [⟨low, exponent⟩, ⟨low + 1, exponent⟩]
  else [⟨low + 1, exponent⟩, ⟨low, exponent⟩]

/-- The exact value of a magnitude. -/
def exact (code : Nat) : Decimal := ⟨Binary64.grainsOf code * Nat.pow 5 1074, -1074⟩

/-- The decimal that writes a finite magnitude. -/
def shortest (code : Nat) : Decimal :=
  let size :=
    (Nat.toDigits 10 (Binary64.grainsOf code * Nat.pow 10 lift / Binary64.grainsPerUnit)).length
  let readsBack (d : Decimal) : Bool :=
    match d.toBinary64 false with
    | .finite _ c _ => c == code
    | _ => false
  let found := (List.range 17).findSome? fun i => (neighbours code size (i + 1)).find? readsBack
  (found.getD (exact code)).stripZeros 1100

end Decimal

/-- How a double is laid out in text. -/
structure Style where
  /-- From this power of ten upwards the exponent is written out; never, if absent. -/
  scientificFrom : Option Int
  /-- Below this power of ten the exponent is written out; never, if absent. -/
  scientificBelow : Option Int
  /-- The word for what is not a number. -/
  nan : String

namespace Style

/-- Digits around a decimal point, with at least one digit on each side of it. -/
def positional (digits : List Char) (exponent : Int) : List Char :=
  let point : Int := digits.length + exponent
  if point ≤ 0 then '0' :: '.' :: List.replicate (-point).toNat '0' ++ digits
  else if 0 ≤ exponent then digits ++ List.replicate exponent.toNat '0' ++ ['.', '0']
  else digits.take point.toNat ++ '.' :: digits.drop point.toNat

/-- One digit before the point, the others after it, and the power of ten. -/
def scientific (digits : List Char) (exponent : Int) : List Char :=
  let power : Int := digits.length + exponent - 1
  let fraction := digits.drop 1
  digits.take 1 ++ (if fraction.isEmpty then [] else '.' :: fraction) ++
    'e' :: (toString power).toList

/-- The magnitude of a finite number. -/
def magnitude (s : Style) (code : Nat) : List Char :=
  if code = 0 then ['0', '.', '0']
  else
    let d := Decimal.shortest code
    let digits := Nat.toDigits 10 d.digits
    let power : Int := digits.length + d.exponent - 1
    if s.scientificFrom.any (· ≤ power) || s.scientificBelow.any (power < ·) then
      scientific digits d.exponent
    else positional digits d.exponent

def write (s : Style) : Binary64 → String
  | .nan => s.nan
  | .infinity negative => if negative then "-inf" else "inf"
  | .finite negative code _ =>
    String.ofList ((if negative then ['-'] else []) ++ s.magnitude code)

/-- The style of printed records: exponents from ten to the sixteenth up and below ten to
the minus fourth. -/
def record : Style := ⟨some 16, some (-4), "NaN"⟩

/-- The style of configuration files: always positional. -/
def file : Style := ⟨none, none, "nan"⟩

end Style

end NodeLink.Number
