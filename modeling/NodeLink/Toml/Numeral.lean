import NodeLink.Toml.Value
import NodeLink.Number.Digits

/-!
# Numbers

A number is an integer of sixty-four bits, with sign, or a double. Decimal integers
may have a sign but no leading zero; the bases sixteen, eight and two are marked by
`0x`, `0o` and `0b` and take no sign. An underscore may stand between two digits. A
fraction or an exponent makes a double; both need a digit, and exponents may begin
with zeros. Infinity and what is not a number are words, with a sign if wanted.

A double is the one nearest to the decimal. A decimal above all doubles is refused;
one below all doubles is read as the negative infinity.
-/

set_option autoImplicit false

namespace NodeLink.Toml

open Number (Binary64 digit? isDigit ofDigits)

/-- Further digits, each perhaps after an underscore. -/
def readMoreDigits (base : Nat) : List Char → Option (List Nat × List Char)
  | [] => some ([], [])
  | '_' :: rest =>
    match rest with
    | [] => none
    | c :: rest => do
      let d ← digit? base c
      let (ds, rest) ← readMoreDigits base rest
      return (d :: ds, rest)
  | c :: rest =>
    match digit? base c with
    | none => some ([], c :: rest)
    | some d => do
      let (ds, rest) ← readMoreDigits base rest
      return (d :: ds, rest)

def readDigits (base : Nat) : List Char → Option (List Nat × List Char)
  | [] => none
  | c :: rest => do
    let d ← digit? base c
    let (ds, rest) ← readMoreDigits base rest
    return (d :: ds, rest)

/-- Digits that begin with zero only if they end there. -/
def readWhole : List Char → Option (List Nat × List Char)
  | '0' :: rest => some ([0], rest)
  | cs => readDigits 10 cs

/-- Whether a minus stands in front, and the text after the sign. -/
def readSign : List Char → Bool × List Char
  | '-' :: rest => (true, rest)
  | '+' :: rest => (false, rest)
  | cs => (false, cs)

/-- A point and the digits after it, if there is a point. -/
def readFraction : List Char → Option (Option (List Nat) × List Char)
  | '.' :: rest => (readDigits 10 rest).map fun r => (some r.1, r.2)
  | cs => some (none, cs)

/-- An exponent, if its letter is there. -/
def readExponent : List Char → Option (Option Int × List Char)
  | [] => some (none, [])
  | c :: rest =>
    if c = 'e' ∨ c = 'E' then do
      let (negative, rest) := readSign rest
      let (ds, rest) ← readDigits 10 rest
      let n : Int := ofDigits 10 ds
      return (some (if negative then -n else n), rest)
    else some (none, c :: rest)

/-- An integer within its range. -/
def integer? (n : Int) : Option Scalar :=
  let bound : Int := Nat.pow 2 63
  if -bound ≤ n ∧ n < bound then some (.integer n) else none

/-- The number of the given sign and digits. -/
def decimal? (negative : Bool) (whole : List Nat) (fraction : Option (List Nat))
    (exponent : Option Int) : Option Scalar :=
  if fraction.isNone && exponent.isNone then
    let n : Int := ofDigits 10 whole
    integer? (if negative then -n else n)
  else
    let places := fraction.getD []
    let x := Binary64.ofDecimal negative (ofDigits 10 (whole ++ places))
      (exponent.getD 0 - places.length)
    if x = .infinity false then none else some (.float x)

/-- A number in base ten, or one of the words for numbers. -/
def readDecimal (cs : List Char) : Option (Scalar × List Char) :=
  let (negative, cs) := readSign cs
  match cs with
  | 'i' :: 'n' :: 'f' :: rest => some (.float (.infinity negative), rest)
  | 'n' :: 'a' :: 'n' :: rest => some (.float .nan, rest)
  | _ => do
    let (whole, cs) ← readWhole cs
    let (fraction, cs) ← readFraction cs
    let (exponent, cs) ← readExponent cs
    return (← decimal? negative whole fraction exponent, cs)

/-- A natural number in a marked base. -/
def readMarked (base : Nat) (cs : List Char) : Option (Scalar × List Char) := do
  let (ds, rest) ← readDigits base cs
  return (← integer? (ofDigits base ds), rest)

def readNumber : List Char → Option (Scalar × List Char)
  | '0' :: 'x' :: rest => readMarked 16 rest
  | '0' :: 'o' :: rest => readMarked 8 rest
  | '0' :: 'b' :: rest => readMarked 2 rest
  | cs => readDecimal cs

end NodeLink.Toml
