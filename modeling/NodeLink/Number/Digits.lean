/-!
# Digits

Numbers spelled in a base up to sixteen, the most significant digit first. Letters
count as digits of either case. A text of digits is never empty, and may begin with
zeros; readers that forbid them say so themselves.
-/

set_option autoImplicit false

namespace NodeLink.Number

/-- The value of a digit in a base up to sixteen. -/
def digit? (base : Nat) (c : Char) : Option Nat :=
  let n :=
    if '0' ≤ c ∧ c ≤ '9' then c.toNat - '0'.toNat
    else if 'a' ≤ c ∧ c ≤ 'f' then c.toNat - 'a'.toNat + 10
    else if 'A' ≤ c ∧ c ≤ 'F' then c.toNat - 'A'.toNat + 10
    else base
  if n < base then some n else none

/-- Whether a character is a digit in a base up to sixteen. -/
def isDigit (base : Nat) (c : Char) : Bool := (digit? base c).isSome

/-- The digits at the front of a text, and the rest. -/
def spanDigits (base : Nat) : List Char → List Nat × List Char
  | [] => ([], [])
  | c :: rest =>
    match digit? base c with
    | some d => let r := spanDigits base rest; (d :: r.1, r.2)
    | none => ([], c :: rest)

/-- The number that digits spell. -/
def ofDigits (base : Nat) (ds : List Nat) : Nat := ds.foldl (fun n d => n * base + d) 0

/-- The number that a text spells, if it is made of digits. -/
def natural? (base : Nat) (cs : List Char) : Option Nat :=
  if cs = [] then none else (cs.mapM (digit? base)).map (ofDigits base)

end NodeLink.Number
