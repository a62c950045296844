import NodeLink.Number.Digits
import NodeLink.Text.Quoted

/-!
# Numeric addresses of a peer

A channel may know the numeric address and port of its peer. Both families are
read and written here: four decimal octets and a port, or eight groups of
hexadecimal digits in brackets, with an optional numeric scope, and a port. The
double colon stands for one run of zero groups; the last two groups may be given
as four octets.

Reading is strict: an octet has no leading zero and at most three digits, a group
at most four, a port is at most 65535. Writing is canonical: the first longest
run of two or more zero groups is left out, and an address that maps four octets
shows them.
-/

set_option autoImplicit false

namespace NodeLink

open Number (spanDigits ofDigits)

/-- A numeric address with its port. -/
inductive NumericAddress
  | v4 (octets : List Nat) (port : Nat)
  /-- Eight groups of sixteen bits and a scope. -/
  | v6 (groups : List Nat) (scope port : Nat)
deriving DecidableEq

namespace NumericAddress

/-! ## Reading -/

/-- A number of at least one digit that stays below `limit`. -/
def number? (limit : Nat) (cs : List Char) : Option (Nat × List Char) :=
  let r := spanDigits 10 cs
  if r.1 ≠ [] ∧ ofDigits 10 r.1 < limit then some (ofDigits 10 r.1, r.2) else none

/-- An octet: one to three digits, no leading zero, below 256. -/
def octet? (cs : List Char) : Option (Nat × List Char) :=
  let r := spanDigits 10 cs
  if r.1 ≠ [] ∧ r.1.length ≤ 3 ∧ (r.1.length = 1 ∨ r.1.head? ≠ some 0) ∧ ofDigits 10 r.1 < 256 then
    some (ofDigits 10 r.1, r.2)
  else none

/-- A group: one to four hexadecimal digits. -/
def group? (cs : List Char) : Option (Nat × List Char) :=
  let r := spanDigits 16 cs
  if r.1 ≠ [] ∧ r.1.length ≤ 4 then some (ofDigits 16 r.1, r.2) else none

def expect? (c : Char) : List Char → Option (List Char)
  | [] => none
  | d :: rest => if c = d then some rest else none

/-- Four octets with points between them. -/
def octets? (cs : List Char) : Option (List Nat × List Char) := do
  let (a, cs) ← octet? cs
  let (b, cs) ← octet? (← expect? '.' cs)
  let (c, cs) ← octet? (← expect? '.' cs)
  let (d, cs) ← octet? (← expect? '.' cs)
  return ([a, b, c, d], cs)

/-- The separator before every element but the first. -/
def separator? (first : Bool) (cs : List Char) : Option (List Char) :=
  if first then some cs else expect? ':' cs

/-- Up to `limit` groups with colons between them, the last two possibly as octets.
Also says whether octets were used. -/
def groups (first : Bool) : Nat → List Char → List Nat × Bool × List Char
  | 0, cs => ([], false, cs)
  | limit + 1, cs =>
    match (if limit = 0 then none else (separator? first cs).bind octets?) with
    | some ([a, b, c, d], rest) => ([a * 256 + b, c * 256 + d], true, rest)
    | _ =>
      match (separator? first cs).bind group? with
      | some (g, rest) => let r := groups false limit rest; (g :: r.1, r.2)
      | none => ([], false, cs)

/-- Eight groups, possibly with a double colon. -/
def eightGroups? (cs : List Char) : Option (List Nat × List Char) :=
  let (head, octetsUsed, rest) := groups true 8 cs
  if head.length = 8 then some (head, rest)
  else if octetsUsed then none
  else do
    let rest ← expect? ':' (← expect? ':' rest)
    let (tail, _, rest) := groups true (7 - head.length) rest
    return (head ++ List.replicate (8 - head.length - tail.length) 0 ++ tail, rest)

/-- A colon and a port. -/
def port? (cs : List Char) : Option (Nat × List Char) := do number? UInt16.size (← expect? ':' cs)

/-- Reads an address of either family; nothing may follow it. -/
def ofString? (s : String) : Option NumericAddress :=
  let four := do
    let (octets, cs) ← octets? s.toList
    let (port, cs) ← port? cs
    if cs = [] then some (v4 octets port) else none
  let six := do
    let (groups, cs) ← eightGroups? (← expect? '[' s.toList)
    let (scope, cs) :=
      ((expect? '%' cs).bind (number? UInt32.size)).getD (0, cs)
    let (port, cs) ← port? (← expect? ']' cs)
    if cs = [] then some (v6 groups scope port) else none
  four <|> six

/-! ## Writing -/

/-- Numbers in decimal with points between them. -/
def dotted (ns : List Nat) : String := ".".intercalate (ns.map toString)

/-- Groups in hexadecimal with colons between them. -/
def colons (gs : List Nat) : String :=
  ":".intercalate (gs.map fun g => String.ofList (Text.hexDigits g))

/-- The length of the run of zeros at the front. -/
def zeroRun (gs : List Nat) : Nat := (gs.takeWhile (· == 0)).length

/-- The first longest run of zeros, as its start and length. -/
def longestZeroRun (gs : List Nat) : Nat × Nat :=
  (List.range gs.length).foldl
    (fun best i => if best.2 < zeroRun (gs.drop i) then (i, zeroRun (gs.drop i)) else best) (0, 0)

/-- Eight groups in canonical form. -/
def writeGroups (gs : List Nat) : String :=
  match gs with
  | [0, 0, 0, 0, 0, 65535, a, b] =>
    "::ffff:" ++ dotted [a / 256, a % 256, b / 256, b % 256]
  | _ =>
    let (start, length) := longestZeroRun gs
    if 1 < length then colons (gs.take start) ++ "::" ++ colons (gs.drop (start + length))
    else colons gs

/-- The canonical text of an address. -/
def label : NumericAddress → String
  | v4 octets port => dotted octets ++ ":" ++ toString port
  | v6 groups scope port =>
    "[" ++ writeGroups groups ++ (if scope = 0 then "" else "%" ++ toString scope) ++ "]:" ++
      toString port

end NumericAddress

end NodeLink
