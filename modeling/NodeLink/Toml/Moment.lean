import NodeLink.Number.Digits

/-!
# Dates and times

A moment is a date, a time of day, or both with a space or the letter T between
them, perhaps followed by its distance from universal time. Every part has its full
count of digits. Months have the days that the calendar gives them, leap years
included; a minute may have a sixtieth second. Seconds may have a fraction of any
length.

The readers here return only the text after what they have read, since nothing asks
for the parts.
-/

set_option autoImplicit false

namespace NodeLink.Toml

open Number (isDigit natural?)

/-- A number of two digits between two bounds. -/
def readTwo (low high : Nat) : List Char → Option (Nat × List Char)
  | a :: b :: rest => do
    let n ← natural? 10 [a, b]
    if low ≤ n ∧ n ≤ high then some (n, rest) else none
  | _ => none

/-- The text after a given character. -/
def expect? (c : Char) : List Char → Option (List Char)
  | [] => none
  | d :: rest => if c = d then some rest else none

/-- Whether a year has a leap day. -/
def isLeap (year : Nat) : Bool := year % 4 = 0 && (year % 100 ≠ 0 || year % 400 = 0)

/-- How many days a month has. -/
def daysIn (year month : Nat) : Nat :=
  if month = 2 then if isLeap year then 29 else 28
  else if month = 4 ∨ month = 6 ∨ month = 9 ∨ month = 11 then 30
  else 31

/-- The text after a date. -/
def afterDate? : List Char → Option (List Char)
  | a :: b :: c :: d :: rest => do
    let year ← natural? 10 [a, b, c, d]
    let (month, rest) ← readTwo 1 12 (← expect? '-' rest)
    let (day, rest) ← readTwo 1 31 (← expect? '-' rest)
    if day ≤ daysIn year month then some rest else none
  | _ => none

/-- The text after a fraction of a second, if there is one. -/
def afterFraction : List Char → List Char
  | '.' :: c :: rest => if isDigit 10 c then rest.dropWhile (isDigit 10) else '.' :: c :: rest
  | cs => cs

/-- The text after a time of day. -/
def afterTime? (cs : List Char) : Option (List Char) := do
  let (_, cs) ← readTwo 0 23 cs
  let (_, cs) ← readTwo 0 59 (← expect? ':' cs)
  let (_, cs) ← readTwo 0 60 (← expect? ':' cs)
  return afterFraction cs

/-- The text after a distance from universal time, in hours and minutes. -/
def afterDistance? (cs : List Char) : Option (List Char) := do
  let (_, cs) ← readTwo 0 23 cs
  let (_, cs) ← readTwo 0 59 (← expect? ':' cs)
  return cs

/-- The text after a mark of universal time or a distance from it, if there is one. -/
def afterOffset : List Char → List Char
  | [] => []
  | c :: rest =>
    if c = 'Z' ∨ c = 'z' then rest
    else if c = '+' ∨ c = '-' then (afterDistance? rest).getD (c :: rest)
    else c :: rest

/-- The text after the time that may follow a date. -/
def afterDay : List Char → List Char
  | [] => []
  | c :: rest =>
    if c = 'T' ∨ c = 't' ∨ c = ' ' then ((afterTime? rest).map afterOffset).getD (c :: rest)
    else c :: rest

/-- The text after a moment. -/
def afterMoment? (cs : List Char) : Option (List Char) :=
  match afterDate? cs with
  | some rest => some (afterDay rest)
  | none => afterTime? cs

/-- A moment as it is spelled. -/
def readMoment (cs : List Char) : Option (List Char × List Char) :=
  (afterMoment? cs).map fun rest => (cs.take (cs.length - rest.length), rest)

end NodeLink.Toml
