import NodeLink.Text.Quoted

/-!
# JSON values as they are spelled

A JSON value is kept as its text spells it. A number is its token, not a number
of any machine type, so that nothing is lost and nothing is decided too early. A
string is a sequence of characters and of code units given by number; only when
its meaning is asked for are the code units put together, and a surrogate
without its partner has no meaning.

The compact form has no blanks. It escapes what JSON requires, with the short
escapes where there are any.
-/

set_option autoImplicit false

namespace NodeLink.Json

/-- A piece of a string. -/
inductive Piece
  /-- A character that stands for itself or has a short escape. -/
  | char (c : Char)
  /-- A code unit given by its four hexadecimal digits. -/
  | unit (n : Nat)
deriving DecidableEq

/-- A string as it is spelled. -/
abbrev Spelling := List Piece

namespace Spelling

/-- The spelling without numbered code units. -/
def ofString (s : String) : Spelling := s.toList.map .char

/-- Whether a code unit opens a surrogate pair. -/
def isHigh (n : Nat) : Bool := 0xd800 ≤ n && n ≤ 0xdbff

/-- Whether a code unit ends a surrogate pair. -/
def isLow (n : Nat) : Bool := 0xdc00 ≤ n && n ≤ 0xdfff

/-- The character of a surrogate pair. -/
def pair (high low : Nat) : Char :=
  Char.ofNat (0x10000 + (high - 0xd800) * 0x400 + (low - 0xdc00))

/-- The characters that a spelling means, unless a surrogate stands alone. -/
def meaning? : Spelling → Option (List Char)
  | [] => some []
  | .char c :: rest => (meaning? rest).map (c :: ·)
  | .unit n :: .unit m :: rest =>
    if isHigh n then
      if isLow m then (meaning? rest).map (pair n m :: ·) else none
    else if isLow n then none
    else (meaning? (.unit m :: rest)).map (Char.ofNat n :: ·)
  | .unit n :: rest =>
    if isHigh n || isLow n then none else (meaning? rest).map (Char.ofNat n :: ·)

/-- The string that a spelling means. -/
def toString? (s : Spelling) : Option String := s.meaning?.map String.ofList

end Spelling

/-- A JSON value as it is spelled. -/
inductive Value
  | null
  | bool (b : Bool)
  | number (token : List Char)
  | string (s : Spelling)
  | array (items : List Value)
  | object (members : List (Spelling × Value))

namespace Value

def ofNat (n : Nat) : Value := .number (Nat.toDigits 10 n)

def ofString (s : String) : Value := .string (.ofString s)

/-- An object with plain names. -/
def ofFields (fields : List (String × Value)) : Value :=
  .object (fields.map fun f => (.ofString f.1, f.2))

/-- Four hexadecimal digits of a code unit. -/
def fourDigits (n : Nat) : List Char :=
  [Text.hexDigit (n / 4096 % 16), Text.hexDigit (n / 256 % 16), Text.hexDigit (n / 16 % 16),
    Text.hexDigit (n % 16)]

/-- A piece of a string in its compact form. -/
def piece : Piece → List Char
  | .char c =>
    if c = '"' then ['\\', '"']
    else if c = '\\' then ['\\', '\\']
    else if c = '\x08' then ['\\', 'b']
    else if c = '\x0c' then ['\\', 'f']
    else if c = '\n' then ['\\', 'n']
    else if c = '\r' then ['\\', 'r']
    else if c = '\t' then ['\\', 't']
    else if c.toNat < 0x20 then '\\' :: 'u' :: fourDigits c.toNat
    else [c]
  | .unit n => '\\' :: 'u' :: fourDigits n

/-- A string in its compact form. -/
def spelling (s : Spelling) : List Char := '"' :: s.flatMap piece ++ ['"']

mutual

/-- The compact form of a value. -/
def compact : Value → List Char
  | null => ['n', 'u', 'l', 'l']
  | bool true => ['t', 'r', 'u', 'e']
  | bool false => ['f', 'a', 'l', 's', 'e']
  | number token => token
  | string s => spelling s
  | array items => '[' :: compactItems items ++ [']']
  | object members => '\x7b' :: compactMembers members ++ ['\x7d']

/-- Items with commas between them. -/
def compactItems : List Value → List Char
  | [] => []
  | [v] => v.compact
  | v :: rest => v.compact ++ ',' :: compactItems rest

/-- Members with commas between them. -/
def compactMembers : List (Spelling × Value) → List Char
  | [] => []
  | [(k, v)] => spelling k ++ ':' :: v.compact
  | (k, v) :: rest => spelling k ++ ':' :: v.compact ++ ',' :: compactMembers rest

end

/-- The compact text of a value. -/
def text (v : Value) : String := String.ofList v.compact

end Value

end NodeLink.Json
