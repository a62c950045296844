import NodeLink.Number.Decimal
import NodeLink.Text.Quoted
import NodeLink.Toml.Value
import NodeLink.Toml.Word

/-!
# Printing TOML

Each statement takes one line, and a header is set off by an empty line before it.
Names stand bare where they can and between double quotes otherwise; strings always
stand between double quotes on one line, with every character escaped that may not
stand for itself. Numbers are in base ten, doubles without an exponent.
-/

set_option autoImplicit false

namespace NodeLink.Toml

open Number (Style)

/-- A character between double quotes. -/
def quotedChar (c : Char) : List Char :=
  if c = '"' then ['\\', '"']
  else if c = '\\' then ['\\', '\\']
  else if isPlain c then [c]
  else ['\\', 'u', '0', '0', Text.hexDigit (c.toNat / 16), Text.hexDigit (c.toNat % 16)]

def quotedText (cs : List Char) : List Char := '"' :: cs.flatMap quotedChar ++ ['"']

/-- A name, bare if it can be. -/
def nameText (name : String) : List Char :=
  if name.toList ≠ [] ∧ name.toList.all isBare then name.toList else quotedText name.toList

/-- Names with points between them. -/
def namesText : List String → String → List Char
  | [], name => nameText name
  | parent :: parents, name => nameText parent ++ '.' :: namesText parents name

def Key.text (k : Key) : List Char := namesText k.parents k.name

def integerText (n : Int) : List Char :=
  if n < 0 then '-' :: Nat.toDigits 10 n.natAbs else Nat.toDigits 10 n.natAbs

def Scalar.text : Scalar → List Char
  | .string s => quotedText s.toList
  | .integer n => integerText n
  | .float x => (Style.file.write x).toList
  | .boolean true => ['t', 'r', 'u', 'e']
  | .boolean false => ['f', 'a', 'l', 's', 'e']
  | .moment spelling => spelling

mutual

def Value.text : Value → List Char
  | .scalar s => s.text
  | .array items => '[' :: itemsText items ++ [']']
  | .braces pairs => '\x7b' :: pairsText pairs ++ ['\x7d']

/-- Items with commas between them. -/
def itemsText : List Value → List Char
  | [] => []
  | [v] => v.text
  | v :: rest => v.text ++ ',' :: ' ' :: itemsText rest

/-- Pairs with commas between them. -/
def pairsText : List (Key × Value) → List Char
  | [] => []
  | [(k, v)] => k.text ++ ' ' :: '=' :: ' ' :: v.text
  | (k, v) :: rest => k.text ++ ' ' :: '=' :: ' ' :: v.text ++ ',' :: ' ' :: pairsText rest

end

/-- A statement with the ends of its lines. -/
def Statement.text : Statement → List Char
  | .pair k v => k.text ++ ' ' :: '=' :: ' ' :: v.text ++ ['\n']
  | .header k => '\n' :: '[' :: k.text ++ [']', '\n']
  | .element k => '\n' :: '[' :: '[' :: k.text ++ [']', ']', '\n']

def text (statements : List Statement) : List Char := statements.flatMap Statement.text

end NodeLink.Toml
