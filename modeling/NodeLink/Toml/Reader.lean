import NodeLink.Toml.Moment
import NodeLink.Toml.Numeral
import NodeLink.Toml.Word

/-!
# Reading TOML

A text is read into its statements by the grammar alone. Each statement ends its
line; blank lines and comments may stand between them, and a byte order mark before
all. Arrays may run over lines and end with a comma, tables between braces may not.

Values nest at most seventy-nine deep, and a key has at most as many names. The
first of these bounds is also what makes the reading of values terminate; the loops
over items, pairs and statements are bounded by the length of the text.
-/

set_option autoImplicit false

namespace NodeLink.Toml

/-- How deep values may nest, and how many names a key may have. -/
def maxDepth : Nat := 79

/-- A key of at most the given count of names, with the blanks around it. -/
def readNames : Nat → List Char → Option (Key × List Char)
  | 0, _ => none
  | n + 1, cs => do
    let (name, rest) ← readName (skipBlanks cs)
    match skipBlanks rest with
    | '.' :: rest => do
      let (key, rest) ← readNames n rest
      return (⟨name :: key.parents, key.name⟩, rest)
    | rest => return (.plain name, rest)

/-- A key, with the blanks around it. -/
def readKey (cs : List Char) : Option (Key × List Char) := readNames maxDepth cs

/-! ## Values -/

/-- A value without parts. A moment is tried before a number, since it begins with one. -/
def readScalar : List Char → Option (Scalar × List Char)
  | 't' :: 'r' :: 'u' :: 'e' :: rest => some (.boolean true, rest)
  | 'f' :: 'a' :: 'l' :: 's' :: 'e' :: rest => some (.boolean false, rest)
  | cs =>
    match readString cs with
    | some (s, rest) => some (.string (String.ofList s), rest)
    | none =>
      match readMoment cs with
      | some (spelling, rest) => some (.moment spelling, rest)
      | none => readNumber cs

/-- The items of an array up to its closing bracket. -/
def readItems (read : List Char → Option (Value × List Char)) :
    Nat → List Char → Option (List Value × List Char)
  | 0, _ => none
  | n + 1, cs =>
    match skipLines false cs with
    | ']' :: rest => some ([], rest)
    | cs => do
      let (v, rest) ← read cs
      match skipLines false rest with
      | ']' :: rest => return ([v], rest)
      | ',' :: rest => do
        let (vs, rest) ← readItems read n rest
        return (v :: vs, rest)
      | _ => none

/-- One pair or more up to the closing brace. -/
def readPairs (read : List Char → Option (Value × List Char)) :
    Nat → List Char → Option (List (Key × Value) × List Char)
  | 0, _ => none
  | n + 1, cs => do
    let (key, rest) ← readKey cs
    match rest with
    | '=' :: rest => do
      let (v, rest) ← read (skipBlanks rest)
      match skipBlanks rest with
      | '\x7d' :: rest => return ([(key, v)], rest)
      | ',' :: rest => do
        let (pairs, rest) ← readPairs read n rest
        return ((key, v) :: pairs, rest)
      | _ => none
    | _ => none

/-- A value that nests at most as deep as given. -/
def readValue : Nat → List Char → Option (Value × List Char)
  | 0, cs => (readScalar cs).map fun r => (.scalar r.1, r.2)
  | depth + 1, cs =>
    match cs with
    | '[' :: rest =>
      (readItems (readValue depth) (rest.length + 1) rest).map fun r => (.array r.1, r.2)
    | '\x7b' :: rest =>
      match skipBlanks rest with
      | '\x7d' :: rest => some (.braces [], rest)
      | rest =>
        (readPairs (readValue depth) (rest.length + 1) rest).map fun r => (.braces r.1, r.2)
    | cs => (readScalar cs).map fun r => (.scalar r.1, r.2)

/-! ## Statements -/

/-- One statement, without the rest of its line. -/
def readStatement : List Char → Option (Statement × List Char)
  | '[' :: '[' :: rest => do
    let (key, rest) ← readKey rest
    match rest with
    | ']' :: ']' :: rest => return (.element key, rest)
    | _ => none
  | '[' :: rest => do
    let (key, rest) ← readKey rest
    match rest with
    | ']' :: rest => return (.header key, rest)
    | _ => none
  | cs => do
    let (key, rest) ← readKey cs
    match rest with
    | '=' :: rest => do
      let (v, rest) ← readValue maxDepth (skipBlanks rest)
      return (.pair key v, rest)
    | _ => none

/-- The statements of a text. -/
def readStatements : Nat → List Char → Option (List Statement)
  | 0, _ => none
  | n + 1, cs =>
    match skipLines false cs with
    | [] => some []
    | cs => do
      let (s, rest) ← readStatement cs
      return s :: (← readStatements n (← endLine? rest))

/-- The text after a byte order mark, if it begins with one. -/
def skipMark : List Char → List Char
  | '\ufeff' :: rest => rest
  | cs => cs

/-- The statements of a whole text. -/
def ofText? (cs : List Char) : Option (List Statement) :=
  readStatements (cs.length + 1) (skipMark cs)

end NodeLink.Toml
