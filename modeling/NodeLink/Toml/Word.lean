import NodeLink.Number.Digits

/-!
# Blanks, names and strings

The parts of a TOML text that are read character by character. A *plain* character
is a tab or any character that is not an ASCII control; comments and strings hold
nothing else. A line ends with a line feed, before which one carriage return may
stand; a carriage return anywhere else is refused.

Strings have four forms. Between single double quotes a backslash escapes; between
single quotes nothing does. Each form has a version with tripled quotes that may
hold line ends and up to two of its quotes in a row, also just before its end. In
such a block a backslash at the end of a line swallows all blanks and line ends
after it.

Every reader takes the text after the opening quote and returns the text after the
closing one. The counts that bound the readers are met by the length of the text,
and one.
-/

set_option autoImplicit false

namespace NodeLink.Toml

/-! ## Blanks, comments and line ends -/

def isBlank (c : Char) : Bool := c = ' ' || c = '\t'

/-- Characters that comments and strings may hold. -/
def isPlain (c : Char) : Bool := c = '\t' || (0x20 ≤ c.toNat && c.toNat ≠ 0x7f)

/-- The text after leading blanks. -/
def skipBlanks (cs : List Char) : List Char := cs.dropWhile isBlank

/-- The text after a line end, if it begins with one. -/
def newline? : List Char → Option (List Char)
  | '\n' :: rest => some rest
  | '\r' :: '\n' :: rest => some rest
  | _ => none

/-- The text after leading blanks and line ends. -/
def skipSpace : List Char → List Char
  | '\n' :: rest => skipSpace rest
  | '\r' :: '\n' :: rest => skipSpace rest
  | c :: rest => if isBlank c then skipSpace rest else c :: rest
  | [] => []

/-- The text after leading blanks, line ends and comments. `inside` says that a comment
has begun. -/
def skipLines (inside : Bool) : List Char → List Char
  | '\n' :: rest => skipLines false rest
  | '\r' :: '\n' :: rest => skipLines false rest
  | c :: rest =>
    if inside then if isPlain c then skipLines true rest else c :: rest
    else if isBlank c then skipLines false rest
    else if c = '#' then skipLines true rest
    else c :: rest
  | [] => []

/-- The text after the rest of a line, which holds blanks and perhaps a comment. -/
def endLine? (cs : List Char) : Option (List Char) :=
  let cs := match skipBlanks cs with
    | '#' :: rest => rest.dropWhile isPlain
    | cs => cs
  if cs = [] then some [] else newline? cs

/-! ## Escapes -/

/-- The character with a given number. -/
def charOf? (n : Nat) : Option Char := if n.isValidChar then some (Char.ofNat n) else none

/-- The character of an escape of one letter. -/
def shortEscape? : Char → Option Char
  | 'b' => some '\x08'
  | 't' => some '\t'
  | 'n' => some '\n'
  | 'f' => some '\x0c'
  | 'r' => some '\r'
  | '"' => some '"'
  | '\\' => some '\\'
  | _ => none

/-- The character that an escape stands for, read after its backslash. -/
def readEscape : List Char → Option (Char × List Char)
  | 'u' :: a :: b :: c :: d :: rest => do
    let n ← Number.natural? 16 [a, b, c, d]
    return (← charOf? n, rest)
  | 'U' :: a :: b :: c :: d :: e :: f :: g :: h :: rest => do
    let n ← Number.natural? 16 [a, b, c, d, e, f, g, h]
    return (← charOf? n, rest)
  | c :: rest => (shortEscape? c).map fun e => (e, rest)
  | [] => none

/-! ## Strings -/

/-- The rest of a string between double quotes. -/
def readQuoted : Nat → List Char → Option (List Char × List Char)
  | _, [] => none
  | 0, _ => none
  | n + 1, c :: rest =>
    if c = '"' then some ([], rest)
    else if c = '\\' then do
      let (e, rest) ← readEscape rest
      let (cs, rest) ← readQuoted n rest
      return (e :: cs, rest)
    else if isPlain c then do
      let (cs, rest) ← readQuoted n rest
      return (c :: cs, rest)
    else none

/-- The rest of a string between single quotes. -/
def readLiteral : List Char → Option (List Char × List Char)
  | [] => none
  | c :: rest =>
    if c = '\x27' then some ([], rest)
    else if isPlain c then do
      let (cs, rest) ← readLiteral rest
      return (c :: cs, rest)
    else none

/-- The rest of a block after tripled quotes: up to two further quotes belong to it. -/
def closeBlock (quote : Char) : List Char → List Char × List Char
  | a :: b :: rest =>
    if a = quote then if b = quote then ([quote, quote], rest) else ([quote], b :: rest)
    else ([], a :: b :: rest)
  | [a] => if a = quote then ([quote], []) else ([], [a])
  | [] => ([], [])

/-- The rest of a block between tripled double quotes. -/
def readQuotedBlock : Nat → List Char → Option (List Char × List Char)
  | 0, _ => none
  | n + 1, cs =>
    match cs with
    | '"' :: '"' :: '"' :: rest => some (closeBlock '"' rest)
    | '\n' :: rest | '\r' :: '\n' :: rest => do
      let (cs, rest) ← readQuotedBlock n rest
      return ('\n' :: cs, rest)
    | '\\' :: rest =>
      match newline? (skipBlanks rest) with
      | some rest => readQuotedBlock n (skipSpace rest)
      | none => do
        let (e, rest) ← readEscape rest
        let (cs, rest) ← readQuotedBlock n rest
        return (e :: cs, rest)
    | c :: rest =>
      if isPlain c then do
        let (cs, rest) ← readQuotedBlock n rest
        return (c :: cs, rest)
      else none
    | [] => none

/-- The rest of a block between tripled single quotes. -/
def readLiteralBlock : Nat → List Char → Option (List Char × List Char)
  | 0, _ => none
  | n + 1, cs =>
    match cs with
    | '\x27' :: '\x27' :: '\x27' :: rest => some (closeBlock '\x27' rest)
    | '\n' :: rest | '\r' :: '\n' :: rest => do
      let (cs, rest) ← readLiteralBlock n rest
      return ('\n' :: cs, rest)
    | c :: rest =>
      if isPlain c then do
        let (cs, rest) ← readLiteralBlock n rest
        return (c :: cs, rest)
      else none
    | [] => none

/-- The text of a block after the line end that may open it. -/
def openBlock (cs : List Char) : List Char := (newline? cs).getD cs

/-- A string in any of its four forms. -/
def readString : List Char → Option (List Char × List Char)
  | '"' :: '"' :: '"' :: rest => readQuotedBlock (rest.length + 1) (openBlock rest)
  | '"' :: rest => readQuoted rest.length rest
  | '\x27' :: '\x27' :: '\x27' :: rest => readLiteralBlock (rest.length + 1) (openBlock rest)
  | '\x27' :: rest => readLiteral rest
  | _ => none

/-! ## Names -/

/-- Characters of a name without quotes. -/
def isBare (c : Char) : Bool :=
  ('A' ≤ c && c ≤ 'Z') || ('a' ≤ c && c ≤ 'z') || ('0' ≤ c && c ≤ '9') || c = '-' || c = '_'

/-- A name, bare or quoted on one line. -/
def readName : List Char → Option (String × List Char)
  | '"' :: rest => (readQuoted rest.length rest).map fun r => (String.ofList r.1, r.2)
  | '\x27' :: rest => (readLiteral rest).map fun r => (String.ofList r.1, r.2)
  | cs =>
    let name := cs.takeWhile isBare
    if name = [] then none else some (String.ofList name, cs.dropWhile isBare)

end NodeLink.Toml
