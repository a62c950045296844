import NodeLink.Text.Quoted

/-!
# Printed records

A value is printed for people as a record: a name with its fields, a name with
its items, a list, or a single word. The same layout has two forms. The flat
form stands on one line. The tall form gives every field and item a line of its
own, four blanks deeper than the line it belongs to, each with a comma after it.
-/

set_option autoImplicit false

namespace NodeLink.Text

/-- What is printed, before its form is chosen. -/
inductive Layout
  /-- A word that is printed as it stands. -/
  | word (text : String)
  /-- A name and its named fields; there is at least one. -/
  | fields (name : String) (entries : List (String × Layout))
  /-- A name and its unnamed items; there is at least one. -/
  | items (name : String) (entries : List Layout)
  | list (entries : List Layout)

namespace Layout

def string (s : String) : Layout := word (quoted s)

/-- A natural number in decimal digits. -/
def number (n : Nat) : Layout := word (toString n)

def bool (b : Bool) : Layout := word (if b then "true" else "false")

mutual

/-- The form on one line. -/
def flat : Layout → String
  | word text => text
  | fields name entries => name ++ " \x7b " ++ flatFields entries ++ " \x7d"
  | items name entries => name ++ "(" ++ flatItems entries ++ ")"
  | list entries => "[" ++ flatItems entries ++ "]"

/-- Fields on one line, with a comma and a blank between them. -/
def flatFields : List (String × Layout) → String
  | [] => ""
  | [(key, value)] => key ++ ": " ++ value.flat
  | (key, value) :: rest => key ++ ": " ++ value.flat ++ ", " ++ flatFields rest

/-- Items on one line, with a comma and a blank between them. -/
def flatItems : List Layout → String
  | [] => ""
  | [value] => value.flat
  | value :: rest => value.flat ++ ", " ++ flatItems rest

end

/-- The blanks before a line of the tall form. -/
def margin (depth : Nat) : String := String.ofList (List.replicate (4 * depth) ' ')

mutual

/-- The tall form, for a value that begins on a line `depth` levels deep. -/
def tallAt (depth : Nat) : Layout → String
  | word text => text
  | fields name entries =>
    name ++ " \x7b\n" ++ tallFields (depth + 1) entries ++ margin depth ++ "\x7d"
  | items name entries => name ++ "(\n" ++ tallItems (depth + 1) entries ++ margin depth ++ ")"
  | list [] => "[]"
  | list entries => "[\n" ++ tallItems (depth + 1) entries ++ margin depth ++ "]"

/-- Fields on lines of their own. -/
def tallFields (depth : Nat) : List (String × Layout) → String
  | [] => ""
  | (key, value) :: rest =>
    margin depth ++ key ++ ": " ++ value.tallAt depth ++ ",\n" ++ tallFields depth rest

/-- Items on lines of their own. -/
def tallItems (depth : Nat) : List Layout → String
  | [] => ""
  | value :: rest => margin depth ++ value.tallAt depth ++ ",\n" ++ tallItems depth rest

end

/-- The form with a line for every field. -/
def tall (l : Layout) : String := l.tallAt 0

end Layout

end NodeLink.Text
