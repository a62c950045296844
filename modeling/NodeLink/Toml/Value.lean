import NodeLink.Number.Binary64

/-!
# TOML as it is written

A TOML text is a sequence of statements: a pair of a key and a value, or a header
that says to which table the pairs after it belong. This module holds that sequence
and nothing of its meaning. Whether the statements agree with one another, and which
tables they make, is decided in `NodeLink.Toml.Table`.

A date or time is kept as it is spelled. No use of these texts asks for more than
that it is well formed.
-/

set_option autoImplicit false

namespace NodeLink.Toml

open Number (Binary64)

inductive Scalar
  | string (s : String)
  | integer (n : Int)
  | float (x : Binary64)
  | boolean (b : Bool)
  /-- A date, a time, or both. -/
  | moment (spelling : List Char)
deriving DecidableEq

/-- A key: the names of the tables on the way to an entry, and the name of the entry. -/
structure Key where
  /-- The tables on the way, the outermost first. -/
  parents : List String
  name : String
deriving DecidableEq

/-- All names of a key in order. -/
def Key.names (k : Key) : List String := k.parents ++ [k.name]

/-- A key of one name. -/
def Key.plain (name : String) : Key := ⟨[], name⟩

/-- A value as it is written. -/
inductive Value
  | scalar (s : Scalar)
  | array (items : List Value)
  | braces (pairs : List (Key × Value))

/-- One statement of a text. -/
inductive Statement
  /-- A key is given a value. -/
  | pair (key : Key) (value : Value)
  /-- The pairs that follow belong to this table. -/
  | header (key : Key)
  /-- The pairs that follow belong to a new element of this array of tables. -/
  | element (key : Key)

end NodeLink.Toml
