import NodeLink.Toml.Value

/-!
# The tables that statements make

Statements are put together, one after the other, into one table. What a table may
take up depends on how it came to be. A table with a header of its own takes pairs
under that header and tables from headers below it, but no dotted keys from a table
above; one that a header only passed through may get its own header later, once; one
made by dotted keys grows by dotted keys and by headers below it; a table between
braces is closed. No entry is ever replaced.

An array of tables keeps its newest table apart, because every path leads into that
one. A text whose statements do not agree with this has no table at all.
-/

set_option autoImplicit false

namespace NodeLink.Toml

/-- How a table came to be. -/
inductive Origin
  /-- It has a header of its own, or is the outermost table or an element of an array. -/
  | header
  /-- Only headers of tables inside it have named it. -/
  | passed
  | dotted
  | braces
deriving DecidableEq

/-- An entry of a table. -/
inductive Node
  | scalar (s : Scalar)
  | array (items : List Node)
  | table (origin : Origin) (entries : List (String × Node))
  /-- An array of tables, each begun by a header. -/
  | elements (older : List (List (String × Node))) (newest : List (String × Node))

/-- The entries of a table by their names, in the order of their first mention. -/
abbrev Table := List (String × Node)

namespace Table

/-- The entry of a name. -/
def get? (t : Table) (name : String) : Option Node := t.lookup name

/-- The table with an entry set, in its place if the name is there. -/
def set (t : Table) (name : String) (n : Node) : Table :=
  match t with
  | [] => [(name, n)]
  | (k, m) :: rest => if k = name then (name, n) :: rest else (k, m) :: set rest name n

/-- The entry that was set is found. -/
theorem get?_set_self (t : Table) (name : String) (n : Node) :
    (t.set name n).get? name = some n := by
  induction t with
  | nil => simp [set, get?]
  | cons e rest ih =>
    obtain ⟨k, m⟩ := e
    by_cases hk : k = name
    · simp [set, get?, hk]
    · have : (name == k) = false := by simpa using fun h => hk h.symm
      simpa [set, get?, hk, List.lookup_cons, this] using ih

/-- Entries of other names are as they were. -/
theorem get?_set_other (t : Table) {name other : String} (n : Node) (differ : other ≠ name) :
    (t.set name n).get? other = t.get? other := by
  induction t with
  | nil => simp [set, get?, List.lookup_cons, beq_eq_false_iff_ne.2 differ]
  | cons e rest ih =>
    obtain ⟨k, m⟩ := e
    by_cases hk : k = name
    · simp [set, get?, hk, List.lookup_cons, beq_eq_false_iff_ne.2 differ]
    · simp only [get?] at ih
      simp [set, get?, hk, List.lookup_cons, ih]

/-- Who is on the way along a path. -/
inductive Walker
  | header
  | key
deriving DecidableEq

/-- The origin of the tables that a walker makes on the way. -/
def Walker.leaves : Walker → Origin
  | .header => .passed
  | .key => .dotted

/-- Whether a walker may pass through a table. -/
def Walker.admits : Walker → Origin → Bool
  | .header, origin => origin ≠ .braces
  | .key, origin => origin = .passed || origin = .dotted

/-- Changes the table at the end of a path. Tables that are missing on the way are made. -/
def change? (walker : Walker) (f : Origin → Table → Option Table) :
    List String → Origin → Table → Option Table
  | [], origin, t => f origin t
  | name :: path, _, t =>
    match t.get? name with
    | none => do
      let inner ← change? walker f path walker.leaves []
      return t.set name (.table walker.leaves inner)
    | some (.table origin inner) =>
      if walker.admits origin then do
        let inner ← change? walker f path origin inner
        return t.set name (.table origin inner)
      else none
    | some (.elements older newest) => do
      let newest ← change? walker f path .header newest
      return t.set name (.elements older newest)
    | some _ => none

/-- Adds an entry under a key. A key with parents must end in a table that dotted keys
made, and the name must be free there. -/
def insert? (t : Table) (key : Key) (n : Node) : Option Table :=
  change? .key (fun origin u =>
    if key.parents ≠ [] ∧ origin ≠ .dotted then none
    else if (u.get? key.name).isSome then none
    else some (u.set key.name n)) key.parents .header t

/-- Takes up the header of a table. -/
def addHeader? (t : Table) (key : Key) : Option Table :=
  change? .header (fun _ u =>
    match u.get? key.name with
    | none => some (u.set key.name (.table .header []))
    | some (.table .passed inner) => some (u.set key.name (.table .header inner))
    | some _ => none) key.parents .header t

/-- Takes up the header of a new element of an array of tables. -/
def addElement? (t : Table) (key : Key) : Option Table :=
  change? .header (fun _ u =>
    match u.get? key.name with
    | none => some (u.set key.name (.elements [] []))
    | some (.elements older newest) => some (u.set key.name (.elements (older ++ [newest]) []))
    | some _ => none) key.parents .header t

end Table

/-! ## Values -/

mutual

/-- The entry that a value makes. -/
def Value.node? : Value → Option Node
  | .scalar s => some (.scalar s)
  | .array items => (nodes? items).map .array
  | .braces pairs => (braces? pairs []).map (.table .braces)

/-- The entries that items make. -/
def nodes? : List Value → Option (List Node)
  | [] => some []
  | v :: rest => do
    let n ← v.node?
    return n :: (← nodes? rest)

/-- The table that pairs between braces make, added to one. -/
def braces? : List (Key × Value) → Table → Option Table
  | [], t => some t
  | (key, v) :: rest, t => do
    let t ← t.insert? key (← v.node?)
    braces? rest t

end

/-! ## Statements -/

/-- A table in the making. -/
structure Draft where
  root : Table := []
  /-- The names of the last header. -/
  current : List String := []

namespace Draft

def add? (d : Draft) : Statement → Option Draft
  | .pair key v => do
    let n ← v.node?
    let root ← Table.change? .header (fun _ t => t.insert? key n) d.current .header d.root
    return { d with root }
  | .header key => do return ⟨← d.root.addHeader? key, key.names⟩
  | .element key => do return ⟨← d.root.addElement? key, key.names⟩

end Draft

/-- The table that statements make. -/
def Table.ofStatements? (statements : List Statement) : Option Table :=
  (statements.foldlM Draft.add? {}).map Draft.root

end NodeLink.Toml
