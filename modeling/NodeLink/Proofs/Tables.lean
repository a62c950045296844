import NodeLink.Toml.Table

/-!
# Tables, name by name

What a table says of a name depends only on the statements about that name, in their order. Each
statement, placed below the header that it belongs to, reads and sets the entry of one name, the
first on its path. So statements make a table just when those about each name do so alone
(`run?_of_parts`, `run?_part`), and its entry of a name is the one that those about the name make.
Statements about different names may stand in any order, and those about names that a reader does
not ask for change nothing that it finds.

The same holds inside a table with a header of its own: the statements that lead into it act on it
as the statements of a text act on the outermost table (`run?_within`).
-/

set_option autoImplicit false

namespace NodeLink.Toml

namespace Table

/-! ## Actions on one entry -/

/-- An action that reads and sets the entry of one name, and nothing else. -/
def Concerns (name : String) (act : Table → Option Table) : Prop :=
  ∃ g : Option Node → Option Node, ∀ t, act t = (g (t.get? name)).map (t.set name)

section Concerns

variable {name : String} {act : Table → Option Table} {t u : Table}

theorem Concerns.get?_other (concerns : Concerns name act) (acted : act t = some u)
    {other : String} (differ : other ≠ name) : u.get? other = t.get? other := by
  obtain ⟨g, spec⟩ := concerns
  rw [spec] at acted
  obtain ⟨n, -, rfl⟩ := Option.map_eq_some_iff.mp acted
  exact get?_set_other t n differ

/-- On a table with the same entry of the name an action does the same to that entry. -/
theorem Concerns.congr (concerns : Concerns name act) (acted : act t = some u) {v : Table}
    (same : v.get? name = t.get? name) : ∃ w, act v = some w ∧ w.get? name = u.get? name := by
  obtain ⟨g, spec⟩ := concerns
  rw [spec] at acted
  obtain ⟨n, made, rfl⟩ := Option.map_eq_some_iff.mp acted
  refine ⟨v.set name n, ?_, ?_⟩
  · rw [spec, same, made, Option.map_some]
  · rw [get?_set_self, get?_set_self]

end Concerns

/-- What a walker makes of the entry that its path leads through. -/
def walked? (walker : Walker) (f : Origin → Table → Option Table) (path : List String) :
    Option Node → Option Node
  | none => (change? walker f path walker.leaves []).map (.table walker.leaves)
  | some (.table origin inner) =>
    if walker.admits origin then (change? walker f path origin inner).map (.table origin) else none
  | some (.elements older newest) => (change? walker f path .header newest).map (.elements older)
  | some _ => none

theorem concerns_change (walker : Walker) (f : Origin → Table → Option Table) (name : String)
    (path : List String) (origin : Origin) :
    Concerns name (change? walker f (name :: path) origin) := by
  refine ⟨walked? walker f path, fun t => ?_⟩
  rw [change?]
  cases t.get? name with
  | none => simp only [walked?, Option.map_eq_bind, Option.bind_assoc]; rfl
  | some n =>
    cases n with
    | scalar s => rfl
    | array items => rfl
    | table origin inner =>
      by_cases admitted : walker.admits origin = true
      · simp only [walked?, if_pos admitted, Option.map_eq_bind, Option.bind_assoc]; rfl
      · simp only [walked?, if_neg admitted, Option.map_none]
    | elements older newest =>
      simp only [walked?, Option.map_eq_bind, Option.bind_assoc]; rfl

/-- A change at the end of a path concerns the first name of the path. -/
theorem concerns_at {walker : Walker} {f : Origin → Table → Option Table} {last : String}
    (ends : Concerns last (f .header)) (path : List String) :
    Concerns (path.headD last) (change? walker f path .header) := by
  cases path with
  | nil => exact ends
  | cons name path => exact concerns_change walker f name path .header

theorem concerns_insert (key : Key) (n : Node) :
    Concerns (key.parents.headD key.name) fun t => t.insert? key n := by
  obtain ⟨parents, name⟩ := key
  cases parents with
  | nil =>
    refine ⟨fun m => if m.isSome then none else some n, fun t => ?_⟩
    show (if ([] : List String) ≠ [] ∧ Origin.header ≠ .dotted then none
      else if (t.get? name).isSome then none else some (t.set name n)) = _
    rw [if_neg fun h => h.1 rfl, List.headD_nil]
    cases t.get? name <;> rfl
  | cons parent parents => exact concerns_change _ _ parent parents .header

/-- What a header makes of the entry of its name. -/
def headed? : Option Node → Option Node
  | none => some (.table .header [])
  | some (.table .passed inner) => some (.table .header inner)
  | some _ => none

theorem concerns_addHeader (key : Key) :
    Concerns (key.parents.headD key.name) fun t => t.addHeader? key := by
  refine concerns_at ⟨headed?, fun t => ?_⟩ key.parents
  cases t.get? key.name with
  | none => rfl
  | some n =>
    cases n with
    | table origin inner => cases origin <;> rfl
    | scalar | array | elements => rfl

/-- What the header of an element makes of the entry of its name. -/
def enlarged? : Option Node → Option Node
  | none => some (.elements [] [])
  | some (.elements older newest) => some (.elements (older ++ [newest]) [])
  | some _ => none

theorem concerns_addElement (key : Key) :
    Concerns (key.parents.headD key.name) fun t => t.addElement? key := by
  refine concerns_at ⟨enlarged?, fun t => ?_⟩ key.parents
  cases t.get? key.name with
  | none => rfl
  | some n => cases n <;> rfl

end Table

open Table (Concerns)

/-! ## Statements in their places -/

/-- A statement, a pair with the names of the header above it. -/
inductive Placed
  | pair (under : List String) (key : Key) (value : Value)
  | header (key : Key)
  | element (key : Key)

/-- A statement in its place below a header. -/
def Statement.placed (current : List String) : Statement → Placed
  | .pair key v => .pair current key v
  | .header key => .header key
  | .element key => .element key

/-- The names of the header that is the last one after a statement. -/
def Statement.current (before : List String) : Statement → List String
  | .pair _ _ => before
  | .header key | .element key => key.names

/-- The statements of a text in their places, the first one below the header given. -/
def place (current : List String) : List Statement → List Placed
  | [] => []
  | s :: rest => s.placed current :: place (s.current current) rest

namespace Placed

/-- The name that a statement is about: the first on its path. -/
def about : Placed → String
  | pair under key _ => under.headD (key.parents.headD key.name)
  | header key => key.parents.headD key.name
  | element key => key.parents.headD key.name

/-- The table with what a statement adds. -/
def add? (t : Table) : Placed → Option Table
  | pair under key v => do
    let n ← v.node?
    Table.change? .header (fun _ t => t.insert? key n) under .header t
  | header key => t.addHeader? key
  | element key => t.addElement? key

theorem concerns_add (p : Placed) : Concerns p.about p.add? := by
  cases p with
  | pair under key v =>
    cases made : v.node? with
    | none => exact ⟨fun _ => none, fun t => by simp only [add?, made]; rfl⟩
    | some n =>
      obtain ⟨g, spec⟩ : Concerns (Placed.pair under key v).about
          (Table.change? .header (fun _ t => t.insert? key n) under .header) :=
        Table.concerns_at (f := fun _ t => t.insert? key n) (Table.concerns_insert key n) under
      exact ⟨g, fun t => by rw [← spec]; simp only [add?, made]; rfl⟩
  | header key => exact Table.concerns_addHeader key
  | element key => exact Table.concerns_addElement key

end Placed

/-- The table with what statements add, one after the other. -/
def run? (t : Table) (ps : List Placed) : Option Table := ps.foldlM Placed.add? t

theorem run?_cons (t : Table) (p : Placed) (ps : List Placed) :
    run? t (p :: ps) = (p.add? t).bind fun u => run? u ps := List.foldlM_cons

theorem draft_add?_eq (d : Draft) (s : Statement) :
    d.add? s =
      (Placed.add? d.root (s.placed d.current)).map fun t => ⟨t, s.current d.current⟩ := by
  cases s with
  | pair key v =>
    simp only [Draft.add?, Statement.placed, Placed.add?, Option.bind_eq_bind, Option.map_eq_bind,
      Option.bind_assoc]
    rfl
  | header key =>
    simp only [Draft.add?, Statement.placed, Placed.add?, Option.bind_eq_bind, Option.map_eq_bind]
    rfl
  | element key =>
    simp only [Draft.add?, Statement.placed, Placed.add?, Option.bind_eq_bind, Option.map_eq_bind]
    rfl

theorem foldlM_draft (statements : List Statement) (d : Draft) :
    (statements.foldlM Draft.add? d).map Draft.root = run? d.root (place d.current statements) := by
  induction statements generalizing d with
  | nil => rfl
  | cons s statements ih =>
    rw [List.foldlM_cons, draft_add?_eq, place, run?_cons]
    cases Placed.add? d.root (s.placed d.current) with
    | none => rfl
    | some t => exact ih ⟨t, s.current d.current⟩

theorem ofStatements?_eq (statements : List Statement) :
    Table.ofStatements? statements = run? [] (place [] statements) :=
  foldlM_draft statements {}

/-! ## Name by name -/

/-- The statements about a name, in their order. -/
def part (name : String) (ps : List Placed) : List Placed := ps.filter (·.about = name)

theorem part_cons_self {p : Placed} {name : String} (same : p.about = name) (ps : List Placed) :
    part name (p :: ps) = p :: part name ps := List.filter_cons_of_pos (decide_eq_true same)

theorem part_cons_other {p : Placed} {name : String} (differ : p.about ≠ name) (ps : List Placed) :
    part name (p :: ps) = part name ps := List.filter_cons_of_neg (by simpa using differ)

/-- The statements about a name make its entry alone, from any table with the same entry of it. -/
theorem run?_part {ps : List Placed} {t t' : Table} (ran : run? t ps = some t') (name : String)
    {u : Table} (same : u.get? name = t.get? name) :
    ∃ u', run? u (part name ps) = some u' ∧ u'.get? name = t'.get? name := by
  induction ps generalizing t u with
  | nil =>
    obtain rfl := Option.some.inj ran
    exact ⟨u, rfl, same⟩
  | cons p ps ih =>
    rw [run?_cons] at ran
    obtain ⟨v, added, ran⟩ := Option.bind_eq_some_iff.mp ran
    by_cases mine : p.about = name
    · subst mine
      obtain ⟨w, did, agree⟩ := p.concerns_add.congr added same
      obtain ⟨u', rest, agree⟩ := ih ran agree
      refine ⟨u', ?_, agree⟩
      rw [part_cons_self rfl, run?_cons, did, Option.bind_some, rest]
    · rw [part_cons_other mine]
      exact ih ran (same.trans (p.concerns_add.get?_other added (Ne.symm mine)).symm)

/-- Statements make a table if those about each name do so alone. -/
theorem run?_of_parts {ps : List Placed} {t : Table}
    (parts : ∀ name, ∃ u, run? t (part name ps) = some u) : ∃ u, run? t ps = some u := by
  induction ps generalizing t with
  | nil => exact ⟨t, rfl⟩
  | cons p ps ih =>
    obtain ⟨u, own⟩ := parts p.about
    rw [part_cons_self rfl, run?_cons] at own
    obtain ⟨v, added, own⟩ := Option.bind_eq_some_iff.mp own
    rw [run?_cons, added, Option.bind_some]
    refine ih fun name => ?_
    by_cases mine : p.about = name
    · subst mine
      exact ⟨u, own⟩
    · obtain ⟨w, ran⟩ := parts name
      rw [part_cons_other mine] at ran
      -- The statement before them is about another name, so they start from the entry they had.
      have kept := p.concerns_add.get?_other added (Ne.symm mine)
      obtain ⟨w', ran', -⟩ := run?_part ran name kept
      rw [part, part, List.filter_filter] at ran'
      simp only [Bool.and_self] at ran'
      exact ⟨w', ran'⟩

/-- The statements about none of some names, in their order. -/
def others (names : List String) (ps : List Placed) : List Placed := ps.filter (·.about ∉ names)

theorem part_others {name : String} {names : List String} (other : name ∉ names)
    (ps : List Placed) : part name (others names ps) = part name ps := by
  rw [part, others, List.filter_filter]
  refine List.filter_congr fun p _ => ?_
  by_cases mine : p.about = name
  · simp [mine, other]
  · simp [mine]

/-- It is enough that those about each known name do so alone, and all others together. -/
theorem run?_of_known (names : List String) {ps : List Placed} {t : Table}
    (known : ∀ name ∈ names, ∃ u, run? t (part name ps) = some u)
    (agree : ∃ u, run? t (others names ps) = some u) : ∃ u, run? t ps = some u := by
  refine run?_of_parts fun name => ?_
  by_cases mem : name ∈ names
  · exact known name mem
  · obtain ⟨u, ran⟩ := agree
    obtain ⟨w, ran, -⟩ := run?_part ran name rfl
    exact ⟨w, part_others mem ps ▸ ran⟩

/-! ## What is found -/

section Found

variable {ps : List Placed} {t : Table} {name : String}

theorem get?_of_no_part (ran : run? [] ps = some t) (nothing : part name ps = []) :
    t.get? name = none := by
  obtain ⟨u, own, agree⟩ := run?_part ran name rfl
  rw [nothing] at own
  obtain rfl := Option.some.inj own
  exact agree.symm

theorem run?_pair (missing : t.get? name = none) (v : Value) :
    run? t [.pair [] (.plain name) v] = v.node?.map (t.set name) := by
  rw [run?_cons]
  simp only [Placed.add?, Table.change?, Table.insert?, Key.plain, missing]
  cases v.node? <;> rfl

/-- A name that one pair alone is about has the entry of its value. -/
theorem get?_of_pair {v : Value} (ran : run? [] ps = some t)
    (one : part name ps = [.pair [] (.plain name) v]) :
    ∃ n, v.node? = some n ∧ t.get? name = some n := by
  obtain ⟨u, own, agree⟩ := run?_part ran name rfl
  rw [one, run?_pair rfl] at own
  obtain ⟨n, made, rfl⟩ := Option.map_eq_some_iff.mp own
  exact ⟨n, made, by rw [← agree, Table.get?_set_self]⟩

end Found

/-! ## Below a header -/

/-- A statement about a table, as one that leads into it from the table around it. -/
def Placed.within (name : String) : Placed → Placed
  | pair under key v => pair (name :: under) key v
  | header key => header ⟨name :: key.parents, key.name⟩
  | element key => element ⟨name :: key.parents, key.name⟩

section Within

variable {t inner : Table} {name : String}

theorem change?_within (found : t.get? name = some (.table .header inner))
    (f : Origin → Table → Option Table) (path : List String) :
    Table.change? .header f (name :: path) .header t =
      (Table.change? .header f path .header inner).map fun u => t.set name (.table .header u) := by
  have admitted : Table.Walker.header.admits .header = true := rfl
  rw [Table.change?, found]
  simp only [admitted, if_true, Option.map_eq_bind]
  rfl

theorem add?_within (found : t.get? name = some (.table .header inner)) (p : Placed) :
    (p.within name).add? t = (p.add? inner).map fun u => t.set name (.table .header u) := by
  cases p with
  | pair under key v =>
    cases made : v.node? with
    | none => simp only [Placed.within, Placed.add?, made]; rfl
    | some n =>
      simp only [Placed.within, Placed.add?, made, Option.bind_eq_bind, Option.bind_some]
      exact change?_within found _ under
  | header key => exact change?_within found _ key.parents
  | element key => exact change?_within found _ key.parents

/-- The statements that lead into a table with a header act on it as on the outermost table. -/
theorem run?_within (found : t.get? name = some (.table .header inner)) (ps : List Placed) :
    (run? t (ps.map (·.within name))).map (·.get? name) =
      (run? inner ps).map fun u => some (.table .header u) := by
  induction ps generalizing t inner with
  | nil => exact congrArg some found
  | cons p ps ih =>
    rw [List.map_cons, run?_cons, run?_cons, add?_within found]
    cases p.add? inner with
    | none => rfl
    | some u => exact ih (Table.get?_set_self t name _)

/-- A header, and the statements that lead into its table. -/
def headed (name : String) (ps : List Placed) : List Placed :=
  .header (.plain name) :: ps.map (·.within name)

theorem run?_headed (name : String) (missing : t.get? name = none) (ps : List Placed) :
    (run? t (headed name ps)).map (·.get? name) =
      (run? [] ps).map fun u => some (.table .header u) := by
  have taken : Placed.add? t (.header (.plain name)) = some (t.set name (.table .header [])) := by
    simp only [Placed.add?, Table.addHeader?, Key.plain, Table.change?, missing]
  rw [headed, run?_cons, taken]
  exact run?_within (Table.get?_set_self t name _) ps

end Within

/-- A name with a header has the table that the statements leading into it make. -/
theorem get?_of_headed {ps inside : List Placed} {t : Table} {name : String}
    (ran : run? [] ps = some t) (only : part name ps = headed name inside) :
    ∃ u, run? [] inside = some u ∧ t.get? name = some (.table .header u) := by
  obtain ⟨w, own, agree⟩ := run?_part ran name rfl
  have entry := run?_headed (t := []) name rfl inside
  rw [← only, own, Option.map_some] at entry
  obtain ⟨u, made, same⟩ := Option.map_eq_some_iff.mp entry.symm
  exact ⟨u, made, by rw [← agree, ← same]⟩

section Headed

variable {name : String} {ps : List Placed}

theorem about_headed {p : Placed} (mem : p ∈ headed name ps) : p.about = name := by
  rcases List.mem_cons.mp mem with rfl | mem
  · rfl
  · obtain ⟨q, -, rfl⟩ := List.mem_map.mp mem
    cases q <;> rfl

theorem part_headed (name : String) (ps : List Placed) :
    part name (headed name ps) = headed name ps :=
  List.filter_eq_self.mpr fun _ mem => decide_eq_true (about_headed mem)

theorem part_headed_other {other : String} (differ : other ≠ name) :
    part other (headed name ps) = [] := by
  refine List.filter_eq_nil_iff.mpr fun p mem same => ?_
  exact differ ((of_decide_eq_true same).symm.trans (about_headed mem))

theorem others_headed {names : List String} (known : name ∈ names) :
    others names (headed name ps) = [] := by
  refine List.filter_eq_nil_iff.mpr fun p mem other => ?_
  exact of_decide_eq_true other (about_headed mem ▸ known)

end Headed

/-! ## Pairs of plain keys -/

/-- A pair of a plain key, below no header. -/
def Placed.plain (e : String × Value) : Placed := .pair [] (.plain e.1) e.2

theorem about_plain (e : String × Value) : (Placed.plain e).about = e.1 := rfl

/-- Of pairs of different names, at most one is about a name. -/
theorem part_plain {pairs : List (String × Value)} (distinct : (pairs.map Prod.fst).Nodup)
    (name : String) :
    part name (pairs.map Placed.plain) =
      ((pairs.lookup name).map fun v => Placed.plain (name, v)).toList := by
  induction pairs with
  | nil => rfl
  | cons e pairs ih =>
    obtain ⟨k, v⟩ := e
    obtain ⟨fresh, distinct⟩ := List.nodup_cons.mp distinct
    rw [List.map_cons]
    by_cases same : k = name
    · subst same
      have gone : pairs.lookup k = none := by
        refine List.lookup_eq_none_iff.mpr fun e mem => ?_
        exact bne_iff_ne.mpr fun same => fresh (List.mem_map.mpr ⟨e, mem, same.symm⟩)
      rw [part_cons_self (about_plain (k, v)), ih distinct, gone, List.lookup_cons_self]
      rfl
    · rw [part_cons_other (p := .plain (k, v)) same, ih distinct, List.lookup_cons,
        beq_eq_false_iff_ne.mpr (Ne.symm same)]

/-- Pairs of different names make a table if their values are possible. -/
theorem run?_plain {pairs : List (String × Value)} (distinct : (pairs.map Prod.fst).Nodup)
    (possible : ∀ e ∈ pairs, ∃ n, e.2.node? = some n) :
    ∃ t, run? [] (pairs.map Placed.plain) = some t := by
  refine run?_of_parts fun name => ?_
  rw [part_plain distinct name]
  cases given : pairs.lookup name with
  | none => exact ⟨[], rfl⟩
  | some v =>
    obtain ⟨before, after, rfl, -⟩ := List.lookup_eq_some_iff.mp given
    obtain ⟨n, made⟩ := possible (name, v) (List.mem_append_right before List.mem_cons_self)
    refine ⟨Table.set [] name n, ?_⟩
    show run? [] [Placed.pair [] (.plain name) v] = _
    rw [run?_pair rfl, made, Option.map_some]

theorem others_plain (names : List String) (pairs : List (String × Value)) :
    others names (pairs.map Placed.plain) =
      (pairs.filter (·.1 ∉ names)).map Placed.plain := by
  rw [others, List.filter_map]
  rfl

theorem place_plain (current : List String) (pairs : List (String × Value))
    (rest : List Statement) :
    place current (pairs.map (fun e => Statement.pair (.plain e.1) e.2) ++ rest) =
      pairs.map (fun e => Placed.pair current (.plain e.1) e.2) ++ place current rest := by
  induction pairs with
  | nil => rfl
  | cons e pairs ih => exact congrArg _ ih

end NodeLink.Toml
