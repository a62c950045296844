import NodeLink.Proofs.Documents
import NodeLink.Proofs.Loading
import NodeLink.Proofs.Tables

/-!
# Files that give some of the settings

A file may give any of the nine keys, in any order at the top and below the header of the backoff,
with other keys and tables among them. What is loaded are the defaults with the given keys laid over
them (`partial_files_loaded`), and a value of the wrong type for one known key makes the whole file
unusable.

Of a text it is assumed only that it is read as statements of which those about each known key are
the one pair that gives it its value, and those about other names agree with one another. Where
these stand, and how the text is laid out, is free. That there are such texts for all values and all
orders is part of the result: statements of plain keys, printed line by line, are read back.
-/

set_option autoImplicit false

namespace NodeLink.Settings

open Number (Binary64)
open Toml (Key Node Placed Scalar Statement Table Value maxDepth others part place run?)

/-! ## The known keys -/

/-- The keys of a file that mean something. -/
inductive Item
  | socketTimeout
  | gracePeriod
  | tls
  | pooling
  | noDelay
  | base
  | cap
  | multiplier
  | jitter
deriving DecidableEq

namespace Item

def name : Item → String
  | socketTimeout => "socket_connect_timeout_ms"
  | gracePeriod => "connect_callback_grace_period_ms"
  | tls => "tls_enabled"
  | pooling => "buffer_pooling_enabled"
  | noDelay => "tcp_nodelay_enabled"
  | base => "base_ms"
  | cap => "max_ms"
  | multiplier => "multiplier"
  | jitter => "jitter_factor"

/-- The keys at the top of a file. -/
def outer : List Item := [socketTimeout, gracePeriod, tls, pooling, noDelay]

/-- The keys in the table of the backoff. -/
def inner : List Item := [base, cap, multiplier, jitter]

theorem outer_or_inner (item : Item) : item ∈ outer ∨ item ∈ inner := by
  cases item <;> decide

theorem name_ne (item : Item) : item.name ≠ "reconnect" := by
  cases item <;> decide

/-- The values that a key takes: a natural number of milliseconds, a switch, or a number. -/
def Takes : Item → Value → Prop
  | socketTimeout, v | gracePeriod, v | base, v | cap, v => ∃ n : Nat, v = .scalar (.integer n)
  | tls, v | pooling, v | noDelay, v => ∃ b, v = .scalar (.boolean b)
  | multiplier, v | jitter, v =>
    (∃ x, v = .scalar (.float x)) ∨ ∃ n, v = .scalar (.integer n)

end Item

/-! ## Partial settings -/

/-- The number of a factor as it is written: with a fraction, or as an integer. -/
inductive Factor
  | decimal (x : Binary64)
  | whole (n : Int64)

/-- The double that a factor stands for. -/
def Factor.double : Factor → Binary64
  | decimal x => x
  | whole n => .ofInt n.toInt

/-- Some of the settings. A time fits a signed word. -/
structure Partial where
  socketTimeout : Option (Fin (2 ^ 63)) := none
  gracePeriod : Option (Fin (2 ^ 63)) := none
  tls : Option Bool := none
  pooling : Option Bool := none
  noDelay : Option Bool := none
  base : Option (Fin (2 ^ 63)) := none
  cap : Option (Fin (2 ^ 63)) := none
  multiplier : Option Factor := none
  jitter : Option Factor := none

/-- The word of a time. -/
def millis (n : Fin (2 ^ 63)) : UInt64 := .ofNat n.val

/-- The settings with the given ones laid over them. -/
def Partial.over (p : Partial) (s : Settings) : Settings where
  socketTimeout := p.socketTimeout.elim s.socketTimeout millis
  gracePeriod := p.gracePeriod.elim s.gracePeriod millis
  tls := p.tls.getD s.tls
  pooling := p.pooling.getD s.pooling
  noDelay := p.noDelay.getD s.noDelay
  reconnect :=
    { base := p.base.elim s.reconnect.base millis
      cap := p.cap.elim s.reconnect.cap millis
      multiplier := p.multiplier.elim s.reconnect.multiplier Factor.double
      jitter := p.jitter.elim s.reconnect.jitter Factor.double }

def timeValue (n : Fin (2 ^ 63)) : Value := .scalar (.integer n.val)

def switchValue (b : Bool) : Value := .scalar (.boolean b)

def Factor.value : Factor → Value
  | decimal x => .scalar (.float x)
  | whole n => .scalar (.integer n.toInt)

/-- The values that a file gives to the keys. -/
def Partial.given (p : Partial) : Item → Option Value
  | .socketTimeout => p.socketTimeout.map timeValue
  | .gracePeriod => p.gracePeriod.map timeValue
  | .tls => p.tls.map switchValue
  | .pooling => p.pooling.map switchValue
  | .noDelay => p.noDelay.map switchValue
  | .base => p.base.map timeValue
  | .cap => p.cap.map timeValue
  | .multiplier => p.multiplier.map Factor.value
  | .jitter => p.jitter.map Factor.value

/-- A value that can be written, and that makes an entry. -/
def Writable (v : Value) : Prop := v.WellFormed maxDepth ∧ ∃ n, v.node? = some n

theorem writable_scalar {s : Scalar} (fits : s.WellFormed) : Writable (.scalar s) := by
  refine ⟨?_, .scalar s, by rw [Value.node?]⟩
  rw [Value.WellFormed]
  exact fits

theorem writable_time (n : Fin (2 ^ 63)) : Writable (timeValue n) :=
  writable_scalar ⟨by omega, by omega⟩

theorem writable_switch (b : Bool) : Writable (switchValue b) := writable_scalar trivial

theorem writable_factor (f : Factor) : Writable f.value := by
  cases f with
  | decimal x => exact writable_scalar trivial
  | whole n => exact writable_scalar ⟨n.le_toInt, n.toInt_lt⟩

theorem Partial.given_writable {p : Partial} {item : Item} {v : Value}
    (given : p.given item = some v) : Writable v := by
  cases item with
  | socketTimeout | gracePeriod | base | cap =>
    obtain ⟨n, -, rfl⟩ := Option.map_eq_some_iff.mp given
    exact writable_time n
  | tls | pooling | noDelay =>
    obtain ⟨b, -, rfl⟩ := Option.map_eq_some_iff.mp given
    exact writable_switch b
  | multiplier | jitter =>
    obtain ⟨f, -, rfl⟩ := Option.map_eq_some_iff.mp given
    exact writable_factor f

/-! ## Texts that give them -/

/-- Of some keys, those that are given have one pair each, and the others are not mentioned. -/
def Gives (given : Item → Option Value) (items : List Item) (ps : List Placed) : Prop :=
  ∀ item ∈ items,
    part item.name ps = ((given item).map fun v => Placed.pair [] (.plain item.name) v).toList

/-- The names that mean something at the top of a file. -/
def outerNames : List String := Item.outer.map Item.name ++ ["reconnect"]

def innerNames : List String := Item.inner.map Item.name

/-- Statements that give the known keys their values, at the top and below the header of the
backoff, if there is one. The other statements make tables of their own. -/
structure Sets (given : Item → Option Value) (top : List Placed) (below : Option (List Placed)) :
    Prop where
  gives_top : Gives given Item.outer top
  header : part "reconnect" top = below.elim [] (Toml.headed "reconnect")
  gives_below : Gives given Item.inner (below.getD [])
  agree_top : ∃ t, run? [] (others outerNames top) = some t
  agree_below : ∃ t, run? [] (others innerNames (below.getD [])) = some t

/-- A text that gives the known keys their values. -/
def Spells (given : Item → Option Value) (text : String) : Prop :=
  ∃ statements below, Toml.ofText? text.toList = some statements ∧
    Sets given (place [] statements) below

/-! ## Their tables -/

section Gives

variable {given : Item → Option Value} {items : List Item} {ps : List Placed} {t : Table}

theorem Gives.found (gives : Gives given items ps) (ran : run? [] ps = some t) {item : Item}
    (mem : item ∈ items) {v : Value} (has : given item = some v) :
    ∃ n, v.node? = some n ∧ t.get? item.name = some n := by
  have one := gives item mem
  rw [has] at one
  exact Toml.get?_of_pair ran one

theorem Gives.get?_eq (gives : Gives given items ps) (ran : run? [] ps = some t) {item : Item}
    (mem : item ∈ items) : t.get? item.name = (given item).bind Value.node? := by
  cases has : given item with
  | none =>
    have nothing := gives item mem
    rw [has] at nothing
    exact Toml.get?_of_no_part ran nothing
  | some v =>
    obtain ⟨n, made, found⟩ := gives.found ran mem has
    rw [found, Option.bind_some, made]

/-- Values that are possible can be given. -/
theorem Gives.run (gives : Gives given items ps)
    (possible : ∀ item ∈ items, ∀ v, given item = some v → ∃ n, v.node? = some n) {item : Item}
    (mem : item ∈ items) : ∃ t, run? [] (part item.name ps) = some t := by
  rw [gives item mem]
  cases has : given item with
  | none => exact ⟨[], rfl⟩
  | some v =>
    obtain ⟨n, made⟩ := possible item mem v has
    refine ⟨Table.set [] item.name n, ?_⟩
    show run? [] [Placed.pair [] (.plain item.name) v] = _
    rw [Toml.run?_pair rfl, made, Option.map_some]

end Gives

section Sets

variable {given : Item → Option Value} {top : List Placed} {below : Option (List Placed)}

theorem Sets.run_below (sets : Sets given top below)
    (possible : ∀ item v, given item = some v → ∃ n, v.node? = some n) :
    ∃ t, run? [] (below.getD []) = some t := by
  refine Toml.run?_of_known innerNames (fun name mem => ?_) sets.agree_below
  obtain ⟨item, known, rfl⟩ := List.mem_map.mp mem
  exact sets.gives_below.run (fun item _ v => possible item v) known

/-- Possible values make a table. -/
theorem Sets.run (sets : Sets given top below)
    (possible : ∀ item v, given item = some v → ∃ n, v.node? = some n) :
    ∃ t, run? [] top = some t := by
  refine Toml.run?_of_known outerNames (fun name mem => ?_) sets.agree_top
  rcases List.mem_append.mp mem with mem | mem
  · obtain ⟨item, known, rfl⟩ := List.mem_map.mp mem
    exact sets.gives_top.run (fun item _ v => possible item v) known
  · obtain rfl := List.mem_singleton.mp mem
    rw [sets.header]
    cases below with
    | none => exact ⟨[], rfl⟩
    | some ps =>
      obtain ⟨u, ran⟩ := sets.run_below possible
      have entry := Toml.run?_headed (t := []) "reconnect" rfl ps
      rw [show run? [] ps = some u from ran] at entry
      obtain ⟨t, ran, -⟩ := Option.map_eq_some_iff.mp entry
      exact ⟨t, ran⟩

/-- The entry of the backoff, and the table that it holds. -/
theorem Sets.reconnect (sets : Sets given top below) {t : Table} (ran : run? [] top = some t) :
    ∃ u, run? [] (below.getD []) = some u ∧
      t.get? "reconnect" = below.map fun _ => .table .header u := by
  have header := sets.header
  cases below with
  | none => exact ⟨[], rfl, Toml.get?_of_no_part ran header⟩
  | some ps => exact Toml.get?_of_headed ran header

end Sets

/-! ## Given values are read -/

/-- What is read of the values that stand for the elements of a type. -/
def Reads {α β : Type} (read : Node → Option β) (value : α → Value) (meaning : α → β) : Prop :=
  ∀ a, ∃ n, (value a).node? = some n ∧ read n = some (meaning a)

theorem reads_time : Reads word? timeValue millis := by
  intro n
  refine ⟨.scalar (.integer n.val), by rw [timeValue, Value.node?], ?_⟩
  have small : n.val < UInt64.size := Nat.lt_trans n.isLt (by decide)
  exact if_pos ⟨Int.natCast_nonneg _, small⟩

theorem reads_switch : Reads switch? switchValue id :=
  fun b => ⟨.scalar (.boolean b), by rw [switchValue, Value.node?], rfl⟩

theorem reads_factor : Reads factor? Factor.value Factor.double := by
  intro f
  cases f with
  | decimal x => exact ⟨.scalar (.float x), by rw [Factor.value, Value.node?], rfl⟩
  | whole n => exact ⟨.scalar (.integer n.toInt), by rw [Factor.value, Value.node?], rfl⟩

/-- A field is read as it is given, and is left alone otherwise. -/
theorem Gives.reads {given : Item → Option Value} {items : List Item} {ps : List Placed} {t : Table}
    (gives : Gives given items ps) (ran : run? [] ps = some t) {α β : Type}
    {read : Node → Option β} {value : α → Value} {meaning : α → β}
    (reads : Reads read value meaning) {item : Item} (mem : item ∈ items) {o : Option α}
    (same : given item = o.map value) (default : β) :
    orDefault read default (t.get? item.name) = some (o.elim default meaning) := by
  rw [gives.get?_eq ran mem, same]
  cases o with
  | none => rfl
  | some a =>
    obtain ⟨n, made, meant⟩ := reads a
    rw [Option.map_some, Option.bind_some, made]
    exact meant

section Given

variable {p : Partial} {top : List Placed} {below : Option (List Placed)} {t : Table}

theorem ofEntries?_given (gives : Gives p.given Item.inner top) (ran : run? [] top = some t) :
    Reconnect.ofEntries? (t.get? "base_ms") (t.get? "max_ms") (t.get? "multiplier")
      (t.get? "jitter_factor") = some (p.over {}).reconnect :=
  Reconnect.ofEntries?_eq_some_iff.mpr
    ⟨gives.reads ran reads_time (by decide : Item.base ∈ Item.inner) rfl 32,
     gives.reads ran reads_time (by decide : Item.cap ∈ Item.inner) rfl 4096,
     gives.reads ran reads_factor (by decide : Item.multiplier ∈ Item.inner) rfl 2,
     gives.reads ran reads_factor (by decide : Item.jitter ∈ Item.inner) rfl (.zero false)⟩

/-- The backoff is read below its header; without one, none of its keys is given. -/
theorem reconnect_given (sets : Sets p.given top below) (ran : run? [] top = some t) :
    orDefault Reconnect.ofNode? {} (t.get? "reconnect") = some (p.over {}).reconnect := by
  obtain ⟨u, inside, entry⟩ := sets.reconnect ran
  have read := ofEntries?_given sets.gives_below inside
  rw [entry]
  cases below with
  | none =>
    obtain rfl := Option.some.inj inside
    exact read
  | some ps => exact read

theorem switch_given (gives : Gives p.given Item.outer top) (ran : run? [] top = some t)
    {item : Item} (mem : item ∈ Item.outer) {o : Option Bool}
    (same : p.given item = o.map switchValue) (default : Bool) :
    orDefault switch? default (t.get? item.name) = some (o.getD default) := by
  rw [gives.reads ran reads_switch mem same]
  cases o <;> rfl

theorem ofTable?_given (sets : Sets p.given top below) (ran : run? [] top = some t) :
    ofTable? t = some (p.over {}) :=
  have gives := sets.gives_top
  ofTable?_eq_some_iff.mpr
    ⟨gives.reads ran reads_time (by decide : Item.socketTimeout ∈ Item.outer) rfl 1000,
     gives.reads ran reads_time (by decide : Item.gracePeriod ∈ Item.outer) rfl 2000,
     switch_given gives ran (by decide : Item.tls ∈ Item.outer) rfl false,
     switch_given gives ran (by decide : Item.pooling ∈ Item.outer) rfl true,
     switch_given gives ran (by decide : Item.noDelay ∈ Item.outer) rfl true,
     reconnect_given sets ran⟩

end Given

/-! ## Other values are refused -/

theorem scalar_of_node? {v : Value} {s : Scalar} (made : v.node? = some (.scalar s)) :
    v = .scalar s := by
  cases v with
  | scalar s' =>
    rw [Value.node?] at made
    cases made
    rfl
  | array items =>
    rw [Value.node?] at made
    obtain ⟨_, -, same⟩ := Option.map_eq_some_iff.mp made
    cases same
  | braces pairs =>
    rw [Value.node?] at made
    obtain ⟨_, -, same⟩ := Option.map_eq_some_iff.mp made
    cases same

section Takes

variable {v : Value} {n : Node} {entry : Option Node} (made : v.node? = some n)
  (found : entry = some n)

include made found

theorem takes_word {default w : UInt64} (read : orDefault word? default entry = some w) :
    ∃ k : Nat, v = .scalar (.integer k) := by
  rw [found, orDefault] at read
  unfold word? at read
  split at read
  next k =>
    split at read
    next natural =>
      obtain ⟨k, rfl⟩ := Int.eq_ofNat_of_zero_le natural.1
      exact ⟨k, scalar_of_node? made⟩
    next => cases read
  next => cases read

theorem takes_switch {default b : Bool} (read : orDefault switch? default entry = some b) :
    ∃ b, v = .scalar (.boolean b) := by
  rw [found, orDefault] at read
  unfold switch? at read
  split at read
  next b => exact ⟨b, scalar_of_node? made⟩
  next => cases read

theorem takes_factor {default x : Binary64} (read : orDefault factor? default entry = some x) :
    (∃ x, v = .scalar (.float x)) ∨ ∃ n, v = .scalar (.integer n) := by
  rw [found, orDefault] at read
  unfold factor? at read
  split at read
  next x => exact .inl ⟨x, scalar_of_node? made⟩
  next k => exact .inr ⟨k, scalar_of_node? made⟩
  next => cases read

end Takes

section Table

variable {v : Value} {n : Node} {t : Table} {item : Item}

/-- Settings are made only if each key at the top has a value that it takes. -/
theorem takes_outer {s : Settings} (read : ofTable? t = some s) (mem : item ∈ Item.outer)
    (made : v.node? = some n) (found : t.get? item.name = some n) : item.Takes v := by
  obtain ⟨socketTimeout, gracePeriod, tls, pooling, noDelay, -⟩ := ofTable?_eq_some_iff.mp read
  cases item with
  | socketTimeout => exact takes_word made found socketTimeout
  | gracePeriod => exact takes_word made found gracePeriod
  | tls => exact takes_switch made found tls
  | pooling => exact takes_switch made found pooling
  | noDelay => exact takes_switch made found noDelay
  | base | cap | multiplier | jitter => exact absurd mem (by decide)

theorem takes_inner {r : Reconnect}
    (read : Reconnect.ofEntries? (t.get? "base_ms") (t.get? "max_ms") (t.get? "multiplier")
      (t.get? "jitter_factor") = some r) (mem : item ∈ Item.inner)
    (made : v.node? = some n) (found : t.get? item.name = some n) : item.Takes v := by
  obtain ⟨base, cap, multiplier, jitter⟩ := Reconnect.ofEntries?_eq_some_iff.mp read
  cases item with
  | base => exact takes_word made found base
  | cap => exact takes_word made found cap
  | multiplier => exact takes_factor made found multiplier
  | jitter => exact takes_factor made found jitter
  | socketTimeout | gracePeriod | tls | pooling | noDelay => exact absurd mem (by decide)

end Table

/-- If settings are made, every given value is one that its key takes. -/
theorem takes_given {given : Item → Option Value} {top : List Placed}
    {below : Option (List Placed)} (sets : Sets given top below) {t : Table}
    (ran : run? [] top = some t) {s : Settings} (read : ofTable? t = some s) {item : Item}
    {v : Value} (has : given item = some v) : item.Takes v := by
  rcases item.outer_or_inner with mem | mem
  · obtain ⟨n, made, found⟩ := sets.gives_top.found ran mem has
    exact takes_outer read mem made found
  · obtain ⟨u, inside, entry⟩ := sets.reconnect ran
    obtain ⟨n, made, found⟩ := sets.gives_below.found inside mem has
    obtain ⟨-, -, -, -, -, backoff⟩ := ofTable?_eq_some_iff.mp read
    rw [entry] at backoff
    cases below with
    | none =>
      obtain rfl := Option.some.inj inside
      cases found
    | some ps => exact takes_inner backoff mem made found

/-! ## Texts for all values and orders -/

/-- Pairs of different plain keys, in any order, with values that can be written. The known keys
among them have the values given; the other keys are free. -/
structure Plain (given : Item → Option Value) (items : List Item) (pairs : List (String × Value)) :
    Prop where
  distinct : (pairs.map Prod.fst).Nodup
  gives : ∀ item ∈ items, pairs.lookup item.name = given item
  writable : ∀ e ∈ pairs, Writable e.2

/-- The statements with these pairs at the top and, if there are any, below the header of the
backoff. -/
def document (top : List (String × Value)) (below : Option (List (String × Value))) :
    List Statement :=
  top.map (fun e => .pair (.plain e.1) e.2) ++
    below.elim [] fun pairs =>
      .header (.plain "reconnect") :: pairs.map fun e => .pair (.plain e.1) e.2

theorem place_document (top : List (String × Value)) (below : Option (List (String × Value))) :
    place [] (document top below) =
      top.map Placed.plain ++
        below.elim [] fun pairs => Toml.headed "reconnect" (pairs.map Placed.plain) := by
  rw [document, Toml.place_plain]
  refine congrArg (top.map Placed.plain ++ ·) ?_
  cases below with
  | none => rfl
  | some pairs =>
    have inside := Toml.place_plain ["reconnect"] pairs []
    rw [List.append_nil] at inside
    show Placed.header _ :: place ["reconnect"] _ = Placed.header _ :: _
    rw [inside, List.map_map]
    exact congrArg _ (List.append_nil _)

section Plain

variable {given : Item → Option Value} {items : List Item} {pairs : List (String × Value)}

theorem Plain.gives_part (plain : Plain given items pairs) :
    Gives given items (pairs.map Placed.plain) := by
  intro item mem
  rw [Toml.part_plain plain.distinct, plain.gives item mem]
  rfl

theorem Plain.agree (plain : Plain given items pairs) (names : List String) :
    ∃ t, run? [] (others names (pairs.map Placed.plain)) = some t := by
  rw [Toml.others_plain]
  refine Toml.run?_plain (plain.distinct.sublist (List.filter_sublist.map Prod.fst)) ?_
  exact fun e mem => (plain.writable e (List.mem_filter.mp mem).1).2

theorem Plain.wellFormed (plain : Plain given items pairs) :
    ∀ s ∈ pairs.map fun e => Statement.pair (.plain e.1) e.2, s.WellFormed := by
  intro s mem
  obtain ⟨e, listed, rfl⟩ := List.mem_map.mp mem
  exact ⟨(by decide : 0 < maxDepth), (plain.writable e listed).1⟩

end Plain

section Document

variable {given : Item → Option Value} {top : List (String × Value)}
  {below : Option (List (String × Value))}

/-- The header of the backoff has no part in other names. -/
theorem part_document {name : String} (differ : name ≠ "reconnect") :
    part name (place [] (document top below)) = part name (top.map Placed.plain) := by
  rw [place_document, part, List.filter_append]
  cases below with
  | none => exact List.append_nil _
  | some pairs => exact (congrArg _ (Toml.part_headed_other differ)).trans (List.append_nil _)

theorem others_document {names : List String} (known : "reconnect" ∈ names) :
    others names (place [] (document top below)) = others names (top.map Placed.plain) := by
  rw [place_document, others, List.filter_append]
  cases below with
  | none => exact List.append_nil _
  | some pairs => exact (congrArg _ (Toml.others_headed known)).trans (List.append_nil _)

theorem header_document (distinct : (top.map Prod.fst).Nodup)
    (header : "reconnect" ∉ top.map Prod.fst) :
    part "reconnect" (place [] (document top below)) =
      (below.map fun pairs => pairs.map Placed.plain).elim [] (Toml.headed "reconnect") := by
  have gone : top.lookup "reconnect" = none := by
    refine List.lookup_eq_none_iff.mpr fun e mem => ?_
    exact bne_iff_ne.mpr fun same => header (List.mem_map.mpr ⟨e, mem, same.symm⟩)
  have unheaded : part "reconnect" (top.map Placed.plain) = [] := by
    rw [Toml.part_plain distinct, gone]
    rfl
  rw [place_document, part, List.filter_append]
  refine (congrArg (· ++ _) unheaded).trans ?_
  cases below with
  | none => rfl
  | some pairs => exact Toml.part_headed "reconnect" _

theorem sets_document (plain_top : Plain given Item.outer top)
    (header : "reconnect" ∉ top.map Prod.fst)
    (plain_below : Plain given Item.inner (below.getD [])) :
    Sets given (place [] (document top below)) (below.map fun pairs => pairs.map Placed.plain) := by
  have inside : (below.map fun pairs => pairs.map Placed.plain).getD [] =
      (below.getD []).map Placed.plain := by cases below <;> rfl
  refine ⟨fun item mem => ?_, header_document plain_top.distinct header, ?_, ?_, ?_⟩
  · rw [part_document item.name_ne, plain_top.gives_part item mem]
  · rw [inside]
    exact plain_below.gives_part
  · rw [others_document (by decide)]
    exact plain_top.agree outerNames
  · rw [inside]
    exact plain_below.agree innerNames

end Document

/-- What is printed of such statements is a text that gives the keys their values. -/
theorem spells_document {given : Item → Option Value} {top : List (String × Value)}
    {below : Option (List (String × Value))} (plain_top : Plain given Item.outer top)
    (header : "reconnect" ∉ top.map Prod.fst)
    (plain_below : Plain given Item.inner (below.getD [])) :
    Spells given (String.ofList (Toml.text (document top below))) := by
  refine ⟨_, _, ?_, sets_document plain_top header plain_below⟩
  rw [String.toList_ofList]
  refine Toml.ofText?_text fun s mem => ?_
  rcases List.mem_append.mp mem with mem | mem
  · exact plain_top.wellFormed s mem
  · cases below with
    | none => cases mem
    | some pairs =>
      rcases List.mem_cons.mp mem with rfl | mem
      · exact (by decide : (Key.plain "reconnect").WellFormed)
      · exact plain_below.wellFormed s mem

/-! ## Loading them -/

section Loading

variable {given : Item → Option Value} {text : String}

theorem ofText?_of_spells {p : Partial} (spells : Spells p.given text) :
    ofText? text.toList = some (p.over {}) := by
  obtain ⟨statements, below, reads, sets⟩ := spells
  obtain ⟨t, ran⟩ := sets.run fun _ _ has => (Partial.given_writable has).2
  rw [ofText?, reads, Option.bind_eq_bind, Option.bind_some, Toml.ofStatements?_eq, ran]
  exact ofTable?_given sets ran

theorem ofText?_of_wrong (spells : Spells given text) {item : Item} {v : Value}
    (has : given item = some v) (wrong : ¬ item.Takes v) : ofText? text.toList = none := by
  obtain ⟨statements, below, reads, sets⟩ := spells
  rw [ofText?, reads, Option.bind_eq_bind, Option.bind_some, Toml.ofStatements?_eq]
  cases ran : run? [] (place [] statements) with
  | none => rfl
  | some t =>
    show ofTable? t = none
    cases read : ofTable? t with
    | none => rfl
    | some s => exact absurd (takes_given sets ran read has) wrong

end Loading

/-- A file that gives some of the known keys, wherever they stand and whatever else it holds, is
loaded as the defaults with these laid over them. A value that its key does not take makes the
whole file unusable. Files of plain keys, in any order and with any other keys among them, are such
files. -/
theorem partial_files_loaded :
    (∀ (p : Partial) (text : String) (d : Directory) (path : String), Spells p.given text →
      d.read? path = some text.toUTF8 → load d path = .ok (p.over {})) ∧
    (∀ (given : Item → Option Value) (item : Item) (v : Value) (text : String) (d : Directory)
      (path : String), Spells given text → given item = some v → ¬ item.Takes v →
      d.read? path = some text.toUTF8 → load d path = .error .malformed) ∧
    ∀ (given : Item → Option Value) (top : List (String × Value))
      (below : Option (List (String × Value))), Plain given Item.outer top →
      "reconnect" ∉ top.map Prod.fst → Plain given Item.inner (below.getD []) →
      Spells given (String.ofList (Toml.text (document top below))) := by
  refine ⟨?_, ?_, ?_⟩
  · intro p text d path spells file
    exact load_of_read file (ofText?_of_spells spells)
  · intro given item v text d path spells has wrong file
    exact load_of_malformed file (ofText?_of_wrong spells has wrong)
  · intro given top below plain_top header plain_below
    exact spells_document plain_top header plain_below

/-- Other keys stand before known ones, at the top and below the header; a number is no switch. -/
theorem partial_file_loaded :
    (∃ d, ({} : Directory).write? "link.toml"
        ("retries = 3\ntls_enabled = true\n\n[reconnect]\nnote = \"slow\"\n" ++
          "base_ms = 100\n").toUTF8 = some d ∧
      load d "link.toml" = .ok { tls := true, reconnect := { base := 100 } }) ∧
    ∃ d, ({} : Directory).write? "link.toml" "tls_enabled = 1\n".toUTF8 = some d ∧
      load d "link.toml" = .error .malformed := by
  have writable (contents : ByteArray) :
      ∃ d, ({} : Directory).write? "link.toml" contents = some d := by
    rw [Directory.write?, show Directory.fileName? "link.toml" = some "link.toml" by decide +kernel]
    exact ⟨_, rfl⟩
  refine ⟨?_, ?_⟩
  · let p : Partial := { tls := some true, base := some 100 }
    let top : List (String × Value) :=
      [("retries", .scalar (.integer 3)), ("tls_enabled", switchValue true)]
    let below : List (String × Value) :=
      [("note", .scalar (.string "slow")), ("base_ms", timeValue 100)]
    have plain_top : Plain p.given Item.outer top := by
      refine ⟨by decide, fun item mem => ?_, List.forall_mem_cons.mpr
        ⟨writable_scalar ⟨by decide, by decide⟩, List.forall_mem_singleton.mpr
          (writable_switch true)⟩⟩
      cases item <;> first | rfl | exact absurd mem (by decide)
    have plain_below : Plain p.given Item.inner below := by
      refine ⟨by decide, fun item mem => ?_, List.forall_mem_cons.mpr
        ⟨writable_scalar trivial, List.forall_mem_singleton.mpr (writable_time 100)⟩⟩
      cases item <;> first | rfl | exact absurd mem (by decide)
    have spells := partial_files_loaded.2.2 p.given top (some below) plain_top (by decide)
      plain_below
    have printed : String.ofList (Toml.text (document top (some below))) =
        "retries = 3\ntls_enabled = true\n\n[reconnect]\nnote = \"slow\"\n" ++
          "base_ms = 100\n" := by decide +kernel
    rw [printed] at spells
    obtain ⟨d, written⟩ := writable _
    have loaded := partial_files_loaded.1 p _ d "link.toml" spells
      (Directory.read?_of_write? written)
    exact ⟨d, written, loaded.trans (by decide +kernel)⟩
  · let given : Item → Option Value := fun item =>
      if item = .tls then some (.scalar (.integer 1)) else none
    let top : List (String × Value) := [("tls_enabled", .scalar (.integer 1))]
    have plain_top : Plain given Item.outer top := by
      refine ⟨by decide, fun item mem => ?_, List.forall_mem_singleton.mpr
        (writable_scalar ⟨by decide, by decide⟩)⟩
      cases item <;> rfl
    have plain_below : Plain given Item.inner [] := by
      refine ⟨by decide, fun item mem => ?_, fun _ mem => nomatch mem⟩
      cases item with
      | tls => exact absurd mem (by decide)
      | _ => rfl
    have spells := partial_files_loaded.2.2 given top none plain_top (by decide) plain_below
    have printed : String.ofList (Toml.text (document top none)) = "tls_enabled = 1\n" := by
      decide +kernel
    rw [printed] at spells
    have wrong : ¬ Item.tls.Takes (.scalar (.integer 1)) := fun ⟨_, same⟩ => by cases same
    obtain ⟨d, written⟩ := writable _
    exact ⟨d, written, partial_files_loaded.2.1 given .tls _ _ d "link.toml" spells rfl wrong
      (Directory.read?_of_write? written)⟩

end NodeLink.Settings
