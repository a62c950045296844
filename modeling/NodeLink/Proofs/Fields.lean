import Mathlib.Data.List.Forall2
import NodeLink.Dcp.Json
import NodeLink.Proofs.Grammar

/-!
# Records and their fields

What values hold a record is said here without the decoder, for any format: an array of values that
give its contents in their order, or an object in which these values stand under their names, in any
order and among any other names. What is wrong with any other value is said as well, one fault at a
time, and a value holds a record exactly if it has no fault (`exists_holds_iff`).

The decoder takes the values of the fields out of a value by filtering the members for each name.
That is the same as an arrangement of the members, known ones first (`perm_of_picked`, `picked`).
-/

set_option autoImplicit false

namespace NodeLink.Dcp

open Json (Value Spelling)

/-! ## Contents -/

/-- What a field can hold. -/
inductive Kind
  | number (bound : Nat)
  | string
  | bytes

/-- What a field holds. -/
inductive Content
  | number (n : Nat)
  | string (s : String)
  | bytes (bs : List UInt8)

/-- A content that a field of a kind can hold. -/
inductive Content.Of : Content → Kind → Prop
  | number {n bound : Nat} (small : n < bound) : Of (.number n) (.number bound)
  | string {s : String} : Of (.string s) .string
  | bytes {bs : List UInt8} : Of (.bytes bs) .bytes

/-- A value that is a number written with digits only. -/
inductive Figures (n : Nat) : Value → Prop
  | digits {token : List Char} (digits : Json.Digits token)
      (spelled : Nat.ofDigitChars 10 token 0 = n) : Figures n (.number token)

/-- The values that give a content. -/
inductive Content.GivenBy : Content → Value → Prop
  | number {n : Nat} {v : Value} (figures : Figures n v) : GivenBy (.number n) v
  | string {t : String} {s : Spelling} (means : s.Means t.toList) : GivenBy (.string t) (.string s)
  | bytes {bs : List UInt8} {items : List Value}
      (each : List.Forall₂ (fun b v => Figures b.toNat v) bs items) :
      GivenBy (.bytes bs) (.array items)

/-- What is wrong with a value for a field that holds numbers below a bound. -/
inductive Misnumber (bound : Nat) : Value → Prop
  | type {v : Value} (h : ∀ token, v ≠ .number token) : Misnumber bound v
  | written {token : List Char} (h : ¬ Json.Digits token) : Misnumber bound (.number token)
  | range {token : List Char} (h : bound ≤ Nat.ofDigitChars 10 token 0) :
      Misnumber bound (.number token)

/-- What is wrong with a value for a field of a kind. -/
inductive Kind.Misfit : Kind → Value → Prop
  | number {bound : Nat} {v : Value} (h : Misnumber bound v) : Misfit (.number bound) v
  | notString {v : Value} (h : ∀ s, v ≠ .string s) : Misfit .string v
  | meaningless {s : Spelling} (h : ∀ t : String, ¬ s.Means t.toList) : Misfit .string (.string s)
  | notArray {v : Value} (h : ∀ items, v ≠ .array items) : Misfit .bytes v
  | item {items : List Value} {v : Value} (mem : v ∈ items) (h : Misnumber UInt8.size v) :
      Misfit .bytes (.array items)

/-- A value gives a number below a bound if there is nothing wrong with it. -/
theorem exists_figures_iff {bound : Nat} {v : Value} :
    (∃ n, n < bound ∧ Figures n v) ↔ ¬ Misnumber bound v := by
  constructor
  · rintro ⟨n, small, ⟨digits, rfl⟩⟩ wrong
    cases wrong with
    | type h => exact h _ rfl
    | written h => exact h digits
    | range h => exact absurd small (Nat.not_lt_of_le h)
  · intro right
    cases v with
    | number token =>
      refine ⟨_, ?_, .digits ?_ rfl⟩
      · exact Nat.lt_of_not_le fun h => right (.range h)
      · exact Classical.byContradiction fun h => right (.written h)
    | _ => exact absurd (.type nofun) right

/-- The items of an array are bytes if there is nothing wrong with any of them. -/
theorem exists_bytes_iff {items : List Value} :
    (∃ bs : List UInt8, List.Forall₂ (fun b v => Figures b.toNat v) bs items) ↔
      ∀ v ∈ items, ¬ Misnumber UInt8.size v := by
  simp only [← exists_figures_iff]
  induction items with
  | nil => simp
  | cons v items ih =>
    simp only [List.forall₂_cons_right_iff, List.mem_cons, forall_eq_or_imp, ← ih]
    constructor
    · rintro ⟨_, b, bs, first, others, rfl⟩
      exact ⟨⟨b.toNat, b.toNat_lt, first⟩, bs, others⟩
    · rintro ⟨⟨n, small, first⟩, bs, others⟩
      refine ⟨_, .ofNat n, bs, ?_, others, rfl⟩
      rwa [UInt8.toNat_ofNat_of_lt' small]

/-- A value gives a content of a kind if there is nothing wrong with it. -/
theorem exists_content_iff {kind : Kind} {v : Value} :
    (∃ c : Content, c.Of kind ∧ c.GivenBy v) ↔ ¬ kind.Misfit v := by
  constructor
  · rintro ⟨c, fits, given⟩ wrong
    cases wrong with
    | number wrong =>
      cases fits with | number small =>
      cases given with | number figures =>
      exact exists_figures_iff.mp ⟨_, small, figures⟩ wrong
    | notString h =>
      cases fits
      cases given
      exact h _ rfl
    | meaningless h =>
      cases fits
      cases given with | string means =>
      exact h _ means
    | notArray h =>
      cases fits
      cases given
      exact h _ rfl
    | item mem h =>
      cases fits
      cases given with | bytes each =>
      exact exists_bytes_iff.mp ⟨_, each⟩ _ mem h
  · intro right
    cases kind with
    | number bound =>
      obtain ⟨n, small, figures⟩ := exists_figures_iff.mpr fun h => right (.number h)
      exact ⟨_, .number small, .number figures⟩
    | string =>
      cases v with
      | string s =>
        obtain ⟨t, means⟩ : ∃ t : String, s.Means t.toList :=
          Classical.not_forall_not.mp fun h => right (.meaningless h)
        exact ⟨_, .string, .string means⟩
      | _ => exact absurd (.notString nofun) right
    | bytes =>
      cases v with
      | array items =>
        obtain ⟨bs, each⟩ := exists_bytes_iff.mpr fun v mem h => right (.item mem h)
        exact ⟨_, .bytes, .bytes each⟩
      | _ => exact absurd (.notArray nofun) right

/-! ## Reading contents -/

theorem mapM_eq_some_iff {α β : Type} {f : α → Option β} {as : List α} {bs : List β} :
    as.mapM f = some bs ↔ List.Forall₂ (fun a b => f a = some b) as bs := by
  induction as generalizing bs with
  | nil => simp [eq_comm]
  | cons a as ih =>
    simp only [List.mapM_cons, Option.bind_eq_bind, Option.bind_eq_some_iff, Option.pure_def,
      Option.some.injEq, List.forall₂_cons_left_iff, ih]
    constructor
    · rintro ⟨b, first, bs, others, rfl⟩
      exact ⟨b, bs, first, others, rfl⟩
    · rintro ⟨b, bs, first, others, rfl⟩
      exact ⟨b, first, bs, others, rfl⟩

/-- The numbers below a bound are those of the words of some width. -/
theorem of_word_iff {α : Type} {bound : Nat} {ofNat : Nat → α} {toNat : α → Nat}
    (toNat_ofNat : ∀ n < bound, toNat (ofNat n) = n) (toNat_lt : ∀ w, toNat w < bound)
    {c : Content} : c.Of (.number bound) ↔ ∃ w, c = .number (toNat w) := by
  constructor
  · rintro ⟨small⟩
    exact ⟨ofNat _, by rw [toNat_ofNat _ small]⟩
  · rintro ⟨w, rfl⟩
    exact .number (toNat_lt w)

theorem of_word16_iff {c : Content} :
    c.Of (.number UInt16.size) ↔ ∃ w : UInt16, c = .number w.toNat :=
  of_word_iff (fun _ => UInt16.toNat_ofNat_of_lt') UInt16.toNat_lt

theorem of_word32_iff {c : Content} :
    c.Of (.number UInt32.size) ↔ ∃ w : UInt32, c = .number w.toNat :=
  of_word_iff (fun _ => UInt32.toNat_ofNat_of_lt') UInt32.toNat_lt

theorem of_word64_iff {c : Content} :
    c.Of (.number UInt64.size) ↔ ∃ w : UInt64, c = .number w.toNat :=
  of_word_iff (fun _ => UInt64.toNat_ofNat_of_lt') UInt64.toNat_lt

theorem of_string_iff {c : Content} : c.Of .string ↔ ∃ s, c = .string s :=
  ⟨fun | .string => ⟨_, rfl⟩, fun ⟨_, same⟩ => same ▸ .string⟩

theorem of_bytes_iff {c : Content} : c.Of .bytes ↔ ∃ bs, c = .bytes bs :=
  ⟨fun | .bytes => ⟨_, rfl⟩, fun ⟨_, same⟩ => same ▸ .bytes⟩

/-- The decoder takes exactly the numbers of a field. -/
theorem number?_eq_some_iff {bound n : Nat} {v : Value} :
    number? bound v = some n ↔ n < bound ∧ Figures n v := by
  cases v with
  | number token =>
    rw [number?, Option.filter_eq_some_iff, Number.natural?_eq_some_iff, decide_eq_true_iff]
    constructor
    · rintro ⟨⟨nonempty, digits, spelled⟩, small⟩
      exact ⟨small, .digits ⟨nonempty, digits⟩ spelled⟩
    · rintro ⟨small, ⟨⟨nonempty, digits⟩, spelled⟩⟩
      exact ⟨⟨nonempty, digits, spelled⟩, small⟩
  | _ => exact ⟨nofun, fun h => nomatch h.2⟩

/-- A word is read from the value that gives its number, whatever its width. -/
theorem word_eq_some_iff {α : Type} {bound : Nat} {ofNat : Nat → α} {toNat : α → Nat}
    (ofNat_toNat : ∀ w, ofNat (toNat w) = w) (toNat_ofNat : ∀ n < bound, toNat (ofNat n) = n)
    (toNat_lt : ∀ w, toNat w < bound) {v : Value} {w : α} :
    (number? bound v).map ofNat = some w ↔ (Content.number (toNat w)).GivenBy v := by
  rw [Option.map_eq_some_iff]
  constructor
  · rintro ⟨n, read, rfl⟩
    obtain ⟨small, figures⟩ := number?_eq_some_iff.mp read
    rw [toNat_ofNat n small]
    exact .number figures
  · rintro ⟨figures⟩
    exact ⟨toNat w, number?_eq_some_iff.mpr ⟨toNat_lt w, figures⟩, ofNat_toNat w⟩

theorem word8?_eq_some_iff {v : Value} {w : UInt8} :
    word8? v = some w ↔ (Content.number w.toNat).GivenBy v :=
  word_eq_some_iff (fun _ => UInt8.ofNat_toNat) (fun _ => UInt8.toNat_ofNat_of_lt') UInt8.toNat_lt

theorem word16?_eq_some_iff {v : Value} {w : UInt16} :
    word16? v = some w ↔ (Content.number w.toNat).GivenBy v :=
  word_eq_some_iff (fun _ => UInt16.ofNat_toNat) (fun _ => UInt16.toNat_ofNat_of_lt')
    UInt16.toNat_lt

theorem word32?_eq_some_iff {v : Value} {w : UInt32} :
    word32? v = some w ↔ (Content.number w.toNat).GivenBy v :=
  word_eq_some_iff (fun _ => UInt32.ofNat_toNat) (fun _ => UInt32.toNat_ofNat_of_lt')
    UInt32.toNat_lt

theorem word64?_eq_some_iff {v : Value} {w : UInt64} :
    word64? v = some w ↔ (Content.number w.toNat).GivenBy v :=
  word_eq_some_iff (fun _ => UInt64.ofNat_toNat) (fun _ => UInt64.toNat_ofNat_of_lt')
    UInt64.toNat_lt

theorem string?_eq_some_iff {v : Value} (spelled : v.Spelled) {t : String} :
    string? v = some t ↔ (Content.string t).GivenBy v := by
  cases v with
  | string s =>
    obtain ⟨_, ⟨⟩⟩ := spelled
    next text spells =>
    rw [string?, Spelling.toString?_eq_some_iff spells]
    exact ⟨.string, fun | .string means => means⟩
  | _ => exact ⟨nofun, nofun⟩

theorem bytes?_eq_some_iff {v : Value} {bs : List UInt8} :
    bytes? v = some bs ↔ (Content.bytes bs).GivenBy v := by
  cases v with
  | array items =>
    have one : ∀ (w : Value) (b : UInt8), word8? w = some b ↔ Figures b.toNat w := fun w b =>
      word8?_eq_some_iff.trans ⟨fun | .number figures => figures, .number⟩
    simp only [bytes?, mapM_eq_some_iff, one]
    exact ⟨fun each => .bytes (List.Forall₂.flip each), fun | .bytes each => each.flip⟩
  | _ => exact ⟨nofun, nofun⟩

/-! ## Picking by name -/

section Picking

variable {κ β : Type} {bears : κ → β → Bool}

/-- Each name is borne by exactly one of the members, which stands at its place in the list. -/
abbrev Picked (bears : κ → β → Bool) (names : List κ) (members known : List β) : Prop :=
  List.Forall₂ (fun name m => members.filter (bears name) = [m]) names known

/-- Members of which each known name is borne once are the bearers and the rest. -/
theorem perm_of_picked (single : ∀ x y m, bears x m = true → bears y m = true → x = y)
    {names : List κ} (distinct : names.Nodup) {members known : List β}
    (picked : Picked bears names members known) :
    members.Perm (known ++ members.filter fun m => names.all fun name => !bears name m) := by
  induction names generalizing members known with
  | nil =>
    cases picked
    simp
  | cons name names ih =>
    obtain ⟨fresh, distinct⟩ := List.nodup_cons.mp distinct
    obtain ⟨m, known, here, others, rfl⟩ := List.forall₂_cons_left_iff.mp picked
    have apart : ∀ other ∈ names, ∀ m, bears other m = true → (!bears name m) = true := by
      intro other mem m borne
      cases h : bears name m with
      | false => rfl
      | true => exact absurd (single name other m h borne ▸ mem) fresh
    have inRest : Picked bears names (members.filter fun m => !bears name m) known := by
      refine List.forall₂_iff_zip.mpr ⟨others.length_eq, fun {other n} mem => ?_⟩
      have filtered := List.forall₂_zip others mem
      rw [← filtered, List.filter_filter]
      refine List.filter_congr fun k _ => ?_
      cases borne : bears other k with
      | false => rfl
      | true => exact (Bool.true_and _).trans (apart other (List.of_mem_zip mem).1 k borne)
    have rest := ih distinct inRest
    rw [List.filter_filter] at rest
    have whole := (List.filter_append_perm (bears name) members).symm
    rw [here] at whole
    refine whole.trans (List.Perm.cons m (rest.trans ?_))
    refine List.Perm.append_left known (List.Perm.of_eq (List.filter_congr fun k _ => ?_))
    simp [Bool.and_comm]

/-- Among members that bear distinct names in their order, each name is borne once. -/
theorem picked_self (single : ∀ x y m, bears x m = true → bears y m = true → x = y)
    {names : List κ} (distinct : names.Nodup) {known : List β}
    (borne : List.Forall₂ (fun name m => bears name m = true) names known) :
    Picked bears names known known := by
  induction borne with
  | nil => exact .nil
  | @cons name m names known here others ih =>
    obtain ⟨fresh, distinct⟩ := List.nodup_cons.mp distinct
    refine .cons ?_ ?_
    · rw [List.filter_cons_of_pos here, List.filter_eq_nil_iff.mpr]
      intro k mem borne
      obtain ⟨i, bound, rfl⟩ := List.getElem_of_mem mem
      have place : i < names.length := others.length_eq ▸ bound
      have same := single _ _ _ borne (others.get place bound)
      exact fresh (same ▸ List.getElem_mem place)
    · refine List.forall₂_iff_zip.mpr ⟨others.length_eq, fun {other n} mem => ?_⟩
      have filtered := List.forall₂_zip (ih distinct) mem
      rw [List.filter_cons_of_neg, filtered]
      intro borne
      exact fresh (single _ _ _ borne here ▸ (List.of_mem_zip mem).1)

/-- Of members that are bearers of the known names and others, each known name is borne once. -/
theorem picked (single : ∀ x y m, bears x m = true → bears y m = true → x = y)
    {names : List κ} (distinct : names.Nodup) {members known others : List β}
    (order : members.Perm (known ++ others))
    (borne : List.Forall₂ (fun name m => bears name m = true) names known)
    (unknown : ∀ m ∈ others, ∀ name ∈ names, bears name m = false) :
    Picked bears names members known := by
  refine List.forall₂_iff_zip.mpr ⟨borne.length_eq, fun {name m} mem => ?_⟩
  have alone := List.forall₂_zip (picked_self single distinct borne) mem
  have none : others.filter (bears name) = [] :=
    List.filter_eq_nil_iff.mpr fun k there => by simp [unknown k there name (List.of_mem_zip mem).1]
  have filtered := order.filter (bears name)
  rw [List.filter_append, alone, none] at filtered
  exact List.perm_singleton.mp filtered

end Picking

/-! ## Members -/

/-- Whether a member has a name. -/
def bears (name : String) (m : Spelling × Value) : Bool := m.1.toString? == some name

theorem bears_single (x y : String) (m : Spelling × Value) (h : bears x m = true)
    (other : bears y m = true) : x = y := by
  rw [bears, beq_iff_eq] at h other
  exact Option.some.inj (h.symm.trans other)

/-- The values that belong to names, in the order of the names. -/
inductive Lists (names : List String) (vs : List Value) : Value → Prop
  | array (length : vs.length = names.length) : Lists names vs (.array vs)
  | object {members known others : List (Spelling × Value)}
      (order : members.Perm (known ++ others))
      (named : List.Forall₂ (fun name m => m.1.Means name.toList) names known)
      (values : known.map Prod.snd = vs)
      (unknown : ∀ m ∈ others, ∃ name : String, m.1.Means name.toList ∧ name ∉ names) :
      Lists names vs (.object members)

theorem bears_iff {m : Spelling × Value} (spelled : ∃ text, m.1.Spells text) {name : String} :
    bears name m = true ↔ m.1.Means name.toList := by
  obtain ⟨text, spells⟩ := spelled
  rw [bears, beq_iff_eq, Spelling.toString?_eq_some_iff spells]

/-- The member with the meaning of its name, if that has one. -/
def named (m : Spelling × Value) : String × Value := (m.1.toString?.getD "", m.2)

theorem mapM_named_iff {members : List (Spelling × Value)} {ms : List (String × Value)} :
    members.mapM (fun m => m.1.toString?.map fun k => (k, m.2)) = some ms ↔
      (∀ m ∈ members, m.1.toString?.isSome) ∧ ms = members.map named := by
  rw [mapM_eq_some_iff]
  induction members generalizing ms with
  | nil => simp
  | cons m members ih =>
    simp only [List.forall₂_cons_left_iff, ih, List.mem_cons, forall_eq_or_imp, List.map_cons,
      named]
    cases h : m.1.toString? with
    | none => simp
    | some k => simp

theorem onlyMember?_eq_some_iff {members : List (Spelling × Value)}
    (all : ∀ m ∈ members, m.1.toString?.isSome) {name : String} {v : Value} :
    onlyMember? name (members.map named) = some v ↔
      ∃ m, members.filter (bears name) = [m] ∧ m.2 = v := by
  have same : members.filter (fun m => (named m).1 == name) = members.filter (bears name) := by
    refine List.filter_congr fun m mem => ?_
    obtain ⟨k, read⟩ := Option.isSome_iff_exists.mp (all m mem)
    simp [named, bears, read]
  rw [onlyMember?, List.filter_map, Function.comp_def, same]
  rcases members.filter (bears name) with _ | ⟨m, _ | ⟨n, rest⟩⟩
  · simp
  · simp [named]
  · simp

theorem fields?_object_iff {members : List (Spelling × Value)} {names : List String}
    {vs : List Value} :
    fields? names (.object members) = some vs ↔ (∀ m ∈ members, m.1.toString?.isSome) ∧
      ∃ known, Picked bears names members known ∧ known.map Prod.snd = vs := by
  rw [fields?, Option.bind_eq_bind, Option.bind_eq_some_iff]
  constructor
  · rintro ⟨ms, read, only⟩
    obtain ⟨all, rfl⟩ := mapM_named_iff.mp read
    refine ⟨all, ?_⟩
    have found := (mapM_eq_some_iff.mp only).imp fun _ _ => (onlyMember?_eq_some_iff all).mp
    clear read only
    induction found with
    | nil => exact ⟨[], .nil, rfl⟩
    | cons first _ ih =>
      obtain ⟨m, here, rfl⟩ := first
      obtain ⟨known, picked, rfl⟩ := ih
      exact ⟨m :: known, .cons here picked, rfl⟩
  · rintro ⟨all, known, picked, rfl⟩
    refine ⟨members.map named, mapM_named_iff.mpr ⟨all, rfl⟩, mapM_eq_some_iff.mpr ?_⟩
    rw [List.forall₂_map_right_iff]
    exact picked.imp fun name m here => (onlyMember?_eq_some_iff all).mpr ⟨m, here, rfl⟩

/-- The decoder takes exactly the values that belong to the names. -/
theorem fields?_eq_some_iff {names : List String} (distinct : names.Nodup) {v : Value}
    (spelled : v.Spelled) {vs : List Value} : fields? names v = some vs ↔ Lists names vs v := by
  cases v with
  | array items =>
    rw [fields?]
    constructor
    · intro h
      obtain ⟨length, same⟩ := Option.ite_none_right_eq_some.mp h
      cases same
      exact .array length
    · rintro ⟨length⟩
      exact if_pos length
  | object members =>
    have bears_iff {m : Spelling × Value} (mem : m ∈ members) {name : String} :
        bears name m = true ↔ m.1.Means name.toList := bears_iff (spelled.members m mem).1
    rw [fields?_object_iff]
    constructor
    · rintro ⟨all, known, picked, rfl⟩
      refine .object (perm_of_picked bears_single distinct picked) ?_ rfl fun m mem => ?_
      · refine List.forall₂_iff_zip.mpr ⟨picked.length_eq, fun {name m} mem => ?_⟩
        have there : m ∈ members.filter (bears name) := by
          rw [List.forall₂_zip picked mem]
          exact List.mem_singleton_self m
        exact (bears_iff (List.mem_of_mem_filter there)).mp (List.of_mem_filter there)
      · obtain ⟨there, none⟩ := List.mem_filter.mp mem
        obtain ⟨name, read⟩ := Option.isSome_iff_exists.mp (all m there)
        have borne : bears name m = true := beq_iff_eq.mpr read
        refine ⟨name, (bears_iff there).mp borne, fun known => ?_⟩
        have not := List.all_eq_true.mp none name known
        rw [borne] at not
        cases not
    · intro lists
      cases lists with
      | @object _ known others order means values unknown =>
      have inside : ∀ m ∈ known ++ others, m ∈ members := fun m mem => order.mem_iff.mpr mem
      refine ⟨fun m mem => ?_, known, ?_, values⟩
      · obtain ⟨name, means⟩ : ∃ name : String, m.1.Means name.toList := by
          rcases List.mem_append.mp (order.mem_iff.mp mem) with mem | mem
          · obtain ⟨i, bound, rfl⟩ := List.getElem_of_mem mem
            exact ⟨_, means.get (means.length_eq ▸ bound) bound⟩
          · obtain ⟨name, means, -⟩ := unknown m mem
            exact ⟨name, means⟩
        rw [means.toString?]
        rfl
      · refine picked bears_single distinct order ?_ fun m other name known => ?_
        · refine List.forall₂_iff_zip.mpr ⟨means.length_eq, fun {name m} mem => ?_⟩
          exact (bears_iff (inside m (List.mem_append_left _ (List.of_mem_zip mem).2))).mpr
            (List.forall₂_zip means mem)
        · obtain ⟨own, means, fresh⟩ := unknown m other
          have there := inside m (List.mem_append_right _ other)
          rw [Bool.eq_false_iff]
          exact fun borne => fresh (means.unique ((bears_iff there).mp borne) ▸ known)
  | _ => exact ⟨nofun, nofun⟩

/-! ## Values that belong to no names -/

/-- Why no values belong to names. -/
inductive Mislisted (names : List String) : Value → Prop
  | shape {v : Value} (array : ∀ items, v ≠ .array items)
      (object : ∀ members, v ≠ .object members) :
      Mislisted names v
  | length {items : List Value} (h : items.length ≠ names.length) : Mislisted names (.array items)
  | nameless {members : List (Spelling × Value)} {m : Spelling × Value} (mem : m ∈ members)
      (h : ∀ name : String, ¬ m.1.Means name.toList) : Mislisted names (.object members)
  | missing {members : List (Spelling × Value)} {name : String} (known : name ∈ names)
      (h : ∀ m ∈ members, ¬ m.1.Means name.toList) : Mislisted names (.object members)
  | twice {members : List (Spelling × Value)} {m n : Spelling × Value} {name : String}
      (known : name ∈ names) (both : [m, n].Sublist members) (first : m.1.Means name.toList)
      (second : n.1.Means name.toList) : Mislisted names (.object members)

theorem forall₂_of_forall_exists {α β : Type} {R : α → β → Prop} {as : List α}
    (h : ∀ a ∈ as, ∃ b, R a b) : ∃ bs, List.Forall₂ R as bs := by
  induction as with
  | nil => exact ⟨[], .nil⟩
  | cons a as ih =>
    obtain ⟨⟨b, first⟩, others⟩ := List.forall_mem_cons.mp h
    obtain ⟨bs, rest⟩ := ih others
    exact ⟨b :: bs, .cons first rest⟩

/-- Values belong to names unless there is a reason why none do. -/
theorem exists_lists_iff {names : List String} (distinct : names.Nodup) {v : Value}
    (spelled : v.Spelled) : (∃ vs, Lists names vs v) ↔ ¬ Mislisted names v := by
  cases v with
  | array items =>
    constructor
    · rintro ⟨_, ⟨length⟩⟩ (⟨array, -⟩ | ⟨wrong⟩)
      · exact array _ rfl
      · exact wrong length
    · intro right
      exact ⟨items, .array (Classical.byContradiction fun h => right (.length h))⟩
  | object members =>
    have bears_iff {m : Spelling × Value} (mem : m ∈ members) {name : String} :
        bears name m = true ↔ m.1.Means name.toList := bears_iff (spelled.members m mem).1
    constructor
    · rintro ⟨vs, lists⟩ wrong
      obtain ⟨all, known, picked, -⟩ :=
        fields?_object_iff.mp ((fields?_eq_some_iff distinct spelled).mpr lists)
      have only {name : String} (mem : name ∈ names) :
          ∃ m, members.filter (bears name) = [m] := by
        obtain ⟨i, bound, rfl⟩ := List.getElem_of_mem mem
        exact ⟨_, picked.get bound (picked.length_eq ▸ bound)⟩
      cases wrong with
      | shape _ object => exact object _ rfl
      | nameless mem h =>
        obtain ⟨name, read⟩ := Option.isSome_iff_exists.mp (all _ mem)
        exact h name ((bears_iff mem).mp (beq_iff_eq.mpr read))
      | missing mem h =>
        obtain ⟨m, here⟩ := only mem
        have there := List.mem_filter.mp (here.symm ▸ List.mem_singleton_self m)
        exact h m there.1 ((bears_iff there.1).mp there.2)
      | @twice _ m n name mem both first second =>
        obtain ⟨k, here⟩ := only mem
        have inside := both.subset
        have borne : [m, n].filter (bears name) = [m, n] := by
          refine List.filter_eq_self.mpr fun k mem => (bears_iff (inside mem)).mpr ?_
          rcases List.mem_pair.mp mem with rfl | rfl
          · exact first
          · exact second
        have short := (both.filter (bears name)).length_le
        rw [borne, here] at short
        exact absurd short (by simp)
    · intro right
      have all : ∀ m ∈ members, m.1.toString?.isSome := by
        intro m mem
        obtain ⟨name, means⟩ : ∃ name : String, m.1.Means name.toList :=
          Classical.not_forall_not.mp fun h => right (.nameless mem h)
        rw [means.toString?]
        rfl
      have only : ∀ name ∈ names, ∃ m, members.filter (bears name) = [m] := by
        intro name known
        have meant {m : Spelling × Value} (mem : m ∈ members.filter (bears name)) :
            m ∈ members ∧ m.1.Means name.toList :=
          have there := List.mem_filter.mp mem
          ⟨there.1, (bears_iff there.1).mp there.2⟩
        rcases found : members.filter (bears name) with _ | ⟨m, _ | ⟨n, rest⟩⟩
        · refine absurd (Mislisted.missing known fun m mem means => ?_) right
          exact List.filter_eq_nil_iff.mp found m mem ((bears_iff mem).mpr means)
        · exact ⟨m, rfl⟩
        · rw [found] at meant
          have inside : (m :: n :: rest).Sublist members := found ▸ List.filter_sublist
          have both := (List.sublist_append_left [m, n] rest).trans inside
          exact absurd (.twice known both (meant (by simp)).2 (meant (by simp)).2) right
      obtain ⟨known, picked⟩ := forall₂_of_forall_exists only
      have taken := fields?_object_iff.mpr ⟨all, known, picked, rfl⟩
      exact ⟨_, (fields?_eq_some_iff distinct spelled).mp taken⟩
  | _ => exact ⟨nofun, fun right => absurd (.shape nofun nofun) right⟩

/-! ## Formats -/

/-- The value that is given for a name, at its place in an array or under it in an object. -/
inductive Given (names : List String) (name : String) : Value → Value → Prop
  | item {items : List Value} {i : Nat} {x : Value} (place : names[i]? = some name)
      (there : items[i]? = some x) : Given names name x (.array items)
  | member {members : List (Spelling × Value)} {m : Spelling × Value} (mem : m ∈ members)
      (means : m.1.Means name.toList) : Given names name m.2 (.object members)

/-- Of the values that belong to names, each is the one that is given for its name. -/
theorem Lists.given_iff {names : List String} (distinct : names.Nodup) {vs : List Value}
    {v : Value} (lists : Lists names vs v) {i : Nat} {name : String} {x : Value}
    (place : names[i]? = some name) (there : vs[i]? = some x) {y : Value} :
    Given names name y v ↔ y = x := by
  have same {j : Nat} (other : names[j]? = some name) : j = i :=
    (List.getElem?_inj (List.getElem?_eq_some_iff.mp other).1 distinct).mp
      (other.trans place.symm)
  cases lists with
  | array =>
    constructor
    · rintro ⟨other, here⟩
      rw [same other, there] at here
      exact (Option.some.inj here).symm
    · rintro rfl
      exact .item place there
  | @object _ known others order means values unknown =>
    subst values
    rw [List.getElem?_map] at there
    obtain ⟨m, here, rfl⟩ := Option.map_eq_some_iff.mp there
    constructor
    · intro given
      cases given with
      | @member _ n mem meant =>
      rcases List.mem_append.mp (order.mem_iff.mp mem) with mem | mem
      · obtain ⟨j, bound, rfl⟩ := List.getElem_of_mem mem
        have inside : j < names.length := means.length_eq ▸ bound
        have own := means.get inside bound
        have place : names[j]? = some name :=
          List.getElem?_eq_some_iff.mpr ⟨inside, own.unique meant⟩
        obtain rfl := same place
        rw [List.getElem?_eq_getElem bound] at here
        rw [Option.some.inj here]
      · obtain ⟨own, other, fresh⟩ := unknown _ mem
        exact absurd (List.mem_of_getElem? place) (meant.unique other ▸ fresh)
    · rintro rfl
      obtain ⟨bound, rfl⟩ := List.getElem?_eq_some_iff.mp here
      obtain ⟨inside, rfl⟩ := List.getElem?_eq_some_iff.mp place
      have mem := List.mem_append_left others (List.getElem_mem bound)
      exact .member (order.mem_iff.mpr mem) (means.get inside bound)

theorem Lists.length_eq {names : List String} {vs : List Value} {v : Value}
    (lists : Lists names vs v) : vs.length = names.length := by
  cases lists with
  | array length => exact length
  | object _ named values _ => rw [← values, List.length_map, named.length_eq]

/-- How records are laid out: the fields in their order, and what they hold in each record. -/
structure Format (α : Type) where
  fields : List (String × Kind)
  contents : α → List Content
  distinct : (fields.map Prod.fst).Nodup
  fitting (a : α) : List.Forall₂ Content.Of (contents a) (fields.map Prod.snd)
  complete (cs : List Content) : List.Forall₂ Content.Of cs (fields.map Prod.snd) →
    ∃ a, contents a = cs

namespace Format

variable {α : Type} (f : Format α)

/-- The names of the fields. -/
def names : List String := f.fields.map Prod.fst

theorem distinct_names : f.names.Nodup := f.distinct

theorem getElem?_names {i : Nat} (bound : i < f.fields.length) :
    f.names[i]? = some (f.fields[i]).1 := by
  rw [names, List.getElem?_map, List.getElem?_eq_getElem bound, Option.map_some]

/-- A value holds a record if what belongs to the fields gives what the record holds. -/
def Holds (a : α) (v : Value) : Prop :=
  ∃ vs, Lists f.names vs v ∧ List.Forall₂ Content.GivenBy (f.contents a) vs

/-- Why a value holds no record. -/
inductive Faulty : Value → Prop
  | mislisted {v : Value} (h : Mislisted f.names v) : Faulty v
  | misfit {name : String} {kind : Kind} {x v : Value} (field : (name, kind) ∈ f.fields)
      (given : Given f.names name x v) (h : kind.Misfit x) : Faulty v

variable {f}

/-- The value that is given for a field gives what the record holds there. -/
theorem Holds.given {a : α} {v : Value} (h : f.Holds a v) {i : Nat} {name : String} {c : Content}
    (place : f.names[i]? = some name) (content : (f.contents a)[i]? = some c) :
    ∃ x, c.GivenBy x ∧ ∀ y, Given f.names name y v ↔ y = x := by
  obtain ⟨vs, lists, gives⟩ := h
  obtain ⟨bound, rfl⟩ := List.getElem?_eq_some_iff.mp content
  have inside : i < vs.length := gives.length_eq ▸ bound
  exact ⟨vs[i], gives.get bound inside,
    fun y => lists.given_iff f.distinct_names place (List.getElem?_eq_getElem inside)⟩

theorem exists_contents {kinds : List Kind} {vs : List Value}
    (h : List.Forall₂ (fun kind v => ∃ c : Content, c.Of kind ∧ c.GivenBy v) kinds vs) :
    ∃ cs, List.Forall₂ Content.Of cs kinds ∧ List.Forall₂ Content.GivenBy cs vs := by
  induction h with
  | nil => exact ⟨[], .nil, .nil⟩
  | cons first _ ih =>
    obtain ⟨c, fits, gives⟩ := first
    obtain ⟨cs, fit, give⟩ := ih
    exact ⟨c :: cs, .cons fits fit, .cons gives give⟩

/-- A value holds a record exactly if there is no reason why it holds none. -/
theorem exists_holds_iff {v : Value} (spelled : v.Spelled) :
    (∃ a, f.Holds a v) ↔ ¬ f.Faulty v := by
  constructor
  · rintro ⟨a, holds⟩ wrong
    cases wrong with
    | mislisted wrong =>
      obtain ⟨vs, lists, -⟩ := holds
      exact (exists_lists_iff f.distinct_names spelled).mp ⟨vs, lists⟩ wrong
    | @misfit name _ _ _ field given wrong =>
      obtain ⟨i, bound, here⟩ := List.getElem_of_mem field
      have size : (f.contents a).length = f.fields.length :=
        (f.fitting a).length_eq.trans (List.length_map _)
      have place : f.names[i]? = some name := by rw [f.getElem?_names bound, here]
      have held : i < (f.contents a).length := size ▸ bound
      obtain ⟨x, gives, only⟩ := holds.given place (List.getElem?_eq_getElem held)
      have fits := (f.fitting a).get held (List.length_map (f := Prod.snd) ▸ bound)
      obtain rfl := (only _).mp given
      simp only [List.get_eq_getElem, List.getElem_map, here] at fits
      exact exists_content_iff.mp ⟨_, fits, gives⟩ wrong
  · intro right
    obtain ⟨vs, lists⟩ :=
      (exists_lists_iff f.distinct_names spelled).mpr fun wrong => right (.mislisted wrong)
    have each : List.Forall₂ (fun kind v => ∃ c : Content, c.Of kind ∧ c.GivenBy v)
        (f.fields.map Prod.snd) vs := by
      refine List.forall₂_iff_get.mpr ⟨?_, fun i bound inside => ?_⟩
      · rw [lists.length_eq, names, List.length_map, List.length_map]
      · have field : i < f.fields.length := List.length_map (f := Prod.snd) ▸ bound
        refine exists_content_iff.mpr fun wrong => right ?_
        have mem : ((f.fields[i]).1, (f.fields[i]).2) ∈ f.fields := List.getElem_mem field
        have given := (lists.given_iff f.distinct_names (f.getElem?_names field)
          (List.getElem?_eq_getElem inside)).mpr rfl
        simp only [List.get_eq_getElem, List.getElem_map] at wrong
        exact .misfit mem given wrong
    obtain ⟨cs, fit, give⟩ := exists_contents each
    obtain ⟨a, rfl⟩ := f.complete cs fit
    exact ⟨a, vs, lists, give⟩

end Format

end NodeLink.Dcp
