import NodeLink.Proofs.Records

/-!
# Records written and read again

The compact text of a record is a text of the grammar, though not always of the value that was
written: a control character without a short escape is written by its number and is read as one.
So the value that is read is given beside the text (`Written`), and what is shown of it is that it
gives the same contents. The decoders then read every record back (`records_read_back`).
-/

set_option autoImplicit false

namespace NodeLink.Dcp

open Json (Value Spelling Piece)

/-! ## Strings -/

theorem digit?_hexDigit : ∀ n < 16, Number.digit? 16 (Text.hexDigit n) = some n := by decide

/-- A code unit is written with the digits that spell it. -/
theorem spells_unit {n : Nat} (narrow : n < 0x10000) :
    (Piece.unit n).Spells ('\\' :: 'u' :: Value.fourDigits n) := by
  have digits (k : Nat) := digit?_hexDigit (k % 16) (Nat.mod_lt k (by decide))
  have whole : ((n / 4096 % 16 * 16 + n / 256 % 16) * 16 + n / 16 % 16) * 16 + n % 16 = n := by
    omega
  have spells :=
    Piece.Spells.unit (digits (n / 4096)) (digits (n / 256)) (digits (n / 16)) (digits n)
  rwa [whole] at spells

/-- A character is written as a piece that stands for it. -/
theorem exists_piece (c : Char) : ∃ p : Piece, p.Spells (Value.piece (.char c)) ∧
    ∀ {s : Spelling} {cs : List Char}, s.Means cs → Spelling.Means (p :: s) (c :: cs) := by
  have short {letter d : Char} (is : c = d) (listed : (letter, d) ∈ Json.shortEscapes) :
      ∃ p : Piece, p.Spells ['\\', letter] ∧
        ∀ {s : Spelling} {cs : List Char}, s.Means cs → Spelling.Means (p :: s) (c :: cs) :=
    ⟨_, .short (is ▸ listed), .char⟩
  simp only [Value.piece]
  split_ifs with quote escape back feed line carriage tab control
  · exact short quote (by decide)
  · exact short escape (by decide)
  · exact short back (by decide)
  · exact short feed (by decide)
  · exact short line (by decide)
  · exact short carriage (by decide)
  · exact short tab (by decide)
  · have narrow : c.toNat < 0x10000 := Nat.lt_trans control (by decide)
    exact ⟨_, spells_unit narrow, .unit narrow⟩
  · exact ⟨_, .plain (Nat.le_of_not_lt control) quote escape, .char⟩

/-- A string is written as a text that means it. -/
theorem exists_spelling (cs : List Char) : ∃ s : Spelling,
    s.Spells ((cs.map Piece.char).flatMap Value.piece) ∧ s.Means cs := by
  induction cs with
  | nil => exact ⟨[], .nil, .nil⟩
  | cons c cs ih =>
    obtain ⟨p, first, stands⟩ := exists_piece c
    obtain ⟨s, others, means⟩ := ih
    exact ⟨p :: s, .cons first others, stands means⟩

/-! ## Values -/

/-- What is read where a value was written. -/
def Written (v w : Value) : Prop := w.Spells v.compact

theorem written_ofString (t : String) :
    ∃ s : Spelling, Written (.ofString t) (.string s) ∧ s.Means t.toList := by
  obtain ⟨s, spells, means⟩ := exists_spelling t.toList
  exact ⟨s, .string spells, means⟩

theorem numeral_toDigits (n : Nat) : Json.Numeral (Nat.toDigits 10 n) := by
  have whole : Json.Whole (Nat.toDigits 10 n) := by
    rcases Nat.eq_zero_or_pos n with rfl | pos
    · exact .nought
    · exact .digits ⟨Nat.toDigits_ne_nil, fun _ => Number.isDigit_of_mem_toDigits⟩
        (Number.head?_toDigits pos)
  have parts := Json.Numeral.parts (.inl rfl) whole .absent .absent
  rwa [List.nil_append, List.append_nil, List.append_nil] at parts

theorem written_ofNat (n : Nat) : Written (.ofNat n) (.ofNat n) := .number (numeral_toDigits n)

theorem figures_ofNat (n : Nat) : Figures n (.ofNat n) :=
  .digits ⟨Nat.toDigits_ne_nil, fun _ => Number.isDigit_of_mem_toDigits⟩
    Nat.ofDigitChars_ten_toDigits

theorem padded_of_spells {v : Value} {text : List Char} (h : v.Spells text) : v.Padded text := by
  have padded := Value.Padded.mk Json.blank_nil h Json.blank_nil
  rwa [List.nil_append, List.append_nil] at padded

/-- The items of an array are read where they were written. -/
theorem written_items {vs ws : List Value} (h : List.Forall₂ Written vs ws) (some : ws ≠ []) :
    Value.Items ws (Value.compactItems vs) := by
  induction h with
  | nil => exact absurd rfl some
  | @cons v w vs ws first others ih =>
    cases others with
    | nil => exact .one (padded_of_spells first)
    | cons => exact .more (padded_of_spells first) (ih nofun)

theorem written_array {vs ws : List Value} (h : List.Forall₂ Written vs ws) :
    Written (.array vs) (.array ws) := by
  cases h with
  | nil => exact .noItems Json.blank_nil
  | cons first others => exact .array (written_items (.cons first others) nofun)

/-- What is read where a member was written. -/
def WrittenMember (m n : Spelling × Value) : Prop :=
  n.1.Spells (m.1.flatMap Value.piece) ∧ Written m.2 n.2

/-- The members of an object are read where they were written. -/
theorem written_members {ms ns : List (Spelling × Value)} (h : List.Forall₂ WrittenMember ms ns)
    (some : ns ≠ []) :
    Value.Members ns (Value.compactMembers ms) := by
  have member {m n : Spelling × Value} (written : WrittenMember m n) :
      Value.Member n (Value.spelling m.1 ++ ':' :: m.2.compact) := by
    have whole :=
      Value.Member.mk Json.blank_nil written.1 Json.blank_nil (padded_of_spells written.2)
    simpa [Value.spelling] using whole
  induction h with
  | nil => exact absurd rfl some
  | @cons m n ms ns first others ih =>
    cases others with
    | nil => exact .one (member first)
    | cons =>
      have more := Value.Members.more (member first) (ih nofun)
      simpa [Value.compactMembers] using more

theorem written_object {ms ns : List (Spelling × Value)} (h : List.Forall₂ WrittenMember ms ns) :
    Written (.object ms) (.object ns) := by
  cases h with
  | nil => exact .noMembers Json.blank_nil
  | cons first others => exact .object (written_members (.cons first others) nofun)

/-! ## Contents -/

/-- What a content is written as. -/
def Content.value : Content → Value
  | number n => .ofNat n
  | string s => .ofString s
  | bytes bs => .array (bs.map fun b => .ofNat b.toNat)

/-- A content is read from where it was written. -/
theorem Content.exists_written (c : Content) : ∃ w, Written c.value w ∧ c.GivenBy w := by
  cases c with
  | number n => exact ⟨_, written_ofNat n, .number (figures_ofNat n)⟩
  | string s =>
    obtain ⟨_, written, means⟩ := written_ofString s
    exact ⟨_, written, .string means⟩
  | bytes bs =>
    have written : List.Forall₂ Written (bs.map fun b => .ofNat b.toNat)
        (bs.map fun b => .ofNat b.toNat) := by
      rw [List.forall₂_map_left_iff, List.forall₂_map_right_iff, List.forall₂_same]
      exact fun b _ => written_ofNat b.toNat
    refine ⟨_, written_array written, .bytes ?_⟩
    rw [List.forall₂_map_right_iff, List.forall₂_same]
    exact fun b _ => figures_ofNat b.toNat

/-! ## Records -/

/-- The fields of a record are read where they were written. -/
theorem exists_written_fields {names : List String} {cs : List Content}
    (length : cs.length = names.length) :
    ∃ known : List (Spelling × Value),
      Written (.ofFields (names.zip (cs.map Content.value))) (.object known) ∧
      List.Forall₂ (fun name m => m.1.Means name.toList) names known ∧
      List.Forall₂ Content.GivenBy cs (known.map Prod.snd) := by
  suffices ∃ known, List.Forall₂ WrittenMember
      ((names.zip (cs.map Content.value)).map fun f => (.ofString f.1, f.2)) known ∧
      List.Forall₂ (fun name m => m.1.Means name.toList) names known ∧
      List.Forall₂ Content.GivenBy cs (known.map Prod.snd) by
    obtain ⟨known, written, rest⟩ := this
    exact ⟨known, written_object written, rest⟩
  induction names generalizing cs with
  | nil =>
    obtain rfl := List.length_eq_zero_iff.mp length
    exact ⟨[], .nil, .nil, .nil⟩
  | cons name names ih =>
    obtain ⟨c, cs, rfl⟩ := List.exists_cons_of_length_eq_add_one length
    obtain ⟨known, written, named, given⟩ := ih (Nat.succ.inj length)
    obtain ⟨s, spells, means⟩ := exists_spelling name.toList
    obtain ⟨w, value, gives⟩ := c.exists_written
    exact ⟨(s, w) :: known, .cons ⟨spells, value⟩ written, .cons means named, .cons gives given⟩

/-- The record of a format is read where its contents were written under their names. -/
theorem Format.exists_written {α : Type} (f : Format α) (a : α) :
    ∃ w, Written (.ofFields (f.names.zip ((f.contents a).map Content.value))) w ∧
      f.Holds a w := by
  have length : (f.contents a).length = f.names.length := by
    rw [(f.fitting a).length_eq, names, List.length_map, List.length_map]
  obtain ⟨known, written, named, gives⟩ := exists_written_fields length
  have order : known.Perm (known ++ []) := by rw [List.append_nil]
  exact ⟨_, written, _, .object order named rfl (fun _ none => absurd none List.not_mem_nil), gives⟩

theorem Mutation.exists_written (m : Mutation) : ∃ w, Written m.toValue w ∧ format.Holds m w :=
  format.exists_written m

theorem Removal.exists_written (r : Removal) : ∃ w, Written r.toValue w ∧ format.Holds r w :=
  format.exists_written r

/-- A value under a tag is read where it was written. -/
theorem written_tagged (tag : String) {v w : Value} (h : Written v w) :
    ∃ s : Spelling, Written (.ofFields [(tag, v)]) (.object [(s, w)]) ∧ s.Means tag.toList := by
  obtain ⟨s, spells, means⟩ := exists_spelling tag.toList
  exact ⟨s, written_object (.cons ⟨spells, h⟩ .nil), means⟩

theorem Event.exists_written (e : Event) : ∃ w, Written e.toValue w ∧ e.Holds w := by
  cases e with
  | mutation m =>
    obtain ⟨w, inner, holds⟩ := m.exists_written
    obtain ⟨_, written, means⟩ := written_tagged "Mutation" inner
    exact ⟨_, written, .mutation means holds⟩
  | removal r =>
    obtain ⟨w, inner, holds⟩ := r.exists_written
    obtain ⟨_, written, means⟩ := written_tagged "Remove" inner
    exact ⟨_, written, .removal means holds⟩

/-- What is read where something was written is its value. -/
theorem ofText?_text {α : Type} {ofValue? : Value → Option α} {v w : Value} (h : Written v w) :
    ofText? ofValue? v.text = ofValue? w := by
  rw [ofText?, Value.text, String.toList_ofList,
    Json.ofText?_eq_some_iff.mpr (padded_of_spells h), Option.bind_some]

theorem Mutation.ofText?_text (m : Mutation) : ofText? m.toValue.text = some m := by
  obtain ⟨w, written, holds⟩ := m.exists_written
  exact (Dcp.ofText?_text written).trans ((ofValue?_eq_some_iff ⟨_, written⟩).mpr holds)

theorem Removal.ofText?_text (r : Removal) : ofText? r.toValue.text = some r := by
  obtain ⟨w, written, holds⟩ := r.exists_written
  exact (Dcp.ofText?_text written).trans ((ofValue?_eq_some_iff ⟨_, written⟩).mpr holds)

theorem Event.ofText?_text (e : Event) : ofText? e.toValue.text = some e := by
  obtain ⟨w, written, holds⟩ := e.exists_written
  exact (Dcp.ofText?_text written).trans ((ofValue?_eq_some_iff ⟨_, written⟩).mpr holds)

theorem Side.ofText?_text (s : Side) : ofText? s.toValue.text = some s := by
  obtain ⟨name, written, means⟩ := written_ofString s.name
  refine (Dcp.ofText?_text written).trans ?_
  rw [ofValue?, means.toString?, Option.bind_some]
  cases s <;> rfl

/-- Texts are read back, so that they tell values apart, and what is read from any text is written
as one that is read as the same. -/
structure RoundTrips {α : Type} (text : α → String) (read? : String → Option α) : Prop where
  read_back (a : α) : read? (text a) = some a
  apart (a b : α) : text a = text b → a = b
  rewritten (s : String) (a : α) : read? s = some a → read? (text a) = some a

theorem roundTrips {α : Type} {text : α → String} {read? : String → Option α}
    (read_back : ∀ a, read? (text a) = some a) : RoundTrips text read? where
  read_back := read_back
  apart a b same := Option.some.inj ((read_back a).symm.trans (same ▸ read_back b))
  rewritten _ a _ := read_back a

/-- Every record is read back from its compact text. -/
theorem records_read_back :
    RoundTrips (fun m : Mutation => m.toValue.text) Mutation.ofText? ∧
      RoundTrips (fun r : Removal => r.toValue.text) Removal.ofText? ∧
      RoundTrips (fun e : Event => e.toValue.text) Event.ofText? ∧
      RoundTrips (fun s : Side => s.toValue.text) Side.ofText? :=
  ⟨roundTrips Mutation.ofText?_text, roundTrips Removal.ofText?_text,
    roundTrips Event.ofText?_text, roundTrips Side.ofText?_text⟩

end NodeLink.Dcp
