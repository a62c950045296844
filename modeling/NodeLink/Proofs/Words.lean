import NodeLink.Proofs.Moments
import NodeLink.Toml.Printer
import NodeLink.Toml.Reader

/-!
# Strings and names in a file read back

Any text at all can be written between double quotes and is read back, since what may not stand for
itself is escaped, and every escape that is written stands for its one character. A name is written
bare if it can be, and as such a string otherwise, so any text can be a name. A key is its names
with points between them; it is read back if it has no more names than a reader takes.
-/

set_option autoImplicit false

namespace NodeLink.Toml

open Number (natural?)

/-! ## Strings -/

/-- The escape of a control character by its two digits. -/
theorem natural?_hexDigits : ∀ n, n < 0x80 →
    natural? 16 ['0', '0', Text.hexDigit (n / 16), Text.hexDigit (n % 16)] = some n := by
  decide +kernel

theorem charOf?_toNat (c : Char) : charOf? c.toNat = some c := by
  have valid : c.toNat.isValidChar := c.valid
  rw [charOf?, if_pos valid, Char.ofNat_toNat]

/-- What may not stand for itself is a control character. -/
theorem toNat_lt_of_not_isPlain {c : Char} (control : isPlain c = false) : c.toNat < 0x80 := by
  simp only [isPlain, Bool.or_eq_false_iff, Bool.and_eq_false_iff,
    decide_eq_false_iff_not] at control
  omega

theorem readQuoted_quotedChar (n : Nat) (c : Char) (rest : List Char) :
    readQuoted (n + 1) (quotedChar c ++ rest) =
      (readQuoted n rest).bind fun r => some (c :: r.1, r.2) := by
  unfold quotedChar
  split
  next quote =>
    subst quote
    simp [readQuoted, readEscape, shortEscape?]
  next quote =>
    split
    next backslash =>
      subst backslash
      simp [readQuoted, readEscape, shortEscape?]
    next backslash =>
      split
      next plain =>
        simp [readQuoted, quote, backslash, plain]
      next control =>
        have low := toNat_lt_of_not_isPlain (Bool.eq_false_iff.mpr control)
        simp [readQuoted, readEscape, natural?_hexDigits c.toNat low, charOf?_toNat]

/-- A text between double quotes is read back, if as many characters may be read. -/
theorem readQuoted_append {n : Nat} {cs : List Char} (enough : cs.length < n)
    (rest : List Char) :
    readQuoted n (cs.flatMap quotedChar ++ '"' :: rest) = some (cs, rest) := by
  induction cs generalizing n with
  | nil =>
    obtain ⟨n, rfl⟩ := Nat.exists_eq_succ_of_ne_zero (Nat.ne_of_gt enough)
    rfl
  | cons c cs ih =>
    obtain ⟨n, rfl⟩ := Nat.exists_eq_succ_of_ne_zero (Nat.ne_of_gt (Nat.zero_lt_of_lt enough))
    have fewer : cs.length < n := Nat.lt_of_succ_lt_succ enough
    rw [List.flatMap_cons, List.append_assoc, readQuoted_quotedChar, ih fewer]
    rfl

theorem length_le_quoted (cs : List Char) : cs.length ≤ (cs.flatMap quotedChar).length := by
  induction cs with
  | nil => exact Nat.le_refl 0
  | cons c cs ih =>
    have one : 1 ≤ (quotedChar c).length := by
      unfold quotedChar
      split
      · decide
      · split
        · decide
        · split
          · exact Nat.le_refl 1
          · simp
    rw [List.flatMap_cons, List.length_append, List.length_cons]
    omega

theorem enough_for_quoted (cs rest : List Char) :
    cs.length < (cs.flatMap quotedChar ++ '"' :: rest).length := by
  have fits := length_le_quoted cs
  rw [List.length_append, List.length_cons]
  omega

theorem quotedText_append (cs rest : List Char) :
    quotedText cs ++ rest = '"' :: (cs.flatMap quotedChar ++ '"' :: rest) := by
  simp [quotedText]

/-- An escaped text does not begin with a quote. -/
theorem quotedChar_begins (c : Char) : ∃ d more, quotedChar c = d :: more ∧ d ≠ '"' := by
  unfold quotedChar
  split
  · exact ⟨_, _, rfl, by decide⟩
  next quote =>
    split
    · exact ⟨_, _, rfl, by decide⟩
    · split
      · exact ⟨c, [], rfl, quote⟩
      · exact ⟨_, _, rfl, by decide⟩

/-- A string is read back. It is not taken for a block, which begins with three quotes. -/
theorem readString_append (cs : List Char) {tail : List Char} (stop : Stops tail) :
    readString (quotedText cs ++ tail) = some (cs, tail) := by
  have read := readQuoted_append (enough_for_quoted cs tail) tail
  rw [quotedText_append]
  unfold readString
  split
  next rest same =>
    exfalso
    obtain ⟨-, same⟩ := List.cons.inj same
    cases cs with
    | nil =>
      obtain ⟨t, more, rfl, h⟩ := stop
      exact ne_of_isStop h rfl (List.cons.inj (List.cons.inj same).2).1
    | cons c cs =>
      obtain ⟨d, more, begins, other⟩ := quotedChar_begins c
      rw [List.flatMap_cons, begins] at same
      exact other (List.cons.inj same).1
  next rest _ same =>
    obtain ⟨-, rfl⟩ := List.cons.inj same
    exact read
  next same => cases (List.cons.inj same).1
  next same => cases (List.cons.inj same).1
  next _ quote _ _ => exact absurd rfl (quote _)

/-! ## Names -/

/-- A text that a bare name cannot run on into. -/
def Parts (cs : List Char) : Prop := ∃ c rest, cs = c :: rest ∧ isBare c = false

theorem parts_cons {c : Char} (rest : List Char) (other : isBare c = false) : Parts (c :: rest) :=
  ⟨c, rest, rfl, other⟩

theorem readName_append (name : String) {tail : List Char} (parts : Parts tail) :
    readName (nameText name ++ tail) = some (name, tail) := by
  unfold nameText
  split
  next bare =>
    obtain ⟨nonempty, all⟩ := bare
    obtain ⟨t, more, rfl, other⟩ := parts
    obtain ⟨c, rest, split⟩ := List.exists_cons_of_ne_nil nonempty
    have first : isBare c = true := List.all_eq_true.mp all c (split ▸ List.mem_cons_self)
    have taken : (name.toList ++ t :: more).takeWhile isBare = name.toList := by
      rw [List.takeWhile_append_of_pos (List.all_eq_true.mp all),
        List.takeWhile_cons_of_neg (by simp [other]), List.append_nil]
    have dropped : (name.toList ++ t :: more).dropWhile isBare = t :: more := by
      rw [List.dropWhile_append_of_pos (List.all_eq_true.mp all),
        List.dropWhile_cons_of_neg (by simp [other])]
    unfold readName
    split
    next same =>
      rw [split] at same
      obtain ⟨rfl, -⟩ := List.cons.inj same
      cases first
    next same =>
      rw [split] at same
      obtain ⟨rfl, -⟩ := List.cons.inj same
      cases first
    next =>
      dsimp only
      rw [taken, dropped, if_neg nonempty, String.ofList_toList]
  next =>
    have read := readQuoted_append (enough_for_quoted name.toList tail) tail
    rw [quotedText_append, readName, read, Option.map_some, String.ofList_toList]

/-- A name begins with a character that stands in names, or with a quote. -/
theorem nameText_begins (name : String) :
    ∃ c more, nameText name = c :: more ∧ (isBare c = true ∨ c = '"') := by
  unfold nameText
  split
  next bare =>
    obtain ⟨c, rest, split⟩ := List.exists_cons_of_ne_nil bare.1
    exact ⟨c, rest, split, .inl (List.all_eq_true.mp bare.2 c (split ▸ List.mem_cons_self))⟩
  next => exact ⟨'"', _, rfl, .inr rfl⟩

theorem not_isBlank_of_name {c : Char} (h : isBare c = true ∨ c = '"') : isBlank c = false := by
  rcases h with bare | rfl
  · cases blank : isBlank c with
    | false => rfl
    | true =>
      rcases (by simpa [isBlank] using blank : c = ' ' ∨ c = '\t') with rfl | rfl <;> cases bare
  · rfl

theorem skipBlanks_of_not {c : Char} (other : isBlank c = false) (rest : List Char) :
    skipBlanks (c :: rest) = c :: rest :=
  List.dropWhile_cons_of_neg (by simp [other])

theorem skipBlanks_nameText (name : String) (rest : List Char) :
    skipBlanks (nameText name ++ rest) = nameText name ++ rest := by
  obtain ⟨c, more, begins, opens⟩ := nameText_begins name
  rw [begins]
  exact skipBlanks_of_not (not_isBlank_of_name opens) _

/-! ## Keys -/

/-- A text that a key cannot run on into: no name goes on, and after blanks no point follows. -/
structure Leaves (cs : List Char) : Prop where
  parts : Parts cs
  point : ∀ rest, skipBlanks cs ≠ '.' :: rest

theorem readNames_append {n : Nat} {parents : List String} (few : parents.length < n)
    (name : String) {tail : List Char} (leaves : Leaves tail) :
    readNames n (namesText parents name ++ tail) = some (⟨parents, name⟩, skipBlanks tail) := by
  induction parents generalizing n with
  | nil =>
    obtain ⟨n, rfl⟩ := Nat.exists_eq_succ_of_ne_zero (Nat.ne_of_gt few)
    rw [readNames, namesText, skipBlanks_nameText, readName_append name leaves.parts]
    simp only [Option.bind_eq_bind, Option.bind_some]
    split
    next rest same => exact absurd same (leaves.point rest)
    next => rfl
  | cons parent parents ih =>
    obtain ⟨n, rfl⟩ := Nat.exists_eq_succ_of_ne_zero (Nat.ne_of_gt (Nat.zero_lt_of_lt few))
    have fewer : parents.length < n := Nat.lt_of_succ_lt_succ few
    have parts : Parts ('.' :: (namesText parents name ++ tail)) := parts_cons _ rfl
    rw [readNames, namesText, List.append_assoc, List.cons_append, skipBlanks_nameText,
      readName_append parent parts]
    simp only [Option.bind_eq_bind, Option.bind_some, skipBlanks_of_not (c := '.') rfl,
      ih fewer, Option.pure_def]

/-- A key has no more names than a reader takes. -/
def Key.WellFormed (k : Key) : Prop := k.parents.length < maxDepth

instance (k : Key) : Decidable k.WellFormed := inferInstanceAs (Decidable (_ < _))

theorem readKey_append {k : Key} (fits : k.WellFormed) {tail : List Char} (leaves : Leaves tail) :
    readKey (k.text ++ tail) = some (k, skipBlanks tail) :=
  readNames_append fits k.name leaves

theorem Key.text_begins (k : Key) :
    ∃ c more, k.text = c :: more ∧ (isBare c = true ∨ c = '"') := by
  obtain ⟨parents, name⟩ := k
  cases parents with
  | nil => exact nameText_begins name
  | cons parent parents =>
    obtain ⟨c, more, begins, opens⟩ := nameText_begins parent
    refine ⟨c, more ++ '.' :: namesText parents name, ?_, opens⟩
    rw [Key.text, namesText, begins, List.cons_append]

end NodeLink.Toml
