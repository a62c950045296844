import NodeLink.Proofs.Tokens

/-!
# The grammar of JSON

The texts of a value are given by rules, one for each kind of value, with blanks wherever JSON
allows them. The main statement is that the reader reads exactly the texts of the grammar
(`ofText?_eq_some_iff`), each as its one value.

Both directions are inductions on the fuel of the mutual readers. What is read with one more unit of
fuel is shown first, for each of the three readers, from what is read with the fuel they pass on.
-/

set_option autoImplicit false

namespace NodeLink.Json

/-! ## Values -/

mutual

/-- The texts of a value, with no blanks around it. -/
inductive Value.Spells : Value → List Char → Prop
  | null : Spells .null ['n', 'u', 'l', 'l']
  | ofTrue : Spells (.bool true) ['t', 'r', 'u', 'e']
  | ofFalse : Spells (.bool false) ['f', 'a', 'l', 's', 'e']
  | number {token : List Char} (numeral : Numeral token) : Spells (.number token) token
  | string {s : Spelling} {text : List Char} (spells : s.Spells text) :
      Spells (.string s) ('"' :: text ++ ['"'])
  | noItems {blank : List Char} (h : Blank blank) : Spells (.array []) ('[' :: blank ++ [']'])
  | array {items : List Value} {text : List Char} (spells : Items items text) :
      Spells (.array items) ('[' :: text ++ [']'])
  | noMembers {blank : List Char} (h : Blank blank) :
      Spells (.object []) ('\x7b' :: blank ++ ['\x7d'])
  | object {members : List (Spelling × Value)} {text : List Char} (spells : Members members text) :
      Spells (.object members) ('\x7b' :: text ++ ['\x7d'])

/-- The texts of a value, with blanks around it. -/
inductive Value.Padded : Value → List Char → Prop
  | mk {v : Value} {before text after : List Char} (left : Blank before) (spells : v.Spells text)
      (right : Blank after) : Padded v (before ++ text ++ after)

/-- The texts of one item or more, with commas between them. -/
inductive Value.Items : List Value → List Char → Prop
  | one {v : Value} {text : List Char} (last : v.Padded text) : Items [v] text
  | more {v : Value} {items : List Value} {text rest : List Char} (first : v.Padded text)
      (others : Items items rest) : Items (v :: items) (text ++ ',' :: rest)

/-- The texts of a name with its value. -/
inductive Value.Member : Spelling × Value → List Char → Prop
  | mk {k : Spelling} {v : Value} {before name after text : List Char} (left : Blank before)
      (named : k.Spells name) (right : Blank after) (valued : v.Padded text) :
      Member (k, v) (before ++ '"' :: (name ++ '"' :: (after ++ ':' :: text)))

/-- The texts of one member or more, with commas between them. -/
inductive Value.Members : List (Spelling × Value) → List Char → Prop
  | one {m : Spelling × Value} {text : List Char} (last : Value.Member m text) : Members [m] text
  | more {m : Spelling × Value} {members : List (Spelling × Value)} {text rest : List Char}
      (first : Value.Member m text) (others : Members members rest) :
      Members (m :: members) (text ++ ',' :: rest)

end

/-! ## What is spelled is read -/

theorem not_blank_of_isDigit {c : Char} (h : c.isDigit = true) : isBlank c = false := by
  cases blank : isBlank c with
  | false => rfl
  | true =>
    simp only [isBlank, Bool.or_eq_true, decide_eq_true_eq] at blank
    rcases blank with ((rfl | rfl) | rfl) | rfl <;> cases h

/-- A value begins neither with a blank nor with what closes a bracket. -/
theorem Value.Spells.begins {v : Value} {text : List Char} (h : v.Spells text) :
    ∃ c more, text = c :: more ∧ isBlank c = false ∧ c ≠ ']' := by
  cases h with
  | number numeral =>
    obtain ⟨c, more, rfl, rfl | digit⟩ := numeral.begins
    · exact ⟨_, _, rfl, rfl, by decide⟩
    · exact ⟨_, _, rfl, not_blank_of_isDigit digit, by rintro rfl; cases digit⟩
  | _ => exact ⟨_, _, rfl, rfl, by decide⟩

theorem skipBlanks_spells {v : Value} {text : List Char} (h : v.Spells text) (tail : List Char) :
    skipBlanks (text ++ tail) = text ++ tail := by
  obtain ⟨c, more, rfl, other, -⟩ := h.begins
  exact skipBlanks_of_not other _

theorem readItems_skipBlanks (n : Nat) (cs : List Char) :
    readItems n (skipBlanks cs) = readItems n cs := by
  rcases n with _ | _ | n
  · rfl
  · rfl
  · simp only [readItems, readValue, skipBlanks_skipBlanks]

theorem readMembers_skipBlanks (n : Nat) (cs : List Char) :
    readMembers n (skipBlanks cs) = readMembers n cs := by
  cases n with
  | zero => rfl
  | succ n => simp only [readMembers, skipBlanks_skipBlanks]

/-- What begins as a number does is read as a number. -/
theorem readValue_of_numeral {token : List Char} (h : Numeral token) (n : Nat)
    {cs tail : List Char} (there : skipBlanks cs = token ++ tail) :
    readValue (n + 1) cs =
      (readNumber (token ++ tail)).map fun r => (.number r.1, r.2) := by
  obtain ⟨c, more, rfl, opens⟩ := h.begins
  have other : ∀ {d : Char}, d ≠ '-' → d.isDigit = false → c ≠ d := by
    rintro d minus digit rfl
    exact opens.elim minus fun is => by rw [is] at digit; cases digit
  have apart : ∀ {d : Char} {rest : List Char}, d ≠ '-' → d.isDigit = false →
      c :: more ++ tail ≠ d :: rest :=
    fun minus digit same => other minus digit (List.cons.inj same).1
  unfold readValue
  rw [there]
  split
  next same => exact absurd same (apart (by decide) rfl)
  next same => exact absurd same (apart (by decide) rfl)
  next same => exact absurd same (apart (by decide) rfl)
  next same => exact absurd same (apart (by decide) rfl)
  next same => exact absurd same (apart (by decide) rfl)
  next same => exact absurd same (apart (by decide) rfl)
  next => rfl

/-- Only a number could run on into what follows it. -/
def Value.EndsBefore (v : Value) (tail : List Char) : Prop :=
  ∀ token, v = .number token → EndsNumeral tail

theorem endsNumeral_cons {c : Char} (rest : List Char)
    (h : c.isDigit = false ∧ c ≠ '.' ∧ c ≠ 'e' ∧ c ≠ 'E') : EndsNumeral (c :: rest) := by
  intro d mem
  cases mem
  exact h

theorem endsNumeral_blank {blank tail : List Char} (h : Blank blank) (ends : EndsNumeral tail) :
    EndsNumeral (blank ++ tail) := by
  cases blank with
  | nil => exact ends
  | cons c rest =>
    have is := h c List.mem_cons_self
    simp only [isBlank, Bool.or_eq_true, decide_eq_true_eq] at is
    refine endsNumeral_cons _ ?_
    rcases is with ((rfl | rfl) | rfl) | rfl <;> decide

theorem Value.Padded.begins {v : Value} {text : List Char} (h : v.Padded text) (tail : List Char) :
    ∃ c more, skipBlanks (text ++ tail) = c :: more ∧ c ≠ ']' := by
  obtain @⟨v, before, text, after, left, spells, right⟩ := h
  obtain ⟨c, more, rfl, other, closing⟩ := spells.begins
  refine ⟨c, more ++ (after ++ tail), ?_, closing⟩
  rw [List.append_assoc, List.append_assoc, skipBlanks_append left, List.cons_append,
    skipBlanks_of_not other]

theorem Value.Items.begins {items : List Value} {text : List Char} (h : Value.Items items text)
    (tail : List Char) : ∃ c more, skipBlanks (text ++ tail) = c :: more ∧ c ≠ ']' := by
  cases h with
  | one last => exact last.begins tail
  | more first others =>
    rw [List.append_assoc]
    exact first.begins _

theorem Value.Member.begins {m : Spelling × Value} {text : List Char} (h : Value.Member m text)
    (tail : List Char) : ∃ more, skipBlanks (text ++ tail) = '"' :: more := by
  obtain ⟨left, -, -, -⟩ := h
  rw [List.append_assoc, skipBlanks_append left]
  exact ⟨_, skipBlanks_of_not rfl _⟩

theorem Value.Members.begins {members : List (Spelling × Value)} {text : List Char}
    (h : Value.Members members text) (tail : List Char) :
    ∃ more, skipBlanks (text ++ tail) = '"' :: more := by
  cases h with
  | one last => exact last.begins tail
  | more first others =>
    rw [List.append_assoc]
    exact first.begins _

/-- What is spelled is read, with so much fuel. A list of items needs one more than its text
seems to, since it is read by a reader that has one less than that of its first item. -/
structure Reads (n : Nat) : Prop where
  value : ∀ {v : Value} {before text : List Char}, v.Spells text → Blank before →
    2 * text.length ≤ n → ∀ {tail}, v.EndsBefore tail →
      readValue n (before ++ (text ++ tail)) = some (v, tail)
  items : ∀ {items : List Value} {text : List Char}, Value.Items items text →
    2 * text.length < n → ∀ tail, readItems n (text ++ ']' :: tail) = some (items, tail)
  members : ∀ {members : List (Spelling × Value)} {text : List Char}, Value.Members members text →
    2 * text.length < n → ∀ tail, readMembers n (text ++ '\x7d' :: tail) = some (members, tail)

/-- A value among blanks is read up to the blanks behind it. -/
theorem Reads.padded {n : Nat} (reads : Reads n) {v : Value} {text : List Char}
    (h : v.Padded text) (enough : 2 * text.length ≤ n) {tail : List Char}
    (ends : EndsNumeral tail) :
    ∃ after, Blank after ∧ readValue n (text ++ tail) = some (v, after ++ tail) := by
  obtain @⟨v, before, text, after, left, spells, right⟩ := h
  refine ⟨after, right, ?_⟩
  simp only [List.length_append] at enough
  rw [List.append_assoc, List.append_assoc]
  exact reads.value spells left (by omega) fun _ _ => endsNumeral_blank right ends

theorem Reads.items_succ {n : Nat} (reads : Reads n) {items : List Value} {text : List Char}
    (h : Value.Items items text) (enough : 2 * text.length < n + 1) (tail : List Char) :
    readItems (n + 1) (text ++ ']' :: tail) = some (items, tail) := by
  cases h with
  | one last =>
    obtain ⟨after, blank, read⟩ := reads.padded last (by omega)
      (endsNumeral_cons (c := ']') tail (by decide))
    rw [readItems, read]
    simp only [Option.bind_eq_bind, Option.bind_some, skipBlanks_append blank,
      skipBlanks_of_not (c := ']') rfl]
  | @more v items text rest first others =>
    simp only [List.length_append, List.length_cons] at enough
    obtain ⟨after, blank, read⟩ := reads.padded first (by omega)
      (endsNumeral_cons (c := ',') (rest ++ ']' :: tail) (by decide))
    rw [List.append_assoc, List.cons_append, readItems, read]
    simp only [Option.bind_eq_bind, Option.bind_some, skipBlanks_append blank,
      skipBlanks_of_not (c := ',') rfl, reads.items others (by omega) tail, Option.map_some]

/-- How members are read on behind a member and its blanks. -/
def readBehind (n : Nat) (m : Spelling × Value) :
    List Char → Option (List (Spelling × Value) × List Char)
  | ',' :: rest => (readMembers n rest).map fun r => (m :: r.1, r.2)
  | '\x7d' :: rest => some ([m], rest)
  | _ => none

/-- A member is read up to the blanks behind it. -/
theorem Reads.member {n : Nat} (reads : Reads n) {m : Spelling × Value} {text : List Char}
    (h : Value.Member m text) (enough : 2 * text.length ≤ n) {tail : List Char}
    (ends : EndsNumeral tail) :
    ∃ after, Blank after ∧
      readMembers (n + 1) (text ++ tail) = readBehind n m (skipBlanks (after ++ tail)) := by
  obtain @⟨k, v, before, name, after, text, left, named, right, valued⟩ := h
  simp only [List.length_append, List.length_cons] at enough
  obtain ⟨behind, blank, read⟩ := reads.padded valued (by omega) ends
  refine ⟨behind, blank, ?_⟩
  simp only [List.append_assoc, List.cons_append]
  rw [readMembers, skipBlanks_append left, skipBlanks_of_not (c := '"') rfl]
  simp only [readString_append named, Option.bind_eq_bind, Option.bind_some,
    skipBlanks_append right, skipBlanks_of_not (c := ':') rfl, read]
  rfl

theorem Reads.members_succ {n : Nat} (reads : Reads n) {members : List (Spelling × Value)}
    {text : List Char} (h : Value.Members members text) (enough : 2 * text.length < n + 1)
    (tail : List Char) :
    readMembers (n + 1) (text ++ '\x7d' :: tail) = some (members, tail) := by
  cases h with
  | one last =>
    obtain ⟨after, blank, read⟩ := reads.member last (by omega)
      (endsNumeral_cons (c := '\x7d') tail (by decide))
    rw [read, skipBlanks_append blank, skipBlanks_of_not (c := '\x7d') rfl]
    rfl
  | @more m members text rest first others =>
    simp only [List.length_append, List.length_cons] at enough
    obtain ⟨after, blank, read⟩ := reads.member first (by omega)
      (endsNumeral_cons (c := ',') (rest ++ '\x7d' :: tail) (by decide))
    rw [List.append_assoc, List.cons_append, read, skipBlanks_append blank,
      skipBlanks_of_not (c := ',') rfl]
    simp only [readBehind, reads.members others (by omega) tail, Option.map_some]

theorem readValue_bracket {cs rest more : List Char} {c : Char} (n : Nat)
    (there : skipBlanks cs = '[' :: rest) (begins : skipBlanks rest = c :: more)
    (apart : c ≠ ']') :
    readValue (n + 1) cs = (readItems n rest).map fun r => (.array r.1, r.2) := by
  rw [← readItems_skipBlanks n rest, readValue, there]
  simp only [begins]
  split
  next same => exact absurd (List.cons.inj same).1 apart
  next => rfl

theorem readValue_brace {cs rest more : List Char} (n : Nat)
    (there : skipBlanks cs = '\x7b' :: rest) (begins : skipBlanks rest = '"' :: more) :
    readValue (n + 1) cs = (readMembers n rest).map fun r => (.object r.1, r.2) := by
  rw [← readMembers_skipBlanks n rest, readValue, there]
  simp only [begins]
  rfl

theorem Reads.value_succ {n : Nat} (reads : Reads n) {v : Value} {before text : List Char}
    (h : v.Spells text) (left : Blank before) (enough : 2 * text.length ≤ n + 1)
    {tail : List Char} (ends : v.EndsBefore tail) :
    readValue (n + 1) (before ++ (text ++ tail)) = some (v, tail) := by
  have there : skipBlanks (before ++ (text ++ tail)) = text ++ tail := by
    rw [skipBlanks_append left, skipBlanks_spells h]
  cases h with
  | null => rw [readValue, there]; rfl
  | ofTrue => rw [readValue, there]; rfl
  | ofFalse => rw [readValue, there]; rfl
  | number numeral =>
    rw [readValue_of_numeral numeral n there, readNumber_append numeral (ends _ rfl)]
    rfl
  | @string s text spells =>
    simp only [List.cons_append, List.append_assoc, List.nil_append] at there ⊢
    rw [readValue, there]
    simp only [readString_append spells, Option.map_some]
  | @noItems blank blanks =>
    simp only [List.cons_append, List.append_assoc, List.nil_append] at there ⊢
    rw [readValue, there]
    simp only [skipBlanks_append blanks, skipBlanks_of_not (c := ']') rfl]
  | @array items text spells =>
    simp only [List.length_append, List.length_cons] at enough
    obtain ⟨c, more, begins, apart⟩ := spells.begins (']' :: tail)
    simp only [List.cons_append, List.append_assoc, List.nil_append] at there ⊢
    rw [readValue_bracket n there begins apart, reads.items spells (by omega) tail, Option.map_some]
  | @noMembers blank blanks =>
    simp only [List.cons_append, List.append_assoc, List.nil_append] at there ⊢
    rw [readValue, there]
    simp only [skipBlanks_append blanks, skipBlanks_of_not (c := '\x7d') rfl]
  | @object members text spells =>
    simp only [List.length_append, List.length_cons] at enough
    obtain ⟨more, begins⟩ := spells.begins ('\x7d' :: tail)
    simp only [List.cons_append, List.append_assoc, List.nil_append] at there ⊢
    rw [readValue_brace n there begins, reads.members spells (by omega) tail, Option.map_some]

theorem reads_within (n : Nat) : Reads n := by
  induction n with
  | zero =>
    refine ⟨fun h _ enough => ?_, fun _ enough => ?_, fun _ enough => ?_⟩
    · obtain ⟨c, more, rfl, -⟩ := h.begins
      simp at enough
    · exact absurd enough (Nat.not_lt_zero _)
    · exact absurd enough (Nat.not_lt_zero _)
  | succ n ih =>
    exact ⟨fun h left enough _ ends => ih.value_succ h left enough ends,
      fun h enough => ih.items_succ h enough, fun h enough => ih.members_succ h enough⟩

/-! ## What is read was spelled -/

theorem Value.Padded.pad {v : Value} {blank text : List Char} (h : Blank blank)
    (padded : v.Padded text) : v.Padded (blank ++ text) := by
  obtain @⟨v, before, text, after, left, spells, right⟩ := padded
  rw [← List.append_assoc, ← List.append_assoc]
  exact .mk (blank_append h left) spells right

theorem Value.Items.pad {items : List Value} {blank text : List Char} (h : Blank blank)
    (spells : Value.Items items text) : Value.Items items (blank ++ text) := by
  cases spells with
  | one last => exact .one (last.pad h)
  | more first others =>
    rw [← List.append_assoc]
    exact .more (first.pad h) others

theorem Value.Member.pad {m : Spelling × Value} {blank text : List Char} (h : Blank blank)
    (member : Value.Member m text) : Value.Member m (blank ++ text) := by
  obtain ⟨left, named, right, valued⟩ := member
  rw [← List.append_assoc]
  exact .mk (blank_append h left) named right valued

theorem Value.Members.pad {members : List (Spelling × Value)} {blank text : List Char}
    (h : Blank blank) (spells : Value.Members members text) :
    Value.Members members (blank ++ text) := by
  cases spells with
  | one last => exact .one (last.pad h)
  | more first others =>
    rw [← List.append_assoc]
    exact .more (first.pad h) others

/-- What is read with so much fuel was spelled. -/
structure Spelled (n : Nat) : Prop where
  value : ∀ {cs rest : List Char} {v : Value}, readValue n cs = some (v, rest) →
    ∃ before text, Blank before ∧ v.Spells text ∧ cs = before ++ (text ++ rest)
  items : ∀ {cs rest : List Char} {items : List Value}, readItems n cs = some (items, rest) →
    ∃ text, Value.Items items text ∧ cs = text ++ ']' :: rest
  members : ∀ {cs rest : List Char} {members : List (Spelling × Value)},
    readMembers n cs = some (members, rest) →
      ∃ text, Value.Members members text ∧ cs = text ++ '\x7d' :: rest

theorem Spelled.value_succ {n : Nat} (spelled : Spelled n) {cs rest : List Char} {v : Value}
    (h : readValue (n + 1) cs = some (v, rest)) :
    ∃ before text, Blank before ∧ v.Spells text ∧ cs = before ++ (text ++ rest) := by
  obtain ⟨before, left, parts⟩ := blank_before_skipBlanks cs
  suffices ∃ text, v.Spells text ∧ skipBlanks cs = text ++ rest by
    obtain ⟨text, spells, there⟩ := this
    exact ⟨before, text, left, spells, there ▸ parts⟩
  unfold readValue at h
  split at h
  next more there =>
    cases h
    exact ⟨_, .null, there⟩
  next more there =>
    cases h
    exact ⟨_, .ofTrue, there⟩
  next more there =>
    cases h
    exact ⟨_, .ofFalse, there⟩
  next more there =>
    obtain ⟨⟨s, behind⟩, read, same⟩ := Option.map_eq_some_iff.mp h
    cases same
    obtain ⟨text, spells, rfl⟩ := readString_spec read
    exact ⟨_, .string spells, by rw [there]; simp⟩
  next more there =>
    obtain ⟨blank, blanks, before⟩ := blank_before_skipBlanks more
    split at h
    next inner closing =>
      cases h
      exact ⟨_, .noItems blanks, by rw [there, before, closing]; simp⟩
    next =>
      obtain ⟨⟨items, behind⟩, read, same⟩ := Option.map_eq_some_iff.mp h
      cases same
      obtain ⟨text, spells, inner⟩ := spelled.items read
      exact ⟨_, .array (spells.pad blanks), by rw [there, before, inner]; simp⟩
  next more there =>
    obtain ⟨blank, blanks, before⟩ := blank_before_skipBlanks more
    split at h
    next inner closing =>
      cases h
      exact ⟨_, .noMembers blanks, by rw [there, before, closing]; simp⟩
    next =>
      obtain ⟨⟨members, behind⟩, read, same⟩ := Option.map_eq_some_iff.mp h
      cases same
      obtain ⟨text, spells, inner⟩ := spelled.members read
      exact ⟨_, .object (spells.pad blanks), by rw [there, before, inner]; simp⟩
  next =>
    obtain ⟨⟨token, behind⟩, read, same⟩ := Option.map_eq_some_iff.mp h
    cases same
    obtain ⟨numeral, there⟩ := readNumber_spec read
    exact ⟨token, .number numeral, there⟩

/-- A value that was read, with the blanks behind it. -/
theorem Spelled.padded {n : Nat} (spelled : Spelled n) {cs rest : List Char} {v : Value}
    (h : readValue n cs = some (v, rest)) :
    ∃ text, v.Padded text ∧ cs = text ++ skipBlanks rest := by
  obtain ⟨before, text, left, spells, rfl⟩ := spelled.value h
  obtain ⟨after, right, behind⟩ := blank_before_skipBlanks rest
  refine ⟨_, .mk left spells right, ?_⟩
  rw [List.append_assoc, List.append_assoc, ← behind]

theorem Spelled.items_succ {n : Nat} (spelled : Spelled n) {cs rest : List Char}
    {items : List Value} (h : readItems (n + 1) cs = some (items, rest)) :
    ∃ text, Value.Items items text ∧ cs = text ++ ']' :: rest := by
  rw [readItems] at h
  obtain ⟨⟨v, behind⟩, first, others⟩ := Option.bind_eq_some_iff.mp h
  obtain ⟨text, padded, there⟩ := spelled.padded first
  dsimp only at others
  split at others
  next more comma =>
    obtain ⟨⟨items, after⟩, read, same⟩ := Option.map_eq_some_iff.mp others
    cases same
    obtain ⟨inner, spells, rfl⟩ := spelled.items read
    exact ⟨_, .more padded spells, by rw [there, comma]; simp⟩
  next more closing =>
    cases others
    exact ⟨text, .one padded, by rw [there, closing]⟩
  next => cases others

theorem Spelled.members_succ {n : Nat} (spelled : Spelled n) {cs rest : List Char}
    {members : List (Spelling × Value)} (h : readMembers (n + 1) cs = some (members, rest)) :
    ∃ text, Value.Members members text ∧ cs = text ++ '\x7d' :: rest := by
  obtain ⟨before, left, parts⟩ := blank_before_skipBlanks cs
  rw [readMembers] at h
  split at h
  next opened quote =>
    obtain ⟨⟨k, behind⟩, name, h⟩ := Option.bind_eq_some_iff.mp h
    obtain ⟨text, named, opened⟩ := readString_spec name
    obtain ⟨after, right, between⟩ := blank_before_skipBlanks behind
    dsimp only at h
    split at h
    next value colon =>
      obtain ⟨⟨v, behind⟩, first, others⟩ := Option.bind_eq_some_iff.mp h
      obtain ⟨inner, valued, there⟩ := spelled.padded first
      have member : Value.Member (k, v) _ := .mk left named right valued
      have parts : cs = before ++ '"' :: (text ++ '"' :: (after ++ ':' :: inner)) ++
          skipBlanks behind := by
        rw [parts, quote, opened, between, colon, there]
        simp
      dsimp only at others
      split at others
      next more comma =>
        obtain ⟨⟨members, after⟩, read, same⟩ := Option.map_eq_some_iff.mp others
        cases same
        obtain ⟨text, spells, rfl⟩ := spelled.members read
        exact ⟨_, .more member spells, by rw [parts, comma]; simp⟩
      next more closing =>
        cases others
        exact ⟨_, .one member, by rw [parts, closing]⟩
      next => cases others
    next => cases h
  next => cases h

theorem spelled_within (n : Nat) : Spelled n := by
  induction n with
  | zero => exact ⟨nofun, nofun, nofun⟩
  | succ n ih => exact ⟨ih.value_succ, ih.items_succ, ih.members_succ⟩

/-- The reader reads exactly the texts of the grammar. -/
theorem ofText?_eq_some_iff {cs : List Char} {v : Value} : ofText? cs = some v ↔ v.Padded cs := by
  constructor
  · intro h
    obtain ⟨⟨w, rest⟩, read, whole⟩ := Option.bind_eq_some_iff.mp h
    dsimp only at whole
    split at whole
    next blank =>
      cases whole
      obtain ⟨text, padded, there⟩ := (spelled_within _).padded read
      rw [there, blank, List.append_nil]
      exact padded
    next => cases whole
  · intro h
    have ends : EndsNumeral [] := by simp [EndsNumeral]
    obtain ⟨after, blank, read⟩ := (reads_within (2 * cs.length + 2)).padded h
      (Nat.le_add_right _ _) ends
    rw [List.append_nil, List.append_nil] at read
    rw [ofText?, read]
    exact if_pos (skipBlanks_eq_nil_iff.mpr blank)

/-- A text has one value. -/
theorem Value.Padded.unique {v w : Value} {cs : List Char} (h : v.Padded cs) (other : w.Padded cs) :
    v = w :=
  Option.some.inj ((ofText?_eq_some_iff.mpr h).symm.trans (ofText?_eq_some_iff.mpr other))

/-- What stands behind a value makes no other value of it than a number. -/
theorem Value.Padded.blank_of_append {v w : Value} {cs tail : List Char} (h : v.Padded cs)
    (longer : w.Padded (cs ++ tail)) (other : ∀ token, w ≠ .number token) : Blank tail := by
  have read := ofText?_eq_some_iff.mpr longer
  obtain ⟨⟨x, rest⟩, first, whole⟩ := Option.bind_eq_some_iff.mp read
  obtain ⟨blank, same⟩ := Option.ite_none_right_eq_some.mp whole
  obtain rfl : x = w := Option.some.inj same
  obtain @⟨_, before, text, after, left, spells, right⟩ := h
  have parts : before ++ text ++ after ++ tail = before ++ (text ++ (after ++ tail)) := by
    simp only [List.append_assoc]
  rw [parts] at first
  by_cases number : ∃ token, v = .number token
  · obtain ⟨token, rfl⟩ := number
    cases spells with | number numeral =>
    have there : skipBlanks (before ++ (text ++ (after ++ tail))) = text ++ (after ++ tail) := by
      rw [skipBlanks_append left, skipBlanks_spells (.number numeral)]
    rw [readValue_of_numeral numeral _ there, Option.map_eq_some_iff] at first
    obtain ⟨r, -, same⟩ := first
    exact absurd (congrArg Prod.fst same).symm (other r.1)
  · have ends : v.EndsBefore (after ++ tail) := fun token is => absurd ⟨token, is⟩ number
    have enough : 2 * text.length ≤ 2 * (before ++ (text ++ (after ++ tail))).length + 2 := by
      simp only [List.length_append]
      omega
    rw [(reads_within _).value spells left enough ends, Option.some.injEq, Prod.mk.injEq] at first
    obtain ⟨rfl, rfl⟩ := first
    have all := skipBlanks_eq_nil_iff.mp blank
    exact fun c mem => all c (List.mem_append_right _ mem)

/-! ## Parts of what is spelled -/

/-- A value that has a text. -/
def Value.Spelled (v : Value) : Prop := ∃ text, v.Spells text

theorem Value.Padded.spelled {v : Value} {text : List Char} (h : v.Padded text) : v.Spelled := by
  obtain ⟨-, spells, -⟩ := h
  exact ⟨_, spells⟩

theorem Value.Items.spelled {items : List Value} {text : List Char} (h : Value.Items items text) :
    ∀ v ∈ items, v.Spelled := by
  induction items generalizing text with
  | nil => exact nofun
  | cons v items ih =>
    refine List.forall_mem_cons.mpr ?_
    cases h with
    | one last => exact ⟨last.spelled, nofun⟩
    | more first others => exact ⟨first.spelled, ih others⟩

theorem Value.Member.spelled {m : Spelling × Value} {text : List Char} (h : Value.Member m text) :
    (∃ name, m.1.Spells name) ∧ m.2.Spelled := by
  obtain ⟨-, named, -, valued⟩ := h
  exact ⟨⟨_, named⟩, valued.spelled⟩

theorem Value.Members.spelled {members : List (Spelling × Value)} {text : List Char}
    (h : Value.Members members text) :
    ∀ m ∈ members, (∃ name, m.1.Spells name) ∧ m.2.Spelled := by
  induction members generalizing text with
  | nil => exact nofun
  | cons m members ih =>
    refine List.forall_mem_cons.mpr ?_
    cases h with
    | one last => exact ⟨last.spelled, nofun⟩
    | more first others => exact ⟨first.spelled, ih others⟩

/-- The items of what is spelled are spelled. -/
theorem Value.Spelled.items {items : List Value} (h : Value.Spelled (.array items)) :
    ∀ v ∈ items, v.Spelled := by
  obtain ⟨_, spells⟩ := h
  cases spells with
  | noItems => exact nofun
  | array spells => exact spells.spelled

/-- The names and the values of what is spelled are spelled. -/
theorem Value.Spelled.members {members : List (Spelling × Value)}
    (h : Value.Spelled (.object members)) :
    ∀ m ∈ members, (∃ name, m.1.Spells name) ∧ m.2.Spelled := by
  obtain ⟨_, spells⟩ := h
  cases spells with
  | noMembers => exact nofun
  | object spells => exact spells.spelled

end NodeLink.Json
