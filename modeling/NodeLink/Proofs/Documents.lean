import NodeLink.Proofs.Numerals
import NodeLink.Proofs.Words

/-!
# Documents read back

What is printed is read back: values that nest no deeper than a reader goes, and the statements of a
whole text, of any number and in any order. This holds of all statements whose parts can be written,
whether or not they agree with one another about the tables that they make.

Every part is shown together with a text that follows it, which begins with a stop after a value,
and which is arbitrary after a statement, since a statement ends its line. The induction on values
is on the depth to which they nest; the values in an array or between braces are taken one after
the other, as the readers take them.
-/

set_option autoImplicit false

namespace NodeLink.Toml

open Number (Style)

/-! ## Values that can be written -/

/-- An integer of sixty-four bits, a moment that is one, or anything else. -/
def Scalar.WellFormed : Scalar → Prop
  | .integer n => -2 ^ 63 ≤ n ∧ n < 2 ^ 63
  | .moment spelling => readMoment spelling = some (spelling, [])
  | .string _ | .float _ | .boolean _ => True

/-- A value that nests no deeper than given, of scalars and keys that can be written. -/
def Value.WellFormed : Nat → Value → Prop
  | _, .scalar s => s.WellFormed
  | 0, .array _ | 0, .braces _ => False
  | depth + 1, .array items => ∀ v ∈ items, v.WellFormed depth
  | depth + 1, .braces pairs => ∀ e ∈ pairs, e.1.WellFormed ∧ e.2.WellFormed depth

/-- A statement of a key and a value that can be written. -/
def Statement.WellFormed : Statement → Prop
  | .pair key v => key.WellFormed ∧ v.WellFormed maxDepth
  | .header key | .element key => key.WellFormed

/-! ## Scalars -/

theorem ne_of_opensNumber {c d : Char} (h : opensNumber c = true) (other : opensNumber d = false) :
    c ≠ d := by
  rintro rfl
  rw [h] at other
  cases other

/-- What begins as a number does is a moment or a number. -/
theorem readScalar_of_opensNumber {c : Char} (opens : opensNumber c = true) (rest : List Char) :
    readScalar (c :: rest) =
      match readMoment (c :: rest) with
      | some (spelling, rest) => some (.moment spelling, rest)
      | none => readNumber (c :: rest) := by
  have unquoted : readString (c :: rest) = none := by
    unfold readString
    split
    next same => exact absurd (List.cons.inj same).1 (ne_of_opensNumber opens rfl)
    next same => exact absurd (List.cons.inj same).1 (ne_of_opensNumber opens rfl)
    next same => exact absurd (List.cons.inj same).1 (ne_of_opensNumber opens rfl)
    next same => exact absurd (List.cons.inj same).1 (ne_of_opensNumber opens rfl)
    next => rfl
  unfold readScalar
  split
  next same => exact absurd (List.cons.inj same).1 (ne_of_opensNumber opens rfl)
  next same => exact absurd (List.cons.inj same).1 (ne_of_opensNumber opens rfl)
  next =>
    cases readMoment (c :: rest) <;> simp only [unquoted]

/-- Characters that a value begins with. -/
def opensValue (c : Char) : Bool :=
  opensNumber c || c = 't' || c = 'f' || c = '"' || c = '[' || c = '\x7b'

theorem ne_of_opensValue {c d : Char} (h : opensValue c = true) (other : opensValue d = false) :
    c ≠ d := by
  rintro rfl
  rw [h] at other
  cases other

theorem opensValue_of_opensNumber {c : Char} (h : opensNumber c = true) : opensValue c = true := by
  simp [opensValue, h]

theorem moment_opens {spelling : List Char} (whole : readMoment spelling = some (spelling, [])) :
    ∃ c more, spelling = c :: more ∧ opensNumber c = true := by
  obtain ⟨c, more, begins, digit⟩ := (marked_of_readMoment whole).begins
  exact ⟨c, more, begins, by simp [opensNumber, digit]⟩

theorem readScalar_append {s : Scalar} (fits : s.WellFormed) {tail : List Char}
    (stop : Stops tail) : readScalar (s.text ++ tail) = some (s, tail) := by
  cases s with
  | string s =>
    have read := readString_append s.toList stop
    rw [quotedText_append] at read
    rw [Scalar.text, quotedText_append, readScalar, read]
    · simp only [String.ofList_toList]
    · exact fun _ same => absurd (List.cons.inj same).1 (by decide)
    · exact fun _ same => absurd (List.cons.inj same).1 (by decide)
  | integer n =>
    obtain ⟨c, more, begins, opens⟩ := integerText_opens n tail
    have none := readMoment_integerText n stop
    have read := readNumber_integerText fits.1 fits.2 stop
    rw [Scalar.text, begins] at *
    rw [readScalar_of_opensNumber opens, none]
    exact read
  | float x =>
    obtain ⟨c, more, begins, opens⟩ := write_opens x tail
    have none := readMoment_write x stop
    have read := readNumber_write x stop
    rw [Scalar.text, begins] at *
    rw [readScalar_of_opensNumber opens, none]
    exact read
  | boolean b => cases b <;> rfl
  | moment spelling =>
    obtain ⟨c, more, rfl, opens⟩ := moment_opens fits
    have read := readMoment_append stop fits
    rw [Scalar.text, List.cons_append] at *
    rw [readScalar_of_opensNumber opens, read]

theorem Scalar.text_begins {s : Scalar} (fits : s.WellFormed) :
    ∃ c more, s.text = c :: more ∧ opensValue c = true ∧ c ≠ '[' ∧ c ≠ '\x7b' := by
  have number : ∀ {c : Char}, opensNumber c = true →
      opensValue c = true ∧ c ≠ '[' ∧ c ≠ '\x7b' := fun opens =>
    ⟨opensValue_of_opensNumber opens, ne_of_opensNumber opens rfl, ne_of_opensNumber opens rfl⟩
  cases s with
  | string s => exact ⟨'"', _, rfl, rfl, by decide, by decide⟩
  | integer n =>
    obtain ⟨c, more, begins, opens⟩ := integerText_opens n []
    rw [List.append_nil] at begins
    exact ⟨c, more, begins, number opens⟩
  | float x =>
    obtain ⟨c, more, begins, opens⟩ := write_opens x []
    rw [List.append_nil] at begins
    exact ⟨c, more, begins, number opens⟩
  | boolean b => cases b <;> exact ⟨_, _, rfl, rfl, by decide, by decide⟩
  | moment spelling =>
    obtain ⟨c, more, begins, opens⟩ := moment_opens fits
    exact ⟨c, more, begins, number opens⟩

/-! ## Items and pairs -/

theorem Value.text_begins {depth : Nat} {v : Value} (fits : v.WellFormed depth) :
    ∃ c more, v.text = c :: more ∧ opensValue c = true := by
  cases v with
  | scalar s =>
    have fits : s.WellFormed := by cases depth <;> exact fits
    obtain ⟨c, more, begins, opens, -⟩ := s.text_begins fits
    exact ⟨c, more, by rw [Value.text, begins], opens⟩
  | array items => exact ⟨'[', itemsText items ++ [']'], by rw [Value.text, List.cons_append], rfl⟩
  | braces pairs =>
    exact ⟨'\x7b', pairsText pairs ++ ['\x7d'], by rw [Value.text, List.cons_append], rfl⟩

theorem skipLines_stays {c : Char} (space : c ≠ '\n' ∧ c ≠ '\r' ∧ isBlank c = false ∧ c ≠ '#')
    (rest : List Char) : skipLines false (c :: rest) = c :: rest := by
  obtain ⟨line, feed, blank, comment⟩ := space
  unfold skipLines
  split
  next same => exact absurd (List.cons.inj same).1 line
  next same => exact absurd (List.cons.inj same).1 feed
  next same =>
    obtain ⟨rfl, rfl⟩ := List.cons.inj same
    simp [blank, comment]
  next same => cases same

theorem skipLines_of_opensValue {c : Char} (opens : opensValue c = true) (rest : List Char) :
    skipLines false (c :: rest) = c :: rest := by
  refine skipLines_stays ⟨ne_of_opensValue opens rfl, ne_of_opensValue opens rfl, ?_,
    ne_of_opensValue opens rfl⟩ rest
  simp [isBlank, ne_of_opensValue opens (d := ' ') rfl, ne_of_opensValue opens (d := '\t') rfl]

theorem skipBlanks_of_opensValue {c : Char} (opens : opensValue c = true) (rest : List Char) :
    skipBlanks (c :: rest) = c :: rest := by
  refine skipBlanks_of_not ?_ rest
  simp [isBlank, ne_of_opensValue opens (d := ' ') rfl, ne_of_opensValue opens (d := '\t') rfl]

/-- A value that a reader reads back before any stop. -/
structure ReadBack (read : List Char → Option (Value × List Char)) (v : Value) : Prop where
  reads : ∀ {tail}, Stops tail → read (v.text ++ tail) = some (v, tail)
  opens : ∃ c more, v.text = c :: more ∧ opensValue c = true

section Parts

variable {read : List Char → Option (Value × List Char)}

theorem readItems_of_ne {c : Char} (item : c ≠ ']') (n : Nat) {cs more : List Char}
    (there : skipLines false cs = c :: more) :
    readItems read (n + 1) cs = (do
      let (v, rest) ← read (c :: more)
      match skipLines false rest with
      | ']' :: rest => return ([v], rest)
      | ',' :: rest => do
        let (vs, rest) ← readItems read n rest
        return (v :: vs, rest)
      | _ => none) := by
  rw [readItems, there]
  split
  next same => exact absurd (List.cons.inj same).1 item
  next => rfl

theorem itemsText_cons (v w : Value) (items : List Value) :
    itemsText (v :: w :: items) = v.text ++ ',' :: ' ' :: itemsText (w :: items) := rfl

theorem itemsText_begins {v : Value} (opens : ∃ c more, v.text = c :: more ∧ opensValue c = true)
    (items : List Value) : ∃ c more, itemsText (v :: items) = c :: more ∧ opensValue c = true := by
  obtain ⟨c, more, begins, opens⟩ := opens
  cases items with
  | nil => exact ⟨c, more, by rw [itemsText, begins], opens⟩
  | cons w items =>
    exact ⟨c, more ++ ',' :: ' ' :: itemsText (w :: items),
      by rw [itemsText_cons, begins, List.cons_append], opens⟩

/-- Items are read back up to the closing bracket, also from behind blanks. -/
theorem readItems_append {items : List Value} (reads : ∀ v ∈ items, ReadBack read v) {n : Nat}
    (enough : items.length < n) {cs rest : List Char}
    (there : skipLines false cs = itemsText items ++ ']' :: rest) :
    readItems read n cs = some (items, rest) := by
  induction items generalizing n cs with
  | nil =>
    obtain ⟨n, rfl⟩ := Nat.exists_eq_succ_of_ne_zero (Nat.ne_of_gt enough)
    rw [readItems, there]
    rfl
  | cons v items ih =>
    obtain ⟨n, rfl⟩ := Nat.exists_eq_succ_of_ne_zero (Nat.ne_of_gt (Nat.zero_lt_of_lt enough))
    have back := reads v List.mem_cons_self
    obtain ⟨c, more, begins, opens⟩ := back.opens
    have item : c ≠ ']' := ne_of_opensValue opens rfl
    cases items with
    | nil =>
      have first := back.reads (stops_cons (c := ']') rest rfl)
      rw [itemsText, begins, List.cons_append] at there
      rw [begins, List.cons_append] at first
      rw [readItems_of_ne item n there, first]
      rfl
    | cons w items =>
      have others := fun u mem => reads u (List.mem_cons_of_mem v mem)
      have first := back.reads
        (stops_cons (c := ',') (' ' :: (itemsText (w :: items) ++ ']' :: rest)) rfl)
      have behind : skipLines false (' ' :: (itemsText (w :: items) ++ ']' :: rest)) =
          itemsText (w :: items) ++ ']' :: rest := by
        obtain ⟨d, after, next, opens⟩ := itemsText_begins (others w List.mem_cons_self).opens items
        rw [next]
        exact skipLines_of_opensValue opens _
      rw [itemsText_cons, List.append_assoc, List.cons_append, List.cons_append, begins,
        List.cons_append] at there
      rw [begins, List.cons_append] at first
      rw [readItems_of_ne item n there, first]
      simp only [Option.bind_eq_bind, Option.bind_some, skipLines_stays (c := ',') (by decide),
        ih others (Nat.lt_of_succ_lt_succ enough) behind, Option.pure_def]

/-- A pair in a text of pairs. -/
def pairText (e : Key × Value) : List Char := e.1.text ++ ' ' :: '=' :: ' ' :: e.2.text

theorem pairsText_single (e : Key × Value) : pairsText [e] = pairText e := rfl

theorem pairsText_cons (e f : Key × Value) (pairs : List (Key × Value)) :
    pairsText (e :: f :: pairs) = pairText e ++ ',' :: ' ' :: pairsText (f :: pairs) := by
  obtain ⟨k, v⟩ := e
  rfl

theorem pairsText_begins (e : Key × Value) (pairs : List (Key × Value)) :
    ∃ c more, pairsText (e :: pairs) = c :: more ∧ (isBare c = true ∨ c = '"') := by
  obtain ⟨c, more, begins, opens⟩ := e.1.text_begins
  cases pairs with
  | nil => exact ⟨c, _, by rw [pairsText_single, pairText, begins, List.cons_append], opens⟩
  | cons f pairs =>
    exact ⟨c, _, by rw [pairsText_cons, pairText, begins, List.cons_append, List.cons_append],
      opens⟩

theorem readPairs_blank (n : Nat) (cs : List Char) :
    readPairs read n (' ' :: cs) = readPairs read n cs := by
  cases n <;> rfl

theorem readKey_pairText {e : Key × Value} (fits : e.1.WellFormed) (tail : List Char) :
    readKey (pairText e ++ tail) = some (e.1, '=' :: ' ' :: (e.2.text ++ tail)) := by
  have leaves : Leaves (' ' :: '=' :: ' ' :: (e.2.text ++ tail)) :=
    ⟨parts_cons _ rfl, fun rest same => by cases same⟩
  rw [pairText, List.append_assoc]
  exact readKey_append fits leaves

theorem ReadBack.behind_blank {v : Value} (back : ReadBack read v) {tail : List Char}
    (stop : Stops tail) : read (skipBlanks (' ' :: (v.text ++ tail))) = some (v, tail) := by
  obtain ⟨c, more, begins, opens⟩ := back.opens
  have stays : skipBlanks (' ' :: (v.text ++ tail)) = v.text ++ tail := by
    rw [begins]
    exact skipBlanks_of_opensValue opens _
  rw [stays]
  exact back.reads stop

theorem readPairs_pairText {e : Key × Value} (fits : e.1.WellFormed) (back : ReadBack read e.2)
    (n : Nat) {tail : List Char} (stop : Stops tail) :
    readPairs read (n + 1) (pairText e ++ tail) =
      match skipBlanks tail with
      | '\x7d' :: rest => some ([e], rest)
      | ',' :: rest => (readPairs read n rest).map fun r => (e :: r.1, r.2)
      | _ => none := by
  rw [readPairs, readKey_pairText fits]
  simp only [Option.bind_eq_bind, Option.bind_some, back.behind_blank stop, Option.map_eq_bind]
  rfl

/-- Pairs are read back up to the closing brace. -/
theorem readPairs_append {e : Key × Value} {pairs : List (Key × Value)}
    (reads : ∀ f ∈ e :: pairs, f.1.WellFormed ∧ ReadBack read f.2) {n : Nat}
    (enough : pairs.length < n) (rest : List Char) :
    readPairs read n (pairsText (e :: pairs) ++ '\x7d' :: rest) = some (e :: pairs, rest) := by
  induction pairs generalizing e n with
  | nil =>
    obtain ⟨n, rfl⟩ := Nat.exists_eq_succ_of_ne_zero (Nat.ne_of_gt enough)
    obtain ⟨fits, back⟩ := reads e List.mem_cons_self
    rw [pairsText_single, readPairs_pairText fits back n (stops_cons rest rfl)]
    rfl
  | cons f pairs ih =>
    obtain ⟨n, rfl⟩ := Nat.exists_eq_succ_of_ne_zero (Nat.ne_of_gt (Nat.zero_lt_of_lt enough))
    obtain ⟨fits, back⟩ := reads e List.mem_cons_self
    have others := ih (fun g mem => reads g (List.mem_cons_of_mem e mem))
      (Nat.lt_of_succ_lt_succ enough)
    rw [pairsText_cons, List.append_assoc, List.cons_append, List.cons_append,
      readPairs_pairText fits back n (stops_cons _ rfl), skipBlanks_of_not (c := ',') rfl]
    simp only [readPairs_blank, others, Option.map_some]

end Parts

/-! ## Lengths -/

theorem length_le_itemsText {items : List Value} (opens : ∀ v ∈ items, v.text ≠ []) :
    items.length ≤ (itemsText items).length := by
  induction items with
  | nil => exact Nat.le_refl 0
  | cons v items ih =>
    have first := List.length_pos_iff.mpr (opens v List.mem_cons_self)
    have others := ih fun w mem => opens w (List.mem_cons_of_mem v mem)
    cases items with
    | nil =>
      rw [itemsText]
      exact first
    | cons w items =>
      rw [itemsText_cons, List.length_append, List.length_cons, List.length_cons]
      simp only [List.length_cons] at others ⊢
      omega

theorem length_le_pairsText (pairs : List (Key × Value)) :
    pairs.length ≤ (pairsText pairs).length := by
  induction pairs with
  | nil => exact Nat.le_refl 0
  | cons e pairs ih =>
    have first : 0 < (pairText e).length := by simp [pairText]
    cases pairs with
    | nil =>
      rw [pairsText_single]
      exact first
    | cons f pairs =>
      rw [pairsText_cons, List.length_append, List.length_cons, List.length_cons]
      simp only [List.length_cons] at ih ⊢
      omega

theorem ne_of_name {c d : Char} (h : isBare c = true ∨ c = '"')
    (other : isBare d = false ∧ d ≠ '"') : c ≠ d := by
  rintro rfl
  rcases h with bare | quote
  · rw [other.1] at bare
    cases bare
  · exact other.2 quote

/-! ## Values -/

theorem readValue_scalar {s : Scalar} (fits : s.WellFormed) (depth : Nat) {tail : List Char}
    (stop : Stops tail) :
    readValue depth ((Value.scalar s).text ++ tail) = some (.scalar s, tail) := by
  have read := readScalar_append fits stop
  cases depth with
  | zero =>
    rw [readValue, Value.text, read]
    rfl
  | succ depth =>
    obtain ⟨c, more, begins, -, bracket, brace⟩ := s.text_begins fits
    rw [begins, List.cons_append] at read
    rw [Value.text, begins, List.cons_append, readValue, read]
    · rfl
    · exact fun _ same => bracket (List.cons.inj same).1
    · exact fun _ same => brace (List.cons.inj same).1

theorem readValue_array {depth : Nat} {items : List Value}
    (reads : ∀ v ∈ items, ReadBack (readValue depth) v) (tail : List Char) :
    readValue (depth + 1) ((Value.array items).text ++ tail) = some (.array items, tail) := by
  have few := length_le_itemsText fun v mem => by
    obtain ⟨c, more, begins, -⟩ := (reads v mem).opens
    rw [begins]
    exact List.cons_ne_nil c more
  have enough : items.length < (itemsText items ++ ']' :: tail).length + 1 := by
    rw [List.length_append]
    omega
  have there : skipLines false (itemsText items ++ ']' :: tail) =
      itemsText items ++ ']' :: tail := by
    cases items with
    | nil => exact skipLines_stays (by decide) tail
    | cons v items =>
      obtain ⟨c, more, begins, opens⟩ := itemsText_begins (reads v List.mem_cons_self).opens items
      rw [begins]
      exact skipLines_of_opensValue opens _
  have text : (Value.array items).text ++ tail = '[' :: (itemsText items ++ ']' :: tail) := by
    rw [Value.text, List.append_assoc]
    rfl
  rw [text, readValue, readItems_append reads enough there]
  rfl

theorem readValue_braces {depth : Nat} {pairs : List (Key × Value)}
    (reads : ∀ e ∈ pairs, e.1.WellFormed ∧ ReadBack (readValue depth) e.2) (tail : List Char) :
    readValue (depth + 1) ((Value.braces pairs).text ++ tail) = some (.braces pairs, tail) := by
  have text : (Value.braces pairs).text ++ tail =
      '\x7b' :: (pairsText pairs ++ '\x7d' :: tail) := by
    rw [Value.text, List.append_assoc]
    rfl
  rw [text, readValue]
  cases pairs with
  | nil => rfl
  | cons e pairs =>
    have few := length_le_pairsText (e :: pairs)
    have enough : pairs.length < (pairsText (e :: pairs) ++ '\x7d' :: tail).length + 1 := by
      rw [List.length_append]
      simp only [List.length_cons] at few ⊢
      omega
    obtain ⟨c, more, begins, name⟩ := pairsText_begins e pairs
    have stays : skipBlanks (pairsText (e :: pairs) ++ '\x7d' :: tail) =
        pairsText (e :: pairs) ++ '\x7d' :: tail := by
      rw [begins]
      exact skipBlanks_of_not (not_isBlank_of_name name) _
    rw [stays]
    split
    next same =>
      rw [begins] at same
      exact absurd (List.cons.inj same).1 (ne_of_name name (by decide))
    next =>
      rw [readPairs_append reads enough]
      rfl

/-- A value is read back if it nests no deeper than the reader goes. -/
theorem readBack_value {depth : Nat} {v : Value} (fits : v.WellFormed depth) :
    ReadBack (readValue depth) v := by
  refine ⟨fun {tail} stop => ?_, v.text_begins fits⟩
  induction depth generalizing v tail with
  | zero =>
    cases v with
    | scalar s => exact readValue_scalar fits 0 stop
    | array items => cases fits
    | braces pairs => cases fits
  | succ depth ih =>
    have back {w : Value} (fits : w.WellFormed depth) : ReadBack (readValue depth) w :=
      ⟨fun stop => ih fits stop, w.text_begins fits⟩
    cases v with
    | scalar s => exact readValue_scalar fits (depth + 1) stop
    | array items => exact readValue_array (fun v mem => back (fits v mem)) tail
    | braces pairs =>
      exact readValue_braces (fun e mem => ⟨(fits e mem).1, back (fits e mem).2⟩) tail

/-! ## Statements -/

theorem skipLines_of_name {c : Char} (h : isBare c = true ∨ c = '"') (rest : List Char) :
    skipLines false (c :: rest) = c :: rest :=
  skipLines_stays ⟨ne_of_name h (by decide), ne_of_name h (by decide), not_isBlank_of_name h,
    ne_of_name h (by decide)⟩ rest

theorem leaves_bracket (rest : List Char) : Leaves (']' :: rest) :=
  ⟨parts_cons rest rfl, fun _ same => by cases same⟩

theorem readStatement_pair {key : Key} {v : Value} (fits : (Statement.pair key v).WellFormed)
    {c : Char} {more rest : List Char} (split : pairText (key, v) ++ '\n' :: rest = c :: more)
    (name : isBare c = true ∨ c = '"') :
    readStatement (c :: more) = some (.pair key v, '\n' :: rest) := by
  have bracket : c ≠ '[' := ne_of_name name (by decide)
  have value := (readBack_value fits.2).behind_blank (stops_cons (c := '\n') rest rfl)
  rw [readStatement]
  · rw [← split, readKey_pairText fits.1]
    simp only [Option.bind_eq_bind, Option.bind_some, value, Option.pure_def]
  · exact fun _ same => bracket (List.cons.inj same).1
  · exact fun _ same => bracket (List.cons.inj same).1

theorem readStatement_header {key : Key} (fits : key.WellFormed) (rest : List Char) :
    readStatement ('[' :: (key.text ++ ']' :: rest)) = some (.header key, rest) := by
  obtain ⟨c, more, begins, name⟩ := key.text_begins
  rw [readStatement]
  · rw [readKey_append fits (leaves_bracket _), skipBlanks_of_not (c := ']') rfl]
    rfl
  · rw [begins]
    exact fun _ same => ne_of_name name (by decide) (List.cons.inj same).1

theorem readStatement_element {key : Key} (fits : key.WellFormed) (rest : List Char) :
    readStatement ('[' :: '[' :: (key.text ++ ']' :: ']' :: rest)) = some (.element key, rest) := by
  rw [readStatement, readKey_append fits (leaves_bracket _), skipBlanks_of_not (c := ']') rfl]
  rfl

/-- A statement is found behind the space before it, and is read up to the end of its line. -/
theorem readStatement_text {s : Statement} (fits : s.WellFormed) (rest : List Char) :
    ∃ c more, skipLines false (s.text ++ rest) = c :: more ∧
      readStatement (c :: more) = some (s, '\n' :: rest) := by
  cases s with
  | pair key v =>
    obtain ⟨c, more, begins, name⟩ := key.text_begins
    have text : (Statement.pair key v).text ++ rest = pairText (key, v) ++ '\n' :: rest := by
      rw [Statement.text, List.append_assoc]
      rfl
    obtain ⟨after, split⟩ : ∃ after, pairText (key, v) ++ '\n' :: rest = c :: after :=
      ⟨_, by rw [pairText, begins, List.cons_append, List.cons_append]⟩
    refine ⟨c, after, ?_, readStatement_pair fits split name⟩
    rw [text, split]
    exact skipLines_of_name name after
  | header key =>
    have text : (Statement.header key).text ++ rest =
        '\n' :: '[' :: (key.text ++ ']' :: '\n' :: rest) := by
      rw [Statement.text, List.append_assoc]
      rfl
    refine ⟨'[', key.text ++ ']' :: '\n' :: rest, ?_, readStatement_header fits _⟩
    rw [text]
    exact skipLines_stays (c := '[') (by decide) _
  | element key =>
    have text : (Statement.element key).text ++ rest =
        '\n' :: '[' :: '[' :: (key.text ++ ']' :: ']' :: '\n' :: rest) := by
      rw [Statement.text, List.append_assoc]
      rfl
    refine ⟨'[', '[' :: (key.text ++ ']' :: ']' :: '\n' :: rest), ?_, readStatement_element fits _⟩
    rw [text]
    exact skipLines_stays (c := '[') (by decide) _

/-- Statements that agree with one another or not: what is printed is read back. -/
theorem readStatements_text {statements : List Statement}
    (fits : ∀ s ∈ statements, s.WellFormed) {n : Nat} (enough : statements.length < n) :
    readStatements n (text statements) = some statements := by
  induction statements generalizing n with
  | nil =>
    obtain ⟨n, rfl⟩ := Nat.exists_eq_succ_of_ne_zero (Nat.ne_of_gt enough)
    rfl
  | cons s statements ih =>
    obtain ⟨n, rfl⟩ := Nat.exists_eq_succ_of_ne_zero (Nat.ne_of_gt (Nat.zero_lt_of_lt enough))
    obtain ⟨c, more, there, read⟩ :=
      readStatement_text (fits s List.mem_cons_self) (text statements)
    have others := ih (fun t mem => fits t (List.mem_cons_of_mem s mem))
      (Nat.lt_of_succ_lt_succ enough)
    have line : endLine? ('\n' :: text statements) = some (text statements) := rfl
    have split : text (s :: statements) = s.text ++ text statements := List.flatMap_cons
    rw [split, readStatements, there]
    simp only [read, Option.bind_eq_bind, Option.bind_some, line, others, Option.pure_def]

theorem length_le_text (statements : List Statement) :
    statements.length ≤ (text statements).length := by
  induction statements with
  | nil => exact Nat.le_refl 0
  | cons s statements ih =>
    have first : 0 < s.text.length := by cases s <;> simp [Statement.text]
    rw [text, List.flatMap_cons, List.length_append, List.length_cons]
    rw [text] at ih
    omega

/-- No statement begins with a byte order mark. -/
theorem skipMark_text (statements : List Statement) :
    skipMark (text statements) = text statements := by
  unfold skipMark
  split
  next rest same =>
    exfalso
    cases statements with
    | nil => cases same
    | cons s statements =>
      rw [text, List.flatMap_cons] at same
      cases s with
      | pair key v =>
        obtain ⟨c, more, begins, name⟩ := key.text_begins
        rw [Statement.text, begins] at same
        exact ne_of_name name (by decide) (List.cons.inj same).1
      | header key => cases (List.cons.inj same).1
      | element key => cases (List.cons.inj same).1
  next => rfl

/-- What is printed is read back. -/
theorem ofText?_text {statements : List Statement} (fits : ∀ s ∈ statements, s.WellFormed) :
    ofText? (text statements) = some statements := by
  rw [ofText?, skipMark_text]
  exact readStatements_text fits (Nat.lt_succ_of_le (length_le_text statements))

end NodeLink.Toml
