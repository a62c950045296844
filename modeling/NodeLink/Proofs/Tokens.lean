import Mathlib.Data.List.TakeWhile
import NodeLink.Json.Reader
import NodeLink.Proofs.Digits

/-!
# The tokens of JSON

Which texts are blanks, numbers and strings is said here by rules of their own, and the readers of
these parts are shown to keep to them in both directions: what the rules allow is read up to its
end, if what follows cannot be taken for more of it, and what is read is allowed by the rules. A
string has its meaning by the rules of UTF-16: each of its characters stands for itself, or is
given by its number, or by the two numbers of its surrogate pair.
-/

set_option autoImplicit false

namespace NodeLink.Json

open Number (digit?)

/-! ## Blanks and digits -/

/-- Nothing but blanks. -/
def Blank (cs : List Char) : Prop := ∀ c ∈ cs, isBlank c = true

/-- One digit or more. -/
def Digits (cs : List Char) : Prop := cs ≠ [] ∧ ∀ c ∈ cs, c.isDigit = true

/-- A text that digits cannot run on into. -/
def EndsDigits (cs : List Char) : Prop := ∀ c ∈ cs.head?, c.isDigit = false

theorem blank_nil : Blank [] := by simp [Blank]

theorem blank_append {cs ds : List Char} (left : Blank cs) (right : Blank ds) :
    Blank (cs ++ ds) := fun c mem => (List.mem_append.mp mem).elim (left c) (right c)

theorem skipBlanks_append {blank : List Char} (h : Blank blank) (cs : List Char) :
    skipBlanks (blank ++ cs) = skipBlanks cs := List.dropWhile_append_of_pos h

theorem skipBlanks_skipBlanks (cs : List Char) : skipBlanks (skipBlanks cs) = skipBlanks cs := by
  induction cs with
  | nil => rfl
  | cons c cs ih =>
    cases h : isBlank c with
    | true => simpa [skipBlanks, h] using ih
    | false => simp [skipBlanks, h]

theorem skipBlanks_of_not {c : Char} (other : isBlank c = false) (rest : List Char) :
    skipBlanks (c :: rest) = c :: rest :=
  List.dropWhile_cons_of_neg (by simp [other])

/-- What is skipped is blank. -/
theorem blank_before_skipBlanks (cs : List Char) :
    ∃ blank, Blank blank ∧ cs = blank ++ skipBlanks cs :=
  ⟨cs.takeWhile isBlank, fun _ mem => List.mem_takeWhile_imp mem,
    (List.takeWhile_append_dropWhile ..).symm⟩

theorem skipBlanks_eq_nil_iff {cs : List Char} : skipBlanks cs = [] ↔ Blank cs :=
  List.dropWhile_eq_nil_iff

theorem spanDigits_append {ds : List Char} (digits : ∀ c ∈ ds, c.isDigit = true)
    {tail : List Char} (ends : EndsDigits tail) : spanDigits (ds ++ tail) = (ds, tail) := by
  have stays : tail.takeWhile Char.isDigit = [] ∧ tail.dropWhile Char.isDigit = tail := by
    cases tail with
    | nil => exact ⟨rfl, rfl⟩
    | cons c rest =>
      have other : ¬ c.isDigit = true := by simp [ends c rfl]
      exact ⟨List.takeWhile_cons_of_neg other, List.dropWhile_cons_of_neg other⟩
  rw [spanDigits, List.takeWhile_append_of_pos digits, List.dropWhile_append_of_pos digits,
    stays.1, stays.2, List.append_nil]

theorem spanDigits_spec (cs : List Char) :
    cs = (spanDigits cs).1 ++ (spanDigits cs).2 ∧ ∀ c ∈ (spanDigits cs).1, c.isDigit = true :=
  ⟨(List.takeWhile_append_dropWhile ..).symm, fun _ mem => List.mem_takeWhile_imp mem⟩

/-! ## Numbers -/

/-- Nought, or digits that do not begin with it. -/
inductive Whole : List Char → Prop
  | nought : Whole ['0']
  | digits {ds : List Char} (digits : Digits ds) (first : ds.head? ≠ some '0') : Whole ds

/-- Nothing, or digits behind a point. -/
inductive Fraction : List Char → Prop
  | absent : Fraction []
  | digits {ds : List Char} (digits : Digits ds) : Fraction ('.' :: ds)

/-- Nothing, or digits behind a letter and perhaps a sign. -/
inductive Exponent : List Char → Prop
  | absent : Exponent []
  | digits {letter : Char} {sign ds : List Char} (marked : letter = 'e' ∨ letter = 'E')
      (signed : sign = [] ∨ sign = ['+'] ∨ sign = ['-']) (digits : Digits ds) :
      Exponent (letter :: sign ++ ds)

/-- The token of a number. -/
inductive Numeral : List Char → Prop
  | parts {sign whole fraction exponent : List Char} (signed : sign = [] ∨ sign = ['-'])
      (first : Whole whole) (second : Fraction fraction) (third : Exponent exponent) :
      Numeral (sign ++ whole ++ fraction ++ exponent)

/-- A text that a number cannot run on into. -/
def EndsNumeral (cs : List Char) : Prop :=
  ∀ c ∈ cs.head?, c.isDigit = false ∧ c ≠ '.' ∧ c ≠ 'e' ∧ c ≠ 'E'

theorem Whole.digits_all {ds : List Char} (whole : Whole ds) : Digits ds := by
  cases whole with
  | nought => exact ⟨List.cons_ne_nil _ _, by simp⟩
  | digits digits _ => exact digits

theorem readWhole_append {whole tail : List Char} (h : Whole whole) (ends : EndsDigits tail) :
    readWhole (whole ++ tail) = some (whole, tail) := by
  cases h with
  | nought =>
    have other : (tail.head?.map Char.isDigit).getD false = false := by
      cases tail with
      | nil => rfl
      | cons c rest => exact ends c rfl
    simp only [List.cons_append, List.nil_append, readWhole, other]
    rfl
  | digits digits first =>
    unfold readWhole
    split
    next rest same =>
      obtain ⟨c, more, rfl⟩ := List.exists_cons_of_ne_nil digits.1
      exact absurd (congrArg some (List.cons.inj same).1) first
    next => simp only [spanDigits_append digits.2 ends, if_neg digits.1]

theorem readWhole_spec {cs whole rest : List Char} (h : readWhole cs = some (whole, rest)) :
    Whole whole ∧ cs = whole ++ rest := by
  unfold readWhole at h
  split at h
  next more =>
    split at h
    · cases h
    · cases h
      exact ⟨.nought, rfl⟩
  next other =>
    obtain ⟨parts, digits⟩ := spanDigits_spec cs
    dsimp only at h
    split at h
    · cases h
    next nonempty =>
      obtain ⟨rfl, rfl⟩ := Prod.mk.inj (Option.some.inj h)
      refine ⟨.digits ⟨nonempty, digits⟩ fun first => ?_, parts⟩
      obtain ⟨more, begins⟩ := List.head?_eq_some_iff.mp first
      rw [begins] at parts
      exact other _ parts

theorem readFraction_append {fraction tail : List Char} (h : Fraction fraction)
    (ends : EndsDigits tail) (point : tail.head? ≠ some '.') :
    readFraction (fraction ++ tail) = some (fraction, tail) := by
  cases h with
  | absent =>
    unfold readFraction
    split
    next same => exact absurd (congrArg List.head? same) point
    next => rfl
  | digits digits =>
    simp only [List.cons_append, readFraction, spanDigits_append digits.2 ends, if_neg digits.1]

theorem readFraction_spec {cs fraction rest : List Char}
    (h : readFraction cs = some (fraction, rest)) : Fraction fraction ∧ cs = fraction ++ rest := by
  unfold readFraction at h
  split at h
  next more =>
    obtain ⟨parts, digits⟩ := spanDigits_spec more
    dsimp only at h
    split at h
    · cases h
    next nonempty =>
      obtain ⟨rfl, rfl⟩ := Prod.mk.inj (Option.some.inj h)
      exact ⟨.digits ⟨nonempty, digits⟩, congrArg _ parts⟩
  next =>
    cases h
    exact ⟨.absent, rfl⟩

/-- An exponent begins behind its letter with a sign or a digit. -/
theorem readExponent_marked {letter : Char} (marked : letter = 'e' ∨ letter = 'E')
    {sign cs : List Char} (signed : sign = [] ∧ (∀ rest, cs ≠ '+' :: rest ∧ cs ≠ '-' :: rest) ∨
      sign = ['+'] ∨ sign = ['-']) :
    readExponent (letter :: (sign ++ cs)) =
      if (spanDigits cs).1 = [] then none
      else some (letter :: sign ++ (spanDigits cs).1, (spanDigits cs).2) := by
  rcases signed with ⟨rfl, unsigned⟩ | rfl | rfl
  · rw [List.nil_append, readExponent, if_pos marked]
    case x_1 => exact fun rest same => (unsigned rest).1 same
    case x_2 => exact fun rest same => (unsigned rest).2 same
  · exact if_pos marked
  · exact if_pos marked

theorem readExponent_append {exponent tail : List Char} (h : Exponent exponent)
    (ends : EndsNumeral tail) : readExponent (exponent ++ tail) = some (exponent, tail) := by
  cases h with
  | absent =>
    cases tail with
    | nil => rfl
    | cons c rest =>
      obtain ⟨-, -, small, large⟩ := ends c rfl
      simp [readExponent, small, large]
  | @digits letter sign ds marked signed digits =>
    have read := spanDigits_append digits.2 fun c mem => (ends c mem).1
    have unsigned : ∀ rest, ds ++ tail ≠ '+' :: rest ∧ ds ++ tail ≠ '-' :: rest := by
      obtain ⟨c, more, rfl⟩ := List.exists_cons_of_ne_nil digits.1
      have digit := digits.2 c List.mem_cons_self
      refine fun rest => ⟨fun same => ?_, fun same => ?_⟩ <;>
      · rw [(List.cons.inj same).1] at digit
        cases digit
    rw [List.cons_append, List.cons_append, List.append_assoc,
      readExponent_marked marked (signed.imp_left fun none => ⟨none, unsigned⟩), read,
      if_neg digits.1, List.cons_append]

theorem readExponent_spec {cs exponent rest : List Char}
    (h : readExponent cs = some (exponent, rest)) : Exponent exponent ∧ cs = exponent ++ rest := by
  cases cs with
  | nil =>
    cases h
    exact ⟨.absent, rfl⟩
  | cons letter more =>
    by_cases marked : letter = 'e' ∨ letter = 'E'
    · obtain ⟨sign, cs, signed, rfl⟩ : ∃ sign cs,
          (sign = [] ∧ (∀ rest, cs ≠ '+' :: rest ∧ cs ≠ '-' :: rest) ∨ sign = ['+'] ∨
            sign = ['-']) ∧ more = sign ++ cs := by
        by_cases plus : ∃ rest, more = '+' :: rest
        · obtain ⟨rest, rfl⟩ := plus
          exact ⟨['+'], rest, .inr (.inl rfl), rfl⟩
        · by_cases minus : ∃ rest, more = '-' :: rest
          · obtain ⟨rest, rfl⟩ := minus
            exact ⟨['-'], rest, .inr (.inr rfl), rfl⟩
          · exact ⟨[], more, .inl ⟨rfl, fun rest =>
              ⟨fun same => plus ⟨rest, same⟩, fun same => minus ⟨rest, same⟩⟩⟩, rfl⟩
      obtain ⟨parts, digits⟩ := spanDigits_spec cs
      rw [readExponent_marked marked signed] at h
      split at h
      · cases h
      next nonempty =>
        obtain ⟨rfl, rfl⟩ := Prod.mk.inj (Option.some.inj h)
        refine ⟨.digits marked (signed.imp_left And.left) ⟨nonempty, digits⟩, ?_⟩
        rw [List.cons_append, List.cons_append, List.append_assoc, ← parts]
    · unfold readExponent at h
      simp only [if_neg marked] at h
      cases h
      exact ⟨.absent, rfl⟩

/-- A numeral begins with a sign or a digit. -/
theorem Numeral.begins {token : List Char} (h : Numeral token) :
    ∃ c more, token = c :: more ∧ (c = '-' ∨ c.isDigit = true) := by
  obtain ⟨signed, first, -, -⟩ := h
  rcases signed with rfl | rfl
  · obtain ⟨nonempty, digits⟩ := first.digits_all
    obtain ⟨c, more, rfl⟩ := List.exists_cons_of_ne_nil nonempty
    exact ⟨c, _, rfl, .inr (digits c List.mem_cons_self)⟩
  · exact ⟨'-', _, rfl, .inl rfl⟩

/-- A numeral is read up to the end of it, before a text that it cannot run on into. -/
theorem readNumber_append {token tail : List Char} (h : Numeral token)
    (ends : EndsNumeral tail) : readNumber (token ++ tail) = some (token, tail) := by
  obtain @⟨sign, whole, fraction, exponent, signed, first, second, third⟩ := h
  have behindExponent : readExponent (exponent ++ tail) = some (exponent, tail) :=
    readExponent_append third ends
  have exponentEnds : EndsDigits (exponent ++ tail) ∧ (exponent ++ tail).head? ≠ some '.' := by
    cases third with
    | absent =>
      refine ⟨fun c mem => (ends c mem).1, fun point => ?_⟩
      exact (ends '.' (Option.mem_def.mpr point)).2.1 rfl
    | digits marked _ _ => rcases marked with rfl | rfl <;> exact ⟨by simp [EndsDigits], by simp⟩
  have behindFraction : readFraction (fraction ++ (exponent ++ tail)) =
      some (fraction, exponent ++ tail) :=
    readFraction_append second exponentEnds.1 exponentEnds.2
  have fractionEnds : EndsDigits (fraction ++ (exponent ++ tail)) := by
    cases second with
    | absent => exact exponentEnds.1
    | digits _ => simp [EndsDigits]
  have behindWhole : readWhole (whole ++ (fraction ++ (exponent ++ tail))) =
      some (whole, fraction ++ (exponent ++ tail)) := readWhole_append first fractionEnds
  simp only [List.append_assoc]
  rcases signed with rfl | rfl
  · obtain ⟨nonempty, digits⟩ := first.digits_all
    obtain ⟨c, more, rfl⟩ := List.exists_cons_of_ne_nil nonempty
    have digit := digits c List.mem_cons_self
    have minus : c ≠ '-' := by rintro rfl; cases digit
    rw [List.cons_append] at behindWhole
    simp [readNumber, minus, behindWhole, behindFraction, behindExponent]
  · simp [readNumber, behindWhole, behindFraction, behindExponent]

theorem readNumber_spec {cs token rest : List Char} (h : readNumber cs = some (token, rest)) :
    Numeral token ∧ cs = token ++ rest := by
  obtain ⟨sign, unsigned, signed, parts, read⟩ : ∃ sign unsigned, (sign = [] ∨ sign = ['-']) ∧
      cs = sign ++ unsigned ∧ readNumber cs = (readWhole unsigned).bind fun w =>
        (readFraction w.2).bind fun f => (readExponent f.2).bind fun e =>
          some (sign ++ w.1 ++ f.1 ++ e.1, e.2) := by
    by_cases minus : ∃ rest, cs = '-' :: rest
    · obtain ⟨rest, rfl⟩ := minus
      exact ⟨['-'], rest, .inr rfl, rfl, rfl⟩
    · refine ⟨[], cs, .inl rfl, rfl, ?_⟩
      unfold readNumber
      split
      next same =>
        split at same
        · exact absurd ⟨_, rfl⟩ minus
        · cases same
          rfl
  rw [read] at h
  obtain ⟨⟨whole, behindWhole⟩, readWhole, h⟩ := Option.bind_eq_some_iff.mp h
  obtain ⟨⟨fraction, behindFraction⟩, readFraction, h⟩ := Option.bind_eq_some_iff.mp h
  obtain ⟨⟨exponent, behindExponent⟩, readExponent, h⟩ := Option.bind_eq_some_iff.mp h
  obtain ⟨rfl, rfl⟩ := Prod.mk.inj (Option.some.inj h)
  obtain ⟨first, rfl⟩ := readWhole_spec readWhole
  obtain ⟨second, rfl⟩ := readFraction_spec readFraction
  obtain ⟨third, rfl⟩ := readExponent_spec readExponent
  refine ⟨.parts signed first second third, ?_⟩
  simp only [parts, List.append_assoc]

/-! ## Strings -/

/-- The letters of the short escapes and what they stand for. -/
def shortEscapes : List (Char × Char) :=
  [('"', '"'), ('\\', '\\'), ('/', '/'), ('b', '\x08'), ('f', '\x0c'), ('n', '\n'), ('r', '\r'),
    ('t', '\t')]

/-- The texts of a piece. -/
inductive Piece.Spells : Piece → List Char → Prop
  | plain {c : Char} (low : 0x20 ≤ c.toNat) (quote : c ≠ '"') (escape : c ≠ '\\') :
      Spells (.char c) [c]
  | short {letter c : Char} (listed : (letter, c) ∈ shortEscapes) : Spells (.char c) ['\\', letter]
  | unit {a b c d : Char} {i j k l : Nat} (first : digit? 16 a = some i)
      (second : digit? 16 b = some j) (third : digit? 16 c = some k)
      (fourth : digit? 16 d = some l) :
      Spells (.unit (((i * 16 + j) * 16 + k) * 16 + l)) ['\\', 'u', a, b, c, d]

/-- The texts of a string between its quotes. -/
inductive Spelling.Spells : Spelling → List Char → Prop
  | nil : Spells [] []
  | cons {p : Piece} {s : Spelling} {text rest : List Char} (first : p.Spells text)
      (others : Spells s rest) : Spells (p :: s) (text ++ rest)

theorem escaped?_eq_some_iff {letter c : Char} :
    escaped? letter = some c ↔ (letter, c) ∈ shortEscapes := by
  unfold escaped? shortEscapes
  split <;> simp_all [eq_comm]

theorem unit?_eq_some_iff {a b c d : Char} {n : Nat} :
    unit? a b c d = some n ↔ ∃ i j k l, digit? 16 a = some i ∧ digit? 16 b = some j ∧
      digit? 16 c = some k ∧ digit? 16 d = some l ∧ n = ((i * 16 + j) * 16 + k) * 16 + l := by
  simp only [unit?, Number.natural?, Number.ofDigits, List.mapM_cons, List.mapM_nil, reduceCtorEq,
    if_false, Option.bind_eq_bind, Option.pure_def, Option.map_eq_some_iff, Option.bind_eq_some_iff,
    Option.some.injEq]
  constructor
  · rintro ⟨_, ⟨i, first, _, ⟨j, second, _, ⟨k, third, _, ⟨l, fourth, _, rfl, rfl⟩, rfl⟩, rfl⟩,
      rfl⟩, rfl⟩
    exact ⟨i, j, k, l, first, second, third, fourth, by simp⟩
  · rintro ⟨i, j, k, l, first, second, third, fourth, rfl⟩
    exact ⟨_, ⟨i, first, _, ⟨j, second, _, ⟨k, third, _, ⟨l, fourth, _, rfl, rfl⟩, rfl⟩, rfl⟩, rfl⟩,
      by simp⟩

theorem readString_piece {p : Piece} {text : List Char} (h : p.Spells text) (rest : List Char) :
    readString (text ++ rest) = (readString rest).bind fun r => some (p :: r.1, r.2) := by
  cases h with
  | @plain c low quote escape =>
    have fits : ¬ (c.toNat < 0x20 ∨ c = '\\') := fun bad =>
      bad.elim (fun control => absurd low (Nat.not_le_of_lt control)) escape
    rw [List.singleton_append, readString, if_neg fits]
    · rfl
    · exact quote
    · exact fun _ _ _ _ _ same _ => escape same
    · exact fun _ _ same _ => escape same
  | @short letter c listed =>
    have read := escaped?_eq_some_iff.mpr listed
    have other : letter ≠ 'u' := by
      rintro rfl
      cases read
    simp only [List.cons_append, List.nil_append]
    rw [readString, read]
    · rfl
    · exact fun _ _ _ _ _ same _ => other same
  | unit first second third fourth =>
    have read := unit?_eq_some_iff.mpr ⟨_, _, _, _, first, second, third, fourth, rfl⟩
    simp only [List.cons_append, List.nil_append]
    rw [readString, read]
    rfl

/-- A string is read up to its closing quote. -/
theorem readString_append {s : Spelling} {text : List Char} (h : s.Spells text)
    (rest : List Char) : readString (text ++ '"' :: rest) = some (s, rest) := by
  induction h with
  | nil => rfl
  | cons first _ ih =>
    rw [List.append_assoc, readString_piece first, ih]
    rfl

theorem readString_spec {cs rest : List Char} {s : Spelling}
    (h : readString cs = some (s, rest)) : ∃ text, s.Spells text ∧ cs = text ++ '"' :: rest := by
  fun_induction readString cs generalizing s with
  | case1 => cases h
  | case2 more =>
    cases h
    exact ⟨[], .nil, rfl⟩
  | case3 a b c d more ih =>
    obtain ⟨n, unit, h⟩ := Option.bind_eq_some_iff.mp h
    obtain ⟨⟨others, behind⟩, read, same⟩ := Option.bind_eq_some_iff.mp h
    obtain ⟨rfl, rfl⟩ := Prod.mk.inj (Option.some.inj same)
    obtain ⟨i, j, k, l, first, second, third, fourth, rfl⟩ := unit?_eq_some_iff.mp unit
    obtain ⟨text, spells, rfl⟩ := ih read
    exact ⟨_, .cons (.unit first second third fourth) spells, rfl⟩
  | case4 letter more _ ih =>
    obtain ⟨c, short, h⟩ := Option.bind_eq_some_iff.mp h
    obtain ⟨⟨others, behind⟩, read, same⟩ := Option.bind_eq_some_iff.mp h
    obtain ⟨rfl, rfl⟩ := Prod.mk.inj (Option.some.inj same)
    obtain ⟨text, spells, rfl⟩ := ih read
    exact ⟨_, .cons (.short (escaped?_eq_some_iff.mp short)) spells, rfl⟩
  | case5 => cases h
  | case6 c more quote _ _ fits ih =>
    obtain ⟨⟨others, behind⟩, read, same⟩ := Option.bind_eq_some_iff.mp h
    obtain ⟨rfl, rfl⟩ := Prod.mk.inj (Option.some.inj same)
    obtain ⟨low, escape⟩ := not_or.mp fits
    obtain ⟨text, spells, rfl⟩ := ih read
    exact ⟨_, .cons (.plain (Nat.le_of_not_lt low) quote escape) spells, rfl⟩

theorem digit?_lt {base n : Nat} {c : Char} (h : digit? base c = some n) : n < base := by
  obtain ⟨small, same⟩ := Option.ite_none_right_eq_some.mp h
  exact Option.some.inj same ▸ small

/-- The numbers in a spelled string have sixteen bits. -/
theorem Spelling.Spells.narrow {s : Spelling} {text : List Char} (h : s.Spells text) :
    ∀ n, .unit n ∈ s → n < 0x10000 := by
  induction h with
  | nil => exact fun _ mem => nomatch mem
  | cons first _ ih =>
    intro n mem
    rcases List.mem_cons.mp mem with rfl | mem
    · obtain ⟨⟩ | ⟨⟩ | ⟨first, second, third, fourth⟩ := first
      have := digit?_lt first
      have := digit?_lt second
      have := digit?_lt third
      have := digit?_lt fourth
      omega
    · exact ih n mem

/-! ## Meaning -/

/-- What a string means, character by character. A character may be given by its number, and
one beyond the first 2^16 by the two numbers of its surrogate pair. -/
inductive Spelling.Means : Spelling → List Char → Prop
  | nil : Means [] []
  | char {c : Char} {s : Spelling} {cs : List Char} (rest : Means s cs) :
      Means (.char c :: s) (c :: cs)
  | unit {c : Char} {s : Spelling} {cs : List Char} (narrow : c.toNat < 0x10000)
      (rest : Means s cs) : Means (.unit c.toNat :: s) (c :: cs)
  | pair {c : Char} {s : Spelling} {cs : List Char} (wide : 0x10000 ≤ c.toNat)
      (rest : Means s cs) :
      Means (.unit (0xd800 + (c.toNat - 0x10000) / 0x400) ::
        .unit (0xdc00 + (c.toNat - 0x10000) % 0x400) :: s) (c :: cs)

namespace Spelling

theorem toNat_ofNat {n : Nat} (small : n < 0x110000) (high : isHigh n = false)
    (low : isLow n = false) : (Char.ofNat n).toNat = n := by
  have valid : n.isValidChar := by
    simp [isHigh, isLow] at high low
    unfold Nat.isValidChar
    omega
  rw [Char.ofNat, dif_pos valid]
  rfl

theorem isHigh_toNat (c : Char) : isHigh c.toNat = false ∧ isLow c.toNat = false := by
  have valid : c.toNat.isValidChar := c.valid
  simp [isHigh, isLow]
  unfold Nat.isValidChar at valid
  omega

/-- A number that is no surrogate stands for a character by itself, whatever follows. -/
theorem meaning?_unit {n : Nat} (high : isHigh n = false) (low : isLow n = false) (s : Spelling) :
    meaning? (.unit n :: s) = (meaning? s).map (Char.ofNat n :: ·) := by
  cases s with
  | nil => simp [meaning?, high, low]
  | cons p s => cases p <;> simp [meaning?, high, low]

theorem Means.meaning? {s : Spelling} {cs : List Char} (h : s.Means cs) : s.meaning? = some cs := by
  induction h with
  | nil => rfl
  | char _ ih => rw [Spelling.meaning?, ih]; rfl
  | @unit c _ _ _ _ ih =>
    rw [meaning?_unit (isHigh_toNat c).1 (isHigh_toNat c).2, ih, Char.ofNat_toNat]
    rfl
  | @pair c s cs wide _ ih =>
    have valid : c.toNat.isValidChar := c.valid
    have bound : c.toNat < 0x110000 := by
      unfold Nat.isValidChar at valid
      omega
    have high : isHigh (0xd800 + (c.toNat - 0x10000) / 0x400) = true := by
      simp [isHigh]
      omega
    have low : isLow (0xdc00 + (c.toNat - 0x10000) % 0x400) = true := by
      simp [isLow]
      omega
    have same : Spelling.pair (0xd800 + (c.toNat - 0x10000) / 0x400)
        (0xdc00 + (c.toNat - 0x10000) % 0x400) = c := by
      have number : 0x10000 + (0xd800 + (c.toNat - 0x10000) / 0x400 - 0xd800) * 0x400 +
          (0xdc00 + (c.toNat - 0x10000) % 0x400 - 0xdc00) = c.toNat := by omega
      rw [Spelling.pair, number, Char.ofNat_toNat]
    rw [Spelling.meaning?, if_pos high, if_pos low, ih, same]
    rfl

/-- The surrogates of a pair are those of its character. -/
theorem pair_eq {high low : Nat} (h : isHigh high = true) (l : isLow low = true) :
    0x10000 ≤ (pair high low).toNat ∧ 0xd800 + ((pair high low).toNat - 0x10000) / 0x400 = high ∧
      0xdc00 + ((pair high low).toNat - 0x10000) % 0x400 = low := by
  simp only [isHigh, isLow, Bool.and_eq_true, decide_eq_true_eq] at h l
  have wide : (pair high low).toNat = 0x10000 + (high - 0xd800) * 0x400 + (low - 0xdc00) := by
    refine toNat_ofNat (by omega) ?_ ?_ <;>
    · simp only [isHigh, isLow, Bool.and_eq_false_iff, decide_eq_false_iff_not]
      omega
  omega

/-- A spelling whose numbers have sixteen bits means what it is said to. -/
theorem means_of_meaning? {s : Spelling} {cs : List Char}
    (narrow : ∀ n, .unit n ∈ s → n < 0x10000) (h : s.meaning? = some cs) : s.Means cs := by
  have alone {n : Nat} {s : Spelling} {cs : List Char} (small : n < 0x10000)
      (high : isHigh n = false) (low : isLow n = false) (rest : s.Means cs) :
      Means (.unit n :: s) (Char.ofNat n :: cs) := by
    have number := toNat_ofNat (Nat.lt_trans small (by decide)) high low
    have means := Means.unit (c := Char.ofNat n) (number.symm ▸ small) rest
    rwa [number] at means
  fun_induction Spelling.meaning? s generalizing cs with
  | case1 =>
    cases h
    exact .nil
  | case2 c s ih =>
    obtain ⟨ds, read, rfl⟩ := Option.map_eq_some_iff.mp h
    exact .char (ih (fun n mem => narrow n (List.mem_cons_of_mem _ mem)) read)
  | case3 n m s high low ih =>
    obtain ⟨ds, read, rfl⟩ := Option.map_eq_some_iff.mp h
    have rest := ih
      (fun n mem => narrow n (List.mem_cons_of_mem _ (List.mem_cons_of_mem _ mem))) read
    obtain ⟨wide, first, second⟩ := pair_eq high low
    have means := Means.pair wide rest
    rwa [first, second] at means
  | case4 => cases h
  | case5 => cases h
  | case6 n m s high low ih =>
    obtain ⟨ds, read, rfl⟩ := Option.map_eq_some_iff.mp h
    exact alone (narrow n List.mem_cons_self) (Bool.eq_false_iff.mpr high)
      (Bool.eq_false_iff.mpr low) (ih (fun n mem => narrow n (List.mem_cons_of_mem _ mem)) read)
  | case7 => cases h
  | case8 n s _ other ih =>
    obtain ⟨ds, read, rfl⟩ := Option.map_eq_some_iff.mp h
    obtain ⟨high, low⟩ := Bool.or_eq_false_iff.mp (Bool.eq_false_iff.mpr other)
    exact alone (narrow n List.mem_cons_self) high low
      (ih (fun n mem => narrow n (List.mem_cons_of_mem _ mem)) read)

theorem Means.toString? {s : Spelling} {t : String} (h : s.Means t.toList) :
    s.toString? = some t := by
  rw [Spelling.toString?, h.meaning?, Option.map_some, String.ofList_toList]

/-- A spelling means one string. -/
theorem Means.unique {s : Spelling} {t u : String} (h : s.Means t.toList)
    (other : s.Means u.toList) :
    t = u := Option.some.inj (h.toString?.symm.trans other.toString?)

/-- A spelled string means what the rules say. -/
theorem toString?_eq_some_iff {s : Spelling} {text : List Char} (h : s.Spells text) {t : String} :
    s.toString? = some t ↔ s.Means t.toList := by
  refine ⟨fun read => ?_, Means.toString?⟩
  obtain ⟨cs, meaning, rfl⟩ := Option.map_eq_some_iff.mp read
  rw [String.toList_ofList]
  exact means_of_meaning? h.narrow meaning

end Spelling

end NodeLink.Json
