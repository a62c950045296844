import NodeLink.Proofs.Moments
import NodeLink.Proofs.Shortest
import NodeLink.Toml.Numeral
import NodeLink.Toml.Printer

/-!
# Numbers in a file read back

An integer within its range, and any double at all, is read back from the text that a file has for
it. For a double this takes three steps: its digits are those of a decimal that reads back, they are
laid out around a point so that whole part and fraction together spell that decimal, and the reader
of numbers takes them for one. No step is an assumption.

A number is followed by a stop. It is not mistaken for a moment, since it holds no colon, and no
hyphen but its sign.
-/

set_option autoImplicit false

namespace NodeLink.Toml

open Number (Binary64 Decimal Style digitValue digit?_of_isDigit digit?_of_not_isDigit ofDigits
  ofDigits_map_digitValue ofDigits_toDigits isDigit_of_mem_toDigits head?_toDigits)

/-! ## Runs of digits -/

/-- A text that digits cannot run on into. -/
def Breaks (cs : List Char) : Prop := ∀ c rest, cs = c :: rest → c.isDigit = false ∧ c ≠ '_'

theorem breaks_cons {c : Char} (rest : List Char) (other : c.isDigit = false) (line : c ≠ '_') :
    Breaks (c :: rest) := by
  intro d more same
  obtain ⟨rfl, -⟩ := List.cons.inj same
  exact ⟨other, line⟩

theorem Stops.breaks {cs : List Char} (stop : Stops cs) : Breaks cs := by
  obtain ⟨c, rest, rfl, h⟩ := stop
  exact breaks_cons rest (isDigit_of_isStop h) (ne_of_isStop h rfl)

theorem readMoreDigits_append {ds tail : List Char} (digits : ∀ c ∈ ds, c.isDigit = true)
    (breaks : Breaks tail) :
    readMoreDigits 10 (ds ++ tail) = some (ds.map digitValue, tail) := by
  induction ds with
  | nil =>
    cases tail with
    | nil => rfl
    | cons c rest =>
      obtain ⟨other, line⟩ := breaks c rest rfl
      simp [readMoreDigits, digit?_of_not_isDigit other]
  | cons c ds ih =>
    have digit := digits c List.mem_cons_self
    have line : c ≠ '_' := by
      rintro rfl
      cases digit
    have rest := ih fun d mem => digits d (List.mem_cons_of_mem c mem)
    simp [readMoreDigits, digit?_of_isDigit digit, rest]

theorem readDigits_append {ds tail : List Char} (nonempty : ds ≠ [])
    (digits : ∀ c ∈ ds, c.isDigit = true) (breaks : Breaks tail) :
    readDigits 10 (ds ++ tail) = some (ds.map digitValue, tail) := by
  obtain ⟨c, rest, rfl⟩ := List.exists_cons_of_ne_nil nonempty
  have digit := digits c List.mem_cons_self
  have more := readMoreDigits_append (fun d mem => digits d (List.mem_cons_of_mem c mem)) breaks
  simp [readDigits, digit?_of_isDigit digit, more]

/-- Digits that begin with zero only if there are no others. -/
structure Whole (ds : List Char) : Prop where
  nonempty : ds ≠ []
  digits : ∀ c ∈ ds, c.isDigit = true
  alone : ds.head? = some '0' → ds = ['0']

theorem digits_zeros (n : Nat) : ∀ c ∈ List.replicate n '0', c.isDigit = true := by
  intro c mem
  rw [List.eq_of_mem_replicate mem]
  rfl

theorem whole_zero : Whole ['0'] := ⟨by decide, digits_zeros 1, fun _ => rfl⟩

/-- The digits of a number are a whole part. -/
theorem whole_toDigits (n : Nat) : Whole (Nat.toDigits 10 n) := by
  refine ⟨Nat.toDigits_ne_nil, fun c mem => isDigit_of_mem_toDigits mem, fun zero => ?_⟩
  rcases Nat.eq_zero_or_pos n with rfl | pos
  · rfl
  · exact absurd zero (head?_toDigits pos)

theorem readWhole_append {ds tail : List Char} (whole : Whole ds) (breaks : Breaks tail) :
    readWhole (ds ++ tail) = some (ds.map digitValue, tail) := by
  unfold readWhole
  split
  next rest same =>
    obtain ⟨c, more, split⟩ := List.exists_cons_of_ne_nil whole.nonempty
    have first : c = '0' := by
      rw [split] at same
      exact (List.cons.inj same).1
    have alone := whole.alone (by rw [split, first]; rfl)
    rw [alone] at same ⊢
    obtain rfl : tail = rest := (List.cons.inj same).2
    rfl
  next => exact readDigits_append whole.nonempty whole.digits breaks

/-! ## Decimals -/

/-- The sign of a number in a text. -/
def signText (negative : Bool) : List Char := if negative then ['-'] else []

theorem readSign_append (negative : Bool) {c : Char} (digit : c.isDigit = true)
    (rest : List Char) : readSign (signText negative ++ c :: rest) = (negative, c :: rest) := by
  cases negative with
  | true => rfl
  | false =>
    unfold readSign
    split
    next same =>
      rw [(List.cons.inj same).1] at digit
      cases digit
    next same =>
      rw [(List.cons.inj same).1] at digit
      cases digit
    next => rfl

/-- The words for numbers begin with no digit. -/
theorem readDecimal_append (negative : Bool) {ds : List Char} (whole : Whole ds)
    (rest : List Char) :
    readDecimal (signText negative ++ (ds ++ rest)) = do
      let (whole, cs) ← readWhole (ds ++ rest)
      let (fraction, cs) ← readFraction cs
      let (exponent, cs) ← readExponent cs
      return (← decimal? negative whole fraction exponent, cs) := by
  obtain ⟨c, more, rfl⟩ := List.exists_cons_of_ne_nil whole.nonempty
  have digit := whole.digits c List.mem_cons_self
  rw [readDecimal, List.cons_append, readSign_append negative digit]
  dsimp only
  split
  next same =>
    rw [(List.cons.inj same).1] at digit
    cases digit
  next same =>
    rw [(List.cons.inj same).1] at digit
    cases digit
  next => rfl

theorem readExponent_of_stops {tail : List Char} (stop : Stops tail) :
    readExponent tail = some (none, tail) := by
  obtain ⟨c, rest, rfl, h⟩ := stop
  have letter : ¬ (c = 'e' ∨ c = 'E') :=
    isStop_elim (P := fun c => ¬ (c = 'e' ∨ c = 'E')) h (by decide)
  rw [readExponent, if_neg letter]

theorem readFraction_of_stops {tail : List Char} (stop : Stops tail) :
    readFraction tail = some (none, tail) := by
  obtain ⟨c, rest, rfl, h⟩ := stop
  unfold readFraction
  split
  next same => exact absurd (List.cons.inj same).1 (ne_of_isStop h rfl)
  next => rfl

section Stop

variable {tail : List Char} (stop : Stops tail)

include stop

/-- A number without a fraction. -/
theorem readDecimal_whole (negative : Bool) {ds : List Char} (whole : Whole ds) :
    readDecimal (signText negative ++ (ds ++ tail)) =
      (decimal? negative (ds.map digitValue) none none).map (·, tail) := by
  rw [readDecimal_append negative whole, readWhole_append whole stop.breaks]
  simp only [Option.bind_eq_bind, Option.bind_some, readFraction_of_stops stop,
    readExponent_of_stops stop, Option.pure_def, Option.map_eq_bind, Function.comp_def]

/-- A number with a fraction. -/
theorem readDecimal_fraction (negative : Bool) {ds fs : List Char} (whole : Whole ds)
    (nonempty : fs ≠ []) (digits : ∀ c ∈ fs, c.isDigit = true) :
    readDecimal (signText negative ++ (ds ++ '.' :: (fs ++ tail))) =
      (decimal? negative (ds.map digitValue) (some (fs.map digitValue)) none).map (·, tail) := by
  have point : Breaks ('.' :: (fs ++ tail)) := breaks_cons _ rfl (by decide)
  rw [readDecimal_append negative whole, readWhole_append whole point]
  simp only [Option.bind_eq_bind, Option.bind_some, readFraction,
    readDigits_append nonempty digits stop.breaks, readExponent_of_stops stop, Option.pure_def,
    Option.map_eq_bind, Function.comp_def]

end Stop

/-- A number in base ten has no mark of a base. -/
theorem readNumber_append (negative : Bool) {ds rest : List Char} (whole : Whole ds)
    (unmarked : ∀ c more, rest = c :: more → c ≠ 'x' ∧ c ≠ 'o' ∧ c ≠ 'b') :
    readNumber (signText negative ++ (ds ++ rest)) =
      readDecimal (signText negative ++ (ds ++ rest)) := by
  have plain : ∀ c more, signText negative ++ (ds ++ rest) = '0' :: c :: more →
      c ≠ 'x' ∧ c ≠ 'o' ∧ c ≠ 'b' := by
    intro c more same
    cases negative with
    | true => cases same
    | false =>
      obtain ⟨d, others, rfl⟩ := List.exists_cons_of_ne_nil whole.nonempty
      obtain ⟨rfl, same⟩ := List.cons.inj same
      obtain rfl : others = [] := (List.cons.inj (whole.alone rfl)).2
      exact unmarked c more (List.cons.inj same).2
  unfold readNumber
  split
  next more same => exact absurd rfl (plain 'x' more same).1
  next more same => exact absurd rfl (plain 'o' more same).2.1
  next more same => exact absurd rfl (plain 'b' more same).2.2
  next => rfl

theorem Stops.unmarked {cs : List Char} (stop : Stops cs) :
    ∀ c more, cs = c :: more → c ≠ 'x' ∧ c ≠ 'o' ∧ c ≠ 'b' := by
  obtain ⟨t, rest, rfl, h⟩ := stop
  intro c more same
  obtain ⟨rfl, -⟩ := List.cons.inj same
  exact ⟨ne_of_isStop h rfl, ne_of_isStop h rfl, ne_of_isStop h rfl⟩

/-! ## Integers -/

theorem integerText_eq (n : Int) :
    integerText n = signText (decide (n < 0)) ++ Nat.toDigits 10 n.natAbs := by
  unfold integerText signText
  by_cases negative : n < 0 <;> simp [negative]

/-- An integer of sixty-four bits is read back. -/
theorem readNumber_integerText {n : Int} (low : -2 ^ 63 ≤ n) (high : n < 2 ^ 63)
    {tail : List Char} (stop : Stops tail) :
    readNumber (integerText n ++ tail) = some (.integer n, tail) := by
  have whole := whole_toDigits n.natAbs
  have value : (if decide (n < 0) = true then -(n.natAbs : Int) else n.natAbs) = n := by
    by_cases negative : n < 0
    · simp only [negative, decide_true, ↓reduceIte]
      omega
    · simp only [negative, decide_false, Bool.false_eq_true, ↓reduceIte]
      omega
  have inside : -((Nat.pow 2 63 : Nat) : Int) ≤ n ∧ n < ((Nat.pow 2 63 : Nat) : Int) := ⟨low, high⟩
  rw [integerText_eq, List.append_assoc, readNumber_append _ whole stop.unmarked,
    readDecimal_whole stop _ whole]
  simp only [decimal?, Option.isNone_none, Bool.and_self, ↓reduceIte, ofDigits_toDigits, value,
    integer?, if_pos inside, Option.map_some]

/-! ## Doubles -/

/-- A whole part and a fraction that spell a double, of either sign. -/
structure Laid (x : Bool → Binary64) (ws fs : List Char) : Prop where
  whole : Whole ws
  nonempty : fs ≠ []
  digits : ∀ c ∈ fs, c.isDigit = true
  spells : ∀ negative,
    Binary64.ofDecimal negative (Nat.ofDigitChars 10 (ws ++ fs) 0) (-fs.length) = x negative

/-- The double of some digits and an exponent. -/
def scaled (ds : List Char) (exponent : Int) (negative : Bool) : Binary64 :=
  .ofDecimal negative (Nat.ofDigitChars 10 ds 0) exponent

section Laid

variable {ds : List Char} {exponent : Int}

theorem digits_append {xs ys : List Char} (left : ∀ c ∈ xs, c.isDigit = true)
    (right : ∀ c ∈ ys, c.isDigit = true) : ∀ c ∈ xs ++ ys, c.isDigit = true := by
  intro c mem
  exact (List.mem_append.mp mem).elim (left c) (right c)

/-- The point stands before all digits, with zeros between. -/
theorem laid_before (digits : ∀ c ∈ ds, c.isDigit = true) (nonempty : ds ≠ []) {zeros : Nat}
    (places : -((zeros + ds.length : Nat) : Int) = exponent) :
    Laid (scaled ds exponent) ['0'] (List.replicate zeros '0' ++ ds) := by
  refine ⟨whole_zero, by simp [nonempty], digits_append (digits_zeros zeros) digits, ?_⟩
  intro negative
  have value : Nat.ofDigitChars 10 (['0'] ++ (List.replicate zeros '0' ++ ds)) 0 =
      Nat.ofDigitChars 10 ds 0 := by
    rw [Nat.ofDigitChars_append, Nat.ofDigitChars_append, Nat.ofDigitChars_replicate_zero]
    rfl
  rw [value, List.length_append, List.length_replicate, places, scaled]

/-- Zeros follow the digits, and one stands behind the point. -/
theorem laid_behind (digits : ∀ c ∈ ds, c.isDigit = true) (zero : ds.head? ≠ some '0')
    (nonempty : ds ≠ []) (integral : 0 ≤ exponent) :
    Laid (scaled ds exponent) (ds ++ List.replicate exponent.toNat '0') ['0'] := by
  have whole : Whole (ds ++ List.replicate exponent.toNat '0') := by
    refine ⟨by simp [nonempty], digits_append digits (digits_zeros _), fun first => ?_⟩
    obtain ⟨c, rest, rfl⟩ := List.exists_cons_of_ne_nil nonempty
    exact absurd first zero
  refine ⟨whole, by decide, digits_zeros 1, fun negative => ?_⟩
  have value : Nat.ofDigitChars 10 (ds ++ List.replicate exponent.toNat '0' ++ ['0']) 0 =
      Nat.ofDigitChars 10 ds 0 * 10 ^ (exponent.toNat + 1) := by
    have tail : List.replicate exponent.toNat '0' ++ ['0'] =
        List.replicate (exponent.toNat + 1) '0' := List.replicate_succ'.symm
    rw [List.append_assoc, tail, Nat.ofDigitChars_append, Nat.ofDigitChars_replicate_zero,
      Nat.mul_comm]
  have places : -((['0'] : List Char).length : Int) =
      exponent - ((exponent.toNat + 1 : Nat) : Int) := by
    rw [List.length_singleton]
    omega
  rw [value, places, Binary64.ofDecimal_mul_pow, scaled]

/-- The point stands among the digits. -/
theorem laid_among (digits : ∀ c ∈ ds, c.isDigit = true) (zero : ds.head? ≠ some '0')
    {place : Nat} (first : 0 < place) (last : place < ds.length)
    (places : -((ds.length - place : Nat) : Int) = exponent) :
    Laid (scaled ds exponent) (ds.take place) (ds.drop place) := by
  have left : ds.take place ≠ [] := by
    rw [← List.length_pos_iff, List.length_take]
    omega
  have right : ds.drop place ≠ [] := by
    rw [← List.length_pos_iff, List.length_drop]
    omega
  have whole : Whole (ds.take place) := by
    refine ⟨left, fun c mem => digits c (List.mem_of_mem_take mem), fun begins => ?_⟩
    rw [List.head?_take, if_neg (Nat.ne_of_gt first)] at begins
    exact absurd begins zero
  refine ⟨whole, right, fun c mem => digits c (List.mem_of_mem_drop mem), fun negative => ?_⟩
  rw [List.take_append_drop, List.length_drop, places, scaled]

end Laid

/-- Digits laid out around a point are a whole part and a fraction, which spell the same double. -/
theorem positional_laid {ds : List Char} (digits : ∀ c ∈ ds, c.isDigit = true)
    (zero : ds.head? ≠ some '0') (nonempty : ds ≠ []) (exponent : Int) :
    ∃ ws fs, Style.positional ds exponent = ws ++ '.' :: fs ∧ Laid (scaled ds exponent) ws fs := by
  unfold Style.positional
  dsimp only
  split
  next before => exact ⟨_, _, rfl, laid_before digits nonempty (by omega)⟩
  next after =>
    split
    next integral => exact ⟨_, _, by simp, laid_behind digits zero nonempty integral⟩
    next fractional =>
      exact ⟨_, _, rfl, laid_among digits zero (by omega) (by omega) (by omega)⟩

/-- The magnitude of a finite double is a whole part and a fraction that spell it. -/
theorem magnitude_laid {code : Nat} (bound : code < Number.infinityCode) :
    ∃ ws fs, Style.file.magnitude code = ws ++ '.' :: fs ∧ Laid (.finite · code bound) ws fs := by
  by_cases zero : code = 0
  · subst zero
    exact ⟨['0'], ['0'], rfl, whole_zero, by decide, digits_zeros 1, fun negative => rfl⟩
  · have reads := Decimal.toBinary64_shortest zero bound
    have pos := Nat.pos_of_ne_zero (Binary64.digits_ne_zero_of_ofDecimal (reads false) zero)
    obtain ⟨ws, fs, layout, laid⟩ :=
      positional_laid (fun c mem => isDigit_of_mem_toDigits mem) (head?_toDigits pos)
        Nat.toDigits_ne_nil (Decimal.shortest code).exponent
    refine ⟨ws, fs, ?_, laid.whole, laid.nonempty, laid.digits, fun negative => ?_⟩
    · rw [← layout]
      simp only [Style.magnitude, Style.file, if_neg zero, Option.any_none, Bool.or_self,
        Bool.false_eq_true, ↓reduceIte]
    · rw [laid.spells, scaled, Nat.ofDigitChars_ten_toDigits]
      exact reads negative

theorem write_finite (negative : Bool) {code : Nat} (bound : code < Number.infinityCode) :
    (Style.file.write (.finite negative code bound)).toList =
      signText negative ++ Style.file.magnitude code := by
  rw [Style.write, String.toList_ofList]
  rfl

/-- Every double is read back, the infinities and what is not a number among them. -/
theorem readNumber_write (x : Binary64) {tail : List Char} (stop : Stops tail) :
    readNumber ((Style.file.write x).toList ++ tail) = some (.float x, tail) := by
  cases x with
  | nan => rfl
  | infinity negative => cases negative <;> rfl
  | finite negative code bound =>
    obtain ⟨ws, fs, layout, whole, nonempty, digits, spells⟩ := magnitude_laid bound
    have point : ∀ c more, '.' :: (fs ++ tail) = c :: more → c ≠ 'x' ∧ c ≠ 'o' ∧ c ≠ 'b' := by
      intro c more same
      obtain ⟨rfl, -⟩ := List.cons.inj same
      decide
    have value : ofDigits 10 (ws.map digitValue ++ fs.map digitValue) =
        Nat.ofDigitChars 10 (ws ++ fs) 0 := by
      rw [← List.map_append, ofDigits_map_digitValue]
    rw [write_finite, layout, List.append_assoc, List.append_assoc, List.cons_append,
      readNumber_append negative whole point,
      readDecimal_fraction stop negative whole nonempty digits]
    simp only [decimal?, Option.isNone_some, Bool.false_and, Bool.false_eq_true, ↓reduceIte,
      Option.getD_some, Option.getD_none, List.length_map, value, Int.zero_sub, spells,
      reduceCtorEq, Option.map_some]

/-! ## Telling numbers from other values -/

/-- Characters that a number begins with. -/
def opensNumber (c : Char) : Bool := c.isDigit || c = '-' || c = 'i' || c = 'n'

theorem Whole.opens {ds : List Char} (whole : Whole ds) (negative : Bool) (rest : List Char) :
    ∃ c more, signText negative ++ (ds ++ rest) = c :: more ∧ opensNumber c = true := by
  cases negative with
  | true => exact ⟨'-', ds ++ rest, rfl, rfl⟩
  | false =>
    obtain ⟨c, more, rfl⟩ := List.exists_cons_of_ne_nil whole.nonempty
    exact ⟨c, more ++ rest, rfl, by simp [opensNumber, whole.digits c List.mem_cons_self]⟩

theorem integerText_opens (n : Int) (rest : List Char) :
    ∃ c more, integerText n ++ rest = c :: more ∧ opensNumber c = true := by
  rw [integerText_eq, List.append_assoc]
  exact (whole_toDigits n.natAbs).opens _ rest

theorem write_opens (x : Binary64) (rest : List Char) :
    ∃ c more, (Style.file.write x).toList ++ rest = c :: more ∧ opensNumber c = true := by
  cases x with
  | nan => exact ⟨_, _, rfl, rfl⟩
  | infinity negative => cases negative <;> exact ⟨_, _, rfl, rfl⟩
  | finite negative code bound =>
    obtain ⟨ws, fs, layout, laid⟩ := magnitude_laid bound
    rw [write_finite, layout, List.append_assoc, List.append_assoc]
    exact laid.whole.opens negative _

/-- A signed text without further hyphens and without colons is no moment. -/
theorem readMoment_signed (negative : Bool) {cs tail : List Char}
    (unmarked : ∀ c ∈ cs, c ≠ '-' ∧ c ≠ ':') (stop : Stops tail) :
    readMoment (signText negative ++ (cs ++ tail)) = none := by
  cases negative with
  | true => exact readMoment_of_not_isDigit rfl _
  | false =>
    show readMoment (cs ++ tail) = none
    exact readMoment_of_unmarked unmarked stop

theorem unmarked_of_isDigit {c : Char} (digit : c.isDigit = true) : c ≠ '-' ∧ c ≠ ':' := by
  constructor <;> rintro rfl <;> cases digit

theorem readMoment_integerText (n : Int) {tail : List Char} (stop : Stops tail) :
    readMoment (integerText n ++ tail) = none := by
  rw [integerText_eq, List.append_assoc]
  exact readMoment_signed _ (fun c mem => unmarked_of_isDigit (isDigit_of_mem_toDigits mem)) stop

theorem readMoment_write (x : Binary64) {tail : List Char} (stop : Stops tail) :
    readMoment ((Style.file.write x).toList ++ tail) = none := by
  cases x with
  | nan => exact readMoment_of_not_isDigit rfl _
  | infinity negative => cases negative <;> exact readMoment_of_not_isDigit rfl _
  | finite negative code bound =>
    obtain ⟨ws, fs, layout, laid⟩ := magnitude_laid bound
    rw [write_finite, layout, List.append_assoc]
    refine readMoment_signed negative (fun c mem => ?_) stop
    rcases List.mem_append.mp mem with mem | mem
    · exact unmarked_of_isDigit (laid.whole.digits c mem)
    · rcases List.mem_cons.mp mem with rfl | mem
      · decide
      · exact unmarked_of_isDigit (laid.digits c mem)

end NodeLink.Toml
