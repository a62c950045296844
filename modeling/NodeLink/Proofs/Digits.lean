import NodeLink.Number.Digits

/-!
# Digits in base ten

What a text of decimal digits spells is said by the library's `Nat.ofDigitChars`. The readers of
this project agree with it: a text spells a number exactly if it is made of digits and is not
empty, and the digits that the library writes for a number are read as that number. They begin
with zero for zero alone.
-/

set_option autoImplicit false

namespace NodeLink.Number

/-- The value of a decimal digit. -/
def digitValue (c : Char) : Nat := c.toNat - '0'.toNat

theorem digit?_of_isDigit {c : Char} (h : c.isDigit = true) :
    digit? 10 c = some (digitValue c) := by
  obtain ⟨low, high⟩ := Char.isDigit_iff_toNat.mp h
  have inside : '0' ≤ c ∧ c ≤ '9' := ⟨low, high⟩
  have small : c.toNat - '0'.toNat < 10 := by
    have nine : '9'.toNat = '0'.toNat + 9 := rfl
    omega
  simp only [digit?, if_pos inside, if_pos small, digitValue]

theorem digit?_of_not_isDigit {c : Char} (h : c.isDigit = false) : digit? 10 c = none := by
  have outside : ¬ ('0' ≤ c ∧ c ≤ '9') := by
    intro inside
    rw [Char.isDigit_iff_toNat.mpr inside] at h
    cases h
  have large : ∀ n, ¬ n + 10 < 10 := fun n => by omega
  unfold digit?
  rw [if_neg outside]
  split
  · exact if_neg (large _)
  · split
    · exact if_neg (large _)
    · exact if_neg (Nat.lt_irrefl 10)

theorem isDigit_ten (c : Char) : isDigit 10 c = c.isDigit := by
  unfold isDigit
  cases h : c.isDigit with
  | true => rw [digit?_of_isDigit h, Option.isSome_some]
  | false => rw [digit?_of_not_isDigit h, Option.isSome_none]

theorem ofDigits_map_digitValue (cs : List Char) :
    ofDigits 10 (cs.map digitValue) = Nat.ofDigitChars 10 cs 0 := by
  rw [ofDigits, List.foldl_map, Nat.ofDigitChars_eq_foldl]
  simp only [digitValue, Nat.mul_comm]

theorem mapM_digit? {cs : List Char} (digits : ∀ c ∈ cs, c.isDigit = true) :
    cs.mapM (digit? 10) = some (cs.map digitValue) := by
  induction cs with
  | nil => rfl
  | cons c rest ih =>
    rw [List.mapM_cons, digit?_of_isDigit (digits c List.mem_cons_self),
      ih fun d mem => digits d (List.mem_cons_of_mem c mem)]
    rfl

theorem mapM_digit?_of_not_digit {cs : List Char} {c : Char} (mem : c ∈ cs)
    (other : c.isDigit = false) : cs.mapM (digit? 10) = none := by
  induction cs with
  | nil => cases mem
  | cons d rest ih =>
    rw [List.mapM_cons]
    rcases List.mem_cons.mp mem with rfl | mem
    · rw [digit?_of_not_isDigit other]
      rfl
    · rw [ih mem]
      cases digit? 10 d <;> rfl

/-- A text spells a number if it is made of digits and is not empty. -/
theorem natural?_eq_some_iff {cs : List Char} {n : Nat} :
    natural? 10 cs = some n ↔
      cs ≠ [] ∧ (∀ c ∈ cs, c.isDigit = true) ∧ Nat.ofDigitChars 10 cs 0 = n := by
  unfold natural?
  by_cases empty : cs = []
  · simp [empty]
  · rw [if_neg empty]
    by_cases digits : ∀ c ∈ cs, c.isDigit = true
    · rw [mapM_digit? digits, Option.map_some, ofDigits_map_digitValue, Option.some.injEq]
      exact ⟨fun same => ⟨empty, digits, same⟩, fun h => h.2.2⟩
    · obtain ⟨c, mem, other⟩ : ∃ c ∈ cs, c.isDigit = false := by simpa using digits
      rw [mapM_digit?_of_not_digit mem other]
      simp [digits]

theorem natural?_eq_none_of_mem {cs : List Char} {c : Char} (mem : c ∈ cs)
    (other : c.isDigit = false) : natural? 10 cs = none := by
  cases h : natural? 10 cs with
  | none => rfl
  | some n =>
    have digit := (natural?_eq_some_iff.mp h).2.1 c mem
    rw [other] at digit
    cases digit

/-! ## The digits of a number -/

theorem isDigit_of_mem_toDigits {n : Nat} {c : Char} (mem : c ∈ Nat.toDigits 10 n) :
    c.isDigit = true :=
  Nat.isDigit_of_mem_toDigits (by decide) (by decide) mem

theorem ofDigits_toDigits (n : Nat) : ofDigits 10 ((Nat.toDigits 10 n).map digitValue) = n := by
  rw [ofDigits_map_digitValue, Nat.ofDigitChars_ten_toDigits]

/-- The digits of a number begin with zero only if it is zero. -/
theorem head?_toDigits {n : Nat} (pos : 0 < n) : (Nat.toDigits 10 n).head? ≠ some '0' := by
  induction n using Nat.strongRecOn with
  | ind n ih =>
    rcases Nat.lt_or_ge n 10 with small | large
    · rw [Nat.toDigits_of_lt_base small, List.head?_cons]
      intro zero
      have := Nat.digitChar_eq_zero.mp (Option.some.inj zero)
      omega
    · have first := ih (n / 10) (by omega) (by omega)
      obtain ⟨c, rest, digits⟩ :=
        List.exists_cons_of_ne_nil (Nat.toDigits_ne_nil (n := n / 10) (b := 10))
      rw [digits] at first
      rw [Nat.toDigits_of_base_le (by decide) large, digits]
      exact first

/-- A further zero makes ten times the number. -/
theorem length_toDigits_mul_ten {n : Nat} (pos : 0 < n) :
    (Nat.toDigits 10 (n * 10)).length = (Nat.toDigits 10 n).length + 1 := by
  have split : Nat.toDigits 10 (n * 10) = Nat.toDigits 10 n ++ Nat.toDigits 10 0 := by
    rw [Nat.toDigits_append_toDigits (by decide) pos (by decide), Nat.mul_comm, Nat.add_zero]
  rw [split, List.length_append, Nat.toDigits_zero, List.length_singleton]

end NodeLink.Number
