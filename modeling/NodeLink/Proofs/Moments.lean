import NodeLink.Proofs.Digits
import NodeLink.Toml.Moment

/-!
# Where a moment ends

A value in a TOML text is followed by a stop: the end of its line, a comma, or a closing bracket or
brace. No part of a moment begins with a stop, so a reader of one of its parts reads the same with
or without the text after the stop. A moment that is read to its end is therefore read to the stop.

A moment begins with a digit, and has a hyphen or a colon after its first digits. This tells it
from every other value.
-/

set_option autoImplicit false

namespace NodeLink.Toml

open Number (isDigit natural? isDigit_ten natural?_eq_none_of_mem natural?_eq_some_iff)

/-! ## Stops -/

/-- Characters that may follow a value. -/
def isStop (c : Char) : Bool := c = '\n' || c = ',' || c = ']' || c = '\x7d'

/-- A text that begins with a stop. -/
def Stops (cs : List Char) : Prop := ∃ c rest, cs = c :: rest ∧ isStop c = true

theorem stops_cons {c : Char} (rest : List Char) (h : isStop c = true) : Stops (c :: rest) :=
  ⟨c, rest, rfl, h⟩

theorem isStop_cases {c : Char} (h : isStop c = true) :
    c = '\n' ∨ c = ',' ∨ c = ']' ∨ c = '\x7d' := by
  simpa [isStop, or_assoc] using h

/-- What holds of the four stops holds of every stop. -/
theorem isStop_elim {P : Char → Prop} {c : Char} (h : isStop c = true)
    (all : P '\n' ∧ P ',' ∧ P ']' ∧ P '\x7d') : P c := by
  rcases isStop_cases h with rfl | rfl | rfl | rfl
  · exact all.1
  · exact all.2.1
  · exact all.2.2.1
  · exact all.2.2.2

theorem isDigit_of_isStop {c : Char} (h : isStop c = true) : c.isDigit = false :=
  isStop_elim (P := fun c => c.isDigit = false) h (by decide)

theorem ne_of_isStop {c d : Char} (h : isStop c = true) (other : isStop d = false) : c ≠ d := by
  rintro rfl
  rw [h] at other
  cases other

/-! ## The parts of a moment before a stop -/

section Stop

variable {tail : List Char} (stop : Stops tail)

include stop

theorem readTwo_append (low high : Nat) (cs : List Char) :
    readTwo low high (cs ++ tail) =
      (readTwo low high cs).map fun r => (r.1, r.2 ++ tail) := by
  obtain ⟨t, rest, rfl, h⟩ := stop
  have other := isDigit_of_isStop h
  match cs with
  | [] =>
    cases rest with
    | nil => rfl
    | cons u rest =>
      have none : natural? 10 [t, u] = none := natural?_eq_none_of_mem List.mem_cons_self other
      simp [readTwo, none]
  | [a] =>
    have none : natural? 10 [a, t] = none := natural?_eq_none_of_mem (by simp) other
    simp [readTwo, none]
  | a :: b :: cs =>
    simp only [readTwo, List.cons_append]
    cases natural? 10 [a, b] with
    | none => rfl
    | some n =>
      simp only [Option.bind_eq_bind, Option.bind_some]
      split <;> rfl

theorem expect?_append {c : Char} (other : isStop c = false) (cs : List Char) :
    expect? c (cs ++ tail) = (expect? c cs).map (· ++ tail) := by
  cases cs with
  | nil =>
    obtain ⟨t, rest, rfl, h⟩ := stop
    simp [expect?, (ne_of_isStop h other).symm]
  | cons d cs =>
    simp only [expect?, List.cons_append]
    split <;> rfl

theorem afterDate?_append (cs : List Char) :
    afterDate? (cs ++ tail) = (afterDate? cs).map (· ++ tail) := by
  match cs with
  | a :: b :: c :: d :: cs =>
    simp only [afterDate?, List.cons_append, expect?_append stop (c := '-') rfl,
      readTwo_append stop, Option.bind_eq_bind, Option.bind_map, Option.map_bind,
      Function.comp_def, apply_ite (Option.map (· ++ tail)), Option.map_some, Option.map_none]
  | [] | [_] | [_, _] | [_, _, _] =>
    obtain ⟨t, rest, rfl, h⟩ := stop
    have other := isDigit_of_isStop h
    -- a stop is among the four characters of the year
    unfold afterDate?
    split
    next a b c d cs split =>
      have mem : t ∈ [a, b, c, d] := by
        simp only [List.nil_append, List.cons_append, List.cons.injEq] at split
        simp [split]
      simp [natural?_eq_none_of_mem mem other]
    next => rfl

theorem afterFraction_append (cs : List Char) :
    afterFraction (cs ++ tail) = afterFraction cs ++ tail := by
  obtain ⟨t, rest, rfl, h⟩ := stop
  have other : isDigit 10 t = false := by rw [isDigit_ten, isDigit_of_isStop h]
  have point : t ≠ '.' := ne_of_isStop h rfl
  match cs with
  | [] =>
    unfold afterFraction
    split
    next there => exact absurd (List.cons.inj there).1 point
    next => rfl
  | [c] =>
    by_cases dot : c = '.'
    · simp [dot, afterFraction, other]
    · simp [afterFraction, dot]
  | c :: d :: cs =>
    by_cases dot : c = '.'
    · subst dot
      simp only [afterFraction, List.cons_append]
      split
      · -- the digits end at the stop, if not before
        rw [List.dropWhile_append, List.dropWhile_cons_of_neg (by simp [other])]
        split
        next empty => rw [List.isEmpty_iff.mp empty, List.nil_append]
        next => rfl
      · rfl
    · simp [afterFraction, dot]

theorem afterTime?_append (cs : List Char) :
    afterTime? (cs ++ tail) = (afterTime? cs).map (· ++ tail) := by
  simp only [afterTime?, readTwo_append stop, expect?_append stop (c := ':') rfl,
    afterFraction_append stop, Option.bind_eq_bind, Option.bind_map, Option.map_bind,
    Function.comp_def, Option.pure_def, Option.map_some]

theorem afterDistance?_append (cs : List Char) :
    afterDistance? (cs ++ tail) = (afterDistance? cs).map (· ++ tail) := by
  simp only [afterDistance?, readTwo_append stop, expect?_append stop (c := ':') rfl,
    Option.bind_eq_bind, Option.bind_map, Option.map_bind, Function.comp_def, Option.pure_def,
    Option.map_some]

theorem afterOffset_append (cs : List Char) :
    afterOffset (cs ++ tail) = afterOffset cs ++ tail := by
  cases cs with
  | nil =>
    obtain ⟨t, rest, rfl, h⟩ := stop
    have mark : ¬ (t = 'Z' ∨ t = 'z') :=
      isStop_elim (P := fun t => ¬ (t = 'Z' ∨ t = 'z')) h (by decide)
    have sign : ¬ (t = '+' ∨ t = '-') :=
      isStop_elim (P := fun t => ¬ (t = '+' ∨ t = '-')) h (by decide)
    simp only [afterOffset, List.nil_append, if_neg mark, if_neg sign]
  | cons c cs =>
    simp only [afterOffset, List.cons_append, afterDistance?_append stop]
    split
    · rfl
    · split
      · cases afterDistance? cs <;> rfl
      · rfl

theorem afterDay_append (cs : List Char) : afterDay (cs ++ tail) = afterDay cs ++ tail := by
  cases cs with
  | nil =>
    obtain ⟨t, rest, rfl, h⟩ := stop
    have mark : ¬ (t = 'T' ∨ t = 't' ∨ t = ' ') :=
      isStop_elim (P := fun t => ¬ (t = 'T' ∨ t = 't' ∨ t = ' ')) h (by decide)
    simp only [afterDay, List.nil_append, if_neg mark]
  | cons c cs =>
    simp only [afterDay, List.cons_append, afterTime?_append stop]
    split
    · cases afterTime? cs with
      | none => rfl
      | some rest => exact afterOffset_append stop rest
    · rfl

theorem afterMoment?_append (cs : List Char) :
    afterMoment? (cs ++ tail) = (afterMoment? cs).map (· ++ tail) := by
  simp only [afterMoment?, afterDate?_append stop, afterTime?_append stop]
  cases afterDate? cs with
  | none => rfl
  | some rest => exact congrArg some (afterDay_append stop rest)

/-- A moment that is read to its end is read to a stop. -/
theorem readMoment_append {spelling : List Char}
    (whole : readMoment spelling = some (spelling, [])) :
    readMoment (spelling ++ tail) = some (spelling, tail) := by
  obtain ⟨rest, read, same⟩ := Option.map_eq_some_iff.mp whole
  obtain rfl : rest = [] := (Prod.mk.inj same).2
  rw [readMoment, afterMoment?_append stop, read, Option.map_some, Option.map_some,
    List.nil_append, List.length_append, Nat.add_sub_cancel, List.take_left]

end Stop

/-! ## How a moment begins -/

/-- A text that begins with digits and a hyphen or a colon after them. -/
def Marked (cs : List Char) : Prop :=
  ∃ digits mark rest, cs = digits ++ mark :: rest ∧ digits ≠ [] ∧
    (∀ c ∈ digits, c.isDigit = true) ∧ (mark = '-' ∨ mark = ':')

theorem expect?_eq_some {c : Char} {cs rest : List Char} (h : expect? c cs = some rest) :
    cs = c :: rest := by
  cases cs with
  | nil => cases h
  | cons d cs =>
    simp only [expect?] at h
    split at h
    next same => rw [same, Option.some.inj h]
    next => cases h

theorem marked_of_afterDate? {cs rest : List Char} (h : afterDate? cs = some rest) :
    Marked cs := by
  unfold afterDate? at h
  split at h
  next a b c d cs =>
    obtain ⟨year, read, h⟩ := Option.bind_eq_some_iff.mp h
    obtain ⟨after, hyphen, -⟩ := Option.bind_eq_some_iff.mp h
    obtain ⟨some, digits, -⟩ := natural?_eq_some_iff.mp read
    rw [expect?_eq_some hyphen]
    exact ⟨[a, b, c, d], '-', after, rfl, some, digits, .inl rfl⟩
  next => cases h

theorem marked_of_afterTime? {cs rest : List Char} (h : afterTime? cs = some rest) :
    Marked cs := by
  obtain ⟨⟨hour, more⟩, read, h⟩ := Option.bind_eq_some_iff.mp h
  obtain ⟨after, colon, -⟩ := Option.bind_eq_some_iff.mp h
  unfold readTwo at read
  split at read
  next a b cs =>
    obtain ⟨n, spelled, bounded⟩ := Option.bind_eq_some_iff.mp read
    obtain ⟨some, digits, -⟩ := natural?_eq_some_iff.mp spelled
    split at bounded
    · obtain rfl : cs = more := (Prod.mk.inj (Option.some.inj bounded)).2
      rw [expect?_eq_some colon]
      exact ⟨[a, b], ':', after, rfl, some, digits, .inr rfl⟩
    · cases bounded
  next => cases read

theorem marked_of_readMoment {cs : List Char} {r : List Char × List Char}
    (h : readMoment cs = some r) : Marked cs := by
  obtain ⟨rest, read, -⟩ := Option.map_eq_some_iff.mp h
  unfold afterMoment? at read
  split at read
  next date => exact marked_of_afterDate? date
  next => exact marked_of_afterTime? read

/-- A moment begins with a digit. -/
theorem Marked.begins {cs : List Char} (h : Marked cs) :
    ∃ c rest, cs = c :: rest ∧ c.isDigit = true := by
  obtain ⟨digits, mark, rest, rfl, some, all, -⟩ := h
  obtain ⟨c, more, rfl⟩ := List.exists_cons_of_ne_nil some
  exact ⟨c, more ++ mark :: rest, rfl, all c List.mem_cons_self⟩

/-- No moment begins with a character that is no digit. -/
theorem readMoment_of_not_isDigit {c : Char} (other : c.isDigit = false) (rest : List Char) :
    readMoment (c :: rest) = none := by
  cases h : readMoment (c :: rest) with
  | none => rfl
  | some r =>
    obtain ⟨d, more, same, digit⟩ := (marked_of_readMoment h).begins
    rw [(List.cons.inj same).1, digit] at other
    cases other

/-- A text without hyphens and colons before its stop is no moment. -/
theorem readMoment_of_unmarked {cs tail : List Char} (unmarked : ∀ c ∈ cs, c ≠ '-' ∧ c ≠ ':')
    (stop : Stops tail) : readMoment (cs ++ tail) = none := by
  cases h : readMoment (cs ++ tail) with
  | none => rfl
  | some r =>
    obtain ⟨digits, mark, rest, same, -, all, sign⟩ := marked_of_readMoment h
    obtain ⟨t, after, rfl, stops⟩ := stop
    have outside : mark ∉ cs := by
      intro mem
      rcases sign with rfl | rfl
      · exact (unmarked _ mem).1 rfl
      · exact (unmarked _ mem).2 rfl
    -- the stop would be the mark, or one of the digits before it
    rcases List.append_eq_append_iff.mp same with
      ⟨more, digits_eq, tail_eq⟩ | ⟨more, cs_eq, mark_eq⟩
    · cases more with
      | nil =>
        obtain rfl : t = mark := (List.cons.inj tail_eq).1
        rcases sign with rfl | rfl <;> cases stops
      | cons d more =>
        obtain rfl : t = d := (List.cons.inj tail_eq).1
        have digit := all t (digits_eq ▸ List.mem_append_right cs List.mem_cons_self)
        rw [isDigit_of_isStop stops] at digit
        cases digit
    · cases more with
      | nil =>
        obtain rfl : mark = t := (List.cons.inj mark_eq).1
        rcases sign with rfl | rfl <;> cases stops
      | cons d more =>
        obtain rfl : mark = d := (List.cons.inj mark_eq).1
        exact absurd (cs_eq ▸ List.mem_append_right digits List.mem_cons_self) outside

end NodeLink.Toml
