import NodeLink.Notice

/-!
# Notices deliver once

The two parties of a notice act in turns of any order: the completer completes or leaves, the
waiting party looks, awaits or leaves. A play is a list of such moves, and what the waiting party is
told is a list of answers.

A notice brings one result in a whole play at most, whatever the moves are. If the completer
completes, that result is the first answer afterwards, by whichever way the waiting party asks, and
all earlier and later answers are empty. If the waiting party leaves, the notice is abandoned from
that move on, and completing it does no more than the completer's leaving would.
-/

set_option autoImplicit false

namespace NodeLink

/-- What the waiting party can ask. -/
inductive Query
  | look
  | await
deriving DecidableEq

/-- What the waiting party is told. -/
inductive Answer (α : Type)
  | looked (found : Option (Except Fault α))
  | awaited (found : Awaited α)

/-- What the two parties do. -/
inductive Move (α : Type)
  | ask (query : Query)
  | complete (result : Except Fault α)
  | dropCompleter
  | dropWaiting

variable {α : Type}

namespace Answer

/-- The result that an answer brings. -/
def result? : Answer α → Option (Except Fault α)
  | looked found => found
  | awaited (.ready result) => some result
  | awaited .pending => none
  | awaited .misuse => none

end Answer

namespace Query

/-- The answer before there is a result. -/
def early : Query → Answer α
  | look => .looked none
  | await => .awaited .pending

/-- The answer that brings the result. -/
def told (r : Except Fault α) : Query → Answer α
  | look => .looked (some r)
  | await => .awaited (.ready r)

/-- The answer after the result was brought. -/
def late : Query → Answer α
  | look => .looked none
  | await => .awaited .misuse

/-- The answers once there is a result. -/
def settled (r : Except Fault α) : List Query → List (Answer α)
  | [] => []
  | query :: rest => query.told r :: rest.map late

end Query

namespace Notice

/-! ## Plays -/

def ask (n : Notice α) : Query → Answer α × Notice α
  | .look => (.looked n.look.1, n.look.2)
  | .await => (.awaited n.await.1, n.await.2)

/-- What a move makes of a notice, and what the waiting party is told. -/
def move (n : Notice α) : Move α → List (Answer α) × Notice α
  | .ask query => ([(n.ask query).1], (n.ask query).2)
  | .complete r => ([], n.complete r)
  | .dropCompleter => ([], n.dropCompleter)
  | .dropWaiting => ([], n.dropWaiting)

/-- Moves one after the other. -/
def play (n : Notice α) : List (Move α) → List (Answer α) × Notice α
  | [] => ([], n)
  | m :: rest => ((n.move m).1 ++ ((n.move m).2.play rest).1, ((n.move m).2.play rest).2)

theorem play_append (n : Notice α) (moves more : List (Move α)) :
    n.play (moves ++ more) =
      ((n.play moves).1 ++ ((n.play moves).2.play more).1, ((n.play moves).2.play more).2) := by
  induction moves generalizing n with
  | nil => rfl
  | cons m rest ih => simp only [List.cons_append, play, ih, List.append_assoc]

/-! ## The course of a notice -/

/-- A notice that brought its result. -/
def spent : Notice α := ⟨false, none, .spent⟩

theorem ready_eq (r : Except Fault α) : (pending : Notice α).complete r = ready r := rfl

theorem ask_pending (query : Query) : (pending : Notice α).ask query = (query.early, pending) := by
  cases query <;> rfl

theorem ask_ready (r : Except Fault α) (query : Query) :
    (ready r).ask query = (query.told r, spent) := by
  cases query <;> rfl

theorem ask_spent (query : Query) : (spent : Notice α).ask query = (query.late, spent) := by
  cases query <;> rfl

theorem play_pending (queries : List Query) :
    (pending : Notice α).play (queries.map .ask) = (queries.map Query.early, pending) := by
  induction queries with
  | nil => rfl
  | cons query rest ih =>
    simp only [List.map_cons, play, move, ask_pending, ih, List.singleton_append]

theorem play_spent (queries : List Query) :
    (spent : Notice α).play (queries.map .ask) = (queries.map Query.late, spent) := by
  induction queries with
  | nil => rfl
  | cons query rest ih =>
    simp only [List.map_cons, play, move, ask_spent, ih, List.singleton_append]

theorem play_ready (r : Except Fault α) (queries : List Query) :
    ((ready r).play (queries.map .ask)).1 = Query.settled r queries := by
  cases queries with
  | nil => rfl
  | cons query rest =>
    simp only [List.map_cons, play, move, ask_ready, play_spent, List.singleton_append,
      Query.settled]

/-! ## Leaving -/

/-- A move abandons a notice only if the waiting party leaves by it. -/
theorem move_isAbandoned (n : Notice α) (m : Move α) :
    (n.move m).2.isAbandoned = true ↔ n.isAbandoned = true ∨ m = .dropWaiting := by
  cases m with
  | ask query =>
    cases query with
    | look =>
      simp only [move, ask, look]
      split
      next listening => simp [isAbandoned, listening]
      next => simp
    | await =>
      simp only [move, ask, await]
      split
      next listening => split <;> simp [isAbandoned, listening]
      next => simp
  | complete r =>
    simp only [move, complete]
    split <;> simp [isAbandoned]
  | dropCompleter =>
    show n.isAbandoned = true ↔ _
    simp
  | dropWaiting => simp [move, dropWaiting, isAbandoned]

theorem play_isAbandoned (n : Notice α) (moves : List (Move α)) :
    (n.play moves).2.isAbandoned = true ↔ n.isAbandoned = true ∨ .dropWaiting ∈ moves := by
  induction moves generalizing n with
  | nil => simp [play]
  | cons m rest ih =>
    rw [play, ih, move_isAbandoned, List.mem_cons, or_assoc, eq_comm (a := m)]

/-- Nobody keeps a result for a party that left. -/
def Tidy (n : Notice α) : Prop := n.waiting = .gone → n.result = none

theorem Tidy.move {n : Notice α} (tidy : n.Tidy) (m : Move α) : (n.move m).2.Tidy := by
  cases m with
  | ask query =>
    cases query with
    | look =>
      simp only [Notice.move, ask, look]
      split
      · exact fun _ => rfl
      · exact tidy
    | await =>
      simp only [Notice.move, ask, await]
      split
      · split
        · exact tidy
        · exact fun _ => rfl
      · exact tidy
  | complete r =>
    simp only [Notice.move, complete]
    split
    · exact fun gone => if_pos gone
    · exact tidy
  | dropCompleter => exact tidy
  | dropWaiting => exact fun _ => rfl

theorem Tidy.play {n : Notice α} (tidy : n.Tidy) (moves : List (Move α)) :
    (n.play moves).2.Tidy := by
  induction moves generalizing n with
  | nil => exact tidy
  | cons m rest ih => exact ih (tidy.move m)

/-- A completer that completes for nobody only leaves. -/
theorem Tidy.complete {n : Notice α} (tidy : n.Tidy) (left : n.isAbandoned = true)
    (r : Except Fault α) : n.complete r = n.dropCompleter := by
  have gone : n.waiting = .gone := of_decide_eq_true left
  cases h : n.completable with
  | true => simp only [Notice.complete, dropCompleter, h, gone, tidy gone, ↓reduceIte]
  | false =>
    have same : n.dropCompleter = n := by rw [dropCompleter, ← h]
    rw [same, Notice.complete, h]
    exact if_neg Bool.false_ne_true

/-! ## Delivery -/

/-- How many results a notice can still bring. -/
def credit (n : Notice α) : Nat := if n.waiting = .listening then 1 else 0

/-- A result is paid for. -/
theorem move_results (n : Notice α) (m : Move α) :
    (n.move m).1.countP (·.result?.isSome) + (n.move m).2.credit ≤ n.credit := by
  cases m with
  | ask query =>
    cases query with
    | look =>
      simp only [move, ask, look]
      split
      next listening =>
        have bound : [Answer.looked n.result].countP (·.result?.isSome) ≤ 1 :=
          List.countP_le_length
        simpa [credit, listening] using bound
      next => exact Nat.le_of_eq (Nat.zero_add n.credit)
    | await =>
      simp only [move, ask, await]
      split
      next listening =>
        split
        · exact Nat.le_of_eq (Nat.zero_add n.credit)
        · simp [Answer.result?, credit, listening]
      next => exact Nat.le_of_eq (Nat.zero_add n.credit)
  | complete r =>
    simp only [move, complete]
    split <;> simp [credit]
  | dropCompleter => exact Nat.le_of_eq (Nat.zero_add n.credit)
  | dropWaiting => exact Nat.zero_le n.credit

/-- In a whole play a notice brings one result at most. -/
theorem results_le_one (n : Notice α) (moves : List (Move α)) :
    (n.play moves).1.countP (·.result?.isSome) ≤ n.credit := by
  induction moves generalizing n with
  | nil => exact Nat.zero_le _
  | cons m rest ih =>
    have first := move_results n m
    have others := ih (n.move m).2
    rw [play, List.countP_append]
    omega

/-- In whatever way the waiting party asks, the first answer after the completion brings the result,
and no other answer brings any. From the move on by which the waiting party leaves, and not before,
the notice is abandoned, and to complete it is no more than to leave. -/
theorem delivered_once (r : Except Fault α) :
    (∀ before after : List Query,
      ((pending : Notice α).play (before.map .ask ++ .complete r :: after.map .ask)).1 =
        before.map Query.early ++ Query.settled r after) ∧
    (∀ after : List Query, ((ready r).play (after.map .ask)).1 = Query.settled r after) ∧
    (∀ moves, ((pending : Notice α).play moves).1.countP (·.result?.isSome) ≤ 1) ∧
    (∀ moves, ((pending : Notice α).play moves).2.isAbandoned = true ↔ .dropWaiting ∈ moves) ∧
    (∀ earlier later, ((pending : Notice α).play (earlier ++ .dropWaiting :: later)).2.complete r =
      ((pending : Notice α).play (earlier ++ .dropWaiting :: later)).2.dropCompleter) := by
  refine ⟨fun before after => ?_, play_ready r, results_le_one pending, fun moves => ?_,
    fun earlier later => ?_⟩
  · rw [play_append, play_pending, play, move, ready_eq, List.nil_append, play_ready]
  · rw [play_isAbandoned]
    simp [isAbandoned, pending]
  · have tidy : (pending : Notice α).Tidy := fun _ => rfl
    refine (tidy.play _).complete ?_ r
    rw [play_isAbandoned]
    exact .inr (List.mem_append_right earlier List.mem_cons_self)

end Notice

end NodeLink
