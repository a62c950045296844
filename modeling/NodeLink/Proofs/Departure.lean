import NodeLink.Proofs.Delivery

/-!
# The news that nobody completes a notice

A completer may leave without a result. The news of it can be had from one question only, the first
one asked afterwards, and only if that question is to await: to look then brings nothing and spends
the notice all the same. From there on to await is a misuse, although nothing was ever brought.

So a party that only awaits always hears the news, and one that looks never does. The last main
result says of a play of any kind when to await is a misuse.
-/

set_option autoImplicit false

namespace NodeLink

variable {α : Type}

namespace Query

/-- The first answer after the completer left. -/
def bereft : Query → Answer α
  | look => .looked none
  | await => .awaited (.ready (.error .dropped))

/-- The answers after the completer left. -/
def deserted : List Query → List (Answer α)
  | [] => []
  | query :: rest => query.bereft :: rest.map late

theorem result?_early (query : Query) : (query.early : Answer α).result? = none := by
  cases query <;> rfl

theorem result?_late (query : Query) : (query.late : Answer α).result? = none := by
  cases query <;> rfl

/-- The news is the only result that can be brought now. -/
theorem result?_bereft {query : Query} {r : Except Fault α} :
    (query.bereft : Answer α).result? = some r ↔ query = .await ∧ r = .error .dropped := by
  cases query with
  | look => simp [bereft, Answer.result?]
  | await => simp [bereft, Answer.result?, eq_comm]

/-- Only a first question that awaits brings something. -/
theorem mem_deserted {queries : List Query} {r : Except Fault α} :
    (∃ a ∈ (deserted queries : List (Answer α)), a.result? = some r) ↔
      queries.head? = some .await ∧ r = .error .dropped := by
  cases queries with
  | nil => simp [deserted]
  | cons query rest =>
    have others : ¬ ∃ a ∈ rest.map (late (α := α)), a.result? = some r := by
      rintro ⟨_, mem, found⟩
      obtain ⟨other, -, rfl⟩ := List.mem_map.mp mem
      rw [result?_late] at found
      cases found
    simp only [deserted, List.mem_cons, exists_eq_or_imp, others, or_false, result?_bereft,
      List.head?_cons, Option.some.injEq]

end Query

namespace Notice

/-- A notice whose completer left, and nobody has asked since. -/
def left : Notice α := ⟨false, none, .listening⟩

theorem dropCompleter_pending : (pending : Notice α).dropCompleter = left := rfl

theorem ask_left (query : Query) : (left : Notice α).ask query = (query.bereft, spent) := by
  cases query <;> rfl

theorem play_left (queries : List Query) :
    ((left : Notice α).play (queries.map .ask)) =
      (Query.deserted queries, if queries = [] then left else spent) := by
  cases queries with
  | nil => rfl
  | cons query rest =>
    simp only [List.map_cons, play, move, ask_left, play_spent, List.singleton_append,
      Query.deserted, reduceCtorEq, if_false]

/-- A play in which the completer leaves. -/
theorem play_deserted (before after : List Query) :
    (pending : Notice α).play (before.map .ask ++ .dropCompleter :: after.map .ask) =
      (before.map Query.early ++ Query.deserted after, if after = [] then left else spent) := by
  rw [play_append, play_pending, play, move, dropCompleter_pending, List.nil_append, play_left]

/-! ## When to await is a misuse -/

theorem await_misuse_iff (n : Notice α) : n.await.1 = .misuse ↔ n.waiting ≠ .listening := by
  unfold await
  split
  next listening => split <;> simp [listening]
  next other => simp [other]

/-- What ends the listening: a result that is brought, a look that passes over the news, or the
waiting party's own leaving. -/
theorem move_listening {n : Notice α} (listening : n.waiting = .listening) (m : Move α) :
    (n.move m).2.waiting ≠ .listening ↔
      (∃ a ∈ (n.move m).1, a.result?.isSome) ∨ (m = .ask .look ∧ n = left) ∨ m = .dropWaiting := by
  obtain ⟨completable, result, waiting⟩ := n
  cases listening
  cases m with
  | ask query =>
    cases query <;> cases completable <;> cases result <;>
      simp [move, ask, look, await, left, Answer.result?]
  | complete r => cases completable <;> simp [move, complete]
  | dropCompleter => simp [move, dropCompleter]
  | dropWaiting => simp [move, dropWaiting]

/-- Nobody who stopped to listen starts again. -/
theorem move_deaf {n : Notice α} (deaf : n.waiting ≠ .listening) (m : Move α) :
    (n.move m).2.waiting ≠ .listening := by
  cases m with
  | ask query => cases query <;> simp [move, ask, look, await, deaf]
  | complete r =>
    simp only [move, complete]
    split <;> exact deaf
  | dropCompleter => exact deaf
  | dropWaiting => simp [move, dropWaiting]

theorem play_deaf {n : Notice α} (deaf : n.waiting ≠ .listening) (moves : List (Move α)) :
    (n.play moves).2.waiting ≠ .listening := by
  induction moves generalizing n with
  | nil => exact deaf
  | cons m rest ih => exact ih (move_deaf deaf m)

/-- A play passes over the news if somebody looks right after the completer left. -/
def PassedOver (n : Notice α) (moves : List (Move α)) : Prop :=
  ∃ earlier later, moves = earlier ++ .ask .look :: later ∧ (n.play earlier).2 = left

theorem passedOver_cons {n : Notice α} {m : Move α} {moves : List (Move α)} :
    n.PassedOver (m :: moves) ↔ (m = .ask .look ∧ n = left) ∨ (n.move m).2.PassedOver moves := by
  constructor
  · rintro ⟨earlier, later, split, there⟩
    cases earlier with
    | nil =>
      obtain ⟨rfl, -⟩ := List.cons.inj split
      exact .inl ⟨rfl, there⟩
    | cons first earlier =>
      obtain ⟨rfl, rest⟩ := List.cons.inj split
      exact .inr ⟨earlier, later, rest, there⟩
  · rintro (⟨rfl, there⟩ | ⟨earlier, later, split, there⟩)
    · exact ⟨[], moves, rfl, there⟩
    · exact ⟨m :: earlier, later, by rw [split, List.cons_append], there⟩

/-- The listening ends in one of three ways. -/
theorem play_listening {n : Notice α} (listening : n.waiting = .listening)
    (moves : List (Move α)) :
    (n.play moves).2.waiting ≠ .listening ↔
      (∃ a ∈ (n.play moves).1, a.result?.isSome) ∨ n.PassedOver moves ∨ .dropWaiting ∈ moves := by
  induction moves generalizing n with
  | nil => simp [play, listening, PassedOver]
  | cons m rest ih =>
    have first := move_listening listening m
    simp only [play, passedOver_cons, List.mem_append, or_and_right, exists_or, List.mem_cons]
    by_cases still : (n.move m).2.waiting = .listening
    · -- the first move has ended nothing
      have nothing := fun ended => first.mpr ended still
      rw [ih still]
      grind
    · have ended := first.mp still
      have deaf := play_deaf still rest
      grind

/-- If the completer leaves, the first question afterwards is the only one that can bring the news,
and it does so if it awaits. If nobody asked, to await brings the news, and if somebody did, to
await is a misuse. In a play of any kind it is one only after a result was brought, after a look
passed over the news, or after the waiting party left. -/
theorem news_brought :
    (∀ before after : List Query,
      ((pending : Notice α).play (before.map .ask ++ .dropCompleter :: after.map .ask)).1 =
        before.map Query.early ++ Query.deserted after) ∧
    (∀ (before after : List Query) (r : Except Fault α),
      (∃ a ∈ (pending.play (before.map .ask ++ .dropCompleter :: after.map .ask)).1,
        a.result? = some r) ↔ after.head? = some .await ∧ r = .error .dropped) ∧
    (∀ before after : List Query,
      ((pending : Notice α).play
        (before.map .ask ++ .dropCompleter :: after.map .ask)).2.await.1 =
          if after = [] then .ready (.error .dropped) else .misuse) ∧
    (∀ moves : List (Move α), (pending.play moves).2.await.1 = .misuse ↔
      (∃ a ∈ (pending.play moves).1, a.result?.isSome) ∨ pending.PassedOver moves ∨
        .dropWaiting ∈ moves) := by
  refine ⟨fun before after => by rw [play_deserted], fun before after r => ?_,
    fun before after => ?_, fun moves => ?_⟩
  · rw [play_deserted]
    simp only [List.mem_append, or_and_right, exists_or, Query.mem_deserted]
    refine or_iff_right ?_
    rintro ⟨_, mem, found⟩
    obtain ⟨query, -, rfl⟩ := List.mem_map.mp mem
    rw [Query.result?_early] at found
    cases found
  · rw [play_deserted]
    dsimp only
    split <;> rfl
  · rw [await_misuse_iff]
    exact play_listening rfl moves

/-- Somebody looks after the completer left and then awaits: nothing brings the news, and to await
is a misuse. -/
theorem news_passed_over :
    ¬ ((∃ a ∈ ((pending : Notice Nat).play [.dropCompleter, .ask .look]).1,
        a.result? = some (.error .dropped)) ∨
      ((pending : Notice Nat).play [.dropCompleter, .ask .look]).2.await.1 =
        .ready (.error .dropped)) ∧
    (∀ a ∈ ((pending : Notice Nat).play [.dropCompleter, .ask .look]).1, a.result? = none) ∧
    ((pending : Notice Nat).play [.dropCompleter, .ask .look]).2.await.1 = .misuse := by
  have brought : ((pending : Notice Nat).play [.dropCompleter, .ask .look]).1 = [.looked none] :=
    rfl
  have misuse : ((pending : Notice Nat).play [.dropCompleter, .ask .look]).2.await.1 = .misuse :=
    rfl
  rw [brought, misuse]
  simp [Answer.result?]

end Notice

end NodeLink
