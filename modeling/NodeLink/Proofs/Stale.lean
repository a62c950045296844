import NodeLink.Proofs.Spare

/-!
# Stale jobs

A job is stale when what it worked for is over: an attempt or a retry of an earlier chain, a watch
over a channel that is no longer the installed one. A stale job that goes on ends, and the link
is left as it was. A stale attempt also hands in what it got, for closing, and its ticket.

Woken in vain, a stale retry and a stale watch leave no trace but a log line. A run may therefore
do without these steps, and then the same happens in all the others.
-/

set_option autoImplicit false

namespace NodeLink

variable {σ : Type}

/-- Surroundings that write down what is logged. -/
def Surroundings.diligent : Surroundings (List LogLine) where
  react k s :=
    match k with
    | .logging line => ([], s ++ [line])
    | _ => ([], s)
  accept _ s := (none, s)
  delay _ s := (some 0, s)
  stages s := ([], s)
  traces _ := false
  isActive _ _ := true
  isWritable _ _ := true
  remote _ _ := none

/-- They never look at what they wrote down. -/
theorem Surroundings.diligent_aloof : diligent.Aloof fun _ _ => True where
  equivalence := ⟨fun _ => trivial, fun _ => trivial, fun _ _ => trivial⟩
  logging _ _ := ⟨rfl, trivial⟩
  react k _ _ _ := by cases k <;> exact ⟨rfl, trivial⟩
  accept _ _ _ _ := ⟨rfl, trivial⟩
  delay _ _ _ _ := ⟨rfl, trivial⟩
  stages _ := ⟨rfl, trivial⟩
  traces _ := rfl
  isActive _ := rfl
  isWritable _ := rfl

namespace Link

variable {o : Surroundings σ} {alike : σ → σ → Prop} {spare : List JobId} {k l : Link σ}

/-! ## One stale job -/

section One

variable (aloof : o.Aloof alike) (depth : Nat)
include aloof

/-- An attempt of an earlier chain hands in what it got, and its ticket. -/
theorem step_stale_attempt {id : JobId} {ticket : Option TicketId} {bootstrap : Bool}
    {epoch : UInt64} (job : l.job? id = some (.attempt ticket bootstrap epoch true))
    (stale : epoch ≠ l.epoch) (answer : Except Fault ChannelId) :
    ∃ s, alike s l.outside ∧ step o depth (.answer id answer) l =
      (((l.take id answer).turnAway ticket answer).count .discard).amid s := by
  obtain ⟨s, near, hs⟩ := log_aloof aloof (nested o depth) .debug "endpoint_connect_superseded"
    (l.take id answer).place (l.take id answer)
  have same : ((l.take id answer).cleanUp? answer).state = (l.take id answer).state := by
    cases answer <;> rfl
  have superseded : step o depth (.answer id answer) l =
      supersede o (nested o depth) ticket answer (l.take id answer) := by
    simp only [step, stepWith, job]
    exact if_pos (Ne.symm stale)
  refine ⟨s, near, ?_⟩
  rw [superseded]
  simp only [supersede, hs, turnAway, count_amid, cleanUp?_amid, cleanUp?_count, state_amid,
    state_count, same, settle?_amid, settle?_count]

/-- A retry of an earlier chain does nothing when its wait is over. -/
theorem step_stale_retry {id : JobId} {delay : Nat} {epoch : UInt64}
    (job : l.job? id = some (.retry delay epoch)) (stale : epoch ≠ l.epoch) :
    ∃ s, alike s l.outside ∧ step o depth (.wake id) l = (l.finish id).amid s := by
  have superseded : step o depth (.wake id) l = log o (nested o depth) .debug
      "endpoint_retry_superseded" l.place (l.finish id) := by
    simp only [step, stepWith, job]
    exact if_pos (Ne.symm stale)
  rw [superseded]
  exact log_aloof aloof (nested o depth) _ _ _ (l.finish id)

omit aloof in
/-- A watch over a channel that is not the installed one does nothing when that channel closes. -/
theorem step_stale_watch {id : JobId} {c : ChannelId} (job : l.job? id = some (.watch c))
    (stale : l.channel ≠ some c) : step o depth (.lost id) l = l.finish id := by
  simp only [step, stepWith, job, watchEnded]
  exact if_neg stale

end One

/-! ## Runs without stale jobs -/

/-- Whether a step wakes a job in vain. What it names is stale, or is no such job at all. -/
def vain (l : Link σ) : Step σ → Bool
  | .wake id =>
    match l.job? id with
    | some (.retry _ epoch) => epoch ≠ l.epoch
    | _ => true
  | .lost id =>
    match l.job? id with
    | some (.watch c) => l.channel ≠ some c
    | _ => true
  | _ => false

/-- The steps of a run that wake nobody in vain. -/
def effective (o : Surroundings σ) (depth : Nat) : List (Step σ) → Link σ → List (Step σ)
  | [], _ => []
  | s :: steps, l =>
    let rest := effective o depth steps (step o depth s l)
    if l.vain s then rest else s :: rest

namespace Spares

variable (aloof : o.Aloof alike) (depth : Nat)
include aloof

/-- Whoever was woken in vain is to spare from then on. -/
theorem vain (h : Spares alike spare k l) {s : Step σ} (vain : k.vain s = true) :
    ∃ spare', Spares alike spare' (Link.step o depth s k) l := by
  cases s with
  | wake id =>
    simp only [Link.vain] at vain
    split at vain
    next delay epoch job =>
      obtain ⟨s, near, woken⟩ := step_stale_retry aloof depth job (of_decide_eq_true vain)
      rw [woken]
      exact ⟨id :: spare, (h.spared (h.job?_of_some job) trivial).amid (t := l.outside)
        (aloof.equivalence.trans near h.outside)⟩
    next other =>
      refine ⟨spare, ?_⟩
      simp only [Link.step, stepWith]
      exact h
  | lost id =>
    simp only [Link.vain] at vain
    split at vain
    next c job =>
      rw [step_stale_watch depth job (of_decide_eq_true vain)]
      exact ⟨id :: spare, h.spared (h.job?_of_some job) trivial⟩
    next other =>
      refine ⟨spare, ?_⟩
      simp only [Link.step, stepWith]
      exact h
  | _ => cases vain

/-- Every other step is taken by both links. -/
theorem step_of_not_vain (h : Spares alike spare k l) {s : Step σ} (telling : k.vain s = false) :
    Spares alike spare (Link.step o depth s k) (Link.step o depth s l) := by
  refine h.step aloof depth fun id mem => ⟨?_, ?_⟩
  all_goals
    rintro rfl
    simp only [Link.vain, (h.job?_spare mem).1] at telling
    cases telling

/-- What is woken in vain may be left waiting, by induction on the run. -/
theorem run (h : Spares alike spare k l) (steps : List (Step σ)) : ∃ spare', Spares alike spare'
    (Link.run o depth steps k) (Link.run o depth (effective o depth steps k) l) := by
  induction steps generalizing spare k l with
  | nil => exact ⟨spare, h⟩
  | cons s steps ih =>
    cases vain : k.vain s with
    | true =>
      obtain ⟨spare', woken⟩ := h.vain aloof depth vain
      simp only [effective, vain, ↓reduceIte]
      exact ih woken
    | false =>
      have both := h.step_of_not_vain aloof depth vain
      simp only [effective, vain, Bool.false_eq_true, ↓reduceIte]
      exact ih both

end Spares

/-- Stale jobs are inert. The surroundings may keep a log, and afterwards they are what they were
but for the log.
* An attempt of an earlier chain, however it is answered, ends, counts as discarded, has a job
  created that closes what it got, and settles its ticket with the state. All else stays.
* A retry of an earlier chain ends when it is woken. All else stays, the journal included.
* So does a watch over a channel that is not the installed one.
* What a run does, it does without the steps that wake a job in vain. It then keeps some retries
  and watches that wait; the rest is the same, the journal included. -/
theorem stale_inert (aloof : o.Aloof alike) (depth : Nat) :
    (∀ (l : Link σ) {id : JobId} {ticket : Option TicketId} {bootstrap : Bool} {epoch : UInt64}
        (answer : Except Fault ChannelId),
      l.job? id = some (.attempt ticket bootstrap epoch true) → epoch ≠ l.epoch →
      ∃ s, alike s l.outside ∧ step o depth (.answer id answer) l =
        { l with
          metrics := l.metrics.record .discard
          jobs := (l.finish id).jobs ++ l.leftover answer
          jobCount := l.jobCount + (l.leftover answer).length
          journal := l.journal ++ .answered id answer ::
            (l.disposing answer ++ settling ticket (.ok l.state))
          outside := s }) ∧
    (∀ (l : Link σ) {id : JobId} {delay : Nat} {epoch : UInt64},
      l.job? id = some (.retry delay epoch) → epoch ≠ l.epoch →
      ∃ s, alike s l.outside ∧
        step o depth (.wake id) l = { l with jobs := (l.finish id).jobs, outside := s }) ∧
    (∀ (l : Link σ) {id : JobId} {c : ChannelId},
      l.job? id = some (.watch c) → l.channel ≠ some c →
      step o depth (.lost id) l = { l with jobs := (l.finish id).jobs }) ∧
    ∀ (identity : Identity) (environment : Environment) (outside : σ) (steps : List (Step σ)),
      let l := run o depth steps (.new identity environment outside)
      let fewer := effective o depth steps (.new identity environment outside)
      let k := run o depth fewer (.new identity environment outside)
      ∃ spare : List JobId, alike l.outside k.outside ∧
        l = { k with jobs := k.jobs.filter (·.1 ∉ spare), outside := l.outside } ∧
        ∀ e ∈ k.jobs, e.1 ∈ spare → e.2.Waits := by
  refine ⟨fun l id ticket bootstrap epoch answer job stale => ?_,
    fun l id delay epoch job stale => ?_, fun l id c job stale => ?_,
    fun identity environment outside steps => ?_⟩
  · obtain ⟨s, near, stepped⟩ := step_stale_attempt aloof depth job stale answer
    refine ⟨s, near, stepped.trans ?_⟩
    rw [turnAway_eq, take, note, List.append_assoc]
    rfl
  · exact step_stale_retry aloof depth job stale
  · exact step_stale_watch depth job stale
  · have start : Spares alike [] (Link.new identity environment outside)
        (.new identity environment outside) := .refl aloof.equivalence (.new ..)
    obtain ⟨spare, h⟩ := start.run aloof depth steps
    obtain ⟨same, waiting⟩ := h.eq_without
    exact ⟨spare, h.outside, same, waiting⟩

/-- A link that lost a channel and two chains has an attempt, a retry and a watch that are stale. -/
theorem stale_inert_abandoned :
    let steps : List (Step (List LogLine)) := [.call .connect, .start 0,
      .answer 0 (.error .notConnected), .call .reportLoss, .start 2, .answer 2 (.ok 7),
      .call .reportLoss, .start 5, .call .reportLoss]
    let idle : Link (List LogLine) := .new sample.identity sample.environment []
    let l := run .diligent 1 steps idle
    (step .diligent 1 (.answer 5 (.ok 8)) l).lifecycle = l.lifecycle ∧
      (step .diligent 1 (.wake 1) l).journal = l.journal ∧
      (step .diligent 1 (.lost 4) l).channel = l.channel ∧
      (let all := steps ++ [.wake 1, .lost 4]
      let fewer := effective .diligent 1 all idle
      fewer.length = steps.length ∧
        (run .diligent 1 all idle).journal = (run .diligent 1 fewer idle).journal) := by
  intro steps idle l
  obtain ⟨attempt, retry, watch, runs⟩ := stale_inert Surroundings.diligent_aloof 1
  have attempting : l.job? 5 = some (.attempt (some 2) false 3 true) := by decide
  have waiting : l.job? 1 = some (.retry 0 1) := by decide
  have watching : l.job? 4 = some (.watch 7) := by decide
  obtain ⟨_, -, answered⟩ := attempt l (.ok 8) attempting (by decide)
  obtain ⟨_, -, woken⟩ := retry l waiting (by decide)
  have lost := watch l watching (by decide)
  obtain ⟨spare, -, same, -⟩ := runs sample.identity sample.environment []
    (steps ++ [.wake 1, .lost 4])
  have stays := congrArg lifecycle answered
  have silent := congrArg journal woken
  have vacant := congrArg channel lost
  have told := congrArg journal same
  -- the records are opened first: to compare them whole would run the link again
  dsimp only at stays silent vacant told
  exact ⟨stays, silent, vacant, by decide +kernel, told⟩

end Link

end NodeLink
