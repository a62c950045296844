import Mathlib.Data.List.Induction
import NodeLink.Link.Opening
import NodeLink.Proofs.Invariant

/-!
# The options of every attempt

A link may call its connector any number of times: for the first attempt of a chain, for each
retry, and anew after every loss. Whatever the surroundings do in between, each of these calls gets
the options that the identity and the settings at the opening describe, and the stages that the
owner appends in this one attempt.

Two facts carry this. Identity and environment are never written. And the connector is called in two
places only, both of which build the options from scratch: where a new attempt is taken up, and
where the wait of a retry ends. All other work leaves the *standing* of a link as it was. That is
shown from the small changes upwards, for all surroundings, calls within calls included.
-/

set_option autoImplicit false

namespace NodeLink

open Lifecycle (State)

/-- The call of the connector that an act is: for which job, and with which options. -/
def Act.attempt? : Act → Option (JobId × ConnectOptions)
  | .dialed id options => some (id, options)
  | _ => none

/-- The environment that passes the check is the one that was given. -/
theorem Collaborators.environment_of_check {c : Collaborators} {e : Environment}
    (complete : c.check = .ok e) : c.environment = some e := by
  unfold check at complete
  split at complete
  · cases complete
  · repeat' split at complete
    all_goals simp_all

/-- Surroundings that ask the link to connect whenever it publishes an event, whose tracing comes
and goes, and whose owner appends one stage more at every attempt. -/
def Surroundings.layering : Surroundings Nat where
  react k s :=
    match k with
    | .publishing _ => ([.connect], s)
    | _ => ([], s)
  accept _ s := (none, s)
  delay _ s := (some 0, s)
  stages s := (List.replicate (s + 1) (.named "codec"), s + 1)
  traces s := s % 2 == 0
  isActive _ _ := true
  isWritable _ _ := true
  remote _ _ := none

namespace Link

variable {σ : Type} {o : Surroundings σ} {nested : Call → Link σ → Link σ}

/-- The calls of the connector so far, oldest first. -/
def attempts (l : Link σ) : List (JobId × ConnectOptions) := l.journal.filterMap Act.attempt?

/-- What the options of an attempt are made from, and the calls of the connector so far. -/
structure Standing where
  identity : Identity
  environment : Environment
  attempts : List (JobId × ConnectOptions)

def standing (l : Link σ) : Standing := ⟨l.identity, l.environment, l.attempts⟩

/-! ## Work that calls no connector -/

/-! ### Small changes -/

@[simp] theorem standing_note (l : Link σ) {a : Act} (still : a.attempt? = none) :
    (l.note a).standing = l.standing := by
  simp only [standing, attempts, note, List.filterMap_append, List.filterMap_cons, still,
    List.filterMap_nil, List.append_nil]

@[simp] theorem standing_amid (l : Link σ) (s : σ) : (l.amid s).standing = l.standing := rfl

@[simp] theorem standing_count (l : Link σ) (c : Counter) :
    (l.count c).standing = l.standing := rfl

@[simp] theorem standing_shift (l : Link σ) (next : State) :
    (l.shift next).standing = l.standing := by
  unfold shift
  split
  · rfl
  · exact standing_note { l with lifecycle := l.lifecycle.transition next } rfl

@[simp] theorem standing_install (l : Link σ) (c : ChannelId) :
    (l.install c).standing = l.standing :=
  standing_note { l with channel := some c } (a := .installed c) rfl

@[simp] theorem standing_clear (l : Link σ) : l.clear.standing = l.standing := by
  unfold clear
  split
  · exact standing_note { l with channel := none } rfl
  · rfl

@[simp] theorem standing_spawn (l : Link σ) (j : Job) : (l.spawn j).standing = l.standing :=
  standing_note { l with jobs := l.jobs ++ [(l.jobCount, j)], jobCount := l.jobCount + 1 }
    (a := .spawned l.jobCount j) rfl

@[simp] theorem standing_finish (l : Link σ) (id : JobId) :
    (l.finish id).standing = l.standing := rfl

@[simp] theorem standing_become (l : Link σ) (id : JobId) (j : Job) :
    (l.become id j).standing = l.standing := rfl

@[simp] theorem standing_settle (l : Link σ) (id : TicketId) (outcome : Outcome) :
    (l.settle id outcome).standing = l.standing := standing_note l rfl

@[simp] theorem standing_settle? (l : Link σ) (id : Option TicketId) (outcome : Outcome) :
    (l.settle? id outcome).standing = l.standing := by
  cases id with
  | none => rfl
  | some id => exact standing_settle l id outcome

@[simp] theorem standing_cleanUp? (l : Link σ) (answer : Except Fault ChannelId) :
    (l.cleanUp? answer).standing = l.standing := by
  cases answer with
  | ok c => exact standing_spawn l _
  | error => rfl

@[simp] theorem standing_startChain (bootstrap : Bool) (l : Link σ) :
    (startChain bootstrap l).2.standing = l.standing :=
  standing_spawn _ _

/-! ### Calls -/

section Within

variable (calls : ∀ c (l : Link σ), (nested c l).standing = l.standing)
include calls

/-- By induction on the calls that the surroundings make on the occasion. -/
theorem standing_occur (k : Occasion) (l : Link σ) :
    (occur o nested k l).standing = l.standing :=
  List.foldlRecOn (motive := fun k : Link σ => k.standing = l.standing) _ _ rfl
    fun k called c _ => (calls c k).trans called

theorem standing_log (level : Level) (message : String) (fields : List (String × String))
    (l : Link σ) : (log o nested level message fields l).standing = l.standing :=
  standing_occur calls _ l

theorem standing_moveTo (next : State) (l : Link σ) :
    (moveTo o nested next l).standing = l.standing := by
  unfold moveTo
  split <;> simp [standing_log calls]

theorem standing_publish {e : Event} {answer : Option Refusal} {l k : Link σ}
    (asked : publish o nested e l = (answer, k)) : k.standing = l.standing := by
  cases asked
  rw [standing_note _ rfl]
  exact standing_occur calls _ l

theorem standing_signalReload (l : Link σ) : (signalReload o nested l).standing = l.standing := by
  unfold signalReload
  split
  next asked => rw [standing_publish calls asked, standing_count]
  next asked => rw [standing_log calls, standing_publish calls asked, standing_count]

theorem standing_connectWith (bootstrap : Bool) (l : Link σ) :
    (connectWith o nested bootstrap l).2.standing = l.standing := by
  simp only [connectWith]
  split
  · exact standing_log calls _ _ _ l
  · split
    · rw [standing_startChain, standing_moveTo calls]
    · dsimp only
      split
      · exact standing_log calls _ _ _ l
      · rfl

theorem standing_disconnect (l : Link σ) : (disconnect o nested l).2.standing = l.standing := by
  simp only [disconnect]
  split
  · rfl
  · rfl
  · rw [standing_clear, standing_moveTo calls]
    rfl
  · exact (standing_spawn _ _).trans (standing_moveTo calls _ _)

theorem standing_reportLoss (l : Link σ) : (reportLoss o nested l).standing = l.standing := by
  unfold reportLoss
  split
  · rfl
  · have signaled (down : Bool) (k : Link σ) :
        (if down = true then k else signalReload o nested k).standing = k.standing := by
      cases down with
      | true => rfl
      | false => exact standing_signalReload calls k
    dsimp only
    split
    · rw [standing_spawn, standing_connectWith calls, standing_clear, standing_moveTo calls,
        signaled, standing_log calls, standing_count]
    · rw [signaled, standing_log calls, standing_count]

theorem standing_flush (l : Link σ) : (flush o nested l).standing = l.standing := by
  unfold flush
  repeat' split
  · exact (standing_occur calls _ _).trans (standing_note l rfl)
  all_goals rfl

theorem standing_redirect (r : Request) (l : Link σ) :
    (redirect o nested r l).standing = l.standing := by
  simp only [redirect]
  split
  next asked => rw [standing_publish calls asked, standing_log calls, standing_count]
  next asked =>
    rw [standing_note _ rfl, standing_log calls, standing_publish calls asked, standing_log calls,
      standing_count]

theorem standing_write (c : ChannelId) (r : Request) (l : Link σ) :
    (write o nested c r l).standing = l.standing :=
  (standing_occur calls (.writing c r) _).trans (standing_note l rfl)

theorem standing_send (r : Request) (l : Link σ) : (send o nested r l).standing = l.standing := by
  unfold send
  repeat' split
  · exact standing_write calls _ r l
  · exact standing_redirect calls r l
  · exact standing_redirect calls r l
  · simp

theorem standing_perform (c : Call) (l : Link σ) :
    (perform o nested c l).standing = l.standing := by
  cases c with
  | connect => exact standing_connectWith calls true l
  | disconnect => exact standing_disconnect calls l
  | reportLoss => exact standing_reportLoss calls l
  | signalReload => exact standing_signalReload calls l
  | flush => exact standing_flush calls l
  | send r => exact standing_send calls r l

theorem standing_carryOut (c : Call) (l : Link σ) :
    (carryOut o nested c l).standing = l.standing := by
  rw [carryOut, standing_note _ rfl, standing_perform calls, standing_note _ rfl]

/-! ### Jobs -/

theorem standing_supersede (ticket : Option TicketId) (answer : Except Fault ChannelId)
    (l : Link σ) : (supersede o nested ticket answer l).standing = l.standing := by
  simp [supersede, standing_log calls]

theorem standing_discard (ticket : Option TicketId) (answer : Except Fault ChannelId)
    (l : Link σ) : (discard o nested ticket answer l).standing = l.standing := by
  cases answer with
  | error => simp [discard, standing_log calls, standing_moveTo calls]
  | ok c =>
    simp only [discard, cleanUp, standing_settle?, standing_moveTo calls, standing_spawn]
    split <;> simp [standing_log calls]

theorem standing_succeed (ticket : Option TicketId) (c : ChannelId) (l : Link σ) :
    (succeed o nested ticket c l).standing = l.standing := by
  simp only [succeed]
  split
  · simp [standing_log calls, standing_moveTo calls]
  · simp [standing_discard calls]

theorem standing_planRetry (epoch : UInt64) (cause : Fault) (l : Link σ) :
    (planRetry o nested epoch cause l).2.standing = l.standing := by
  have consulted : (occur o nested (.consulting l.reconnectAttempt)
      ({ l with reconnectAttempt := l.reconnectAttempt + 1 }.note
        (.consulted l.reconnectAttempt))).standing = l.standing :=
    (standing_occur calls _ _).trans (standing_note _ rfl)
  simp only [planRetry]
  split
  · split
    · exact consulted
    · simp only [standing_spawn, standing_moveTo calls, standing_signalReload calls,
        standing_log calls, standing_count]
      exact consulted
  · rfl

theorem standing_announceFailure (ticket : Option TicketId) (bootstrap : Bool) (cause : Fault)
    (l : Link σ) : (announceFailure o nested ticket bootstrap cause l).2.standing = l.standing := by
  simp only [announceFailure]
  split
  · simp [standing_log calls, standing_moveTo calls]
  · split <;> simp [standing_log calls]

theorem standing_fail (ticket : Option TicketId) (bootstrap : Bool) (epoch : UInt64)
    (cause : Fault) (l : Link σ) :
    (fail o nested ticket bootstrap epoch cause l).standing = l.standing := by
  have announced :=
    standing_announceFailure (o := o) calls ticket bootstrap cause (l.count .failure)
  simp only [fail]
  generalize announceFailure o nested ticket bootstrap cause (l.count .failure) = announcement
    at announced
  obtain ⟨kept, k⟩ := announcement
  have planned := standing_planRetry (o := o) calls epoch cause k
  dsimp only at announced ⊢
  split
  · simp [standing_log calls, announced]
  · split
    · simp [standing_log calls, announced]
    · split
      all_goals
        rename_i plan
        rw [plan] at planned
        simp [planned, announced]

theorem standing_conclude (ticket : Option TicketId) (bootstrap : Bool) (epoch : UInt64)
    (answer : Except Fault ChannelId) (l : Link σ) :
    (conclude o nested ticket bootstrap epoch answer l).standing = l.standing := by
  unfold conclude
  split
  · exact standing_supersede calls ticket answer l
  · split
    · exact standing_discard calls ticket answer l
    · cases answer with
      | ok c => exact standing_succeed calls ticket c l
      | error cause => exact standing_fail calls ticket bootstrap epoch cause l

theorem standing_tornDown (ticket : TicketId) (l : Link σ) :
    (tornDown o nested ticket l).standing = l.standing := by
  simp [tornDown, standing_log calls, standing_moveTo calls]

theorem standing_closeEnded (ticket : TicketId) (failure : Option Fault) (l : Link σ) :
    (closeEnded o nested ticket failure l).standing = l.standing := by
  cases failure <;> exact (standing_tornDown calls ticket _).trans (standing_log calls _ _ _ l)

theorem standing_cleanupEnded (failure : Option Fault) (l : Link σ) :
    (cleanupEnded o nested failure l).standing = l.standing := by
  cases failure with
  | none => rfl
  | some => exact standing_log calls _ _ _ l

theorem standing_watchEnded (c : ChannelId) (l : Link σ) :
    (watchEnded o nested c l).standing = l.standing := by
  unfold watchEnded
  split
  · exact standing_reportLoss calls l
  · rfl

theorem standing_reconnectEnded (outcome : Outcome) (l : Link σ) :
    (reconnectEnded o nested outcome l).standing = l.standing := by
  cases outcome with
  | ok => rfl
  | error => exact standing_log calls _ _ _ l

omit calls in
theorem standing_forsake (j : Job) (l : Link σ) : (l.forsake j).standing = l.standing := by
  cases j with
  | attempt ticket => exact standing_settle? l ticket _
  | teardown | rejection => exact standing_note l rfl
  | retry | cleanup | watch | report => rfl

end Within

/-- Calls within calls never reach the connector, by induction on the depth. -/
theorem standing_nested (o : Surroundings σ) (depth : Nat) :
    ∀ c (l : Link σ), (Link.nested o depth c l).standing = l.standing := by
  induction depth with
  | zero => exact fun _ _ => rfl
  | succ depth ih => exact fun c l => standing_carryOut ih c l

/-! ## Steps that call the connector -/

/-- A step calls the connector: an attempt is taken up, or the wait of a retry ends that is still
wanted. -/
inductive Dials (l : Link σ) (id : JobId) : Step σ → Prop
  | first {ticket : Option TicketId} {bootstrap : Bool} {epoch : UInt64}
      (job : l.job? id = some (.attempt ticket bootstrap epoch false)) : Dials l id (.start id)
  | again {delay : Nat} (job : l.job? id = some (.retry delay l.epoch))
      (wanted : l.disconnected = false) : Dials l id (.wake id)

theorem Dials.step_eq {l : Link σ} {id : JobId} {s : Step σ} (h : l.Dials id s)
    (o : Surroundings σ) (depth : Nat) :
    ∃ ticket bootstrap epoch, step o depth s l = dial o id ticket bootstrap epoch l := by
  cases h with
  | @first ticket bootstrap epoch job =>
    exact ⟨ticket, bootstrap, epoch, by simp only [step, stepWith, start, job]⟩
  | again job wanted => exact ⟨none, false, l.epoch, by simp [step, stepWith, job, wake, wanted]⟩

theorem standing_start (depth : Nat) {id : JobId} {l : Link σ} (idle : ¬ l.Dials id (.start id)) :
    (start o (Link.nested o depth) id l).standing = l.standing := by
  unfold start
  split
  · exact absurd (.first ‹_›) idle
  · rw [standing_note _ rfl, standing_become]
  · rw [standing_tornDown (standing_nested o depth), standing_finish]
  · rw [standing_note _ rfl, standing_become]
  · rw [standing_note _ rfl, standing_finish]
  · rfl

theorem standing_wake (depth : Nat) {id : JobId} {delay : Nat} {epoch : UInt64} {l : Link σ}
    (job : l.job? id = some (.retry delay epoch)) (idle : ¬ l.Dials id (.wake id)) :
    (wake o (Link.nested o depth) id epoch l).standing = l.standing := by
  have calls := standing_nested o depth
  simp only [wake]
  split
  · rw [standing_log calls, standing_finish]
  · rename_i current
    cases not_ne_iff.mp current
    split
    · rw [standing_disconnect calls, standing_log calls, standing_finish]
    · exact absurd (.again job (Bool.eq_false_iff.mpr ‹_›)) idle

/-- No other step calls the connector, or changes who the link is. -/
theorem standing_step (depth : Nat) {s : Step σ} {l : Link σ} (idle : ∀ id, ¬ l.Dials id s) :
    (step o depth s l).standing = l.standing := by
  have calls := standing_nested o depth
  cases s with
  | call c => exact standing_carryOut calls c l
  | start id => exact standing_start depth (idle id)
  | answer id result =>
    simp only [step, stepWith]
    split
    · rw [standing_conclude calls, standing_note _ rfl, standing_finish]
    · rfl
  | wake id =>
    simp only [step, stepWith]
    split
    · exact standing_wake depth ‹_› (idle id)
    · rfl
  | closed id failure =>
    simp only [step, stepWith]
    split
    · rw [standing_closeEnded calls, standing_finish]
    · rw [standing_cleanupEnded calls, standing_finish]
    · rfl
  | lost id =>
    simp only [step, stepWith]
    split
    · rw [standing_watchEnded calls, standing_finish]
    · rfl
  | told id outcome =>
    simp only [step, stepWith]
    split
    · rw [standing_reconnectEnded calls, standing_finish]
    · rfl
  | crash id =>
    simp only [step, stepWith]
    split
    · rw [standing_forsake, standing_finish]
    · rfl
  | drift s => exact standing_amid l s
  | receive subscriber =>
    simp only [step, stepWith]
    split <;> rfl
  | subscribe | unsubscribe => rfl

/-- A call of the connector is one more attempt, and leaves the link who it was. -/
theorem standing_dial (id : JobId) (ticket : Option TicketId) (bootstrap : Bool) (epoch : UInt64)
    (l : Link σ) : (dial o id ticket bootstrap epoch l).standing =
      { l.standing with attempts := l.attempts ++ [(id, (options o l).1)] } := by
  simp only [standing, attempts, dial, note, List.filterMap_append]
  rfl

theorem attempts_dial (id : JobId) (ticket : Option TicketId) (bootstrap : Bool) (epoch : UInt64)
    (l : Link σ) : (dial o id ticket bootstrap epoch l).attempts =
      l.attempts ++ [(id, (options o l).1)] :=
  congrArg Standing.attempts (standing_dial id ticket bootstrap epoch l)

/-! ## One attempt -/

/-- A link goes from one state to the next by an attempt with the given options: they follow the
identity and the settings, and the pipeline is the wire log, where tracing asks for it, and then
what the owner appends when it is asked this time. -/
structure Attempted (o : Surroundings σ) (identity : Identity) (settings : Settings) (id : JobId)
    (options : ConnectOptions) (l k : Link σ) : Prop where
  attempts : k.attempts = l.attempts ++ [(id, options)]
  address : options.address = identity.address
  timeout : options.timeout = settings.socketTimeout.toNat
  noDelay : options.noDelay = settings.noDelay
  pooling : options.pooling = settings.pooling
  /-- A negotiator is handed over exactly where the settings ask for TLS. -/
  tls : options.tls = true ↔ settings.tls = true
  pipeline : options.pipeline.stages =
    (if o.traces l.outside then [.wireLog] else []) ++ (o.stages l.outside).1
  /-- The owner was asked once. -/
  outside : k.outside = (o.stages l.outside).2

/-- A call of the connector is an attempt as it should be, if whoever asks for TLS has a
negotiator. -/
theorem attempted_dial (id : JobId) (ticket : Option TicketId) (bootstrap : Bool) (epoch : UInt64)
    {l : Link σ} (equipped : l.environment.settings.tls = true → l.environment.negotiator = true) :
    Attempted o l.identity l.environment.settings id (options o l).1 l
      (dial o id ticket bootstrap epoch l) where
  attempts := attempts_dial id ticket bootstrap epoch l
  address := rfl
  timeout := rfl
  noDelay := rfl
  pooling := rfl
  tls := by
    simp only [options, Bool.and_eq_true]
    exact ⟨And.left, fun tls => ⟨tls, equipped tls⟩⟩
  pipeline := by simp [options, Pipeline.empty]
  outside := rfl

theorem Dials.attempted {l : Link σ} {id : JobId} {s : Step σ} (h : l.Dials id s)
    (equipped : l.environment.settings.tls = true → l.environment.negotiator = true)
    (depth : Nat) : Attempted o l.identity l.environment.settings id (options o l).1 l
      (step o depth s l) := by
  obtain ⟨ticket, bootstrap, epoch, called⟩ := h.step_eq o depth
  rw [called]
  exact attempted_dial id ticket bootstrap epoch equipped

/-! ## Every attempt of a run -/

theorem run_concat (depth : Nat) (steps : List (Step σ)) (s : Step σ) (l : Link σ) :
    run o depth (steps ++ [s]) l = step o depth s (run o depth steps l) :=
  run_append depth steps [s] l

/-- No step changes who a link is. -/
theorem step_stays (o : Surroundings σ) (depth : Nat) (s : Step σ) (l : Link σ) :
    (step o depth s l).identity = l.identity ∧ (step o depth s l).environment = l.environment := by
  by_cases h : ∃ id, l.Dials id s
  · obtain ⟨id, dials⟩ := h
    obtain ⟨ticket, bootstrap, epoch, called⟩ := dials.step_eq o depth
    rw [called]
    exact ⟨rfl, rfl⟩
  · have same := standing_step (o := o) depth (not_exists.mp h)
    exact ⟨congrArg Standing.identity same, congrArg Standing.environment same⟩

/-- No run changes who a link is, by induction on the steps. -/
theorem run_stays (o : Surroundings σ) (depth : Nat) (steps : List (Step σ)) (l : Link σ) :
    (run o depth steps l).identity = l.identity ∧
      (run o depth steps l).environment = l.environment := by
  induction steps using List.reverseRecOn with
  | nil => exact ⟨rfl, rfl⟩
  | append_singleton steps s ih =>
    rw [run_concat]
    have last := step_stays o depth s (run o depth steps l)
    exact ⟨last.1.trans ih.1, last.2.trans ih.2⟩

/-- Every call of the connector was made by a step of the run that makes such calls, by induction
on the steps from the last one. -/
theorem exists_dials (depth : Nat) {l : Link σ} (fresh : l.attempts = []) {i : Nat} {id : JobId}
    {made : ConnectOptions} {steps : List (Step σ)}
    (listed : (run o depth steps l).attempts[i]? = some (id, made)) :
    ∃ before s after, steps = before ++ s :: after ∧
      (run o depth before l).attempts.length = i ∧ (run o depth before l).Dials id s ∧
      made = (options o (run o depth before l)).1 := by
  induction steps using List.reverseRecOn with
  | nil => simp [run, fresh] at listed
  | append_singleton steps s ih =>
    have earlier (listed : (run o depth steps l).attempts[i]? = some (id, made)) :
        ∃ before s' after, steps ++ [s] = before ++ s' :: after ∧
          (run o depth before l).attempts.length = i ∧ (run o depth before l).Dials id s' ∧
          made = (options o (run o depth before l)).1 := by
      obtain ⟨before, s', after, split, rest⟩ := ih listed
      exact ⟨before, s', after ++ [s], by rw [split, List.append_assoc, List.cons_append], rest⟩
    rw [run_concat] at listed
    by_cases h : ∃ id', (run o depth steps l).Dials id' s
    · obtain ⟨id', dials⟩ := h
      obtain ⟨ticket, bootstrap, epoch, called⟩ := dials.step_eq o depth
      rw [called, attempts_dial] at listed
      rcases Nat.lt_or_ge i (run o depth steps l).attempts.length with old | new
      · rw [List.getElem?_append_left old] at listed
        exact earlier listed
      · rw [List.getElem?_append_right new, List.getElem?_singleton] at listed
        split at listed
        · cases listed
          exact ⟨steps, s, [], rfl, by omega, dials, rfl⟩
        · cases listed
    · have same := congrArg Standing.attempts (standing_step (o := o) depth (not_exists.mp h))
      exact earlier ((congrArg (·[i]?) same).symm.trans listed)

/-- An opened link stands for what it was opened with, and has called nobody. -/
theorem standing_open? {identity : Identity} {c : Collaborators} {outside : σ} {l : Link σ}
    (opened : open? o identity c outside = .ok l) :
    ∃ e, c.check = .ok e ∧ l.standing = ⟨identity, e, []⟩ := by
  unfold open? at opened
  cases h : c.check with
  | error => simp [h, Except.map] at opened
  | ok e =>
    rw [h] at opened
    cases opened
    exact ⟨e, rfl, standing_log (fun _ _ => rfl) _ _ _ _⟩

/-- In every run of an opened link, each call of the connector carries the address of the identity,
the time and the flags of the settings, a negotiator exactly where they ask for TLS, and a pipeline
of the wire log, if it is asked for, and the stages that the owner appends in this very attempt. So
it is for the first attempt of a chain, for a retry, and after a loss: every step that takes one up
makes such a call, and no other step makes any. -/
theorem options_never_drift {identity : Identity} {c : Collaborators} {outside : σ} {l : Link σ}
    (opened : open? o identity c outside = .ok l) :
    ∃ e, c.environment = some e ∧ ∀ depth,
      (∀ steps i id made, (run o depth steps l).attempts[i]? = some (id, made) →
        ∃ before s after, steps = before ++ s :: after ∧
          (run o depth before l).attempts.length = i ∧ (run o depth before l).Dials id s ∧
          Attempted o identity e.settings id made (run o depth before l)
            (run o depth (before ++ [s]) l)) ∧
      ∀ steps s id, (run o depth steps l).Dials id s →
        ∃ made, Attempted o identity e.settings id made (run o depth steps l)
          (run o depth (steps ++ [s]) l) := by
  obtain ⟨e, complete, stands⟩ := standing_open? opened
  have sameIdentity : l.identity = identity := congrArg Standing.identity stands
  have sameEnvironment : l.environment = e := congrArg Standing.environment stands
  have attempted : ∀ depth steps s id, (run o depth steps l).Dials id s →
      Attempted o identity e.settings id (options o (run o depth steps l)).1 (run o depth steps l)
        (run o depth (steps ++ [s]) l) := by
    intro depth steps s id dials
    obtain ⟨keptIdentity, keptEnvironment⟩ := run_stays o depth steps l
    have once := dials.attempted (o := o)
      (by rw [keptEnvironment, sameEnvironment]; exact Collaborators.negotiator_of_check complete)
      depth
    rwa [keptIdentity, keptEnvironment, sameIdentity, sameEnvironment, ← run_concat] at once
  refine ⟨e, Collaborators.environment_of_check complete, fun depth => ⟨?_, ?_⟩⟩
  · intro steps i id made listed
    obtain ⟨before, s, after, split, turn, dials, rfl⟩ :=
      exists_dials depth (congrArg Standing.attempts stands) listed
    exact ⟨before, s, after, split, turn, dials, attempted depth before s id dials⟩
  · exact fun steps s id dials => ⟨_, attempted depth steps s id dials⟩

/-- A link that asks for TLS failed at first, connected at the second attempt and lost its channel.
The third attempt gets a negotiator and the stages of that attempt alone. -/
theorem options_never_drift_reconnecting :
    let environment : Environment :=
      { Environment.ofSettings { tls := true } with negotiator := true }
    let l := Link.new Link.sample.identity environment 0
    let steps : List (Step Nat) := [.call .connect, .start 0, .answer 0 (.error .notConnected),
      .wake 1, .answer 1 (.ok 7), .lost 2, .start 3]
    let made : ConnectOptions := ⟨⟨"node", 11210⟩, 1000, true, true, true,
      ⟨[.wireLog, .named "codec", .named "codec", .named "codec"]⟩⟩
    open? .layering Link.sample.identity ⟨some environment, true, true⟩ 0 = .ok l ∧
      (run .layering 1 steps l).attempts[2]? = some (3, made) ∧
      ∃ before s after, steps = before ++ s :: after ∧
        (run .layering 1 before l).attempts.length = 2 ∧ (run .layering 1 before l).Dials 3 s ∧
        Attempted .layering Link.sample.identity environment.settings 3 made
          (run .layering 1 before l) (run .layering 1 (before ++ [s]) l) := by
  intro environment l steps made
  have opened : open? .layering Link.sample.identity ⟨some environment, true, true⟩ 0 = .ok l := rfl
  have listed : (run .layering 1 steps l).attempts[2]? = some (3, made) := by decide
  obtain ⟨e, complete, every⟩ := options_never_drift opened
  cases complete
  exact ⟨opened, listed, (every 1).1 steps 2 3 made listed⟩

end Link

end NodeLink
