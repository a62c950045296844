import NodeLink.Proofs.Invariant

/-!
# Links in lockstep

Two links that are alike in some respect stay alike as long as the same is done to both. In which
respect is a parameter here. What is asked of it is that it covers what operations look at, that it
is kept by the small changes that operations are made of, and that it is kept on the occasions on
which the surroundings have a say. It is then kept by every operation, in the order in which they
are built on each other, by every call on the control plane, and by every job that goes on.

The links may stand amid surroundings of different kinds, and their jobs may have different names.
Requests and flushes are not treated here: whether they are made on both links, and what they may
do to them, depends on the respect in which the links are alike.
-/

set_option autoImplicit false

namespace NodeLink

open Lifecycle (State Machine SubscriberId)

variable {σ τ : Type}

/-- Whether a call belongs to the control plane. Requests and flushes belong to the data plane. -/
def Call.isControl : Call → Bool
  | .connect | .disconnect | .reportLoss | .signalReload => true
  | .flush | .send _ => false

/-- What a job goes on with. -/
inductive Errand
  | start
  | answer (result : Except Fault ChannelId)
  | wake
  | closed (failure : Option Fault)
  | lost
  | told (outcome : Outcome)
  | crash
deriving DecidableEq

/-- The step in which a job goes on. -/
def Errand.step (id : JobId) : Errand → Link.Step σ
  | .start => .start id
  | .answer result => .answer id result
  | .wake => .wake id
  | .closed failure => .closed id failure
  | .lost => .lost id
  | .told outcome => .told id outcome
  | .crash => .crash id

namespace Link

/-- A step is a call, a job that goes on, or nothing that a link does by itself. -/
@[elab_as_elim]
theorem Step.cases_errand {motive : Step σ → Prop} (s : Step σ) (call : ∀ c, motive (.call c))
    (errand : ∀ id (e : Errand), motive (e.step id)) (drift : ∀ s, motive (.drift s))
    (subscribe : motive .subscribe) (receive : ∀ subscriber, motive (.receive subscriber))
    (unsubscribe : ∀ subscriber, motive (.unsubscribe subscriber)) : motive s := by
  cases s with
  | call c => exact call c
  | start id => exact errand id .start
  | answer id result => exact errand id (.answer result)
  | wake id => exact errand id .wake
  | closed id failure => exact errand id (.closed failure)
  | lost id => exact errand id .lost
  | told id outcome => exact errand id (.told outcome)
  | crash id => exact errand id .crash
  | drift s => exact drift s
  | subscribe => exact subscribe
  | receive subscriber => exact receive subscriber
  | unsubscribe subscriber => exact unsubscribe subscriber

/-- Nothing goes on that is no job. -/
theorem step_missing {o : Surroundings σ} {depth : Nat} {l : Link σ} {id : JobId}
    (missing : l.job? id = none) (e : Errand) : step o depth (e.step id) l = l := by
  cases e <;> simp only [Errand.step, step, stepWith, start, missing]

/-- What operations look at, besides the jobs and the mark for unflushed writes. -/
structure Common where
  identity : Identity
  environment : Environment
  lifecycle : Machine
  channel : Option ChannelId
  disconnected : Bool
  reconnectAttempt : UInt64
  epoch : UInt64
  ticketCount : Nat

/-- What operations look at in a link. -/
def common (l : Link σ) : Common where
  identity := l.identity
  environment := l.environment
  lifecycle := l.lifecycle
  channel := l.channel
  disconnected := l.disconnected
  reconnectAttempt := l.reconnectAttempt
  epoch := l.epoch
  ticketCount := l.ticketCount

/-- A link of which operations see this. -/
def adopt (l : Link σ) (c : Common) : Link σ :=
  { l with
    identity := c.identity
    environment := c.environment
    lifecycle := c.lifecycle
    channel := c.channel
    disconnected := c.disconnected
    reconnectAttempt := c.reconnectAttempt
    epoch := c.epoch
    ticketCount := c.ticketCount }

/-- Two operations answer the same, and leave links that are related. -/
def Agree {α : Type} (R : Link σ → Link τ → Prop) (x : α × Link σ) (y : α × Link τ) : Prop :=
  ∃ a k l, x = (a, k) ∧ y = (a, l) ∧ R k l

/-- A relation of links that is kept when the same is done to both. `M` tells which job of the one
is which job of the other, given the pending jobs of both. -/
structure Lockstep (o : Surroundings σ) (p : Surroundings τ) (n : Call → Link σ → Link σ)
    (m : Call → Link τ → Link τ) (R : Link σ → Link τ → Prop)
    (M : JobId → JobId → List (JobId × Job) → List (JobId × Job) → Prop) : Prop where
  common {k l} : R k l → k.common = l.common
  -- small changes
  adopt {k l} : R k l → ∀ c, R (k.adopt c) (l.adopt c)
  unmark {k l} : R k l → R { k with hasWritten := false } { l with hasWritten := false }
  note {k l} : R k l → ∀ a, R (k.note a) (l.note a)
  count {k l} : R k l → ∀ c, R (k.count c) (l.count c)
  spawn {k l} : R k l → ∀ j, R (k.spawn j) (l.spawn j)
  -- jobs that are the same on both
  job? {k l i j} : R k l → M i j k.jobs l.jobs → k.job? i = l.job? j
  finish {k l i j} : R k l → M i j k.jobs l.jobs → R (k.finish i) (l.finish j)
  take {k l i j} : R k l → M i j k.jobs l.jobs → ∀ answer, R (k.take i answer) (l.take j answer)
  become {k l i j} : R k l → M i j k.jobs l.jobs → ∀ x, R (k.become i x) (l.become j x)
  dialed {k l i j} : R k l → M i j k.jobs l.jobs → ∀ x options,
    R ((k.become i x).note (.dialed i options)) ((l.become j x).note (.dialed j options))
  -- what the surroundings have a say in
  /-- The links may log different lines. -/
  log {k l} : R k l → ∀ level level' message message' fields fields',
    R (Link.log o n level message fields k) (Link.log p m level' message' fields' l)
  signalReload {k l} : R k l → R (Link.signalReload o n k) (Link.signalReload p m l)
  consulting {k l} : R k l → ∀ attempt,
    R (occur o n (.consulting attempt) k) (occur p m (.consulting attempt) l)
  delay {k l} : R k l → ∀ attempt,
    (o.delay attempt k.outside).1 = (p.delay attempt l.outside).1 ∧
      R (k.amid (o.delay attempt k.outside).2) (l.amid (p.delay attempt l.outside).2)
  stages {k l} : R k l → (o.stages k.outside).1 = (p.stages l.outside).1 ∧
    R (k.amid (o.stages k.outside).2) (l.amid (p.stages l.outside).2)
  traces {k l} : R k l → o.traces k.outside = p.traces l.outside

namespace Lockstep

variable {o : Surroundings σ} {p : Surroundings τ} {n : Call → Link σ → Link σ}
  {m : Call → Link τ → Link τ} {R : Link σ → Link τ → Prop}
  {M : JobId → JobId → List (JobId × Job) → List (JobId × Job) → Prop}
  {k : Link σ} {l : Link τ} {i j : JobId} (both : Lockstep o p n m R M)
include both

/-! ## What the two links have in common -/

theorem identity (h : R k l) : k.identity = l.identity := congrArg Common.identity (both.common h)

theorem environment (h : R k l) : k.environment = l.environment :=
  congrArg Common.environment (both.common h)

theorem lifecycle (h : R k l) : k.lifecycle = l.lifecycle :=
  congrArg Common.lifecycle (both.common h)

theorem state (h : R k l) : k.state = l.state := congrArg Machine.current (both.lifecycle h)

theorem channel (h : R k l) : k.channel = l.channel := congrArg Common.channel (both.common h)

theorem disconnected (h : R k l) : k.disconnected = l.disconnected :=
  congrArg Common.disconnected (both.common h)

theorem reconnectAttempt (h : R k l) : k.reconnectAttempt = l.reconnectAttempt :=
  congrArg Common.reconnectAttempt (both.common h)

theorem epoch (h : R k l) : k.epoch = l.epoch := congrArg Common.epoch (both.common h)

theorem ticketCount (h : R k l) : k.ticketCount = l.ticketCount :=
  congrArg Common.ticketCount (both.common h)

/-! ## Small changes -/

/-- What the links have in common may be changed. -/
theorem change (h : R k l) (f : Common → Common) :
    R (k.adopt (f k.common)) (l.adopt (f l.common)) := by
  rw [both.common h]
  exact both.adopt h _

theorem attend (h : R k l) (machine : Machine) :
    R { k with lifecycle := machine } { l with lifecycle := machine } :=
  both.change h fun c => { c with lifecycle := machine }

theorem bar (h : R k l) : R k.bar l.bar := both.change h fun c => { c with disconnected := true }

theorem shift (h : R k l) (next : State) : R (k.shift next) (l.shift next) := by
  have swapped := both.attend h (l.lifecycle.transition next)
  unfold Link.shift
  dsimp only
  rw [both.state h, both.lifecycle h]
  split
  · exact swapped
  · exact both.note swapped _

theorem clear (h : R k l) : R k.clear l.clear := by
  have emptied : R { k with channel := none } { l with channel := none } :=
    both.change h fun c => { c with channel := none }
  unfold Link.clear
  rw [both.channel h]
  split
  · exact both.note emptied _
  · exact h

theorem install (h : R k l) (c : ChannelId) : R (k.install c) (l.install c) :=
  both.note (both.change h fun s => { s with channel := some c }) _

theorem consult (h : R k l) : R k.consult l.consult := by
  have next := both.change h fun c => { c with reconnectAttempt := l.reconnectAttempt + 1 }
  unfold Link.consult
  rw [both.reconnectAttempt h]
  exact both.note next _

theorem issue (h : R k l) : R k.issue.2 l.issue.2 :=
  both.change h fun c => { c with ticketCount := c.ticketCount + 1 }

theorem settle? (h : R k l) (ticket : Option TicketId) (outcome : Outcome) :
    R (k.settle? ticket outcome) (l.settle? ticket outcome) := by
  cases ticket with
  | none => exact h
  | some id => exact both.note h _

/-! ## Calls -/

theorem moveTo (h : R k l) (next : State) :
    R (Link.moveTo o n next k) (Link.moveTo p m next l) := by
  unfold Link.moveTo
  rw [both.state h]
  split
  · exact both.shift h next
  · exact both.log (both.shift h next) ..

theorem startChain (h : R k l) (bootstrap : Bool) :
    Agree R (Link.startChain bootstrap k) (Link.startChain bootstrap l) := by
  have fresh := both.unmark (both.change h fun c =>
    { c with epoch := l.epoch + 1, ticketCount := l.ticketCount + 1 })
  simp only [Link.startChain, Link.issue, both.epoch h, both.ticketCount h]
  exact ⟨_, _, _, rfl, rfl, both.spawn fresh _⟩

theorem connectWith (h : R k l) (bootstrap : Bool) :
    Agree R (Link.connectWith o n bootstrap k) (Link.connectWith p m bootstrap l) := by
  unfold Link.connectWith
  dsimp only
  rw [both.disconnected h, both.state h]
  split
  · have logged := both.log h .debug .debug "endpoint_connect_ignored_after_disconnect"
      "endpoint_connect_ignored_after_disconnect" k.place l.place
    exact ⟨_, _, _, by rw [both.state logged], rfl, logged⟩
  · split
    · exact both.startChain (both.moveTo h .connecting) bootstrap
    · refine ⟨_, _, _, rfl, rfl, ?_⟩
      split
      · exact both.log h ..
      · exact h

theorem disconnect (h : R k l) : Agree R (Link.disconnect o n k) (Link.disconnect p m l) := by
  have barred : R { k with disconnected := true } { l with disconnected := true } := both.bar h
  unfold Link.disconnect
  dsimp only
  rw [both.state barred]
  split
  · exact ⟨_, _, _, rfl, rfl, barred⟩
  · exact ⟨_, _, _, rfl, rfl, barred⟩
  · exact ⟨_, _, _, rfl, rfl, both.clear (both.moveTo barred .disconnected)⟩
  · have moved := both.moveTo barred .disconnecting
    have issued := both.issue moved
    simp only [Link.issue, both.ticketCount moved, both.channel moved] at issued ⊢
    exact ⟨_, _, _, rfl, rfl, both.spawn issued _⟩

theorem reportLoss (h : R k l) : R (Link.reportLoss o n k) (Link.reportLoss p m l) := by
  unfold Link.reportLoss
  rw [both.identity h]
  split
  · exact h
  · have counted := both.count h .loss
    dsimp only
    rw [both.state counted]
    have logged := both.log counted .info .info "endpoint_inactive" "endpoint_inactive"
      [("ident", (k.count .loss).mark o), ("state", (l.count .loss).state.label)]
      [("ident", (l.count .loss).mark p), ("state", (l.count .loss).state.label)]
    generalize Link.log o n _ _ _ (k.count .loss) = k' at logged ⊢
    generalize Link.log p m _ _ _ (l.count .loss) = l' at logged ⊢
    have asked : R (if (l.count .loss).state.isDown then k' else Link.signalReload o n k')
        (if (l.count .loss).state.isDown then l' else Link.signalReload p m l') := by
      split
      · exact logged
      · exact both.signalReload logged
    split
    · have dropped := both.clear (both.moveTo asked .disconnected)
      obtain ⟨ticket, k'', l'', here, there, connected⟩ := both.connectWith dropped false
      rw [here, there]
      exact both.spawn connected _
    · exact asked

/-- A call on the control plane may be made on both links. -/
theorem carryOut (h : R k l) {c : Call} (control : c.isControl = true) :
    R (Link.carryOut o n c k) (Link.carryOut p m c l) := by
  have called := both.note h (.called c)
  refine both.note ?_ (.returned c)
  cases c with
  | connect =>
    obtain ⟨ticket, k', l', here, there, connected⟩ := both.connectWith called true
    simpa only [perform, connect, here, there] using connected
  | disconnect =>
    obtain ⟨ticket, k', l', here, there, hungUp⟩ := both.disconnect called
    simpa only [perform, here, there] using hungUp
  | reportLoss => exact both.reportLoss called
  | signalReload => exact both.signalReload called
  | flush | send => cases control

/-! ## Jobs -/

theorem options (h : R k l) : ∃ options,
    Link.options o k = (options, k.amid (o.stages k.outside).2) ∧
      Link.options p l = (options, l.amid (p.stages l.outside).2) := by
  refine ⟨_, rfl, ?_⟩
  simp only [Link.options, both.environment h, both.identity h, both.traces h, (both.stages h).1]
  rfl

theorem dial (h : R k l) (pair : M i j k.jobs l.jobs) (ticket : Option TicketId) (bootstrap : Bool)
    (epoch : UInt64) :
    R (Link.dial o i ticket bootstrap epoch k) (Link.dial p j ticket bootstrap epoch l) := by
  have counted := both.count h .attempt
  obtain ⟨options, here, there⟩ := both.options counted
  unfold Link.dial
  rw [here, there]
  exact both.dialed (both.stages counted).2 pair _ _

theorem cleanUp? (h : R k l) (answer : Except Fault ChannelId) :
    R (k.cleanUp? answer) (l.cleanUp? answer) := by
  cases answer with
  | ok c => exact both.spawn h _
  | error f => exact h

theorem supersede (h : R k l) (ticket : Option TicketId) (answer : Except Fault ChannelId) :
    R (Link.supersede o n ticket answer k) (Link.supersede p m ticket answer l) := by
  have logged := both.log h .debug .debug "endpoint_connect_superseded"
    "endpoint_connect_superseded" k.place l.place
  have cleaned := both.cleanUp? (both.count logged .discard) answer
  unfold Link.supersede
  dsimp only
  rw [both.state cleaned]
  exact both.settle? cleaned ticket _

theorem discard (h : R k l) (ticket : Option TicketId) (answer : Except Fault ChannelId) :
    R (Link.discard o n ticket answer k) (Link.discard p m ticket answer l) := by
  have logged := both.log h .debug .debug "endpoint_connect_discarded"
    "endpoint_connect_discarded" [("ident", k.mark o)] [("ident", l.mark p)]
  have counted := both.count logged .discard
  unfold Link.discard
  dsimp only
  refine both.settle? (both.moveTo ?_ .disconnected) ticket _
  cases answer with
  | error f => exact counted
  | ok c =>
    dsimp only
    rw [both.channel counted]
    refine both.spawn ?_ _
    split
    · exact both.clear counted
    · exact counted

theorem succeed (h : R k l) (ticket : Option TicketId) (c : ChannelId) :
    R (Link.succeed o n ticket c k) (Link.succeed p m ticket c l) := by
  have installed := both.install h c
  unfold Link.succeed
  dsimp only
  rw [both.state installed]
  split
  · have counted := both.count (both.moveTo installed .connected) .success
    exact both.settle? (both.spawn (both.log counted ..) _) ticket _
  · exact both.discard installed ticket (.ok c)

theorem planRetry (h : R k l) (epoch : UInt64) (cause : Fault) :
    Agree R (Link.planRetry o n epoch cause k) (Link.planRetry p m epoch cause l) := by
  by_cases current : l.epoch = epoch
  · have here : Link.planRetry o n epoch cause k = _ := if_pos ((both.epoch h).trans current)
    have there : Link.planRetry p m epoch cause l = _ := if_pos current
    have consulted := both.consulting (both.consult h) l.reconnectAttempt
    obtain ⟨same, answered⟩ := both.delay consulted l.reconnectAttempt
    rw [here, there]
    dsimp only
    rw [← Link.consult, ← Link.consult, both.reconnectAttempt h]
    generalize occur o n _ k.consult = k' at same answered ⊢
    generalize occur p m _ l.consult = l' at same answered ⊢
    generalize o.delay _ k'.outside = x at same answered ⊢
    generalize p.delay _ l'.outside = y at same answered ⊢
    obtain ⟨delay, s⟩ := x
    obtain ⟨delay', t⟩ := y
    obtain rfl : delay = delay' := same
    cases delay with
    | none => exact ⟨_, _, _, rfl, rfl, answered⟩
    | some delay =>
      have counted := both.count answered .retry
      refine ⟨_, _, _, rfl, rfl, both.spawn (both.moveTo ?_ .connecting) _⟩
      exact both.signalReload (both.log counted ..)
  · have here : Link.planRetry o n epoch cause k = _ :=
      if_neg fun same => current ((both.epoch h).symm.trans same)
    have there : Link.planRetry p m epoch cause l = _ := if_neg current
    exact ⟨_, _, _, here, there, h⟩

theorem announceFailure (h : R k l) (ticket : Option TicketId) (bootstrap : Bool)
    (cause : Fault) : Agree R (Link.announceFailure o n ticket bootstrap cause k)
      (Link.announceFailure p m ticket bootstrap cause l) := by
  unfold Link.announceFailure
  rw [both.identity h]
  split
  · refine ⟨_, _, _, rfl, rfl, both.settle? ?_ ticket _⟩
    exact both.moveTo (both.log h ..) .disconnected
  · dsimp only
    split
    · exact ⟨_, _, _, rfl, rfl, both.settle? (both.log h ..) ticket _⟩
    · exact ⟨_, _, _, rfl, rfl, both.log h ..⟩

/-- Whoever waits is told the state that is found at the end. -/
theorem told (h : R k l) (ticket : Option TicketId) :
    R (k.settle? ticket (.ok k.state)) (l.settle? ticket (.ok l.state)) := by
  rw [both.state h]
  exact both.settle? h ticket _

theorem fail (h : R k l) (ticket : Option TicketId) (bootstrap : Bool) (epoch : UInt64)
    (cause : Fault) : R (Link.fail o n ticket bootstrap epoch cause k)
      (Link.fail p m ticket bootstrap epoch cause l) := by
  obtain ⟨ticket, k', l', here, there, announced⟩ :=
    both.announceFailure (both.count h .failure) ticket bootstrap cause
  unfold Link.fail
  rw [here, there]
  dsimp only
  rw [both.identity announced, both.disconnected announced]
  split
  · exact both.told (both.log announced ..) ticket
  · split
    · exact both.told (both.log announced ..) ticket
    · obtain ⟨held, k'', l'', here, there, planned⟩ := both.planRetry announced epoch cause
      rw [here, there]
      cases held with
      | true => exact both.told planned ticket
      | false => exact both.settle? planned ticket _

theorem conclude (h : R k l) (ticket : Option TicketId) (bootstrap : Bool) (epoch : UInt64)
    (answer : Except Fault ChannelId) : R (Link.conclude o n ticket bootstrap epoch answer k)
      (Link.conclude p m ticket bootstrap epoch answer l) := by
  unfold Link.conclude
  rw [both.epoch h, both.state h, both.disconnected h]
  split
  · exact both.supersede h ticket answer
  · split
    · exact both.discard h ticket answer
    · cases answer with
      | ok c => exact both.succeed h ticket c
      | error cause => exact both.fail h ticket bootstrap epoch cause

theorem watchEnded (h : R k l) (c : ChannelId) :
    R (Link.watchEnded o n c k) (Link.watchEnded p m c l) := by
  unfold Link.watchEnded
  rw [both.channel h]
  split
  · exact both.reportLoss h
  · exact h

theorem wake (h : R k l) (pair : M i j k.jobs l.jobs) (epoch : UInt64) :
    R (Link.wake o n i epoch k) (Link.wake p m j epoch l) := by
  have finished := both.finish h pair
  unfold Link.wake
  rw [both.epoch h, both.disconnected h]
  split
  · exact both.log finished ..
  · split
    · have logged := both.log finished .debug .debug "endpoint_retry_abandoned"
        "endpoint_retry_abandoned" k.place l.place
      obtain ⟨ticket, k', l', here, there, hungUp⟩ := both.disconnect logged
      simpa only [here, there] using hungUp
    · exact both.dial h pair none false epoch

theorem tornDown (h : R k l) (ticket : TicketId) :
    R (Link.tornDown o n ticket k) (Link.tornDown p m ticket l) := by
  have dropped := both.clear (both.moveTo h .disconnected)
  exact both.note (both.log dropped ..) _

theorem closeEnded (h : R k l) (ticket : TicketId) (failure : Option Fault) :
    R (Link.closeEnded o n ticket failure k) (Link.closeEnded p m ticket failure l) := by
  cases failure with
  | none => exact both.tornDown (both.log h ..) ticket
  | some f => exact both.tornDown (both.log h ..) ticket

theorem cleanupEnded (h : R k l) (failure : Option Fault) :
    R (Link.cleanupEnded o n failure k) (Link.cleanupEnded p m failure l) := by
  cases failure with
  | none => exact h
  | some f => exact both.log h ..

theorem reconnectEnded (h : R k l) (outcome : Outcome) :
    R (Link.reconnectEnded o n outcome k) (Link.reconnectEnded p m outcome l) := by
  cases outcome with
  | ok state => exact h
  | error f => exact both.log h ..

theorem forsake (h : R k l) (j : Job) : R (k.forsake j) (l.forsake j) := by
  cases j with
  | attempt ticket => exact both.settle? h ticket _
  | teardown | rejection => exact both.note h _
  | retry | cleanup | watch | report => exact h

end Lockstep

/-! ## Steps -/

section Steps

variable {o : Surroundings σ} {p : Surroundings τ} {depth : Nat} {R : Link σ → Link τ → Prop}
  {M : JobId → JobId → List (JobId × Job) → List (JobId × Job) → Prop}
  {k : Link σ} {l : Link τ} {i j : JobId}
  (both : Lockstep o p (Link.nested o depth) (Link.nested p depth) R M)
include both

theorem Lockstep.start (h : R k l) (pair : M i j k.jobs l.jobs) :
    R (Link.start o (nested o depth) i k) (Link.start p (nested p depth) j l) := by
  unfold Link.start
  rw [both.job? h pair]
  split
  · exact both.dial h pair ..
  · exact both.note (both.become h pair _) _
  · exact both.tornDown (both.finish h pair) _
  · exact both.note (both.become h pair _) _
  · exact both.note (both.finish h pair) _
  · exact h

/-- A job may go on that is the same job on both links. -/
theorem Lockstep.errand (h : R k l) (pair : M i j k.jobs l.jobs) (e : Errand) :
    R (step o depth (e.step i) k) (step p depth (e.step j) l) := by
  have same := both.job? h pair
  have finished := both.finish h pair
  cases e with
  | start => exact both.start h pair
  | answer answer =>
    dsimp only [Errand.step, step, stepWith]
    rw [same]
    split
    · exact both.conclude (both.take h pair answer) ..
    · exact h
  | wake =>
    dsimp only [Errand.step, step, stepWith]
    rw [same]
    split
    · exact both.wake h pair _
    · exact h
  | closed failure =>
    dsimp only [Errand.step, step, stepWith]
    rw [same]
    split
    · exact both.closeEnded finished ..
    · exact both.cleanupEnded finished _
    · exact h
  | lost =>
    dsimp only [Errand.step, step, stepWith]
    rw [same]
    split
    · exact both.watchEnded finished _
    · exact h
  | told outcome =>
    dsimp only [Errand.step, step, stepWith]
    rw [same]
    split
    · exact both.reconnectEnded finished _
    · exact h
  | crash =>
    dsimp only [Errand.step, step, stepWith]
    rw [same]
    split
    · exact both.forsake finished _
    · exact h

theorem Lockstep.subscribe (h : R k l) :
    R (step o depth .subscribe k) (step p depth .subscribe l) := by
  dsimp only [step, stepWith]
  rw [both.lifecycle h]
  exact both.attend h _

theorem Lockstep.receive (h : R k l) (subscriber : SubscriberId) :
    R (step o depth (.receive subscriber) k) (step p depth (.receive subscriber) l) := by
  dsimp only [step, stepWith]
  rw [both.lifecycle h]
  split
  · exact both.attend h _
  · exact h

theorem Lockstep.unsubscribe (h : R k l) (subscriber : SubscriberId) :
    R (step o depth (.unsubscribe subscriber) k) (step p depth (.unsubscribe subscriber) l) := by
  dsimp only [step, stepWith]
  rw [both.lifecycle h]
  exact both.attend h _

end Steps

end Link

end NodeLink
