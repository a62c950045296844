import NodeLink.Proofs.Invariant

/-!
# The core of a link

What can be said of connect chains rests on a few facts about a link: its state and flag, its
channel, the current epoch, how many chains were started, and of which epochs the pending attempts
and retries are. These facts are the *core* of a link. This module computes what each operation
does to the core, so that a law of the core is kept by arithmetic.
-/

set_option autoImplicit false

namespace NodeLink

open Lifecycle (State)

/-- The epoch of the chain that a job carries on. -/
def Job.chain? : Job → Option UInt64
  | .attempt _ _ epoch _ | .retry _ epoch => some epoch
  | _ => none

/-- Whether a job is a teardown. -/
def Job.isTeardown : Job → Bool
  | .teardown .. => true
  | _ => false

/-- Whether an act starts a chain. Only the first attempt of a chain is a job of its own. -/
def Act.startsChain : Act → Bool
  | .spawned _ (.attempt ..) => true
  | _ => false

namespace Link

variable {σ : Type} {o : Surroundings σ}

/-- How many chains were started. -/
def chains (l : Link σ) : Nat := l.journal.countP Act.startsChain

/-- The pending attempts and retries of the current epoch. -/
def live (l : Link σ) : List (JobId × Job) := l.jobs.filter (·.2.chain? == some l.epoch)

/-! ## The core of a link -/

/-- What the law of chains speaks of. -/
structure Core where
  transient : Bool
  state : State
  /-- Whether a disconnect was asked for. -/
  disconnected : Bool
  channel : Option ChannelId
  epoch : UInt64
  chains : Nat
  /-- The epochs of the pending attempts and retries. -/
  pending : List UInt64
  teardowns : Nat

/-- The core of a link. -/
def core (l : Link σ) : Core where
  transient := l.identity.transient
  state := l.state
  disconnected := l.disconnected
  channel := l.channel
  epoch := l.epoch
  chains := l.chains
  pending := l.jobs.filterMap (·.2.chain?)
  teardowns := l.jobs.countP (·.2.isTeardown)

/-- The live jobs are as many as pending epochs are current. -/
theorem length_live (l : Link σ) : l.live.length = l.core.pending.count l.epoch := by
  unfold live core
  induction l.jobs with
  | nil => rfl
  | cons e jobs ih =>
    cases h : e.2.chain? with
    | none => simp [h, ih]
    | some epoch => by_cases same : epoch = l.epoch <;> simp [h, same, ih]

/-- Nobody starts a chain by telling of a change, of a channel or of a notice. -/
@[simp] theorem startsChain_of_traces {acts : List Act} (traces : acts.all Act.isTrace = true) :
    acts.countP Act.startsChain = 0 :=
  Act.countP_of_traces traces fun a trace => by
    cases a with
    | spawned id j => cases j <;> first | rfl | cases trace
    | _ => rfl

/-- Chains that were started stay counted. -/
theorem chains_le {l l' : Link σ} (h : l.journal <+: l'.journal) : l.chains ≤ l'.chains :=
  h.sublist.countP_le

theorem core_note (l : Link σ) {a : Act} (h : a.startsChain = false) :
    (l.note a).core = l.core := by
  simp [core, chains, note, state, h]

theorem core_spawn (l : Link σ) {j : Job} (chain : j.chain? = none) (idle : j.isTeardown = false) :
    (l.spawn j).core = l.core := by
  have quiet : Act.startsChain (.spawned l.jobCount j) = false := by
    cases j <;> first | rfl | cases chain
  simp [core, chains, spawn, note, state, chain, idle, quiet]

/-- A core after one more chain was started. -/
def Core.setOut (c : Core) : Core :=
  { c with
    state := .connecting
    epoch := c.epoch + 1
    chains := c.chains + 1
    pending := c.pending ++ [c.epoch + 1] }

theorem core_setOut (l : Link σ) (bootstrap : Bool) :
    (l.setOut bootstrap).core = l.core.setOut := by
  simp [core, Core.setOut, chains, setOut_eq, state, Job.chain?, Job.isTeardown, Act.startsChain]

theorem chains_core (l : Link σ) : l.core.chains = l.chains := rfl

theorem chains_setOut (l : Link σ) (bootstrap : Bool) :
    (l.setOut bootstrap).chains = l.chains + 1 :=
  congrArg Core.chains (core_setOut l bootstrap)

/-- A core without a channel. -/
def Core.drop (c : Core) : Core := { c with state := .disconnected, channel := none }

theorem core_drop (l : Link σ) : l.drop.core = l.core.drop := by
  simp [core, Core.drop, chains, drop_eq, state]

/-- A core after a disconnect was asked for. -/
def Core.hangUp (c : Core) : Core :=
  match c.state with
  | .disconnected | .disconnecting => { c with disconnected := true }
  | .connecting => { c with disconnected := true, state := .disconnected, channel := none }
  | .connected =>
    { c with disconnected := true, state := .disconnecting, teardowns := c.teardowns + 1 }

theorem core_hangUp (l : Link σ) : l.hangUp.core = l.core.hangUp := by
  have same : l.core.state = l.state := rfl
  cases h : l.state with
  | disconnected | disconnecting =>
    simp only [hangUp, Core.hangUp, same, h]
    rw [← h]
    rfl
  | connecting =>
    simp only [hangUp, Core.hangUp, same, h, core_drop]
    rfl
  | connected =>
    simp only [hangUp, Core.hangUp, same, h]
    simp [core, chains, bar, issue, spawn, note, shift_eq, state, Job.chain?, Job.isTeardown,
      Act.startsChain]

theorem core_take (l : Link σ) (id : JobId) (answer : Except Fault ChannelId) :
    (l.take id answer).core = (l.finish id).core :=
  core_note _ rfl

theorem core_turnAway (l : Link σ) (ticket : Option TicketId) (answer : Except Fault ChannelId) :
    (l.turnAway ticket answer).core = l.core := by
  cases answer <;>
    simp [core, chains, turnAway_eq, leftover, state, Job.chain?, Job.isTeardown]

theorem core_undo (l : Link σ) (ticket : Option TicketId) (answer : Except Fault ChannelId) :
    (l.undo ticket answer).core =
      { l.core with state := .disconnected, channel := (l.yield answer).channel } := by
  cases answer <;>
    simp [core, chains, undo_eq, leftover, state, Job.chain?, Job.isTeardown]

theorem core_putToUse (l : Link σ) (ticket : Option TicketId) (c : ChannelId) :
    (l.putToUse ticket c).core = { l.core with state := .connected, channel := some c } := by
  simp [core, chains, putToUse_eq, state, Job.chain?, Job.isTeardown, Act.startsChain]

theorem core_giveUp (l : Link σ) (ticket : Option TicketId) (cause : Fault) :
    (l.giveUp ticket cause).core = { l.core with state := .disconnected } := by
  simp [core, chains, giveUp_eq, state]

theorem core_settle? (l : Link σ) (ticket : Option TicketId) (outcome : Outcome) :
    (l.settle? ticket outcome).core = l.core := by
  simp [core, chains, settle?_eq, state]

theorem core_takeUp (l : Link σ) (ticket : Option TicketId) (bootstrap : Bool) (cause : Fault) :
    (l.takeUp ticket bootstrap cause).consult.core =
      { l.core with state := if cause.isTerminal then .disconnected else l.state } := by
  have told : (l.takeUp ticket bootstrap cause).consult.core =
      (l.takeUp ticket bootstrap cause).core := core_note _ rfl
  rw [told, takeUp]
  split
  · rw [core_giveUp]
  · cases bootstrap with
    | true => exact core_settle? l ticket (.error cause)
    | false => rfl

theorem core_plan (l : Link σ) (delay : Nat) (epoch : UInt64) (ticket : Option TicketId) :
    (l.plan delay epoch ticket).core =
      { l.core with state := .connecting, pending := l.core.pending ++ [epoch] } := by
  simp [core, chains, plan_eq, state, Job.chain?, Job.isTeardown, Act.startsChain]

theorem Core.epoch_hangUp (c : Core) : c.hangUp.epoch = c.epoch := by
  unfold Core.hangUp
  split <;> rfl

theorem Core.chains_hangUp (c : Core) : c.hangUp.chains = c.chains := by
  unfold Core.hangUp
  split <;> rfl

theorem Core.state_hangUp_ne (c : Core) : c.hangUp.state ≠ .connected := by
  cases h : c.state <;> simp [Core.hangUp, h]

theorem state_hangUp_ne (l : Link σ) : l.hangUp.state ≠ .connected := by
  intro connected
  have connected : l.hangUp.core.state = .connected := connected
  rw [core_hangUp] at connected
  exact l.core.state_hangUp_ne connected

section Jobs

variable {l : Link σ} (numbered : Numbered l) {id : JobId} {j : Job} (job : l.job? id = some j)
include numbered job

/-- A job of a chain leaves its place among the pending ones. -/
theorem core_finish_chain {epoch : UInt64} (chain : j.chain? = some epoch) :
    ∃ before after, l.core.pending = before ++ epoch :: after ∧
      (l.finish id).core = { l.core with pending := before ++ after } := by
  have idle : j.isTeardown = false := by cases j <;> first | rfl | cases chain
  obtain ⟨before, after, hjobs, hfinish, -⟩ := numbered.split job
  refine ⟨before.filterMap (·.2.chain?), after.filterMap (·.2.chain?), ?_, ?_⟩
  · simp [core, hjobs, chain]
  · simp only [core, hfinish]
    simp [finish, hjobs, idle, state, chains]

/-- A teardown leaves one teardown less. -/
theorem core_finish_teardown (teardown : j.isTeardown = true) :
    ∃ n, l.core.teardowns = n + 1 ∧ (l.finish id).core = { l.core with teardowns := n } := by
  have chain : j.chain? = none := by cases j <;> first | rfl | cases teardown
  obtain ⟨before, after, hjobs, hfinish, -⟩ := numbered.split job
  refine ⟨before.countP (·.2.isTeardown) + after.countP (·.2.isTeardown), ?_, ?_⟩
  · simp [core, hjobs, teardown]
    omega
  · simp only [core, hfinish]
    simp [finish, hjobs, chain, state, chains]

/-- Any other job leaves no trace in the core. -/
theorem core_finish_other (chain : j.chain? = none) (idle : j.isTeardown = false) :
    (l.finish id).core = l.core := by
  obtain ⟨before, after, hjobs, hfinish, -⟩ := numbered.split job
  simp only [core, hfinish]
  simp [finish, hjobs, chain, idle, state, chains]

/-- A job that goes on with the same chain leaves no trace in the core. -/
theorem core_become {j' : Job} (chain : j'.chain? = j.chain?)
    (teardown : j'.isTeardown = j.isTeardown) : (l.become id j').core = l.core := by
  obtain ⟨before, after, hjobs, -, hbecome⟩ := numbered.split job
  simp only [core, hbecome]
  simp only [hjobs, List.filterMap_append, List.filterMap_cons, List.countP_append,
    List.countP_cons, chain, teardown]
  rfl

end Jobs

/-- What a stroke does to the core. -/
theorem Stroke.core {l l' : Link σ} (h : Stroke l l') :
    l'.core = l.core ∨
      (l.disconnected = false ∧ l.state = .disconnected ∧ l'.core = l.core.setOut) ∨
      (l.disconnected = false ∧ l.identity.transient = false ∧
        l'.core = l.core.drop.setOut) ∨
      (l.disconnected = true ∧ l'.core = l.core.drop) ∨ l'.core = l.core.hangUp := by
  cases h with
  | drifted | counted | marked => exact .inl rfl
  | @attended m current =>
    refine .inl ?_
    simp only [Link.core, state, current, chains]
  | @noted a plain =>
    have idle : a.startsChain = false := by cases a <;> first | rfl | cases plain
    exact .inl (core_note l idle)
  | returned | ignored => exact .inl (core_note l rfl)
  | @spawned j idle =>
    have noChain : j.chain? = none := by cases j <;> first | rfl | cases idle
    have noTeardown : j.isTeardown = false := by cases j <;> first | rfl | cases idle
    exact .inl (core_spawn l noChain noTeardown)
  | opened wanted down =>
    refine .inr (.inl ⟨wanted, down, ?_⟩)
    rw [core_setOut, core_note l rfl]
  | restarted wanted persistent =>
    refine .inr (.inr (.inl ⟨wanted, persistent, ?_⟩))
    rw [core_setOut, core_drop]
  | dropped barred => exact .inr (.inr (.inr (.inl ⟨barred, core_drop l⟩)))
  | hungUp =>
    refine .inr (.inr (.inr (.inr ?_)))
    rw [core_hangUp, core_note l rfl]

/-! ## Epochs -/

theorem Turn.epoch {s : Step σ} {l l' : Link σ} (h : Turn s l l') : l'.epoch = l.epoch := by
  cases h with
  | dialed | redialed | tearing | cleaning | ended => rfl
  | abandoned => exact (congrArg Core.epoch (core_hangUp _)).trans (Core.epoch_hangUp _)
  | toreDown => rw [drop_eq]; rfl
  | turnedAway => rw [turnAway_eq]; rfl
  | undone | collided => rw [undo_eq]; rfl
  | succeeded => rw [putToUse_eq]; rfl
  | gaveUp => rw [giveUp_eq]; rfl

theorem Turn.chains {s : Step σ} {l l' : Link σ} (h : Turn s l l') : l'.chains = l.chains := by
  have silent : ∀ {acts : List Act}, acts.any Act.isCall = false →
      acts.countP Act.startsChain = 0 := by
    intro acts none
    refine List.countP_eq_zero.mpr fun a ha starts => List.any_eq_false.mp none a ha ?_
    unfold Act.startsChain at starts
    split at starts
    · rfl
    · cases starts
  obtain ⟨id, j, acts, -, entry | ⟨j', -, entry⟩, none⟩ := h.entry
  · rw [Link.chains, entry.journal, List.countP_append, silent none]
    rfl
  · rw [Link.chains, entry.journal, List.countP_append, silent none]
    rfl

/-- The epoch counts the chains, as far as it can. -/
theorem epoch_kept (o : Surroundings σ) : Kept o fun _ l => l.epoch = UInt64.ofNat l.chains where
  stroke {_ l l'} h counted := by
    have counted : l.core.epoch = UInt64.ofNat l.core.chains := counted
    have next : l.core.epoch + 1 = UInt64.ofNat (l.core.chains + 1) := by
      rw [counted, UInt64.ofNat_add]
      rfl
    show l'.core.epoch = UInt64.ofNat l'.core.chains
    rcases h.core with same | ⟨-, -, same⟩ | ⟨-, -, same⟩ | ⟨-, same⟩ | same
    · rw [same, counted]
    · rw [same]
      exact next
    · rw [same]
      exact next
    · rw [same]
      exact counted
    · rw [same, Core.epoch_hangUp, Core.chains_hangUp, counted]
  turn h counted := by rw [h.epoch, h.chains, counted]
  takeUp {l id ticket bootstrap epoch} cause _ counted := by
    have same := core_takeUp (l.take id (.error cause)) ticket bootstrap cause
    rw [core_take] at same
    have epoch := congrArg Core.epoch same
    have chains := congrArg Core.chains same
    exact epoch.trans (counted.trans (congrArg UInt64.ofNat chains.symm))
  plan {hand l} delay counted := by
    have same := core_plan l delay hand.epoch hand.ticket
    have epoch := congrArg Core.epoch same
    have chains := congrArg Core.chains same
    exact epoch.trans (counted.trans (congrArg UInt64.ofNat chains.symm))
  breakDown {hand l} _ counted := by
    have same := core_settle? l hand.ticket (.error .dropped)
    have epoch := congrArg Core.epoch same
    have chains := congrArg Core.chains same
    exact epoch.trans (counted.trans (congrArg UInt64.ofNat chains.symm))

end Link

end NodeLink
