import Mathlib.Logic.Relation
import NodeLink.Link.Run

/-!
# What a step of a link can do

The operations of a link are written together with the log lines they emit and with the
occasions on which they may be called again. This module says once what is left of them when
logging is no such occasion, and every law about runs is derived from that.

A *stroke* is what a call does between two occasions. Calls, nested to any depth, are sequences
of strokes. A *turn* is what a job does when it goes on; it may be followed by strokes. One turn
comes in two halves: a failed attempt of a persistent link is first *taken up*, and its retry is
*planned* only after the sink and the backoff had their say. Between the halves the link has a
chain in hand that no job stands for, and anything may be called.

A step that breaks a job down is not described here. A backoff that breaks down is.
-/

set_option autoImplicit false

namespace NodeLink

variable {σ : Type}

/-- Logging is no occasion to call the link. -/
def Surroundings.Quiet (o : Surroundings σ) : Prop :=
  ∀ line s, (o.react (.logging line) s).1 = []

/-- The backoff never breaks down. -/
def Surroundings.Firm (o : Surroundings σ) : Prop :=
  ∀ attempt s, (o.delay attempt s).1 ≠ none

/-- Surroundings that ask the link to connect whenever it publishes an event. -/
def Surroundings.insistent : Surroundings Unit :=
  { Surroundings.silent with
    react := fun k s =>
      match k with
      | .publishing _ => ([.connect], s)
      | _ => ([], s) }

theorem Surroundings.insistent_quiet : insistent.Quiet := fun _ _ => rfl

theorem Surroundings.insistent_firm : insistent.Firm := fun _ _ => Option.some_ne_none _

/-- A persistent link that has not done anything. -/
def Link.sample : Link Unit :=
  .new ⟨⟨"node", 11210⟩, "bucket", ⟨"user", "secret"⟩, false⟩ (.ofSettings {}) ()

/-- What a request fails with that a sink refused. -/
def Refusal.fault : Refusal → Fault
  | .full => .sinkFull
  | .closed => .sinkClosed

/-- The acts that tell neither of the lifecycle nor of jobs and their tickets. -/
def Act.IsPlain : Act → Prop
  | .called c => c ≠ .connect ∧ c ≠ .disconnect
  | .published .. | .wrote .. | .flushed .. | .failed .. => True
  | _ => False

/-- The jobs that matter to nobody but those who wait for them. -/
def Job.IsIdle : Job → Prop
  | .report _ | .rejection _ => True
  | _ => False

/-- The jobs that end without a trace, given the current epoch. -/
def Job.IsOver (current : UInt64) : Job → Prop
  | .cleanup _ closing => closing = true
  | .watch _ | .report _ | .rejection _ => True
  | .retry _ epoch => epoch ≠ current
  | .attempt .. | .teardown .. => False

namespace Link

open Lifecycle (State Machine)

/-- No job breaks down. -/
def Step.Ordinary : Step σ → Prop
  | .crash _ => False
  | _ => True

/-! ## Effects without log lines -/

/-- The same link amid other surroundings. -/
def amid (l : Link σ) (s : σ) : Link σ := { l with outside := s }

/-- The acts by which a link swaps its state. -/
def passage (l : Link σ) (next : State) : List Act :=
  if l.state = next then [] else [.changed ⟨l.state, next⟩ (!l.lifecycle.subscribers.isEmpty)]

/-- The acts by which a link empties its slot. -/
def emptying (l : Link σ) : List Act := l.channel.toList.map .cleared

theorem shift_eq (l : Link σ) (next : State) :
    l.shift next = { l with
      lifecycle := l.lifecycle.transition next, journal := l.journal ++ l.passage next } := by
  unfold shift passage
  split <;> simp [note]

theorem clear_eq (l : Link σ) :
    l.clear = { l with channel := none, journal := l.journal ++ l.emptying } := by
  obtain ⟨i, e, m, c, h, d, r, ep, me, js, jc, tc, jo, out⟩ := l
  cases c <;> simp [clear, emptying, note]

/-- The acts by which a notice is settled, if there is one. -/
def settling (ticket : Option TicketId) (outcome : Outcome) : List Act :=
  ticket.toList.map (.settled · outcome)

theorem settle?_eq (l : Link σ) (ticket : Option TicketId) (outcome : Outcome) :
    l.settle? ticket outcome =
      { l with journal := l.journal ++ settling ticket outcome } := by
  cases ticket <;> simp [settle?, settle, settling, note]

/-- The number of the next reconnect attempt is used up. -/
def consult (l : Link σ) : Link σ :=
  { l with reconnectAttempt := l.reconnectAttempt + 1 }.note (.consulted l.reconnectAttempt)

/-- A disconnected link starts a chain. -/
def setOut (bootstrap : Bool) (l : Link σ) : Link σ :=
  (startChain bootstrap (l.shift .connecting)).2

theorem setOut_eq (l : Link σ) (bootstrap : Bool) :
    l.setOut bootstrap = { l with
      lifecycle := l.lifecycle.transition .connecting
      hasWritten := false
      epoch := l.epoch + 1
      jobs := l.jobs ++
        [(l.jobCount, .attempt (some l.ticketCount) bootstrap (l.epoch + 1) false)]
      jobCount := l.jobCount + 1
      ticketCount := l.ticketCount + 1
      journal := l.journal ++ (l.passage .connecting ++
        [.spawned l.jobCount (.attempt (some l.ticketCount) bootstrap (l.epoch + 1) false)]) } := by
  simp only [setOut, startChain, shift_eq, issue, spawn, note, List.append_assoc]

/-- A link drops its channel, whatever its state. -/
def drop (l : Link σ) : Link σ := (l.shift .disconnected).clear

theorem drop_eq (l : Link σ) :
    l.drop = { l with
      lifecycle := l.lifecycle.transition .disconnected, channel := none,
      journal := l.journal ++ (l.passage .disconnected ++ l.emptying) } := by
  simp only [drop, shift_eq, clear_eq, List.append_assoc]
  rfl

/-- A disconnect is asked for. -/
def bar (l : Link σ) : Link σ := { l with disconnected := true }

/-- A link disconnects for good. -/
def hangUp (l : Link σ) : Link σ :=
  match l.state with
  | .disconnected | .disconnecting => l.bar
  | .connecting => l.bar.drop
  | .connected =>
    (l.bar.shift .disconnecting).issue.2.spawn (.teardown l.channel l.ticketCount false)

/-- The connector's answer to the attempt of a job is taken, and the job ends. -/
def take (id : JobId) (answer : Except Fault ChannelId) (l : Link σ) : Link σ :=
  (l.finish id).note (.answered id answer)

@[simp] theorem state_take (l : Link σ) (id : JobId) (answer : Except Fault ChannelId) :
    (l.take id answer).state = l.state := rfl

@[simp] theorem epoch_take (l : Link σ) (id : JobId) (answer : Except Fault ChannelId) :
    (l.take id answer).epoch = l.epoch := rfl

@[simp] theorem disconnected_take (l : Link σ) (id : JobId) (answer : Except Fault ChannelId) :
    (l.take id answer).disconnected = l.disconnected := rfl

/-- The job that closes the channel of an answer, if it is one. -/
def leftover (l : Link σ) : Except Fault ChannelId → List (JobId × Job)
  | .ok c => [(l.jobCount, .cleanup c false)]
  | .error _ => []

/-- The acts by which the channel of an answer is handed over for closing. -/
def disposing (l : Link σ) (answer : Except Fault ChannelId) : List Act :=
  (l.leftover answer).map fun e => .spawned e.1 e.2

theorem cleanUp?_eq (l : Link σ) (answer : Except Fault ChannelId) :
    l.cleanUp? answer = { l with
      jobs := l.jobs ++ l.leftover answer
      jobCount := l.jobCount + (l.leftover answer).length
      journal := l.journal ++ l.disposing answer } := by
  cases answer <;> simp [cleanUp?, cleanUp, leftover, disposing, spawn, note]

/-- An attempt that came too late closes what it got. -/
def turnAway (ticket : Option TicketId) (answer : Except Fault ChannelId) (l : Link σ) : Link σ :=
  (l.cleanUp? answer).settle? ticket (.ok l.state)

theorem turnAway_eq (l : Link σ) (ticket : Option TicketId) (answer : Except Fault ChannelId) :
    l.turnAway ticket answer = { l with
      jobs := l.jobs ++ l.leftover answer
      jobCount := l.jobCount + (l.leftover answer).length
      journal := l.journal ++ (l.disposing answer ++
        settling ticket (.ok l.state)) } := by
  simp only [turnAway, cleanUp?_eq, settle?_eq, List.append_assoc]

/-- The slot does not keep the channel of an answer that is undone. -/
def yield (l : Link σ) : Except Fault ChannelId → Link σ
  | .ok c => if l.channel = some c then l.clear else l
  | .error _ => l

/-- The acts of `yield`. -/
def yielding (l : Link σ) : Except Fault ChannelId → List Act
  | .ok c => if l.channel = some c then [.cleared c] else []
  | .error _ => []

theorem yield_eq (l : Link σ) (answer : Except Fault ChannelId) :
    l.yield answer = { l with
      channel := (l.yield answer).channel, journal := l.journal ++ l.yielding answer } := by
  cases answer with
  | error f => simp [yield, yielding]
  | ok c =>
    by_cases installed : l.channel = some c
    · simp [yield, yielding, installed, clear_eq, emptying]
    · simp [yield, yielding, installed]

/-- An attempt that found the link down is undone. -/
def undo (ticket : Option TicketId) (answer : Except Fault ChannelId) (l : Link σ) : Link σ :=
  (((l.yield answer).cleanUp? answer).shift .disconnected).settle? ticket (.ok .disconnected)

theorem undo_eq (l : Link σ) (ticket : Option TicketId) (answer : Except Fault ChannelId) :
    l.undo ticket answer = { l with
      lifecycle := l.lifecycle.transition .disconnected
      channel := (l.yield answer).channel
      jobs := l.jobs ++ l.leftover answer
      jobCount := l.jobCount + (l.leftover answer).length
      journal := l.journal ++ (l.yielding answer ++
        (l.disposing answer ++
          (l.passage .disconnected ++ settling ticket (.ok .disconnected)))) } := by
  rw [undo, yield_eq]
  simp only [cleanUp?_eq, shift_eq, settle?_eq, List.append_assoc]
  rfl

/-- An attempt puts its channel to use. -/
def putToUse (ticket : Option TicketId) (c : ChannelId) (l : Link σ) : Link σ :=
  (((l.install c).shift .connected).spawn (.watch c)).settle? ticket (.ok .connected)

theorem putToUse_eq (l : Link σ) (ticket : Option TicketId) (c : ChannelId) :
    l.putToUse ticket c = { l with
      lifecycle := l.lifecycle.transition .connected
      channel := some c
      jobs := l.jobs ++ [(l.jobCount, .watch c)]
      jobCount := l.jobCount + 1
      journal := l.journal ++ (.installed c :: (l.passage .connected ++
        (.spawned l.jobCount (.watch c) :: settling ticket (.ok .connected)))) } := by
  simp only [putToUse, install, shift_eq, spawn, note, settle?_eq, List.append_assoc,
    List.singleton_append]
  rfl

/-- A failed attempt is the end of its chain. -/
def giveUp (ticket : Option TicketId) (cause : Fault) (l : Link σ) : Link σ :=
  (l.shift .disconnected).settle? ticket (.error cause)

theorem giveUp_eq (l : Link σ) (ticket : Option TicketId) (cause : Fault) :
    l.giveUp ticket cause = { l with
      lifecycle := l.lifecycle.transition .disconnected
      journal := l.journal ++ (l.passage .disconnected ++
        settling ticket (.error cause)) } := by
  simp only [giveUp, shift_eq, settle?_eq, List.append_assoc]

/-- A failed attempt is told to whoever should know it by now. -/
def takeUp (ticket : Option TicketId) (bootstrap : Bool) (cause : Fault) (l : Link σ) : Link σ :=
  if cause.isTerminal then l.giveUp ticket cause
  else if bootstrap then l.settle? ticket (.error cause)
  else l

theorem takeUp_eq (l : Link σ) (ticket : Option TicketId) (bootstrap : Bool) (cause : Fault) :
    l.takeUp ticket bootstrap cause = { l with
      lifecycle := if cause.isTerminal then l.lifecycle.transition .disconnected else l.lifecycle,
      journal := l.journal ++ ((if cause.isTerminal then l.passage .disconnected else []) ++
        if cause.isTerminal ∨ bootstrap then settling ticket (.error cause)
        else []) } := by
  unfold takeUp giveUp
  by_cases terminal : cause.isTerminal = true
  · simp [terminal, shift_eq, settle?_eq]
  · cases bootstrap <;> simp [terminal, settle?_eq]

/-- The ticket that is kept when a failed attempt is taken up. -/
def keptTicket (ticket : Option TicketId) (bootstrap : Bool) (cause : Fault) : Option TicketId :=
  if cause.isTerminal ∨ bootstrap then none else ticket

/-- The next attempt of a chain is planned. -/
def plan (delay : Nat) (epoch : UInt64) (ticket : Option TicketId) (l : Link σ) : Link σ :=
  ((l.shift .connecting).spawn (.retry delay epoch)).settle? ticket (.ok .connecting)

theorem plan_eq (l : Link σ) (delay : Nat) (epoch : UInt64) (ticket : Option TicketId) :
    l.plan delay epoch ticket = { l with
      lifecycle := l.lifecycle.transition .connecting
      jobs := l.jobs ++ [(l.jobCount, .retry delay epoch)]
      jobCount := l.jobCount + 1
      journal := l.journal ++ (l.passage .connecting ++
        (.spawned l.jobCount (.retry delay epoch) ::
          settling ticket (.ok .connecting))) } := by
  simp only [plan, shift_eq, spawn, note, settle?_eq, List.append_assoc, List.singleton_append]

/-! ## Strokes -/

/-- What a call does between two occasions. -/
inductive Stroke : Link σ → Link σ → Prop
  | drifted (l : Link σ) (s : σ) : Stroke l (l.amid s)
  | counted (l : Link σ) (c : Counter) : Stroke l (l.count c)
  /-- The mark for unflushed writes is set or taken away. -/
  | marked (l : Link σ) (b : Bool) : Stroke l { l with hasWritten := b }
  /-- A plain act is written down. -/
  | noted (l : Link σ) {a : Act} (plain : a.IsPlain) : Stroke l (l.note a)
  /-- A call has been carried out. -/
  | returned (l : Link σ) {c : Call} (barred : c = .disconnect → l.disconnected = true) :
      Stroke l (l.note (.returned c))
  /-- A subscriber comes, reads or leaves. -/
  | attended (l : Link σ) {m : Machine} (current : m.current = l.state)
      (backlog : m.backlog = l.lifecycle.backlog) : Stroke l { l with lifecycle := m }
  | spawned (l : Link σ) {j : Job} (idle : j.IsIdle) : Stroke l (l.spawn j)
  | ignored (l : Link σ) (h : l.disconnected = true ∨ l.state ≠ .disconnected) :
      Stroke l (l.note (.called .connect))
  | opened (l : Link σ) (wanted : l.disconnected = false) (down : l.state = .disconnected) :
      Stroke l (setOut true (l.note (.called .connect)))
  /-- A persistent link drops its channel and starts a chain. -/
  | restarted (l : Link σ) (wanted : l.disconnected = false)
      (persistent : l.identity.transient = false) : Stroke l (setOut false l.drop)
  /-- A link that was to be disconnected drops its channel. -/
  | dropped (l : Link σ) (barred : l.disconnected = true) : Stroke l l.drop
  | hungUp (l : Link σ) : Stroke l (hangUp (l.note (.called .disconnect)))

/-- Any number of strokes. -/
abbrev Strokes : Link σ → Link σ → Prop := Relation.ReflTransGen Stroke

/-! ## Turns -/

/-- What a job does when it goes on, except that it plans a retry. -/
inductive Turn : Step σ → Link σ → Link σ → Prop
  | dialed (l : Link σ) {id : JobId} {ticket : Option TicketId} {bootstrap : Bool} {epoch : UInt64}
      (job : l.job? id = some (.attempt ticket bootstrap epoch false)) (options : ConnectOptions) :
      Turn (.start id) l
        ((l.become id (.attempt ticket bootstrap epoch true)).note (.dialed id options))
  /-- A retry becomes an attempt, which calls the connector. -/
  | redialed (l : Link σ) {id : JobId} {delay : Nat} {epoch : UInt64}
      (job : l.job? id = some (.retry delay epoch)) (current : l.epoch = epoch)
      (wanted : l.disconnected = false) (options : ConnectOptions) :
      Turn (.wake id) l ((l.become id (.attempt none false epoch true)).note (.dialed id options))
  /-- A retry finds that the link is to be disconnected. -/
  | abandoned (l : Link σ) {id : JobId} {delay : Nat} {epoch : UInt64}
      (job : l.job? id = some (.retry delay epoch)) (current : l.epoch = epoch)
      (barred : l.disconnected = true) : Turn (.wake id) l (l.finish id).hangUp
  /-- A teardown asks its channel to close. -/
  | tearing (l : Link σ) {id : JobId} {c : ChannelId} {ticket : TicketId}
      (job : l.job? id = some (.teardown (some c) ticket false)) :
      Turn (.start id) l ((l.become id (.teardown (some c) ticket true)).note (.closing c))
  /-- A cleanup asks its channel to close. -/
  | cleaning (l : Link σ) {id : JobId} {c : ChannelId} (job : l.job? id = some (.cleanup c false)) :
      Turn (.start id) l ((l.become id (.cleanup c true)).note (.closing c))
  | toreDown (s : Step σ) (l : Link σ) {id : JobId} {c : Option ChannelId} {ticket : TicketId}
      (job : l.job? id = some (.teardown c ticket c.isSome)) :
      Turn s l ((l.finish id).drop.settle ticket (.ok .disconnected))
  | ended (s : Step σ) (l : Link σ) {id : JobId} {j : Job} (job : l.job? id = some j)
      (ending : j.IsOver l.epoch) : Turn s l (l.finish id)
  /-- An attempt of an earlier chain is answered. -/
  | turnedAway (l : Link σ) {id : JobId} {ticket : Option TicketId} {bootstrap : Bool}
      {epoch : UInt64} (job : l.job? id = some (.attempt ticket bootstrap epoch true))
      (stale : l.epoch ≠ epoch) (answer : Except Fault ChannelId) :
      Turn (.answer id answer) l ((l.take id answer).turnAway ticket answer)
  /-- An attempt is answered and finds the link down. -/
  | undone (l : Link σ) {id : JobId} {ticket : Option TicketId} {bootstrap : Bool}
      {epoch : UInt64} (job : l.job? id = some (.attempt ticket bootstrap epoch true))
      (current : l.epoch = epoch) (down : l.state.isDown = true ∨ l.disconnected = true)
      (answer : Except Fault ChannelId) :
      Turn (.answer id answer) l ((l.take id answer).undo ticket answer)
  /-- An attempt got the channel it was to get. -/
  | succeeded (l : Link σ) {id : JobId} {ticket : Option TicketId} {bootstrap : Bool}
      {epoch : UInt64} (job : l.job? id = some (.attempt ticket bootstrap epoch true))
      (current : l.epoch = epoch) (wanted : l.disconnected = false)
      (connecting : l.state = .connecting) (c : ChannelId) :
      Turn (.answer id (.ok c)) l ((l.take id (.ok c)).putToUse ticket c)
  /-- An attempt got a channel while another one is installed. -/
  | collided (l : Link σ) {id : JobId} {ticket : Option TicketId} {bootstrap : Bool}
      {epoch : UInt64} (job : l.job? id = some (.attempt ticket bootstrap epoch true))
      (current : l.epoch = epoch) (wanted : l.disconnected = false)
      (connected : l.state = .connected) (c : ChannelId) :
      Turn (.answer id (.ok c)) l (((l.take id (.ok c)).install c).undo ticket (.ok c))
  /-- An attempt of a transient link failed. -/
  | gaveUp (l : Link σ) {id : JobId} {ticket : Option TicketId} {bootstrap : Bool}
      {epoch : UInt64} (job : l.job? id = some (.attempt ticket bootstrap epoch true))
      (current : l.epoch = epoch) (wanted : l.disconnected = false)
      (up : l.state.isDown = false) (transient : l.identity.transient = true) (cause : Fault) :
      Turn (.answer id (.error cause)) l ((l.take id (.error cause)).giveUp ticket cause)

/-! ## Steps -/

/-- A failed attempt of a persistent link is taken up, and the backoff is consulted. -/
structure TakesUp (l : Link σ) (id : JobId) (ticket : Option TicketId) (bootstrap : Bool)
    (epoch : UInt64) : Prop where
  /-- The attempt waits for its connector. -/
  job : l.job? id = some (.attempt ticket bootstrap epoch true)
  /-- Its chain is the current one. -/
  current : l.epoch = epoch
  wanted : l.disconnected = false
  up : l.state.isDown = false
  persistent : l.identity.transient = false

/-- What an ordinary step does. The last two cases have a chain in hand between their halves. -/
inductive Advance (o : Surroundings σ) : Step σ → Link σ → Link σ → Prop
  /-- Nothing but strokes; no attempt is answered. -/
  | strokes {s : Step σ} {l l' : Link σ} (after : Strokes l l')
      (unanswered : ∀ id answer ticket bootstrap epoch, s = .answer id answer →
        l.job? id ≠ some (.attempt ticket bootstrap epoch true)) : Advance o s l l'
  | turn {s : Step σ} {l k l' : Link σ} (turn : Turn s l k) (after : Strokes k l') :
      Advance o s l l'
  | planned {l k l' : Link σ} {id : JobId} {ticket : Option TicketId} {bootstrap : Bool}
      {epoch : UInt64} {cause : Fault} {delay : Nat} {s : σ}
      (up : l.TakesUp id ticket bootstrap epoch)
      (after : Strokes ((l.take id (.error cause)).takeUp ticket bootstrap cause).consult k)
      (done : l' = (k.plan delay epoch (keptTicket ticket bootstrap cause)).amid s) :
      Advance o (.answer id (.error cause)) l l'
  | brokeDown {l k l' : Link σ} {id : JobId} {ticket : Option TicketId} {bootstrap : Bool}
      {epoch : UInt64} {cause : Fault} (loose : ¬ o.Firm) (up : l.TakesUp id ticket bootstrap epoch)
      (after : Strokes ((l.take id (.error cause)).takeUp ticket bootstrap cause).consult k)
      (done : l' = k.settle? (keptTicket ticket bootstrap cause) (.error .dropped)) :
      Advance o (.answer id (.error cause)) l l'

end Link

end NodeLink
