import NodeLink.Identity
import NodeLink.Lifecycle.Machine
import NodeLink.Link.Surroundings
import NodeLink.Metrics
import NodeLink.Settings.Basic

/-!
# The state of a link

A link is one logical connection to one node for one bucket. Its state is the
lifecycle machine, the slot for the installed channel, a mark for unflushed
writes, the final disconnect flag, the number of the next reconnect attempt, and
the *epoch*: the count of connect chains started, by which a job that belongs to
an earlier chain knows itself to be stale.

Work that waits for something is a *job*. The link holds its pending jobs; who
carries them forward, and in which order, is not decided here. What the link does
to its surroundings is written into a journal, oldest act first.
-/

set_option autoImplicit false

namespace NodeLink

open Lifecycle (State Change Machine)
open Text (Layout)

abbrev JobId := Nat

/-- Names a notice that a caller waits for. -/
abbrev TicketId := Nat

/-- Results can be compared where faults and values can. -/
instance decidableEqResult {ε α : Type} [DecidableEq ε] [DecidableEq α] : DecidableEq (Except ε α)
  | .ok a, .ok b => decidable_of_iff (a = b) ⟨congrArg _, fun h => Except.ok.inj h⟩
  | .error a, .error b => decidable_of_iff (a = b) ⟨congrArg _, fun h => Except.error.inj h⟩
  | .ok _, .error _ => .isFalse nofun
  | .error _, .ok _ => .isFalse nofun

/-- How a connect or disconnect ends. -/
abbrev Outcome := Except Fault State

/-- What a caller of connect or disconnect gets. -/
inductive Ticket
  | settled (outcome : Outcome)
  /-- The outcome will be given to the notice of this name. -/
  | pending (id : TicketId)
deriving DecidableEq

/-- Work that waits for something. -/
inductive Job
  /-- A connect attempt. It begins by dialing and ends when the connector answers. -/
  | attempt (ticket : Option TicketId) (bootstrap : Bool) (epoch : UInt64) (dialing : Bool)
  /-- The wait before the next attempt of a chain. -/
  | retry (delay : Nat) (epoch : UInt64)
  /-- A requested teardown. It begins by closing the channel and ends when that is done. -/
  | teardown (channel : Option ChannelId) (ticket : TicketId) (closing : Bool)
  /-- The closing of a channel that was never put to use. -/
  | cleanup (channel : ChannelId) (closing : Bool)
  /-- The watch over an installed channel. -/
  | watch (channel : ChannelId)
  /-- The wait for the outcome of a reconnect. -/
  | report (ticket : Ticket)
  /-- The rejection of a request, which is delivered later. -/
  | rejection (request : Request)
deriving DecidableEq

/-- What a link did, and what it was asked. -/
inductive Act
  | called (call : Call)
  | returned (call : Call)
  /-- The connector answered the attempt of a job. -/
  | answered (id : JobId) (result : Except Fault ChannelId)
  /-- The state changed, and there was a subscriber to be told of it or there was none. -/
  | changed (change : Change) (told : Bool)
  /-- A channel was put into the slot. -/
  | installed (channel : ChannelId)
  | cleared (channel : ChannelId)
  | spawned (id : JobId) (job : Job)
  | dialed (id : JobId) (options : ConnectOptions)
  | consulted (attempt : UInt64)
  /-- An event was offered to the sink. -/
  | published (event : Event) (refusal : Option Refusal)
  /-- A request was written to a channel. -/
  | wrote (channel : ChannelId) (request : Request)
  | flushed (channel : ChannelId)
  /-- A channel was asked to close. -/
  | closing (channel : ChannelId)
  | settled (id : TicketId) (outcome : Outcome)
  | failed (request : RequestId) (fault : Fault)
deriving DecidableEq

/-- What a link needs besides its identity. -/
structure Environment where
  settings : Settings
  backoff : Backoff
  /-- Whether there is a TLS negotiator. -/
  negotiator : Bool

namespace Environment

/-- The environment that settings describe, without a negotiator. -/
def ofSettings (s : Settings) : Environment := ⟨s, .exponential s.reconnect.growth, false⟩

/-- An environment as a printed record. -/
def layout (e : Environment) : Layout :=
  .fields "Environment" [
    ("config", e.settings.layout),
    ("reconnect_delay", e.backoff.layout),
    ("tls", .bool e.negotiator)]

end Environment

/-- The state of a link within its surroundings. -/
structure Link (σ : Type) where
  identity : Identity
  environment : Environment
  lifecycle : Machine
  channel : Option ChannelId
  /-- Whether something was written since the last flush. -/
  hasWritten : Bool
  /-- Whether a disconnect was asked for, ever. -/
  disconnected : Bool
  /-- The number of the next reconnect attempt. -/
  reconnectAttempt : UInt64
  /-- How many connect chains were started. -/
  epoch : UInt64
  metrics : Metrics
  jobs : List (JobId × Job)
  jobCount : Nat
  /-- How many tickets were handed out. -/
  ticketCount : Nat
  journal : List Act
  outside : σ

namespace Link

variable {σ : Type}

/-- A link that has not done anything. -/
def new (identity : Identity) (environment : Environment) (outside : σ) : Link σ where
  identity := identity
  environment := environment
  lifecycle := .new .disconnected
  channel := none
  hasWritten := false
  disconnected := false
  reconnectAttempt := 1
  epoch := 0
  metrics := {}
  jobs := []
  jobCount := 0
  ticketCount := 0
  journal := []
  outside := outside

def state (l : Link σ) : State := l.lifecycle.current

/-- A link as a printed record. -/
def layout (l : Link σ) : Layout :=
  .fields "Endpoint" [
    ("identity", l.identity.layout),
    ("state", .word l.state.name),
    ("disconnected", .bool l.disconnected),
    ("reconnect_attempt", .number l.reconnectAttempt.toNat)]

/-! ## Small changes -/

/-- Writes an act into the journal. -/
def note (l : Link σ) (a : Act) : Link σ := { l with journal := l.journal ++ [a] }

def count (l : Link σ) (c : Counter) : Link σ := { l with metrics := l.metrics.record c }

/-- Swaps the state. A swap for the same state is no act. -/
def shift (l : Link σ) (next : State) : Link σ :=
  let swapped := { l with lifecycle := l.lifecycle.transition next }
  if l.state = next then swapped
  else swapped.note (.changed ⟨l.state, next⟩ (!l.lifecycle.subscribers.isEmpty))

/-- Puts a channel into the slot. -/
def install (l : Link σ) (c : ChannelId) : Link σ :=
  { l with channel := some c }.note (.installed c)

def clear (l : Link σ) : Link σ :=
  match l.channel with
  | some c => { l with channel := none }.note (.cleared c)
  | none => l

def spawn (l : Link σ) (j : Job) : Link σ :=
  { l with
    jobs := l.jobs ++ [(l.jobCount, j)]
    jobCount := l.jobCount + 1 }.note (.spawned l.jobCount j)

/-- The pending job of a given name. -/
def job? (l : Link σ) (id : JobId) : Option Job := l.jobs.lookup id

def finish (l : Link σ) (id : JobId) : Link σ := { l with jobs := l.jobs.filter (·.1 ≠ id) }

/-- Replaces a pending job in its place. -/
def become (l : Link σ) (id : JobId) (j : Job) : Link σ :=
  { l with jobs := l.jobs.map fun e => if e.1 = id then (id, j) else e }

def issue (l : Link σ) : TicketId × Link σ :=
  (l.ticketCount, { l with ticketCount := l.ticketCount + 1 })

def settle (l : Link σ) (id : TicketId) (outcome : Outcome) : Link σ := l.note (.settled id outcome)

/-- Settles a notice if there is one. -/
def settle? (l : Link σ) (id : Option TicketId) (outcome : Outcome) : Link σ :=
  match id with
  | some id => l.settle id outcome
  | none => l

/-- The particulars that name the node and the bucket. -/
def place (l : Link σ) : List (String × String) :=
  [("address", l.identity.address.label), ("bucket", l.identity.bucket)]

/-- The installed channel's peer and the bucket, each in brackets. -/
def mark (o : Surroundings σ) (l : Link σ) : String :=
  "[" ++ ((l.channel.bind (o.remote l.outside)).getD "null") ++ "][" ++ l.identity.bucket ++ "]"

/-! ## Small lemmas -/

@[simp] theorem state_note (l : Link σ) (a : Act) : (l.note a).state = l.state := rfl

@[simp] theorem state_shift (l : Link σ) (next : State) : (l.shift next).state = next := by
  unfold shift state; split <;> simp [note]

@[simp] theorem state_clear (l : Link σ) : l.clear.state = l.state := by
  unfold clear; split <;> rfl

@[simp] theorem channel_clear (l : Link σ) : l.clear.channel = none := by
  unfold clear; split <;> simp_all [note]

end Link

end NodeLink
