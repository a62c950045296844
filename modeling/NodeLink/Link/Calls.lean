import NodeLink.Link.Basic

/-!
# Calls on a link

The public operations: connect, disconnect, report a loss, signal a reload, send
a request, flush. Each is written as a chain of small changes, with the occasions
on which the surroundings may call the link again standing where they really
stand; what a later step reads is what those calls left behind.

How a nested call is carried out is a parameter, `nested`. The knot is tied in
the module on runs.
-/

set_option autoImplicit false

namespace NodeLink.Link

open Lifecycle (State)

variable {σ : Type} (o : Surroundings σ) (nested : Call → Link σ → Link σ)

/-- Passes control to the surroundings and carries out the calls they make. -/
def occur (k : Occasion) (l : Link σ) : Link σ :=
  let reaction := o.react k l.outside
  reaction.1.foldl (fun l c => nested c l) { l with outside := reaction.2 }

def log (level : Level) (message : String) (fields : List (String × String)) (l : Link σ) :
    Link σ :=
  occur o nested (.logging ⟨level, message, fields⟩) l

/-- Swaps the state and logs a real change. -/
def moveTo (next : State) (l : Link σ) : Link σ :=
  if l.state = next then l.shift next
  else
    log o nested .debug "endpoint_transition"
      (l.place ++ [("from", l.state.label), ("to", next.label)]) (l.shift next)

/-! ## Reload -/

/-- Offers an event to the sink. -/
def publish (e : Event) (l : Link σ) : Option Refusal × Link σ :=
  let l := occur o nested (.publishing e) l
  let answer := o.accept e l.outside
  (answer.1, { l with outside := answer.2 }.note (.published e answer.1))

/-- Tells the layer above that the topology may be stale. A refusal is only logged. -/
def signalReload (l : Link σ) : Link σ :=
  match publish o nested .reload (l.count .reload) with
  | (none, l) => l
  | (some refusal, l) =>
    log o nested .debug "endpoint_config_reload_dropped"
      (l.place ++ [("error", refusal.message)]) l

/-! ## Connect and disconnect -/

/-- Starts a connect chain: a new epoch, no unflushed writes, and its first attempt. -/
def startChain (bootstrap : Bool) (l : Link σ) : Ticket × Link σ :=
  let epoch := l.epoch + 1
  let (ticket, l) := { l with epoch := epoch, hasWritten := false }.issue
  (.pending ticket, l.spawn (.attempt (some ticket) bootstrap epoch false))

/-- Connects. Only a link that is disconnected, but was never asked to be, starts a chain;
otherwise the ticket carries the state. -/
def connectWith (bootstrap : Bool) (l : Link σ) : Ticket × Link σ :=
  if l.disconnected then
    let l := log o nested .debug "endpoint_connect_ignored_after_disconnect" l.place l
    (.settled (.ok l.state), l)
  else if l.state = .disconnected then
    startChain bootstrap (moveTo o nested .connecting l)
  else
    let state := l.state
    let l :=
      if bootstrap ∧ state = .connecting then
        log o nested .warn "endpoint_overlapping_bootstrap_connect" l.place l
      else l
    (.settled (.ok state), l)

/-- Connects on behalf of a caller. -/
def connect (l : Link σ) : Ticket × Link σ := connectWith o nested true l

/-- Disconnects for good. A connecting link drops at once; a connected one tears its channel
down first. -/
def disconnect (l : Link σ) : Ticket × Link σ :=
  let l := { l with disconnected := true }
  match l.state with
  | .disconnected => (.settled (.ok .disconnected), l)
  | .disconnecting => (.settled (.ok .disconnecting), l)
  | .connecting =>
    (.settled (.ok .disconnected), (moveTo o nested .disconnected l).clear)
  | .connected =>
    let l := moveTo o nested .disconnecting l
    let (ticket, l) := l.issue
    (.pending ticket, l.spawn (.teardown l.channel ticket false))

/-! ## Loss of the channel -/

/-- The channel became inactive. A persistent link that is up asks for a reload, drops the
channel and starts a chain of its own. The state that decides is the one found at first. -/
def reportLoss (l : Link σ) : Link σ :=
  if l.identity.transient then l
  else
    let l := l.count .loss
    let state := l.state
    let l := log o nested .info "endpoint_inactive"
      [("ident", l.mark o), ("state", state.label)] l
    let l := if state.isDown then l else signalReload o nested l
    if state = .connected ∨ state = .connecting then
      let l := (moveTo o nested .disconnected l).clear
      let (ticket, l) := connectWith o nested false l
      l.spawn (.report ticket)
    else l

/-! ## Requests -/

/-- Flushes the installed channel if it is active and something was written since the last
flush. -/
def flush (l : Link σ) : Link σ :=
  if l.state = .connected ∧ l.hasWritten then
    match l.channel with
    | some c =>
      if o.isActive l.outside c then
        { occur o nested (.flushing c) (l.note (.flushed c)) with hasWritten := false }
      else l
    | none => l
  else l

/-- Hands a request to the sink. If the sink refuses it, the request fails. -/
def redirect (r : Request) (l : Link σ) : Link σ :=
  let l := l.count .redirect
  let l := log o nested .debug "endpoint_request_redirected" [("ident", l.mark o)] l
  match publish o nested (.redirect r) l with
  | (none, l) => l
  | (some refusal, l) =>
    let l := log o nested .warn "endpoint_redirect_rejected"
      [("ident", l.mark o), ("error", refusal.message)] l
    l.note (.failed r.id (match refusal with | .full => .sinkFull | .closed => .sinkClosed))

/-- Writes a request to a channel and marks it as unflushed. -/
def write (c : ChannelId) (r : Request) (l : Link σ) : Link σ :=
  { occur o nested (.writing c r) (l.note (.wrote c r)) with hasWritten := true }

/-- Sends a request: to the installed channel if that can take it, to the sink if not. A link
that is not connected rejects it, but never before the call has returned. -/
def send (r : Request) (l : Link σ) : Link σ :=
  if l.state = .connected then
    match l.channel with
    | some c =>
      if o.isActive l.outside c ∧ o.isWritable l.outside c then write o nested c r l
      else redirect o nested r l
    | none => redirect o nested r l
  else (l.count .rejection).spawn (.rejection r)

/-! ## All calls alike -/

/-- The effect of a call. The tickets of nested calls are nobody's. -/
def perform (c : Call) (l : Link σ) : Link σ :=
  match c with
  | .connect => (connect o nested l).2
  | .disconnect => (disconnect o nested l).2
  | .reportLoss => reportLoss o nested l
  | .signalReload => signalReload o nested l
  | .flush => flush o nested l
  | .send r => send o nested r l

/-- Carries out a call. The journal tells when it was taken up and when it returned. -/
def carryOut (c : Call) (l : Link σ) : Link σ :=
  (perform o nested c (l.note (.called c))).note (.returned c)

end NodeLink.Link
