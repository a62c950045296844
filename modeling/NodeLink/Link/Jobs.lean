import NodeLink.Link.Calls

/-!
# Jobs of a link

How each job goes on when what it waited for has come. An attempt dials, and when
the connector has answered, it first asks whether it is still wanted: an attempt
of an earlier chain is *superseded*, one that finds the link down is *discarded*,
and both close whatever channel they got. Only then does the answer count.

The end of a failed attempt is the one place where a backoff may break down. The
job then ends on the spot, and whoever still waits for it is told that nobody is
left to answer.
-/

set_option autoImplicit false

namespace NodeLink.Link

open Lifecycle (State)

variable {σ : Type} (o : Surroundings σ) (nested : Call → Link σ → Link σ)

/-! ## Attempts -/

/-- The options of one attempt. The pipeline is built anew each time. -/
def options (l : Link σ) : ConnectOptions × Link σ :=
  let traces := o.traces l.outside
  let stages := o.stages l.outside
  let s := l.environment.settings
  ({ address := l.identity.address
     timeout := s.socketTimeout.toNat
     noDelay := s.noDelay
     pooling := s.pooling
     tls := s.tls && l.environment.negotiator
     pipeline := (Pipeline.empty.extend (if traces then [.wireLog] else [])).extend stages.1 },
   { l with outside := stages.2 })

/-- The attempt of a job calls the connector. -/
def dial (id : JobId) (ticket : Option TicketId) (bootstrap : Bool) (epoch : UInt64)
    (l : Link σ) : Link σ :=
  let (options, l) := options o (l.count .attempt)
  (l.become id (.attempt ticket bootstrap epoch true)).note (.dialed id options)

/-- Closes a channel that was never put to use. -/
def cleanUp (c : ChannelId) (l : Link σ) : Link σ := l.spawn (.cleanup c false)

/-- Closes the channel of an answer, if it is one. -/
def cleanUp? (answer : Except Fault ChannelId) (l : Link σ) : Link σ :=
  match answer with
  | .ok c => l.cleanUp c
  | .error _ => l

/-- The attempt belongs to an earlier chain. -/
def supersede (ticket : Option TicketId) (answer : Except Fault ChannelId) (l : Link σ) : Link σ :=
  let l := log o nested .debug "endpoint_connect_superseded" l.place l
  let l := (l.count .discard).cleanUp? answer
  l.settle? ticket (.ok l.state)

/-- The link went down while the attempt was under way: undo everything. -/
def discard (ticket : Option TicketId) (answer : Except Fault ChannelId) (l : Link σ) : Link σ :=
  let l := log o nested .debug "endpoint_connect_discarded" [("ident", l.mark o)] l
  let l := l.count .discard
  let l :=
    match answer with
    | .ok c => (if l.channel = some c then l.clear else l).cleanUp c
    | .error _ => l
  let l := moveTo o nested .disconnected l
  l.settle? ticket (.ok .disconnected)

/-- The attempt got a channel, which is installed unless the link went another way at the
last moment. -/
def succeed (ticket : Option TicketId) (c : ChannelId) (l : Link σ) : Link σ :=
  let l := l.install c
  if l.state = .connecting then
    let l := moveTo o nested .connected l
    let l := l.count .success
    let l := log o nested .info "endpoint_connected"
      (l.place ++ [("remote", match o.remote l.outside c with
        | some a => "Some(" ++ a ++ ")"
        | none => "None")]) l
    (l.spawn (.watch c)).settle? ticket (.ok .connected)
  else discard o nested ticket (.ok c) l

/-- Plans the next attempt of a chain. The first component tells whether the backoff held. -/
def planRetry (epoch : UInt64) (cause : Fault) (l : Link σ) : Bool × Link σ :=
  if l.epoch = epoch then
    let attempt := l.reconnectAttempt
    let l := { l with reconnectAttempt := attempt + 1 }.note (.consulted attempt)
    let l := occur o nested (.consulting attempt) l
    match o.delay attempt l.outside with
    | (none, s) => (false, { l with outside := s })
    | (some delay, s) =>
      let l := { l with outside := s }.count .retry
      let l := log o nested .warn "endpoint_retry_scheduled"
        (l.place ++ [("attempt", toString attempt.toNat),
          ("delay_ms", toString (delay % UInt64.size)), ("error", cause.message)]) l
      let l := signalReload o nested l
      let l := moveTo o nested .connecting l
      (true, l.spawn (.retry delay epoch))
  else (true, l)

/-- Tells the outcome of a failed attempt to whoever should know it by now, and keeps the
ticket of whoever should not. -/
def announceFailure (ticket : Option TicketId) (bootstrap : Bool) (cause : Fault) (l : Link σ) :
    Option TicketId × Link σ :=
  if cause.isTerminal ∨ l.identity.transient then
    let l := log o nested .warn "endpoint_connect_failed"
      (l.place ++ [("kind", cause.kind), ("error", cause.message)]) l
    let l := moveTo o nested .disconnected l
    (none, l.settle? ticket (.error cause))
  else
    let l := log o nested .debug "endpoint_connect_failed_unclassified"
      (l.place ++ [("error", cause.message)]) l
    if bootstrap then (none, l.settle? ticket (.error cause)) else (ticket, l)

/-- The attempt failed. A persistent link that was not disconnected tries again. -/
def fail (ticket : Option TicketId) (bootstrap : Bool) (epoch : UInt64) (cause : Fault)
    (l : Link σ) : Link σ :=
  let (ticket, l) := announceFailure o nested ticket bootstrap cause (l.count .failure)
  if l.identity.transient then
    let l := log o nested .debug "endpoint_transient_not_retrying" l.place l
    l.settle? ticket (.ok l.state)
  else if l.disconnected then
    let l := log o nested .debug "endpoint_retry_skipped_disconnected" l.place l
    l.settle? ticket (.ok l.state)
  else
    match planRetry o nested epoch cause l with
    | (true, l) => l.settle? ticket (.ok l.state)
    | (false, l) => l.settle? ticket (.error .dropped)

/-- The connector answered an attempt. -/
def conclude (ticket : Option TicketId) (bootstrap : Bool) (epoch : UInt64)
    (answer : Except Fault ChannelId) (l : Link σ) : Link σ :=
  if l.epoch ≠ epoch then supersede o nested ticket answer l
  else if l.state.isDown ∨ l.disconnected then discard o nested ticket answer l
  else
    match answer with
    | .ok c => succeed o nested ticket c l
    | .error cause => fail o nested ticket bootstrap epoch cause l

/-! ## The other jobs -/

/-- The wait before a retry is over: the next attempt of the chain begins, in the same job,
unless the chain has ended. -/
def wake (id : JobId) (epoch : UInt64) (l : Link σ) : Link σ :=
  if l.epoch ≠ epoch then
    log o nested .debug "endpoint_retry_superseded" l.place (l.finish id)
  else if l.disconnected then
    let l := log o nested .debug "endpoint_retry_abandoned" l.place (l.finish id)
    (disconnect o nested l).2
  else dial o id none false epoch l

/-- The channel of a teardown is closed, well or badly; the link is disconnected now. -/
def tornDown (ticket : TicketId) (l : Link σ) : Link σ :=
  let l := (moveTo o nested .disconnected l).clear
  let l := log o nested .info "endpoint_shutdown"
    (l.place ++ [("metrics", l.metrics.summary)]) l
  l.settle ticket (.ok .disconnected)

/-- The closing of the channel of a teardown came to its end. -/
def closeEnded (ticket : TicketId) (failure : Option Fault) (l : Link σ) : Link σ :=
  let l :=
    match failure with
    | none => log o nested .debug "endpoint_disconnected" [("ident", l.mark o)] l
    | some f =>
      log o nested .warn "endpoint_disconnect_failed"
        [("ident", l.mark o), ("error", f.message)] l
  tornDown o nested ticket l

/-- The closing of an unused channel came to its end. -/
def cleanupEnded (failure : Option Fault) (l : Link σ) : Link σ :=
  match failure with
  | none => l
  | some f =>
    log o nested .debug "endpoint_stale_channel_close_failed"
      [("address", l.identity.address.label), ("error", f.message)] l

/-- A watched channel closed. It matters only while it is the installed one. -/
def watchEnded (c : ChannelId) (l : Link σ) : Link σ :=
  if l.channel = some c then reportLoss o nested l else l

/-- The outcome of a reconnect is known. -/
def reconnectEnded (outcome : Outcome) (l : Link σ) : Link σ :=
  match outcome with
  | .ok _ => l
  | .error f =>
    log o nested .warn "endpoint_reconnect_failed"
      [("address", l.identity.address.label), ("error", f.message)] l

/-- A job broke down: whoever waits for it is told that nobody is left to answer. -/
def forsake (j : Job) (l : Link σ) : Link σ :=
  match j with
  | .attempt ticket _ _ _ => l.settle? ticket (.error .dropped)
  | .teardown _ ticket _ => l.settle ticket (.error .dropped)
  | .rejection r => l.note (.failed r.id .dropped)
  | .retry .. | .cleanup .. | .watch _ | .report _ => l

end NodeLink.Link
