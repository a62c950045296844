import NodeLink.Link.Opening
import NodeLink.Rehearsal.Schedule

/-!
# Cues and reports

A rehearsal is played cue by cue. A cue is a call of the owner, something that
happens to a channel or a request, or the passing of time; jobs go on only while
time passes or while the rehearsal is told to settle. After every cue a report
tells what can be seen of the link and what happened since the last report.

Connects, disconnects and requests are numbered together, from nought. A cue for
something that does not exist has no effect, and its report says so.
-/

set_option autoImplicit false

namespace NodeLink.Rehearsal

open Lifecycle (State Delivery)

inductive Cue
  | connect
  | disconnect
  | send (payload : List UInt8)
  | flush
  | reportLoss
  | signalReload
  | settle
  | advance (milliseconds : Nat)
  | forget (number : Nat)
  | extend (cast : Cast)
  /-- A channel is or is not alive. -/
  | setActive (channel : ChannelId) (value : Bool)
  /-- A channel does or does not take writes. -/
  | setWritable (channel : ChannelId) (value : Bool)
  | lose (channel : ChannelId)
  /-- A request written to a channel is answered, or dropped. -/
  | respond (channel : ChannelId) (index : Nat) (result : Option (Except Fault (List UInt8)))
  /-- All events are taken from the sink. -/
  | takeEvents
  /-- A request taken from the sink is sent again. -/
  | resend (index : Nat)
  /-- A request taken from the sink is failed, or dropped. -/
  | reject (index : Nat) (fault : Option Fault)
  | closeSink
  /-- The owner lets go of the link. -/
  | release
  | inspect

/-- What a look at a link shows. -/
structure Inspection where
  link : String
  environment : String
  bucket : String
  transient : Bool
  summary : String
  /-- The options of the last connector call. -/
  options : Option ConnectOptions

/-- What a cue itself answers. -/
inductive Answer
  /-- There was nothing the cue could be about. -/
  | nothing
  | events (es : List Event)
  | inspection (i : Inspection)

/-- What is reported of a link that exists. -/
structure LinkView where
  state : State
  disconnected : Bool
  hasChannel : Bool
  reconnectAttempt : UInt64
  metrics : Metrics

structure Report where
  time : Nat
  link : Option LinkView
  changes : List Delivery
  done : List (Nat × Reply)
  /-- The times of connector calls since the last report. -/
  dials : List Nat
  /-- The channels that are new or look different. -/
  channels : List (Nat × ChannelView)
  /-- The log lines, in the order of their times and texts. -/
  lines : List (Nat × String)
  answer : Option Answer

/-! ## Cues -/

def number (r : Rehearsal) (n : Numbered) : Rehearsal := { r with notices := r.notices ++ [n] }

/-- The notice of a ticket, which may have been settled before it was numbered. -/
def numberTicket (r : Rehearsal) (t : Ticket) : Rehearsal :=
  match t with
  | .settled outcome => r.number (.settled (.outcome outcome))
  | .pending id =>
    match r.outcomes.lookup id with
    | some outcome => r.number (.settled (.outcome outcome))
    | none => r.number (.waiting (.ticket id))

/-- A call of the owner, who must still hold the link. -/
def whileHeld (r : Rehearsal) (f : Rehearsal → Rehearsal) : Option Answer × Rehearsal :=
  if r.held then (none, f r) else (some .nothing, r)

/-- A change of a channel, which must exist. -/
def withChannel (r : Rehearsal) (c : ChannelId) (f : Rehearsal → Rehearsal) :
    Option Answer × Rehearsal :=
  if c < r.link.outside.channels.size then (none, f r) else (some .nothing, r)

/-- Takes a request out of a list of places. -/
def pick (places : List (Option Request)) (index : Nat) :
    Option (Request × List (Option Request)) :=
  (places[index]?.join).map fun q => (q, places.set index none)

/-- What a look at the link shows. -/
def inspection (r : Rehearsal) : Inspection where
  link := r.link.layout.flat
  environment := r.link.environment.layout.flat
  bucket := r.link.identity.bucket
  transient := r.link.identity.transient
  summary := r.link.metrics.summary
  options := r.lastOptions

/-- The effect of a cue. -/
def play (cue : Cue) (r : Rehearsal) : Option Answer × Rehearsal :=
  let nested := Link.nested r.surroundings r.depth
  match cue with
  | .connect => r.whileHeld fun r =>
    let (t, r) := r.act (Link.connect r.surroundings nested)
    r.numberTicket t
  | .disconnect => r.whileHeld fun r =>
    let (t, r) := r.act (Link.disconnect r.surroundings nested)
    r.numberTicket t
  | .send payload => r.whileHeld fun r =>
    let id := r.notices.length
    (r.number (.waiting (.request id))).take (.call (.send ⟨id, payload⟩))
  | .flush => r.whileHeld (·.take (.call .flush))
  | .reportLoss => r.whileHeld (·.take (.call .reportLoss))
  | .signalReload => r.whileHeld (·.take (.call .signalReload))
  | .settle => (none, r.rest)
  | .advance ms => (none, r.advance ms)
  | .forget n =>
    if n < r.notices.length then (none, { r with notices := r.notices.set n .over })
    else (some .nothing, r)
  | .extend cast => (none, { r with script := r.script ++ [cast] })
  | .setActive c value => r.withChannel c fun r =>
    r.mapScene fun s => s.mapChannel c fun ch => { ch with active := value }
  | .setWritable c value => r.withChannel c fun r =>
    r.mapScene fun s => s.mapChannel c fun ch => { ch with writable := value }
  | .lose c => r.withChannel c (·.lose c)
  | .respond c i result =>
    match (r.link.outside.channels[c]?).bind fun ch => pick ch.requests i with
    | some (q, requests) =>
      let r := r.mapScene fun s => s.mapChannel c fun ch => { ch with requests := requests }
      (none, r.respond q.id (result.getD (.error .dropped)))
    | none => (some .nothing, r)
  | .takeEvents =>
    let sink := r.link.outside.sink
    let (events, sink) := sink.takeAll sink.size
    let r := r.mapScene fun s => { s with sink := sink }
    (some (.events events),
      { r with taken := r.taken ++ events.filterMap fun e => e.request?.map some })
  | .resend i =>
    match r.held, pick r.taken i with
    | true, some (q, taken) => (none, { r with taken := taken }.take (.call (.send q)))
    | _, _ => (some .nothing, r)
  | .reject i fault =>
    match pick r.taken i with
    | some (q, taken) =>
      (none, { r with taken := taken }.respond q.id (.error (fault.getD .dropped)))
    | none => (some .nothing, r)
  | .closeSink =>
    let (events, sink) := r.link.outside.sink.close
    let r := r.mapScene fun s => { s with sink := sink }
    (none, r.dropEvents events)
  | .release => (none, { r with held := false }.part)
  | .inspect => if r.held then (some (.inspection r.inspection), r) else (some .nothing, r)

/-! ## Reports -/

/-- The settled notices with their numbers. -/
def settledNotices (r : Rehearsal) : List (Nat × Reply) :=
  r.notices.zipIdx.filterMap fun n =>
    match n.1 with
    | .settled reply => some (n.2, reply)
    | _ => none

/-- The channels that are new or look different. -/
def changedChannels (r : Rehearsal) : List (Nat × ChannelView) :=
  (r.link.outside.channels.toList.map Channel.view).zipIdx.filterMap fun c =>
    if r.shown[c.2]? = some c.1 then none else some (c.2, c.1)

/-- Log lines in the order of times, then of texts. -/
def sortLines (lines : List (Nat × String)) : List (Nat × String) :=
  lines.mergeSort fun a b => a.1 < b.1 || (a.1 == b.1 && !(b.2 < a.2))

/-- The times of connector calls. -/
def dials (r : Rehearsal) : List Nat :=
  r.chronicle.filterMap fun e =>
    match e.2 with
    | .dialed .. => some e.1
    | _ => none

/-- What is seen of the link. -/
def view (r : Rehearsal) : Option LinkView :=
  if r.linkExists then
    some {
      state := r.link.state
      disconnected := r.link.disconnected
      hasChannel := r.link.channel.isSome
      reconnectAttempt := r.link.reconnectAttempt
      metrics := r.link.metrics }
  else none

/-- Reports, and starts collecting anew. -/
def report (answer : Option Answer) (r : Rehearsal) : Report × Rehearsal :=
  let (changes, lifecycle) := r.link.lifecycle.drain r.subscriber (Lifecycle.window + 2)
  ({ time := r.now
     link := r.view
     changes := changes
     done := r.settledNotices
     dials := r.dials
     channels := r.changedChannels
     lines := sortLines r.link.outside.lines
     answer := answer },
   { r with
     link := { r.link with
       lifecycle := lifecycle, outside := { r.link.outside with lines := [] } }
     notices := r.notices.map fun n => match n with
       | .settled _ => .over
       | _ => n
     chronicle := []
     shown := r.link.outside.channels.toList.map Channel.view })

/-- Plays cues in order, with a report after each. -/
def playAll : List Cue → Rehearsal → List Report
  | [], _ => []
  | cue :: rest, r =>
    let (answer, r) := r.play cue
    let (rep, r) := r.report answer
    rep :: playAll rest r

/-! ## The whole rehearsal -/

/-- Everything a rehearsal starts from. -/
structure Program where
  identity : Identity
  environment : Environment
  stages : List Stage
  sink : Sink Event
  script : List Cast
  /-- The rank of the least grave log lines that are kept. -/
  threshold : Nat
  onLog : List (String × Call)
  onPublish : List (Option Call)
  /-- How many turns, and how many stops of the clock, one cue takes before it is given up. -/
  patience : Nat
  cues : List Cue

/-- The backoff of a rehearsal. A jitter that is really random is not rehearsed: the middle of
its range stands for it. -/
def Program.delay (p : Program) (attempt : UInt64) : Option Nat :=
  (p.environment.backoff.delay? (fun _ => .zero false) attempt).map (·.toNat)

/-- A rehearsal before its first cue, with a subscription to all changes. -/
def Program.start (p : Program) : Except OpeningError Rehearsal :=
  let surroundings := Scene.surroundings p.delay p.stages
  let scene : Scene := {
    now := 0
    linkExists := false
    channels := #[]
    sink := p.sink
    onPublish := p.onPublish
    onLog := p.onLog
    threshold := p.threshold
    lines := [] }
  (Link.open? surroundings p.identity ⟨some p.environment, true, true⟩ scene).map fun l =>
    let (subscriber, lifecycle) := l.lifecycle.subscribe
    { link := { l with lifecycle := lifecycle }
      surroundings := surroundings
      depth := p.onLog.length + p.onPublish.length
      patience := p.patience
      held := true
      ready := []
      timers := []
      casts := []
      script := p.script
      chronicle := []
      lastOptions := none
      outcomes := []
      notices := []
      taken := []
      subscriber := subscriber
      shown := [] }

/-- The reports of a whole rehearsal. -/
def Program.perform (p : Program) : Except OpeningError (List Report) :=
  p.start.map (playAll p.cues)

end NodeLink.Rehearsal
