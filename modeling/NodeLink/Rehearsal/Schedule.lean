import NodeLink.Link.Run
import NodeLink.Rehearsal.Scene

/-!
# The schedule of a rehearsal

A rehearsal carries the jobs of a link forward on a clock of its own. Jobs that
can go on stand in a queue, first come, first served; each runs until it waits
for something. New jobs and jobs whose wait is over are appended. Timers that are
due at the same time go off in the order in which they were set; a wait of no
time at all is over at once.

An attempt waits for the connector and for the safeguard time together; if both
are due, the connector's answer counts.
-/

set_option autoImplicit false

namespace NodeLink.Rehearsal

/-- What a job waits for until a deadline. -/
inductive Purpose
  | connector
  | safeguard
  /-- A retry or a close goes on. -/
  | pause
deriving DecidableEq

/-- A deadline of a job. -/
structure Timer where
  deadline : Nat
  job : JobId
  purpose : Purpose

/-- How a numbered notice ends. -/
inductive Reply
  /-- The outcome of a connect or disconnect. -/
  | outcome (o : Outcome)
  | response (r : Except Fault (List UInt8))

/-- Who settles a numbered notice. -/
inductive Source
  | ticket (id : TicketId)
  | request (id : RequestId)
deriving DecidableEq

inductive Numbered
  | waiting (source : Source)
  | settled (reply : Reply)
  | over

end Rehearsal

open Rehearsal in
structure Rehearsal where
  link : Link Scene
  surroundings : Surroundings Scene
  /-- How deep nested calls can go; the count of prepared calls is enough. -/
  depth : Nat
  /-- How many turns, and how many stops of the clock, one cue takes before it is given up. -/
  patience : Nat
  /-- Whether the owner still holds the link. -/
  held : Bool
  /-- The jobs that can go on. -/
  ready : List JobId
  /-- The deadlines, in the order in which they were set. -/
  timers : List Timer
  /-- How the connector goes on for attempts that wait for it. -/
  casts : List (JobId × Cast)
  /-- The rest of the connector's script. -/
  script : List Cast
  /-- What the link did since the last report, with the times. -/
  chronicle : List (Nat × Act)
  /-- The options of the last connector call. -/
  lastOptions : Option ConnectOptions
  outcomes : List (TicketId × Outcome)
  notices : List Numbered
  /-- The requests taken from the sink. -/
  taken : List (Option Request)
  subscriber : Lifecycle.SubscriberId
  /-- The channels as they were last reported. -/
  shown : List ChannelView

namespace Rehearsal

/-! ## The queue and the clock -/

def now (r : Rehearsal) : Nat := r.link.outside.now

def mapScene (r : Rehearsal) (f : Scene → Scene) : Rehearsal :=
  { r with link := { r.link with outside := f r.link.outside } }

/-- Whether a job keeps the link in existence. -/
def keepsLink : Job → Bool
  | .attempt .. | .retry .. | .teardown .. => true
  | .cleanup .. | .watch .. | .report .. | .rejection .. => false

/-- A link exists as long as its owner or one of its jobs holds it. -/
def linkExists (r : Rehearsal) : Bool := r.held || r.link.jobs.any fun j => keepsLink j.2

/-- Appends a job to the queue unless it stands there already. -/
def enqueue (r : Rehearsal) (id : JobId) : Rehearsal :=
  if r.ready.contains id then r else { r with ready := r.ready ++ [id] }

/-- Appends the jobs that satisfy a test, in their order. -/
def enqueueJobs (r : Rehearsal) (p : Job → Bool) : Rehearsal :=
  (r.link.jobs.filter fun j => p j.2).foldl (fun r j => r.enqueue j.1) r

def setTimer (r : Rehearsal) (id : JobId) (purpose : Purpose) (milliseconds : Nat) : Rehearsal :=
  { r with timers := r.timers ++ [⟨r.now + milliseconds, id, purpose⟩] }

/-- Whether a job has a timer for a purpose. -/
def hasTimer (r : Rehearsal) (id : JobId) (purpose : Purpose) : Bool :=
  r.timers.any fun t => t.job == id && t.purpose == purpose

/-- Whether a job has a timer for a purpose that went off. -/
def isDue (r : Rehearsal) (id : JobId) (purpose : Purpose) : Bool :=
  r.timers.any fun t => t.job == id && t.purpose == purpose && t.deadline ≤ r.now

/-- Removes the timers of a job that have a given purpose. -/
def dropTimers (r : Rehearsal) (id : JobId) (purpose : Purpose) : Rehearsal :=
  { r with timers := r.timers.filter fun t => !(t.job == id && t.purpose == purpose) }

/-- Forgets what was kept for jobs that have ended. -/
def tidy (r : Rehearsal) : Rehearsal :=
  let pending := r.link.jobs.map (·.1)
  { r with
    timers := r.timers.filter fun t => pending.contains t.job
    casts := r.casts.filter fun c => pending.contains c.1 }

/-! ## Notices -/

/-- Settles the numbered notice of a source, if it still waits. -/
def reply (r : Rehearsal) (source : Source) (reply : Reply) : Rehearsal :=
  { r with
    notices := r.notices.map fun n =>
      match n with
      | .waiting s => if s = source then .settled reply else n
      | _ => n }

def respond (r : Rehearsal) (request : RequestId) (result : Except Fault (List UInt8)) :
    Rehearsal :=
  r.reply (.request request) (.response result)

def dropRequest (r : Rehearsal) (q : Request) : Rehearsal := r.respond q.id (.error .dropped)

/-- Drops the requests among events. -/
def dropEvents (r : Rehearsal) (es : List Event) : Rehearsal :=
  (es.filterMap Event.request?).foldl dropRequest r

/-- A link that no longer exists leaves its sink. -/
def part (r : Rehearsal) : Rehearsal :=
  if r.linkExists then r
  else
    let (events, sink) := r.link.outside.sink.abandon
    (r.mapScene fun s => { s with sink := sink }).dropEvents events

/-! ## Steps of the link -/

/-- Takes note of an act of the link. -/
def observe (r : Rehearsal) : Act → Rehearsal
  | .spawned id _ => r.enqueue id
  | .settled id outcome =>
    let r := { r with outcomes := r.outcomes ++ [(id, outcome)] }
    (r.reply (.ticket id) (.outcome outcome)).enqueueJobs fun j =>
      match j with
      | .report (.pending t) => t == id
      | _ => false
  | .failed id fault => r.respond id (.error fault)
  | .dialed _ options => { r with lastOptions := some options }
  | _ => r

/-- Lets the link act and takes note of what it did. The journal moves into the chronicle. -/
def act {α : Type} (r : Rehearsal) (f : Link Scene → α × Link Scene) : α × Rehearsal :=
  let l := { r.link with
    journal := [], outside := { r.link.outside with linkExists := r.linkExists } }
  let result := f l
  let journal := result.2.journal
  let r := { r with
    link := { result.2 with journal := [] }
    chronicle := r.chronicle ++ journal.map fun a => (r.now, a) }
  (result.1, (journal.foldl observe r).tidy.part)

/-- Lets the link take a step. -/
def take (r : Rehearsal) (s : Link.Step Scene) : Rehearsal :=
  (r.act fun l => ((), l.step r.surroundings r.depth s)).2

/-! ## Channels -/

/-- A channel is lost: it is inactive, and the watches over it end. -/
def lose (r : Rehearsal) (c : ChannelId) : Rehearsal :=
  (r.mapScene fun s =>
      s.mapChannel c fun ch => { ch with active := false, lost := true }).enqueueJobs
    fun j => match j with
      | .watch w => w == c
      | _ => false

/-- A channel is asked to close by a job, which then waits or goes on. -/
def close (r : Rehearsal) (id : JobId) (c : ChannelId) : Rehearsal :=
  match r.link.outside.channels[c]? with
  | none => r
  | some ch =>
    let r := r.mapScene fun s => s.mapChannel c fun ch => { ch with closes := ch.closes + 1 }
    let r := if ch.closing.keepOpen then r else r.lose c
    if ch.closing.hang then r
    else
      match ch.closing.delay with
      | some (ms + 1) => r.setTimer id .pause (ms + 1)
      | _ => r.take (.closed id ch.closing.failure)

/-! ## Turns of jobs -/

/-- Follows an entry of the script for the attempt of a job. -/
def follow (id : JobId) : Cast → Rehearsal → Rehearsal
  | .channel setup, r =>
    let index := r.link.outside.channels.size
    let r := r.mapScene fun s => { s with channels := s.channels.push (.ofSetup setup) }
    r.take (.answer id (.ok index))
  | .fault f, r => r.take (.answer id (.error f))
  | .silence, r => r
  | .breakdown, r => r.take (.crash id)
  | .again index, r =>
    if index < r.link.outside.channels.size then r.take (.answer id (.ok index))
    else r.take (.crash id)
  | .later 0 next, r => follow id next r
  | .later (ms + 1) next, r =>
    { r with casts := r.casts ++ [(id, next)] }.setTimer id .connector (ms + 1)

/-- Whether the attempt of a job waits for its connector. -/
def isDialing (r : Rehearsal) (id : JobId) : Bool :=
  match r.link.job? id with
  | some (.attempt _ _ _ true) => true
  | _ => false

/-- An attempt has just dialed: the script goes on, then the safeguard time begins. -/
def dialed (id : JobId) (r : Rehearsal) : Rehearsal :=
  if r.isDialing id then
    let r := follow id (r.script.headD .silence) { r with script := r.script.tail }
    if r.isDialing id then
      match r.link.environment.settings.safeguard with
      | 0 => r.take (.answer id (.error .safeguardTimeout))
      | ms + 1 => r.setTimer id .safeguard (ms + 1)
    else r
  else r

/-- An attempt goes on: first the connector, then the safeguard. -/
def resume (id : JobId) (r : Rehearsal) : Rehearsal :=
  let r :=
    if r.isDue id .connector then
      match r.casts.lookup id with
      | some cast =>
        follow id cast { r.dropTimers id .connector with casts := r.casts.filter (·.1 ≠ id) }
      | none => r
    else r
  if r.isDialing id && r.isDue id .safeguard then
    r.take (.answer id (.error .safeguardTimeout))
  else r

/-- A job that pauses goes on if its pause is over. -/
def afterPause (id : JobId) (r : Rehearsal) (next : Rehearsal → Rehearsal) : Rehearsal :=
  if r.isDue id .pause then next (r.dropTimers id .pause) else r

/-- The turn of a job. -/
def turn (id : JobId) (r : Rehearsal) : Rehearsal :=
  match r.link.job? id with
  | none => r
  | some (.attempt _ _ _ false) => dialed id (r.take (.start id))
  | some (.attempt _ _ _ true) => resume id r
  | some (.retry delay _) =>
    match delay with
    | 0 => dialed id (r.take (.wake id))
    | ms + 1 =>
      if r.hasTimer id .pause then r.afterPause id fun r => dialed id (r.take (.wake id))
      else r.setTimer id .pause (ms + 1)
  | some (.teardown (some c) _ false) => (r.take (.start id)).close id c
  | some (.teardown none _ _) => r.take (.start id)
  | some (.cleanup c false) => (r.take (.start id)).close id c
  | some (.teardown (some c) _ true) | some (.cleanup c true) =>
    r.afterPause id fun r =>
      r.take (.closed id (r.link.outside.channels[c]?.bind (·.closing.failure)))
  | some (.watch c) =>
    if (r.link.outside.channels[c]?.map (·.lost)).getD false then
      r.take (if r.linkExists then .lost id else .crash id)
    else r
  | some (.report (.settled outcome)) => r.take (.told id outcome)
  | some (.report (.pending ticket)) =>
    match r.outcomes.lookup ticket with
    | some outcome => r.take (.told id outcome)
    | none => r
  | some (.rejection _) => r.take (.start id)

/-- Jobs take turns until none can go on. The count bounds the turns. -/
def settle : Nat → Rehearsal → Rehearsal
  | 0, r => r
  | n + 1, r =>
    match r.ready with
    | [] => r
    | id :: rest => settle n (turn id { r with ready := rest })

def nextDeadline? (r : Rehearsal) : Option Nat := (r.timers.map (·.deadline)).min?

/-- The timers that are due go off. -/
def ring (r : Rehearsal) : Rehearsal :=
  let due := r.timers.filter fun t => t.deadline ≤ r.now
  (due.mergeSort fun a b => a.deadline ≤ b.deadline).foldl (fun r t => r.enqueue t.job) r

/-- Lets the clock run to a time, stopping at every deadline on the way. The count bounds the
stops. -/
def runUntil (patience target : Nat) : Nat → Rehearsal → Rehearsal
  | 0, r => r
  | n + 1, r =>
    let r := settle patience r
    match r.nextDeadline? with
    | some t =>
      if t ≤ target then
        runUntil patience target n (r.mapScene fun s => { s with now := Nat.max s.now t }).ring
      else r.mapScene fun s => { s with now := target }
    | none => r.mapScene fun s => { s with now := target }

/-- Lets all jobs go on without moving the clock. -/
def rest (r : Rehearsal) : Rehearsal := settle r.patience r

def advance (milliseconds : Nat) (r : Rehearsal) : Rehearsal :=
  (if milliseconds = 0 then r
   else runUntil r.patience (r.now + milliseconds) r.patience r).rest

end Rehearsal

end NodeLink
