import NodeLink.Link.Jobs

/-!
# Runs of a link

A run is a sequence of steps, each taken while nothing else is going on: a call
from outside, a job going on because what it waited for has come, a subscriber
coming, reading or leaving, or a change of the surroundings by themselves. A step
that names no fitting job changes nothing, so every sequence of steps is a run.

How the calls that surroundings make are carried out is a parameter of a step,
`within`. In a run they are calls like any other, bounded by a depth: at depth
zero they are not carried out. A run in which calls never nest deeper than
`depth` is exactly the run at that depth.
-/

set_option autoImplicit false

namespace NodeLink.Link

open Lifecycle (State SubscriberId)

variable {σ : Type} (o : Surroundings σ)

/-- Carries out a call made from within the link's own work, to the given depth. -/
def nested : Nat → Call → Link σ → Link σ
  | 0, _, l => l
  | depth + 1, c, l => carryOut o (nested depth) c l

/-- One step of a run. -/
inductive Step (σ : Type)
  | call (c : Call)
  /-- A job is taken up for the first time. -/
  | start (id : JobId)
  /-- The connector answered the attempt of a job. -/
  | answer (id : JobId) (result : Except Fault ChannelId)
  /-- The wait of a retry is over. -/
  | wake (id : JobId)
  /-- The closing of a channel came to its end. -/
  | closed (id : JobId) (failure : Option Fault)
  | lost (id : JobId)
  /-- The outcome of a reconnect is known. -/
  | told (id : JobId) (outcome : Outcome)
  /-- A job breaks down; whoever waits for it is told so. -/
  | crash (id : JobId)
  | drift (s : σ)
  /-- Somebody subscribes to the changes of state. -/
  | subscribe
  /-- A subscriber takes what it reads next. -/
  | receive (subscriber : SubscriberId)
  | unsubscribe (subscriber : SubscriberId)

section Within

variable (within : Call → Link σ → Link σ)

/-- A job is taken up for the first time. -/
def start (id : JobId) (l : Link σ) : Link σ :=
  match l.job? id with
  | some (.attempt ticket bootstrap epoch false) => dial o id ticket bootstrap epoch l
  | some (.teardown (some c) ticket false) =>
    (l.become id (.teardown (some c) ticket true)).note (.closing c)
  | some (.teardown none ticket false) => tornDown o within ticket (l.finish id)
  | some (.cleanup c false) => (l.become id (.cleanup c true)).note (.closing c)
  | some (.rejection r) => (l.finish id).note (.failed r.id .notConnected)
  | _ => l

/-- The effect of a step, given how calls are carried out that are made from within it. -/
def stepWith (s : Step σ) (l : Link σ) : Link σ :=
  match s with
  | .call c => carryOut o within c l
  | .start id => start o within id l
  | .answer id result =>
    match l.job? id with
    | some (.attempt ticket bootstrap epoch true) =>
      conclude o within ticket bootstrap epoch result ((l.finish id).note (.answered id result))
    | _ => l
  | .wake id =>
    match l.job? id with
    | some (.retry _ epoch) => wake o within id epoch l
    | _ => l
  | .closed id failure =>
    match l.job? id with
    | some (.teardown (some _) ticket true) => closeEnded o within ticket failure (l.finish id)
    | some (.cleanup _ true) => cleanupEnded o within failure (l.finish id)
    | _ => l
  | .lost id =>
    match l.job? id with
    | some (.watch c) => watchEnded o within c (l.finish id)
    | _ => l
  | .told id outcome =>
    match l.job? id with
    | some (.report _) => reconnectEnded o within outcome (l.finish id)
    | _ => l
  | .crash id =>
    match l.job? id with
    | some j => (l.finish id).forsake j
    | none => l
  | .drift s => { l with outside := s }
  | .subscribe => { l with lifecycle := l.lifecycle.subscribe.2 }
  | .receive subscriber =>
    match l.lifecycle.receive? subscriber with
    | some (_, lifecycle) => { l with lifecycle := lifecycle }
    | none => l
  | .unsubscribe subscriber => { l with lifecycle := l.lifecycle.unsubscribe subscriber }

end Within

/-- The effect of a step in which calls nest to the given depth. -/
def step (depth : Nat) (s : Step σ) (l : Link σ) : Link σ := stepWith o (nested o depth) s l

/-- The effect of a sequence of steps. -/
def run (depth : Nat) (steps : List (Step σ)) (l : Link σ) : Link σ :=
  steps.foldl (fun l s => step o depth s l) l

end NodeLink.Link
