import NodeLink.Fault.Basic
import NodeLink.Sink.Basic

/-!
# Requests passing through a sink

An exchange follows the requests that are redirected through a sink: who holds
each of them, and how each is settled. A publisher whose event is refused gets it
back and drops the request in it. A consumer answers the request in the event it
received, or drops it. Whoever drops a request settles it as dropped, and so does
a sink whose reader leaves, for what it drops then.

A request is settled at most once, because each has one holder at a time.
-/

set_option autoImplicit false

namespace NodeLink.Sink

/-- How a request was settled. -/
abbrev Response := Except Fault (List UInt8)

/-- A sink and the requests that passed through it. -/
structure Exchange where
  sink : Sink Event
  reading : Bool
  published : Nat
  settled : List (RequestId × Response)
  /-- The requests whose settling was reported. -/
  reported : List RequestId

inductive Receipt
  | gone
  | nothing
  | event (e : Event)

namespace Exchange

/-- An exchange through an unused sink. -/
def new (sink : Sink Event) : Exchange := ⟨sink, true, 0, [], []⟩

def settle (x : Exchange) (id : RequestId) (r : Response) : Exchange :=
  { x with settled := x.settled ++ [(id, r)] }

/-- Settles the request in an event, if there is one. -/
def settleIn (x : Exchange) (e : Event) (r : Response) : Exchange :=
  match e.request? with
  | some q => x.settle q.id r
  | none => x

/-- Publishes an event. A refused one comes back, and the request in it is dropped. -/
def publish (x : Exchange) (e : Event) : Option (Refusal × Event) × Exchange :=
  match x.sink.publish e with
  | (none, sink) => (none, { x with sink := sink })
  | (some (refusal, back), sink) =>
    (some (refusal, back), { x with sink := sink }.settleIn back (.error .dropped))

/-- Publishes a new request with a given frame. -/
def publishRequest (x : Exchange) (payload : List UInt8) : Option (Refusal × Event) × Exchange :=
  { x with published := x.published + 1 }.publish (.redirect ⟨x.published, payload⟩)

/-- Receives an event and answers the request in it. -/
def receive (x : Exchange) (answer : Response) : Receipt × Exchange :=
  if x.reading then
    match x.sink.receive with
    | (some e, sink) => (.event e, { x with sink := sink }.settleIn e answer)
    | (none, sink) => (.nothing, { x with sink := sink })
  else (.gone, x)

def close (x : Exchange) : Exchange :=
  let (dropped, sink) := x.sink.close
  dropped.foldl (fun x e => x.settleIn e (.error .dropped))
    { x with sink := sink, reading := false }

/-- The requests settled since the last report, in the order of their names. -/
def poll (x : Exchange) : List (RequestId × Response) × Exchange :=
  let news := (List.range x.published).filterMap fun id =>
    if x.reported.contains id then none else (x.settled.lookup id).map fun r => (id, r)
  (news, { x with reported := x.reported ++ news.map (·.1) })

end Exchange

end NodeLink.Sink
