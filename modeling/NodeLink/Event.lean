import NodeLink.Dcp.Record

/-!
# Requests and events

A request travels down to the wire: an encoded frame and the notice its sender
waits for. An event travels up to the layer above: the topology may be stale, a
request could not be written and is handed back, or a change was streamed.

A request is identified by a number of its own, so that two requests with the
same frame are still two requests.
-/

set_option autoImplicit false

namespace NodeLink

abbrev RequestId := Nat

/-- An encoded message and the name of the notice that will answer it. -/
structure Request where
  id : RequestId
  payload : List UInt8
deriving DecidableEq

/-- What is published to the layer above. -/
inductive Event
  /-- The topology may be stale; the configuration should be fetched again. -/
  | reload
  /-- A request that could not be written. -/
  | redirect (request : Request)
  /-- A change streamed by the node. -/
  | change (record : Dcp.Event)
deriving DecidableEq

/-- Whether an event asks for a reload. -/
def Event.isReload : Event → Bool
  | reload => true
  | redirect _ | change _ => false

/-- The request that an event carries. -/
def Event.request? : Event → Option Request
  | redirect r => some r
  | reload | change _ => none

/-- Why a sink did not take an event. The event is handed back to its publisher. -/
inductive Refusal
  | full
  | closed
deriving DecidableEq

/-- The sentence shown to people. -/
def Refusal.message : Refusal → String
  | full => "event sink is full"
  | closed => "event sink is closed"

end NodeLink
