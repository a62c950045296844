import NodeLink.Event
import NodeLink.Fault.Basic
import NodeLink.Pipeline

/-!
# What surrounds a link

A link asks its surroundings for everything it does not decide itself: whether a
channel is alive, how long to wait, whether the sink takes an event. All of them
share one state `σ`, about which nothing is assumed.

While a link is in the middle of its work, five kinds of occasion hand control to
the surroundings: a line is logged, an event is about to be published, the
backoff is about to be consulted, a request is being written, a channel is being
flushed. On each of them the surroundings may call the link again, any number of
times. They answer only after these calls have been carried out.

The module fixes the questions. Which answers are sensible is not part of it.
-/

set_option autoImplicit false

namespace NodeLink

abbrev ChannelId := Nat

/-- How grave a log line is. -/
inductive Level
  | error | warn | info | debug | trace
deriving DecidableEq

namespace Level

/-- The label of a level. -/
def label : Level → String
  | error => "ERROR"
  | warn => "WARN"
  | info => "INFO"
  | debug => "DEBUG"
  | trace => "TRACE"

/-- Graver levels have smaller ranks. -/
def rank : Level → Nat
  | error => 1
  | warn => 2
  | info => 3
  | debug => 4
  | trace => 5

end Level

structure LogLine where
  level : Level
  message : String
  fields : List (String × String)
deriving DecidableEq

/-- A log line in text: the level, the message and the particulars. -/
def LogLine.text (l : LogLine) : String :=
  " ".intercalate (l.level.label :: l.message :: l.fields.map fun f => f.1 ++ "=" ++ f.2)

/-- What can be asked of a link from outside. -/
inductive Call
  | connect
  | disconnect
  | reportLoss
  /-- Tell the layer above that the topology may be stale. -/
  | signalReload
  | flush
  | send (request : Request)
deriving DecidableEq

/-- When control passes to the surroundings. -/
inductive Occasion
  | logging (line : LogLine)
  /-- An event is about to be published. -/
  | publishing (event : Event)
  /-- The backoff is about to be consulted for an attempt. -/
  | consulting (attempt : UInt64)
  /-- A request is being written to a channel. -/
  | writing (channel : ChannelId) (request : Request)
  | flushing (channel : ChannelId)
deriving DecidableEq

/-- The surroundings of a link, as the questions that are put to them. -/
structure Surroundings (σ : Type) where
  /-- The calls made on an occasion, in order. -/
  react : Occasion → σ → List Call × σ
  /-- The sink's answer to an event. -/
  accept : Event → σ → Option Refusal × σ
  /-- The milliseconds to wait before an attempt; `none` if the backoff breaks down. -/
  delay : UInt64 → σ → Option Nat × σ
  /-- The owner's stages for one attempt. -/
  stages : σ → List Stage × σ
  /-- Whether tracing asks for the wire log. -/
  traces : σ → Bool
  isActive : σ → ChannelId → Bool
  /-- Whether a channel takes more to write. -/
  isWritable : σ → ChannelId → Bool
  /-- The numeric address of a channel's peer, if it is known. -/
  remote : σ → ChannelId → Option String

/-- Surroundings that never call the link, take every event and know no channel. -/
def Surroundings.silent : Surroundings Unit where
  react _ s := ([], s)
  accept _ s := (none, s)
  delay _ s := (some 0, s)
  stages s := ([], s)
  traces _ := false
  isActive _ _ := false
  isWritable _ _ := false
  remote _ _ := none

end NodeLink
