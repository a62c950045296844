import NodeLink.Address.Numeric
import NodeLink.Event
import NodeLink.Fault.Basic

/-!
# Scripted connectors and channels

In a rehearsal the connector follows a script: every call takes the next entry.
An entry may deliver a channel, fail, stay silent, break down, deliver an earlier
channel once more, or do one of these after a while.

A scripted channel remembers what was done to it. Being *active* and being *lost*
are two things: a channel that is no longer active may still not have told
anybody, and only a lost channel ends the watches over it.
-/

set_option autoImplicit false

namespace NodeLink.Rehearsal

/-- How a channel behaves when it is asked to close. -/
structure Closing where
  /-- Closing leaves the channel as it is. -/
  keepOpen : Bool := false
  /-- Closing never comes to its end. -/
  hang : Bool := false
  delay : Option Nat := none
  failure : Option Fault := none

/-- How a delivered channel starts. -/
structure Setup where
  active : Bool := true
  writable : Bool := true
  /-- The text of the peer's numeric address. -/
  remote : String := "127.0.0.1:11210"
  closing : Closing := {}

/-- An entry of the connector's script. -/
inductive Cast
  | channel (setup : Setup)
  | fault (f : Fault)
  | silence
  | breakdown
  | again (index : Nat)
  /-- Goes on with another entry after so many milliseconds. -/
  | later (milliseconds : Nat) (next : Cast)

structure Channel where
  active : Bool
  writable : Bool
  remote : Option NumericAddress
  closing : Closing
  /-- Whether the watches over it have ended. -/
  lost : Bool
  written : List (List UInt8)
  /-- The requests written that nobody answered yet, in their places. -/
  requests : List (Option Request)
  flushes : Nat
  /-- How often it was asked to close. -/
  closes : Nat

/-- A channel as it is delivered. -/
def Channel.ofSetup (s : Setup) : Channel where
  active := s.active
  writable := s.writable
  remote := NumericAddress.ofString? s.remote
  closing := s.closing
  lost := false
  written := []
  requests := []
  flushes := 0
  closes := 0

/-- What a report shows of a channel. -/
structure ChannelView where
  active : Bool
  writable : Bool
  written : List (List UInt8)
  flushes : Nat
  closes : Nat
deriving DecidableEq

/-- The visible side of a channel. -/
def Channel.view (c : Channel) : ChannelView :=
  ⟨c.active, c.writable, c.written, c.flushes, c.closes⟩

end NodeLink.Rehearsal
