/-!
# Lifecycle states

A link to a node is always in exactly one of four states. Two of them are
*down*: no attempt runs and no channel serves requests. The module fixes the
two spellings of a state, the upper-case label of reports and the plain name of
records, and nothing about which state may follow which: that is a property of
the link, not of the type.
-/

set_option autoImplicit false

namespace NodeLink.Lifecycle

/-- The four states of a link. -/
inductive State
  /-- No attempt runs; a connect may start one. -/
  | disconnected
  /-- An attempt, or the wait before the next one, is under way. -/
  | connecting
  | connected
  /-- A requested teardown waits for its channel to close. -/
  | disconnecting
deriving DecidableEq

namespace State

/-- A down state serves nobody and nobody is working on it. -/
def isDown : State → Bool
  | disconnected | disconnecting => true
  | connecting | connected => false

/-- The label of a state in reports and log lines. -/
def label : State → String
  | disconnected => "DISCONNECTED"
  | connecting => "CONNECTING"
  | connected => "CONNECTED"
  | disconnecting => "DISCONNECTING"

/-- The name of a state inside a printed record. -/
def name : State → String
  | disconnected => "Disconnected"
  | connecting => "Connecting"
  | connected => "Connected"
  | disconnecting => "Disconnecting"

/-- The states, in the order in which a first connect passes through them. -/
def all : List State := [disconnected, connecting, connected, disconnecting]

/-- The state a label stands for. -/
def ofLabel? (s : String) : Option State := all.find? (·.label == s)

theorem mem_all (s : State) : s ∈ all := by cases s <;> decide

theorem isDown_iff (s : State) : s.isDown ↔ s = disconnected ∨ s = disconnecting := by
  cases s <;> simp [isDown]

end State

/-- One observed change of state. -/
structure Change where
  source : State
  target : State
deriving DecidableEq

/-- A change is written with an arrow head between the two labels. -/
def Change.label (c : Change) : String := c.source.label ++ ">" ++ c.target.label

end NodeLink.Lifecycle
