import NodeLink.Lifecycle.State
import NodeLink.Lifecycle.Backlog

/-!
# The state machine and its subscribers

A machine holds the current state and tells subscribers about every change.
Changes are kept in a backlog of the 64 newest, one for all subscribers; each
subscriber holds a position in it. A subscriber that fell behind is told once
how many changes it missed and goes on with the oldest kept one. Changes made
while nobody subscribes are not kept at all.

The machine validates nothing: any state may be swapped for any other. A swap
for the same state, and a comparison that fails, change nothing that a
subscriber could see.
-/

set_option autoImplicit false

namespace NodeLink.Lifecycle

/-- How many changes are kept for subscribers. -/
def window : Nat := 64

/-- Names a subscriber: the count of subscriptions made before it. -/
abbrev SubscriberId := Nat

/-- The current state together with what its subscribers have still to read. -/
structure Machine where
  current : State
  backlog : Backlog Change window
  /-- The subscribers, each with the position it reads next. -/
  subscribers : List (SubscriberId × Nat)
  /-- How many subscriptions were made so far. -/
  subscriptions : Nat
  /-- A retired machine makes no more changes. -/
  retired : Bool

inductive Delivery
  | change (c : Change)
  /-- So many changes were missed; reading goes on with the oldest kept one. -/
  | lagged (count : Nat)
  | empty
  /-- Nothing to read, now or later. -/
  | closed
deriving DecidableEq

namespace Machine

def new (initial : State) : Machine := ⟨initial, .empty, [], 0, false⟩

/-- Keeps a change for the subscribers, if there are any. -/
def announce (m : Machine) (c : Change) : Machine :=
  if m.subscribers.isEmpty then m else { m with backlog := m.backlog.push c }

/-- Swaps in `next`. Subscribers hear of it only when the state really changes. -/
def transition (m : Machine) (next : State) : Machine :=
  if m.current = next then m
  else { m with current := next }.announce ⟨m.current, next⟩

/-- Swaps in `next` only if the state is `expected`; otherwise gives the state found. -/
def compareAndTransition (m : Machine) (expected next : State) : Except State Machine :=
  if m.current = expected then .ok (m.transition next) else .error m.current

/-- A new subscriber, which will read only changes made from now on. -/
def subscribe (m : Machine) : SubscriberId × Machine :=
  (m.subscriptions,
    { m with
      subscribers := m.subscribers ++ [(m.subscriptions, m.backlog.next)]
      subscriptions := m.subscriptions + 1 })

/-- The position a subscriber reads next, while it is subscribed. -/
def position? (m : Machine) (id : SubscriberId) : Option Nat := m.subscribers.lookup id

/-- Moves a subscriber to a position. -/
def seek (m : Machine) (id : SubscriberId) (position : Nat) : Machine :=
  { m with
    subscribers := m.subscribers.map fun s => if s.1 = id then (s.1, position) else s }

/-- The next delivery to a subscriber; `none` if there is no such subscriber. -/
def receive? (m : Machine) (id : SubscriberId) : Option (Delivery × Machine) :=
  (m.position? id).map fun position =>
    match m.backlog.read position with
    | .item c => (.change c, m.seek id (position + 1))
    | .missed n => (.lagged n, m.seek id m.backlog.forgotten)
    | .caughtUp => (if m.retired then .closed else .empty, m)

def unsubscribe (m : Machine) (id : SubscriberId) : Machine :=
  { m with subscribers := m.subscribers.filter (·.1 ≠ id) }

/-- Ends the machine. What is kept can still be read. -/
def retire (m : Machine) : Machine := { m with retired := true }

/-- Everything a subscriber can receive now, in order. The count bounds the work; the
backlog's size and one notice of lag are enough. -/
def drain (m : Machine) (id : SubscriberId) : Nat → List Delivery × Machine
  | 0 => ([], m)
  | n + 1 =>
    match m.receive? id with
    | some (.change c, m) => let r := m.drain id n; (.change c :: r.1, r.2)
    | some (.lagged k, m) => let r := m.drain id n; (.lagged k :: r.1, r.2)
    | _ => ([], m)

@[simp] theorem current_announce (m : Machine) (c : Change) :
    (m.announce c).current = m.current := by
  unfold announce; split <;> rfl

/-- After a swap the machine is in the state swapped in. -/
@[simp] theorem current_transition (m : Machine) (next : State) :
    (m.transition next).current = next := by
  unfold transition; split <;> simp_all

/-- A swap does not retire a machine. -/
@[simp] theorem retired_transition (m : Machine) (next : State) :
    (m.transition next).retired = m.retired := by
  unfold transition announce
  split
  · rfl
  · split <;> rfl

end Machine

end NodeLink.Lifecycle
