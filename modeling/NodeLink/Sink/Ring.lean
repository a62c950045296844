import NodeLink.Event

/-!
# A ring of slots

A bounded queue for a reader that polls. It is an array of slots with a position
for the next item to read and one for the next item to write; both count on for
ever and are taken modulo the number of slots. The ring is full when the writer
is a whole round ahead. A ring without slots takes an item only from hand to
hand, and as its reader never waits, it never takes one.

What lies in the slots when the reader leaves stays there, out of reach, until
the writer has left as well.
-/

set_option autoImplicit false

namespace NodeLink.Sink

/-- Slots with a reading and a writing position. -/
structure Ring (α : Type) where
  slots : Array (Option α)
  head : Nat
  tail : Nat
  readerGone : Bool
  writerGone : Bool

namespace Ring

variable {α : Type}

/-- A ring of empty slots. -/
def new (capacity : Nat) : Ring α := ⟨Array.replicate capacity none, 0, 0, false, false⟩

/-- The slot of a position. -/
def slotOf (r : Ring α) (position : Nat) : Nat := position % r.slots.size

/-- How many slots are filled. -/
def filled (r : Ring α) : Nat := r.tail - r.head

/-- Writes an item into the next slot. The reader's leaving is noticed before the lack of a slot,
and a refusal hands the item back. -/
def publish (r : Ring α) (x : α) : Except (Refusal × α) (Ring α) :=
  if r.readerGone then .error (.closed, x)
  else if r.filled = r.slots.size then .error (.full, x)
  else .ok { r with
    slots := r.slots.setIfInBounds (r.slotOf r.tail) (some x)
    tail := r.tail + 1 }

/-- Takes the item out of the oldest filled slot. -/
def receive (r : Ring α) : Option α × Ring α :=
  if r.readerGone ∨ r.filled = 0 then (none, r)
  else
    (r.slots[r.slotOf r.head]?.join,
      { r with slots := r.slots.setIfInBounds (r.slotOf r.head) none, head := r.head + 1 })

/-- What the ring holds, oldest first. -/
def contents (r : Ring α) : List α :=
  (List.range r.filled).filterMap fun i => r.slots[r.slotOf (r.head + i)]?.join

/-- Hands out what the ring holds if both parties are gone. -/
def release (r : Ring α) : List α × Ring α :=
  if r.readerGone ∧ r.writerGone then
    (r.contents, { r with slots := Array.replicate r.slots.size none, head := r.tail })
  else ([], r)

def close (r : Ring α) : List α × Ring α := { r with readerGone := true }.release

def abandon (r : Ring α) : List α × Ring α := { r with writerGone := true }.release

end Ring

end NodeLink.Sink
