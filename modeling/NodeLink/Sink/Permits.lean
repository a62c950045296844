import NodeLink.Event

/-!
# A queue guarded by permits

A bounded queue for a reader that waits. It starts with as many permits as it
has room; a publisher takes a permit for what it puts in and the reader gives it
back with what it takes out. Closing drops what is queued. A queue without room
cannot be made, nor one with more permits than can be counted.
-/

set_option autoImplicit false

namespace NodeLink.Sink

/-- A queue and the permits that are left. -/
structure Permits (α : Type) where
  free : Nat
  queued : List α
  closed : Bool

namespace Permits

variable {α : Type}

/-- The most permits that can be counted. -/
def most : Nat := Nat.pow 2 61 - 1

/-- A queue with room for `capacity` items. -/
def new? (capacity : Nat) : Option (Permits α) :=
  if 0 < capacity ∧ capacity ≤ most then some ⟨capacity, [], false⟩ else none

/-- Takes a permit and queues an item. Closing is noticed before the lack of a permit, and a refusal
hands the item back. -/
def publish (q : Permits α) (x : α) : Except (Refusal × α) (Permits α) :=
  if q.closed then .error (.closed, x)
  else if q.free = 0 then .error (.full, x)
  else .ok { q with free := q.free - 1, queued := q.queued ++ [x] }

/-- Takes the oldest item and gives its permit back. -/
def receive (q : Permits α) : Option α × Permits α :=
  match q.queued with
  | [] => (none, q)
  | x :: rest => (some x, { q with free := q.free + 1, queued := rest })

/-- The reader leaves; what was queued is handed out to be dropped. -/
def close (q : Permits α) : List α × Permits α :=
  (q.queued, { free := q.free + q.queued.length, queued := [], closed := true })

end Permits

end NodeLink.Sink
