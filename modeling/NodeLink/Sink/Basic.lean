import NodeLink.Sink.Permits
import NodeLink.Sink.Ring

/-!
# Event sinks

A sink takes events from a link without ever making it wait. There are three
kinds: a queue guarded by permits, a ring of slots, and a queue without a bound.
They share one vocabulary: publish, receive, close, abandon. A sink that refuses
an event hands it back to the publisher. What is queued when the reader leaves is
dropped, by the ring only after the publisher has left too.
-/

set_option autoImplicit false

namespace NodeLink

/-- A sink of one of three kinds. -/
inductive Sink (α : Type)
  | permits (queue : Sink.Permits α)
  | ring (slots : Sink.Ring α)
  | unbounded (queued : List α) (closed : Bool)

namespace Sink

variable {α : Type}

/-- The answer to a publication: the sink afterwards, and if there was a refusal, the reason and
the item that came back. -/
def publish (s : Sink α) (x : α) : Option (Refusal × α) × Sink α :=
  match s with
  | permits q =>
    match q.publish x with
    | .ok q => (none, permits q)
    | .error back => (some back, s)
  | ring r =>
    match r.publish x with
    | .ok r => (none, ring r)
    | .error back => (some back, s)
  | unbounded queued closed =>
    if closed then (some (.closed, x), s) else (none, unbounded (queued ++ [x]) false)

/-- The oldest item, if there is one. -/
def receive (s : Sink α) : Option α × Sink α :=
  match s with
  | permits q => (q.receive.1, permits q.receive.2)
  | ring r => (r.receive.1, ring r.receive.2)
  | unbounded (x :: rest) closed => (some x, unbounded rest closed)
  | unbounded [] closed => (none, unbounded [] closed)

/-- The reader leaves; what is dropped with it is handed out. -/
def close (s : Sink α) : List α × Sink α :=
  match s with
  | permits q => (q.close.1, permits q.close.2)
  | ring r => (r.close.1, ring r.close.2)
  | unbounded queued _ => (queued, unbounded [] true)

/-- The publisher leaves; what is dropped with it is handed out. -/
def abandon (s : Sink α) : List α × Sink α :=
  match s with
  | ring r => (r.abandon.1, ring r.abandon.2)
  | permits _ | unbounded _ _ => ([], s)

/-- How many items are queued. -/
def size : Sink α → Nat
  | permits q => q.queued.length
  | ring r => r.filled
  | unbounded queued _ => queued.length

/-- Takes up to `n` items, oldest first. -/
def takeAll (s : Sink α) : Nat → List α × Sink α
  | 0 => ([], s)
  | n + 1 =>
    match s.receive with
    | (some x, s) => let r := s.takeAll n; (x :: r.1, r.2)
    | (none, s) => ([], s)

theorem Permits.publish_refused {q : Permits α} {x back : α} {why : Refusal}
    (h : q.publish x = .error (why, back)) : back = x := by
  unfold Permits.publish at h
  split at h
  · cases h
    rfl
  · split at h <;> cases h
    rfl

theorem Ring.publish_refused {r : Ring α} {x back : α} {why : Refusal}
    (h : r.publish x = .error (why, back)) : back = x := by
  unfold Ring.publish at h
  split at h
  · cases h
    rfl
  · split at h <;> cases h
    rfl

/-- A refused publication leaves the sink as it was, and what comes back is what was published. -/
theorem publish_refused {s t : Sink α} {x back : α} {why : Refusal}
    (h : s.publish x = (some (why, back), t)) : back = x ∧ t = s := by
  cases s with
  | permits q =>
    cases taken : q.publish x <;> simp only [publish, taken] at h <;> cases h
    exact ⟨q.publish_refused taken, rfl⟩
  | ring r =>
    cases taken : r.publish x <;> simp only [publish, taken] at h <;> cases h
    exact ⟨r.publish_refused taken, rfl⟩
  | unbounded queued closed =>
    cases closed <;> simp only [publish] at h <;> cases h
    exact ⟨rfl, rfl⟩

end Sink

end NodeLink
