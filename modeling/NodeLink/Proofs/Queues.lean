import NodeLink.Sink.Basic

/-!
# Bounded sinks as queues

Both bounded sinks stand for the same thing: a list of items, oldest first, that never grows beyond
the capacity (`Stands`). Permits are counted against the items; the slots of a ring hold them from
its reading position on, taken round. What a sink answers depends on the list alone, so two sinks
that stand for one list answer alike, whatever they are made of.

They differ in when they drop what is queued as a party leaves. All that is said of it here is that
what is dropped and what is kept are together what was queued.
-/

set_option autoImplicit false

namespace NodeLink.Sink

variable {α : Type}

/-- What is queued in a sink, oldest first. -/
def queued : Sink α → List α
  | permits q => q.queued
  | ring r => r.contents
  | unbounded queued _ => queued

/-! ## The ring -/

/-- Places that are less than a round apart are different slots. -/
theorem mod_ne_of_lt {n h i j : Nat} (order : i < j) (near : j < n) :
    (h + i) % n ≠ (h + j) % n := by
  intro same
  have apart : (h + j - (h + i)) % n = 0 := Nat.sub_mod_eq_zero_of_mod_eq same.symm
  have short : h + j - (h + i) = j - i := by omega
  rw [short, Nat.mod_eq_of_lt (by omega)] at apart
  omega

theorem filterMap_range {items : List α} {f : Nat → Option α}
    (h : ∀ i (bound : i < items.length), f i = some items[i]) :
    (List.range items.length).filterMap f = items := by
  induction items generalizing f with
  | nil => rfl
  | cons x items ih =>
    have rest : (List.range items.length).filterMap (f ∘ Nat.succ) = items :=
      ih fun i bound => h (i + 1) (Nat.succ_lt_succ bound)
    rw [List.length_cons, List.range_succ_eq_map, List.filterMap_cons, h 0 (Nat.succ_pos _),
      List.filterMap_map, rest]
    rfl

namespace Ring

/-- The slots of a ring from the reading position on hold the items. -/
structure Lies (r : Ring α) (items : List α) : Prop where
  tail : r.tail = r.head + items.length
  fits : items.length ≤ r.slots.size
  slot (i : Nat) (bound : i < items.length) :
    r.slots[(r.head + i) % r.slots.size]? = some (some items[i])

variable {r : Ring α} {items : List α}

theorem lies_new (n : Nat) : (Ring.new n : Ring α).Lies [] := ⟨rfl, Nat.zero_le _, nofun⟩

theorem Lies.filled (h : r.Lies items) : r.filled = items.length := by
  rw [Ring.filled, h.tail, Nat.add_sub_cancel_left]

theorem Lies.contents (h : r.Lies items) : r.contents = items := by
  rw [Ring.contents, h.filled]
  refine filterMap_range fun i bound => ?_
  rw [slotOf, h.slot i bound]
  rfl

/-- An item that is written stands behind the others. -/
theorem Lies.write (h : r.Lies items) (room : items.length < r.slots.size) (x : α) :
    Lies { r with slots := r.slots.setIfInBounds (r.slotOf r.tail) (some x), tail := r.tail + 1 }
      (items ++ [x]) := by
  have inside : r.slotOf r.tail < r.slots.size := Nat.mod_lt _ (Nat.zero_lt_of_lt room)
  refine ⟨?_, ?_, fun i bound => ?_⟩
  · simp only [h.tail, List.length_append, List.length_singleton, Nat.add_assoc]
  · simpa using Nat.succ_le_of_lt room
  · simp only [Array.size_setIfInBounds]
    rw [List.length_append, List.length_singleton] at bound
    rcases Nat.lt_or_eq_of_le (Nat.le_of_lt_succ bound) with old | rfl
    · have other : r.slotOf r.tail ≠ (r.head + i) % r.slots.size := by
        rw [slotOf, h.tail]
        exact (mod_ne_of_lt old room).symm
      rw [Array.getElem?_setIfInBounds_ne other, h.slot i old, List.getElem_append_left old]
    · rw [← h.tail, ← slotOf, Array.getElem?_setIfInBounds_self_of_lt inside,
        List.getElem_append_right (Nat.le_refl _)]
      simp

/-- Behind the item that is taken out the others move up. -/
theorem Lies.take {x : α} (h : r.Lies (x :: items)) :
    Lies { r with slots := r.slots.setIfInBounds (r.slotOf r.head) none, head := r.head + 1 }
      items := by
  refine ⟨?_, ?_, fun i bound => ?_⟩
  · simp only [h.tail, List.length_cons]
    omega
  · have := h.fits
    simp only [List.length_cons] at this
    simp only [Array.size_setIfInBounds]
    omega
  · simp only [Array.size_setIfInBounds]
    have next : i + 1 < (x :: items).length := Nat.succ_lt_succ bound
    have other : r.slotOf r.head ≠ (r.head + (i + 1)) % r.slots.size :=
      mod_ne_of_lt (i := 0) (Nat.succ_pos i) (Nat.lt_of_lt_of_le next h.fits)
    rw [Nat.add_right_comm, Nat.add_assoc, Array.getElem?_setIfInBounds_ne other,
      h.slot (i + 1) next, List.getElem_cons_succ]

end Ring

/-! ## Both sinks -/

/-- A sink with room for `n` items stands for a list of them. The reader is there or not, and the
writer has left or not. -/
inductive Stands (n : Nat) (items : List α) (reading left : Bool) : Sink α → Prop
  | permits {q : Permits α} (queued : q.queued = items) (free : q.free + items.length = n)
      (closed : q.closed = !reading) (emptied : reading = false → items = []) :
      Stands n items reading left (.permits q)
  | ring {r : Ring α} (size : r.slots.size = n) (lies : r.Lies items)
      (reader : r.readerGone = !reading) (writer : r.writerGone = left)
      (emptied : reading = false → left = true → items = []) :
      Stands n items reading left (.ring r)

/-- Why a queue of items refuses another one. -/
def refusal? (n : Nat) (items : List α) (reading : Bool) : Option Refusal :=
  if reading then if items.length < n then none else some .full else some .closed

variable {n : Nat} {items : List α} {reading left : Bool} {s : Sink α}

theorem Stands.queued (h : Stands n items reading left s) : s.queued = items := by
  cases h with
  | permits queued _ _ _ => exact queued
  | ring _ lies _ _ _ => exact lies.contents

/-- Never more items are queued than there is room for. -/
theorem Stands.length_le (h : Stands n items reading left s) : items.length ≤ n := by
  cases h with
  | permits _ free _ _ => omega
  | ring size lies _ _ _ => exact size ▸ lies.fits

/-- A new sink of permits, if it can be made, stands for no items. -/
theorem stands_permits {q : Permits α} (h : Permits.new? n = some q) :
    Stands n [] true false (.permits q) := by
  obtain ⟨-, same⟩ := Option.ite_none_right_eq_some.mp h
  cases same
  exact .permits rfl rfl rfl nofun

theorem stands_ring (n : Nat) : Stands n [] true false (.ring (.new n) : Sink α) :=
  .ring Array.size_replicate (Ring.lies_new n) rfl rfl nofun

/-- A publication is refused or accepted as the items tell. What is accepted stands behind them, and
what is refused comes back. -/
theorem Stands.publish (h : Stands n items reading left s) (x : α) :
    (s.publish x).1 = (refusal? n items reading).map (·, x) ∧
      Stands n (if refusal? n items reading = none then items ++ [x] else items) reading left
        (s.publish x).2 := by
  have whole := h
  have room := h.length_le
  cases reading with
  | false =>
    have refused : s.publish x = (some (.closed, x), s) := by
      cases h with
      | permits _ _ closed _ => simp [Sink.publish, Permits.publish, closed]
      | ring _ _ reader _ _ => simp [Sink.publish, Ring.publish, reader]
    rw [refused]
    exact ⟨rfl, whole⟩
  | true =>
    rcases Nat.lt_or_eq_of_le room with less | equal
    · rw [refusal?, if_pos rfl, if_pos less, if_pos rfl]
      cases h with
      | @permits q queued free closed _ =>
        have some : ¬ q.free = 0 := by omega
        have taken : q.publish x =
            .ok { q with free := q.free - 1, queued := q.queued ++ [x] } := by
          rw [Permits.publish, if_neg (by simp [closed]), if_neg some]
        simp only [Sink.publish, taken]
        refine ⟨rfl, .permits (by rw [queued]) ?_ closed (by simp)⟩
        rw [List.length_append, List.length_singleton]
        simp only
        omega
      | @ring r size lies reader writer _ =>
        have some : ¬ r.filled = r.slots.size := by rw [lies.filled, size]; omega
        have written : r.publish x = .ok { r with
            slots := r.slots.setIfInBounds (r.slotOf r.tail) (Option.some x)
            tail := r.tail + 1 } := by
          rw [Ring.publish, if_neg (by simp [reader]), if_neg some]
        simp only [Sink.publish, written]
        refine ⟨rfl, .ring ?_ (lies.write (size ▸ less) x) reader writer (by simp)⟩
        simp only [Array.size_setIfInBounds, size]
    · have refused : s.publish x = (some (.full, x), s) := by
        cases h with
        | @permits q _ free closed _ =>
          have none : q.free = 0 := by omega
          simp [Sink.publish, Permits.publish, closed, none]
        | @ring r size lies reader _ _ =>
          have none : r.filled = r.slots.size := by rw [lies.filled, size, equal]
          simp [Sink.publish, Ring.publish, reader, none]
      rw [refused, refusal?, if_pos rfl, if_neg (Nat.not_lt_of_le (Nat.le_of_eq equal.symm))]
      exact ⟨rfl, whole⟩

/-- What is received is the oldest item, and the others stay. -/
theorem Stands.receive (h : Stands n items true left s) :
    s.receive.1 = items.head? ∧ Stands n items.tail true left s.receive.2 := by
  cases h with
  | @permits q queued free closed _ =>
    cases items with
    | nil =>
      simp only [Sink.receive, Permits.receive, queued]
      exact ⟨rfl, .permits queued free closed nofun⟩
    | cons x items =>
      simp only [Sink.receive, Permits.receive, queued]
      refine ⟨rfl, .permits rfl ?_ closed nofun⟩
      rw [List.length_cons] at free
      simp only [List.tail_cons]
      omega
  | @ring r size lies reader writer _ =>
    cases items with
    | nil =>
      have empty : r.receive = (none, r) := if_pos (.inr lies.filled)
      simp only [Sink.receive, empty]
      exact ⟨rfl, .ring size lies reader writer nofun⟩
    | cons x items =>
      have filled : ¬ r.filled = 0 := by rw [lies.filled]; exact Nat.succ_ne_zero _
      have first := lies.slot 0 (Nat.succ_pos _)
      have taken : r.receive = (some x, { r with
          slots := r.slots.setIfInBounds (r.slotOf r.head) none, head := r.head + 1 }) := by
        rw [Ring.receive, if_neg (by simp [reader, filled]), Ring.slotOf, ← Nat.add_zero r.head,
          first]
        rfl
      simp only [Sink.receive, taken]
      refine ⟨rfl, .ring ?_ lies.take reader writer nofun⟩
      simp only [Array.size_setIfInBounds, size]

/-- What a ring hands out when a party leaves and what it keeps are together what it held. -/
theorem Ring.Lies.release {r : Ring α} (lies : r.Lies items) (size : r.slots.size = n)
    (reader : r.readerGone = !reading) (writer : r.writerGone = left) :
    ∃ kept, items = r.release.1 ++ kept ∧ (reading = true → r.release.1 = []) ∧
      Stands n kept reading left (.ring r.release.2) := by
  by_cases gone : r.readerGone = true ∧ r.writerGone = true
  · have emptied : r.release = (r.contents,
        { r with slots := Array.replicate r.slots.size none, head := r.tail }) := if_pos gone
    rw [emptied, lies.contents]
    refine ⟨[], (List.append_nil _).symm, fun present => ?_,
      .ring ?_ ?_ reader writer fun _ _ => rfl⟩
    · rw [reader, present] at gone
      exact absurd gone.1 (by decide)
    · simp only [Array.size_replicate, size]
    · exact ⟨rfl, Nat.zero_le _, nofun⟩
  · have kept : r.release = ([], r) := if_neg gone
    rw [kept]
    refine ⟨items, rfl, fun _ => rfl, .ring size lies reader writer fun absent away => ?_⟩
    exact absurd ⟨by rw [reader, absent]; rfl, writer.trans away⟩ gone

/-- What is dropped as the reader leaves and what is kept are together what was queued. -/
theorem Stands.close (h : Stands n items reading left s) :
    ∃ kept, items = s.close.1 ++ kept ∧ Stands n kept false left s.close.2 := by
  cases h with
  | @permits q queued free closed _ =>
    refine ⟨[], ?_, .permits rfl ?_ rfl fun _ => rfl⟩
    · rw [List.append_nil]
      exact queued.symm
    · simp only [Permits.close, queued, List.length_nil]
      omega
  | @ring r size lies reader writer _ =>
    have lies : Ring.Lies { r with readerGone := true } items := ⟨lies.tail, lies.fits, lies.slot⟩
    obtain ⟨kept, parts, -, stands⟩ := lies.release size (show true = !false from rfl) writer
    exact ⟨kept, parts, stands⟩

/-- What is dropped as the writer leaves and what is kept are together what was queued. Nothing is
dropped while there is a reader. -/
theorem Stands.abandon (h : Stands n items reading left s) :
    ∃ kept, items = s.abandon.1 ++ kept ∧ (reading = true → s.abandon.1 = []) ∧
      Stands n kept reading true s.abandon.2 := by
  cases h with
  | permits queued free closed emptied =>
    exact ⟨items, rfl, fun _ => rfl, .permits queued free closed emptied⟩
  | @ring r size lies reader writer _ =>
    have lies : Ring.Lies { r with writerGone := true } items := ⟨lies.tail, lies.fits, lies.slot⟩
    exact lies.release size reader rfl

/-- Nothing is queued when both parties have left. -/
theorem Stands.emptied (h : Stands n items false true s) : items = [] := by
  cases h with
  | permits _ _ _ emptied => exact emptied rfl
  | ring _ _ _ _ emptied => exact emptied rfl rfl

end NodeLink.Sink
