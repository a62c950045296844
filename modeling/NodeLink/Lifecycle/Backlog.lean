/-!
# A bounded backlog with positions

A backlog keeps the newest items of an endless sequence. Every item has a
position, counted from the first item ever pushed, so that a reader can hold
its place in the sequence while the backlog forgets. What a reader gets at a
position is decided by three cases: the item was forgotten, the item is kept,
or nobody pushed it yet.

The bound is part of the type. The module does not say who reads, nor what a
reader does after it missed something.
-/

set_option autoImplicit false

namespace NodeLink.Lifecycle

/-- The newest items of a sequence, at most `capacity` of them. -/
structure Backlog (α : Type) (capacity : Nat) where
  /-- How many items came before the kept ones. -/
  forgotten : Nat
  items : List α
  length_le : items.length ≤ capacity

/-- What a reader finds at its position. -/
inductive Reading (α : Type)
  | item (value : α)
  /-- The items before the oldest kept one are gone; so many of them. -/
  | missed (count : Nat)
  /-- The position is not filled yet. -/
  | caughtUp
deriving DecidableEq

namespace Backlog

variable {α : Type} {capacity : Nat}

/-- A backlog nobody pushed to. -/
def empty : Backlog α capacity := ⟨0, [], Nat.zero_le _⟩

/-- The position that the next pushed item takes. -/
def next (b : Backlog α capacity) : Nat := b.forgotten + b.items.length

/-- Pushing appends an item and forgets the oldest ones above the bound. -/
def push (b : Backlog α capacity) (x : α) : Backlog α capacity where
  forgotten := b.forgotten + ((b.items ++ [x]).length - capacity)
  items := (b.items ++ [x]).drop ((b.items ++ [x]).length - capacity)
  length_le := by simp only [List.length_drop]; omega

def read (b : Backlog α capacity) (position : Nat) : Reading α :=
  if position < b.forgotten then .missed (b.forgotten - position)
  else match b.items[position - b.forgotten]? with
    | some x => .item x
    | none => .caughtUp

/-- Each push moves the end by one, also when it forgets. -/
theorem next_push (b : Backlog α capacity) (x : α) : (b.push x).next = b.next + 1 := by
  have := b.length_le
  simp only [next, push, List.length_append, List.length_singleton, List.length_drop]
  omega

/-- A reader at the end has nothing to read. -/
theorem read_next (b : Backlog α capacity) : b.read b.next = .caughtUp := by
  simp [read, next]

/-- Pushing one item after the other keeps the newest of them. -/
theorem items_foldl_push (b : Backlog α capacity) (xs : List α) :
    (xs.foldl push b).forgotten = b.forgotten + ((b.items ++ xs).length - capacity) ∧
      (xs.foldl push b).items = (b.items ++ xs).drop ((b.items ++ xs).length - capacity) := by
  induction xs generalizing b with
  | nil =>
    have := b.length_le
    have none : (b.items ++ []).length - capacity = 0 := by
      rw [List.append_nil]
      omega
    rw [none]
    simp
  | cons x xs ih =>
    obtain ⟨forgotten, items⟩ := ih (b.push x)
    have bound := b.length_le
    have length : (b.push x).items.length =
        b.items.length + 1 - (b.items.length + 1 - capacity) := by
      simp [push]
    simp only [List.foldl_cons, forgotten, items, List.length_append, List.length_cons, length]
    constructor
    · simp only [push, List.length_append, List.length_singleton]
      omega
    · simp only [push, List.length_append, List.length_singleton]
      rw [← List.drop_append_of_le_length (by simp), List.drop_drop, List.append_assoc]
      congr 1
      omega

/-- What is read at a position is what was pushed there. -/
theorem eq_of_read {xs : List α} {position : Nat} {x : α}
    (h : (xs.foldl push (empty : Backlog α capacity)).read position = .item x) :
    xs[position]? = some x := by
  obtain ⟨forgotten, items⟩ := items_foldl_push (empty : Backlog α capacity) xs
  simp only [empty, List.nil_append, Nat.zero_add] at forgotten items
  simp only [read, empty, forgotten, items] at h
  split at h
  · cases h
  next kept =>
    rw [List.getElem?_drop, Nat.add_sub_cancel' (Nat.le_of_not_lt kept)] at h
    split at h
    next y hy =>
      cases h
      exact hy
    next => cases h

end Backlog

end NodeLink.Lifecycle
