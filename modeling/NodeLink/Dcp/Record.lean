import NodeLink.Text.Layout

/-!
# Records of a change stream

A node streams the changes of its documents: a document was written, or it was
removed. Both kinds carry the partition they belong to and their place in the
order of its changes. The party that opens a stream does so on one of two sides.
-/

set_option autoImplicit false

namespace NodeLink.Dcp

open Text (Layout)

/-- Which side of a stream is opened. -/
inductive Side
  | producer
  | consumer
deriving DecidableEq

/-- The number of a side on the wire. -/
def Side.flags : Side → UInt32
  | producer => 0
  | consumer => 1

/-- The name of a side in records and in JSON. -/
def Side.name : Side → String
  | producer => "Producer"
  | consumer => "Consumer"

/-- A document was created or updated. -/
structure Mutation where
  totalBodyLength : UInt32
  partition : UInt16
  key : String
  content : List UInt8
  expiration : UInt32
  bySequence : UInt64
  revisionSequence : UInt64
  flags : UInt32
  lockTime : UInt32
  cas : UInt64
  bucket : String
deriving DecidableEq

/-- A document was removed or expired. -/
structure Removal where
  totalBodyLength : UInt32
  partition : UInt16
  key : String
  cas : UInt64
  bySequence : UInt64
  revisionSequence : UInt64
  bucket : String
deriving DecidableEq

/-- A change of a document. -/
inductive Event
  | mutation (m : Mutation)
  | removal (r : Removal)
deriving DecidableEq

namespace Event

/-- The partition that a change belongs to. -/
def partition : Event → UInt16
  | mutation m => m.partition
  | removal r => r.partition

/-- The place of a change in its partition. -/
def bySequence : Event → UInt64
  | mutation m => m.bySequence
  | removal r => r.bySequence

end Event

/-! ## Printed records -/

/-- A side as a printed record. -/
def Side.layout (s : Side) : Layout := .word s.name

/-- A mutation as a printed record. -/
def Mutation.layout (m : Mutation) : Layout :=
  .fields "MutationMessage" [
    ("total_body_length", .number m.totalBodyLength.toNat),
    ("partition", .number m.partition.toNat),
    ("key", .string m.key),
    ("content", .list (m.content.map fun b => .number b.toNat)),
    ("expiration", .number m.expiration.toNat),
    ("by_sequence_number", .number m.bySequence.toNat),
    ("revision_sequence_number", .number m.revisionSequence.toNat),
    ("flags", .number m.flags.toNat),
    ("lock_time", .number m.lockTime.toNat),
    ("cas", .number m.cas.toNat),
    ("bucket", .string m.bucket)]

/-- A removal as a printed record. -/
def Removal.layout (r : Removal) : Layout :=
  .fields "RemoveMessage" [
    ("total_body_length", .number r.totalBodyLength.toNat),
    ("partition", .number r.partition.toNat),
    ("key", .string r.key),
    ("cas", .number r.cas.toNat),
    ("by_sequence_number", .number r.bySequence.toNat),
    ("revision_sequence_number", .number r.revisionSequence.toNat),
    ("bucket", .string r.bucket)]

/-- A change as a printed record. -/
def Event.layout : Event → Layout
  | mutation m => .items "Mutation" [m.layout]
  | removal r => .items "Remove" [r.layout]

end NodeLink.Dcp
