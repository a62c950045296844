import NodeLink.Dcp.Record
import NodeLink.Json.Reader

/-!
# The JSON form of stream records

A record is written as an object of its fields in their order, and a change as an
object with one member named for its kind. Reading takes more: the fields of an
object may come in any order among members it does not know, and a record may
also be an array of exactly its fields. No field may be missing or given twice,
and every number must be written as a plain natural number that its field can
hold. A side is a string or an object with one null member.

Names are compared by their meaning. A name whose spelling means nothing makes the
object unreadable, whether it is known or not.
-/

set_option autoImplicit false

namespace NodeLink.Dcp

open Json (Value)

/-! ## Fields -/

/-- A number below a bound, spelled with digits only. -/
def number? (bound : Nat) : Value → Option Nat
  | .number token => (Number.natural? 10 token).filter (· < bound)
  | _ => none

/-- A number of eight bits. -/
def word8? (v : Value) : Option UInt8 := (number? UInt8.size v).map UInt8.ofNat

/-- A number of sixteen bits. -/
def word16? (v : Value) : Option UInt16 := (number? UInt16.size v).map UInt16.ofNat

/-- A number of thirty-two bits. -/
def word32? (v : Value) : Option UInt32 := (number? UInt32.size v).map UInt32.ofNat

/-- A number of sixty-four bits. -/
def word64? (v : Value) : Option UInt64 := (number? UInt64.size v).map UInt64.ofNat

def string? : Value → Option String
  | .string s => s.toString?
  | _ => none

def bytes? : Value → Option (List UInt8)
  | .array items => items.mapM word8?
  | _ => none

/-- The only value that belongs to a name. -/
def onlyMember? (name : String) (members : List (String × Value)) : Option Value :=
  match members.filter (·.1 == name) with
  | [(_, v)] => some v
  | _ => none

/-- The values of named fields, in the order of the names. -/
def fields? (names : List String) : Value → Option (List Value)
  | .array items => if items.length = names.length then some items else none
  | .object members => do
    let members ← members.mapM fun m => m.1.toString?.map fun k => (k, m.2)
    names.mapM (onlyMember? · members)
  | _ => none

/-! ## Records -/

/-- The names of a mutation's fields. -/
def Mutation.names : List String := [
  "total_body_length", "partition", "key", "content", "expiration", "by_sequence_number",
  "revision_sequence_number", "flags", "lock_time", "cas", "bucket"]

/-- The values of a mutation's fields. -/
def Mutation.values (m : Mutation) : List Value := [
  .ofNat m.totalBodyLength.toNat, .ofNat m.partition.toNat, .ofString m.key,
  .array (m.content.map fun b => .ofNat b.toNat), .ofNat m.expiration.toNat,
  .ofNat m.bySequence.toNat, .ofNat m.revisionSequence.toNat, .ofNat m.flags.toNat,
  .ofNat m.lockTime.toNat, .ofNat m.cas.toNat, .ofString m.bucket]

/-- A mutation from the values of its fields. -/
def Mutation.ofValues? : List Value → Option Mutation
  | [length, part, key, content, expiration, seq, rev, flags, lock, cas, bucket] => do
    return {
      totalBodyLength := ← word32? length
      partition := ← word16? part
      key := ← string? key
      content := ← bytes? content
      expiration := ← word32? expiration
      bySequence := ← word64? seq
      revisionSequence := ← word64? rev
      flags := ← word32? flags
      lockTime := ← word32? lock
      cas := ← word64? cas
      bucket := ← string? bucket }
  | _ => none

/-- The names of a removal's fields. -/
def Removal.names : List String := [
  "total_body_length", "partition", "key", "cas", "by_sequence_number",
  "revision_sequence_number", "bucket"]

/-- The values of a removal's fields. -/
def Removal.values (r : Removal) : List Value := [
  .ofNat r.totalBodyLength.toNat, .ofNat r.partition.toNat, .ofString r.key, .ofNat r.cas.toNat,
  .ofNat r.bySequence.toNat, .ofNat r.revisionSequence.toNat, .ofString r.bucket]

/-- A removal from the values of its fields. -/
def Removal.ofValues? : List Value → Option Removal
  | [length, part, key, cas, seq, rev, bucket] => do
    return {
      totalBodyLength := ← word32? length
      partition := ← word16? part
      key := ← string? key
      cas := ← word64? cas
      bySequence := ← word64? seq
      revisionSequence := ← word64? rev
      bucket := ← string? bucket }
  | _ => none

/-- A mutation as a JSON value. -/
def Mutation.toValue (m : Mutation) : Value := .ofFields (Mutation.names.zip m.values)

/-- A mutation from a JSON value. -/
def Mutation.ofValue? (v : Value) : Option Mutation := (fields? Mutation.names v).bind ofValues?

/-- A removal as a JSON value. -/
def Removal.toValue (r : Removal) : Value := .ofFields (Removal.names.zip r.values)

/-- A removal from a JSON value. -/
def Removal.ofValue? (v : Value) : Option Removal := (fields? Removal.names v).bind ofValues?

/-! ## Changes and sides -/

/-- The name and value of an object's only member. -/
def tagged? : Value → Option (String × Value)
  | .object [(k, v)] => k.toString?.map fun k => (k, v)
  | _ => none

/-- A change as a JSON value. -/
def Event.toValue : Event → Value
  | mutation m => .ofFields [("Mutation", m.toValue)]
  | removal r => .ofFields [("Remove", r.toValue)]

/-- A change from a JSON value. -/
def Event.ofValue? (v : Value) : Option Event := do
  match ← tagged? v with
  | ("Mutation", v) => (Mutation.ofValue? v).map mutation
  | ("Remove", v) => (Removal.ofValue? v).map removal
  | _ => none

/-- A side as a JSON value. -/
def Side.toValue (s : Side) : Value := .ofString s.name

/-- The side of a given name. -/
def Side.ofName? (name : String) : Option Side := [producer, consumer].find? (·.name == name)

/-- A side from a JSON value. -/
def Side.ofValue? : Value → Option Side
  | .string s => s.toString?.bind ofName?
  | v =>
    match tagged? v with
    | some (name, .null) => ofName? name
    | _ => none

/-! ## Texts -/

/-- A value of some type from a text. -/
def ofText? {α : Type} (ofValue? : Value → Option α) (s : String) : Option α :=
  (Json.ofText? s.toList).bind ofValue?

/-- A mutation from its JSON text. -/
def Mutation.ofText? : String → Option Mutation := Dcp.ofText? ofValue?

/-- A removal from its JSON text. -/
def Removal.ofText? : String → Option Removal := Dcp.ofText? ofValue?

/-- A change from its JSON text. -/
def Event.ofText? : String → Option Event := Dcp.ofText? ofValue?

/-- A side from its JSON text. -/
def Side.ofText? : String → Option Side := Dcp.ofText? ofValue?

end NodeLink.Dcp
