import NodeLink.Number.Decimal
import NodeLink.Text.Duration
import NodeLink.Text.Layout

/-!
# Backoff before a reconnect

A backoff turns the number of an attempt, counted from one, into the time to
wait before it. It keeps no state. The fixed backoff always waits the same time.
The exponential one grows by a factor from attempt to attempt up to a cap, and
may stray from that by a random part, its jitter, of which it never falls below
the base.

The factor and the jitter are arbitrary doubles. A jitter range that is empty or
not a range has no draw, and then there is no delay either: `delay?` says `none`.
-/

set_option autoImplicit false

namespace NodeLink

open Text (Layout)
open Number (Binary64 Style)

/-- A double in a printed record. -/
def doubleLayout (x : Binary64) : Layout := .word (Style.record.write x)

/-- Growth from a base by a factor up to a cap. -/
structure Exponential where
  base : UInt64
  /-- The most milliseconds before any attempt, jitter apart. -/
  cap : UInt64
  /-- The factor from one attempt to the next. -/
  multiplier : Binary64
  /-- The random part, as a fraction of the capped delay. -/
  jitter : Binary64

namespace Exponential

def new (base cap : UInt64) (multiplier : Binary64) : Exponential :=
  ⟨base, cap, multiplier, .zero false⟩

/-- The same growth with a jitter, which is moved into the range from nought to one. -/
def withJitter (e : Exponential) (jitter : Binary64) : Exponential :=
  { e with jitter := jitter.clamp (.zero false) 1 }

/-- The largest power that is ever taken. -/
def maxPower : Nat := Nat.pow 2 31 - 1

/-- The delay before jitter. Attempts zero and one are both the first. -/
def capped (e : Exponential) (attempt : UInt64) : Binary64 :=
  let power := Nat.min (attempt.toNat - 1) maxPower
  Binary64.min (Binary64.ofNat e.base.toNat * e.multiplier.pow power) (Binary64.ofNat e.cap.toNat)

/-- The delay in milliseconds. `draw r` is the random part for the range from `-r` to `r`. -/
def delay? (e : Exponential) (draw : Binary64 → Binary64) (attempt : UInt64) : Option UInt64 :=
  let capped := e.capped attempt
  if e.jitter.same (.zero false) then some capped.toUInt64
  else
    let range := capped * e.jitter
    if (-range).atMost range then
      some ((capped + draw range).max (Binary64.ofNat e.base.toNat)).toUInt64
    else none

/-- Growth as a printed record. -/
def layout (e : Exponential) : Layout :=
  .fields "ExponentialDelay" [
    ("base_ms", .number e.base.toNat),
    ("max_ms", .number e.cap.toNat),
    ("multiplier", doubleLayout e.multiplier),
    ("jitter_factor", doubleLayout e.jitter)]

end Exponential

/-- A policy for the wait before an attempt. -/
inductive Backoff
  /-- Always the same number of milliseconds. -/
  | fixed (milliseconds : UInt64)
  | exponential (growth : Exponential)

namespace Backoff

/-- The delay in milliseconds before an attempt. -/
def delay? (b : Backoff) (draw : Binary64 → Binary64) (attempt : UInt64) : Option UInt64 :=
  match b with
  | fixed ms => some ms
  | exponential growth => growth.delay? draw attempt

/-- A policy as a printed record. -/
def layout : Backoff → Layout
  | fixed ms => .items "FixedDelay" [.word (Text.duration ms.toNat)]
  | exponential growth => growth.layout

end Backoff

end NodeLink
