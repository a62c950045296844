import NodeLink.Directory
import NodeLink.Settings.Basic
import NodeLink.Toml.Printer
import NodeLink.Toml.Reader
import NodeLink.Toml.Table

/-!
# Settings in a file

Settings are kept in a TOML file: the two timeouts and the three switches at the top,
the backoff in a table of its own. Every key may be missing and then stands for its
default; keys that mean nothing here are passed over. The value of a known key must
have its type: a natural number of milliseconds, a switch, or a number of any kind
for the two factors. The backoff may also be an array of its values in order, the
first ones or more than are needed.

One bad value makes the whole file unusable, and so does a text that is not TOML or
not UTF-8. Settings with a time that does not fit a signed word cannot be written;
this is found out before the file is touched.
-/

set_option autoImplicit false

namespace NodeLink

open Number (Binary64)
open Toml (Key Node Scalar Statement Table)

/-- Why settings could not be loaded. -/
inductive LoadError
  /-- There is no such file, or it is no text. -/
  | unreadable
  /-- The text is not TOML, or a value has the wrong type. -/
  | malformed
deriving DecidableEq

/-- Why settings could not be saved. -/
inductive SaveError
  /-- A time is too large for the file. -/
  | unrepresentable
  /-- There is no such place for a file. -/
  | unwritable
deriving DecidableEq

/-! ## Values -/

namespace Settings

/-- A natural number of milliseconds. -/
def word? : Node → Option UInt64
  | .scalar (.integer n) =>
    if 0 ≤ n ∧ n.toNat < UInt64.size then some (UInt64.ofNat n.toNat) else none
  | _ => none

def switch? : Node → Option Bool
  | .scalar (.boolean b) => some b
  | _ => none

/-- A number; an integer stands for the double nearest to it. -/
def factor? : Node → Option Binary64
  | .scalar (.float x) => some x
  | .scalar (.integer n) => some (.ofInt n)
  | _ => none

/-- The value of an entry that may be missing. -/
def orDefault {α : Type} (read : Node → Option α) (default : α) : Option Node → Option α
  | none => some default
  | some n => read n

end Settings

open Settings (word? switch? factor? orDefault)

/-! ## Reading -/

namespace Reconnect

/-- The parameters whose entries are found by the name or the position of their keys. -/
def ofEntries? (base cap multiplier jitter : Option Node) : Option Reconnect := do
  let d : Reconnect := {}
  return {
    base := ← orDefault word? d.base base
    cap := ← orDefault word? d.cap cap
    multiplier := ← orDefault factor? d.multiplier multiplier
    jitter := ← orDefault factor? d.jitter jitter }

/-- The parameters that an entry gives: a table, or an array in the order of the keys. A
moment is taken for a table without known keys. An array of tables has a table where
the first number should be. -/
def ofNode? : Node → Option Reconnect
  | .table _ entries =>
    let t : Table := entries
    ofEntries? (t.get? "base_ms") (t.get? "max_ms") (t.get? "multiplier") (t.get? "jitter_factor")
  | .array items => ofEntries? items[0]? items[1]? items[2]? items[3]?
  | .scalar (.moment _) => some {}
  | .scalar _ => none
  | .elements _ _ => none

end Reconnect

namespace Settings

/-- The settings that a table gives. -/
def ofTable? (t : Table) : Option Settings := do
  let d : Settings := {}
  return {
    socketTimeout := ← orDefault word? d.socketTimeout (t.get? "socket_connect_timeout_ms")
    gracePeriod := ← orDefault word? d.gracePeriod (t.get? "connect_callback_grace_period_ms")
    tls := ← orDefault switch? d.tls (t.get? "tls_enabled")
    pooling := ← orDefault switch? d.pooling (t.get? "buffer_pooling_enabled")
    noDelay := ← orDefault switch? d.noDelay (t.get? "tcp_nodelay_enabled")
    reconnect := ← orDefault Reconnect.ofNode? d.reconnect (t.get? "reconnect") }

/-- The settings that a text gives. -/
def ofText? (cs : List Char) : Option Settings := do
  ofTable? (← Table.ofStatements? (← Toml.ofText? cs))

/-! ## Writing -/

/-- A pair of a plain key and a value without parts. -/
def pair (name : String) (s : Scalar) : Statement := .pair (.plain name) (.scalar s)

/-- A time, if a signed word holds it. -/
def time? (n : UInt64) : Option Scalar :=
  if n.toNat < Nat.pow 2 63 then some (.integer n.toNat) else none

/-- The statements that write settings. -/
def statements? (s : Settings) : Option (List Statement) := do
  let socketTimeout ← time? s.socketTimeout
  let gracePeriod ← time? s.gracePeriod
  let base ← time? s.reconnect.base
  let cap ← time? s.reconnect.cap
  return [
    pair "socket_connect_timeout_ms" socketTimeout,
    pair "connect_callback_grace_period_ms" gracePeriod,
    pair "tls_enabled" (.boolean s.tls),
    pair "buffer_pooling_enabled" (.boolean s.pooling),
    pair "tcp_nodelay_enabled" (.boolean s.noDelay),
    .header (.plain "reconnect"),
    pair "base_ms" base,
    pair "max_ms" cap,
    pair "multiplier" (.float s.reconnect.multiplier),
    pair "jitter_factor" (.float s.reconnect.jitter)]

/-- The text that writes settings. -/
def text? (s : Settings) : Option String :=
  s.statements?.map fun statements => String.ofList (Toml.text statements)

/-! ## Files -/

/-- The settings in the file that a path leads to. -/
def load (d : Directory) (path : String) : Except LoadError Settings :=
  match (d.read? path).bind String.fromUTF8? with
  | none => .error .unreadable
  | some text =>
    match ofText? text.toList with
    | none => .error .malformed
    | some s => .ok s

/-- The directory after the settings were written to the file that a path leads to. -/
def save (s : Settings) (d : Directory) (path : String) : Except SaveError Directory :=
  match s.text? with
  | none => .error .unrepresentable
  | some text =>
    match d.write? path text.toUTF8 with
    | none => .error .unwritable
    | some d => .ok d

end Settings

end NodeLink
