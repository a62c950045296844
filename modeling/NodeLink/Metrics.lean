import NodeLink.Text.Layout

/-!
# Counters

Nine counters record what a link did. They are 64 bits wide and wrap around.
Each counter has a name of its own in printed records; the summary line for logs
uses shorter words and shows connects as successes over attempts.
-/

set_option autoImplicit false

namespace NodeLink

open Text (Layout)

inductive Counter
  | attempt
  | success
  | failure
  | retry
  /-- Reloads of the configuration asked for. -/
  | reload
  /-- Requests redirected to the event sink. -/
  | redirect
  /-- Requests rejected because the link was not connected. -/
  | rejection
  | loss
  /-- Attempts whose outcome was thrown away. -/
  | discard
deriving DecidableEq

namespace Counter

/-- The counters in the order of printed records. -/
def all : List Counter :=
  [attempt, success, failure, retry, reload, redirect, rejection, loss, discard]

/-- The name of a counter in printed records. -/
def name : Counter → String
  | attempt => "connect_attempts"
  | success => "connect_successes"
  | failure => "connect_failures"
  | retry => "retries_scheduled"
  | reload => "config_reloads"
  | redirect => "redirects"
  | rejection => "not_connected_rejections"
  | loss => "inactive_events"
  | discard => "discarded_connects"

/-- The name of the event that a counter counts. -/
def event : Counter → String
  | attempt => "connect_attempt"
  | success => "connect_success"
  | failure => "connect_failure"
  | retry => "retry_scheduled"
  | reload => "config_reload"
  | redirect => "redirect"
  | rejection => "not_connected"
  | loss => "inactive"
  | discard => "discarded_connect"

/-- The counter of a named event. -/
def ofEvent? (s : String) : Option Counter := all.find? (·.event == s)

/-- The counter with a given name. -/
def ofName? (s : String) : Option Counter := all.find? (·.name == s)

theorem mem_all (c : Counter) : c ∈ all := by cases c <;> decide

end Counter

/-- The values of the counters. -/
structure Metrics where
  attempts : UInt64 := 0
  successes : UInt64 := 0
  failures : UInt64 := 0
  retries : UInt64 := 0
  reloads : UInt64 := 0
  redirects : UInt64 := 0
  rejections : UInt64 := 0
  losses : UInt64 := 0
  discards : UInt64 := 0
deriving DecidableEq

namespace Metrics

/-- The value of a counter. -/
def get (m : Metrics) : Counter → UInt64
  | .attempt => m.attempts
  | .success => m.successes
  | .failure => m.failures
  | .retry => m.retries
  | .reload => m.reloads
  | .redirect => m.redirects
  | .rejection => m.rejections
  | .loss => m.losses
  | .discard => m.discards

/-- Stores a value in a counter. -/
def set (m : Metrics) (c : Counter) (n : UInt64) : Metrics :=
  match c with
  | .attempt => { m with attempts := n }
  | .success => { m with successes := n }
  | .failure => { m with failures := n }
  | .retry => { m with retries := n }
  | .reload => { m with reloads := n }
  | .redirect => { m with redirects := n }
  | .rejection => { m with rejections := n }
  | .loss => { m with losses := n }
  | .discard => { m with discards := n }

/-- Counts so many events at once. -/
def add (m : Metrics) (c : Counter) (times : Nat) : Metrics :=
  m.set c (m.get c + UInt64.ofNat times)

def record (m : Metrics) (c : Counter) : Metrics := m.add c 1

/-- The counters with their names, in the order of printed records. -/
def entries (m : Metrics) : List (String × Nat) :=
  Counter.all.map fun c => (c.name, (m.get c).toNat)

/-- The counters as a printed record. -/
def layout (m : Metrics) : Layout :=
  .fields "EndpointMetricsSnapshot" (m.entries.map fun e => (e.1, .number e.2))

/-- The counters as a compact JSON object. -/
def json (m : Metrics) : String :=
  "\x7b" ++ ",".intercalate (m.entries.map fun e => "\"" ++ e.1 ++ "\":" ++ toString e.2) ++ "\x7d"

/-- The summary line for logs. -/
def summary (m : Metrics) : String :=
  "connects=" ++ toString m.successes ++ "/" ++ toString m.attempts ++
    " failures=" ++ toString m.failures ++ " retries=" ++ toString m.retries ++
    " reloads=" ++ toString m.reloads ++ " redirects=" ++ toString m.redirects ++
    " not_connected=" ++ toString m.rejections ++ " inactive=" ++ toString m.losses ++
    " discarded=" ++ toString m.discards

@[simp] theorem get_set_self (m : Metrics) (c : Counter) (n : UInt64) : (m.set c n).get c = n := by
  cases c <;> rfl

theorem get_set_other (m : Metrics) {c d : Counter} (n : UInt64) (h : d ≠ c) :
    (m.set c n).get d = m.get d := by
  cases c <;> cases d <;> first | rfl | exact absurd rfl h

end Metrics

end NodeLink
