import NodeLink.Fault.Basic

/-!
# Notices

A notice hands one result from the party that completes it to the party that
waits for it. Either party can leave. The waiting party can *look*, which never
waits, and it can *await*, which here means to ask once more whether the result
is there.

Whatever ends the waiting, a result or the news that nobody will complete the
notice, is delivered once and spends the notice. Looking at a notice whose
completer has left spends it without delivering the news. Awaiting a spent notice
is a misuse, and the answer says so.
-/

set_option autoImplicit false

namespace NodeLink

/-- What the waiting party holds. -/
inductive Waiting
  | listening
  | spent
  | gone
deriving DecidableEq

/-- A notice for one result. -/
structure Notice (α : Type) where
  completable : Bool
  /-- The result, once it is there. -/
  result : Option (Except Fault α)
  waiting : Waiting

inductive Awaited (α : Type)
  | pending
  | ready (result : Except Fault α)
  /-- There is nothing to await any more. -/
  | misuse

namespace Notice

variable {α : Type}

/-- A notice that waits for its completer. -/
def pending : Notice α := ⟨true, none, .listening⟩

/-- A notice that was completed before anybody waited. -/
def ready (result : Except Fault α) : Notice α := ⟨false, some result, .listening⟩

/-- The completer gives a result and is used up. Nobody keeps a result that nobody waits for. -/
def complete (n : Notice α) (result : Except Fault α) : Notice α :=
  if n.completable then
    { n with completable := false, result := if n.waiting = .gone then none else some result }
  else n

/-- The completer leaves without a result. -/
def dropCompleter (n : Notice α) : Notice α := { n with completable := false }

def dropWaiting (n : Notice α) : Notice α := { n with waiting := .gone, result := none }

/-- Whether the completer works for nobody. -/
def isAbandoned (n : Notice α) : Bool := n.waiting = .gone

/-- Looks for a result without waiting. -/
def look (n : Notice α) : Option (Except Fault α) × Notice α :=
  if n.waiting = .listening ∧ n.completable = false then
    (n.result, { n with waiting := .spent, result := none })
  else (none, n)

/-- Asks whether the waiting is over. -/
def await (n : Notice α) : Awaited α × Notice α :=
  if n.waiting = .listening then
    if n.completable then (.pending, n)
    else
      (.ready (n.result.getD (.error .dropped)), { n with waiting := .spent, result := none })
  else (.misuse, n)

/-- What a completed notice delivers first is the result it was completed with. -/
theorem look_complete_pending (r : Except Fault α) :
    ((pending : Notice α).complete r).look.1 = some r := rfl

/-- Awaiting a completed notice gives the result. -/
theorem await_complete_pending (r : Except Fault α) :
    ((pending : Notice α).complete r).await.1 = .ready r := rfl

end Notice

end NodeLink
