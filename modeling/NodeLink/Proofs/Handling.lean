import NodeLink.Proofs.Effect

/-!
# Ways of carrying out calls

How calls are carried out that are made from within a step is a parameter of it. A step finds out
about that only through the links at which such calls are made: two ways of carrying them out that
agree on all links of a kind lead to the same link, if calls and the work between them do not leave
that kind. This is shown operation by operation, in the order in which they are built on each other.

Nobody calls the link here while it logs, writes or flushes.
-/

set_option autoImplicit false

namespace NodeLink

open Lifecycle (State)

variable {σ : Type}

/-- Writing and flushing are no occasions to call the link. -/
def Surroundings.Still (o : Surroundings σ) : Prop :=
  ∀ c s, (o.react (.flushing c) s).1 = [] ∧ ∀ r, (o.react (.writing c r) s).1 = []

namespace Link

/-- A kind of links that the work between calls does not leave. A call for a flush is no such
work. -/
structure Lasting (P : Link σ → Prop) : Prop where
  amid {l} : P l → ∀ s, P (l.amid s)
  called {l} : P l → ∀ {c}, c ≠ .flush → P (l.note (.called c))
  count {l} : P l → ∀ c, P (l.count c)
  finish {l} : P l → ∀ id, P (l.finish id)
  take {l} : P l → ∀ id answer, P (l.take id answer)
  takeUp {l} : P l → ∀ ticket bootstrap cause, P (l.takeUp ticket bootstrap cause)
  consult {l} : P l → P l.consult

/-- Two ways of carrying out calls agree on the links of such a kind, and do not leave it. -/
structure Alike (P : Link σ → Prop) (n m : Call → Link σ → Link σ) : Prop extends Lasting P where
  same {l} : P l → ∀ c, n c l = m c l
  call {l} : P l → ∀ c, P (n c l)

variable {o : Surroundings σ} {n m : Call → Link σ → Link σ} {P : Link σ → Prop} {l : Link σ}

/-! ## Work that only logs -/

section Logging

variable (n m) (quiet : o.Quiet)
include quiet

theorem log_alike : log o n = log o m := by
  funext level message fields l
  simp only [log, occur, quiet _ _, List.foldl_nil]

theorem moveTo_alike : moveTo o n = moveTo o m := by
  funext next l
  simp only [moveTo, log_alike n m quiet]

theorem connectWith_alike : connectWith o n = connectWith o m := by
  funext bootstrap l
  simp only [connectWith, log_alike n m quiet, moveTo_alike n m quiet]

theorem disconnect_alike : disconnect o n = disconnect o m := by
  funext l
  simp only [disconnect, moveTo_alike n m quiet]

theorem discard_alike : discard o n = discard o m := by
  funext ticket answer l
  simp only [discard, log_alike n m quiet, moveTo_alike n m quiet]

theorem announceFailure_alike : announceFailure o n = announceFailure o m := by
  funext ticket bootstrap cause l
  simp only [announceFailure, log_alike n m quiet, moveTo_alike n m quiet]

theorem tornDown_alike : tornDown o n = tornDown o m := by
  funext ticket l
  simp only [tornDown, log_alike n m quiet, moveTo_alike n m quiet]

end Logging

/-- Nobody calls a link that flushes. -/
theorem flush_alike (n m : Call → Link σ → Link σ) (still : o.Still) : flush o n = flush o m := by
  funext l
  simp only [flush, occur, (still _ _).1, List.foldl_nil]

/-! ## Calls -/

namespace Alike

variable (alike : Alike P n m)
include alike

/-- The calls that are made on an occasion are the same, one after the other. -/
theorem calls (h : P l) (cs : List Call) :
    cs.foldl (fun l c => n c l) l = cs.foldl (fun l c => m c l) l ∧
      P (cs.foldl (fun l c => n c l) l) := by
  induction cs generalizing l with
  | nil => exact ⟨rfl, h⟩
  | cons c cs ih =>
    obtain ⟨same, kept⟩ := ih (alike.call h c)
    exact ⟨same.trans (by rw [alike.same h c]; rfl), kept⟩

theorem occur (h : P l) (k : Occasion) :
    Link.occur o n k l = Link.occur o m k l ∧ P (Link.occur o n k l) :=
  alike.calls (alike.amid h (o.react k l.outside).2) _

theorem publish (h : P l) (e : Event) : Link.publish o n e l = Link.publish o m e l := by
  simp only [Link.publish, (alike.occur h (.publishing e)).1]

section Quiet

variable (quiet : o.Quiet)
include quiet

theorem signalReload (h : P l) : Link.signalReload o n l = Link.signalReload o m l := by
  simp only [Link.signalReload, alike.publish (alike.count h .reload), log_alike n m quiet]

theorem reportLoss (h : P l) : Link.reportLoss o n l = Link.reportLoss o m l := by
  obtain ⟨s, logged⟩ := log_eq m quiet .info "endpoint_inactive"
    [("ident", (l.count .loss).mark o), ("state", (l.count .loss).state.label)] (l.count .loss)
  have told := alike.signalReload quiet (alike.amid (alike.count h .loss) s)
  simp only [Link.reportLoss, log_alike n m quiet, moveTo_alike n m quiet,
    connectWith_alike n m quiet, logged, told]

theorem redirect (h : P l) (r : Request) : Link.redirect o n r l = Link.redirect o m r l := by
  obtain ⟨s, logged⟩ := log_eq m quiet .debug "endpoint_request_redirected"
    [("ident", (l.count .redirect).mark o)] (l.count .redirect)
  have offered := alike.publish (o := o) (alike.amid (alike.count h .redirect) s) (.redirect r)
  simp only [Link.redirect, log_alike n m quiet, logged, offered]

variable (still : o.Still)
include still

theorem send (h : P l) (r : Request) : Link.send o n r l = Link.send o m r l := by
  have written : ∀ c, Link.write o n c r l = Link.write o m c r l := fun c => by
    simp only [Link.write, Link.occur, (still _ _).2, List.foldl_nil]
  simp only [Link.send, written, alike.redirect quiet h]

/-- Every call does the same. -/
theorem carryOut (h : P l) (c : Call) : Link.carryOut o n c l = Link.carryOut o m c l := by
  refine congrArg (fun k : Link σ => k.note (.returned c)) ?_
  by_cases flush : c = .flush
  · rw [flush]
    exact congrFun (flush_alike n m still) _
  have called := alike.called h flush
  cases c with
  | connect => simp only [perform, connect, connectWith_alike n m quiet]
  | disconnect => simp only [perform, disconnect_alike n m quiet]
  | reportLoss => exact alike.reportLoss quiet called
  | signalReload => exact alike.signalReload quiet called
  | flush => exact absurd rfl flush
  | send r => exact alike.send quiet still called r

omit still

/-! ## Jobs -/

theorem planRetry (h : P l) (epoch : UInt64) (cause : Fault) :
    Link.planRetry o n epoch cause l = Link.planRetry o m epoch cause l := by
  unfold Link.planRetry
  dsimp only
  obtain ⟨same, asked⟩ := alike.occur (o := o) (alike.consult h) (.consulting l.reconnectAttempt)
  rw [← Link.consult, same]
  rw [same] at asked
  generalize Link.occur o m _ l.consult = k at asked ⊢
  split
  · split
    · rfl
    next delay s held =>
      have counted := alike.count (alike.amid asked s) .retry
      simp only [log_alike n m quiet, moveTo_alike n m quiet]
      generalize hj : Link.log o m .warn _ _ _ = j
      obtain ⟨t, logged⟩ := log_eq m quiet .warn "endpoint_retry_scheduled" _ _
      rw [logged] at hj
      rw [alike.signalReload quiet (hj ▸ alike.amid counted t)]
  · rfl

theorem fail (h : P l) (ticket : Option TicketId) (bootstrap : Bool) (epoch : UInt64)
    (cause : Fault) : Link.fail o n ticket bootstrap epoch cause l =
      Link.fail o m ticket bootstrap epoch cause l := by
  simp only [Link.fail, announceFailure_alike n m quiet, log_alike n m quiet]
  cases transient : l.identity.transient with
  | true =>
    obtain ⟨s, announced⟩ := announceFailure_transient m quiet ticket bootstrap cause
      (l := l.count .failure) transient
    have stays : (((l.count .failure).giveUp ticket cause).amid s).identity.transient = true := by
      rw [giveUp_eq]
      exact transient
    rw [announced]
    simp only [stays, if_true]
  | false =>
    obtain ⟨s, announced⟩ := announceFailure_persistent m quiet ticket bootstrap cause
      (l := l.count .failure) transient
    have taken := alike.amid (alike.takeUp (alike.count h .failure) ticket bootstrap cause) s
    rw [announced]
    simp only [alike.planRetry quiet taken]

theorem conclude (h : P l) (ticket : Option TicketId) (bootstrap : Bool) (epoch : UInt64)
    (answer : Except Fault ChannelId) : Link.conclude o n ticket bootstrap epoch answer l =
      Link.conclude o m ticket bootstrap epoch answer l := by
  unfold Link.conclude
  simp only [supersede, succeed, log_alike n m quiet, moveTo_alike n m quiet,
    discard_alike n m quiet, alike.fail quiet h]

/-! ## Steps -/

/-- A step cannot tell one way of carrying out calls from the other. -/
theorem stepWith (still : o.Still) (h : P l) (s : Step σ) :
    Link.stepWith o n s l = Link.stepWith o m s l := by
  cases s with
  | call c => exact alike.carryOut quiet still h c
  | start id => simp only [Link.stepWith, start, tornDown_alike n m quiet]
  | answer id answer =>
    dsimp only [Link.stepWith]
    split
    · exact alike.conclude quiet (alike.take h id answer) ..
    · rfl
  | wake id =>
    simp only [Link.stepWith, wake, log_alike n m quiet, disconnect_alike n m quiet]
  | closed id failure =>
    simp only [Link.stepWith, closeEnded, cleanupEnded, log_alike n m quiet,
      tornDown_alike n m quiet]
  | lost id =>
    simp only [Link.stepWith, watchEnded, alike.reportLoss quiet (alike.finish h id)]
  | told id outcome => simp only [Link.stepWith, reconnectEnded, log_alike n m quiet]
  | crash | drift | subscribe | receive | unsubscribe => rfl

end Quiet

end Alike

end Link

end NodeLink
