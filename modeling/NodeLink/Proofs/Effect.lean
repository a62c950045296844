import NodeLink.Proofs.Stroke

/-!
# Operations are their effects

When logging is no occasion to call the link, a log line only changes the surroundings. Each
operation is then its effect without log lines, amid other surroundings. The surroundings, and what
is counted, are moved out of the way first: every effect commutes with them.
-/

set_option autoImplicit false

namespace NodeLink

namespace Link

open Lifecycle (State)

variable {σ : Type} {o : Surroundings σ} (nested : Call → Link σ → Link σ)

/-! ## Effects commute with the surroundings -/

@[simp] theorem amid_amid (l : Link σ) (s t : σ) : (l.amid s).amid t = l.amid t := rfl

@[simp] theorem state_amid (l : Link σ) (s : σ) : (l.amid s).state = l.state := rfl

@[simp] theorem spawn_amid (l : Link σ) (s : σ) (j : Job) :
    (l.amid s).spawn j = (l.spawn j).amid s := rfl

@[simp] theorem count_amid (l : Link σ) (s : σ) (c : Counter) :
    (l.amid s).count c = (l.count c).amid s := rfl

@[simp] theorem shift_amid (l : Link σ) (s : σ) (next : State) :
    (l.amid s).shift next = (l.shift next).amid s := by
  simp only [shift_eq]
  rfl

@[simp] theorem clear_amid (l : Link σ) (s : σ) : (l.amid s).clear = l.clear.amid s := by
  simp only [clear_eq]
  rfl

@[simp] theorem settle?_amid (l : Link σ) (s : σ) (ticket : Option TicketId) (outcome : Outcome) :
    (l.amid s).settle? ticket outcome = (l.settle? ticket outcome).amid s := by
  simp only [settle?_eq]
  rfl

@[simp] theorem cleanUp?_amid (l : Link σ) (s : σ) (answer : Except Fault ChannelId) :
    (l.amid s).cleanUp? answer = (l.cleanUp? answer).amid s := by
  cases answer <;> rfl

@[simp] theorem setOut_amid (l : Link σ) (s : σ) (bootstrap : Bool) :
    (l.amid s).setOut bootstrap = (l.setOut bootstrap).amid s := by
  simp only [setOut, shift_amid]
  rfl

theorem hangUp_amid (l : Link σ) (s : σ) : (l.amid s).hangUp = l.hangUp.amid s := by
  unfold hangUp
  simp only [state_amid]
  cases l.state with
  | disconnected | disconnecting => rfl
  | connecting => simp only [bar, drop_eq]; rfl
  | connected => simp only [bar, shift_eq]; rfl

/-! ## Effects commute with counting -/

@[simp] theorem channel_amid (l : Link σ) (s : σ) : (l.amid s).channel = l.channel := rfl

@[simp] theorem channel_count (l : Link σ) (c : Counter) : (l.count c).channel = l.channel := rfl

@[simp] theorem state_count (l : Link σ) (c : Counter) : (l.count c).state = l.state := rfl

@[simp] theorem spawn_count (l : Link σ) (c : Counter) (j : Job) :
    (l.count c).spawn j = (l.spawn j).count c := rfl

@[simp] theorem shift_count (l : Link σ) (c : Counter) (next : State) :
    (l.count c).shift next = (l.shift next).count c := by
  simp only [shift_eq]
  rfl

@[simp] theorem clear_count (l : Link σ) (c : Counter) : (l.count c).clear = l.clear.count c := by
  simp only [clear_eq]
  rfl

@[simp] theorem settle?_count (l : Link σ) (c : Counter) (ticket : Option TicketId)
    (outcome : Outcome) :
    (l.count c).settle? ticket outcome = (l.settle? ticket outcome).count c := by
  simp only [settle?_eq]
  rfl

@[simp] theorem cleanUp?_count (l : Link σ) (c : Counter) (answer : Except Fault ChannelId) :
    (l.count c).cleanUp? answer = (l.cleanUp? answer).count c := by
  cases answer <;> rfl

@[simp] theorem giveUp_count (l : Link σ) (c : Counter) (ticket : Option TicketId) (cause : Fault) :
    (l.count c).giveUp ticket cause = (l.giveUp ticket cause).count c := by
  simp only [giveUp, shift_count, settle?_count]

@[simp] theorem takeUp_count (l : Link σ) (c : Counter) (ticket : Option TicketId)
    (bootstrap : Bool) (cause : Fault) :
    (l.count c).takeUp ticket bootstrap cause = (l.takeUp ticket bootstrap cause).count c := by
  simp only [takeUp, giveUp_count, settle?_count]
  split
  · rfl
  · split <;> rfl

/-! ## Operations are their effects -/

/-- A log line only changes the surroundings. -/
theorem log_eq (quiet : o.Quiet) (level : Level) (message : String)
    (fields : List (String × String)) (l : Link σ) :
    ∃ s, log o nested level message fields l = l.amid s := by
  refine ⟨(o.react (.logging ⟨level, message, fields⟩) l.outside).2, ?_⟩
  simp only [log, occur, quiet _ _, List.foldl_nil, amid]

theorem moveTo_eq (quiet : o.Quiet) (next : State) (l : Link σ) :
    ∃ s, moveTo o nested next l = (l.shift next).amid s := by
  unfold moveTo
  split
  · exact ⟨l.outside, by simp only [shift_eq]; rfl⟩
  · exact log_eq _ quiet _ _ _ _

/-- A connect that starts no chain answers with the state and changes nothing. -/
theorem connectWith_ignored (quiet : o.Quiet) (bootstrap : Bool) {l : Link σ}
    (h : l.disconnected = true ∨ l.state ≠ .disconnected) :
    ∃ s, connectWith o nested bootstrap l = (.settled (.ok l.state), l.amid s) := by
  unfold connectWith
  by_cases barred : l.disconnected = true
  · obtain ⟨s, hs⟩ := log_eq nested quiet .debug
      "endpoint_connect_ignored_after_disconnect" l.place l
    exact ⟨s, by simp only [barred, ↓reduceIte, hs, state_amid]⟩
  · have up : l.state ≠ .disconnected := h.resolve_left barred
    simp only [barred, up, ↓reduceIte, Bool.false_eq_true]
    split
    · obtain ⟨s, hs⟩ := log_eq nested quiet .warn
        "endpoint_overlapping_bootstrap_connect" l.place l
      exact ⟨s, by rw [hs]⟩
    · exact ⟨l.outside, rfl⟩

/-- A connect that starts a chain answers with a fresh ticket. -/
theorem connectWith_opened (quiet : o.Quiet) (bootstrap : Bool) {l : Link σ}
    (wanted : l.disconnected = false) (down : l.state = .disconnected) :
    ∃ s, connectWith o nested bootstrap l =
      (.pending l.ticketCount, (l.setOut bootstrap).amid s) := by
  obtain ⟨s, hs⟩ := moveTo_eq nested quiet .connecting l
  refine ⟨s, ?_⟩
  simp only [connectWith, wanted, down, Bool.false_eq_true, ↓reduceIte, hs, setOut, shift_eq]
  rfl

theorem disconnect_eq (quiet : o.Quiet) (l : Link σ) :
    ∃ s, (disconnect o nested l).2 = l.hangUp.amid s := by
  have here : ∀ next, ∃ s, moveTo o nested next l.bar = (l.bar.shift next).amid s :=
    fun next => moveTo_eq _ quiet next _
  unfold disconnect hangUp
  cases hl : l.lifecycle.current with
  | disconnected | disconnecting =>
    simp only [state, hl]
    exact ⟨l.outside, rfl⟩
  | connecting =>
    obtain ⟨s, hs⟩ := here .disconnected
    simp only [state, hl]
    exact ⟨s, by rw [← bar, hs, clear_amid, drop]⟩
  | connected =>
    obtain ⟨s, hs⟩ := here .disconnecting
    simp only [state, hl]
    exact ⟨s, by rw [← bar, hs, shift_eq]; rfl⟩

@[simp] theorem identity_hangUp (l : Link σ) : l.hangUp.identity = l.identity := by
  unfold hangUp
  split <;> simp only [bar, drop_eq, shift_eq, issue, spawn, note]

@[simp] theorem disconnected_hangUp (l : Link σ) : l.hangUp.disconnected = true := by
  unfold hangUp
  split <;> simp only [bar, drop_eq, shift_eq, issue, spawn, note]

/-! ## The answer to an attempt -/

theorem supersede_eq (quiet : o.Quiet) (ticket : Option TicketId)
    (answer : Except Fault ChannelId) (l : Link σ) :
    ∃ s, supersede o nested ticket answer l =
      ((l.turnAway ticket answer).count .discard).amid s := by
  obtain ⟨s, hs⟩ := log_eq nested quiet .debug "endpoint_connect_superseded" l.place l
  have same : (l.cleanUp? answer).state = l.state := by
    cases answer <;> rfl
  refine ⟨s, ?_⟩
  simp only [supersede, hs, turnAway, count_amid, cleanUp?_amid, cleanUp?_count, state_amid,
    state_count, same, settle?_amid, settle?_count]

theorem discard_eq (quiet : o.Quiet) (ticket : Option TicketId)
    (answer : Except Fault ChannelId) (l : Link σ) :
    ∃ s, discard o nested ticket answer l = ((l.undo ticket answer).count .discard).amid s := by
  obtain ⟨s, hs⟩ := log_eq nested quiet .debug "endpoint_connect_discarded"
    [("ident", l.mark o)] l
  obtain ⟨t, ht⟩ := moveTo_eq nested quiet .disconnected
    ((((l.yield answer).cleanUp? answer).count .discard).amid s)
  refine ⟨t, ?_⟩
  have cleaned : discard o nested ticket answer l = (moveTo o nested .disconnected
      ((((l.yield answer).cleanUp? answer).count .discard).amid s)).settle? ticket
        (.ok .disconnected) := by
    unfold discard
    rw [hs]
    cases answer with
    | error f => rfl
    | ok c =>
      by_cases installed : l.channel = some c
      · simp only [count_amid, channel_amid, channel_count, installed, ↓reduceIte, clear_amid,
          clear_count, yield, cleanUp?, cleanUp, spawn_amid, spawn_count]
      · simp only [count_amid, channel_amid, channel_count, installed, ↓reduceIte, yield, cleanUp?,
          cleanUp, spawn_amid, spawn_count]
  rw [cleaned, ht, undo]
  simp only [shift_amid, shift_count, amid_amid, settle?_amid, settle?_count]

theorem succeed_eq (quiet : o.Quiet) (ticket : Option TicketId) (c : ChannelId) {l : Link σ}
    (connecting : l.state = .connecting) :
    ∃ s, succeed o nested ticket c l = ((l.putToUse ticket c).count .success).amid s := by
  have here : (l.install c).state = .connecting := connecting
  obtain ⟨s, hs⟩ := moveTo_eq nested quiet .connected (l.install c)
  simp only [succeed, here, ↓reduceIte, hs, count_amid]
  generalize (_ ++ [("remote", _)] : List (String × String)) = fields
  obtain ⟨t, ht⟩ := log_eq nested quiet .info "endpoint_connected" fields
    ((((l.install c).shift .connected).count .success).amid s)
  refine ⟨t, ?_⟩
  simp only [ht, amid_amid, spawn_amid, spawn_count, settle?_amid, settle?_count, putToUse]

theorem announceFailure_transient (quiet : o.Quiet) (ticket : Option TicketId) (bootstrap : Bool)
    (cause : Fault) {l : Link σ} (transient : l.identity.transient = true) :
    ∃ s, announceFailure o nested ticket bootstrap cause l =
      (none, (l.giveUp ticket cause).amid s) := by
  simp only [announceFailure, transient, or_true, ↓reduceIte]
  obtain ⟨s, hs⟩ := log_eq nested quiet .warn "endpoint_connect_failed"
    (l.place ++ [("kind", cause.kind), ("error", cause.message)]) l
  obtain ⟨t, ht⟩ := moveTo_eq nested quiet .disconnected (l.amid s)
  exact ⟨t, by simp only [hs, ht, shift_amid, amid_amid, settle?_amid, giveUp]⟩

/-- A failed attempt of a transient link is the end of its chain. -/
theorem fail_transient (quiet : o.Quiet) (ticket : Option TicketId) (bootstrap : Bool)
    (epoch : UInt64) (cause : Fault) {l : Link σ} (transient : l.identity.transient = true) :
    ∃ s, fail o nested ticket bootstrap epoch cause l =
      ((l.giveUp ticket cause).count .failure).amid s := by
  obtain ⟨s, hs⟩ := announceFailure_transient nested quiet ticket bootstrap cause
    (l := l.count .failure) transient
  rw [giveUp_count] at hs
  generalize hk : ((l.giveUp ticket cause).count .failure).amid s = k at hs
  have still : k.identity.transient = true := by
    rw [← hk, giveUp_eq]
    exact transient
  obtain ⟨t, ht⟩ := log_eq nested quiet .debug "endpoint_transient_not_retrying"
    k.place k
  refine ⟨t, ?_⟩
  simp only [fail, hs, still, ↓reduceIte, ht, settle?]
  rw [← hk, amid_amid]

theorem announceFailure_persistent (quiet : o.Quiet) (ticket : Option TicketId) (bootstrap : Bool)
    (cause : Fault) {l : Link σ} (persistent : l.identity.transient = false) :
    ∃ s, announceFailure o nested ticket bootstrap cause l =
      (keptTicket ticket bootstrap cause, (l.takeUp ticket bootstrap cause).amid s) := by
  simp only [announceFailure, persistent, Bool.false_eq_true, or_false]
  by_cases terminal : cause.isTerminal = true
  · obtain ⟨s, hs⟩ := log_eq nested quiet .warn "endpoint_connect_failed"
      (l.place ++ [("kind", cause.kind), ("error", cause.message)]) l
    obtain ⟨t, ht⟩ := moveTo_eq nested quiet .disconnected (l.amid s)
    refine ⟨t, ?_⟩
    simp only [terminal, ↓reduceIte, hs, ht, shift_amid, amid_amid, settle?_amid, takeUp, giveUp,
      keptTicket, true_or]
  · obtain ⟨s, hs⟩ := log_eq nested quiet .debug "endpoint_connect_failed_unclassified"
      (l.place ++ [("error", cause.message)]) l
    refine ⟨s, ?_⟩
    cases bootstrap <;>
      simp only [terminal, ↓reduceIte, Bool.false_eq_true, hs, settle?_amid, takeUp, keptTicket,
        or_true, or_self]

/-! ## The end of a link -/

theorem tornDown_eq (quiet : o.Quiet) (ticket : TicketId) (l : Link σ) :
    ∃ s, tornDown o nested ticket l = (l.drop.settle ticket (.ok .disconnected)).amid s := by
  obtain ⟨s, hs⟩ := moveTo_eq nested quiet .disconnected l
  obtain ⟨t, ht⟩ := log_eq nested quiet .info "endpoint_shutdown"
    ((l.drop.amid s).place ++ [("metrics", (l.drop.amid s).metrics.summary)]) (l.drop.amid s)
  have dropped : (moveTo o nested .disconnected l).clear = l.drop.amid s := by
    rw [hs, clear_amid, drop]
  refine ⟨t, ?_⟩
  simp only [tornDown, dropped, ht]
  rfl

/-- The closing of the channel of a teardown came to its end. -/
theorem closeEnded_eq (quiet : o.Quiet) (ticket : TicketId) (failure : Option Fault) (l : Link σ) :
    ∃ s, closeEnded o nested ticket failure l =
      (l.drop.settle ticket (.ok .disconnected)).amid s := by
  have logged : ∃ k s, k = l.amid s ∧
      closeEnded o nested ticket failure l = tornDown o nested ticket k := by
    cases failure with
    | none =>
      obtain ⟨s, hs⟩ := log_eq nested quiet .debug "endpoint_disconnected"
        [("ident", l.mark o)] l
      exact ⟨_, s, hs, rfl⟩
    | some f =>
      obtain ⟨s, hs⟩ := log_eq nested quiet .warn "endpoint_disconnect_failed"
        [("ident", l.mark o), ("error", f.message)] l
      exact ⟨_, s, hs, rfl⟩
  obtain ⟨k, s, rfl, hk⟩ := logged
  obtain ⟨t, ht⟩ := tornDown_eq nested quiet ticket (l.amid s)
  refine ⟨t, ?_⟩
  rw [hk, ht, drop_eq, drop_eq]
  rfl

end Link

end NodeLink
