import NodeLink.Proofs.Entry

/-!
# The course of calls and steps

What a call and a step do is said here once, with what is counted, with the mark for unflushed
writes, and with the occasions in their places. Laws that turn on none of these take from it the
strokes and turns that are left without them.

What may happen on an occasion is a parameter. For a relation that is kept by every call it is
that relation, and on an occasion on which nobody calls the link, that nothing happens at all.
-/

set_option autoImplicit false

namespace NodeLink

open Lifecycle (State Machine)

/-- A delivery moves nobody but the subscriber it goes to. -/
theorem Lifecycle.Machine.receive?_keeps {m m' : Machine} {id : SubscriberId} {d : Delivery}
    (h : m.receive? id = some (d, m')) : m'.current = m.current ∧ m'.backlog = m.backlog := by
  obtain ⟨position, -, found⟩ := Option.map_eq_some_iff.mp h
  split at found <;> cases found <;> exact ⟨rfl, rfl⟩

variable {σ : Type}

namespace Link

variable {o : Surroundings σ} {nested : Call → Link σ → Link σ}
  {R : Occasion → Link σ → Link σ → Prop} {l k l' : Link σ}

/-- Counts an event if there is one to count. -/
def count? (l : Link σ) : Option Counter → Link σ
  | some c => l.count c
  | none => l

/-- What a job counts that goes on, as the link is found: the first of its acts tells. -/
def toll (l : Link σ) : List Act → Option Counter
  | .dialed .. :: _ => some .attempt
  | .answered id answer :: _ =>
    match l.job? id with
    | some (.attempt _ _ epoch _) =>
      if l.epoch ≠ epoch ∨ l.state.isDown ∨ l.disconnected then some .discard
      else
        match answer with
        | .ok _ => if l.state = .connecting then some .success else some .discard
        | .error _ => some .failure
    | _ => none
  | _ => none

/-- Whether a step ends the watch over the installed channel. -/
def bereft (l : Link σ) : Step σ → Bool
  | .lost id =>
    match l.job? id with
    | some (.watch c) => l.channel == some c
    | _ => false
  | _ => false

theorem journal_toreDown (l : Link σ) (id : JobId) (ticket : TicketId) :
    ((l.finish id).drop.settle ticket (.ok .disconnected)).journal =
      l.journal ++ ((l.finish id).passage .disconnected ++ l.emptying ++
        [.settled ticket (.ok .disconnected)]) :=
  (Entry.trans (.drop _) (.note _ rfl)).journal

/-- A teardown counts nothing. -/
theorem toll_toreDown (l k : Link σ) (next : State) (ticket : TicketId) (outcome : Outcome) :
    l.toll (k.passage next ++ l.emptying ++ [.settled ticket outcome]) = none := by
  unfold passage emptying
  split <;> cases l.channel <;> rfl

/-- Without work nothing is counted. -/
theorem toll_eq_none (l : Link σ) {acts : List Act} (idle : acts.any Act.isWork = false) :
    l.toll acts = none := by
  cases acts with
  | nil => rfl
  | cons a acts =>
    have still : a.isWork = false := (Bool.or_eq_false_iff.mp idle).1
    cases a <;> first | rfl | cases still

/-- The acts by which a request is offered to the sink, and fails if it is refused. -/
def redirecting (r : Request) (refusal : Option Refusal) : List Act :=
  .published (.redirect r) refusal :: refusal.toList.map fun f => .failed r.id f.fault

/-! ## Calls -/

/-- A link asks for a reload. -/
inductive Reloads (R : Occasion → Link σ → Link σ → Prop) (l : Link σ) : Link σ → Prop
  | mk {k : Link σ} (meanwhile : R (.publishing .reload) (l.count .reload) k)
      (refusal : Option Refusal) (s : σ) :
      Reloads R l ((k.note (.published .reload refusal)).amid s)

/-- A link is told that its channel was lost. -/
inductive Loses (R : Occasion → Link σ → Link σ → Prop) (l : Link σ) : Link σ → Prop
  /-- A transient link does not mind. -/
  | heedless (transient : l.identity.transient = true) : Loses R l l
  | down (persistent : l.identity.transient = false) (down : l.state.isDown = true) (s : σ) :
      Loses R l ((l.count .loss).amid s)
  /-- The channel is dropped and a chain is started. -/
  | restarted {k : Link σ} (persistent : l.identity.transient = false)
      (up : l.state.isDown = false) (s : σ) (reloads : Reloads R ((l.count .loss).amid s) k)
      (wanted : k.disconnected = false) (t : σ) :
      Loses R l (((k.drop.setOut false).spawn (.report (.pending k.ticketCount))).amid t)
  /-- The channel is dropped; the link was to be disconnected. -/
  | dropped {k : Link σ} (persistent : l.identity.transient = false)
      (up : l.state.isDown = false) (s : σ) (reloads : Reloads R ((l.count .loss).amid s) k)
      (barred : k.disconnected = true) (t : σ) :
      Loses R l ((k.drop.spawn (.report (.settled (.ok .disconnected)))).amid t)

/-- What a call does between being called and returning. -/
inductive Performs (o : Surroundings σ) (R : Occasion → Link σ → Link σ → Prop) :
    Call → Link σ → Link σ → Prop
  | ignored (l : Link σ) (h : l.disconnected = true ∨ l.state ≠ .disconnected) (s : σ) :
      Performs o R .connect l (l.amid s)
  | opened (l : Link σ) (wanted : l.disconnected = false) (down : l.state = .disconnected) (s : σ) :
      Performs o R .connect l ((l.setOut true).amid s)
  | hungUp (l : Link σ) (s : σ) : Performs o R .disconnect l (l.hangUp.amid s)
  | lost {l l' : Link σ} (loses : Loses R l l') : Performs o R .reportLoss l l'
  | reloaded {l l' : Link σ} (reloads : Reloads R l l') : Performs o R .signalReload l l'
  | flushed {l k : Link σ} {c : ChannelId} (connected : l.state = .connected)
      (marked : l.hasWritten = true) (slot : l.channel = some c)
      (active : o.isActive l.outside c = true)
      (meanwhile : R (.flushing c) (l.note (.flushed c)) k) :
      Performs o R .flush l { k with hasWritten := false }
  | unflushed (l : Link σ) (idle : ¬ (l.state = .connected ∧ l.hasWritten = true ∧
      ∃ c, l.channel = some c ∧ o.isActive l.outside c = true)) : Performs o R .flush l l
  | wrote {l k : Link σ} {c : ChannelId} {r : Request} (connected : l.state = .connected)
      (slot : l.channel = some c) (active : o.isActive l.outside c = true)
      (writable : o.isWritable l.outside c = true)
      (meanwhile : R (.writing c r) (l.note (.wrote c r)) k) :
      Performs o R (.send r) l { k with hasWritten := true }
  /-- The request goes to the sink, and fails if it is refused. -/
  | redirected {l k : Link σ} {r : Request} (connected : l.state = .connected) (s : σ)
      (meanwhile : R (.publishing (.redirect r)) ((l.count .redirect).amid s) k)
      (refusal : Option Refusal) (t : σ) :
      Performs o R (.send r) l ({ k with journal := k.journal ++ redirecting r refusal }.amid t)
  | rejected {l : Link σ} {r : Request} (down : l.state ≠ .connected) :
      Performs o R (.send r) l ((l.count .rejection).spawn (.rejection r))

section Calls

variable (within : ∀ k l, R k l (occur o nested k l)) (quiet : o.Quiet)
include within quiet

theorem reloads_signalReload (l : Link σ) : Reloads R l (signalReload o nested l) := by
  have meanwhile := within (.publishing .reload) (l.count .reload)
  unfold signalReload publish
  dsimp only
  generalize occur o nested _ (l.count .reload) = k at meanwhile ⊢
  split
  next m h =>
    obtain ⟨-, rfl⟩ := Prod.mk.inj h
    exact .mk meanwhile _ _
  next refusal m h =>
    obtain ⟨-, rfl⟩ := Prod.mk.inj h
    obtain ⟨s, hs⟩ := log_eq nested quiet .debug "endpoint_config_reload_dropped"
      (({ k with outside := (o.accept .reload k.outside).2 }.note
        (.published .reload (o.accept .reload k.outside).1)).place ++
        [("error", refusal.message)])
      ({ k with outside := (o.accept .reload k.outside).2 }.note
        (.published .reload (o.accept .reload k.outside).1))
    rw [hs]
    exact .mk meanwhile _ s

theorem loses_reportLoss (l : Link σ) : Loses R l (reportLoss o nested l) := by
  unfold reportLoss
  split
  next transient => exact .heedless transient
  next persistent =>
    rw [Bool.not_eq_true] at persistent
    dsimp only
    obtain ⟨s, hs⟩ := log_eq nested quiet .info "endpoint_inactive"
      [("ident", (l.count .loss).mark o), ("state", (l.count .loss).state.label)] (l.count .loss)
    rw [hs, state_count]
    cases down : l.state.isDown with
    | true =>
      have settled : ¬ (l.state = .connected ∨ l.state = .connecting) := by
        rintro (h | h) <;> rw [h] at down <;> cases down
      simp only [settled, ↓reduceIte]
      exact .down persistent down s
    | false =>
      have up : l.state = .connected ∨ l.state = .connecting := by
        cases h : l.state <;> simp_all [State.isDown]
      have reloads := reloads_signalReload within quiet ((l.count .loss).amid s)
      simp only [up, ↓reduceIte, Bool.false_eq_true]
      generalize signalReload o nested _ = k at reloads ⊢
      obtain ⟨t, ht⟩ := moveTo_eq nested quiet .disconnected k
      rw [ht, clear_amid, ← drop]
      have stands : ∀ t, (k.drop.amid t).disconnected = k.disconnected ∧
          (k.drop.amid t).state = .disconnected ∧ (k.drop.amid t).ticketCount = k.ticketCount := by
        intro t
        refine ⟨?_, ?_, ?_⟩
        · rw [drop_eq]; rfl
        · rw [state_amid, drop, state_clear, state_shift]
        · rw [drop_eq]; rfl
      obtain ⟨flag, state, tickets⟩ := stands t
      cases barred : k.disconnected with
      | true =>
        obtain ⟨u, hu⟩ := connectWith_ignored nested quiet false (.inl (flag.trans barred))
        rw [hu, state]
        exact .dropped persistent down s reloads barred u
      | false =>
        obtain ⟨u, hu⟩ := connectWith_opened nested quiet false (flag.trans barred) state
        rw [hu, tickets, setOut_amid]
        exact .restarted persistent down s reloads barred u

omit quiet in
theorem performs_flush (l : Link σ) : Performs o R .flush l (flush o nested l) := by
  unfold flush
  split
  next marked =>
    split
    next c slot =>
      split
      next active => exact .flushed marked.1 marked.2 slot active (within _ _)
      next inactive =>
        refine .unflushed l ?_
        rintro ⟨-, -, c', slot', active⟩
        obtain rfl : c = c' := Option.some.inj (slot.symm.trans slot')
        exact inactive active
    next empty =>
      refine .unflushed l ?_
      rintro ⟨-, -, c, slot, -⟩
      exact absurd (empty.symm.trans slot) nofun
  next unmarked => exact .unflushed l fun h => unmarked ⟨h.1, h.2.1⟩

theorem performs_redirect (r : Request) {l : Link σ} (connected : l.state = .connected) :
    Performs o R (.send r) l (redirect o nested r l) := by
  obtain ⟨s, hs⟩ := log_eq nested quiet .debug "endpoint_request_redirected"
    [("ident", (l.count .redirect).mark o)] (l.count .redirect)
  have meanwhile := within (.publishing (.redirect r)) ((l.count .redirect).amid s)
  unfold redirect publish
  dsimp only
  rw [hs]
  generalize occur o nested _ ((l.count .redirect).amid s) = k at meanwhile ⊢
  cases answer : (o.accept (.redirect r) k.outside).1 with
  | none => exact .redirected connected s meanwhile none _
  | some refusal =>
    dsimp only
    generalize hm : Link.log o nested .warn _ _ _ = m
    obtain ⟨t, ht⟩ := log_eq nested quiet .warn "endpoint_redirect_rejected" _ _
    rw [ht] at hm
    subst hm
    have done := Performs.redirected (o := o) connected s meanwhile (some refusal) t
    cases refusal <;> simpa [note, amid, redirecting, Refusal.fault] using done

theorem performs_send (r : Request) (l : Link σ) :
    Performs o R (.send r) l (send o nested r l) := by
  unfold send
  split
  next connected =>
    split
    next c slot =>
      split
      next able => exact .wrote connected slot able.1 able.2 (within _ _)
      next => exact performs_redirect within quiet r connected
    next => exact performs_redirect within quiet r connected
  next down => exact .rejected down

theorem performs (c : Call) (l : Link σ) : Performs o R c l (perform o nested c l) := by
  cases c with
  | connect =>
    simp only [perform, connect]
    by_cases h : l.disconnected = true ∨ l.state ≠ .disconnected
    · obtain ⟨s, hs⟩ := connectWith_ignored nested quiet true h
      rw [hs]
      exact .ignored l h s
    · obtain ⟨wanted, down⟩ := not_or.mp h
      rw [Bool.not_eq_true] at wanted
      rw [Decidable.not_not] at down
      obtain ⟨s, hs⟩ := connectWith_opened nested quiet true wanted down
      rw [hs]
      exact .opened l wanted down s
  | disconnect =>
    obtain ⟨s, hs⟩ := disconnect_eq nested quiet l
    simp only [perform, hs]
    exact .hungUp l s
  | reportLoss => exact .lost (loses_reportLoss within quiet l)
  | signalReload => exact .reloaded (reloads_signalReload within quiet l)
  | flush => exact performs_flush within l
  | send r => exact performs_send within quiet r l

end Calls

/-! ## Calls within calls -/

/-- What may happen on an occasion, for a relation that is kept by every call. -/
def Within (o : Surroundings σ) (Q : Link σ → Link σ → Prop) (k : Occasion) (l l' : Link σ) :
    Prop :=
  Q l l' ∧ ((∀ s, (o.react k s).1 = []) → ∃ s, l' = l.amid s)

section Within

variable {Q : Link σ → Link σ → Prop} (drift : ∀ l s, Q l (l.amid s))
  (trans : ∀ {l k m}, Q l k → Q k m → Q l m)
include drift trans

theorem within_occur (calls : ∀ c l, Q l (nested c l)) (k : Occasion) (l : Link σ) :
    Within o Q k l (occur o nested k l) := by
  refine ⟨?_, fun still => ⟨(o.react k l.outside).2, ?_⟩⟩
  · exact List.foldlRecOn _ _ (drift l _) fun k called c _ => trans called (calls c k)
  · simp only [occur, still, List.foldl_nil, amid]

/-- A relation that is kept by every call is kept to any depth, by induction on the depth. -/
theorem within_nested (quiet : o.Quiet)
    (call : ∀ {c l k}, Performs o (Within o Q) c (l.note (.called c)) k →
      Q l (k.note (.returned c)))
    (depth : Nat) : ∀ (c : Call) (l : Link σ), Q l (Link.nested o depth c l) := by
  induction depth with
  | zero => exact fun _ l => drift l l.outside
  | succ depth ih => exact fun c l => call (performs (within_occur drift trans ih) quiet c _)

end Within

/-! ## Steps -/

/-- A step answers no attempt. -/
def Unanswered (l : Link σ) : Step σ → Prop
  | .answer id _ =>
    ∀ ticket bootstrap epoch, l.job? id ≠ some (.attempt ticket bootstrap epoch true)
  | _ => True

/-- What an ordinary step does. -/
inductive Course (o : Surroundings σ) (R : Occasion → Link σ → Link σ → Prop) :
    Step σ → Link σ → Link σ → Prop
  | called {c : Call} {l k : Link σ} (performs : Performs o R c (l.note (.called c)) k) :
      Course o R (.call c) l (k.note (.returned c))
  /-- Nothing but the surroundings; no attempt is answered. -/
  | drifted {s : Step σ} {l : Link σ} (watched : l.bereft s = false)
      (unanswered : l.Unanswered s) (t : σ) : Course o R s l (l.amid t)
  /-- A subscriber comes, reads or leaves. -/
  | attended {s : Step σ} {l : Link σ} (watched : l.bereft s = false)
      (unanswered : l.Unanswered s) {m : Machine} (current : m.current = l.state)
      (backlog : m.backlog = l.lifecycle.backlog) : Course o R s l { l with lifecycle := m }
  | turned {s : Step σ} {l k : Link σ} {acts : List Act} (watched : l.bereft s = false)
      (turn : Turn s l k) (journal : k.journal = l.journal ++ acts) (t : σ) :
      Course o R s l ((k.count? (l.toll acts)).amid t)
  /-- The news of a rejection is told. -/
  | told {id : JobId} {l : Link σ} {r : Request} (job : l.job? id = some (.rejection r)) :
      Course o R (.start id) l ((l.finish id).note (.failed r.id .notConnected))
  /-- The watch over the installed channel ends. -/
  | lost {id : JobId} {l l' : Link σ} {c : ChannelId} (job : l.job? id = some (.watch c))
      (slot : l.channel = some c) (loses : Loses R (l.finish id) l') : Course o R (.lost id) l l'
  | planned {l k m : Link σ} {id : JobId} {ticket : Option TicketId} {bootstrap : Bool}
      {epoch : UInt64} {cause : Fault} {delay : Nat} (up : l.TakesUp id ticket bootstrap epoch)
      (s t u : σ)
      (asked : R (.consulting l.reconnectAttempt) ((((l.take id (.error cause)).takeUp ticket
        bootstrap cause).count .failure).consult.amid s) k)
      (reloads : Reloads R ((k.count .retry).amid t) m) :
      Course o R (.answer id (.error cause)) l
        ((m.plan delay epoch (keptTicket ticket bootstrap cause)).amid u)
  | brokeDown {l k : Link σ} {id : JobId} {ticket : Option TicketId} {bootstrap : Bool}
      {epoch : UInt64} {cause : Fault} (loose : ¬ o.Firm) (up : l.TakesUp id ticket bootstrap epoch)
      (s t : σ)
      (asked : R (.consulting l.reconnectAttempt) ((((l.take id (.error cause)).takeUp ticket
        bootstrap cause).count .failure).consult.amid s) k) :
      Course o R (.answer id (.error cause)) l
        ((k.settle? (keptTicket ticket bootstrap cause) (.error .dropped)).amid t)

/-- A step that does nothing. -/
theorem Course.idle {s : Step σ} (watched : l.bereft s = false) (unanswered : l.Unanswered s) :
    Course o R s l l := .drifted watched unanswered l.outside

/-- A turn in which nothing is counted. -/
theorem Course.free {s : Step σ} {acts : List Act} (turn : Turn s l k)
    (journal : k.journal = l.journal ++ acts) (toll : l.toll acts = none) (t : σ)
    (watched : l.bereft s = false) : Course o R s l (k.amid t) := by
  have turned : Course o R s l _ := .turned watched turn journal t
  rwa [toll] at turned

/-- A turn in which something is counted. -/
theorem Course.counted {s : Step σ} {acts : List Act} {c : Counter} (turn : Turn s l k)
    (journal : k.journal = l.journal ++ acts) (toll : l.toll acts = some c) (t : σ)
    (watched : l.bereft s = false) : Course o R s l ((k.count c).amid t) := by
  have turned : Course o R s l _ := .turned watched turn journal t
  rwa [toll] at turned

section Jobs

variable (within : ∀ k l, R k l (occur o nested k l)) (quiet : o.Quiet)
include within quiet

/-- A failed attempt of a persistent link is taken up, and its retry is planned. -/
theorem course_fail {id : JobId} {ticket : Option TicketId} {bootstrap : Bool} {epoch : UInt64}
    (up : l.TakesUp id ticket bootstrap epoch) (cause : Fault) :
    Course o R (.answer id (.error cause)) l
      (fail o nested ticket bootstrap epoch cause (l.take id (.error cause))) := by
  obtain ⟨s, hs⟩ := announceFailure_persistent nested quiet ticket bootstrap cause
    (l := (l.take id (.error cause)).count .failure) up.persistent
  rw [takeUp_count] at hs
  generalize hk : (((l.take id (.error cause)).takeUp ticket bootstrap cause).count .failure).amid s
    = k at hs
  have stays : k.identity.transient = false ∧ k.disconnected = false ∧ k.epoch = epoch ∧
      k.reconnectAttempt = l.reconnectAttempt := by
    rw [← hk, takeUp_eq]
    exact ⟨up.persistent, up.wanted, up.current, rfl⟩
  obtain ⟨persistent, wanted, current, attempt⟩ := stays
  have planned : planRetry o nested epoch cause k = _ := if_pos current
  dsimp only at planned
  rw [← consult, attempt] at planned
  simp only [fail, hs, persistent, wanted, Bool.false_eq_true, ↓reduceIte, planned]
  have asked := within (.consulting l.reconnectAttempt) k.consult
  rw [← hk] at asked ⊢
  generalize occur o nested _ _ = k at asked ⊢
  split
  next m held =>
    split at held
    next => simp at held
    next delay t ht =>
      obtain ⟨-, rfl⟩ := Prod.mk.inj held
      generalize hj : Link.log o nested .warn _ _ _ = j
      obtain ⟨u, hu⟩ := log_eq nested quiet .warn "endpoint_retry_scheduled" _ _
      rw [hu] at hj
      have reloads := reloads_signalReload within quiet j
      rw [← hj] at reloads ⊢
      generalize signalReload o nested _ = m at reloads ⊢
      obtain ⟨v, hv⟩ := moveTo_eq nested quiet .connecting m
      have connecting : ((m.shift .connecting).spawn (.retry delay epoch)).state = .connecting :=
        state_shift m .connecting
      rw [hv, spawn_amid, state_amid, connecting, settle?_amid, ← plan]
      exact .planned up s u v asked reloads
  next m broke =>
    split at broke
    next t ht =>
      obtain ⟨-, rfl⟩ := Prod.mk.inj broke
      have drifted := settle?_amid k t (keptTicket ticket bootstrap cause) (.error .dropped)
      rw [amid] at drifted
      rw [drifted]
      exact .brokeDown (fun firm => firm _ _ (congrArg Prod.fst ht)) up s t asked
    next => simp at broke

/-- The answer to an attempt. -/
theorem course_conclude {id : JobId} {ticket : Option TicketId} {bootstrap : Bool}
    {epoch : UInt64} (job : l.job? id = some (.attempt ticket bootstrap epoch true))
    (answer : Except Fault ChannelId) :
    Course o R (.answer id answer) l
      (conclude o nested ticket bootstrap epoch answer (l.take id answer)) := by
  unfold conclude
  rw [epoch_take, state_take, disconnected_take]
  by_cases current : l.epoch = epoch
  · rw [if_neg (not_not_intro current)]
    by_cases down : l.state.isDown = true ∨ l.disconnected = true
    · rw [if_pos down]
      obtain ⟨s, hs⟩ := discard_eq nested quiet ticket answer (l.take id answer)
      rw [hs]
      exact .counted (.undone l job current down answer)
        (Entry.trans (.take l id answer) (.undo ..)).journal (by simp [toll, job, down]) s rfl
    · rw [if_neg down]
      obtain ⟨up, wanted⟩ := not_or.mp down
      rw [Bool.not_eq_true] at up wanted
      cases answer with
      | ok c =>
        by_cases connecting : l.state = .connecting
        · obtain ⟨s, hs⟩ := succeed_eq nested quiet ticket c
            (l := l.take id (.ok c)) connecting
          simp only [hs]
          exact .counted (.succeeded l job current wanted connecting c)
            (Entry.trans (.take l id (.ok c)) (.putToUse ..)).journal
            (by simp [toll, job, current, wanted, connecting, State.isDown]) s rfl
        · have connected : l.state = .connected := by
            cases h : l.state <;> simp_all [State.isDown]
          have here : ((l.take id (.ok c)).install c).state ≠ .connecting := connecting
          obtain ⟨s, hs⟩ := discard_eq nested quiet ticket (.ok c)
            ((l.take id (.ok c)).install c)
          simp only [succeed, here, ↓reduceIte, hs]
          exact .counted (.collided l job current wanted connected c)
            (((Entry.take l id (.ok c)).trans (.install _ c)).trans (.undo ..)).journal
            (by simp [toll, job, current, up, wanted, connecting]) s rfl
      | error cause =>
        cases transient : l.identity.transient with
        | false => exact course_fail within quiet ⟨job, current, wanted, up, transient⟩ cause
        | true =>
          obtain ⟨s, hs⟩ := fail_transient nested quiet ticket bootstrap epoch cause
            (l := l.take id (.error cause)) transient
          simp only [hs]
          exact .counted (.gaveUp l job current wanted up transient cause)
            (Entry.trans (.take l id (.error cause)) (.giveUp ..)).journal
            (by simp [toll, job, current, up, wanted]) s rfl
  · rw [if_pos current]
    obtain ⟨s, hs⟩ := supersede_eq nested quiet ticket answer (l.take id answer)
    rw [hs]
    exact .counted (.turnedAway l job current answer)
      (Entry.trans (.take l id answer) (.turnAway ..)).journal (by simp [toll, job, current]) s rfl

omit within in
/-- A job that is taken up for the first time. -/
theorem course_start (id : JobId) (l : Link σ) :
    Course o R (.start id) l (start o nested id l) := by
  unfold start
  split
  next ticket bootstrap epoch job =>
    exact .counted (.dialed l job (options o (l.count .attempt)).1) rfl rfl
      (options o (l.count .attempt)).2.outside rfl
  next c ticket job => exact .free (.tearing l job) rfl rfl l.outside rfl
  next ticket job =>
    obtain ⟨s, hs⟩ := tornDown_eq nested quiet ticket (l.finish id)
    rw [hs]
    exact .free (.toreDown _ l job) (journal_toreDown l id ticket) (toll_toreDown l ..) s rfl
  next c job => exact .free (.cleaning l job) rfl rfl l.outside rfl
  next r job => exact .told job
  next => exact .idle rfl trivial

omit within in
/-- The wait of a retry is over. -/
theorem course_wake {id : JobId} {delay : Nat} {epoch : UInt64}
    (job : l.job? id = some (.retry delay epoch)) :
    Course o R (.wake id) l (Link.wake o nested id epoch l) := by
  unfold Link.wake
  split
  next stale =>
    obtain ⟨s, hs⟩ := log_eq nested quiet .debug "endpoint_retry_superseded" l.place (l.finish id)
    rw [hs]
    exact .free (.ended _ l job fun h => stale h.symm) (List.append_nil _).symm rfl s rfl
  next current =>
    rw [ne_eq, Decidable.not_not] at current
    split
    next barred =>
      obtain ⟨s, hs⟩ := log_eq nested quiet .debug "endpoint_retry_abandoned" l.place
        (l.finish id)
      obtain ⟨t, ht⟩ := disconnect_eq nested quiet ((l.finish id).amid s)
      rw [hs]
      dsimp only
      rw [ht, hangUp_amid, amid_amid]
      exact .free (.abandoned l job current barred) (journal_hangUp _)
        (toll_eq_none l (Act.isWork_of_traces (by simp))) t rfl
    next wanted =>
      rw [Bool.not_eq_true] at wanted
      exact .counted (.redialed l job current wanted (options o (l.count .attempt)).1) rfl rfl
        (options o (l.count .attempt)).2.outside rfl

end Jobs

/-- The course of an ordinary step. -/
theorem course_step (quiet : o.Quiet) (depth : Nat)
    (within : ∀ k l, R k l (occur o (Link.nested o depth) k l)) {s : Step σ}
    (ordinary : s.Ordinary) (l : Link σ) : Course o R s l (step o depth s l) := by
  cases s with
  | call c => exact .called (performs within quiet c _)
  | start id => exact course_start quiet id l
  | answer id answer =>
    dsimp only [step, stepWith]
    split
    next job => exact course_conclude within quiet job answer
    next no => exact .idle rfl no
  | wake id =>
    dsimp only [step, stepWith]
    split
    next job => exact course_wake quiet job
    next => exact .idle rfl trivial
  | closed id failure =>
    dsimp only [step, stepWith]
    split
    next c ticket job =>
      obtain ⟨s, hs⟩ := closeEnded_eq (Link.nested o depth) quiet ticket failure (l.finish id)
      rw [hs]
      exact .free (.toreDown _ l job) (journal_toreDown l id ticket) (toll_toreDown l ..) s rfl
    next c job =>
      have logged : ∃ s, cleanupEnded o (Link.nested o depth) failure (l.finish id) =
          (l.finish id).amid s := by
        cases failure with
        | none => exact ⟨l.outside, rfl⟩
        | some f => exact log_eq _ quiet _ _ _ _
      obtain ⟨s, hs⟩ := logged
      rw [hs]
      exact .free (.ended _ l job rfl) (List.append_nil _).symm rfl s rfl
    next => exact .idle rfl trivial
  | lost id =>
    dsimp only [step, stepWith]
    split
    next c job =>
      unfold watchEnded
      split
      next slot => exact .lost job slot (loses_reportLoss within quiet _)
      next other =>
        have watched : l.bereft (.lost id) = false := by
          have other : l.channel ≠ some c := other
          simpa [bereft, job] using other
        exact .free (.ended _ l job trivial) (List.append_nil _).symm rfl l.outside watched
    next no =>
      have watched : l.bereft (.lost id) = false := by simp only [bereft]
      exact .idle watched trivial
  | told id outcome =>
    dsimp only [step, stepWith]
    split
    next ticket job =>
      have logged : ∃ s, reconnectEnded o (Link.nested o depth) outcome (l.finish id) =
          (l.finish id).amid s := by
        cases outcome with
        | ok state => exact ⟨l.outside, rfl⟩
        | error f => exact log_eq _ quiet _ _ _ _
      obtain ⟨s, hs⟩ := logged
      rw [hs]
      exact .free (.ended _ l job trivial) (List.append_nil _).symm rfl s rfl
    next => exact .idle rfl trivial
  | crash id => exact ordinary.elim
  | drift s => exact .drifted (s := .drift s) (l := l) rfl trivial s
  | subscribe => exact .attended (s := .subscribe) (l := l) rfl trivial rfl rfl
  | receive subscriber =>
    dsimp only [step, stepWith]
    split
    next delivery m h =>
      obtain ⟨current, backlog⟩ := Lifecycle.Machine.receive?_keeps h
      exact .attended (s := .receive subscriber) rfl trivial current backlog
    next => exact .idle rfl trivial
  | unsubscribe subscriber =>
    exact .attended (s := .unsubscribe subscriber) (l := l) rfl trivial rfl rfl

end Link

end NodeLink
