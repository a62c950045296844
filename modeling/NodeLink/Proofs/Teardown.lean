import Mathlib.Data.List.Induction
import NodeLink.Proofs.Account
import NodeLink.Proofs.Custody
import NodeLink.Proofs.Disconnect
import NodeLink.Proofs.Fair
import NodeLink.Proofs.Finality
import NodeLink.Proofs.Spare

/-!
# A graceful disconnect

A link that is connected when disconnect is called tears its channel down: the caller gets a
ticket, and a job asks the channel to close. This happens once in the life of a link. The job waits
for the channel, whatever else becomes of the link meanwhile, and the step in which the closing
comes to its end settles the notice. Then the link is disconnected and without a channel, and it
stays so.

The channel that closes is still installed and watched. Its watch finds the link down and asks for
nothing. A watch may be the very reason of the disconnect, if the sink calls it while a reload is
being published; then that publication is all that is left of it.
-/

set_option autoImplicit false

namespace NodeLink

open Lifecycle (State)

namespace Act

/-- Whether an act creates a teardown. -/
def tearsDown : Act → Bool
  | .spawned _ (.teardown ..) => true
  | _ => false

/-- Whether an act asks for a reload or is a beginning of an attempt. -/
def revives : Act → Bool
  | .published .reload _ | .spawned _ (.attempt ..) | .spawned _ (.retry ..) | .dialed .. => true
  | _ => false

theorem revives_of_isTrace (a : Act) (trace : a.isTrace = true) : a.revives = false := by
  cases a with
  | spawned id j => cases j <;> first | rfl | cases trace
  | published e refusal => cases trace
  | _ => first | rfl | cases trace

/-- Whether an act changes the state or the slot. -/
def moves : Act → Bool
  | .changed .. | .installed _ | .cleared _ => true
  | _ => false

end Act

namespace Link

variable {σ : Type} {o : Surroundings σ} {l k l' : Link σ}

/-! ## What disconnect answers -/

/-- A link that is connected answers with a ticket, any other one with the state it goes down to. -/
theorem disconnect_answer (quiet : o.Quiet) (nested : Call → Link σ → Link σ) (k : Link σ) :
    (k.state = .connected →
      ∃ s, disconnect o nested k = (.pending k.ticketCount, k.hangUp.amid s)) ∧
    (k.state ≠ .connected → ∃ down s, down.isDown = true ∧
      disconnect o nested k = (.settled (.ok down), k.hangUp.amid s)) := by
  obtain ⟨s, hs⟩ := disconnect_eq nested quiet k
  have whole : disconnect o nested k = ((disconnect o nested k).1, k.hangUp.amid s) :=
    Prod.ext rfl hs
  rw [whole]
  unfold disconnect
  cases hl : k.lifecycle.current with
  | disconnected =>
    simp only [state, hl]
    exact ⟨fun up => absurd up (by decide), fun _ => ⟨_, s, rfl, rfl⟩⟩
  | disconnecting =>
    simp only [state, hl]
    exact ⟨fun up => absurd up (by decide), fun _ => ⟨_, s, rfl, rfl⟩⟩
  | connecting =>
    simp only [state, hl]
    exact ⟨fun up => absurd up (by decide), fun _ => ⟨_, s, rfl, rfl⟩⟩
  | connected =>
    obtain ⟨t, ht⟩ := moveTo_eq nested quiet .disconnecting k.bar
    rw [bar] at ht
    simp only [state, hl, ht]
    refine ⟨fun _ => ⟨s, ?_⟩, fun other => absurd rfl other⟩
    rw [shift_eq]
    rfl

/-- The ticket goes with the job that tears the channel down. -/
theorem spawned_hangUp (connected : k.state = .connected) :
    .spawned k.jobCount (.teardown k.channel k.ticketCount false) ∈ k.hangUp.journal := by
  rw [journal_hangUp, hangingUp, connected]
  simp

/-! ## Jobs that a step does not name -/

theorem Entry.job? {acts : List Act} (entry : Entry acts l l') {id : JobId} {j : Job}
    (job : l.job? id = some j) : l'.job? id = some j := by
  rw [Link.job?] at job
  rw [Link.job?, entry.jobs, List.lookup_append, job]
  rfl

theorem job?_finish {id id' : JobId} (other : id' ≠ id) : (l.finish id').job? id = l.job? id :=
  lookup_filter_other l.jobs other

theorem job?_become (id id' : JobId) (j' : Job) : (l.become id' j').job? id =
    if id' = id then (l.job? id).map fun _ => j' else l.job? id :=
  lookup_map_replace l.jobs id id' j'

/-- Of the jobs only the one that a step names has ended or gone on, if any has. After that there
was nothing but an entry. -/
def Resumes (s : Step σ) (l l' : Link σ) : Prop :=
  ∃ k acts, k.journal = l.journal ∧
    (∀ id j, l.job? id = some j → (∀ e : Errand, s ≠ e.step id) → k.job? id = some j) ∧
    Entry acts k l'

namespace Resumes

variable {s : Step σ} {id : JobId}

theorem same (fair : Fair l l') : Resumes s l l' := by
  obtain ⟨acts, deals⟩ := fair
  exact ⟨l, acts, rfl, fun _ _ job _ => job, deals.entry⟩

theorem ended (e : Errand) (after : ∃ acts, Entry acts (l.finish id) l') :
    Resumes (e.step id) l l' := by
  obtain ⟨acts, entry⟩ := after
  refine ⟨l.finish id, acts, rfl, fun id' j job other => ?_, entry⟩
  have apart : id ≠ id' := by
    rintro rfl
    exact other e rfl
  rwa [job?_finish apart]

theorem gone (e : Errand) {j : Job} (after : Fair (l.become id j) l') :
    Resumes (e.step id) l l' := by
  obtain ⟨acts, deals⟩ := after
  refine ⟨l.become id j, acts, rfl, fun id' j' job other => ?_, deals.entry⟩
  have apart : id ≠ id' := by
    rintro rfl
    exact other e rfl
  rwa [job?_become, if_neg apart]

end Resumes

theorem step_resumes (o : Surroundings σ) (depth : Nat) (s : Step σ) (l : Link σ) :
    Resumes s l (step o depth s l) := by
  have within := Fair.atDepth o depth
  have made : ∀ {k l' : Link σ}, Fair k l' → ∃ acts, Entry acts k l' :=
    fun ⟨acts, deals⟩ => ⟨acts, deals.entry⟩
  cases s with
  | call c => exact .same (.carryOut within c l)
  | start id =>
    dsimp only [step, stepWith, start]
    split
    next => exact .gone .start (.dial ..)
    next => exact .gone .start (.note _ rfl rfl)
    next => exact .ended .start (made (.tornDown within _ _))
    next => exact .gone .start (.note _ rfl rfl)
    next => exact .ended .start ⟨_, .note _ rfl⟩
    next => exact .same (.refl l)
  | answer id answer =>
    dsimp only [step, stepWith]
    split
    next =>
      have taken : Fair (l.finish id) (l.take id answer) := .note _ rfl rfl
      exact .ended (.answer answer) (made (taken.trans (.conclude within ..)))
    next => exact .same (.refl l)
  | wake id =>
    dsimp only [step, stepWith]
    split
    next =>
      unfold wake
      split
      · exact .ended .wake (made (.log within ..))
      · split
        · exact .ended .wake (made ((Fair.log within ..).trans (.disconnect within _)))
        · exact .gone .wake (.dial ..)
    next => exact .same (.refl l)
  | closed id failure =>
    dsimp only [step, stepWith]
    split
    next => exact .ended (.closed failure) (made (.closeEnded within ..))
    next => exact .ended (.closed failure) (made (.cleanupEnded within ..))
    next => exact .same (.refl l)
  | lost id =>
    dsimp only [step, stepWith]
    split
    next => exact .ended .lost (made (.watchEnded within ..))
    next => exact .same (.refl l)
  | told id outcome =>
    dsimp only [step, stepWith]
    split
    next => exact .ended (.told outcome) (made (.reconnectEnded within ..))
    next => exact .same (.refl l)
  | crash id =>
    dsimp only [step, stepWith]
    split
    next => exact .ended .crash ⟨_, .forsake ..⟩
    next => exact .same (.refl l)
  | drift s => exact .same (.silent rfl rfl rfl rfl rfl)
  | subscribe => exact .same (.silent rfl rfl rfl rfl rfl)
  | receive subscriber =>
    dsimp only [step, stepWith]
    split
    · exact .same (.silent rfl rfl rfl rfl rfl)
    · exact .same (.refl l)
  | unsubscribe subscriber => exact .same (.silent rfl rfl rfl rfl rfl)

/-- A job that a step does not name stays as it is. -/
theorem step_keeps (o : Surroundings σ) (depth : Nat) {s : Step σ} {id : JobId} {j : Job}
    (job : l.job? id = some j) (other : ∀ e : Errand, s ≠ e.step id) :
    (step o depth s l).job? id = some j := by
  obtain ⟨k, acts, -, kept, entry⟩ := step_resumes o depth s l
  exact entry.job? (kept id j job other)

/-- A job that is created in a step is pending after it. -/
theorem step_spawns (o : Surroundings σ) (depth : Nat) {s : Step σ} {id : JobId} {j : Job}
    (numbered : Numbered (step o depth s l)) (now : .spawned id j ∈ (step o depth s l).journal) :
    .spawned id j ∈ l.journal ∨ (step o depth s l).job? id = some j := by
  obtain ⟨k, acts, same, -, entry⟩ := step_resumes o depth s l
  rw [entry.journal, same, List.mem_append] at now
  refine now.imp_right fun new => numbered.job?_of_mem ?_
  rw [entry.jobs]
  exact List.mem_append_right _ (List.mem_filterMap.mpr ⟨_, new, rfl⟩)

/-- A teardown waits for its channel. -/
theorem step_teardown (o : Surroundings σ) (depth : Nat) {s : Step σ} (ordinary : s.Ordinary)
    {id : JobId} {c : ChannelId} {t : TicketId} {closing : Bool}
    (job : l.job? id = some (.teardown (some c) t closing)) :
    (∃ closing, (step o depth s l).job? id = some (.teardown (some c) t closing)) ∨
      closing = true ∧ ∃ failure, s = .closed id failure := by
  by_cases named : ∃ e : Errand, s = e.step id
  · obtain ⟨e, rfl⟩ := named
    cases e with
    | start =>
      refine .inl ⟨true, ?_⟩
      cases closing with
      | false =>
        simp only [Errand.step, step, stepWith, start, job]
        exact (job?_become ..).trans (by rw [if_pos rfl, job, Option.map_some])
      | true => simp only [Errand.step, step, stepWith, start, job]
    | closed failure =>
      cases closing with
      | false => exact .inl ⟨false, by simp only [Errand.step, step, stepWith, job]⟩
      | true => exact .inr ⟨rfl, failure, rfl⟩
    | crash => exact ordinary.elim
    | answer | wake | lost | told =>
      exact .inl ⟨closing, by simp only [Errand.step, step, stepWith, job]⟩
  · exact .inl ⟨closing, step_keeps o depth job fun e same => named ⟨e, same⟩⟩

/-! ## One teardown in the life of a link -/

@[simp] theorem tearsDown_of_traces {acts : List Act}
    (traces : acts.all (Act.isTraceBut [.teardown]) = true) : acts.countP Act.tearsDown = 0 :=
  Act.countP_of_traces traces fun a trace => by
    cases a with
    | spawned id j => cases j <;> first | rfl | cases trace
    | _ => rfl

theorem tearsDown_hangingUp (l : Link σ) (down : l.state ≠ .connected) :
    l.hangingUp.countP Act.tearsDown = 0 := by
  unfold hangingUp
  split
  next => rfl
  next => rfl
  next => simp
  next connected => exact absurd connected down

/-- A stroke creates no teardown, except that a link hangs up that is connected. -/
theorem Stroke.teardowns (h : Stroke l l') :
    l'.journal.countP Act.tearsDown = l.journal.countP Act.tearsDown ∨
      l.state = .connected ∧ l' = Link.hangUp (l.note (.called .disconnect)) := by
  have quiet : ∀ {acts : List Act}, Entry acts l l' → acts.countP Act.tearsDown = 0 →
      l'.journal.countP Act.tearsDown = l.journal.countP Act.tearsDown := by
    intro acts entry none
    rw [entry.journal, List.countP_append, none, Nat.add_zero]
  cases h with
  | drifted | counted | marked | attended => exact .inl rfl
  | @noted a plain =>
    refine .inl (quiet (.note l ?_) ?_) <;> cases a <;> first | rfl | cases plain
  | returned | ignored => exact .inl (quiet (.note l rfl) rfl)
  | @spawned j idle =>
    refine .inl (quiet (.spawn l j) ?_)
    cases j <;> first | rfl | cases idle
  | opened =>
    exact .inl (quiet (.trans (.note l rfl) (.setOut _ true)) (by simp [settingOut, Act.tearsDown]))
  | restarted =>
    exact .inl (quiet (.trans (.drop l) (.setOut _ false)) (by simp [settingOut, Act.tearsDown]))
  | dropped => exact .inl (quiet (.drop l) (by simp))
  | hungUp =>
    by_cases connected : l.state = .connected
    · exact .inr ⟨connected, rfl⟩
    · refine .inl (quiet (.trans (.note l rfl) (.hangUp _)) ?_)
      rw [List.countP_append, tearsDown_hangingUp (l.note (.called .disconnect)) connected]
      rfl

/-- No turn creates a teardown. -/
theorem Turn.teardowns {s : Step σ} (h : Turn s l l')
    (parted : l.disconnected = true → l.state ≠ .connected) :
    l'.journal.countP Act.tearsDown = l.journal.countP Act.tearsDown := by
  have quiet : ∀ {acts : List Act}, l'.journal = l.journal ++ acts →
      acts.countP Act.tearsDown = 0 →
      l'.journal.countP Act.tearsDown = l.journal.countP Act.tearsDown := by
    intro acts journal none
    rw [journal, List.countP_append, none, Nat.add_zero]
  cases h with
  | dialed | redialed | tearing | cleaning => exact quiet rfl rfl
  | @abandoned _ id _ _ _ _ barred =>
    exact quiet (journal_hangUp _) (tearsDown_hangingUp (l.finish id) (parted barred))
  | ended => rfl
  | @toreDown _ _ id _ ticket =>
    exact quiet (journal_toreDown l id ticket) (by simp [Act.tearsDown])
  | @turnedAway _ id ticket _ _ _ _ answer =>
    exact quiet (Entry.trans (.take l id answer) (.turnAway _ ticket answer)).journal
      (by simp [Act.tearsDown])
  | @undone _ id ticket _ _ _ _ _ answer =>
    exact quiet (Entry.trans (.take l id answer) (.undo _ ticket answer)).journal
      (by simp [Act.tearsDown])
  | @succeeded _ id ticket _ _ _ _ _ _ c =>
    exact quiet (Entry.trans (.take l id (.ok c)) (.putToUse _ ticket c)).journal
      (by simp [Act.tearsDown])
  | @collided _ id ticket _ _ _ _ _ _ c =>
    exact quiet (Entry.trans (.trans (.take l id (.ok c)) (.install _ c))
      (.undo _ ticket (.ok c))).journal (by simp [Act.tearsDown])
  | @gaveUp _ id ticket _ _ _ _ _ _ _ cause =>
    exact quiet (Entry.trans (.take l id (.error cause)) (.giveUp _ ticket cause)).journal
      (by simp [Act.tearsDown])

theorem teardowns_takeUp (l : Link σ) (id : JobId) (ticket : Option TicketId) (bootstrap : Bool)
    (cause : Fault) :
    ((l.take id (.error cause)).takeUp ticket bootstrap cause).consult.journal.countP
      Act.tearsDown = l.journal.countP Act.tearsDown := by
  have entry := (Entry.take l id (.error cause)).trans (.takeUp _ ticket bootstrap cause)
  have passed : (if cause.isTerminal then (l.take id (.error cause)).passage .disconnected
      else []).countP Act.tearsDown = 0 := by
    split <;> simp
  have settled : (if cause.isTerminal ∨ bootstrap then settling ticket (.error cause)
      else []).countP Act.tearsDown = 0 := by
    split <;> simp
  rw [entry.journal, List.countP_append, List.countP_append, List.countP_append,
    List.countP_append, passed, settled]
  rfl

theorem teardowns_plan (l : Link σ) (delay : Nat) (epoch : UInt64) (ticket : Option TicketId) :
    (l.plan delay epoch ticket).journal.countP Act.tearsDown =
      l.journal.countP Act.tearsDown := by
  rw [(Entry.plan l delay epoch ticket).journal, List.countP_append]
  simp [Act.tearsDown]

theorem teardowns_settle? (l : Link σ) (ticket : Option TicketId) (outcome : Outcome) :
    (l.settle? ticket outcome).journal.countP Act.tearsDown = l.journal.countP Act.tearsDown := by
  rw [(Entry.settle? l ticket outcome).journal, List.countP_append]
  simp

/-- A teardown as it was created: by a call of disconnect that found the link connected, for the
channel that was installed. -/
def Graceful (journal : List Act) (id : JobId) (j : Job) : Prop :=
  ∃ c t told before after, j = .teardown (some c) t false ∧
    journal = before ++ .called .disconnect :: .changed ⟨.connected, .disconnecting⟩ told ::
      .spawned id j :: after ∧
    before.foldl Act.fills none = some c

theorem Graceful.later {journal more : List Act} {id : JobId} {j : Job}
    (graceful : Graceful journal id j) (grown : journal <+: more) : Graceful more id j := by
  obtain ⟨c, t, told, before, after, form, rfl, slot⟩ := graceful
  obtain ⟨acts, rfl⟩ := grown
  exact ⟨c, t, told, before, after ++ acts, form, by simp, slot⟩

/-- The law of teardowns. -/
structure Torn (l : Link σ) : Prop where
  up : l.state = .connected → l.channel ≠ none ∧ l.disconnected = false
  once : l.journal.countP Act.tearsDown ≤ if l.disconnected then 1 else 0
  graceful : ∀ id j, .spawned id j ∈ l.journal → j.isTeardown = true → Graceful l.journal id j

namespace Torn

theorem new (identity : Identity) (environment : Environment) (outside : σ) :
    Torn (Link.new identity environment outside) where
  up := nofun
  once := Nat.le_refl 0
  graceful := nofun

theorem parted (torn : Torn l) (barred : l.disconnected = true) : l.state ≠ .connected :=
  fun connected => absurd (barred.symm.trans (torn.up connected).2) (by decide)

/-- A link that tears its channel down was to be disconnected. -/
theorem barred (torn : Torn l) (begun : 0 < l.journal.countP Act.tearsDown) :
    l.disconnected = true := by
  have once := torn.once
  split at once
  · assumption
  · omega

theorem barred_of_job (torn : Torn l) (recorded : Recorded l) {id : JobId} {c : Option ChannelId}
    {t : TicketId} {closing : Bool} (job : l.job? id = some (.teardown c t closing)) :
    l.disconnected = true := by
  obtain ⟨before, after, jobs, -⟩ := List.lookup_eq_some_iff.mp job
  obtain ⟨j, spawned, becomes⟩ := recorded.origin (id, .teardown c t closing) (by simp [jobs])
  refine torn.barred (List.countP_pos_iff.mpr ⟨_, spawned, ?_⟩)
  cases becomes <;> rfl

/-- Acts may follow that create no teardown. -/
theorem later (torn : Torn l) (grown : l.journal <+: l'.journal)
    (same : l'.journal.countP Act.tearsDown = l.journal.countP Act.tearsDown)
    (up : l'.state = .connected → l'.channel ≠ none ∧ l'.disconnected = false)
    (barred : l.disconnected = true → l'.disconnected = true) : Torn l' where
  up := up
  once := by
    rw [same]
    refine Nat.le_trans torn.once ?_
    cases h : l.disconnected with
    | false => exact Nat.zero_le _
    | true => exact Nat.le_of_eq (by rw [barred h])
  graceful id j spawned teardown := by
    have ⟨acts, journal⟩ := grown
    rw [← journal, List.countP_append, Nat.add_eq_left, List.countP_eq_zero] at same
    rw [← journal, List.mem_append] at spawned
    refine (torn.graceful id j (spawned.resolve_right fun new => same _ new ?_) teardown).later
      grown
    cases j <;> first | rfl | cases teardown

/-- A link hangs up that is connected. -/
theorem hangUp (torn : Torn l) (account : Account l) (connected : l.state = .connected) :
    Torn (Link.hangUp (l.note (.called .disconnect))) := by
  obtain ⟨slot, wanted⟩ := torn.up connected
  obtain ⟨c, slot⟩ := Option.ne_none_iff_exists'.mp slot
  have here : (l.note (.called .disconnect)).state = .connected := connected
  have passed : (l.note (.called .disconnect)).passage .disconnecting =
      [.changed ⟨.connected, .disconnecting⟩ (!l.lifecycle.subscribers.isEmpty)] := by
    rw [passage, here]
    rfl
  have journal : (Link.hangUp (l.note (.called .disconnect))).journal = l.journal ++
      (.called .disconnect ::
        .changed ⟨.connected, .disconnecting⟩ (!l.lifecycle.subscribers.isEmpty) ::
        [.spawned l.jobCount (.teardown (some c) l.ticketCount false)]) := by
    rw [journal_hangUp, hangingUp, here, passed]
    show (l.journal ++ [_]) ++ (_ ++ [.spawned _ (.teardown l.channel _ false)]) = _
    rw [slot, List.append_assoc]
    rfl
  have none : l.journal.countP Act.tearsDown = 0 := by
    have once := torn.once
    rwa [wanted, if_neg Bool.false_ne_true, Nat.le_zero] at once
  refine ⟨fun up => absurd up (state_hangUp_ne _), ?_, fun id j spawned teardown => ?_⟩
  · rw [disconnected_hangUp, journal, List.countP_append, none]
    exact Nat.le_refl 1
  · rw [journal, List.mem_append] at spawned
    rw [journal]
    obtain old | new := spawned
    · exact (torn.graceful id j old teardown).later (List.prefix_append _ _)
    · obtain ⟨rfl, rfl⟩ : id = l.jobCount ∧ j = .teardown (some c) l.ticketCount false := by
        simpa using new
      exact ⟨c, _, _, l.journal, [], rfl, rfl, account.channel.symm.trans slot⟩

theorem stroke (h : Stroke l l') (account : Account l) (torn : Torn l) : Torn l' := by
  rcases h.teardowns with same | ⟨connected, rfl⟩
  · refine torn.later h.journal same (fun up => ?_) fun barred => ?_
    · have up : l'.core.state = .connected := up
      show l'.core.channel ≠ none ∧ l'.core.disconnected = false
      rcases h.core with core | ⟨-, -, core⟩ | ⟨-, -, core⟩ | ⟨-, core⟩ | core
      · rw [core] at up ⊢
        exact torn.up up
      · rw [core] at up
        cases up
      · rw [core] at up
        cases up
      · rw [core] at up
        cases up
      · rw [core] at up
        exact absurd up l.core.state_hangUp_ne
    · obtain kept | rfl := h.disconnected
      · exact kept.trans barred
      · exact disconnected_hangUp _
  · exact torn.hangUp account connected

theorem turn {s : Step σ} (h : Turn s l l') (torn : Torn l) : Torn l' := by
  refine torn.later h.journal (h.teardowns torn.parted) (fun up => ?_) fun barred =>
    h.disconnected.trans barred
  cases h with
  | dialed | redialed | tearing | cleaning | ended => exact torn.up up
  | abandoned => exact absurd up (state_hangUp_ne _)
  | toreDown => exact absurd ((state_drop _).symm.trans up) (by decide)
  | turnedAway =>
    rw [turnAway_eq] at up ⊢
    exact torn.up up
  | undone | collided => exact absurd ((state_undo ..).symm.trans up) (by decide)
  | succeeded _ _ _ wanted _ c =>
    rw [putToUse_eq]
    exact ⟨Option.some_ne_none c, wanted⟩
  | gaveUp => exact absurd ((state_giveUp ..).symm.trans up) (by decide)

/-- A failed attempt is taken up. -/
theorem takeUp (id : JobId) (ticket : Option TicketId) (bootstrap : Bool) (cause : Fault)
    (torn : Torn l) : Torn ((l.take id (.error cause)).takeUp ticket bootstrap cause).consult := by
  have entry := (Entry.take l id (.error cause)).trans (.takeUp _ ticket bootstrap cause)
  apply torn.later entry.grows (teardowns_takeUp ..)
  · intro connected
    have led := congrArg Core.state (core_takeUp (l.take id (.error cause)) ticket bootstrap cause)
    have here : l.state = .connected := by
      have led := led.symm.trans connected
      dsimp only at led
      split at led
      · cases led
      · exact led
    rw [takeUp_eq]
    exact torn.up here
  · intro barred
    rw [takeUp_eq]
    exact barred

theorem plan (delay : Nat) (epoch : UInt64) (ticket : Option TicketId) (torn : Torn l) :
    Torn (l.plan delay epoch ticket) := by
  refine torn.later (Entry.plan l delay epoch ticket).grows (teardowns_plan ..) (fun up => ?_)
    fun barred => ?_
  · exact absurd ((state_plan ..).symm.trans up) (by decide)
  · rw [plan_eq]
    exact barred

theorem settle? (ticket : Option TicketId) (outcome : Outcome) (torn : Torn l) :
    Torn (l.settle? ticket outcome) := by
  refine torn.later (Entry.settle? l ticket outcome).grows (teardowns_settle? ..) ?_ ?_
  all_goals rw [settle?_eq]
  · exact torn.up
  · exact fun barred => barred

end Torn

/-- Teardowns are created as they should be in every run. -/
theorem torn_kept (o : Surroundings σ) : Kept o fun _ l => Account l ∧ Torn l := by
  refine KeptUnder.kept (Q := fun _ l => Torn l) ?_ (account_kept o)
  exact {
    stroke := fun h account _ torn => torn.stroke h account
    turn := fun h _ _ torn => torn.turn h
    takeUp := fun cause _ _ torn => torn.takeUp _ _ _ cause
    plan := fun delay _ torn => torn.plan delay _ _
    breakDown := fun _ _ torn => torn.settle? _ _ }

/-! ## The rest of the run -/

/-- A link that is down for good, and has neither changed its state nor its slot since its journal
was `base`. -/
structure Rests (base : List Act) (l : Link σ) : Prop where
  barred : l.disconnected = true
  down : l.state = .disconnected
  vacant : l.channel = none
  still : ∃ acts, l.journal = base ++ acts ∧ acts.any Act.moves = false

namespace Rests

variable {base acts : List Act}

theorem later (rests : Rests base l) (journal : l'.journal = l.journal ++ acts)
    (none : acts.any Act.moves = false) (barred : l'.disconnected = true)
    (down : l'.state = .disconnected) (vacant : l'.channel = Option.none) : Rests base l' := by
  obtain ⟨more, whole, still⟩ := rests.still
  refine ⟨barred, down, vacant, more ++ acts, ?_, ?_⟩
  · rw [journal, whole, List.append_assoc]
  · rw [List.any_append, still, none]
    rfl

/-- What such a link does not have to do. -/
theorem nothing (rests : Rests base l) : l.passage .disconnected = [] ∧ l.emptying = [] ∧
    l.hangingUp = [] ∧ ∀ answer, l.yielding answer = [] := by
  refine ⟨if_pos rests.down, ?_, ?_, fun answer => ?_⟩
  · rw [emptying, rests.vacant]
    rfl
  · rw [hangingUp, rests.down]
  · cases answer with
    | error f => rfl
    | ok c => exact if_neg (by simp [rests.vacant])

theorem drop (rests : Rests base l) : Rests base l.drop := by
  refine rests.later (Entry.drop l).journal ?_ ?_ (state_drop l) ?_
  · rw [rests.nothing.1, rests.nothing.2.1]
    rfl
  · rw [drop_eq]
    exact rests.barred
  · rw [drop_eq]

theorem hangUp (rests : Rests base l) : Rests base l.hangUp := by
  have here : l.hangUp = l.bar := by
    simp only [Link.hangUp, rests.down]
  rw [here]
  exact ⟨rfl, rests.down, rests.vacant, rests.still⟩

theorem stroke (h : Stroke l l') (rests : Rests base l) : Rests base l' := by
  have noted : ∀ a : Act, a.moves = false → Rests base (l.note a) := fun a still =>
    rests.later rfl (by simp [still]) rests.barred rests.down rests.vacant
  cases h with
  | drifted | counted | marked => exact ⟨rests.barred, rests.down, rests.vacant, rests.still⟩
  | attended current =>
    exact ⟨rests.barred, current.trans rests.down, rests.vacant, rests.still⟩
  | @noted a plain =>
    refine noted a ?_
    cases a <;> first | rfl | cases plain
  | returned | ignored => exact noted _ rfl
  | spawned => exact rests.later rfl rfl rests.barred rests.down rests.vacant
  | opened wanted | restarted wanted => exact absurd (rests.barred.symm.trans wanted) (by decide)
  | dropped => exact rests.drop
  | hungUp => exact (noted (.called .disconnect) rfl).hangUp

theorem turn {s : Step σ} (h : Turn s l l') (rests : Rests base l) : Rests base l' := by
  have finished : ∀ id, Rests base (l.finish id) := fun _ =>
    ⟨rests.barred, rests.down, rests.vacant, rests.still⟩
  have taken : ∀ id answer, Rests base (l.take id answer) := fun id answer =>
    (finished id).later rfl rfl rests.barred rests.down rests.vacant
  have gone : ∀ id j a, Act.moves a = false → Rests base ((l.become id j).note a) :=
    fun id j a still => rests.later rfl (by simp [still]) rests.barred rests.down rests.vacant
  have settled : ∀ ticket outcome, (settling ticket outcome).any Act.moves = false := by
    intro ticket outcome
    cases ticket <;> rfl
  have disposed : ∀ (k : Link σ) answer, (k.disposing answer).any Act.moves = false := by
    intro k answer
    cases answer <;> rfl
  cases h with
  | dialed | tearing | cleaning => exact gone _ _ _ rfl
  | @abandoned _ id => exact (finished id).hangUp
  | @ended _ _ id => exact finished id
  | @toreDown _ _ id _ ticket =>
    have dropped := (finished id).drop
    exact dropped.later rfl rfl dropped.barred dropped.down dropped.vacant
  | @turnedAway _ id ticket _ _ _ _ answer =>
    refine (taken id answer).later (Entry.turnAway _ ticket answer).journal ?_ ?_ ?_ ?_
    · rw [List.any_append, disposed, settled]
      rfl
    all_goals rw [turnAway_eq]
    · exact rests.barred
    · exact rests.down
    · exact rests.vacant
  | @undone _ id ticket _ _ _ _ _ answer =>
    have empty := (taken id answer).nothing
    refine (taken id answer).later (Entry.undo _ ticket answer).journal ?_ ?_ (state_undo ..) ?_
    · rw [empty.1, empty.2.2.2 answer, List.any_append, List.any_append, List.any_append, disposed,
        settled]
      rfl
    · rw [undo_eq]
      exact rests.barred
    · rw [undo_eq]
      have vacant : (l.take id answer).channel = none := rests.vacant
      cases answer <;> simp [yield, vacant]
  | redialed _ _ _ wanted | succeeded _ _ _ wanted | collided _ _ _ wanted
  | gaveUp _ _ _ wanted =>
    exact absurd (rests.barred.symm.trans wanted) (by decide)

end Rests

/-- A link that is down for good stays so, and starts no planning of a retry either. -/
theorem rests_kept (o : Surroundings σ) (base : List Act) :
    Kept o fun hand l => hand = none ∧ Rests base l where
  stroke h holds := ⟨holds.1, holds.2.stroke h⟩
  turn h holds := ⟨rfl, holds.2.turn h⟩
  takeUp _ up holds := absurd (holds.2.barred.symm.trans up.wanted) (by decide)
  plan _ holds := absurd holds.1 (Option.some_ne_none _)
  breakDown _ holds := absurd holds.1 (Option.some_ne_none _)

/-! ## Down since the teardown -/

/-- Whoever hangs up is down. -/
theorem isDown_hangUp (l : Link σ) : l.hangUp.state.isDown = true := by
  have same : l.hangUp.state = l.core.hangUp.state := congrArg Core.state (core_hangUp l)
  rw [same]
  cases h : l.core.state <;> simp [Core.hangUp, h, State.isDown]

/-- No stroke brings a link up that was to be disconnected. -/
theorem Stroke.down (h : Stroke l l') (barred : l.disconnected = true)
    (down : l.state.isDown = true) : l'.state.isDown = true := by
  cases h with
  | drifted | counted | marked | noted | returned | spawned | ignored => exact down
  | attended current =>
    rw [← current] at down
    exact down
  | opened wanted | restarted wanted => exact absurd (barred.symm.trans wanted) (by decide)
  | dropped =>
    rw [state_drop]
    rfl
  | hungUp => exact isDown_hangUp _

/-- Neither does a turn. -/
theorem Turn.down {s : Step σ} (h : Turn s l l') (barred : l.disconnected = true)
    (down : l.state.isDown = true) : l'.state.isDown = true := by
  cases h with
  | dialed | tearing | cleaning | ended => exact down
  | abandoned => exact isDown_hangUp _
  | toreDown =>
    show (Link.drop _).state.isDown = true
    rw [state_drop]
    rfl
  | turnedAway =>
    rw [turnAway_eq]
    exact down
  | undone =>
    rw [state_undo]
    rfl
  | redialed _ _ _ wanted | succeeded _ _ _ wanted | collided _ _ _ wanted
  | gaveUp _ _ _ wanted =>
    exact absurd (barred.symm.trans wanted) (by decide)

/-- A link that tears its channel down is down, and no retry is being planned. -/
theorem fallen_kept (o : Surroundings σ) : Kept o fun hand l =>
    ((Numbered l ∧ (l.chains < UInt64.size → Sound (¬ o.Firm) hand l.core)) ∧
      (Account l ∧ Torn l)) ∧
      (l.chains < UInt64.size → 0 < l.journal.countP Act.tearsDown →
        hand = none ∧ l.state.isDown = true) := by
  refine KeptUnder.kept (Q := fun hand l => l.chains < UInt64.size →
    0 < l.journal.countP Act.tearsDown → hand = none ∧ l.state.isDown = true) ?_
    ((sound_kept o).and (torn_kept o))
  have fewer : ∀ {k l : Link σ}, k.journal <+: l.journal → l.chains < UInt64.size →
      k.chains < UInt64.size := fun grows few => Nat.lt_of_le_of_lt (chains_le grows) few
  exact {
    stroke := fun {hand l l'} h law _ fallen few begun => by
      obtain same | ⟨connected, rfl⟩ := h.teardowns
      · rw [same] at begun
        obtain ⟨free, down⟩ := fallen (fewer h.journal few) begun
        exact ⟨free, h.down (law.2.2.barred begun) down⟩
      · -- a chain in hand would be worked on, and a connected link has no worker
        have sound := law.1.2 (fewer h.journal few)
        have fits := sound.fits
        have connected : l.core.state = .connected := connected
        simp only [Core.Fits, connected] at fits
        refine ⟨?_, isDown_hangUp _⟩
        by_contra held
        have := (sound.inHand held).1
        omega
    turn := fun {s l l'} h law _ fallen few begun => by
      rw [h.teardowns law.2.2.parted] at begun
      obtain ⟨-, down⟩ := fallen (fewer h.journal few) begun
      exact ⟨rfl, h.down (law.2.2.barred begun) down⟩
    takeUp := fun cause up law _ _ begun => by
      rw [teardowns_takeUp] at begun
      exact absurd ((law.2.2.barred begun).symm.trans up.wanted) (by decide)
    plan := fun delay law fallen few begun => by
      rw [teardowns_plan] at begun
      exact absurd (fallen (fewer (Entry.plan ..).grows few) begun).1 (Option.some_ne_none _)
    breakDown := fun _ law fallen few begun => by
      rw [teardowns_settle?] at begun
      exact absurd (fallen (fewer (Entry.settle? ..).grows few) begun).1 (Option.some_ne_none _) }

/-! ## What a watch asks for -/

/-- The end of a watch leaves no trace, or it asks for one reload. If the link is to be disconnected
when the sink is done with its calls, nothing comes after that reload. -/
theorem watchEnded_asks (quiet : o.Quiet) (nested : Call → Link σ → Link σ) (c : ChannelId)
    (k : Link σ) : (watchEnded o nested c k).journal = k.journal ∨
      k.state.isDown = false ∧ ∃ s m refusal after,
        m = occur o nested (.publishing .reload) (((k.count .loss).amid s).count .reload) ∧
        (watchEnded o nested c k).journal = m.journal ++ .published .reload refusal :: after ∧
        (m.disconnected = true → after.any Act.revives = false) := by
  unfold watchEnded
  split
  next slot =>
    have loses : Loses (fun occasion l l' => l' = occur o nested occasion l) k
        (reportLoss o nested k) :=
      loses_reportLoss (R := fun occasion l l' => l' = occur o nested occasion l)
        (fun _ _ => rfl) quiet k
    have restarted : ∀ (m : Link σ) (j : Job), ∃ acts,
        ((m.drop.setOut false).spawn j).journal = m.journal ++ acts :=
      fun m j => ⟨_, (((Entry.drop m).trans (.setOut _ false)).trans (.spawn _ j)).journal⟩
    have dropped : ∀ (m : Link σ) (t : Ticket), ∃ acts,
        (m.drop.spawn (.report t)).journal = m.journal ++ acts ∧ acts.any Act.revives = false := by
      intro m t
      refine ⟨_, ((Entry.drop m).trans (.spawn _ _)).journal, ?_⟩
      rw [List.any_append, Act.any_of_traces (by simp) Act.revives_of_isTrace]
      rfl
    generalize reportLoss o nested k = l' at loses
    cases loses with
    | heedless => exact .inl rfl
    | down => exact .inl rfl
    | @restarted m _ up s reloads wanted =>
      obtain ⟨acts, journal⟩ := restarted m (.report (.pending m.ticketCount))
      obtain ⟨rfl, refusal, u⟩ := reloads
      exact .inr ⟨up, s, _, refusal, acts, rfl, journal.trans (List.append_assoc ..),
        fun barred => absurd (barred.symm.trans wanted) (by decide)⟩
    | @dropped m _ up s reloads barred =>
      obtain ⟨acts, journal, still⟩ := dropped m (.settled (.ok .disconnected))
      obtain ⟨rfl, refusal, u⟩ := reloads
      exact .inr ⟨up, s, _, refusal, acts, rfl, journal.trans (List.append_assoc ..),
        fun _ => still⟩
  next => exact .inl rfl

/-- The end of a watch leaves no trace on a link that is down. -/
theorem step_lost_down (quiet : o.Quiet) (depth : Nat) {id : JobId}
    (down : l.state.isDown = true) : (step o depth (.lost id) l).journal = l.journal := by
  dsimp only [step, stepWith]
  split
  next c job =>
    obtain still | ⟨up, -⟩ := watchEnded_asks quiet (Link.nested o depth) c (l.finish id)
    · exact still
    · exact absurd (down.symm.trans up) (by decide)
  next => rfl

/-! ## The steps of a teardown -/

theorem closeEnded_journal (quiet : o.Quiet) (depth : Nat) {id : JobId} {c : ChannelId}
    {t : TicketId} (job : l.job? id = some (.teardown (some c) t true)) (failure : Option Fault) :
    ∃ s, step o depth (.closed id failure) l =
      ((l.finish id).drop.settle t (.ok .disconnected)).amid s := by
  obtain ⟨s, hs⟩ := closeEnded_eq (Link.nested o depth) quiet t failure (l.finish id)
  refine ⟨s, ?_⟩
  simp only [step, stepWith, job]
  exact hs

/-- When its channel is closed, a teardown settles its notice and leaves the link at rest. -/
theorem step_closed (quiet : o.Quiet) (depth : Nat) (barred : l.disconnected = true) {id : JobId}
    {c : ChannelId} {t : TicketId} (job : l.job? id = some (.teardown (some c) t true))
    (failure : Option Fault) :
    .settled t (.ok .disconnected) ∈ (step o depth (.closed id failure) l).journal ∧
      Rests (step o depth (.closed id failure) l).journal
        (step o depth (.closed id failure) l) := by
  obtain ⟨s, hs⟩ := closeEnded_journal (o := o) quiet depth job failure
  rw [hs]
  refine ⟨List.mem_append_right _ (List.mem_singleton.mpr rfl), ?_, state_drop _, ?_, [],
    (List.append_nil _).symm, rfl⟩
  · show (Link.drop _).disconnected = true
    rw [drop_eq]
    exact barred
  · show (Link.drop _).channel = none
    rw [drop_eq]

/-- A teardown goes on without asking for a reload or for an attempt. -/
theorem step_teardown_still (quiet : o.Quiet) (depth : Nat) (recorded : Recorded l) {id : JobId}
    {c : ChannelId} {t : TicketId} (begun : .spawned id (.teardown (some c) t false) ∈ l.journal)
    {s : Step σ} (own : s = .start id ∨ ∃ failure, s = .closed id failure) :
    ∃ acts, (step o depth s l).journal = l.journal ++ acts ∧ acts.any Act.revives = false := by
  have idle : ∃ acts, l.journal = l.journal ++ acts ∧ acts.any Act.revives = false :=
    ⟨[], (List.append_nil _).symm, rfl⟩
  cases job : l.job? id with
  | none =>
    obtain rfl | ⟨failure, rfl⟩ := own
    · exact (step_missing job .start).symm ▸ idle
    · exact (step_missing job (.closed failure)).symm ▸ idle
  | some j =>
    obtain ⟨before, after, jobs, -⟩ := List.lookup_eq_some_iff.mp job
    obtain ⟨j₀, spawned, becomes⟩ := recorded.origin (id, j) (by simp [jobs])
    obtain rfl := recorded.unique begun spawned
    obtain rfl | ⟨failure, rfl⟩ := own
    · cases becomes with
      | same =>
        refine ⟨[.closing c], ?_, rfl⟩
        simp only [step, stepWith, start, job]
        rfl
      | tearing =>
        simp only [step, stepWith, start, job]
        exact idle
    · cases becomes with
      | same =>
        simp only [step, stepWith, job]
        exact idle
      | tearing =>
        obtain ⟨s, hs⟩ := closeEnded_journal (o := o) quiet depth job failure
        refine ⟨_, (congrArg journal hs).trans (journal_toreDown l id t), ?_⟩
        exact Act.any_of_traces (by simp [Act.isTraceBut, Act.trace?]) Act.revives_of_isTrace

section Run

variable (quiet : o.Quiet) (depth : Nat) {steps : List (Step σ)}
  (ordinary : ∀ s ∈ steps, s.Ordinary) {start : Link σ}
include quiet ordinary

/-- A teardown that was created is pending, or there was a step in which its channel was closed. -/
theorem teardown_run (numbered : Numbered start) {id : JobId} {c : ChannelId} {t : TicketId}
    (fresh : .spawned id (.teardown (some c) t false) ∉ start.journal)
    (begun : .spawned id (.teardown (some c) t false) ∈ (run o depth steps start).journal) :
    (∃ closing, (run o depth steps start).job? id = some (.teardown (some c) t closing)) ∨
      ∃ before failure after, steps = before ++ .closed id failure :: after ∧
        (run o depth before start).job? id = some (.teardown (some c) t true) := by
  induction steps using List.reverseRecOn with
  | nil => exact absurd begun fresh
  | append_singleton steps s ih =>
    have early : ∀ s ∈ steps, s.Ordinary := fun s hs => ordinary s (List.mem_append_left _ hs)
    have last : s.Ordinary := ordinary s (List.mem_append_right _ (List.mem_singleton.mpr rfl))
    have named : Numbered (run o depth (steps ++ [s]) start) :=
      (numbered_kept o).run quiet depth ordinary numbered
    rw [run_append] at begun named ⊢
    obtain there | now := step_spawns o depth named begun
    · obtain ⟨closing, pending⟩ | ⟨before, failure, after, rfl, job⟩ := ih early there
      · obtain still | ⟨rfl, failure, rfl⟩ := step_teardown o depth last pending
        · exact .inl still
        · exact .inr ⟨steps, failure, [], rfl, pending⟩
      · exact .inr ⟨before, failure, after ++ [s], by simp, job⟩
    · exact .inl ⟨false, now⟩

omit ordinary in
/-- The step in which the channel of a teardown is closed settles the notice, which is not settled
again, and leaves the link at rest for as long as it runs. -/
theorem closed_run {before after : List (Step σ)} {id : JobId} {failure : Option Fault}
    (ordinary : ∀ s ∈ before ++ .closed id failure :: after, s.Ordinary)
    (custody : Custody none start) (barred : (run o depth before start).disconnected = true)
    {c : ChannelId} {t : TicketId}
    (job : (run o depth before start).job? id = some (.teardown (some c) t true)) :
    (run o depth before start).outcomes t = [] ∧
      (run o depth (before ++ [.closed id failure]) start).outcomes t = [.ok .disconnected] ∧
      (run o depth (before ++ .closed id failure :: after) start).outcomes t = [.ok .disconnected] ∧
      ∀ later, later <+: after →
        Rests (run o depth (before ++ [.closed id failure]) start).journal
          (run o depth (before ++ .closed id failure :: later) start) := by
  have early : ∀ s ∈ before, s.Ordinary := fun s hs => ordinary s (List.mem_append_left _ hs)
  have upTo : ∀ s ∈ before ++ [.closed id failure], s.Ordinary :=
    List.forall_mem_append.mpr ⟨early, List.forall_mem_singleton.mpr trivial⟩
  have late : ∀ s ∈ after, s.Ordinary := fun s hs =>
    ordinary s (List.mem_append_right _ (List.mem_cons_of_mem _ hs))
  have kept : ∀ {steps : List (Step σ)}, (∀ s ∈ steps, s.Ordinary) →
      Custody none (run o depth steps start) := fun ordinary =>
    (custody_kept o).run quiet depth ordinary custody
  have onward : ∀ later, run o depth (before ++ .closed id failure :: later) start =
      run o depth later (run o depth (before ++ [.closed id failure]) start) := fun later => by
    rw [List.append_cons, run_append]
  have now : run o depth (before ++ [.closed id failure]) start =
      step o depth (.closed id failure) (run o depth before start) := run_append ..
  obtain ⟨settled, rests⟩ := step_closed quiet depth barred job failure
  rw [← now] at settled rests
  have stays : .settled t (.ok .disconnected) ∈
      (run o depth (before ++ .closed id failure :: after) start).journal := by
    rw [onward after]
    exact ((journal_kept o _).run quiet depth late List.prefix_rfl).subset settled
  refine ⟨(kept early).outcomes_eq_nil (mem_jobs job) (decide_eq_true rfl),
    (kept upTo).outcomes_eq_singleton settled, (kept ordinary).outcomes_eq_singleton stays,
    fun later grown => ?_⟩
  rw [onward later]
  exact ((rests_kept o _).run quiet depth (fun s hs => late s (grown.subset hs)) ⟨rfl, rests⟩).2

end Run

/-- **A graceful disconnect completes once.** A disconnect answers with a ticket exactly if it found
the link connected, and otherwise with a state that is down; the ticket goes with a teardown. There
is at most one teardown in a run. It was created by a call of disconnect that found the link
connected, for the channel that was installed, and one of two things holds. It is still pending, and
the notice is not settled. Or there was one step in which the closing of that channel came to its
end, well or badly: the notice was settled in that step and never again, the link was disconnected
and without a channel, and neither its state nor its slot changed any more.

From then on neither a step of the teardown nor the end of a watch asks for a reload or for an
attempt. A watch may be asking for one just when disconnect is called, by the sink: it leaves it at
that. That a watch finds the link down after the disconnect rests on epochs that have not wrapped
round. -/
theorem disconnect_completes (quiet : o.Quiet) (depth : Nat) {steps : List (Step σ)}
    (ordinary : ∀ s ∈ steps, s.Ordinary) (identity : Identity) (environment : Environment)
    (outside : σ) {start l : Link σ} (new : start = .new identity environment outside)
    (reached : l = run o depth steps start) :
    (∀ (nested : Call → Link σ → Link σ) (k : Link σ),
      (k.state = .connected →
        (∃ s, disconnect o nested k = (.pending k.ticketCount, k.hangUp.amid s)) ∧
          .spawned k.jobCount (.teardown k.channel k.ticketCount false) ∈ k.hangUp.journal) ∧
      (k.state ≠ .connected → ∃ down s, down.isDown = true ∧
        disconnect o nested k = (.settled (.ok down), k.hangUp.amid s))) ∧
    l.journal.countP Act.tearsDown ≤ 1 ∧
    (∀ id channel t closing, .spawned id (.teardown channel t closing) ∈ l.journal →
      ∃ c, channel = some c ∧
        (∃ told before after, l.journal = before ++ .called .disconnect ::
            .changed ⟨.connected, .disconnecting⟩ told ::
              .spawned id (.teardown (some c) t false) :: after ∧
          before.foldl Act.fills none = some c) ∧
        ((∃ closing, (id, .teardown (some c) t closing) ∈ l.jobs) ∧ l.outcomes t = [] ∨
          ∃ before failure after k, steps = before ++ .closed id failure :: after ∧
            (run o depth before start).job? id = some (.teardown (some c) t true) ∧
            (run o depth before start).outcomes t = [] ∧
            k = run o depth (before ++ [.closed id failure]) start ∧
            k.outcomes t = [.ok .disconnected] ∧ l.outcomes t = [.ok .disconnected] ∧
            ∀ later, later <+: after →
              Rests k.journal (run o depth (before ++ .closed id failure :: later) start))) ∧
    (∀ early s late id channel t closing, steps = early ++ s :: late →
      .spawned id (.teardown channel t closing) ∈ (run o depth early start).journal →
      (s = .start id ∨ (∃ failure, s = .closed id failure) →
        ∃ acts, (run o depth (early ++ [s]) start).journal =
          (run o depth early start).journal ++ acts ∧ acts.any Act.revives = false) ∧
      (∀ watch, s = .lost watch → (run o depth early start).chains < UInt64.size →
        (run o depth (early ++ [s]) start).journal = (run o depth early start).journal)) ∧
    ∀ (nested : Call → Link σ → Link σ) (c : ChannelId) (k : Link σ),
      (watchEnded o nested c k).journal = k.journal ∨
        k.state.isDown = false ∧ ∃ s m refusal after,
          m = occur o nested (.publishing .reload) (((k.count .loss).amid s).count .reload) ∧
          (watchEnded o nested c k).journal = m.journal ++ .published .reload refusal :: after ∧
          (m.disconnected = true → after.any Act.revives = false) := by
  subst reached
  have fallen : ∀ {steps : List (Step σ)}, (∀ s ∈ steps, s.Ordinary) → _ := fun {steps} ordinary =>
    (fallen_kept o).run quiet depth ordinary (l := start)
      (new ▸ ⟨⟨⟨.new .., fun _ => .new ..⟩, ⟨rfl, rfl⟩, .new ..⟩, fun _ => nofun⟩)
  have recorded : ∀ {steps : List (Step σ)}, (∀ s ∈ steps, s.Ordinary) →
      Recorded (run o depth steps start) := fun ordinary =>
    ((recorded_kept o).run quiet depth ordinary (new ▸ ⟨.new .., .new ..⟩)).2
  have unsettled : Custody none start := new ▸ .new ..
  refine ⟨fun nested k => ⟨fun connected => ⟨(disconnect_answer quiet nested k).1 connected,
    spawned_hangUp connected⟩, (disconnect_answer quiet nested k).2⟩, ?_, ?_, ?_,
    fun nested c k => watchEnded_asks quiet nested c k⟩
  · refine Nat.le_trans (fallen ordinary).1.2.2.once ?_
    split <;> decide
  · intro id channel t closing spawned
    obtain ⟨c, t', told, first, rest, form, journal, slot⟩ :=
      (fallen ordinary).1.2.2.graceful id _ spawned rfl
    obtain ⟨rfl, rfl, rfl⟩ := Job.teardown.inj form
    refine ⟨c, rfl, ⟨told, first, rest, journal, slot⟩, ?_⟩
    obtain ⟨closing, pending⟩ | ⟨before, failure, after, rfl, job⟩ :=
      teardown_run quiet depth ordinary (new ▸ .new ..) (new ▸ nofun) spawned
    · have mem := mem_jobs pending
      have custody : Custody none (run o depth steps start) :=
        (custody_kept o).run quiet depth ordinary unsettled
      exact .inl ⟨⟨closing, mem⟩, custody.outcomes_eq_nil mem (decide_eq_true rfl)⟩
    · have early : ∀ s ∈ before, s.Ordinary := fun s hs => ordinary s (List.mem_append_left _ hs)
      have barred := (fallen early).1.2.2.barred_of_job (recorded early) job
      obtain ⟨notYet, once, still, rests⟩ := closed_run quiet depth ordinary unsettled barred job
      exact .inr ⟨before, failure, after, _, rfl, job, notYet, rfl, once, still, rests⟩
  · intro early s late id channel t closing split spawned
    subst split
    have before : ∀ s ∈ early, s.Ordinary := fun s hs => ordinary s (List.mem_append_left _ hs)
    have torn := (fallen before).1.2.2
    have now : run o depth (early ++ [s]) start = step o depth s (run o depth early start) :=
      run_append ..
    rw [now]
    refine ⟨fun own => ?_, ?_⟩
    · obtain ⟨c, t', -, -, -, form, -⟩ := torn.graceful id _ spawned rfl
      obtain ⟨rfl, rfl, rfl⟩ := Job.teardown.inj form
      exact step_teardown_still quiet depth (recorded before) spawned own
    · rintro watch rfl few
      have begun : 0 < (run o depth early start).journal.countP Act.tearsDown :=
        List.countP_pos_iff.mpr ⟨_, spawned, rfl⟩
      exact step_lost_down quiet depth ((fallen before).2 few begun).2

/-- A link loses its channel, and is disconnected by the sink that it asks for a reload. The
teardown is begun while the watch ends, and settled when the channel is closed, badly. -/
theorem disconnect_completes_bereft :
    let steps : List (Step Unit) := [.call .connect, .start 0, .answer 0 (.ok 7), .lost 1, .start 2,
      .closed 2 (some .notConnected), .call .connect]
    let l := run .reluctant 2 steps .sample
    .spawned 2 (.teardown (some 7) 1 false) ∈ l.journal ∧
      ∃ before failure after, steps = before ++ .closed 2 failure :: after ∧
        (run .reluctant 2 before .sample).outcomes 1 = [] ∧ l.outcomes 1 = [.ok .disconnected] := by
  intro steps l
  have ordinary : ∀ s ∈ steps, s.Ordinary := by simp [steps, Step.Ordinary]
  have begun : .spawned 2 (.teardown (some 7) 1 false) ∈ l.journal := by decide
  have settled : l.outcomes 1 ≠ [] := by decide
  obtain ⟨-, -, told, -⟩ := disconnect_completes (l := l) (o := .reluctant) (fun _ _ => rfl) 2
    ordinary _ _ () rfl rfl
  obtain ⟨c, same, -, ⟨-, none⟩ | ⟨before, failure, after, k, split, -, notYet, -, -, once, -⟩⟩ :=
    told 2 _ 1 false begun
  · exact absurd none settled
  · exact ⟨begun, before, failure, after, split, notYet, once⟩

end Link

end NodeLink
