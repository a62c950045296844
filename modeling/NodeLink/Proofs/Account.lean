import NodeLink.Proofs.Invariant

/-!
# The journal accounts for the link

Laws about what a link does are stated about its journal. They would say little if the state or the
slot could change without a word in the journal. They cannot: the state is the target of the last
change that the journal tells of, and the slot holds what was last put into it.
-/

set_option autoImplicit false

namespace NodeLink

open Lifecycle (State Machine)

/-- The state after an act. -/
def Act.leads (s : State) : Act → State
  | .changed c _ => c.target
  | _ => s

/-- What the slot holds after an act. -/
def Act.fills (slot : Option ChannelId) : Act → Option ChannelId
  | .installed c => some c
  | .cleared _ => none
  | _ => slot

@[simp] theorem Act.leads_of_traces {acts : List Act}
    (traces : acts.all (Act.isTraceBut [.state]) = true) (s : State) : acts.foldl Act.leads s = s :=
  Act.foldl_of_traces traces (fun a trace s => by cases a <;> first | rfl | cases trace) s

@[simp] theorem Act.fills_of_traces {acts : List Act}
    (traces : acts.all (Act.isTraceBut [.slot]) = true) (slot : Option ChannelId) :
    acts.foldl Act.fills slot = slot :=
  Act.foldl_of_traces traces (fun a trace slot => by cases a <;> first | rfl | cases trace) slot

namespace Link

variable {σ : Type} {o : Surroundings σ}

section Acts

variable (l : Link σ)

@[simp] theorem leads_passage (next : State) {s : State} (same : l.state = s) :
    (l.passage next).foldl Act.leads s = next := by
  unfold passage
  split
  next there => exact same.symm.trans there
  next => rfl

@[simp] theorem fills_emptying : l.emptying.foldl Act.fills l.channel = none := by
  unfold emptying
  cases l.channel <;> rfl

@[simp] theorem fills_yielding (answer : Except Fault ChannelId) :
    (l.yielding answer).foldl Act.fills l.channel = (l.yield answer).channel := by
  cases answer with
  | error f => rfl
  | ok c =>
    by_cases installed : l.channel = some c
    · simp [yielding, yield, installed, Act.fills]
    · simp [yielding, yield, installed]

end Acts

/-- What the journal tells of the state and of the slot is so. -/
structure Account (l : Link σ) : Prop where
  state : l.state = l.journal.foldl Act.leads .disconnected
  channel : l.channel = l.journal.foldl Act.fills none

namespace Account

variable {l l' : Link σ} {acts : List Act}

/-- Acts may follow that account for what becomes of the state and of the slot. -/
theorem entry (account : Account l) (entry : Entry acts l l')
    (state : l'.state = acts.foldl Act.leads l.state)
    (channel : l'.channel = acts.foldl Act.fills l.channel) : Account l' where
  state := by rw [entry.journal, List.foldl_append, ← account.state, state]
  channel := by rw [entry.journal, List.foldl_append, ← account.channel, channel]

theorem setOut (account : Account l) (bootstrap : Bool) : Account (l.setOut bootstrap) := by
  refine account.entry (.setOut l bootstrap) ?_ ?_ <;> rw [setOut_eq]
  · exact (Machine.current_transition _ _).trans (by simp [settingOut, Act.leads])
  · simp [settingOut, Act.fills]

theorem drop (account : Account l) : Account l.drop := by
  refine account.entry (.drop l) ?_ ?_ <;> rw [drop_eq]
  · exact (Machine.current_transition _ _).trans (by simp)
  · simp

theorem hangUp (account : Account l) : Account l.hangUp := by
  cases h : l.state with
  | disconnected | disconnecting =>
    simp only [Link.hangUp, h]
    exact ⟨account.state, account.channel⟩
  | connecting =>
    have barred : Account l.bar := ⟨account.state, account.channel⟩
    simp only [Link.hangUp, h]
    exact barred.drop
  | connected =>
    have led : l.hangingUp.foldl Act.leads l.state = .disconnecting := by
      simp only [hangingUp, h]
      simp [h, Act.leads]
    refine account.entry (.hangUp l) (led ▸ ?_) ?_ <;>
      simp only [Link.hangUp, hangingUp, h, shift_eq, bar, issue, spawn, note]
    · exact Machine.current_transition _ _
    · simp [Act.fills]

theorem undo (account : Account l) (ticket : Option TicketId) (answer : Except Fault ChannelId) :
    Account (l.undo ticket answer) := by
  refine account.entry (.undo l ticket answer) ?_ ?_ <;> rw [undo_eq]
  · exact (Machine.current_transition _ _).trans (by simp)
  · simp

theorem turnAway (account : Account l) (ticket : Option TicketId)
    (answer : Except Fault ChannelId) : Account (l.turnAway ticket answer) := by
  refine account.entry (.turnAway l ticket answer) ?_ ?_ <;> rw [turnAway_eq]
  · simp [Link.state]
  · simp

theorem putToUse (account : Account l) (ticket : Option TicketId) (c : ChannelId) :
    Account (l.putToUse ticket c) := by
  refine account.entry (.putToUse l ticket c) ?_ ?_ <;> rw [putToUse_eq]
  · exact (Machine.current_transition _ _).trans (by simp [Act.leads])
  · simp [Act.fills]

theorem giveUp (account : Account l) (ticket : Option TicketId) (cause : Fault) :
    Account (l.giveUp ticket cause) := by
  refine account.entry (.giveUp l ticket cause) ?_ ?_ <;> rw [giveUp_eq]
  · exact (Machine.current_transition _ _).trans (by simp)
  · simp

theorem settle? (account : Account l) (ticket : Option TicketId) (outcome : Outcome) :
    Account (l.settle? ticket outcome) := by
  refine account.entry (.settle? l ticket outcome) ?_ ?_ <;> rw [settle?_eq]
  · simp [Link.state]
  · simp

theorem takeUp (account : Account l) (ticket : Option TicketId) (bootstrap : Bool) (cause : Fault) :
    Account (l.takeUp ticket bootstrap cause) := by
  unfold Link.takeUp
  split
  · exact account.giveUp ticket cause
  · split
    · exact account.settle? ticket (.error cause)
    · exact account

theorem plan (account : Account l) (delay : Nat) (epoch : UInt64) (ticket : Option TicketId) :
    Account (l.plan delay epoch ticket) := by
  refine account.entry (.plan l delay epoch ticket) ?_ ?_ <;> rw [plan_eq]
  · exact (Machine.current_transition _ _).trans (by simp [Act.leads])
  · simp [Act.fills]

theorem stroke (h : Stroke l l') (account : Account l) : Account l' := by
  cases h with
  | drifted | counted | marked => exact ⟨account.state, account.channel⟩
  | attended current => exact ⟨current.trans account.state, account.channel⟩
  | @noted a plain =>
    refine account.entry (.note l ?_) ?_ ?_ <;> cases a <;> first | rfl | cases plain
  | returned | ignored => exact account.entry (.note l rfl) rfl rfl
  | @spawned j => exact account.entry (.spawn l j) rfl rfl
  | opened => exact (account.entry (.note l rfl) rfl rfl).setOut true
  | restarted => exact account.drop.setOut false
  | dropped => exact account.drop
  | hungUp => exact (account.entry (.note l rfl) rfl rfl).hangUp

theorem turn {s : Step σ} (h : Turn s l l') (account : Account l) : Account l' := by
  have finished : ∀ id, Account (l.finish id) := fun _ => ⟨account.state, account.channel⟩
  have taken : ∀ id answer, Account (l.take id answer) :=
    fun id answer => (finished id).entry (.take l id answer) rfl rfl
  cases h with
  | @dialed _ id | @redialed _ id | @tearing _ id | @cleaning _ id =>
    have gone : ∀ j, Account (l.become id j) := fun _ => ⟨account.state, account.channel⟩
    exact (gone _).entry (.note _ rfl) rfl rfl
  | @abandoned _ id => exact (finished id).hangUp
  | @ended _ _ id => exact finished id
  | @toreDown _ _ id => exact (finished id).drop.entry (.note _ rfl) rfl rfl
  | @turnedAway _ id ticket _ _ _ _ answer => exact (taken id answer).turnAway ticket answer
  | @undone _ id ticket _ _ _ _ _ answer => exact (taken id answer).undo ticket answer
  | @succeeded _ id ticket _ _ _ _ _ _ c => exact (taken id (.ok c)).putToUse ticket c
  | @collided _ id ticket _ _ _ _ _ _ c =>
    exact ((taken id (.ok c)).entry (.install _ c) rfl rfl).undo ticket (.ok c)
  | @gaveUp _ id ticket _ _ _ _ _ _ _ cause => exact (taken id (.error cause)).giveUp ticket cause

end Account

/-- After every run the journal accounts for the state and for the slot. -/
theorem account_kept (o : Surroundings σ) : Kept o fun _ l => Account l where
  stroke := Account.stroke
  turn := Account.turn
  takeUp {l id ticket bootstrap _} cause _ account := by
    have finished : Account (l.finish id) := ⟨account.state, account.channel⟩
    have taken := finished.entry (.take l id (.error cause)) rfl rfl
    have told := taken.takeUp ticket bootstrap cause
    exact told.entry (.consult _) rfl rfl
  plan delay account := account.plan delay _ _
  breakDown _ account := account.settle? _ _

end Link

end NodeLink
