import NodeLink.Proofs.Invariant

/-!
# Tickets and attempts are not lost

A ticket is handed out with a job that is to settle its notice, an attempt or a teardown, and it
stays with one job until the notice is settled. This is the law of *custody*. While a retry is
being planned, the ticket of the failed attempt may be in hand.

Attempts are not lost either: an attempt that was created is pending until the connector's answer
is taken.
-/

set_option autoImplicit false

namespace NodeLink

open Lifecycle (State)

/-- Whether a job is to settle the notice of a ticket. -/
def Job.owns (t : TicketId) : Job → Bool
  | .attempt ticket _ _ _ => ticket = some t
  | .teardown _ ticket _ => ticket = t
  | _ => false

/-- The outcome that an act gives to the notice of a ticket. -/
def Act.outcome? (t : TicketId) : Act → Option Outcome
  | .settled ticket outcome => if ticket = t then some outcome else none
  | _ => none

namespace Link

variable {σ : Type} {o : Surroundings σ}

/-- The outcomes that were given to the notice of a ticket, oldest first. -/
def outcomes (l : Link σ) (t : TicketId) : List Outcome := l.journal.filterMap (Act.outcome? t)

/-- How often a ticket is with a job or was settled. -/
def places (l : Link σ) (t : TicketId) : Nat :=
  l.jobs.countP (·.2.owns t) + (l.outcomes t).length

/-- How often acts hand out a ticket or settle its notice. -/
def placing (t : TicketId) (acts : List Act) : Nat :=
  (acts.filterMap Act.creation?).countP (·.2.owns t) + (acts.filterMap (Act.outcome? t)).length

/-! ## What acts do to tickets -/

section Placing

variable (l : Link σ) (t : TicketId)

@[simp] theorem outcome_of_traces {acts : List Act}
    (traces : acts.all (Act.isTraceBut [.notice]) = true) :
    acts.filterMap (Act.outcome? t) = [] :=
  Act.filterMap_of_traces traces fun a trace => by cases a <;> first | rfl | cases trace

@[simp] theorem outcome_settling (ticket : Option TicketId) (outcome : Outcome) :
    (settling ticket outcome).filterMap (Act.outcome? t) =
      if ticket = some t then [outcome] else [] := by
  cases ticket with
  | none => rfl
  | some id => by_cases same : id = t <;> simp [settling, Act.outcome?, same]

@[simp] theorem placing_answered (id : JobId) (answer : Except Fault ChannelId) (acts : List Act) :
    placing t (.answered id answer :: acts) = placing t acts := rfl

@[simp] theorem placing_installed (c : ChannelId) (acts : List Act) :
    placing t (.installed c :: acts) = placing t acts := rfl

@[simp] theorem placing_consulted (attempt : UInt64) (acts : List Act) :
    placing t (.consulted attempt :: acts) = placing t acts := rfl

@[simp] theorem placing_nil : placing t [] = 0 := rfl

@[simp] theorem placing_spawned (id : JobId) (j : Job) (acts : List Act) :
    placing t (.spawned id j :: acts) = placing t acts + if j.owns t then 1 else 0 := by
  cases h : j.owns t <;> simp [placing, List.filterMap_cons, Act.creation?, Act.outcome?, h]
  omega

@[simp] theorem placing_settled (ticket : TicketId) (outcome : Outcome) (acts : List Act) :
    placing t (.settled ticket outcome :: acts) = placing t acts + if ticket = t then 1 else 0 := by
  by_cases same : ticket = t <;>
    simp [placing, List.filterMap_cons, Act.creation?, Act.outcome?, same]
  omega

@[simp] theorem placing_append (acts more : List Act) :
    placing t (acts ++ more) = placing t acts + placing t more := by
  simp only [placing, List.filterMap_append, List.countP_append, List.length_append]
  omega

@[simp] theorem placing_of_traces {acts : List Act}
    (traces : acts.all (Act.isTraceBut [.notice, .teardown]) = true) : placing t acts = 0 := by
  have settled : acts.filterMap (Act.outcome? t) = [] :=
    Act.filterMap_of_traces traces fun a trace => by cases a <;> first | rfl | cases trace
  have owned : (acts.filterMap Act.creation?).countP (·.2.owns t) = 0 := by
    rw [List.countP_filterMap]
    exact Act.countP_of_traces traces fun a trace => by
      cases a with
      | spawned id j => cases j <;> first | rfl | cases trace
      | _ => rfl
  rw [placing, settled, owned]
  rfl

@[simp] theorem placing_settling (ticket : Option TicketId) (outcome : Outcome) :
    placing t (settling ticket outcome) = if ticket = some t then 1 else 0 := by
  by_cases same : ticket = some t <;> simp [placing, same]

end Placing

theorem Entry.places {l l' : Link σ} {acts : List Act} (entry : Entry acts l l') (t : TicketId) :
    l'.places t = l.places t + placing t acts := by
  simp only [Link.places, placing, outcomes, entry.jobs, entry.journal, List.countP_append,
    List.filterMap_append, List.length_append]
  omega

section Jobs

variable {l : Link σ} (numbered : Numbered l) {id : JobId} {j : Job} (job : l.job? id = some j)
include numbered job

/-- A job that ends leaves its ticket without a place. -/
theorem places_finish (t : TicketId) :
    l.places t = (l.finish id).places t + if j.owns t then 1 else 0 := by
  have jobs := numbered.countP_finish job (Job.owns t)
  have same : (l.finish id).outcomes t = l.outcomes t := rfl
  rw [places, places, same, jobs]
  omega

theorem places_become {j' : Job} (t : TicketId) (same : j'.owns t = j.owns t) :
    (l.become id j').places t = l.places t := by
  have jobs := numbered.countP_become job j' (Job.owns t)
  rw [same, Nat.add_right_cancel_iff] at jobs
  have unchanged : (l.become id j').outcomes t = l.outcomes t := rfl
  rw [places, places, unchanged, jobs]

end Jobs

/-! ## Custody -/

/-- Each ticket that was handed out is with one job, or in hand, or was settled once. No other
ticket is anywhere. -/
structure Custody (hand : Option Hand) (l : Link σ) : Prop where
  numbered : Numbered l
  balance : ∀ t : Nat, l.places t + (if hand.bind Hand.ticket = some t then 1 else 0) =
    if t < l.ticketCount then 1 else 0

namespace Custody

variable {hand : Option Hand} {l l' : Link σ} {acts : List Act}

theorem new (identity : Identity) (environment : Environment) (outside : σ) :
    Custody none (Link.new identity environment outside) :=
  ⟨.new identity environment outside, fun _ => rfl⟩

/-- Acts that concern no ticket may always follow. -/
theorem entry (custody : Custody hand l) (entry : Entry acts l l') (none : ∀ t, placing t acts = 0)
    (count : l'.ticketCount = l.ticketCount) : Custody hand l' := by
  refine ⟨custody.numbered.entry entry, fun t => ?_⟩
  rw [entry.places, none t, count]
  exact custody.balance t

/-- The next ticket is handed out together with a job. -/
theorem issue (custody : Custody hand l) (entry : Entry acts l l')
    (one : ∀ t : Nat, placing t acts = if l.ticketCount = t then 1 else 0)
    (count : l'.ticketCount = l.ticketCount + 1) : Custody hand l' := by
  refine ⟨custody.numbered.entry entry, fun t => ?_⟩
  have balance := custody.balance t
  rw [entry.places, one t, count]
  split at balance <;> split at balance <;> split <;> split <;> omega

theorem setOut (custody : Custody hand l) (bootstrap : Bool) :
    Custody hand (l.setOut bootstrap) := by
  refine custody.issue (.setOut l bootstrap) (fun t => ?_) (by rw [setOut_eq])
  simp [settingOut, Job.owns]

theorem hangUp (custody : Custody hand l) : Custody hand l.hangUp := by
  have made := Entry.hangUp l
  cases h : l.state with
  | disconnected | disconnecting =>
    simp only [hangingUp, h] at made
    exact custody.entry made (fun _ => rfl) (by simp only [Link.hangUp, h, bar])
  | connecting =>
    simp only [hangingUp, h] at made
    exact custody.entry made (by simp) (by simp only [Link.hangUp, h, drop_eq, bar])
  | connected =>
    simp only [hangingUp, h] at made
    refine custody.issue made (fun t => ?_) ?_
    · simp [Job.owns]
    · simp only [Link.hangUp, h, bar, shift_eq, Link.issue, spawn, note]

theorem stroke (h : Stroke l l') (custody : Custody hand l) : Custody hand l' := by
  cases h with
  | drifted | counted | marked | attended =>
    exact custody.entry (.silent (List.append_nil _).symm rfl rfl rfl) (fun _ => rfl) rfl
  | @noted a plain =>
    have none : a.creation? = none := by cases a <;> first | rfl | cases plain
    have idle : ∀ t, a.outcome? t = Option.none := by
      intro t
      cases a <;> first | rfl | cases plain
    exact custody.entry (.note l none) (fun t => by simp [placing, none, idle]) rfl
  | returned | ignored => exact custody.entry (.note l rfl) (fun _ => rfl) rfl
  | @spawned j idle =>
    refine custody.entry (.spawn l j) (fun t => ?_) rfl
    have other : j.owns t = false := by cases j <;> first | rfl | cases idle
    simp [other]
  | opened => exact (custody.entry (.note l rfl) (fun _ => rfl) rfl).setOut true
  | restarted => exact (custody.entry (.drop l) (by simp) (by rw [drop_eq])).setOut false
  | dropped => exact custody.entry (.drop l) (by simp) (by rw [drop_eq])
  | hungUp => exact (custody.entry (.note l rfl) (fun _ => rfl) rfl).hangUp

/-- A job that has no ticket may end. -/
theorem finish (custody : Custody hand l) {id : JobId} {j : Job} (job : l.job? id = some j)
    (none : ∀ t, j.owns t = false) : Custody hand (l.finish id) := by
  refine ⟨custody.numbered.finish id, fun t => ?_⟩
  have balance := custody.balance t
  rw [places_finish custody.numbered job, none t] at balance
  exact balance

/-- A job may go on with the ticket it has. -/
theorem goOn (custody : Custody hand l) {id : JobId} {j j' : Job} {a : Act}
    (job : l.job? id = some j) (same : ∀ t, j'.owns t = j.owns t) (none : a.creation? = none)
    (idle : ∀ t, placing t [a] = 0) : Custody hand ((l.become id j').note a) := by
  have gone : Custody hand (l.become id j') := by
    refine ⟨custody.numbered.become id j', fun t => ?_⟩
    rw [places_become custody.numbered job t (same t)]
    exact custody.balance t
  exact gone.entry (.note _ none) idle rfl

/-- A job that has a ticket ends when it is settled, or when it is taken in hand. -/
theorem pass (custody : Custody none l) {id : JobId} {j : Job} (job : l.job? id = some j)
    (entry : Entry acts (l.finish id) l') (count : l'.ticketCount = l.ticketCount)
    (given : ∀ t, placing t acts + (if hand.bind Hand.ticket = some t then 1 else 0) =
      if j.owns t then 1 else 0) : Custody hand l' := by
  refine ⟨(custody.numbered.finish id).entry entry, fun t => ?_⟩
  have balance : l.places t = if t < l.ticketCount then 1 else 0 := custody.balance t
  have given := given t
  rw [places_finish custody.numbered job] at balance
  rw [entry.places, count, ← balance]
  omega

/-- What is in hand is settled. -/
theorem release {h : Hand} (custody : Custody (some h) l) (entry : Entry acts l l')
    (count : l'.ticketCount = l.ticketCount)
    (given : ∀ t, placing t acts = if h.ticket = some t then 1 else 0) : Custody none l' := by
  refine ⟨custody.numbered.entry entry, fun t => ?_⟩
  have balance := custody.balance t
  rw [entry.places, given t, count]
  exact balance

theorem turn {s : Step σ} (h : Turn s l l') (custody : Custody none l) : Custody none l' := by
  cases h with
  | dialed _ job | redialed _ job | tearing _ job | cleaning _ job =>
    exact custody.goOn job (fun _ => rfl) rfl fun _ => rfl
  | abandoned _ job => exact (custody.finish job fun _ => rfl).hangUp
  | @toreDown _ _ id c ticket job =>
    refine custody.pass job ((Entry.drop _).trans (.note _ rfl)) (by simp only [drop_eq]; rfl)
      fun t => ?_
    simp [Job.owns]
  | @ended _ _ id j job ending =>
    refine custody.finish job fun t => ?_
    cases j <;> first | rfl | cases ending
  | @turnedAway _ id ticket _ _ job _ answer =>
    refine custody.pass job ((Entry.take l id answer).trans (.turnAway _ ticket answer))
      (by rw [turnAway_eq]; rfl) fun t => ?_
    simp [Job.owns]
  | @undone _ id ticket _ _ job _ _ answer =>
    refine custody.pass job ((Entry.take l id answer).trans (.undo _ ticket answer))
      (by rw [undo_eq]; rfl) fun t => ?_
    simp [Job.owns]
  | @succeeded _ id ticket _ _ job _ _ _ c =>
    refine custody.pass job ((Entry.take l id (.ok c)).trans (.putToUse _ ticket c))
      (by rw [putToUse_eq]; rfl) fun t => ?_
    simp [Job.owns]
  | @collided _ id ticket _ _ job _ _ _ c =>
    refine custody.pass job
      (((Entry.take l id (.ok c)).trans (.install _ c)).trans (.undo _ ticket (.ok c)))
      (by rw [undo_eq]; rfl) fun t => ?_
    simp [Job.owns]
  | @gaveUp _ id ticket _ _ job _ _ _ _ cause =>
    refine custody.pass job ((Entry.take l id (.error cause)).trans (.giveUp _ ticket cause))
      (by rw [giveUp_eq]; rfl) fun t => ?_
    simp [Job.owns]

/-- The ticket of a failed attempt is settled at once, or it is taken in hand. -/
theorem takeUp {id : JobId} {ticket : Option TicketId} {bootstrap : Bool} {epoch : UInt64}
    (cause : Fault) (up : l.TakesUp id ticket bootstrap epoch) (custody : Custody none l) :
    Custody (some ⟨epoch, keptTicket ticket bootstrap cause⟩)
      ((l.take id (.error cause)).takeUp ticket bootstrap cause).consult := by
  refine custody.pass up.job
    ((Entry.take l id (.error cause)).trans (.takeUp _ ticket bootstrap cause))
    (by rw [takeUp_eq]; rfl) fun t => ?_
  by_cases told : cause.isTerminal = true ∨ bootstrap = true
  · have passed : placing t (if cause.isTerminal = true then
        (l.take id (.error cause)).passage .disconnected else []) = 0 := by
      split <;> simp
    simp [passed, keptTicket, told, Job.owns]
  · obtain ⟨known, silent⟩ := not_or.mp told
    simp [keptTicket, known, silent, Job.owns]

/-- A ticket that is with a job is not settled. -/
theorem outcomes_eq_nil (custody : Custody hand l)
    {e : JobId × Job} (pending : e ∈ l.jobs) {t : TicketId} (owns : e.2.owns t = true) :
    l.outcomes t = [] := by
  have held : 0 < l.jobs.countP (·.2.owns t) := List.countP_pos_iff.mpr ⟨e, pending, owns⟩
  have balance := custody.balance t
  have most : (if t < l.ticketCount then 1 else 0) ≤ 1 := by split <;> decide
  rw [places] at balance
  exact List.length_eq_zero_iff.mp (by omega)

/-- A ticket that was settled was settled once. -/
theorem outcomes_eq_singleton (custody : Custody hand l)
    {t : TicketId} {outcome : Outcome} (settled : .settled t outcome ∈ l.journal) :
    l.outcomes t = [outcome] := by
  have mem : outcome ∈ l.outcomes t :=
    List.mem_filterMap.mpr ⟨_, settled, if_pos rfl⟩
  have balance := custody.balance t
  have most : (if t < l.ticketCount then 1 else 0) ≤ 1 := by split <;> decide
  rw [places] at balance
  have short : (l.outcomes t).length ≤ 1 := by omega
  cases h : l.outcomes t with
  | nil => simp [h] at mem
  | cons first rest =>
    rw [h] at mem short
    have none : rest = [] := List.length_eq_zero_iff.mp (by simpa using short)
    rw [none, List.mem_singleton] at mem
    rw [none, mem]

end Custody

/-- Every ticket is in custody after every run. -/
theorem custody_kept (o : Surroundings σ) : Kept o fun hand l => Custody hand l where
  stroke := Custody.stroke
  turn := Custody.turn
  takeUp := Custody.takeUp
  plan {hand l} delay custody := by
    refine custody.release (.plan l delay hand.epoch hand.ticket) (by rw [plan_eq]) fun t => ?_
    simp [Job.owns]
  breakDown {hand l} _ custody :=
    custody.release (.settle? l hand.ticket _) (by rw [settle?_eq]) fun t => by simp

/-- A job that breaks down leaves nobody waiting: the notice of its ticket is settled. -/
theorem Custody.crash {l : Link σ} (custody : Custody none l) (o : Surroundings σ) (depth : Nat)
    (id : JobId) : Custody none (Link.step o depth (.crash id) l) := by
  dsimp only [Link.step, stepWith]
  split
  next j job =>
    refine custody.pass job (.forsake _ j) (by rw [forsake_eq]; rfl) fun t => ?_
    cases j with
    | attempt | teardown => simp [forsaking, Job.owns]
    | _ => rfl
  next => exact custody

/-- Every ticket that was handed out is with one job or was settled once, after every run, and also
where jobs break down. -/
theorem Custody.outlasts {l : Link σ} (custody : Custody none l) (quiet : o.Quiet) (depth : Nat)
    (steps : List (Step σ)) : Custody none (Link.run o depth steps l) :=
  run_keeps (P := Custody none)
    (fun ordinary => (custody_kept o).advance (advance_step quiet depth ordinary _))
    (fun custody => custody.crash o depth _) custody steps

/-! ## Attempts wait for their answer -/

/-- An attempt that was created is pending until it is answered. -/
def Awaited (l : Link σ) : Prop :=
  ∀ id ticket bootstrap epoch, .spawned id (.attempt ticket bootstrap epoch false) ∈ l.journal →
    (∃ dialing, (id, .attempt ticket bootstrap epoch dialing) ∈ l.jobs) ∨
      ∃ answer, .answered id answer ∈ l.journal

namespace Awaited

variable {l l' : Link σ} {acts : List Act}

theorem new (identity : Identity) (environment : Environment) (outside : σ) :
    Awaited (Link.new identity environment outside) :=
  fun _ _ _ _ spawned => absurd spawned List.not_mem_nil

theorem entry (awaited : Awaited l) (entry : Entry acts l l') : Awaited l' := by
  intro id ticket bootstrap epoch spawned
  rw [entry.journal, List.mem_append] at spawned
  simp only [entry.journal, entry.jobs, List.mem_append]
  rcases spawned with old | new
  · rcases awaited id ticket bootstrap epoch old with ⟨dialing, pending⟩ | ⟨answer, answered⟩
    · exact .inl ⟨dialing, .inl pending⟩
    · exact .inr ⟨answer, .inl answered⟩
  · exact .inl ⟨false, .inr (List.mem_filterMap.mpr ⟨_, new, rfl⟩)⟩

/-- A job that is no attempt may end. -/
theorem finish (awaited : Awaited l) (numbered : Numbered l) {id : JobId} {j : Job}
    (job : l.job? id = some j) (other : ∀ ticket bootstrap epoch dialing,
      j ≠ .attempt ticket bootstrap epoch dialing) : Awaited (l.finish id) := by
  intro id' ticket bootstrap epoch spawned
  obtain ⟨before, after, hjobs, hfinish, -⟩ := numbered.split job
  rcases awaited id' ticket bootstrap epoch spawned with ⟨dialing, pending⟩ | answered
  · refine .inl ⟨dialing, ?_⟩
    rw [hjobs, List.mem_append, List.mem_cons] at pending
    rw [hfinish, List.mem_append]
    rcases pending with early | same | late
    · exact .inl early
    · exact (other _ _ _ _ (congrArg Prod.snd same).symm).elim
    · exact .inr late
  · exact .inr answered

/-- An attempt ends when it is answered. -/
theorem take (awaited : Awaited l) (id : JobId) (answer : Except Fault ChannelId) :
    Awaited (l.take id answer) := by
  intro id' ticket bootstrap epoch spawned
  by_cases same : id' = id
  · exact .inr ⟨answer, same ▸ List.mem_append_right _ (List.mem_singleton.mpr rfl)⟩
  · have old : .spawned id' (.attempt ticket bootstrap epoch false) ∈ l.journal := by
      simpa [Link.take, Link.finish, note] using spawned
    rcases awaited id' ticket bootstrap epoch old with ⟨dialing, pending⟩ | ⟨answer', answered⟩
    · exact .inl ⟨dialing, List.mem_filter.mpr ⟨pending, by simpa using same⟩⟩
    · exact .inr ⟨answer', List.mem_append_left _ answered⟩

/-- An attempt that goes on stays the attempt it is. -/
theorem goOn (awaited : Awaited l) (numbered : Numbered l) {id : JobId} {j j' : Job} {a : Act}
    (job : l.job? id = some j) (none : a.creation? = none)
    (same : ∀ ticket bootstrap epoch dialing, j = .attempt ticket bootstrap epoch dialing →
      ∃ dialing, j' = .attempt ticket bootstrap epoch dialing) :
    Awaited ((l.become id j').note a) := by
  have gone : Awaited (l.become id j') := by
    intro id' ticket bootstrap epoch spawned
    obtain ⟨before, after, hjobs, -, hbecome⟩ := numbered.split job
    rcases awaited id' ticket bootstrap epoch spawned with ⟨dialing, pending⟩ | answered
    · rw [hjobs, List.mem_append, List.mem_cons] at pending
      simp only [hbecome j', List.mem_append, List.mem_cons]
      rcases pending with early | here | late
      · exact .inl ⟨dialing, .inl early⟩
      · obtain ⟨rfl, rfl⟩ := Prod.mk.inj here
        obtain ⟨dialing, rfl⟩ := same _ _ _ _ rfl
        exact .inl ⟨dialing, .inr (.inl rfl)⟩
      · exact .inl ⟨dialing, .inr (.inr late)⟩
    · exact .inr answered
  exact gone.entry (.note _ none)

theorem turn {s : Step σ} (h : Turn s l l') (numbered : Numbered l) (awaited : Awaited l) :
    Awaited l' := by
  cases h with
  | dialed _ job =>
    refine awaited.goOn numbered job rfl ?_
    rintro _ _ _ _ ⟨⟩
    exact ⟨true, rfl⟩
  | redialed _ job | tearing _ job | cleaning _ job => exact awaited.goOn numbered job rfl (by simp)
  | abandoned _ job => exact (awaited.finish numbered job (by simp)).entry (.hangUp _)
  | toreDown _ _ job =>
    exact (awaited.finish numbered job (by simp)).entry ((Entry.drop _).trans (.note _ rfl))
  | @ended _ _ _ j job ending =>
    refine awaited.finish numbered job fun ticket bootstrap epoch dialing same => ?_
    rw [same] at ending
    exact ending
  | turnedAway _ _ _ answer => exact (awaited.take _ answer).entry (.turnAway ..)
  | undone _ _ _ _ answer => exact (awaited.take _ answer).entry (.undo ..)
  | succeeded _ _ _ _ _ c => exact (awaited.take _ (.ok c)).entry (.putToUse ..)
  | collided _ _ _ _ _ c =>
    exact ((awaited.take _ (.ok c)).entry (.install ..)).entry (.undo ..)
  | gaveUp _ _ _ _ _ _ cause => exact (awaited.take _ (.error cause)).entry (.giveUp ..)

end Awaited

/-- Attempts wait for their answer in every run. -/
theorem awaited_kept (o : Surroundings σ) : Kept o fun _ l => Numbered l ∧ Awaited l where
  stroke h holds := by
    obtain ⟨acts, entry, -⟩ := h.entry
    exact ⟨holds.1.entry entry, holds.2.entry entry⟩
  turn h holds := ⟨holds.1.turn h, holds.2.turn h holds.1⟩
  takeUp {_ id ticket bootstrap _} cause up holds :=
    ⟨(numbered_kept o).takeUp cause up holds.1,
      (holds.2.take id (.error cause)).entry (.takeUp _ ticket bootstrap cause)⟩
  plan _ holds := ⟨holds.1.entry (.plan ..), holds.2.entry (.plan ..)⟩
  breakDown _ holds := ⟨holds.1.entry (.settle? ..), holds.2.entry (.settle? ..)⟩

end Link

end NodeLink
