import NodeLink.Proofs.Effect

/-!
# Entries in the journal

Whatever a link does is written into its journal, the jobs it creates included. What an operation
adds to the journal is its *entry*. The jobs that are pending afterwards are those that were
pending before and those that the entry creates, under the names that came next. A law that
compares the journal with the pending jobs need not know more of an operation than its entry.

A stroke makes an entry. A turn makes one after its job has ended or gone on.
-/

set_option autoImplicit false

namespace NodeLink

/-- The job that an act creates. -/
def Act.creation? : Act → Option (JobId × Job)
  | .spawned id j => some (id, j)
  | _ => none

/-- Whether an act is done on a call only. No job that goes on does it. -/
def Act.isCall : Act → Bool
  | .called _ | .returned _ | .spawned _ (.attempt ..) => true
  | _ => false

/-- Whether an act is done by a job that goes on. No call does it. -/
def Act.isWork : Act → Bool
  | .answered .. | .installed _ | .dialed .. | .consulted _ | .closing _ | .settled .. => true
  | _ => false

/-- What a trace tells of: the state, the slot, a ticket, or a channel that is to be closed. -/
inductive Trace
  | state
  | slot
  | notice
  | cleanup
  | teardown
deriving DecidableEq

namespace Act

/-- What an act tells of that only tells what became of something. The effects of a link are told by
such traces, but for what is named with them. -/
def trace? : Act → Option Trace
  | .changed .. => some .state
  | .cleared _ => some .slot
  | .settled .. => some .notice
  | .spawned _ (.cleanup ..) => some .cleanup
  | .spawned _ (.teardown ..) => some .teardown
  | _ => none

/-- Whether an act is a trace, and of none of these kinds. -/
def isTraceBut (kinds : List Trace) (a : Act) : Bool := a.trace?.any (!kinds.contains ·)

/-- Whether an act is a trace. -/
abbrev isTrace : Act → Bool := isTraceBut []

section Traces

variable {kinds : List Trace} {acts : List Act} (traces : acts.all (isTraceBut kinds) = true)
include traces

/-- What no trace is, none of some traces is. -/
theorem any_of_traces {p : Act → Bool}
    (other : ∀ a : Act, a.isTraceBut kinds = true → p a = false) : acts.any p = false :=
  List.any_eq_false.mpr fun a mem holds =>
    absurd ((other a (List.all_eq_true.mp traces a mem)).symm.trans holds) nofun

theorem countP_of_traces {p : Act → Bool}
    (other : ∀ a : Act, a.isTraceBut kinds = true → p a = false) : acts.countP p = 0 :=
  List.countP_eq_zero.mpr (List.any_eq_false.mp (any_of_traces traces other))

theorem filterMap_of_traces {α : Type} {f : Act → Option α}
    (other : ∀ a : Act, a.isTraceBut kinds = true → f a = none) : acts.filterMap f = [] :=
  List.filterMap_eq_nil_iff.mpr fun a mem => other a (List.all_eq_true.mp traces a mem)

/-- What traces leave as it is, some traces leave as it is. -/
theorem foldl_of_traces {α : Type} {f : α → Act → α}
    (other : ∀ a : Act, a.isTraceBut kinds = true → ∀ x, f x a = x) (x : α) :
    acts.foldl f x = x := by
  induction acts with
  | nil => rfl
  | cons a acts ih =>
    obtain ⟨here, there⟩ := Bool.and_eq_true_iff.mp traces
    rw [List.foldl_cons, other a here, ih there]

end Traces

@[simp] theorem isCall_of_traces {acts : List Act} (traces : acts.all isTrace = true) :
    acts.any isCall = false :=
  any_of_traces traces fun a trace => by
    cases a with
    | spawned id j => cases j <;> first | rfl | cases trace
    | _ => first | rfl | cases trace

@[simp] theorem isWork_of_traces {acts : List Act}
    (traces : acts.all (isTraceBut [.notice]) = true) : acts.any isWork = false :=
  any_of_traces traces fun a trace => by cases a <;> first | rfl | cases trace

@[simp] theorem creation_of_traces {acts : List Act}
    (traces : acts.all (isTraceBut [.cleanup, .teardown]) = true) :
    acts.filterMap creation? = [] :=
  filterMap_of_traces traces fun a trace => by
    cases a with
    | spawned id j => cases j <;> cases trace
    | _ => rfl

end Act

/-- What a job that was created may have become by now. -/
inductive Job.Becomes : Job → Job → Prop
  | same (j : Job) : Becomes j j
  | dialed (ticket : Option TicketId) (bootstrap : Bool) (epoch : UInt64) :
      Becomes (.attempt ticket bootstrap epoch false) (.attempt ticket bootstrap epoch true)
  | redialed (delay : Nat) (epoch : UInt64) :
      Becomes (.retry delay epoch) (.attempt none false epoch true)
  | tearing (c : ChannelId) (ticket : TicketId) :
      Becomes (.teardown (some c) ticket false) (.teardown (some c) ticket true)
  | cleaning (c : ChannelId) : Becomes (.cleanup c false) (.cleanup c true)

namespace Link

open Lifecycle (State)

variable {σ : Type}

/-! ## The acts of an operation -/

/-- The acts by which a disconnected link starts a chain. -/
def settingOut (l : Link σ) (bootstrap : Bool) : List Act :=
  l.passage .connecting ++
    [.spawned l.jobCount (.attempt (some l.ticketCount) bootstrap (l.epoch + 1) false)]

/-- The acts by which a link disconnects for good. -/
def hangingUp (l : Link σ) : List Act :=
  match l.state with
  | .disconnected | .disconnecting => []
  | .connecting => l.passage .disconnected ++ l.emptying
  | .connected =>
    l.passage .disconnecting ++ [.spawned l.jobCount (.teardown l.channel l.ticketCount false)]

@[simp] theorem mem_passage {l : Link σ} {next : State} {a : Act} :
    a ∈ l.passage next ↔
      l.state ≠ next ∧ a = .changed ⟨l.state, next⟩ (!l.lifecycle.subscribers.isEmpty) := by
  unfold passage
  split
  next same => simp [same]
  next other => simp [other]

@[simp] theorem mem_emptying {l : Link σ} {a : Act} :
    a ∈ l.emptying ↔ ∃ c, l.channel = some c ∧ a = .cleared c := by
  simp [emptying, eq_comm]

@[simp] theorem mem_yielding {l : Link σ} {answer : Except Fault ChannelId} {a : Act} :
    a ∈ l.yielding answer ↔ ∃ c, answer = .ok c ∧ l.channel = some c ∧ a = .cleared c := by
  cases answer with
  | error f => simp [yielding]
  | ok c => by_cases h : l.channel = some c <;> simp [yielding, h]

@[simp] theorem mem_disposing {l : Link σ} {answer : Except Fault ChannelId} {a : Act} :
    a ∈ l.disposing answer ↔ ∃ c, answer = .ok c ∧ a = .spawned l.jobCount (.cleanup c false) := by
  cases answer <;> simp [disposing, leftover]

@[simp] theorem mem_settling {ticket : Option TicketId} {outcome : Outcome} {a : Act} :
    a ∈ settling ticket outcome ↔ ∃ id, ticket = some id ∧ a = .settled id outcome := by
  simp [settling, eq_comm]

section Kinds

variable (l : Link σ) (next : State) (answer : Except Fault ChannelId) (ticket : Option TicketId)
  (outcome : Outcome)

@[simp] theorem creation_disposing :
    (l.disposing answer).filterMap Act.creation? = l.leftover answer := by
  cases answer <;> rfl

variable {kinds : List Trace}

@[simp] theorem traces_passage (state : .state ∉ kinds) :
    (l.passage next).all (Act.isTraceBut kinds) = true := by
  unfold passage
  split <;> simp [Act.isTraceBut, Act.trace?, state]

@[simp] theorem traces_emptying (slot : .slot ∉ kinds) :
    l.emptying.all (Act.isTraceBut kinds) = true := by
  unfold emptying
  cases l.channel <;> simp [Act.isTraceBut, Act.trace?, slot]

@[simp] theorem traces_yielding (slot : .slot ∉ kinds) :
    (l.yielding answer).all (Act.isTraceBut kinds) = true := by
  unfold yielding
  repeat' split
  all_goals simp [Act.isTraceBut, Act.trace?, slot]

@[simp] theorem traces_disposing (cleanup : .cleanup ∉ kinds) :
    (l.disposing answer).all (Act.isTraceBut kinds) = true := by
  cases answer <;> simp [disposing, leftover, Act.isTraceBut, Act.trace?, cleanup]

@[simp] theorem traces_settling (notice : .notice ∉ kinds) :
    (settling ticket outcome).all (Act.isTraceBut kinds) = true := by
  cases ticket <;> simp [settling, Act.isTraceBut, Act.trace?, notice]

@[simp] theorem traces_hangingUp (state : .state ∉ kinds) (slot : .slot ∉ kinds)
    (teardown : .teardown ∉ kinds) : l.hangingUp.all (Act.isTraceBut kinds) = true := by
  unfold hangingUp
  split <;> simp [Act.isTraceBut, Act.trace?, state, slot, teardown]

end Kinds

/-! ## Entries -/

/-- Acts were written down, and the jobs they create are pending under the next names. -/
structure Entry (acts : List Act) (l l' : Link σ) : Prop where
  journal : l'.journal = l.journal ++ acts
  jobs : l'.jobs = l.jobs ++ acts.filterMap Act.creation?
  names : (acts.filterMap Act.creation?).map Prod.fst =
    List.range' l.jobCount (acts.filterMap Act.creation?).length
  count : l'.jobCount = l.jobCount + (acts.filterMap Act.creation?).length

/-- The acts by which those are answered who waited for a job that broke down. -/
def forsaking : Job → List Act
  | .attempt ticket _ _ _ => settling ticket (.error .dropped)
  | .teardown _ ticket _ => [.settled ticket (.error .dropped)]
  | .rejection r => [.failed r.id .dropped]
  | .retry .. | .cleanup .. | .watch _ | .report _ => []

theorem forsake_eq (l : Link σ) (j : Job) :
    l.forsake j = { l with journal := l.journal ++ forsaking j } := by
  cases j with
  | attempt ticket => exact settle?_eq l ticket _
  | teardown | rejection => rfl
  | retry | cleanup | watch | report => simp [forsake, forsaking]

namespace Entry

variable {l k l' : Link σ} {acts more : List Act}

/-- Acts that create no job. -/
theorem silent (journal : l'.journal = l.journal ++ acts)
    (none : acts.filterMap Act.creation? = []) (jobs : l'.jobs = l.jobs)
    (count : l'.jobCount = l.jobCount) : Entry acts l l' where
  journal := journal
  jobs := by rw [none, List.append_nil, jobs]
  names := by rw [none]; rfl
  count := by rw [none, count]; rfl

theorem grows (entry : Entry acts l l') : l.journal <+: l'.journal :=
  entry.journal ▸ List.prefix_append _ _

theorem trans (first : Entry acts l k) (second : Entry more k l') : Entry (acts ++ more) l l' where
  journal := by rw [second.journal, first.journal, List.append_assoc]
  jobs := by rw [second.jobs, first.jobs, List.filterMap_append, List.append_assoc]
  names := by
    rw [List.filterMap_append, List.map_append, first.names, second.names, first.count,
      List.length_append, List.range'_append_1]
  count := by
    rw [second.count, first.count, List.filterMap_append, List.length_append, Nat.add_assoc]

theorem note (l : Link σ) {a : Act} (none : a.creation? = none) : Entry [a] l (l.note a) :=
  silent rfl (by simp [none]) rfl rfl

theorem spawn (l : Link σ) (j : Job) : Entry [.spawned l.jobCount j] l (l.spawn j) :=
  ⟨rfl, rfl, rfl, rfl⟩

theorem install (l : Link σ) (c : ChannelId) : Entry [.installed c] l (l.install c) :=
  silent rfl rfl rfl rfl

theorem settle? (l : Link σ) (ticket : Option TicketId) (outcome : Outcome) :
    Entry (settling ticket outcome) l (l.settle? ticket outcome) := by
  rw [settle?_eq]
  exact silent rfl (by simp) rfl rfl

theorem forsake (l : Link σ) (j : Job) : Entry (forsaking j) l (l.forsake j) := by
  rw [forsake_eq]
  refine silent rfl ?_ rfl rfl
  cases j with
  | attempt ticket => cases ticket <;> rfl
  | _ => rfl

theorem setOut (l : Link σ) (bootstrap : Bool) :
    Entry (l.settingOut bootstrap) l (l.setOut bootstrap) := by
  rw [setOut_eq]
  refine ⟨rfl, ?_, ?_, ?_⟩ <;> simp [settingOut, Act.creation?]

theorem drop (l : Link σ) : Entry (l.passage .disconnected ++ l.emptying) l l.drop := by
  rw [drop_eq]
  exact silent rfl (by simp) rfl rfl

theorem hangUp (l : Link σ) : Entry l.hangingUp l l.hangUp := by
  cases h : l.state with
  | disconnected | disconnecting =>
    simp only [Link.hangUp, hangingUp, h]
    exact silent (List.append_nil _).symm rfl rfl rfl
  | connecting =>
    simp only [Link.hangUp, hangingUp, h, drop_eq]
    exact silent rfl (by simp) rfl rfl
  | connected =>
    simp only [Link.hangUp, hangingUp, h, bar, shift_eq, issue, Link.spawn, Link.note,
      List.append_assoc]
    refine ⟨rfl, ?_, ?_, ?_⟩ <;> simp [Act.creation?]

theorem take (l : Link σ) (id : JobId) (answer : Except Fault ChannelId) :
    Entry [.answered id answer] (l.finish id) (l.take id answer) :=
  note _ rfl

theorem turnAway (l : Link σ) (ticket : Option TicketId) (answer : Except Fault ChannelId) :
    Entry (l.disposing answer ++ settling ticket (.ok l.state)) l (l.turnAway ticket answer) := by
  rw [turnAway_eq]
  refine ⟨rfl, ?_, ?_, ?_⟩ <;> cases answer <;> simp [leftover]

theorem undo (l : Link σ) (ticket : Option TicketId) (answer : Except Fault ChannelId) :
    Entry (l.yielding answer ++ (l.disposing answer ++
      (l.passage .disconnected ++ settling ticket (.ok .disconnected)))) l
      (l.undo ticket answer) := by
  rw [undo_eq]
  refine ⟨rfl, ?_, ?_, ?_⟩ <;> cases answer <;> simp [leftover]

theorem putToUse (l : Link σ) (ticket : Option TicketId) (c : ChannelId) :
    Entry (.installed c :: (l.passage .connected ++
      (.spawned l.jobCount (.watch c) :: settling ticket (.ok .connected)))) l
      (l.putToUse ticket c) := by
  rw [putToUse_eq]
  refine ⟨rfl, ?_, ?_, ?_⟩ <;> simp [Act.creation?, List.filterMap_cons]

theorem giveUp (l : Link σ) (ticket : Option TicketId) (cause : Fault) :
    Entry (l.passage .disconnected ++ settling ticket (.error cause)) l
      (l.giveUp ticket cause) := by
  rw [giveUp_eq]
  exact silent rfl (by simp) rfl rfl

theorem consult (l : Link σ) : Entry [.consulted l.reconnectAttempt] l l.consult :=
  silent rfl rfl rfl rfl

theorem takeUp (l : Link σ) (ticket : Option TicketId) (bootstrap : Bool) (cause : Fault) :
    Entry (((if cause.isTerminal then l.passage .disconnected else []) ++
      if cause.isTerminal ∨ bootstrap then settling ticket (.error cause) else []) ++
        [.consulted l.reconnectAttempt]) l (l.takeUp ticket bootstrap cause).consult := by
  have told : Entry ((if cause.isTerminal then l.passage .disconnected else []) ++
      if cause.isTerminal ∨ bootstrap then settling ticket (.error cause) else []) l
      (l.takeUp ticket bootstrap cause) := by
    rw [takeUp_eq]
    refine silent rfl ?_ rfl rfl
    split <;> split <;> simp
  have asked := told.trans (.consult _)
  rwa [takeUp_eq] at asked ⊢

theorem plan (l : Link σ) (delay : Nat) (epoch : UInt64) (ticket : Option TicketId) :
    Entry (l.passage .connecting ++
      (.spawned l.jobCount (.retry delay epoch) :: settling ticket (.ok .connecting))) l
      (l.plan delay epoch ticket) := by
  rw [plan_eq]
  refine ⟨rfl, ?_, ?_, ?_⟩ <;> simp [Act.creation?]

end Entry

/-! ## The entries of strokes and turns -/

variable {l l' : Link σ}

theorem journal_hangUp (l : Link σ) : l.hangUp.journal = l.journal ++ l.hangingUp :=
  (Entry.hangUp l).journal

/-- A stroke makes an entry, and does no work. -/
theorem Stroke.entry (h : Stroke l l') : ∃ acts, Entry acts l l' ∧ acts.any Act.isWork = false := by
  cases h with
  | drifted | counted | marked | attended =>
    exact ⟨[], .silent (List.append_nil _).symm rfl rfl rfl, rfl⟩
  | @noted a plain =>
    have none : a.creation? = none := by cases a <;> first | rfl | cases plain
    have idle : a.isWork = false := by cases a <;> first | rfl | cases plain
    exact ⟨_, .note l none, by simp [idle]⟩
  | returned | ignored => exact ⟨_, .note l rfl, rfl⟩
  | @spawned j => exact ⟨_, .spawn l j, rfl⟩
  | opened => exact ⟨_, .trans (.note l rfl) (.setOut _ true), by simp [settingOut, Act.isWork]⟩
  | restarted => exact ⟨_, .trans (.drop l) (.setOut _ false), by simp [settingOut, Act.isWork]⟩
  | dropped => exact ⟨_, .drop l, by simp⟩
  | hungUp => exact ⟨_, .trans (.note l rfl) (.hangUp _), by simp [Act.isWork]⟩

/-- In a turn a job ends or goes on. Then the link makes an entry, and not on a call. -/
theorem Turn.entry {s : Step σ} (h : Turn s l l') : ∃ id j acts, l.job? id = some j ∧
    (Entry acts (l.finish id) l' ∨
      ∃ j', (∀ {j₀ : Job}, j₀.Becomes j → j₀.Becomes j') ∧ Entry acts (l.become id j') l') ∧
    acts.any Act.isCall = false := by
  cases h with
  | @dialed _ id ticket bootstrap epoch job =>
    have goesOn : ∀ {j₀ : Job}, j₀.Becomes (.attempt ticket bootstrap epoch false) →
        j₀.Becomes (.attempt ticket bootstrap epoch true) := by
      rintro _ ⟨⟩
      exact .dialed ticket bootstrap epoch
    exact ⟨id, _, _, job, .inr ⟨_, goesOn, .note _ rfl⟩, rfl⟩
  | @redialed _ id delay epoch job =>
    have goesOn : ∀ {j₀ : Job}, j₀.Becomes (.retry delay epoch) →
        j₀.Becomes (.attempt none false epoch true) := by
      rintro _ ⟨⟩
      exact .redialed delay epoch
    exact ⟨id, _, _, job, .inr ⟨_, goesOn, .note _ rfl⟩, rfl⟩
  | @tearing _ id c ticket job =>
    have goesOn : ∀ {j₀ : Job}, j₀.Becomes (.teardown (some c) ticket false) →
        j₀.Becomes (.teardown (some c) ticket true) := by
      rintro _ ⟨⟩
      exact .tearing c ticket
    exact ⟨id, _, _, job, .inr ⟨_, goesOn, .note _ rfl⟩, rfl⟩
  | @cleaning _ id c job =>
    have goesOn : ∀ {j₀ : Job}, j₀.Becomes (.cleanup c false) → j₀.Becomes (.cleanup c true) := by
      rintro _ ⟨⟩
      exact .cleaning c
    exact ⟨id, _, _, job, .inr ⟨_, goesOn, .note _ rfl⟩, rfl⟩
  | @abandoned _ id _ _ job => exact ⟨id, _, _, job, .inl (.hangUp _), by simp⟩
  | @ended _ _ id _ job =>
    exact ⟨id, _, [], job, .inl (.silent (List.append_nil _).symm rfl rfl rfl), rfl⟩
  | @toreDown _ _ id _ _ job =>
    exact ⟨id, _, _, job, .inl (.trans (.drop _) (.note _ rfl)), by simp [Act.isCall]⟩
  | @turnedAway _ id ticket _ _ job _ answer =>
    exact ⟨id, _, _, job, .inl (.trans (.take l id answer) (.turnAway _ ticket answer)),
      by simp [Act.isCall]⟩
  | @undone _ id ticket _ _ job _ _ answer =>
    exact ⟨id, _, _, job, .inl (.trans (.take l id answer) (.undo _ ticket answer)),
      by simp [Act.isCall]⟩
  | @succeeded _ id ticket _ _ job _ _ _ c =>
    exact ⟨id, _, _, job, .inl (.trans (.take l id (.ok c)) (.putToUse _ ticket c)),
      by simp [Act.isCall]⟩
  | @collided _ id ticket _ _ job _ _ _ c =>
    exact ⟨id, _, _, job,
      .inl (((Entry.take l id (.ok c)).trans (.install _ c)).trans (.undo _ ticket (.ok c))),
      by simp [Act.isCall]⟩
  | @gaveUp _ id ticket _ _ job _ _ _ _ cause =>
    exact ⟨id, _, _, job, .inl (.trans (.take l id (.error cause)) (.giveUp _ ticket cause)),
      by simp [Act.isCall]⟩

end Link

end NodeLink
