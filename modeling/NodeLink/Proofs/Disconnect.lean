import NodeLink.Proofs.Chain

/-!
# After a disconnect

A link that was asked to disconnect works off what is left and starts nothing new. The journal is
cut at the first call of disconnect. What comes after the cut is *tame*: no change to connected,
no channel in the slot, no new chain, and for every channel that an attempt still delivers there
is one job that closes it. Jobs that close a channel ask for it once.

The link itself may look connecting for a while, because a retry that is being planned while
disconnect is called is planned nevertheless. It comes to rest when the last of its attempts,
retries and closings is over.
-/

set_option autoImplicit false

namespace NodeLink

open Lifecycle (State)

namespace Act

/-- The acts before the first one of a kind. -/
def upTo (mark : Act) : List Act → List Act
  | [] => []
  | a :: acts => if a = mark then [] else a :: upTo mark acts

/-- The acts after the first one of a kind. -/
def since (mark : Act) : List Act → List Act
  | [] => []
  | a :: acts => if a = mark then acts else since mark acts

variable {mark : Act} {acts : List Act}

theorem since_of_notMem (h : mark ∉ acts) : since mark acts = [] := by
  induction acts with
  | nil => rfl
  | cons a acts ih =>
    rw [List.mem_cons, not_or] at h
    obtain ⟨other, later⟩ := h
    rw [since, if_neg (Ne.symm other)]
    exact ih later

theorem upTo_append_since (h : mark ∈ acts) : acts = upTo mark acts ++ mark :: since mark acts := by
  induction acts with
  | nil => cases h
  | cons a acts ih =>
    by_cases same : a = mark
    · simp [upTo, since, same]
    · have later : mark ∈ acts := (List.mem_cons.mp h).resolve_left fun h => same h.symm
      rw [upTo, since, if_neg same, if_neg same, List.cons_append]
      exact congrArg (a :: ·) (ih later)

theorem upTo_append (h : mark ∈ acts) (more : List Act) :
    upTo mark (acts ++ more) = upTo mark acts := by
  induction acts with
  | nil => cases h
  | cons a acts ih =>
    by_cases same : a = mark
    · simp [upTo, same]
    · have later : mark ∈ acts := (List.mem_cons.mp h).resolve_left fun h => same h.symm
      rw [List.cons_append, upTo, upTo, if_neg same, if_neg same, ih later]

theorem upTo_append_of_notMem (h : mark ∉ acts) (more : List Act) :
    upTo mark (acts ++ more) = acts ++ upTo mark more := by
  induction acts with
  | nil => rfl
  | cons a acts ih =>
    rw [List.mem_cons, not_or] at h
    obtain ⟨other, later⟩ := h
    rw [List.cons_append, upTo, if_neg (Ne.symm other), ih later, List.cons_append]

theorem upTo_of_notMem (h : mark ∉ acts) : upTo mark acts = acts := by
  have whole := upTo_append_of_notMem h []
  rwa [List.append_nil, upTo, List.append_nil] at whole

theorem notMem_upTo (mark : Act) (acts : List Act) : mark ∉ upTo mark acts := by
  induction acts with
  | nil => exact List.not_mem_nil
  | cons a acts ih =>
    by_cases same : a = mark
    · rw [upTo, if_pos same]
      exact List.not_mem_nil
    · rw [upTo, if_neg same, List.mem_cons, not_or]
      exact ⟨Ne.symm same, ih⟩

theorem upTo_prefix (mark : Act) (acts : List Act) : upTo mark acts <+: acts := by
  by_cases h : mark ∈ acts
  · exact ⟨_, (upTo_append_since h).symm⟩
  · exact ⟨[], by rw [upTo_of_notMem h, List.append_nil]⟩

theorem since_append (h : mark ∈ acts) (more : List Act) :
    since mark (acts ++ more) = since mark acts ++ more := by
  induction acts with
  | nil => cases h
  | cons a acts ih =>
    by_cases same : a = mark
    · simp [since, same]
    · have later : mark ∈ acts := (List.mem_cons.mp h).resolve_left fun h => same h.symm
      rw [List.cons_append, since, since, if_neg same, if_neg same, ih later]

theorem since_append_of_notMem (h : mark ∉ acts) (more : List Act) :
    since mark (acts ++ more) = since mark more := by
  induction acts with
  | nil => rfl
  | cons a acts ih =>
    rw [List.mem_cons, not_or] at h
    obtain ⟨other, later⟩ := h
    rw [List.cons_append, since, if_neg (Ne.symm other)]
    exact ih later

/-- An act that starts nothing new. Only some jobs may still call the connector, and the link may
change to some states only. -/
def Calm (may : JobId → Prop) (goes : State → Prop) : Act → Prop
  | changed c _ => goes c.target
  | installed _ => False
  | spawned _ (.attempt ..) => False
  | dialed id _ => may id
  | _ => True

/-- Whether an act delivers a channel. -/
def delivers (c : ChannelId) : Act → Bool
  | answered _ (.ok c') => c' = c
  | _ => false

/-- Whether an act creates a job that closes a channel which was never put to use. -/
def disposesOf (c : ChannelId) : Act → Bool
  | spawned _ (.cleanup c' false) => c' = c
  | _ => false

@[simp] theorem disposesOf_cleanup (c c' : ChannelId) (id : JobId) :
    (spawned id (.cleanup c' false)).disposesOf c = decide (c' = c) := rfl

@[simp] theorem disposesOf_answered (c : ChannelId) (id : JobId) (answer : Except Fault ChannelId) :
    (answered id answer).disposesOf c = false := rfl

@[simp] theorem delivers_ok (c c' : ChannelId) (id : JobId) :
    (answered id (.ok c')).delivers c = decide (c' = c) := rfl

@[simp] theorem delivers_error (c : ChannelId) (id : JobId) (f : Fault) :
    (answered id (.error f)).delivers c = false := rfl

@[simp] theorem delivers_spawned (c : ChannelId) (id : JobId) (j : Job) :
    (spawned id j).delivers c = false := rfl

end Act

/-- Whether a job asks a channel to close when it is taken up. -/
def Job.closes (c : ChannelId) : Job → Bool
  | .cleanup c' false | .teardown (some c') _ false => c' = c
  | _ => false

/-- The jobs that a link which is to be disconnected has to work off. -/
def Job.Works : Job → Prop
  | .attempt .. | .retry .. | .teardown .. | .cleanup .. => True
  | .watch _ | .report _ | .rejection _ => False

theorem Job.of_not_works {j : Job} (h : ¬ j.Works) : j.chain? = none ∧ j.isTeardown = false := by
  cases j with
  | attempt | retry | teardown | cleanup => exact absurd trivial h
  | watch | report | rejection => exact ⟨rfl, rfl⟩

theorem Act.Calm.startsChain {may : JobId → Prop} {goes : State → Prop} {a : Act}
    (calm : a.Calm may goes) :
    a.startsChain = false := by
  cases a with
  | spawned id j =>
    cases j with
    | attempt => exact calm.elim
    | _ => rfl
  | _ => rfl

/-- Acts that only work off what was left. Each channel that is delivered is disposed of. -/
structure Tame (may : JobId → Prop) (goes : State → Prop) (acts : List Act) : Prop where
  calm : ∀ a ∈ acts, a.Calm may goes
  disposed : ∀ c, acts.countP (·.disposesOf c) = acts.countP (·.delivers c)

namespace Tame

variable {may : JobId → Prop} {goes : State → Prop}

theorem nil : Tame may goes [] := ⟨by simp, fun _ => rfl⟩

theorem append {acts more : List Act} (h : Tame may goes acts)
    (h' : Tame may goes more) : Tame may goes (acts ++ more) where
  calm a ha := (List.mem_append.mp ha).elim (h.calm a) (h'.calm a)
  disposed c := by simp only [List.countP_append, h.disposed, h'.disposed]

/-- Acts that have nothing to do with channels that are delivered. -/
theorem of_calm {acts : List Act} (h : ∀ a ∈ acts, a.Calm may goes)
    (others : ∀ a ∈ acts, ∀ c, a.disposesOf c = false ∧ a.delivers c = false) :
    Tame may goes acts where
  calm := h
  disposed c := by
    rw [List.countP_eq_zero.mpr, List.countP_eq_zero.mpr]
    · intro a ha
      simp [(others a ha c).2]
    · intro a ha
      simp [(others a ha c).1]

end Tame

namespace Link

variable {σ : Type} {o : Surroundings σ} {l l' : Link σ} {may : JobId → Prop}
  {goes : State → Prop}

theorem tame_passage (l : Link σ) {next : State} (h : goes next) :
    Tame may goes (l.passage next) := by
  refine .of_calm (fun a ha => ?_) fun a ha c => ?_
  · obtain ⟨-, rfl⟩ := mem_passage.mp ha
    exact h
  · obtain ⟨-, rfl⟩ := mem_passage.mp ha
    exact ⟨rfl, rfl⟩

theorem tame_of_traces {acts : List Act}
    (traces : acts.all (Act.isTraceBut [.state, .cleanup]) = true) : Tame may goes acts := by
  have other : ∀ a : Act, a.isTraceBut [.state, .cleanup] = true →
      a.Calm may goes ∧ ∀ c, a.disposesOf c = false ∧ a.delivers c = false := by
    intro a trace
    cases a with
    | spawned id j =>
      cases j <;> first | exact ⟨trivial, fun _ => ⟨rfl, rfl⟩⟩ | cases trace
    | _ => first | exact ⟨trivial, fun _ => ⟨rfl, rfl⟩⟩ | cases trace
  have all := List.all_eq_true.mp traces
  exact .of_calm (fun a mem => (other a (all a mem)).1) fun a mem => (other a (all a mem)).2

/-- A channel that is delivered too late is disposed of at once. -/
theorem tame_disposing (l : Link σ) (id : JobId) (answer : Except Fault ChannelId) {acts : List Act}
    (between : Tame may goes acts) :
    Tame may goes (.answered id answer :: (acts ++ l.disposing answer)) where
  calm a ha := by
    rcases List.mem_cons.mp ha with rfl | ha
    · trivial
    rcases List.mem_append.mp ha with ha | ha
    · exact between.calm a ha
    · obtain ⟨c, -, rfl⟩ := mem_disposing.mp ha
      trivial
  disposed c := by
    have := between.disposed c
    cases answer with
    | ok c' => simp [disposing, leftover, List.countP_cons, this]
    | error f => simp [disposing, leftover, this]

theorem tame_single {a : Act} (calm : a.Calm may goes)
    (other : ∀ c, a.disposesOf c = false ∧ a.delivers c = false) : Tame may goes [a] :=
  .of_calm (fun _ ha => List.mem_singleton.mp ha ▸ calm)
    fun _ ha => List.mem_singleton.mp ha ▸ other

section Down

variable (down : ∀ s : State, s.isDown = true → goes s)
include down

theorem tame_hangingUp (l : Link σ) : Tame may goes l.hangingUp := by
  unfold hangingUp
  split
  · exact .nil
  · exact .nil
  · exact (tame_passage l (down .disconnected rfl)).append (tame_of_traces (by simp))
  · refine (tame_passage l (down .disconnecting rfl)).append ?_
    exact tame_single trivial fun c => ⟨rfl, rfl⟩

/-- The strokes of a link that was to be disconnected are tame. -/
theorem Stroke.tame (h : Stroke l l') (barred : l.disconnected = true) :
    ∃ acts, l'.journal = l.journal ++ acts ∧ Tame may goes acts := by
  cases h with
  | drifted | counted | marked | attended => exact ⟨[], (List.append_nil _).symm, .nil⟩
  | @noted a plain =>
    refine ⟨[a], rfl, ?_⟩
    cases a with
    | called | published | wrote | flushed | failed =>
      exact tame_single trivial fun c => ⟨rfl, rfl⟩
    | _ => cases plain
  | returned | ignored => exact ⟨_, rfl, tame_single trivial fun c => ⟨rfl, rfl⟩⟩
  | @spawned j idle =>
    refine ⟨_, rfl, ?_⟩
    cases j with
    | report | rejection => exact tame_single trivial fun c => ⟨rfl, rfl⟩
    | _ => cases idle
  | opened wanted | restarted wanted => exact absurd (barred.symm.trans wanted) (by decide)
  | dropped =>
    rw [drop_eq]
    exact ⟨_, rfl, (tame_passage l (down .disconnected rfl)).append (tame_of_traces (by simp))⟩
  | hungUp =>
    rw [journal_hangUp, note, List.append_assoc]
    refine ⟨_, rfl, .append ?_ (tame_hangingUp down _)⟩
    exact tame_single trivial fun c => ⟨rfl, rfl⟩

/-- The turns of a link that was to be disconnected are tame. -/
theorem Turn.tame {s : Step σ} (h : Turn s l l') (barred : l.disconnected = true)
    (dials : ∀ {id ticket bootstrap epoch},
      l.job? id = some (.attempt ticket bootstrap epoch false) → may id) :
    ∃ acts, l'.journal = l.journal ++ acts ∧ Tame may goes acts := by
  cases h with
  | dialed _ job => exact ⟨_, rfl, tame_single (dials job) fun c => ⟨rfl, rfl⟩⟩
  | tearing | cleaning => exact ⟨_, rfl, tame_single trivial fun c => ⟨rfl, rfl⟩⟩
  | abandoned =>
    rw [journal_hangUp]
    exact ⟨_, rfl, tame_hangingUp down _⟩
  | ended => exact ⟨[], (List.append_nil _).symm, .nil⟩
  | @toreDown _ _ id =>
    rw [drop_eq, settle, note, List.append_assoc]
    have passed : Tame may goes ((l.finish id).passage .disconnected) :=
      tame_passage _ (down .disconnected rfl)
    refine ⟨_, rfl, .append (passed.append (tame_of_traces (by simp))) ?_⟩
    exact tame_single trivial fun c => ⟨rfl, rfl⟩
  | @turnedAway _ id ticket _ _ _ _ answer =>
    rw [turnAway_eq, take, note, List.append_assoc]
    have disposed : Tame may goes _ := tame_disposing (l.take id answer) id answer .nil
    exact ⟨_, rfl, disposed.append (tame_of_traces (traces_settling _ _ (by simp)))⟩
  | @undone _ id ticket _ _ _ _ _ answer =>
    rw [undo_eq, take, note, List.append_assoc]
    have yielded : Tame may goes ((l.take id answer).yielding answer) := tame_of_traces (by simp)
    have disposed : Tame may goes _ := tame_disposing (l.take id answer) id answer yielded
    have told : Tame may goes (settling ticket (.ok .disconnected)) := tame_of_traces (by simp)
    have settled : Tame may goes _ :=
      (tame_passage (l.take id answer) (down .disconnected rfl)).append told
    refine ⟨_, rfl, ?_⟩
    have whole := disposed.append settled
    rwa [List.cons_append, List.append_assoc] at whole
  | redialed _ _ _ wanted | succeeded _ _ _ wanted | collided _ _ _ wanted
  | gaveUp _ _ _ wanted =>
    exact absurd (barred.symm.trans wanted) (by decide)

end Down

/-! ## The journal after the first disconnect -/

/-- The acts before the first disconnect was called. -/
def beforehand (l : Link σ) : List Act := Act.upTo (.called .disconnect) l.journal

/-- The acts since the first disconnect was called. -/
def aftermath (l : Link σ) : List Act := Act.since (.called .disconnect) l.journal

/-- The job was a fresh attempt when disconnect was called. -/
def Fresh (l : Link σ) (id : JobId) : Prop :=
  ∃ ticket bootstrap epoch, .spawned id (.attempt ticket bootstrap epoch false) ∈ l.beforehand

/-- The law of disconnects. -/
structure Settling (l : Link σ) : Prop where
  numbered : Numbered l
  recorded : Recorded l
  flag : l.disconnected = true ↔ .called .disconnect ∈ l.journal
  tame : Tame l.Fresh (· ≠ .connected) l.aftermath

namespace Settling

/-- Nothing is to be shown of a link that nobody disconnected. -/
theorem of_wanted (numbered : Numbered l) (recorded : Recorded l)
    (flag : l.disconnected = true ↔ .called .disconnect ∈ l.journal)
    (wanted : l.disconnected = false) : Settling l := by
  refine ⟨numbered, recorded, flag, ?_⟩
  have notCalled : .called .disconnect ∉ l.journal := by
    rw [← flag, wanted]
    exact Bool.false_ne_true
  rw [aftermath, Act.since_of_notMem notCalled]
  exact .nil

/-- Tame acts may always follow. -/
theorem later (settling : Settling l) (numbered : Numbered l') (recorded : Recorded l')
    (flag : l'.disconnected = true ↔ .called .disconnect ∈ l'.journal)
    (called : .called .disconnect ∈ l.journal) {acts : List Act}
    (journal : l'.journal = l.journal ++ acts) (tame : Tame l.Fresh (· ≠ .connected) acts) :
    Settling l' := by
  refine ⟨numbered, recorded, flag, ?_⟩
  have fresh : l'.Fresh = l.Fresh := by
    unfold Fresh beforehand
    rw [journal, Act.upTo_append called]
  rw [fresh, aftermath, journal, Act.since_append called]
  exact settling.tame.append tame

/-- A fresh attempt of a link that was to be disconnected was fresh before. -/
theorem fresh (settling : Settling l) (called : .called .disconnect ∈ l.journal) {id : JobId}
    {ticket : Option TicketId} {bootstrap : Bool} {epoch : UInt64}
    (job : l.job? id = some (.attempt ticket bootstrap epoch false)) : l.Fresh id := by
  obtain ⟨before, after, hjobs, -⟩ := settling.numbered.split job
  obtain ⟨j, spawned, becomes⟩ := settling.recorded.origin
    (id, .attempt ticket bootstrap epoch false) (by simp [hjobs])
  cases becomes
  rw [Act.upTo_append_since called, List.mem_append, List.mem_cons] at spawned
  rcases spawned with spawned | same | spawned
  · exact ⟨ticket, bootstrap, epoch, spawned⟩
  · cases same
  · exact (settling.tame.calm _ spawned).elim

end Settling

theorem ne_connected_of_isDown (s : State) (h : s.isDown = true) : s ≠ .connected := by
  rintro rfl
  cases h

theorem settling_kept (o : Surroundings σ) : Kept o fun _ l => Settling l where
  stroke {_ l l'} h settling := by
    have numbered := settling.numbered.stroke h
    have recorded := settling.recorded.stroke h
    have flag := @Kept.stroke _ _ _ (barred_kept o) none _ _ h settling.flag
    by_cases called : .called .disconnect ∈ l.journal
    · obtain ⟨acts, journal, tame⟩ := h.tame ne_connected_of_isDown (settling.flag.mpr called)
      exact settling.later numbered recorded flag called journal tame
    have wanted : l.disconnected = false := by
      rw [← Bool.not_eq_true, settling.flag]
      exact called
    rcases h.disconnected with same | rfl
    · exact .of_wanted numbered recorded flag (same.trans wanted)
    · refine ⟨numbered, recorded, flag, ?_⟩
      rw [aftermath, journal_hangUp, note, List.append_assoc, Act.since_append_of_notMem called]
      exact tame_hangingUp ne_connected_of_isDown _
  turn {s l l'} h settling := by
    have numbered := settling.numbered.turn h
    have recorded := settling.recorded.turn h settling.numbered
    have flag := (barred_kept o).turn h settling.flag
    cases barred : l.disconnected with
    | true =>
      have called := settling.flag.mp barred
      obtain ⟨acts, journal, tame⟩ := h.tame ne_connected_of_isDown barred (settling.fresh called)
      exact settling.later numbered recorded flag called journal tame
    | false => exact .of_wanted numbered recorded flag (h.disconnected.trans barred)
  takeUp cause up settling := by
    have kept := (recorded_kept o).takeUp cause up ⟨settling.numbered, settling.recorded⟩
    have flag := (barred_kept o).takeUp cause up settling.flag
    refine .of_wanted kept.1 kept.2 flag ?_
    rw [takeUp_eq]
    exact up.wanted
  plan {hand l} delay settling := by
    have kept := @Kept.plan _ _ _ (recorded_kept o) hand _ delay
      ⟨settling.numbered, settling.recorded⟩
    have flag := @Kept.plan _ _ _ (barred_kept o) hand _ delay settling.flag
    cases barred : l.disconnected with
    | true =>
      have planned : Tame l.Fresh (· ≠ .connected)
          [.spawned l.jobCount (.retry delay hand.epoch)] := tame_single trivial fun c => ⟨rfl, rfl⟩
      refine settling.later kept.1 kept.2 flag (settling.flag.mp barred)
        (congrArg journal (plan_eq ..)) ?_
      refine .append (tame_passage l (by decide)) (planned.append (tame_of_traces ?_))
      exact traces_settling _ _ (by simp)
    | false =>
      refine .of_wanted kept.1 kept.2 flag ?_
      rw [plan_eq]
      exact barred
  breakDown {hand l} loose settling := by
    have kept := @Kept.breakDown _ _ _ (recorded_kept o) hand _ loose
      ⟨settling.numbered, settling.recorded⟩
    have flag := @Kept.breakDown _ _ _ (barred_kept o) hand _ loose settling.flag
    cases barred : l.disconnected with
    | true =>
      exact settling.later kept.1 kept.2 flag (settling.flag.mp barred)
        (congrArg journal (settle?_eq ..)) (tame_of_traces (by simp))
    | false =>
      refine .of_wanted kept.1 kept.2 flag ?_
      rw [settle?_eq]
      exact barred

/-! ## Disconnected links are not connected -/

/-- Only an attempt that is wanted connects a link. -/
theorem Turn.connected {s : Step σ} (h : Turn s l l') (connected : l'.state = .connected) :
    l.state = .connected ∨ l.disconnected = false := by
  cases h with
  | dialed | redialed | tearing | cleaning | ended => exact .inl connected
  | abandoned => exact absurd connected (state_hangUp_ne _)
  | toreDown => exact absurd (connected.symm.trans (state_drop _)) (by decide)
  | turnedAway =>
    rw [turnAway_eq] at connected
    exact .inl connected
  | undone | collided =>
    exact absurd (connected.symm.trans (state_undo ..)) (by decide)
  | succeeded _ _ _ wanted | gaveUp _ _ _ wanted => exact .inr wanted

/-- A link that was to be disconnected is not connected, after every run. -/
theorem parted_kept (o : Surroundings σ) :
    Kept o fun _ l => l.disconnected = true → l.state ≠ .connected where
  stroke {_ l l'} h parted barred connected := by
    have connected : l'.core.state = .connected := connected
    have barred : l'.core.disconnected = true := barred
    rcases h.core with same | ⟨-, -, same⟩ | ⟨-, -, same⟩ | ⟨-, same⟩ | same
    · rw [same] at connected barred
      exact parted barred connected
    · rw [same] at connected
      cases connected
    · rw [same] at connected
      cases connected
    · rw [same] at connected
      cases connected
    · rw [same] at connected
      exact l.core.state_hangUp_ne connected
  turn h parted barred connected := by
    rw [h.disconnected] at barred
    rcases h.connected connected with before | wanted
    · exact parted barred before
    · exact absurd (barred.symm.trans wanted) (by decide)
  takeUp cause up _ barred := by
    rw [takeUp_eq] at barred
    exact absurd (barred.symm.trans up.wanted) (by decide)
  plan delay _ _ connected := by
    exact absurd (connected.symm.trans (state_plan ..)) (by decide)
  breakDown _ parted := by
    rw [settle?_eq]
    exact parted

/-! ## Closings -/

@[simp] theorem closing_of_traces (c : ChannelId) {acts : List Act}
    (traces : acts.all Act.isTrace = true) : acts.count (.closing c) = 0 :=
  List.count_eq_zero.mpr fun mem =>
    absurd (List.all_eq_true.mp traces _ mem) Bool.false_ne_true

/-- The jobs that were created. -/
def created (l : Link σ) : List (JobId × Job) := l.journal.filterMap Act.creation?

/-- Every job that is to close a channel asks for it once. -/
structure Closing (l : Link σ) : Prop where
  numbered : Numbered l
  balance : ∀ c, l.journal.count (.closing c) + l.jobs.countP (·.2.closes c) =
    l.created.countP (·.2.closes c)

namespace Closing

/-- What asks for no closing may always follow. -/
theorem entry (closing : Closing l) {acts : List Act} (entry : Entry acts l l')
    (none : ∀ c, acts.count (.closing c) = 0) : Closing l' := by
  refine ⟨closing.numbered.entry entry, fun c => ?_⟩
  have balance := closing.balance c
  simp only [created] at balance
  rw [created, entry.journal, entry.jobs, List.count_append, List.filterMap_append,
    List.countP_append, List.countP_append, none c]
  omega

theorem stroke (h : Stroke l l') (closing : Closing l) : Closing l' := by
  obtain ⟨acts, entry, idle⟩ := h.entry
  refine closing.entry entry fun c => List.count_eq_zero.mpr fun mem => ?_
  exact List.any_eq_false.mp idle _ mem rfl

/-- A job that has no closing to ask for may end. -/
theorem finish (closing : Closing l) {id : JobId} {j : Job} (job : l.job? id = some j)
    (done : ∀ c, j.closes c = false) : Closing (l.finish id) := by
  refine ⟨closing.numbered.finish id, fun c => ?_⟩
  have balance := closing.balance c
  rw [closing.numbered.countP_finish job (Job.closes c), done c] at balance
  exact balance

/-- A job that has no closing to ask for may go on. -/
theorem become (closing : Closing l) {id : JobId} {j j' : Job} (job : l.job? id = some j)
    (done : ∀ c, j.closes c = false) (done' : ∀ c, j'.closes c = false) :
    Closing (l.become id j') := by
  refine ⟨closing.numbered.become id j', fun c => ?_⟩
  have balance := closing.balance c
  have jobs := closing.numbered.countP_become job j' (Job.closes c)
  rw [done c, done' c] at jobs
  rw [Nat.add_right_cancel jobs] at balance
  exact balance

/-- A job that asks for a closing goes on and has none to ask for. -/
theorem asked (closing : Closing l) {id : JobId} {j j' : Job} {c : ChannelId}
    (job : l.job? id = some j) (due : ∀ c', j.closes c' = decide (c = c'))
    (done : ∀ c', j'.closes c' = false) : Closing ((l.become id j').note (.closing c)) := by
  refine ⟨(closing.numbered.become id j').entry (.note _ rfl), fun c' => ?_⟩
  have balance := closing.balance c'
  have jobs := closing.numbered.countP_become job j' (Job.closes c')
  rw [due c', done c'] at jobs
  have created : ((l.become id j').note (.closing c)).created = l.created := by
    simp only [created, note, List.filterMap_append]
    exact List.append_nil _
  have journal : ((l.become id j').note (.closing c)).journal.count (.closing c') =
      l.journal.count (.closing c') + if c = c' then 1 else 0 := by
    by_cases same : c = c' <;> simp [note, Link.become, same]
  have after : ((l.become id j').note (.closing c)).jobs = (l.become id j').jobs := rfl
  simp only [decide_eq_true_eq, Bool.false_eq_true, ↓reduceIte] at jobs
  rw [created, journal, after]
  omega

theorem turn {s : Step σ} (h : Turn s l l') (closing : Closing l) : Closing l' := by
  have answered : ∀ {id : JobId} {j : Job} (answer : Except Fault ChannelId),
      l.job? id = some j → (∀ c, j.closes c = false) → Closing (l.take id answer) :=
    fun answer job done => (closing.finish job done).entry (.take ..) (by simp)
  cases h with
  | dialed _ job | redialed _ job =>
    exact (closing.become job (fun _ => rfl) fun _ => rfl).entry (.note _ rfl) (by simp)
  | tearing _ job | cleaning _ job => exact closing.asked job (fun _ => rfl) fun _ => rfl
  | abandoned _ job => exact (closing.finish job fun _ => rfl).entry (.hangUp _) (by simp)
  | @toreDown _ _ id c ticket job =>
    have done : ∀ c', (Job.teardown c ticket c.isSome).closes c' = false := by
      intro c'
      cases c <;> rfl
    exact (closing.finish job done).entry (.trans (.drop _) (.note _ rfl)) (by simp)
  | @ended _ _ id j job ending =>
    refine closing.finish job fun c => ?_
    cases j with
    | cleanup c' asked =>
      cases asked with
      | true => rfl
      | false => cases ending
    | attempt | teardown => exact ending.elim
    | retry | watch | report | rejection => rfl
  | turnedAway _ job _ answer =>
    exact (answered answer job fun _ => rfl).entry (.turnAway ..) (by simp)
  | undone _ job _ _ answer => exact (answered answer job fun _ => rfl).entry (.undo ..) (by simp)
  | succeeded _ job _ _ _ c =>
    exact (answered (.ok c) job fun _ => rfl).entry (.putToUse ..) (by simp)
  | collided _ job _ _ _ c =>
    have installed := (answered (.ok c) job fun _ => rfl).entry (.install _ c) (by simp)
    exact installed.entry (.undo ..) (by simp)
  | gaveUp _ job _ _ _ _ cause =>
    exact (answered (.error cause) job fun _ => rfl).entry (.giveUp ..) (by simp)

end Closing

/-- Closings asked for, and closings still to be asked for, are as many as jobs were created for
them, after every run. -/
theorem closing_kept (o : Surroundings σ) : Kept o fun _ l => Closing l where
  stroke := Closing.stroke
  turn := Closing.turn
  takeUp {l id ticket bootstrap epoch} cause up closing := by
    have taken : Closing (l.take id (.error cause)) :=
      (closing.finish up.job fun _ => rfl).entry (.take ..) (by simp)
    refine taken.entry (.takeUp _ ticket bootstrap cause) fun c => ?_
    split <;> split <;> simp
  plan delay closing := closing.entry (.plan ..) (by simp)
  breakDown _ closing := closing.entry (.settle? ..) (by simp)

/-! ## A disconnected link comes to rest -/

theorem Settling.new (identity : Identity) (environment : Environment) (outside : σ) :
    Settling (Link.new identity environment outside) :=
  .of_wanted (.new identity environment outside) (.new identity environment outside)
    (by simp [Link.new]) rfl

theorem Closing.new (identity : Identity) (environment : Environment) (outside : σ) :
    Closing (Link.new identity environment outside) :=
  ⟨.new identity environment outside, fun _ => rfl⟩

/-- A link that was to be disconnected has come to rest when nothing is left to work off. -/
theorem Sound.at_rest {loose : Prop} (sound : Sound loose none l.core)
    (barred : l.disconnected = true) (done : ∀ e ∈ l.jobs, ¬ e.2.Works) :
    l.state = .disconnected ∧ l.channel = none := by
  have noChain : l.core.pending = [] :=
    List.filterMap_eq_nil_iff.mpr fun e he => (Job.of_not_works (done e he)).1
  have noTeardown : l.core.teardowns = 0 :=
    List.countP_eq_zero.mpr fun e he => by simp [(Job.of_not_works (done e he)).2]
  have barred : l.core.disconnected = true := barred
  have idle : l.core.workers none = 0 := by simp [Core.workers, noChain]
  have fits := sound.fits
  unfold Core.Fits at fits
  cases h : l.state with
  | disconnected =>
    have h : l.core.state = .disconnected := h
    simp only [h] at fits
    exact ⟨rfl, fits.1⟩
  | connecting =>
    have h : l.core.state = .connecting := h
    simp only [h] at fits
    rcases fits.2 with one | ⟨-, wanted⟩
    · omega
    · exact absurd (barred.symm.trans wanted) (by decide)
  | connected =>
    have h : l.core.state = .connected := h
    simp only [h] at fits
    exact absurd (barred.symm.trans fits.2.2) (by decide)
  | disconnecting =>
    have h : l.core.state = .disconnecting := h
    simp only [h] at fits
    exact absurd noTeardown fits.2.2

/-- After the first call of disconnect, whenever it is made,
* the link is not connected and never becomes so, and no channel is put into its slot;
* the epoch stays what it was, no retry calls the connector, and neither does an attempt that was
  not there before;
* for every channel that an attempt delivers, one job is created that closes it, and every job
  that closes a channel asks for it once;
* the link is disconnected and without a channel as soon as it has nothing left to work off. Only
  this rests on epochs that have not wrapped round. -/
theorem disconnect_settles (quiet : o.Quiet) (depth : Nat) {steps : List (Step σ)}
    (ordinary : ∀ s ∈ steps, s.Ordinary) (identity : Identity) (environment : Environment)
    (outside : σ) {l : Link σ} (reached : l = run o depth steps (.new identity environment outside))
    (called : .called .disconnect ∈ l.journal) :
    ((l.state ≠ .connected ∧ ∀ c told, .changed c told ∈ l.aftermath → c.target ≠ .connected) ∧
      ∀ c, .installed c ∉ l.aftermath) ∧
    (l.epoch = UInt64.ofNat (l.beforehand.countP Act.startsChain) ∧
      (∀ id delay epoch options, .spawned id (.retry delay epoch) ∈ l.journal →
        .dialed id options ∉ l.aftermath) ∧
      ∀ id options, .dialed id options ∈ l.aftermath → l.Fresh id) ∧
    (∀ c, l.aftermath.countP (·.disposesOf c) = l.aftermath.countP (·.delivers c) ∧
      l.journal.count (.closing c) + l.jobs.countP (·.2.closes c) =
        l.created.countP (·.2.closes c)) ∧
    (l.chains < UInt64.size → (∀ e ∈ l.jobs, ¬ e.2.Works) →
      l.state = .disconnected ∧ l.channel = none) := by
  have settling := (settling_kept o).run quiet depth ordinary (.new identity environment outside)
  have closing := (closing_kept o).run quiet depth ordinary (.new identity environment outside)
  have counted := (epoch_kept o).run quiet depth ordinary (l := .new identity environment outside)
    rfl
  have sound := sound_run quiet depth ordinary identity environment outside
  have parted := (parted_kept o).run quiet depth ordinary (l := .new identity environment outside)
    fun barred => absurd barred Bool.false_ne_true
  rw [← reached] at settling closing counted sound parted
  have whole : l.journal = l.beforehand ++ .called .disconnect :: l.aftermath :=
    Act.upTo_append_since called
  refine ⟨⟨⟨parted (settling.flag.mpr called), fun c told => settling.tame.calm _⟩,
    fun c => settling.tame.calm _⟩, ⟨?_, ?_, ?_⟩,
    fun c => ⟨settling.tame.disposed c, closing.balance c⟩, fun few done => ?_⟩
  · have none : l.aftermath.countP Act.startsChain = 0 :=
      List.countP_eq_zero.mpr fun a ha => by simp [(settling.tame.calm a ha).startsChain]
    have chains : l.chains = l.beforehand.countP Act.startsChain := by
      rw [chains, whole, List.countP_append, List.countP_cons, none]
      rfl
    rw [counted, chains]
  · intro id delay epoch options planned dialed
    obtain ⟨ticket, bootstrap, epoch', fresh⟩ := settling.tame.calm _ dialed
    have attempted : .spawned id (.attempt ticket bootstrap epoch' false) ∈ l.journal := by
      rw [whole]
      exact List.mem_append_left _ fresh
    cases settling.recorded.unique planned attempted
  · intro id options dialed
    exact settling.tame.calm _ dialed
  · exact (sound few).at_rest (settling.flag.mpr called) done

/-- A link that is disconnected while its first attempt is under way closes what the attempt
delivers, once, and comes to rest. -/
theorem disconnect_settles_under_way :
    let steps : List (Step Unit) := [.call .connect, .start 0, .call .disconnect,
      .answer 0 (.ok 7), .start 1, .closed 1 none]
    let l := run .insistent 2 steps .sample
    .called .disconnect ∈ l.journal ∧ l.aftermath.countP (·.delivers 7) = 1 ∧
      l.journal.count (.closing 7) = 1 ∧ l.state = .disconnected ∧ l.channel = none := by
  intro steps l
  have ordinary : ∀ s ∈ steps, s.Ordinary := by simp [steps, Step.Ordinary]
  have called : .called .disconnect ∈ l.journal := by decide
  have delivered : l.aftermath.countP (·.delivers 7) = 1 := by decide
  have idle : l.jobs = [] := by decide
  have few : l.chains < UInt64.size := by decide
  obtain ⟨-, -, closed, rest⟩ := disconnect_settles (l := l) Surroundings.insistent_quiet 2
    ordinary _ _ () rfl called
  have asked : l.journal.count (.closing 7) = l.created.countP (·.2.closes 7) := by
    have := (closed 7).2
    rwa [idle, List.countP_nil, Nat.add_zero] at this
  refine ⟨called, delivered, asked.trans (by decide), ?_⟩
  exact rest few (by simp [idle])

end Link

end NodeLink
