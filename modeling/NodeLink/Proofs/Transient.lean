import NodeLink.Proofs.Course
import NodeLink.Proofs.Settlement

/-!
# Transient links

A transient link never tries again. Each connect that starts a chain makes one attempt, and what
becomes of the attempt is what the caller is told. A lost channel is nothing to such a link, and it
asks for a reload only when it is called to.

The law is kept by the *lone* attempt: while the link is connecting, one attempt is pending and it
is of the current epoch, and otherwise none is, except that a disconnect leaves behind the one that
was under way. So no attempt ever finds that another chain has taken its place, however many
chains were started.
-/

set_option autoImplicit false

namespace NodeLink

open Lifecycle (State)

namespace Act

/-- Whether an act is one that a turn may write. -/
def ofTurn : Act → Bool
  | .dialed .. | .answered .. | .installed _ | .closing _ | .spawned _ (.watch _) => true
  | a => a.isTrace

theorem ofTurn_of_isTrace (a : Act) (trace : a.isTrace = true) : a.ofTurn = true := by
  cases a with
  | spawned id j => cases j <;> first | rfl | cases trace
  | _ => first | rfl | cases trace

/-- Whether an act is one of a link that tries again, or tries without being asked. -/
def insists : Act → Bool
  | .consulted _ | .spawned _ (.retry ..) => true
  | .spawned _ (.attempt ticket bootstrap _ dialing) => ticket.isNone || !bootstrap || dialing
  | _ => false

theorem insists_of_ofTurn (a : Act) (turn : a.ofTurn = true) : a.insists = false := by
  cases a with
  | spawned id j => cases j <;> first | rfl | cases turn
  | _ => first | rfl | cases turn

/-- Whether an act has to do with a reload of the configuration. -/
def ofReload : Act → Bool
  | .called .signalReload | .published .reload _ | .returned .signalReload => true
  | _ => false

theorem ofReload_of_ofTurn (a : Act) (turn : a.ofTurn = true) : a.ofReload = false := by
  cases a <;> first | rfl | cases turn

/-- What no act of a turn is, none of some acts of a turn is. -/
theorem any_of_turns {acts : List Act} (turns : acts.all ofTurn = true) {p : Act → Bool}
    (other : ∀ a : Act, a.ofTurn = true → p a = false) : acts.any p = false :=
  List.any_eq_false.mpr fun a mem holds =>
    absurd ((other a (List.all_eq_true.mp turns a mem)).symm.trans holds) (by decide)

/-- Traces are acts of turns. -/
theorem turns_of_traces {acts : List Act} (traces : acts.all isTrace = true) :
    acts.all ofTurn = true :=
  List.all_eq_true.mpr fun a mem => ofTurn_of_isTrace a (List.all_eq_true.mp traces a mem)

/-- Whether an act calls the connector for the attempt of a job. -/
def dials (id : JobId) : Act → Bool
  | .dialed id' _ => id' = id
  | _ => false

end Act

/-- Whether a pending job is an attempt that has yet to call the connector. -/
def Job.undialed (id : JobId) : JobId × Job → Bool
  | (id', .attempt _ _ _ false) => id' = id
  | _ => false

/-- Whether an act creates an attempt that is to call the connector. -/
def Act.opens (id : JobId) (a : Act) : Bool := (a.creation?.map (Job.undialed id)).getD false

/-- An attempt or a retry whose creation does not insist is a first attempt. -/
theorem Job.first_of_patient {id : JobId} {j : Job} (patient : ¬ Act.insists (.spawned id j) = true)
    {epoch : UInt64} (chain : j.chain? = some epoch) :
    ∃ t, j = .attempt (some t) true epoch false := by
  cases j with
  | attempt ticket bootstrap ep dialing =>
    cases chain
    cases ticket <;> cases bootstrap <;> cases dialing <;>
      first | exact ⟨_, rfl⟩ | exact absurd rfl patient
  | retry => exact absurd rfl patient
  | _ => cases chain

namespace Link

variable {σ : Type} {o : Surroundings σ} {nested : Call → Link σ → Link σ} {l k l' : Link σ}

/-! ## What turns and strokes write -/

/-- A turn writes acts of its own kind only. -/
theorem Turn.acts {s : Step σ} (h : Turn s l l') :
    ∃ acts, l'.journal = l.journal ++ acts ∧ acts.all Act.ofTurn = true := by
  have turns : ∀ {acts : List Act}, acts.all Act.isTrace = true → acts.all Act.ofTurn = true :=
    Act.turns_of_traces
  cases h with
  | dialed | redialed | tearing | cleaning => exact ⟨_, rfl, rfl⟩
  | ended => exact ⟨[], (List.append_nil _).symm, rfl⟩
  | abandoned => exact ⟨_, journal_hangUp _, turns (by simp)⟩
  | toreDown => exact ⟨_, journal_toreDown .., turns (by simp [Act.isTraceBut, Act.trace?])⟩
  | @turnedAway _ id _ _ _ _ _ answer =>
    refine ⟨_, (Entry.trans (.take l id answer) (.turnAway ..)).journal, ?_⟩
    exact Bool.and_eq_true_iff.mpr ⟨rfl, turns (by simp)⟩
  | @undone _ id _ _ _ _ _ _ answer =>
    refine ⟨_, (Entry.trans (.take l id answer) (.undo ..)).journal, ?_⟩
    exact Bool.and_eq_true_iff.mpr ⟨rfl, turns (by simp)⟩
  | @collided _ id _ _ _ _ _ _ _ c =>
    refine ⟨_, (((Entry.take l id (.ok c)).trans (.install _ c)).trans (.undo ..)).journal, ?_⟩
    exact Bool.and_eq_true_iff.mpr ⟨rfl, Bool.and_eq_true_iff.mpr ⟨rfl, turns (by simp)⟩⟩
  | @succeeded _ id ticket _ _ _ _ _ _ c =>
    refine ⟨_, (Entry.trans (.take l id (.ok c)) (.putToUse ..)).journal, ?_⟩
    simp [Act.ofTurn, turns (traces_passage _ _ List.not_mem_nil),
      turns (traces_settling _ _ List.not_mem_nil)]
  | @gaveUp _ id _ _ _ _ _ _ _ _ cause =>
    refine ⟨_, (Entry.trans (.take l id (.error cause)) (.giveUp ..)).journal, ?_⟩
    exact Bool.and_eq_true_iff.mpr ⟨rfl, turns (by simp)⟩

/-- A stroke of a transient link does not insist on anything. -/
theorem Stroke.acts (h : Stroke l l') (transient : l.identity.transient = true) :
    ∃ acts, l'.journal = l.journal ++ acts ∧ acts.any Act.insists = false := by
  have idle : ∀ {acts : List Act}, acts.all Act.isTrace = true → acts.any Act.insists = false :=
    fun traces => Act.any_of_turns (Act.turns_of_traces traces) Act.insists_of_ofTurn
  cases h with
  | drifted | counted | marked | attended => exact ⟨[], (List.append_nil _).symm, rfl⟩
  | @noted a plain =>
    have idle : a.insists = false := by cases a <;> first | rfl | cases plain
    exact ⟨[a], rfl, by simp [idle]⟩
  | returned | ignored => exact ⟨_, rfl, rfl⟩
  | @spawned j quiet =>
    have idle : Act.insists (.spawned l.jobCount j) = false := by
      cases j <;> first | rfl | cases quiet
    exact ⟨[.spawned l.jobCount j], rfl, by simp [idle]⟩
  | opened =>
    refine ⟨_, (Entry.trans (.note l rfl) (.setOut _ true)).journal, ?_⟩
    simp [settingOut, Act.insists, idle (traces_passage _ _ List.not_mem_nil)]
  | restarted _ persistent => exact absurd (transient.symm.trans persistent) (by decide)
  | dropped => exact ⟨_, (Entry.drop l).journal, idle (by simp)⟩
  | hungUp =>
    refine ⟨_, (Entry.trans (.note l rfl) (.hangUp _)).journal, ?_⟩
    simp [Act.insists, idle (traces_hangingUp _ List.not_mem_nil List.not_mem_nil List.not_mem_nil)]

/-! ## The lone attempt -/

/-- What the state of a transient link tells of the attempts that are pending. -/
structure Core.Lone (c : Core) : Prop where
  fits : match c.state with
    | .disconnected => c.pending = [] ∨ c.pending = [c.epoch] ∧ c.disconnected = true
    | .connecting => c.pending = [c.epoch] ∧ c.disconnected = false
    | .connected => c.pending = [] ∧ c.disconnected = false
    | .disconnecting => c.pending = [] ∧ c.disconnected = true
  torn : c.teardowns ≠ 0 → c.disconnected = true

namespace Core.Lone

variable {c : Core}

/-- One attempt is pending, and of the current epoch, or none is. -/
theorem pending (lone : c.Lone) : c.pending = [] ∨ c.pending = [c.epoch] ∧
    (c.state = .connecting ∧ c.disconnected = false ∨
      c.state = .disconnected ∧ c.disconnected = true) := by
  have fits := lone.fits
  split at fits
  next down => exact fits.imp_right fun one => ⟨one.1, .inr ⟨down, one.2⟩⟩
  next connecting => exact .inr ⟨fits.1, .inl ⟨connecting, fits.2⟩⟩
  next => exact .inl fits.1
  next => exact .inl fits.1

/-- A link that nobody disconnected has no attempt pending while it is disconnected. -/
theorem setOut (lone : c.Lone) (wanted : c.disconnected = false) (down : c.state = .disconnected) :
    c.setOut.Lone := by
  have none : c.pending = [] := by
    obtain none | ⟨-, ⟨connecting, -⟩ | ⟨-, barred⟩⟩ := lone.pending
    · exact none
    · exact absurd (down.symm.trans connecting) (by decide)
    · exact absurd (wanted.symm.trans barred) (by decide)
  exact ⟨⟨by rw [Core.setOut, none, List.nil_append], wanted⟩, lone.torn⟩

/-- A link that was to be disconnected may drop its channel, also when a teardown ends. -/
theorem drop (lone : c.Lone) (barred : c.disconnected = true) (n : Nat) :
    Core.Lone { c with state := .disconnected, channel := none, teardowns := n } where
  fits := lone.pending.imp_right fun one => ⟨one.1, barred⟩
  torn _ := barred

theorem hangUp (lone : c.Lone) : c.hangUp.Lone := by
  have fits := lone.fits
  unfold Core.hangUp
  split at fits
  next down =>
    simp only [down]
    exact ⟨fits.imp_right fun one => ⟨one.1, rfl⟩, fun _ => rfl⟩
  next connecting =>
    simp only [connecting]
    exact ⟨.inr ⟨fits.1, rfl⟩, fun _ => rfl⟩
  next connected =>
    simp only [connected]
    exact ⟨⟨fits.1, rfl⟩, fun _ => rfl⟩
  next leaving =>
    simp only [leaving]
    exact ⟨⟨fits.1, rfl⟩, fun _ => rfl⟩

/-- The pending attempt leaves none behind. It finds the link connecting, unless it was to be
disconnected. -/
theorem left (lone : c.Lone) {before after : List UInt64} {epoch : UInt64}
    (pending : c.pending = before ++ epoch :: after) : epoch = c.epoch ∧ before ++ after = [] ∧
      (c.state = .connecting ∧ c.disconnected = false ∨
        c.state = .disconnected ∧ c.disconnected = true) := by
  obtain none | ⟨one, found⟩ := lone.pending
  · simp [none] at pending
  · rw [one] at pending
    obtain ⟨rfl, same⟩ | ⟨_, rfl, same⟩ := List.cons_eq_append_iff.mp pending
    · obtain ⟨rfl, rfl⟩ := List.cons.inj same
      exact ⟨rfl, rfl, found⟩
    · simp at same

end Core.Lone

/-- What holds of a transient link after every run. -/
structure Lone (l : Link σ) : Prop where
  numbered : Numbered l
  recorded : Recorded l
  transient : l.identity.transient = true
  core : l.core.Lone
  content : l.journal.any Act.insists = false

namespace Lone

theorem new {identity : Identity} (transient : identity.transient = true)
    (environment : Environment) (outside : σ) : Lone (Link.new identity environment outside) where
  numbered := .new ..
  recorded := .new ..
  transient := transient
  core := ⟨.inl rfl, fun torn => absurd rfl torn⟩
  content := rfl

/-- No act of a transient link insists. -/
theorem not_mem (lone : Lone l) {a : Act} (insists : a.insists = true) : a ∉ l.journal :=
  fun mem => List.any_eq_false.mp lone.content a mem insists

/-- What is pending of a chain is the first attempt of the current one. -/
theorem job (lone : Lone l) {id : JobId} {j : Job} (mem : (id, j) ∈ l.jobs) {epoch : UInt64}
    (chain : j.chain? = some epoch) : epoch = l.epoch ∧ ∃ t dialing,
      j = .attempt (some t) true epoch dialing ∧
        .spawned id (.attempt (some t) true epoch false) ∈ l.journal := by
  have pending : epoch ∈ l.core.pending := List.mem_filterMap.mpr ⟨_, mem, chain⟩
  obtain ⟨before, after, split⟩ := List.append_of_mem pending
  obtain ⟨current, -, -⟩ := lone.core.left split
  refine ⟨current, ?_⟩
  obtain ⟨j₀, spawned, becomes⟩ := lone.recorded.origin _ mem
  have patient : ¬ Act.insists (.spawned id j₀) = true :=
    fun insists => lone.not_mem insists spawned
  cases becomes with
  | same =>
    obtain ⟨t, rfl⟩ := Job.first_of_patient patient chain
    exact ⟨t, false, rfl, spawned⟩
  | dialed =>
    obtain ⟨t, same⟩ := Job.first_of_patient patient chain
    cases same
    exact ⟨t, true, rfl, spawned⟩
  | redialed => exact absurd rfl patient
  | tearing | cleaning => cases chain

/-- No retry is pending. -/
theorem no_retry (lone : Lone l) {id : JobId} {delay : Nat} {epoch : UInt64} :
    l.job? id ≠ some (.retry delay epoch) := by
  intro job
  obtain ⟨-, t, dialing, first, -⟩ := lone.job (mem_jobs job) rfl
  cases first

/-- The attempt that is answered leaves none behind. -/
theorem core_take (lone : Lone l) {id : JobId} {ticket : Option TicketId}
    {bootstrap dialing : Bool} {epoch : UInt64}
    (job : l.job? id = some (.attempt ticket bootstrap epoch dialing))
    (answer : Except Fault ChannelId) :
    (l.take id answer).core = { l.core with pending := [] } ∧ epoch = l.epoch ∧
      (l.state = .connecting ∧ l.disconnected = false ∨
        l.state = .disconnected ∧ l.disconnected = true) := by
  obtain ⟨before, after, pending, left⟩ := core_finish_chain lone.numbered job rfl
  obtain ⟨current, none, found⟩ := lone.core.left pending
  rw [none] at left
  exact ⟨(Link.core_take l id answer).trans left, current, found⟩

theorem stroke (h : Stroke l l') (lone : Lone l) : Lone l' where
  numbered := lone.numbered.stroke h
  recorded := lone.recorded.stroke h
  transient := h.identity ▸ lone.transient
  core := by
    rcases h.core with same | ⟨wanted, down, same⟩ | ⟨-, persistent, -⟩ | ⟨barred, same⟩ | same
    · exact same ▸ lone.core
    · exact same ▸ lone.core.setOut wanted down
    · exact absurd (lone.transient.symm.trans persistent) (by decide)
    · exact same ▸ lone.core.drop barred _
    · exact same ▸ lone.core.hangUp
  content := by
    obtain ⟨acts, grown, idle⟩ := h.acts lone.transient
    rw [grown, List.any_append, lone.content, idle]
    rfl

/-- What a turn does to the core of a transient link. -/
theorem core_turn {s : Step σ} (h : Turn s l l') (lone : Lone l) : l'.core.Lone := by
  cases h with
  | dialed _ job | tearing _ job | cleaning _ job =>
    rw [core_note _ rfl, core_become lone.numbered job]
    · exact lone.core
    · rfl
    · rfl
  | redialed _ job | abandoned _ job => exact absurd job lone.no_retry
  | toreDown _ _ job =>
    obtain ⟨n, torn, left⟩ := core_finish_teardown lone.numbered job rfl
    rw [settle, core_note _ rfl, core_drop, left]
    exact lone.core.drop (lone.core.torn (by omega)) n
  | @ended _ _ _ j job ending =>
    cases j with
    | attempt | teardown => exact ending.elim
    | retry => exact absurd job lone.no_retry
    | cleanup | watch | report | rejection =>
      rw [core_finish_other lone.numbered job rfl rfl]
      exact lone.core
  | turnedAway _ job stale answer =>
    obtain ⟨-, current, -⟩ := lone.core_take job answer
    exact absurd current.symm stale
  | undone _ job _ down answer =>
    obtain ⟨left, -, found⟩ := lone.core_take job answer
    rw [core_undo, left]
    exact ⟨.inl rfl, lone.core.torn⟩
  | succeeded _ job _ wanted _ c =>
    obtain ⟨left, -, -⟩ := lone.core_take job (.ok c)
    rw [core_putToUse, left]
    exact ⟨⟨rfl, wanted⟩, lone.core.torn⟩
  | collided _ job _ _ connected c =>
    obtain ⟨-, -, ⟨connecting, -⟩ | ⟨down, -⟩⟩ := lone.core_take job (.ok c)
    · exact absurd (connected.symm.trans connecting) (by decide)
    · exact absurd (connected.symm.trans down) (by decide)
  | gaveUp _ job _ _ _ _ cause =>
    obtain ⟨left, -, -⟩ := lone.core_take job (.error cause)
    rw [core_giveUp, left]
    exact ⟨.inl rfl, lone.core.torn⟩

theorem turn {s : Step σ} (h : Turn s l l') (lone : Lone l) : Lone l' where
  numbered := lone.numbered.turn h
  recorded := lone.recorded.turn h lone.numbered
  transient := h.identity ▸ lone.transient
  core := lone.core_turn h
  content := by
    obtain ⟨acts, grown, turns⟩ := h.acts
    rw [grown, List.any_append, lone.content, Act.any_of_turns turns Act.insists_of_ofTurn]
    rfl

end Lone

/-- A transient link has no chain in hand, ever. -/
theorem lone_kept (o : Surroundings σ) : Kept o fun hand l => hand = none ∧ Lone l where
  stroke h holds := ⟨holds.1, holds.2.stroke h⟩
  turn h holds := ⟨rfl, holds.2.turn h⟩
  takeUp _ up holds := absurd (holds.2.transient.symm.trans up.persistent) (by decide)
  plan _ holds := absurd holds.1 (Option.some_ne_none _)
  breakDown _ holds := absurd holds.1 (Option.some_ne_none _)

/-! ## Every attempt calls the connector once -/

/-- Each attempt that was created has called the connector once, or is still to do so. -/
def Dialed (l : Link σ) : Prop :=
  ∀ id, l.journal.countP (Act.dials id) + l.jobs.countP (Job.undialed id) =
    l.journal.countP (Act.opens id)

namespace Dialed

variable {acts : List Act}

/-- Acts that call no connector may always follow. -/
theorem entry (dialed : Dialed l) (entry : Entry acts l l')
    (still : ∀ id, acts.countP (Act.dials id) = 0) : Dialed l' := by
  intro id
  have created : (acts.filterMap Act.creation?).countP (Job.undialed id) =
      acts.countP (Act.opens id) := List.countP_filterMap
  have balance := dialed id
  rw [entry.journal, entry.jobs]
  simp only [List.countP_append, still id, created]
  omega

/-- A job may end that is no attempt, or has called its connector. -/
theorem finish (dialed : Dialed l) (numbered : Numbered l) {id : JobId} {j : Job}
    (job : l.job? id = some j) (sent : ∀ id', Job.undialed id' (id, j) = false) :
    Dialed (l.finish id) := by
  intro id'
  obtain ⟨before, after, hjobs, hfinish, -⟩ := numbered.split job
  have balance := dialed id'
  rw [hjobs] at balance
  rw [hfinish]
  simp only [List.countP_append, List.countP_cons, sent id'] at balance ⊢
  exact balance

/-- A job may go on that is no attempt. -/
theorem goOn (dialed : Dialed l) (numbered : Numbered l) {id : JobId} {j j' : Job} {a : Act}
    (job : l.job? id = some j) (sent : ∀ id', Job.undialed id' (id, j) = false)
    (next : ∀ id', Job.undialed id' (id, j') = false) (none : a.creation? = none)
    (still : ∀ id', a.dials id' = false) : Dialed ((l.become id j').note a) := by
  have gone : Dialed (l.become id j') := by
    intro id'
    obtain ⟨before, after, hjobs, -, hbecome⟩ := numbered.split job
    have balance := dialed id'
    rw [hjobs] at balance
    rw [hbecome]
    simp only [List.countP_append, List.countP_cons, sent id', next id'] at balance ⊢
    exact balance
  exact gone.entry (.note _ none) fun id' => by simp [still id']

/-- An attempt calls the connector. -/
theorem dial (dialed : Dialed l) (numbered : Numbered l) {id : JobId} {ticket : Option TicketId}
    {bootstrap : Bool} {epoch : UInt64}
    (job : l.job? id = some (.attempt ticket bootstrap epoch false)) (options : ConnectOptions) :
    Dialed ((l.become id (.attempt ticket bootstrap epoch true)).note (.dialed id options)) := by
  intro id'
  obtain ⟨before, after, hjobs, -, hbecome⟩ := numbered.split job
  have balance := dialed id'
  rw [hjobs] at balance
  have same :
      ((l.become id (.attempt ticket bootstrap epoch true)).note (.dialed id options)).jobs =
        before ++ (id, .attempt ticket bootstrap epoch true) :: after := hbecome _
  have told : ((l.become id (.attempt ticket bootstrap epoch true)).note
      (.dialed id options)).journal = l.journal ++ [.dialed id options] := rfl
  have opens : Act.opens id' (.dialed id options) = false := rfl
  have sent : Job.undialed id' (id, .attempt ticket bootstrap epoch true) = false := rfl
  have turned : Act.dials id' (.dialed id options) =
      Job.undialed id' (id, .attempt ticket bootstrap epoch false) := rfl
  rw [same, told]
  simp only [List.countP_append, List.countP_cons, List.countP_nil, opens, sent, turned,
    Bool.false_eq_true, if_false] at balance ⊢
  omega

theorem stroke (h : Stroke l l') (dialed : Dialed l) : Dialed l' := by
  obtain ⟨acts, entry, idle⟩ := h.entry
  apply dialed.entry entry
  intro id
  apply List.countP_eq_zero.mpr
  intro a mem dials
  apply List.any_eq_false.mp idle a mem
  cases a <;> first | rfl | cases dials

theorem turn {s : Step σ} (h : Turn s l l') (lone : Lone l) (dialed : Dialed l) : Dialed l' := by
  have numbered := lone.numbered
  have still : ∀ {acts : List Act}, acts.all Act.isTrace = true →
      ∀ id, acts.countP (Act.dials id) = 0 := by
    intro acts traces id
    apply List.countP_eq_zero.mpr
    intro a mem dials
    have trace := List.all_eq_true.mp traces a mem
    cases a <;> first | cases dials | cases trace
  have taken : ∀ {id : JobId} {ticket : Option TicketId} {bootstrap : Bool} {epoch : UInt64},
      l.job? id = some (.attempt ticket bootstrap epoch true) →
      ∀ answer, Dialed (l.take id answer) := fun job answer =>
    (dialed.finish numbered job fun _ => rfl).entry (.take l _ answer) fun _ => rfl
  cases h with
  | dialed _ job options => exact dialed.dial numbered job options
  | redialed _ job | abandoned _ job => exact absurd job lone.no_retry
  | tearing _ job | cleaning _ job =>
    exact dialed.goOn numbered job (fun _ => rfl) (fun _ => rfl) rfl fun _ => rfl
  | toreDown _ _ job =>
    refine (dialed.finish numbered job fun _ => rfl).entry ((Entry.drop _).trans (.note _ rfl)) ?_
    exact still (by simp [Act.isTraceBut, Act.trace?])
  | @ended _ _ id j job ending =>
    apply dialed.finish numbered job
    intro id'
    cases j <;> first | rfl | cases ending
  | turnedAway _ job _ answer =>
    exact (taken job answer).entry (.turnAway ..) (still (by simp))
  | undone _ job _ _ answer => exact (taken job answer).entry (.undo ..) (still (by simp))
  | succeeded _ job _ _ _ c =>
    refine (taken job (.ok c)).entry (.putToUse ..) fun id => ?_
    simp [Act.dials, still (traces_passage _ _ List.not_mem_nil),
      still (traces_settling _ _ List.not_mem_nil)]
  | collided _ job _ _ _ c =>
    refine ((taken job (.ok c)).entry (.install ..) fun _ => rfl).entry (.undo ..) ?_
    exact still (by simp)
  | gaveUp _ job _ _ _ _ cause =>
    exact (taken job (.error cause)).entry (.giveUp ..) (still (by simp))

end Dialed

theorem dialed_kept (o : Surroundings σ) :
    Kept o fun hand l => (hand = none ∧ Lone l) ∧ Dialed l := by
  apply KeptUnder.kept _ (lone_kept o)
  constructor
  · intro hand l l' h _ _ dialed
    exact dialed.stroke h
  · intro s l l' h lone _ dialed
    exact dialed.turn h lone.2
  · intro l id ticket bootstrap epoch cause up lone
    exact absurd (lone.2.transient.symm.trans up.persistent) (by decide)
  · intro hand l delay held
    exact absurd held.1 (Option.some_ne_none _)
  · intro hand l loose held
    exact absurd held.1 (Option.some_ne_none _)

section Calls

variable {id : JobId}

/-- No name is given to two attempts. -/
theorem opens_le_one (recorded : Recorded l) : l.journal.countP (Act.opens id) ≤ 1 := by
  have created : (l.journal.filterMap Act.creation?).countP (Job.undialed id) =
      l.journal.countP (Act.opens id) := List.countP_filterMap
  have named : (l.journal.filterMap Act.creation?).countP (Job.undialed id) ≤
      (l.journal.filterMap Act.creation?).countP (·.1 == id) := by
    apply List.countP_mono_left
    intro e _ undialed
    obtain ⟨id', j⟩ := e
    cases j with
    | attempt _ _ _ dialing =>
      cases dialing with
      | false => exact beq_iff_eq.mpr (of_decide_eq_true undialed)
      | true => cases undialed
    | _ => cases undialed
  have names : (l.journal.filterMap Act.creation?).countP (·.1 == id) =
      ((l.journal.filterMap Act.creation?).map Prod.fst).count id := by
    rw [List.count, List.countP_map]
    rfl
  have once := List.nodup_iff_count_le_one.mp (recorded.names ▸ List.nodup_range) id
  omega

/-- An attempt that was created has called the connector once, or it waits to be taken up. -/
theorem Lone.dials (lone : Lone l) (dialed : Dialed l) {t : TicketId} {epoch : UInt64}
    (spawned : .spawned id (.attempt (some t) true epoch false) ∈ l.journal) :
    l.journal.countP (Act.dials id) = 1 ∨ l.journal.countP (Act.dials id) = 0 ∧
      l.job? id = some (.attempt (some t) true epoch false) := by
  have balance := dialed id
  have most : l.journal.countP (Act.opens id) ≤ 1 := opens_le_one lone.recorded
  have one : 0 < l.journal.countP (Act.opens id) :=
    List.countP_pos_iff.mpr ⟨_, spawned, decide_eq_true rfl⟩
  obtain none | some := Nat.eq_zero_or_pos (l.jobs.countP (Job.undialed id))
  · exact .inl (by omega)
  · refine .inr ⟨by omega, ?_⟩
    obtain ⟨⟨id', j⟩, mem, undialed⟩ := List.countP_pos_iff.mp some
    have waits : id' = id ∧ ∃ ticket bootstrap ep, j = .attempt ticket bootstrap ep false := by
      cases j with
      | attempt ticket bootstrap ep dialing =>
        cases dialing with
        | false => exact ⟨of_decide_eq_true undialed, _, _, _, rfl⟩
        | true => cases undialed
      | _ => cases undialed
    obtain ⟨rfl, ticket, bootstrap, ep, rfl⟩ := waits
    obtain ⟨-, t', dialing, same, origin⟩ := lone.job mem rfl
    cases same
    cases lone.recorded.unique origin spawned
    exact lone.numbered.job?_of_mem mem

/-- Only an attempt that was created calls the connector. -/
theorem Lone.spawned_of_dialed (lone : Lone l) (dialed : Dialed l) {options : ConnectOptions}
    (mem : .dialed id options ∈ l.journal) :
    ∃ t epoch, .spawned id (.attempt (some t) true epoch false) ∈ l.journal := by
  have balance := dialed id
  have one : 0 < l.journal.countP (Act.dials id) :=
    List.countP_pos_iff.mpr ⟨_, mem, decide_eq_true rfl⟩
  obtain ⟨a, created, opens⟩ :=
    List.countP_pos_iff.mp (show 0 < l.journal.countP (Act.opens id) by omega)
  have opened : ∃ ticket bootstrap epoch,
      a = .spawned id (.attempt ticket bootstrap epoch false) := by
    cases a with
    | spawned id' j =>
      cases j with
      | attempt ticket bootstrap epoch dialing =>
        cases dialing with
        | false =>
          obtain rfl : id' = id := of_decide_eq_true opens
          exact ⟨_, _, _, rfl⟩
        | true => cases opens
      | _ => cases opens
    | _ => cases opens
  obtain ⟨ticket, bootstrap, epoch, rfl⟩ := opened
  obtain ⟨t, same⟩ := Job.first_of_patient (fun insists => lone.not_mem insists created) rfl
  exact ⟨t, epoch, same ▸ created⟩

end Calls

/-! ## Reloads are asked for -/

/-- Acts in which a reload is published only by a call that asks for one, and once: the last thing
that such a call does. Calls that the surroundings make before the sink answers are within it. -/
inductive OnRequest : List Act → Prop
  | nil : OnRequest []
  | other {a : Act} {acts : List Act} (other : a.ofReload = false) (rest : OnRequest acts) :
      OnRequest (a :: acts)
  | signalled {meanwhile acts : List Act} (refusal : Option Refusal) (nested : OnRequest meanwhile)
      (rest : OnRequest acts) : OnRequest (.called .signalReload :: (meanwhile ++
        .published .reload refusal :: .returned .signalReload :: acts))

namespace OnRequest

variable {acts more : List Act}

theorem append (first : OnRequest acts) (second : OnRequest more) : OnRequest (acts ++ more) := by
  induction first with
  | nil => exact second
  | other quiet _ ih => exact .other quiet ih
  | signalled refusal nested _ _ ih =>
    rw [List.cons_append, List.append_assoc]
    exact .signalled refusal nested ih

/-- Acts that have to do with no reload. -/
theorem of_idle (idle : acts.any Act.ofReload = false) : OnRequest acts := by
  induction acts with
  | nil => exact .nil
  | cons a acts ih =>
    obtain ⟨quiet, rest⟩ := Bool.or_eq_false_iff.mp idle
    exact .other quiet (ih rest)

theorem of_turns (turns : acts.all Act.ofTurn = true) : OnRequest acts :=
  of_idle (Act.any_of_turns turns Act.ofReload_of_ofTurn)

theorem of_traces (traces : acts.all Act.isTrace = true) : OnRequest acts :=
  of_turns (Act.turns_of_traces traces)

theorem single {a : Act} (quiet : a.ofReload = false) : OnRequest [a] := .other quiet .nil

end OnRequest

/-- If the link is transient, it stays who it is, it counts no loss and no retry, and publishes a
reload on request only. -/
def Heeds (l l' : Link σ) : Prop :=
  l.identity.transient = true → l'.identity = l.identity ∧
    l'.reconnectAttempt = l.reconnectAttempt ∧ l'.metrics.losses = l.metrics.losses ∧
    l'.metrics.retries = l.metrics.retries ∧
    ∃ acts, l'.journal = l.journal ++ acts ∧ OnRequest acts

namespace Heeds

/-- A change of anything else. -/
theorem of {acts : List Act} (identity : l'.identity = l.identity)
    (attempt : l'.reconnectAttempt = l.reconnectAttempt) (metrics : l'.metrics = l.metrics)
    (journal : l'.journal = l.journal ++ acts) (request : OnRequest acts) : Heeds l l' :=
  fun _ => ⟨identity, attempt, by rw [metrics], by rw [metrics], acts, journal, request⟩

theorem amid (l : Link σ) (s : σ) : Heeds l (l.amid s) :=
  of rfl rfl rfl (List.append_nil _).symm .nil

theorem trans (first : Heeds l k) (second : Heeds k l') : Heeds l l' := by
  intro transient
  obtain ⟨identity, attempt, losses, retries, acts, grown, request⟩ := first transient
  obtain ⟨identity', attempt', losses', retries', more, grown', request'⟩ :=
    second (identity ▸ transient)
  refine ⟨identity'.trans identity, attempt'.trans attempt, losses'.trans losses,
    retries'.trans retries, acts ++ more, ?_, request.append request'⟩
  rw [grown', grown, List.append_assoc]

theorem note (l : Link σ) {a : Act} (quiet : a.ofReload = false) : Heeds l (l.note a) :=
  of rfl rfl rfl rfl (.single quiet)

theorem spawn (l : Link σ) (j : Job) : Heeds l (l.spawn j) :=
  of rfl rfl rfl rfl (.single rfl)

theorem count (l : Link σ) {c : Counter} (loss : c ≠ .loss) (retry : c ≠ .retry) :
    Heeds l (l.count c) :=
  fun _ => ⟨rfl, rfl, Metrics.get_set_other _ _ loss.symm, Metrics.get_set_other _ _ retry.symm,
    [], (List.append_nil _).symm, .nil⟩

theorem setOut (l : Link σ) (bootstrap : Bool) : Heeds l (l.setOut bootstrap) := by
  refine of ?_ ?_ ?_ (Entry.setOut l bootstrap).journal ?_
  · rw [setOut_eq]
  · rw [setOut_eq]
  · rw [setOut_eq]
  · exact (OnRequest.of_traces (traces_passage _ _ List.not_mem_nil)).append (.single rfl)

theorem hangUp (l : Link σ) : Heeds l l.hangUp := by
  refine of (identity_hangUp l) ?_ ?_ (journal_hangUp l) (.of_traces (by simp))
  · unfold Link.hangUp
    split <;> simp only [bar, drop_eq, shift_eq, issue, Link.spawn, Link.note]
  · unfold Link.hangUp
    split <;> simp only [bar, drop_eq, shift_eq, issue, Link.spawn, Link.note]

/-- A transient link does not mind a loss. -/
theorem of_loses {R : Occasion → Link σ → Link σ → Prop} (loses : Loses R l l') : Heeds l l' := by
  intro transient
  cases loses with
  | heedless => exact amid l l.outside transient
  | down persistent | restarted persistent | dropped persistent =>
    exact absurd (transient.symm.trans persistent) (by decide)

/-- A call publishes a reload if it is the one that asks for it. -/
theorem of_performs {c : Call} (h : Performs o (Within o Heeds) c (l.note (.called c)) k) :
    Heeds l (k.note (.returned c)) := by
  have other : Act.ofReload (.called c) = false → Act.ofReload (.returned c) = false →
      Heeds (l.note (.called c)) k → Heeds l (k.note (.returned c)) := by
    intro called returned kept
    exact ((note l called).trans kept).trans (note k returned)
  cases h with
  | ignored _ _ s => exact other rfl rfl (amid _ s)
  | opened _ _ _ s => exact other rfl rfl ((setOut _ true).trans (amid _ s))
  | hungUp _ s => exact other rfl rfl ((hangUp _).trans (amid _ s))
  | lost loses => exact other rfl rfl (of_loses loses)
  | reloaded reloads =>
    obtain ⟨meanwhile, refusal, s⟩ := reloads
    intro transient
    obtain ⟨identity, attempt, losses, retries, acts, grown, request⟩ := meanwhile.1 transient
    refine ⟨identity, attempt, losses, retries, _, ?_, .signalled refusal request .nil⟩
    simp [Link.note, Link.amid, Link.count, grown]
  | flushed _ _ _ _ meanwhile =>
    apply other rfl rfl
    exact ((note _ rfl).trans meanwhile.1).trans (of rfl rfl rfl (List.append_nil _).symm .nil)
  | unflushed => exact other rfl rfl (amid _ _)
  | wrote _ _ _ _ meanwhile =>
    apply other rfl rfl
    exact ((note _ rfl).trans meanwhile.1).trans (of rfl rfl rfl (List.append_nil _).symm .nil)
  | @redirected _ k r _ s meanwhile refusal t =>
    apply other rfl rfl
    have quiet : (redirecting r refusal).any Act.ofReload = false := by cases refusal <;> rfl
    have counted : Heeds (l.note (.called (.send r))) _ :=
      count _ (c := .redirect) (by decide) (by decide)
    have published := (counted.trans (amid _ s)).trans meanwhile.1
    exact published.trans (of rfl rfl rfl rfl (.of_idle quiet))
  | @rejected _ r =>
    apply other rfl rfl
    have counted : Heeds (l.note (.called (.send r))) _ :=
      count _ (c := .rejection) (by decide) (by decide)
    exact counted.trans (spawn _ _)

/-- A job of a transient link that goes on publishes nothing. -/
theorem turn {s : Step σ} (h : Turn s l l') (lone : Lone l) : Heeds l l' := by
  obtain ⟨acts, grown, turns⟩ := h.acts
  have same : l'.reconnectAttempt = l.reconnectAttempt ∧ l'.metrics = l.metrics := by
    cases h with
    | dialed | redialed | tearing | cleaning | ended => exact ⟨rfl, rfl⟩
    | abandoned _ job => exact absurd job lone.no_retry
    | toreDown => rw [drop_eq]; exact ⟨rfl, rfl⟩
    | turnedAway => rw [turnAway_eq]; exact ⟨rfl, rfl⟩
    | undone | collided => rw [undo_eq]; exact ⟨rfl, rfl⟩
    | succeeded => rw [putToUse_eq]; exact ⟨rfl, rfl⟩
    | gaveUp => rw [giveUp_eq]; exact ⟨rfl, rfl⟩
  exact of h.identity same.1 same.2 grown (.of_turns turns)

/-- Whatever a job counts, it is neither a loss nor a retry. -/
theorem toll (l k : Link σ) (acts : List Act) : Heeds k (k.count? (l.toll acts)) := by
  cases h : l.toll acts with
  | none => exact amid k k.outside
  | some c =>
    have other : c ≠ .loss ∧ c ≠ .retry := by
      unfold Link.toll at h
      repeat' split at h
      all_goals cases h
      all_goals decide
    exact count k other.1 other.2

end Heeds

theorem heeds_step (quiet : o.Quiet) (depth : Nat) {s : Step σ} (ordinary : s.Ordinary)
    (lone : Lone l) : Heeds l (step o depth s l) := by
  have calls := within_nested (o := o) Heeds.amid Heeds.trans quiet Heeds.of_performs depth
  have course := course_step quiet depth (within_occur Heeds.amid Heeds.trans calls) ordinary l
  generalize step o depth s l = l' at course ⊢
  cases course with
  | called performs => exact .of_performs performs
  | drifted _ _ t => exact .amid l t
  | attended => exact .of rfl rfl rfl (List.append_nil _).symm .nil
  | @turned _ _ k acts _ turn _ t =>
    exact ((Heeds.turn turn lone).trans (.toll l k acts)).trans (.amid _ t)
  | told => exact .of rfl rfl rfl rfl (.single rfl)
  | @lost id _ _ _ _ _ loses =>
    have ended : Heeds l (l.finish id) := .of rfl rfl rfl (List.append_nil _).symm .nil
    exact ended.trans (.of_loses loses)
  | planned up | brokeDown _ up =>
    exact absurd (lone.transient.symm.trans up.persistent) (by decide)

theorem heeds_run (quiet : o.Quiet) (depth : Nat) {steps : List (Step σ)}
    (ordinary : ∀ s ∈ steps, s.Ordinary) (lone : Lone l) : Heeds l (run o depth steps l) := by
  induction steps generalizing l with
  | nil => exact .amid l l.outside
  | cons s steps ih =>
    have advance := advance_step quiet depth (ordinary s List.mem_cons_self) l
    have after := (lone_kept o).advance advance ⟨rfl, lone⟩
    have first := heeds_step quiet depth (ordinary s List.mem_cons_self) lone
    exact first.trans (ih (fun t ht => ordinary t (List.mem_cons_of_mem _ ht)) after.2)

/-! ## Outcomes are reported -/

/-- A connect that starts a chain creates one attempt, and does nothing else to be seen. -/
theorem journal_setOut {l : Link σ} (down : l.state = .disconnected) :
    ∃ told, (l.setOut true).journal = l.journal ++ [.changed ⟨.disconnected, .connecting⟩ told,
      .spawned l.jobCount (.attempt (some l.ticketCount) true (l.epoch + 1) false)] := by
  refine ⟨!l.lifecycle.subscribers.isEmpty, ?_⟩
  rw [(Entry.setOut l true).journal]
  simp [settingOut, passage, down]

/-- An attempt calls the connector as soon as its job is taken up. -/
theorem step_start_attempt (o : Surroundings σ) (depth : Nat) {id : JobId}
    {ticket : Option TicketId} {bootstrap : Bool} {epoch : UInt64}
    (job : l.job? id = some (.attempt ticket bootstrap epoch false)) :
    ∃ options, (step o depth (.start id) l).journal = l.journal ++ [.dialed id options] := by
  simp only [step, stepWith, start, job]
  exact ⟨_, rfl⟩

namespace Lone

section Answer

variable (lone : Lone l) {id : JobId} {ticket : Option TicketId} {bootstrap : Bool}
  {epoch : UInt64} (job : l.job? id = some (.attempt ticket bootstrap epoch true))
  (wanted : l.disconnected = false)
include lone job wanted

/-- The attempt that is answered is the current one, and it finds that it is still wanted. -/
theorem connecting : l.epoch = epoch ∧ l.state = .connecting := by
  obtain ⟨-, current, ⟨connecting, -⟩ | ⟨-, barred⟩⟩ := lone.core_take job (.error .dropped)
  · exact ⟨current.symm, connecting⟩
  · exact absurd (wanted.symm.trans barred) (by decide)

/-- The caller of connect is told the answer itself. -/
theorem verdict (answer : Except Fault ChannelId) :
    l.verdict epoch answer = answer.map fun _ => .connected := by
  obtain ⟨current, connecting⟩ := lone.connecting job wanted
  cases answer <;> simp [Link.verdict, current, connecting, wanted, State.isDown, Except.map]

/-- The state tells how the attempt ended. -/
theorem state_answer (quiet : o.Quiet) (depth : Nat) (answer : Except Fault ChannelId) :
    (step o depth (.answer id answer) l).disconnected = false ∧
      (step o depth (.answer id answer) l).state =
        match answer with
        | .ok _ => .connected
        | .error _ => .disconnected := by
  obtain ⟨rfl, connecting⟩ := lone.connecting job wanted
  have up : ¬ (l.state.isDown = true ∨ l.disconnected = true) := by
    simp [connecting, wanted, State.isDown]
  have answered : step o depth (.answer id answer) l =
      conclude o (Link.nested o depth) ticket bootstrap l.epoch answer (l.take id answer) := by
    simp only [step, stepWith, job, Link.take]
  rw [answered]
  unfold conclude
  rw [epoch_take, state_take, disconnected_take, if_neg (not_not_intro rfl), if_neg up]
  cases answer with
  | ok c =>
    obtain ⟨s, hs⟩ := succeed_eq (Link.nested o depth) quiet ticket c
      (l := l.take id (.ok c)) connecting
    simp only [hs, state_amid, state_count, state_putToUse, and_true]
    rw [putToUse_eq]
    exact wanted
  | error cause =>
    obtain ⟨s, hs⟩ := fail_transient (Link.nested o depth) quiet ticket bootstrap l.epoch cause
      (l := l.take id (.error cause)) lone.transient
    simp only [hs, state_amid, state_count, state_giveUp, and_true]
    rw [giveUp_eq]
    exact wanted

end Answer

end Lone

/-- A transient link makes one attempt for each connect that starts a chain, and tells the caller
how it ended.

* A connect that starts a chain creates one attempt; any other one changes nothing.
* Nothing else creates an attempt, and nothing creates a retry. An attempt calls the connector once,
  as soon as its job is taken up, and nobody else calls it.
* What is pending of a chain is a first attempt, and of the current epoch: none is ever superseded.
* The backoff is never consulted, no reconnect is numbered, and no loss and no retry is counted.
* A reload is published by a call that asks for it and by nothing else.
* The notice of a connect is settled in the step in which its attempt is answered, once. Unless a
  disconnect was called before, it is settled with the answer: that the link is connected, which it
  is then, or with the attempt's own error, whatever its kind. In the latter case the link is
  disconnected, and the next connect starts a chain. -/
theorem transient_attempts_once (quiet : o.Quiet) (depth : Nat) {steps : List (Step σ)}
    (ordinary : ∀ s ∈ steps, s.Ordinary) {identity : Identity}
    (transient : identity.transient = true) (environment : Environment) (outside : σ)
    {start l : Link σ} (new : start = .new identity environment outside)
    (reached : l = run o depth steps start) :
    (∀ (nested : Call → Link σ → Link σ) (k : Link σ),
      (k.disconnected = true ∨ k.state ≠ .disconnected →
        ∃ s, connect o nested k = (.settled (.ok k.state), k.amid s)) ∧
      (k.disconnected = false → k.state = .disconnected →
        (∃ s, connect o nested k = (.pending k.ticketCount, (k.setOut true).amid s)) ∧
        ∃ told, (k.setOut true).journal = k.journal ++
          [.changed ⟨.disconnected, .connecting⟩ told,
            .spawned k.jobCount (.attempt (some k.ticketCount) true (k.epoch + 1) false)])) ∧
    (∀ id j, .spawned id j ∈ l.journal → j.chain? ≠ none →
      ∃ t epoch, j = .attempt (some t) true epoch false ∧
        (l.journal.countP (Act.dials id) = 1 ∨
          l.journal.countP (Act.dials id) = 0 ∧ l.job? id = some j ∧
          ∃ options, (step o depth (.start id) l).journal = l.journal ++ [.dialed id options])) ∧
    (∀ id options, .dialed id options ∈ l.journal →
      ∃ t epoch, .spawned id (.attempt (some t) true epoch false) ∈ l.journal) ∧
    (∀ id j epoch, l.job? id = some j → j.chain? = some epoch →
      epoch = l.epoch ∧ ∃ t dialing, j = .attempt (some t) true epoch dialing) ∧
    ((∀ attempt, .consulted attempt ∉ l.journal) ∧ l.reconnectAttempt = 1 ∧
      l.metrics.losses = 0 ∧ l.metrics.retries = 0) ∧
    OnRequest l.journal ∧
    ∀ id t epoch, .spawned id (.attempt (some t) true epoch false) ∈ l.journal →
      (∃ dialing, l.job? id = some (.attempt (some t) true epoch dialing)) ∧ l.outcomes t = [] ∨
      ∃ before answer after k outcome, steps = before ++ .answer id answer :: after ∧
        k = run o depth (before ++ [.answer id answer]) start ∧
        (run o depth before start).outcomes t = [] ∧ k.outcomes t = [outcome] ∧
        l.outcomes t = [outcome] ∧
        (.called .disconnect ∉ (run o depth before start).journal →
          (∀ c, answer = .ok c → outcome = .ok .connected ∧ k.state = .connected) ∧
          ∀ cause, answer = .error cause →
            outcome = .error cause ∧ k.state = .disconnected ∧
            ∀ nested, ∃ s,
              connect o nested k = (.pending k.ticketCount, (k.setOut true).amid s)) := by
  have lone : ∀ {steps : List (Step σ)}, (∀ s ∈ steps, s.Ordinary) →
      Lone (run o depth steps start) := fun ordinary =>
    ((lone_kept o).run quiet depth ordinary ⟨rfl, new ▸ .new transient ..⟩).2
  have dialed : Dialed l := by
    rw [reached]
    refine ((dialed_kept o).run quiet depth ordinary ⟨⟨rfl, new ▸ .new transient ..⟩, ?_⟩).2
    intro id
    rw [new]
    rfl
  have here : Lone l := reached ▸ lone ordinary
  have heeds : l.identity = start.identity ∧ l.reconnectAttempt = start.reconnectAttempt ∧
      l.metrics.losses = start.metrics.losses ∧ l.metrics.retries = start.metrics.retries ∧
      ∃ acts, l.journal = start.journal ++ acts ∧ OnRequest acts :=
    reached ▸ heeds_run quiet depth ordinary (new ▸ .new transient ..) (new ▸ transient)
  obtain ⟨-, attempt, losses, retries, acts, grown, request⟩ := heeds
  have first : ∀ {id j}, .spawned id j ∈ l.journal → j.chain? ≠ none →
      ∃ t epoch, j = .attempt (some t) true epoch false := by
    intro id j spawned chain
    obtain ⟨epoch, chain⟩ := Option.ne_none_iff_exists'.mp chain
    obtain ⟨t, same⟩ := Job.first_of_patient (fun insists => here.not_mem insists spawned) chain
    exact ⟨t, epoch, same⟩
  refine ⟨fun nested k => ⟨connect_ignored quiet nested, fun wanted down =>
    ⟨(connect_opened quiet nested wanted down).1, journal_setOut down⟩⟩, ?_, ?_, ?_, ?_, ?_, ?_⟩
  · intro id j spawned chain
    obtain ⟨t, epoch, rfl⟩ := first spawned chain
    refine ⟨t, epoch, rfl, (here.dials dialed spawned).imp_right fun waits => ?_⟩
    exact ⟨waits.1, waits.2, step_start_attempt o depth waits.2⟩
  · intro id options mem
    exact here.spawned_of_dialed dialed mem
  · intro id j epoch job chain
    obtain ⟨current, t, dialing, same, -⟩ := here.job (mem_jobs job) chain
    exact ⟨current, t, dialing, same⟩
  · refine ⟨fun attempt mem => here.not_mem rfl mem, ?_, ?_, ?_⟩
    · exact attempt.trans (congrArg Link.reconnectAttempt new)
    · exact losses.trans (congrArg (·.metrics.losses) new)
    · exact retries.trans (congrArg (·.metrics.retries) new)
  · rw [grown, new]
    exact request
  · intro id t epoch opened
    rw [reached] at opened ⊢
    obtain ⟨⟨dialing, pending⟩, none⟩ | ⟨before, answer, after, outcome, rfl, job, notYet, settled,
      once, verdict⟩ := settles_run quiet depth ordinary identity environment outside new opened
    · exact .inl ⟨⟨dialing, (lone ordinary).numbered.job?_of_mem pending⟩, none⟩
    · have early : ∀ s ∈ before, s.Ordinary := fun s hs => ordinary s (List.mem_append_left _ hs)
      refine .inr ⟨before, answer, after, _, outcome, rfl, rfl, notYet, settled, once,
        fun uncalled => ?_⟩
      have barred :=
        (barred_kept o).run quiet depth early (l := start) (by rw [new]; simp [Link.new])
      have wanted : (run o depth before start).disconnected = false := by
        rw [← Bool.not_eq_true, barred]
        exact uncalled
      obtain ⟨stays, state⟩ := (lone early).state_answer job wanted quiet depth answer
      have told : outcome = answer.map fun _ => .connected := by
        rw [verdict, (lone early).verdict job wanted]
        intro _ connected
        exact absurd (connected.symm.trans ((lone early).connecting job wanted).2) (by decide)
      rw [run_append]
      constructor
      · rintro c rfl
        exact ⟨told, state⟩
      · rintro cause rfl
        exact ⟨told, state, fun nested => connectWith_opened nested quiet true stays state⟩

/-- A transient link whose attempt failed, which does not mind the loss of a channel, and which a
later connect brings up. Its surroundings ask it to connect whenever it publishes a reload. -/
theorem transient_attempts_once_refused :
    let start : Link Unit :=
      .new ⟨⟨"node", 11210⟩, "bucket", ⟨"user", "secret"⟩, true⟩ (.ofSettings {}) ()
    let steps : List (Step Unit) := [.call .connect, .start 0, .answer 0 (.error .notConnected),
      .call .reportLoss, .call .signalReload, .start 1, .answer 1 (.ok 7), .lost 2]
    let l := run .insistent 2 steps start
    l.reconnectAttempt = 1 ∧ OnRequest l.journal ∧ l.state = .connected ∧
      l.journal.countP (Act.dials 0) = 1 ∧
      .spawned 0 (.attempt (some 0) true 1 false) ∈ l.journal ∧
      ∃ outcome, l.outcomes 0 = [outcome] := by
  intro start steps l
  have ordinary : ∀ s ∈ steps, s.Ordinary := by simp [steps, Step.Ordinary]
  have opened : .spawned 0 (.attempt (some 0) true 1 false) ∈ l.journal := by decide
  have settled : l.outcomes 0 ≠ [] := by decide
  obtain ⟨-, attempts, -, -, ⟨-, first, -⟩, request, told⟩ := transient_attempts_once (l := l)
    Surroundings.insistent_quiet 2 ordinary rfl _ () rfl rfl
  obtain ⟨-, -, -, dialed | ⟨none, -⟩⟩ := attempts 0 _ opened (by decide)
  · obtain ⟨-, none⟩ | ⟨before, answer, after, k, outcome, -, -, -, -, once, -⟩ := told 0 0 1 opened
    · exact absurd none settled
    · exact ⟨first, request, by decide, dialed, opened, outcome, once⟩
  · exact absurd none (by decide)

end Link

end NodeLink
