import NodeLink.Proofs.Account

/-!
# Counters in balance

The counters of a link are kept in many places, and what they count can be read off the rest of the
link: attempts that began have ended in one of three ways or still wait for the connector; retries
are counted as the attempt number goes up; a reload is asked for with every retry, with every loss
that finds a link up, and whenever somebody asks for it.

A call may add reloads, and leaves the counters of attempts and retries alone. This carries over to
the calls made within it, by induction on the depth. A job that goes on counts once.
-/

set_option autoImplicit false

namespace NodeLink

open Lifecycle (State Machine)

/-- Whether a counter counts what becomes of attempts. Calls leave these alone. -/
def Counter.ofWork : Counter → Bool
  | .attempt | .success | .failure | .retry | .discard => true
  | .reload | .redirect | .rejection | .loss => false

/-- Whether a job is an attempt that waits for its connector. -/
def Job.isDialing : Job → Bool
  | .attempt _ _ _ dialing => dialing
  | _ => false

/-- The number of the attempt that the backoff is consulted for. -/
def Act.consulted? : Act → Option UInt64
  | .consulted attempt => some attempt
  | _ => none

/-- Whether an act bears on the counters of attempts, retries or reloads. -/
def Act.stirs : Act → Bool
  | .called _ | .consulted _ => true
  | .spawned _ j => j.isDialing
  | _ => false

/-- Traces do not. -/
@[simp] theorem Act.stirs_of_traces {acts : List Act} (traces : acts.all Act.isTrace = true) :
    acts.any Act.stirs = false :=
  Act.any_of_traces traces fun a trace => by
    cases a with
    | spawned id j => cases j <;> first | rfl | cases trace
    | _ => first | rfl | cases trace

/-- How many of the reported losses found the link up, given the state before the acts. -/
def heeded : State → List Act → Nat
  | _, [] => 0
  | s, a :: acts => (if a = .called .reportLoss ∧ s.isDown = false then 1 else 0) +
      heeded (a.leads s) acts

theorem heeded_append (s : State) (acts more : List Act) :
    heeded s (acts ++ more) = heeded s acts + heeded (acts.foldl Act.leads s) more := by
  induction acts generalizing s with
  | nil => simp [heeded]
  | cons a acts ih => simp only [List.cons_append, heeded, ih, List.foldl_cons, Nat.add_assoc]

theorem heeded_eq_zero (s : State) {acts : List Act} (still : acts.any Act.stirs = false) :
    heeded s acts = 0 := by
  induction acts generalizing s with
  | nil => rfl
  | cons a acts ih =>
    obtain ⟨here, there⟩ := Bool.or_eq_false_iff.mp still
    have other : a ≠ .called .reportLoss := by
      rintro rfl
      cases here
    simp [heeded, other, ih _ there]

namespace Link

variable {σ : Type} {o : Surroundings σ} {l k l' : Link σ}

/-- How many attempts wait for the connector. -/
def dialing (l : Link σ) : Nat := l.jobs.countP (·.2.isDialing)

/-- The numbers that the backoff was consulted with, in order. -/
def consultations (l : Link σ) : List UInt64 := l.journal.filterMap Act.consulted?

/-- How many calls were to make a persistent link ask for a reload: reported losses that found it
up; and calls that asked any link to. -/
def signals (l : Link σ) : Nat :=
  (if l.identity.transient then 0 else heeded .disconnected l.journal) +
    l.journal.count (.called .signalReload)

@[simp] theorem dialing_count (l : Link σ) (c : Counter) : (l.count c).dialing = l.dialing := rfl

@[simp] theorem consultations_count (l : Link σ) (c : Counter) :
    (l.count c).consultations = l.consultations := rfl

@[simp] theorem signals_count (l : Link σ) (c : Counter) : (l.count c).signals = l.signals := rfl

@[simp] theorem dialing_amid (l : Link σ) (s : σ) : (l.amid s).dialing = l.dialing := rfl

@[simp] theorem consultations_amid (l : Link σ) (s : σ) :
    (l.amid s).consultations = l.consultations := rfl

@[simp] theorem signals_amid (l : Link σ) (s : σ) : (l.amid s).signals = l.signals := rfl

theorem consult_count (l : Link σ) (c : Counter) : (l.count c).consult = l.consult.count c := rfl

/-! ## Steady changes -/

/-- A change that has nothing to do with attempts, retries and reloads. -/
structure Steady (l l' : Link σ) : Prop where
  entry : ∃ acts, Entry acts l l' ∧ acts.any Act.stirs = false
  identity : l'.identity = l.identity
  number : l'.reconnectAttempt = l.reconnectAttempt
  metrics : l'.metrics = l.metrics

namespace Steady

theorem of {acts : List Act} (entry : Entry acts l l') (still : acts.any Act.stirs = false)
    (identity : l'.identity = l.identity) (number : l'.reconnectAttempt = l.reconnectAttempt)
    (metrics : l'.metrics = l.metrics) : Steady l l' :=
  ⟨⟨acts, entry, still⟩, identity, number, metrics⟩

theorem trans (first : Steady l k) (second : Steady k l') : Steady l l' := by
  obtain ⟨acts, entry, still⟩ := first.entry
  obtain ⟨more, entry', still'⟩ := second.entry
  exact .of (entry.trans entry') (by rw [List.any_append, still, still']; rfl)
    (second.identity.trans first.identity) (second.number.trans first.number)
    (second.metrics.trans first.metrics)

/-- A change that is not written down. -/
theorem silent (journal : l'.journal = l.journal) (jobs : l'.jobs = l.jobs)
    (count : l'.jobCount = l.jobCount) (identity : l'.identity = l.identity)
    (number : l'.reconnectAttempt = l.reconnectAttempt) (metrics : l'.metrics = l.metrics) :
    Steady l l' :=
  .of (.silent (journal.trans (List.append_nil _).symm) rfl jobs count) rfl identity number metrics

theorem note (l : Link σ) {a : Act} (none : a.creation? = none) (still : a.stirs = false) :
    Steady l (l.note a) :=
  .of (.note l none) (by simp [still]) rfl rfl rfl

theorem spawn (l : Link σ) {j : Job} (idle : j.isDialing = false) : Steady l (l.spawn j) :=
  .of (.spawn l j) (by simp [Act.stirs, idle]) rfl rfl rfl

theorem install (l : Link σ) (c : ChannelId) : Steady l (l.install c) :=
  .of (.install l c) rfl rfl rfl rfl

theorem settle? (l : Link σ) (ticket : Option TicketId) (outcome : Outcome) :
    Steady l (l.settle? ticket outcome) := by
  refine .of (.settle? l ticket outcome) (by simp) ?_ ?_ ?_ <;> rw [settle?_eq]

theorem setOut (l : Link σ) (bootstrap : Bool) : Steady l (l.setOut bootstrap) := by
  refine .of (.setOut l bootstrap) (by simp [settingOut, Act.stirs, Job.isDialing]) ?_ ?_ ?_ <;>
    rw [setOut_eq]

theorem drop (l : Link σ) : Steady l l.drop := by
  refine .of (.drop l) (by simp) ?_ ?_ ?_ <;> rw [drop_eq]

theorem hangUp (l : Link σ) : Steady l l.hangUp := by
  refine .of (.hangUp l) (by simp) ?_ ?_ ?_
  all_goals
    unfold Link.hangUp
    split <;> simp only [bar, drop_eq, shift_eq, issue, Link.spawn, Link.note]

theorem take (l : Link σ) (id : JobId) (answer : Except Fault ChannelId) :
    Steady (l.finish id) (l.take id answer) := note _ rfl rfl

theorem turnAway (l : Link σ) (ticket : Option TicketId) (answer : Except Fault ChannelId) :
    Steady l (l.turnAway ticket answer) := by
  refine .of (.turnAway l ticket answer) (by simp) ?_ ?_ ?_ <;> rw [turnAway_eq]

theorem undo (l : Link σ) (ticket : Option TicketId) (answer : Except Fault ChannelId) :
    Steady l (l.undo ticket answer) := by
  refine .of (.undo l ticket answer) (by simp) ?_ ?_ ?_ <;> rw [undo_eq]

theorem putToUse (l : Link σ) (ticket : Option TicketId) (c : ChannelId) :
    Steady l (l.putToUse ticket c) := by
  refine .of (.putToUse l ticket c) (by simp [Act.stirs, Job.isDialing]) ?_ ?_ ?_ <;>
    rw [putToUse_eq]

theorem giveUp (l : Link σ) (ticket : Option TicketId) (cause : Fault) :
    Steady l (l.giveUp ticket cause) := by
  refine .of (.giveUp l ticket cause) (by simp) ?_ ?_ ?_ <;> rw [giveUp_eq]

theorem takeUp (l : Link σ) (ticket : Option TicketId) (bootstrap : Bool) (cause : Fault) :
    Steady l (l.takeUp ticket bootstrap cause) := by
  unfold Link.takeUp
  split
  · exact .giveUp l ticket cause
  · split
    · exact .settle? l ticket _
    · exact .silent rfl rfl rfl rfl rfl rfl

theorem plan (l : Link σ) (delay : Nat) (epoch : UInt64) (ticket : Option TicketId) :
    Steady l (l.plan delay epoch ticket) := by
  refine .of (.plan l delay epoch ticket) (by simp [Act.stirs, Job.isDialing]) ?_ ?_ ?_ <;>
    rw [plan_eq]

/-- What a steady change leaves as it is. -/
theorem keeps (steady : Steady l l') : l'.dialing = l.dialing ∧
    l'.consultations = l.consultations ∧ l'.signals = l.signals := by
  obtain ⟨acts, entry, still⟩ := steady.entry
  have none : ∀ a ∈ acts, a.stirs = false := fun a mem =>
    Bool.eq_false_iff.mpr fun h => List.any_eq_false.mp still a mem h
  refine ⟨?_, ?_, ?_⟩
  · have idle : (acts.filterMap Act.creation?).countP (·.2.isDialing) = 0 := by
      refine List.countP_eq_zero.mpr fun e he => ?_
      obtain ⟨a, mem, created⟩ := List.mem_filterMap.mp he
      cases a <;> cases created
      exact Bool.eq_false_iff.mp (none _ mem)
    simp only [dialing, entry.jobs, List.countP_append, idle, Nat.add_zero]
  · have silent : acts.filterMap Act.consulted? = [] := by
      refine List.filterMap_eq_nil_iff.mpr fun a mem => ?_
      cases a with
      | consulted attempt => exact absurd (none _ mem) nofun
      | _ => rfl
    simp only [consultations, entry.journal, List.filterMap_append, silent, List.append_nil]
  · have silent : acts.count (.called .signalReload) = 0 :=
      List.count_eq_zero.mpr fun mem => absurd (none _ mem) nofun
    simp only [signals, entry.journal, steady.identity, heeded_append, heeded_eq_zero _ still,
      List.count_append, silent, Nat.add_zero]

end Steady

/-! ## Calls -/

/-- How many reloads a call asks for by itself. -/
def dues (l : Link σ) : Call → Nat
  | .reportLoss => if l.identity.transient ∨ l.state.isDown then 0 else 1
  | .signalReload => 1
  | .connect | .disconnect | .flush | .send _ => 0

/-- A link asks for a reload with every signal, and `extra` times besides. All else that has to do
with attempts and retries is left as it is. -/
structure Levies (extra : Nat) (l l' : Link σ) : Prop where
  account : Account l'
  identity : l'.identity = l.identity
  number : l'.reconnectAttempt = l.reconnectAttempt
  consultations : l'.consultations = l.consultations
  dialing : l'.dialing = l.dialing
  work : ∀ c, c.ofWork = true → l'.metrics.get c = l.metrics.get c
  reloads : l'.metrics.reloads + UInt64.ofNat l.signals =
    l.metrics.reloads + UInt64.ofNat (extra + l'.signals)

namespace Levies

variable {m n : Nat}

theorem trans (first : Levies m l k) (second : Levies n k l') : Levies (m + n) l l' where
  account := second.account
  identity := second.identity.trans first.identity
  number := second.number.trans first.number
  consultations := second.consultations.trans first.consultations
  dialing := second.dialing.trans first.dialing
  work c ofWork := (second.work c ofWork).trans (first.work c ofWork)
  reloads := by
    have first := first.reloads
    have second := second.reloads
    simp only [UInt64.ofNat_add] at first second ⊢
    grind

theorem steady (steady : Steady l l') (account : Account l') : Levies 0 l l' := by
  obtain ⟨dialing, consultations, signals⟩ := steady.keeps
  refine ⟨account, steady.identity, steady.number, consultations, dialing, fun c _ => ?_, ?_⟩
  · rw [steady.metrics]
  · rw [steady.metrics, signals, Nat.zero_add]

theorem amid (account : Account l) (s : σ) : Levies 0 l (l.amid s) :=
  .steady (.silent rfl rfl rfl rfl rfl rfl) ⟨account.state, account.channel⟩

/-- A count that has nothing to do with attempts and reloads. -/
theorem count (account : Account l) {c : Counter} (other : c.ofWork = false) (extra : c ≠ .reload) :
    Levies 0 l (l.count c) where
  account := ⟨account.state, account.channel⟩
  identity := rfl
  number := rfl
  consultations := rfl
  dialing := rfl
  work d ofWork := by
    refine Metrics.get_set_other _ _ ?_
    rintro rfl
    exact absurd (ofWork.symm.trans other) nofun
  reloads := by
    have same : (l.count c).metrics.get .reload = l.metrics.get .reload :=
      Metrics.get_set_other _ _ extra.symm
    have same : (l.count c).metrics.reloads = l.metrics.reloads := same
    rw [same, Nat.zero_add]
    rfl

theorem reload (account : Account l) : Levies 1 l (l.count .reload) where
  account := ⟨account.state, account.channel⟩
  identity := rfl
  number := rfl
  consultations := rfl
  dialing := rfl
  work d ofWork := by
    refine Metrics.get_set_other _ _ ?_
    rintro rfl
    cases ofWork
  reloads := by
    have one : (l.count .reload).metrics.reloads = l.metrics.reloads + UInt64.ofNat 1 := rfl
    rw [one, signals_count, UInt64.ofNat_add, UInt64.add_assoc]

/-- Something may have been counted beforehand. -/
theorem beforehand (levies : Levies m l l') (c : Counter) :
    Levies m (l.count c) (l'.count c) where
  account := ⟨levies.account.state, levies.account.channel⟩
  identity := levies.identity
  number := levies.number
  consultations := levies.consultations
  dialing := levies.dialing
  work d ofWork := by
    by_cases same : d = c
    · subst same
      have more := congrArg (· + UInt64.ofNat 1) (levies.work d ofWork)
      exact (Metrics.get_set_self ..).trans (more.trans (Metrics.get_set_self ..).symm)
    · have here := Metrics.get_set_other l.metrics (l.metrics.get c + UInt64.ofNat 1) same
      have there := Metrics.get_set_other l'.metrics (l'.metrics.get c + UInt64.ofNat 1) same
      exact there.trans ((levies.work d ofWork).trans here.symm)
  reloads := by
    have paid := levies.reloads
    cases c with
    | reload =>
      have more : ∀ k : Link σ,
          (k.count .reload).metrics.reloads = k.metrics.reloads + UInt64.ofNat 1 := fun _ => rfl
      rw [more, more, signals_count, signals_count]
      grind
    | _ => exact paid

/-- A reload may be counted beforehand. -/
theorem prepaid (levies : Levies (m + 1) l l') : Levies m (l.count .reload) l' where
  account := levies.account
  identity := levies.identity
  number := levies.number
  consultations := levies.consultations
  dialing := levies.dialing
  work d ofWork := by
    refine (levies.work d ofWork).trans (Metrics.get_set_other _ _ ?_).symm
    rintro rfl
    cases ofWork
  reloads := by
    have paid := levies.reloads
    have more : (l.count .reload).metrics.reloads = l.metrics.reloads + UInt64.ofNat 1 := rfl
    rw [more, signals_count]
    simp only [UInt64.ofNat_add] at paid ⊢
    grind

end Levies

/-- What a call does to the signals: it is one, if it asks for a reload. -/
theorem signals_called (account : Account l) (c : Call) :
    (l.note (.called c)).signals = l.dues c + l.signals := by
  have state : l.journal.foldl Act.leads .disconnected = l.state := account.state.symm
  cases c with
  | reportLoss =>
    cases transient : l.identity.transient with
    | true => simp [signals, note, dues, transient]
    | false =>
      cases down : l.state.isDown with
      | true => simp [signals, note, dues, transient, heeded_append, heeded, state, down]
      | false =>
        simp [signals, note, dues, transient, heeded_append, heeded, state, down]
        omega
  | signalReload =>
    simp [signals, note, dues, heeded_append, heeded]
    omega
  | connect | disconnect | flush | send => simp [signals, note, dues, heeded_append, heeded]

/-- A call that levies its dues levies nothing besides. -/
theorem Levies.called (account : Account l) {c : Call}
    (levies : Levies (l.dues c) (l.note (.called c)) k) : Levies 0 l (k.note (.returned c)) := by
  have returned : Levies 0 k (k.note (.returned c)) :=
    .steady (.note k rfl rfl) (levies.account.entry (.note k rfl) rfl rfl)
  have silent : (l.note (.called c)).consultations = l.consultations := by
    simp [Link.consultations, note, Act.consulted?]
  refine ⟨returned.account, returned.identity.trans levies.identity,
    returned.number.trans levies.number,
    returned.consultations.trans (levies.consultations.trans silent),
    returned.dialing.trans levies.dialing, fun d ofWork => ?_, ?_⟩
  · exact (returned.work d ofWork).trans (levies.work d ofWork)
  · have first := levies.reloads
    have second := returned.reloads
    rw [signals_called account] at first
    have same : (l.note (.called c)).metrics = l.metrics := rfl
    rw [same] at first
    simp only [UInt64.ofNat_add] at first second ⊢
    grind

/-- What every call does. -/
def Contributes (l l' : Link σ) : Prop := Account l → Levies 0 l l'

section Calls

variable {R : Occasion → Link σ → Link σ → Prop}
  (within : ∀ {k l l'}, R k l l' → Contributes l l')
include within

theorem Reloads.levies (h : Reloads R l l') (account : Account l) : Levies 1 l l' := by
  cases h with
  | @mk k meanwhile refusal s =>
    have counted := Levies.reload account
    have asked := within meanwhile counted.account
    have offered : Steady k ((k.note (.published .reload refusal)).amid s) :=
      (Steady.note k rfl rfl).trans (.silent rfl rfl rfl rfl rfl rfl)
    have told := asked.account.entry (.note k (a := .published .reload refusal) rfl) rfl rfl
    exact (counted.trans asked).trans (.steady offered ⟨told.state, told.channel⟩)

theorem Loses.levies (h : Loses R l l') (account : Account l) :
    Levies (l.dues .reportLoss) l l' := by
  have counted := Levies.count (c := .loss) account rfl nofun
  -- the reload that a link asks for which is up
  have reloaded : ∀ {k : Link σ} (s : σ), Reloads R ((l.count .loss).amid s) k → Levies 1 l k := by
    intro k s reloads
    have logged := counted.trans (.amid counted.account s)
    exact logged.trans (reloads.levies within logged.account)
  cases h with
  | heedless transient =>
    have still : Levies 0 l l := .amid account l.outside
    simpa only [dues, transient, true_or, ↓reduceIte] using still
  | down _ down s =>
    simpa only [dues, down, or_true, ↓reduceIte] using counted.trans (.amid counted.account s)
  | @restarted k persistent up s reloads wanted t =>
    have asked := reloaded s reloads
    have opened := (asked.account.drop.setOut false).entry
      (.spawn _ (.report (.pending k.ticketCount))) rfl rfl
    have restarted : Steady k ((k.drop.setOut false).spawn (.report (.pending k.ticketCount))) :=
      ((Steady.drop k).trans (.setOut _ false)).trans (.spawn _ rfl)
    simpa [dues, persistent, up] using
      (asked.trans (.steady restarted opened)).trans (.amid opened t)
  | @dropped k persistent up s reloads barred t =>
    have asked := reloaded s reloads
    have closed := asked.account.drop.entry
      (.spawn _ (.report (.settled (.ok .disconnected)))) rfl rfl
    have dropped : Steady k (k.drop.spawn (.report (.settled (.ok .disconnected)))) :=
      (Steady.drop k).trans (.spawn _ rfl)
    simpa [dues, persistent, up] using (asked.trans (.steady dropped closed)).trans (.amid closed t)

/-- What a call does between being called and returning. -/
theorem Performs.levies {c : Call} (h : Performs o R c l l') (account : Account l) :
    Levies (l.dues c) l l' := by
  have marked : ∀ {k : Link σ} (_ : Account k) (b : Bool), Levies 0 k { k with hasWritten := b } :=
    fun account s => .steady (.silent rfl rfl rfl rfl rfl rfl) ⟨account.state, account.channel⟩
  cases h with
  | ignored _ _ s => exact .amid account s
  | opened _ _ _ s =>
    have opened := account.setOut true
    exact (Levies.steady (.setOut l true) opened).trans (.amid opened s)
  | hungUp _ s =>
    have hungUp := account.hangUp
    exact (Levies.steady (.hangUp l) hungUp).trans (.amid hungUp s)
  | lost loses => exact loses.levies within account
  | reloaded reloads => exact reloads.levies within account
  | @flushed _ k c _ _ _ _ meanwhile =>
    have noted := account.entry (.note l (a := .flushed c) rfl) rfl rfl
    have flushed := within meanwhile noted
    exact ((Levies.steady (.note l rfl rfl) noted).trans flushed).trans
      (marked flushed.account false)
  | unflushed => exact .steady (.silent rfl rfl rfl rfl rfl rfl) account
  | @wrote _ k c r _ _ _ _ meanwhile =>
    have noted := account.entry (.note l (a := .wrote c r) rfl) rfl rfl
    have wrote := within meanwhile noted
    exact ((Levies.steady (.note l rfl rfl) noted).trans wrote).trans
      (marked wrote.account true)
  | @redirected _ k r _ s meanwhile refusal t =>
    have counted := Levies.count (c := .redirect) account rfl nofun
    have logged := counted.trans (.amid counted.account s)
    have asked := logged.trans (within meanwhile logged.account)
    have entry : Entry (redirecting r refusal) k
        { k with journal := k.journal ++ redirecting r refusal } :=
      .silent rfl (by cases refusal <;> rfl) rfl rfl
    have account : Account { k with journal := k.journal ++ redirecting r refusal } := by
      refine asked.account.entry entry ?_ ?_ <;> cases refusal <;> rfl
    have steady : Steady k { k with journal := k.journal ++ redirecting r refusal } :=
      .of entry (by cases refusal <;> rfl) rfl rfl rfl
    exact (asked.trans (.steady steady account)).trans (.amid account t)
  | @rejected _ r _ =>
    have counted := Levies.count (c := .rejection) account rfl nofun
    exact counted.trans (.steady (.spawn _ rfl) (counted.account.entry (.spawn _ _) rfl rfl))

end Calls

/-- Calls contribute, to any depth. -/
theorem contributes_nested (quiet : o.Quiet) (depth : Nat) :
    ∀ (c : Call) (l : Link σ), Contributes l (nested o depth c l) := by
  refine within_nested (fun l s account => .amid account s) (fun first second account => ?_) quiet
    ?_ depth
  · have first := first account
    exact first.trans (second first.account)
  · intro c l k performs account
    have called : Account (l.note (.called c)) := account.entry (.note l rfl) rfl rfl
    exact .called account (performs.levies And.left called)

/-! ## Steps -/

/-- What the counters have to do with each other, with what is pending and with what was asked;
`seen` is how many watches told a link that was up of its loss. -/
structure Tallied (seen : Nat) (l : Link σ) : Prop where
  /-- Every attempt that was begun has come to one end, or waits. -/
  balance : l.metrics.attempts = l.metrics.successes + l.metrics.failures + l.metrics.discards +
    UInt64.ofNat l.dialing
  pace : l.metrics.retries = if l.identity.transient then 0 else l.metrics.failures
  number : l.reconnectAttempt = l.metrics.retries + 1
  reloads : l.metrics.reloads = l.metrics.retries +
    UInt64.ofNat ((if l.identity.transient then 0 else seen) + l.signals)
  /-- The backoff is consulted for one attempt after the other. -/
  inOrder : ∃ n, l.consultations = (List.range n).map (fun j => UInt64.ofNat (j + 1)) ∧
    l.reconnectAttempt = UInt64.ofNat (n + 1)

namespace Tallied

variable {seen : Nat}

theorem new (identity : Identity) (environment : Environment) (outside : σ) :
    Tallied 0 (Link.new identity environment outside) := by
  refine ⟨rfl, ?_, rfl, ?_, 0, rfl, rfl⟩
  · cases h : identity.transient <;> simp [Link.new, h]
  · cases h : identity.transient <;> simp [Link.new, signals, heeded, h]

/-- A call adds the losses that a link was told of without being called. -/
theorem levies (tallied : Tallied seen l) {extra : Nat} (levies : Levies extra l l') {seen' : Nat}
    (more : (if l.identity.transient then 0 else seen') =
      (if l.identity.transient then 0 else seen) + extra) : Tallied seen' l' := by
  have work : ∀ c, c.ofWork = true → l'.metrics.get c = l.metrics.get c := levies.work
  have attempts : l'.metrics.attempts = l.metrics.attempts := work .attempt rfl
  have successes : l'.metrics.successes = l.metrics.successes := work .success rfl
  have failures : l'.metrics.failures = l.metrics.failures := work .failure rfl
  have discards : l'.metrics.discards = l.metrics.discards := work .discard rfl
  have retries : l'.metrics.retries = l.metrics.retries := work .retry rfl
  refine ⟨?_, ?_, ?_, ?_, ?_⟩
  · rw [attempts, successes, failures, discards, levies.dialing]
    exact tallied.balance
  · rw [retries, failures, levies.identity]
    exact tallied.pace
  · rw [retries, levies.number]
    exact tallied.number
  · have before := tallied.reloads
    have after := levies.reloads
    rw [retries, levies.identity, more]
    simp only [UInt64.ofNat_add] at before after ⊢
    grind
  · rw [levies.consultations, levies.number]
    exact tallied.inOrder

end Tallied

/-- What a job leaves as it is that ends or goes on, but for the jobs. -/
theorem Steady.frame {m : Link σ} (steady : Steady m k) (moved : m = { l with jobs := m.jobs }) :
    k.metrics = l.metrics ∧ k.identity = l.identity ∧ k.reconnectAttempt = l.reconnectAttempt ∧
      k.consultations = l.consultations ∧ k.signals = l.signals := by
  obtain ⟨-, consultations, signals⟩ := steady.keeps
  refine ⟨?_, ?_, ?_, ?_, ?_⟩
  · rw [steady.metrics, moved]
  · rw [steady.identity, moved]
  · rw [steady.number, moved]
  · rw [consultations, moved]
    rfl
  · rw [signals, moved]
    rfl

namespace Tallied

variable {seen : Nat} {m : Link σ}

/-- A job goes on, and neither begins an attempt nor ends one. -/
theorem passed (tallied : Tallied seen l) (steady : Steady m k)
    (moved : m = { l with jobs := m.jobs }) (dialing : m.dialing = l.dialing) :
    Tallied seen k := by
  obtain ⟨metrics, identity, number, consultations, signals⟩ := steady.frame moved
  have dialing : k.dialing = l.dialing := steady.keeps.1.trans dialing
  refine ⟨?_, ?_, ?_, ?_, ?_⟩
  · rw [metrics, dialing]
    exact tallied.balance
  · rw [metrics, identity]
    exact tallied.pace
  · rw [metrics, number]
    exact tallied.number
  · rw [metrics, identity, signals]
    exact tallied.reloads
  · rw [consultations, number]
    exact tallied.inOrder

theorem amid (tallied : Tallied seen l) (s : σ) : Tallied seen (l.amid s) :=
  tallied.passed (m := l) (.silent rfl rfl rfl rfl rfl rfl) rfl rfl

/-- An attempt is begun. -/
theorem begun (tallied : Tallied seen l) (steady : Steady m k)
    (moved : m = { l with jobs := m.jobs }) (dialing : m.dialing = l.dialing + 1) :
    Tallied seen (k.count .attempt) := by
  obtain ⟨metrics, identity, number, consultations, signals⟩ := steady.frame moved
  have dialing : k.dialing = l.dialing + 1 := steady.keeps.1.trans dialing
  have counted : (k.count .attempt).metrics =
      { l.metrics with attempts := l.metrics.attempts + UInt64.ofNat 1 } := metrics ▸ rfl
  refine ⟨?_, ?_, ?_, ?_, ?_⟩
  · have same : (k.count .attempt).dialing = l.dialing + 1 := dialing
    rw [counted, same, UInt64.ofNat_add, ← UInt64.add_assoc]
    exact congrArg (· + UInt64.ofNat 1) tallied.balance
  · rw [counted]
    exact identity ▸ tallied.pace
  · rw [counted]
    exact number.trans tallied.number
  · have same : (k.count .attempt).signals = l.signals := signals
    rw [counted, same]
    exact identity ▸ tallied.reloads
  · obtain ⟨n, numbers, next⟩ := tallied.inOrder
    exact ⟨n, consultations.trans numbers, number.trans next⟩

/-- An attempt comes to its end. Only on a transient link is a failure the end of it. -/
theorem ended (tallied : Tallied seen l) (steady : Steady m k)
    (moved : m = { l with jobs := m.jobs }) (dialing : l.dialing = m.dialing + 1) {c : Counter}
    (outcome : c = .success ∨ c = .discard ∨ c = .failure ∧ l.identity.transient = true) :
    Tallied seen (k.count c) := by
  obtain ⟨metrics, identity, number, consultations, signals⟩ := steady.frame moved
  have dialing : l.dialing = (k.count c).dialing + 1 := by
    rw [dialing, ← steady.keeps.1]
    rfl
  have balance := tallied.balance
  rw [dialing, UInt64.ofNat_add] at balance
  have counted : (k.count c).metrics = l.metrics.record c := metrics ▸ rfl
  have signals : (k.count c).signals = l.signals := signals
  have identity : (k.count c).identity = l.identity := identity
  obtain ⟨n, numbers, next⟩ := tallied.inOrder
  refine ⟨?_, ?_, ?_, ?_, n, consultations.trans numbers, number.trans next⟩ <;>
    rw [counted]
  · rcases outcome with rfl | rfl | ⟨rfl, -⟩ <;>
      simp only [Metrics.record, Metrics.add, Metrics.set, Metrics.get] <;> grind
  · rw [identity]
    have pace := tallied.pace
    rcases outcome with rfl | rfl | ⟨rfl, transient⟩
    · exact pace
    · exact pace
    · rw [transient] at pace ⊢
      exact pace
  · rcases outcome with rfl | rfl | ⟨rfl, -⟩ <;> exact number.trans tallied.number
  · rw [identity, signals]
    rcases outcome with rfl | rfl | ⟨rfl, -⟩ <;> exact tallied.reloads

/-- A turn counts what its job does. -/
theorem turn {s : Step σ} {acts : List Act} (tallied : Tallied seen l) (numbered : Numbered l)
    (turn : Turn s l k) (journal : k.journal = l.journal ++ acts) :
    Tallied seen (k.count? (l.toll acts)) := by
  -- how many attempts wait after a job has ended or gone on
  have left : ∀ {id : JobId} {j : Job}, l.job? id = some j →
      l.dialing = (l.finish id).dialing + if j.isDialing then 1 else 0 :=
    fun job => numbered.countP_finish job Job.isDialing
  have gone : ∀ {id : JobId} {j : Job} (j' : Job), l.job? id = some j →
      l.dialing + (if j'.isDialing then 1 else 0) =
        (l.become id j').dialing + if j.isDialing then 1 else 0 :=
    fun j' job => numbered.countP_become job j' Job.isDialing
  -- the acts of the turn are known
  have told : ∀ {acts' : List Act} {c : Option Counter}, k.journal = l.journal ++ acts' →
      l.toll acts' = c → l.toll acts = c := by
    intro acts' c journal' toll
    rwa [List.append_cancel_left (journal.symm.trans journal')]
  cases turn with
  | @dialed _ id ticket bootstrap epoch job options =>
    rw [told rfl rfl]
    exact tallied.begun (.note _ rfl rfl) rfl (gone _ job).symm
  | @redialed _ id delay epoch job current wanted options =>
    rw [told rfl rfl]
    exact tallied.begun (.note _ rfl rfl) rfl (gone _ job).symm
  | @abandoned _ id delay epoch job current barred =>
    rw [told (journal_hangUp _) (toll_eq_none l (Act.isWork_of_traces (by simp)))]
    exact tallied.passed (.hangUp _) rfl (left job).symm
  | @tearing _ id c ticket job =>
    rw [told rfl rfl]
    exact tallied.passed (.note _ rfl rfl) rfl (gone _ job).symm
  | @cleaning _ id c job =>
    rw [told rfl rfl]
    exact tallied.passed (.note _ rfl rfl) rfl (gone _ job).symm
  | @toreDown _ _ id c ticket job =>
    rw [told (journal_toreDown l id ticket) (toll_toreDown l ..)]
    exact tallied.passed ((Steady.drop _).trans (.note _ rfl rfl)) rfl (left job).symm
  | @ended _ _ id j job ending =>
    have idle : j.isDialing = false := by cases j <;> first | rfl | cases ending
    have same := left job
    rw [idle] at same
    rw [told (List.append_nil _).symm rfl]
    exact tallied.passed (.silent rfl rfl rfl rfl rfl rfl) rfl same.symm
  | @turnedAway _ id ticket bootstrap epoch job stale answer =>
    have entry := (Entry.take l id answer).trans (.turnAway _ ticket answer)
    have toll : l.toll _ = some .discard := told entry.journal (by simp [Link.toll, job, stale])
    rw [toll]
    exact tallied.ended ((Steady.take l id answer).trans (.turnAway ..)) rfl (left job)
      (.inr (.inl rfl))
  | @undone _ id ticket bootstrap epoch job current down answer =>
    have entry := (Entry.take l id answer).trans (.undo _ ticket answer)
    have toll : l.toll _ = some .discard := told entry.journal (by simp [Link.toll, job, down])
    rw [toll]
    exact tallied.ended ((Steady.take l id answer).trans (.undo ..)) rfl (left job)
      (.inr (.inl rfl))
  | @succeeded _ id ticket bootstrap epoch job current wanted connecting c =>
    have entry := (Entry.take l id (.ok c)).trans (.putToUse _ ticket c)
    have toll : l.toll _ = some .success :=
      told entry.journal (by simp [Link.toll, job, current, wanted, connecting, State.isDown])
    rw [toll]
    exact tallied.ended ((Steady.take l id (.ok c)).trans (.putToUse ..)) rfl (left job) (.inl rfl)
  | @collided _ id ticket bootstrap epoch job current wanted connected c =>
    have entry := ((Entry.take l id (.ok c)).trans (.install _ c)).trans (.undo _ ticket (.ok c))
    have toll : l.toll _ = some .discard :=
      told entry.journal (by simp [Link.toll, job, current, wanted, connected])
    rw [toll]
    exact tallied.ended (((Steady.take l id (.ok c)).trans (.install _ c)).trans (.undo ..)) rfl
      (left job) (.inr (.inl rfl))
  | @gaveUp _ id ticket bootstrap epoch job current wanted up transient cause =>
    have entry := (Entry.take l id (.error cause)).trans (.giveUp _ ticket cause)
    have toll : l.toll _ = some .failure :=
      told entry.journal (by simp [Link.toll, job, current, wanted, up])
    rw [toll]
    exact tallied.ended ((Steady.take l id (.error cause)).trans (.giveUp ..)) rfl (left job)
      (.inr (.inr ⟨rfl, transient⟩))

end Tallied

/-- The backoff is consulted for the next attempt. -/
theorem keeps_consult (l : Link σ) : l.consult.dialing = l.dialing ∧
    l.consult.signals = l.signals ∧
    l.consult.consultations = l.consultations ++ [l.reconnectAttempt] := by
  refine ⟨rfl, ?_, ?_⟩
  · simp [signals, consult, note, heeded_append, heeded]
  · simp [consultations, consult, note, Act.consulted?]

namespace Tallied

variable {seen : Nat} {m : Link σ}

/-- When a failed attempt was taken up and its failure counted, the link would be in balance if the
retry and its reload were counted. -/
theorem failed (tallied : Tallied seen l) (numbered : Numbered l) {id : JobId}
    {ticket : Option TicketId} {bootstrap : Bool} {epoch : UInt64}
    (up : l.TakesUp id ticket bootstrap epoch) (cause : Fault) (s : σ) :
    Tallied seen ((((((l.take id (.error cause)).takeUp ticket bootstrap cause).count
      .failure).consult.amid s).count .retry).count .reload) := by
  have taken := (Steady.take l id (.error cause)).trans (.takeUp _ ticket bootstrap cause)
  generalize (l.take id (.error cause)).takeUp ticket bootstrap cause = x at taken ⊢
  have left : l.dialing = x.dialing + 1 := by
    rw [taken.keeps.1]
    exact numbered.countP_finish up.job Job.isDialing
  obtain ⟨metrics, identity, number, consultations, signals⟩ := taken.frame (l := l) rfl
  obtain ⟨waits, heard, consulted⟩ := keeps_consult x
  rw [consult_count]
  generalize hk : ((((x.consult.count .failure).amid s).count .retry).count .reload) = k
  have counted : k.metrics = ((l.metrics.record .failure).record .retry).record .reload := by
    rw [← hk, ← metrics]
    rfl
  have stays : k.identity = l.identity := by
    simp only [← hk, count, Link.amid, consult, note, identity]
  have next : k.reconnectAttempt = l.reconnectAttempt + 1 := by
    rw [← hk, ← number]
    rfl
  have dialing : l.dialing = k.dialing + 1 := by
    simp only [← hk, dialing_count, dialing_amid, waits, left]
  have numbers : k.consultations = l.consultations ++ [l.reconnectAttempt] := by
    simp only [← hk, consultations_count, consultations_amid, consulted, consultations, number]
  have signals : k.signals = l.signals := by
    simp only [← hk, signals_count, signals_amid, heard, signals]
  obtain ⟨balance, pace, number, reloads, n, asked, turn⟩ := tallied
  rw [dialing] at balance
  simp only [UInt64.ofNat_add] at balance
  rw [up.persistent] at pace reloads
  refine ⟨?_, ?_, ?_, ?_, n + 1, ?_, ?_⟩
  · simp only [counted, Metrics.record, Metrics.add, Metrics.set, Metrics.get]
    grind
  · rw [counted, stays, up.persistent]
    exact congrArg (· + UInt64.ofNat 1) pace
  · rw [counted, next, number]
    rfl
  · rw [stays, up.persistent, signals]
    simp only [counted, Metrics.record, Metrics.add, Metrics.set, Metrics.get]
    grind
  · rw [numbers, asked, turn, List.range_succ, List.map_append]
    rfl
  · rw [next, turn, UInt64.ofNat_add (n + 1) 1]
    rfl

/-- A failure that is followed by a retry is counted, and so are the retry and its reload. -/
theorem planned (tallied : Tallied seen l) (numbered : Numbered l) (account : Account l)
    {id : JobId} {ticket : Option TicketId} {bootstrap : Bool} {epoch : UInt64}
    {cause : Fault} (up : l.TakesUp id ticket bootstrap epoch) (s t u : σ) (delay : Nat)
    (asked : Contributes ((((l.take id (.error cause)).takeUp ticket bootstrap cause).count
      .failure).consult.amid s) k)
    (reloads : Account ((k.count .retry).amid t) → Levies 1 ((k.count .retry).amid t) m) :
    Tallied seen ((m.plan delay epoch (keptTicket ticket bootstrap cause)).amid u) := by
  have finished : Account (l.finish id) := ⟨account.state, account.channel⟩
  have told := ((finished.entry (.take l id (.error cause)) rfl rfl).takeUp ticket bootstrap
    cause).entry (.consult _) rfl rfl
  have failed := tallied.failed numbered up cause s
  -- the calls made while the backoff is consulted, then those made while the reload is published
  have first := asked ⟨told.state, told.channel⟩
  have second := reloads ⟨first.account.state, first.account.channel⟩
  have consulted := failed.levies ((first.beforehand .retry).beforehand .reload) rfl
  have published := (consulted.amid t).levies second.prepaid rfl
  exact published.passed (m := m)
    ((Steady.plan m delay epoch _).trans (.silent rfl rfl rfl rfl rfl rfl)) rfl rfl

end Tallied

/-- Whether a step tells a link that is up of the loss of its channel, without a call. -/
def bereaves (l : Link σ) (s : Step σ) : Bool := l.bereft s && !l.state.isDown

/-- How many watches told the link, while it was up, of the loss of its channel. -/
def bereavements (o : Surroundings σ) (depth : Nat) : List (Step σ) → Link σ → Nat
  | [], _ => 0
  | s :: steps, l => (if l.bereaves s then 1 else 0) + bereavements o depth steps (step o depth s l)

/-- The balance is kept by every ordinary step. -/
theorem Tallied.step {seen : Nat} (tallied : Tallied seen l) (quiet : o.Quiet) (firm : o.Firm)
    (depth : Nat) (numbered : Numbered l) (account : Account l) {s : Step σ}
    (ordinary : s.Ordinary) :
    Tallied (seen + if l.bereaves s then 1 else 0) (Link.step o depth s l) := by
  have drift : ∀ (l : Link σ) s, Contributes l (l.amid s) := fun l s account => .amid account s
  have trans : ∀ {l k m : Link σ}, Contributes l k → Contributes k m → Contributes l m :=
    fun first second account => (first account).trans (second (first account).account)
  have course := course_step quiet depth
    (within_occur (o := o) drift trans (contributes_nested quiet depth)) ordinary l
  have unseen : ∀ {l' : Link σ}, l.bereft s = false → Tallied seen l' →
      Tallied (seen + if l.bereaves s then 1 else 0) l' := by
    intro l' watched kept
    simpa [bereaves, watched] using kept
  generalize Link.step o depth s l = l' at course ⊢
  cases course with
  | @called c _ k performs =>
    have called := account.entry (.note l (a := .called c) rfl) rfl rfl
    exact unseen rfl (tallied.levies (.called account (performs.levies And.left called)) rfl)
  | drifted watched _ t => exact unseen watched (tallied.amid t)
  | attended watched _ current =>
    exact unseen watched (tallied.passed (m := l) (.silent rfl rfl rfl rfl rfl rfl) rfl rfl)
  | turned watched turn journal t =>
    exact unseen watched ((tallied.turn numbered turn journal).amid t)
  | @told id _ r job =>
    have left := numbered.countP_finish job Job.isDialing
    exact unseen rfl (tallied.passed (.note _ rfl rfl) rfl left.symm)
  | @lost id _ _ c job slot loses =>
    have left := numbered.countP_finish job Job.isDialing
    have ended : Tallied seen (l.finish id) :=
      tallied.passed (.silent rfl rfl rfl rfl rfl rfl) rfl left.symm
    refine ended.levies (loses.levies And.left ⟨account.state, account.channel⟩) ?_
    have up : l.bereaves (.lost id) = !l.state.isDown := by simp [bereaves, bereft, job, slot]
    have same : (l.finish id).dues .reportLoss = l.dues .reportLoss := rfl
    rw [up, same]
    cases transient : l.identity.transient <;> cases down : l.state.isDown <;>
      simp [dues, finish, transient, down]
  | planned up s t u asked reloads =>
    exact unseen rfl (tallied.planned numbered account up s t u _ asked.1
      (reloads.levies And.left))
  | brokeDown loose => exact absurd firm loose

theorem Tallied.run {seen : Nat} (tallied : Tallied seen l) (quiet : o.Quiet) (firm : o.Firm)
    (depth : Nat) (numbered : Numbered l) (account : Account l) {steps : List (Step σ)}
    (ordinary : ∀ s ∈ steps, s.Ordinary) :
    Tallied (seen + bereavements o depth steps l) (Link.run o depth steps l) := by
  induction steps generalizing l seen with
  | nil => exact tallied
  | cons s steps ih =>
    have first := ordinary s List.mem_cons_self
    have advance := advance_step quiet depth first l
    rw [bereavements, ← Nat.add_assoc]
    exact ih (tallied.step quiet firm depth numbered account first)
      ((numbered_kept o).advance advance numbered) ((account_kept o).advance advance account)
      fun t ht => ordinary t (List.mem_cons_of_mem _ ht)

/-- The counters of a link are in balance after every run, up to 64 bits. Every attempt that was
begun has succeeded, failed or been discarded, or waits for its connector. As many retries were
planned as the number of the next attempt says: one for each failure, and on a transient link none.
A reload was asked for with each of them, with each loss that found the link up, whether it was
reported by a call or by the watch over the channel, and with each call that asked for one. The
backoff was consulted for the first attempt, for the second and so on, across all chains. -/
theorem counters_balance (quiet : o.Quiet) (firm : o.Firm) (depth : Nat) {steps : List (Step σ)}
    (ordinary : ∀ s ∈ steps, s.Ordinary) (identity : Identity) (environment : Environment)
    (outside : σ) {start : Link σ} (new : start = .new identity environment outside)
    (reached : l = run o depth steps start) :
    l.metrics.attempts = l.metrics.successes + l.metrics.failures + l.metrics.discards +
      UInt64.ofNat l.dialing ∧
    l.metrics.retries = l.reconnectAttempt - 1 ∧
    l.metrics.retries = (if identity.transient then 0 else l.metrics.failures) ∧
    l.metrics.reloads = l.metrics.retries +
      UInt64.ofNat (if identity.transient then 0
        else heeded .disconnected l.journal + bereavements o depth steps start) +
      UInt64.ofNat (l.journal.count (.called .signalReload)) ∧
    ∀ j attempt, l.consultations[j]? = some attempt → attempt = UInt64.ofNat (j + 1) := by
  subst new reached
  have tallied := (Tallied.new identity environment outside).run quiet firm depth
    (.new identity environment outside) ⟨rfl, rfl⟩ ordinary
  have stays := (identity_kept o identity).run quiet depth ordinary
    (l := .new identity environment outside) rfl
  generalize run o depth steps _ = l at tallied stays ⊢
  obtain ⟨balance, pace, number, reloads, n, numbers, -⟩ := tallied
  rw [stays] at pace reloads
  refine ⟨balance, ?_, pace, ?_, fun j attempt found => ?_⟩
  · rw [number]
    grind
  · rw [reloads, signals, stays, Nat.zero_add]
    split <;> simp only [UInt64.ofNat_add] <;> grind
  · rw [numbers] at found
    obtain ⟨-, rfl⟩ := List.getElem?_eq_some_iff.mp found
    simp

/-- An attempt that failed, its retry that succeeded, a reload that was asked for, and the loss of
the channel, after which a third attempt waits. -/
theorem counters_balance_bereft :
    let steps : List (Step Unit) := [.call .connect, .start 0, .answer 0 (.error .notConnected),
      .wake 1, .answer 1 (.ok 7), .call .signalReload, .lost 2, .start 3]
    let l := run .insistent 2 steps .sample
    l.metrics.attempts = l.metrics.successes + l.metrics.failures + l.metrics.discards + 1 ∧
      l.metrics.retries = l.metrics.failures ∧ l.metrics.failures = 1 ∧
      l.metrics.reloads = l.metrics.retries + 1 + 1 := by
  intro steps l
  have ordinary : ∀ s ∈ steps, s.Ordinary := by simp [steps, Step.Ordinary]
  have waits : l.dialing = 1 := by decide
  have failed : l.metrics.failures = 1 := by decide
  have lost : heeded .disconnected l.journal +
      bereavements .insistent 2 steps .sample = 1 := by decide
  have signalled : l.journal.count (.called .signalReload) = 1 := by decide
  obtain ⟨balance, -, pace, reloads, -⟩ := counters_balance (l := l)
    Surroundings.insistent_quiet Surroundings.insistent_firm 2 ordinary _ _ ()
    (show Link.sample = .new _ _ () from rfl) rfl
  rw [waits] at balance
  rw [if_neg Bool.false_ne_true, lost, signalled] at reloads
  exact ⟨balance, pace, failed, reloads⟩

end Link

end NodeLink
