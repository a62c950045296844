import NodeLink.Proofs.Lockstep
import NodeLink.Rehearsal.Schedule

/-!
# Links that nobody disturbs

A scene in which no calls are prepared never calls the link. It keeps the lines that are logged and
is otherwise left alone by them, so a link in such a scene does what it would do if nothing were
logged at all. There the log lines disappear from every operation, and what a step does can be
written down.

The steps that a persistent link takes while nobody calls it are these: an attempt begins, it
fails, or it gets its channel.
-/

set_option autoImplicit false

namespace NodeLink

open Lifecycle (State)
open Rehearsal (Scene)

variable {delay : UInt64 → Option Nat} {stages : List Stage}

/-- What stands out in the life of a link that nobody calls. -/
inductive Beat
  /-- The connector is called. -/
  | called
  /-- The connector answers, or the safeguard in its place. -/
  | ended (result : Except Fault ChannelId)
  | told (ticket : TicketId) (outcome : Outcome)
  /-- A reload is offered to the sink. -/
  | reloaded
  /-- The link is connected from now on. -/
  | up
deriving DecidableEq

/-- The beat that an act is, if it is one. -/
def Act.beat? : Act → Option Beat
  | .dialed .. => some .called
  | .answered _ result => some (.ended result)
  | .settled ticket outcome => some (.told ticket outcome)
  | .published .reload _ => some .reloaded
  | .changed change _ => if change.target = .connected then some .up else none
  | _ => none

open Rehearsal in
/-- The numbered notice that an act settles, if it settles one. -/
def Act.reply? : Act → Option (Source × Reply)
  | .settled ticket outcome => some (.ticket ticket, .outcome outcome)
  | .failed request fault => some (.request request, .response (.error fault))
  | _ => none

namespace Rehearsal.Scene

/-- Surroundings that answer as a scene does, but hear nothing and never call the link. -/
def hushed (delay : UInt64 → Option Nat) (stages : List Stage) : Surroundings Scene :=
  { surroundings delay stages with react := fun _ s => ([], s) }

/-- No calls are prepared. -/
structure Unprompted (s : Scene) : Prop where
  onLog : s.onLog = []
  onPublish : s.onPublish = []

/-- The same scene with other log lines. -/
def withLines (s : Scene) (lines : List (Nat × String)) : Scene := { s with lines := lines }

/-- A log line is kept, or it is not. -/
theorem react_logging {s : Scene} (unprompted : s.Unprompted) (line : LogLine) :
    ∃ lines, react (.logging line) s = ([], s.withLines lines) := by
  unfold react
  dsimp only
  split
  · exact ⟨s.lines, rfl⟩
  · simp only [unprompted.onLog, extract?]
    exact ⟨s.lines ++ [(s.now, line.text)], by rw [withLines, ← unprompted.onLog]⟩

theorem react_publishing {s : Scene} (unprompted : s.Unprompted) (e : Event) :
    react (.publishing e) s = ([], s) := by
  unfold react
  dsimp only
  rw [unprompted.onPublish]

end Rehearsal.Scene

namespace Link

open Rehearsal.Scene (surroundings hushed)

/-! ## Log lines make no difference -/

/-- Two links that are the same but for the lines that were logged, in scenes without prepared
calls. -/
def Hears (k l : Link Scene) : Prop :=
  l.outside.Unprompted ∧ ∃ lines, k = l.amid (l.outside.withLines lines)

/-- On an occasion on which nobody calls, nothing happens. -/
theorem occur_silent {σ : Type} {o : Surroundings σ} {k : Occasion} {l : Link σ} {s : σ}
    (silent : o.react k l.outside = ([], s)) (n : Call → Link σ → Link σ) :
    occur o n k l = l.amid s := by
  simp only [occur, silent, List.foldl_nil, amid]

section Hears

variable {n m : Call → Link Scene → Link Scene} {k l : Link Scene}

/-- Whatever line is logged, only the log has changed. -/
theorem Hears.log (h : Hears k l) (level level' : Level) (message message' : String)
    (fields fields' : List (String × String)) :
    Hears (Link.log (surroundings delay stages) n level message fields k)
      (Link.log (hushed delay stages) m level' message' fields' l) := by
  obtain ⟨unprompted, lines, rfl⟩ := h
  have still : (l.outside.withLines lines).Unprompted := ⟨unprompted.onLog, unprompted.onPublish⟩
  obtain ⟨more, heard⟩ := Rehearsal.Scene.react_logging still ⟨level, message, fields⟩
  have here : Link.log (surroundings delay stages) n level message fields
      (l.amid (l.outside.withLines lines)) = l.amid (l.outside.withLines more) :=
    occur_silent heard n
  refine ⟨unprompted, more, ?_⟩
  rw [here]
  rfl

/-- The sink is asked the same, and answers the same. -/
theorem Hears.publish (h : Hears k l) (e : Event) :
    Agree Hears (Link.publish (surroundings delay stages) n e k)
      (Link.publish (hushed delay stages) m e l) := by
  obtain ⟨unprompted, lines, rfl⟩ := h
  have still : (l.outside.withLines lines).Unprompted := ⟨unprompted.onLog, unprompted.onPublish⟩
  have here : occur (surroundings delay stages) n (.publishing e)
      (l.amid (l.outside.withLines lines)) = l.amid (l.outside.withLines lines) :=
    occur_silent (Rehearsal.Scene.react_publishing still e) n
  refine ⟨(l.outside.accept e).1, _, _, ?_, rfl, ⟨unprompted.onLog, unprompted.onPublish⟩,
    lines, rfl⟩
  unfold Link.publish
  rw [here]
  rfl

theorem Hears.signalReload (h : Hears k l) :
    Hears (Link.signalReload (surroundings delay stages) n k)
      (Link.signalReload (hushed delay stages) m l) := by
  obtain ⟨unprompted, lines, rfl⟩ := h
  have counted : Hears ((l.amid (l.outside.withLines lines)).count .reload) (l.count .reload) :=
    ⟨unprompted, lines, rfl⟩
  obtain ⟨refusal, k', l', here, there, offered⟩ := counted.publish (n := n) (m := m) .reload
  unfold Link.signalReload
  rw [here, there]
  cases refusal with
  | none => exact offered
  | some refusal => exact offered.log ..

end Hears

variable (delay stages) in
/-- A link in a scene without prepared calls does what it would do if nothing were logged. -/
theorem hears_lockstep (n m : Call → Link Scene → Link Scene) :
    Lockstep (surroundings delay stages) (hushed delay stages) n m Hears fun i j _ _ => i = j := by
  constructor
  · rintro k l ⟨-, lines, rfl⟩
    rfl
  · rintro k l ⟨unprompted, lines, rfl⟩ c
    exact ⟨unprompted, lines, rfl⟩
  · rintro k l ⟨unprompted, lines, rfl⟩
    exact ⟨unprompted, lines, rfl⟩
  · rintro k l ⟨unprompted, lines, rfl⟩ a
    exact ⟨unprompted, lines, rfl⟩
  · rintro k l ⟨unprompted, lines, rfl⟩ c
    exact ⟨unprompted, lines, rfl⟩
  · rintro k l ⟨unprompted, lines, rfl⟩ j
    exact ⟨unprompted, lines, rfl⟩
  · rintro k l i j ⟨-, lines, rfl⟩ rfl
    rfl
  · rintro k l i j ⟨unprompted, lines, rfl⟩ rfl
    exact ⟨unprompted, lines, rfl⟩
  · rintro k l i j ⟨unprompted, lines, rfl⟩ rfl answer
    exact ⟨unprompted, lines, rfl⟩
  · rintro k l i j ⟨unprompted, lines, rfl⟩ rfl x
    exact ⟨unprompted, lines, rfl⟩
  · rintro k l i j ⟨unprompted, lines, rfl⟩ rfl x options
    exact ⟨unprompted, lines, rfl⟩
  · exact Hears.log
  · exact Hears.signalReload
  · rintro k l ⟨unprompted, lines, rfl⟩ attempt
    exact ⟨unprompted, lines, rfl⟩
  · rintro k l ⟨unprompted, lines, rfl⟩ attempt
    exact ⟨rfl, unprompted, lines, rfl⟩
  · rintro k l ⟨unprompted, lines, rfl⟩
    exact ⟨rfl, unprompted, lines, rfl⟩
  · rintro k l ⟨-, lines, rfl⟩
    rfl

/-! ## Without a log -/

section Hushed

variable (n : Call → Link Scene → Link Scene) (l : Link Scene)

theorem log_hushed (level : Level) (message : String) (fields : List (String × String)) :
    Link.log (hushed delay stages) n level message fields l = l := rfl

theorem moveTo_hushed (next : State) :
    Link.moveTo (hushed delay stages) n next l = l.shift next := by
  unfold Link.moveTo
  split <;> rfl

/-- The link has offered a reload to the sink. -/
def offerReload (l : Link Scene) : Link Scene :=
  ((l.count .reload).amid (l.outside.accept .reload).2).note
    (.published .reload (l.outside.accept .reload).1)

theorem signalReload_hushed : Link.signalReload (hushed delay stages) n l = l.offerReload := by
  have offered : Link.publish (hushed delay stages) n .reload (l.count .reload) =
      ((l.outside.accept .reload).1, l.offerReload) := rfl
  unfold Link.signalReload
  rw [offered]
  split
  next h => exact (congrArg Prod.snd h).symm
  next h => exact (congrArg Prod.snd h).symm

variable {l}

theorem announceFailure_hushed (persistent : l.identity.transient = false)
    (ticket : Option TicketId) (bootstrap : Bool) (cause : Fault) :
    Link.announceFailure (hushed delay stages) n ticket bootstrap cause l =
      (keptTicket ticket bootstrap cause, l.takeUp ticket bootstrap cause) := by
  simp only [Link.announceFailure, persistent, Bool.false_eq_true, or_false, log_hushed,
    moveTo_hushed, takeUp, giveUp, keptTicket]
  by_cases terminal : cause.isTerminal = true
  · simp only [terminal, ↓reduceIte, true_or]
  · cases bootstrap <;> simp only [terminal, ↓reduceIte, Bool.false_eq_true, or_true, or_self]

/-- A failed attempt is taken up, the backoff is asked, and a reload is offered. -/
def lapse (ticket : Option TicketId) (bootstrap : Bool) (cause : Fault) (l : Link Scene) :
    Link Scene :=
  ((((l.count .failure).takeUp ticket bootstrap cause).consult).count .retry).offerReload

/-- After a failed attempt of a persistent link the retry is planned. -/
theorem fail_hushed (persistent : l.identity.transient = false) (wanted : l.disconnected = false)
    {epoch : UInt64} (current : l.epoch = epoch) {ms : Nat}
    (held : delay l.reconnectAttempt = some ms) (ticket : Option TicketId) (bootstrap : Bool)
    (cause : Fault) : Link.fail (hushed delay stages) n ticket bootstrap epoch cause l =
      (l.lapse ticket bootstrap cause).plan ms epoch (keptTicket ticket bootstrap cause) := by
  have counted : (l.count .failure).identity.transient = false := persistent
  have announced : Link.announceFailure (hushed delay stages) n ticket bootstrap cause
      (l.count .failure) = _ := announceFailure_hushed n counted ticket bootstrap cause
  obtain ⟨k, taken⟩ : ∃ k, k = (l.count .failure).takeUp ticket bootstrap cause := ⟨_, rfl⟩
  have stays : k.identity.transient = false ∧ k.disconnected = false ∧ k.epoch = epoch ∧
      k.reconnectAttempt = l.reconnectAttempt := by
    rw [taken, takeUp_eq]
    exact ⟨persistent, wanted, current, rfl⟩
  obtain ⟨persistent, wanted, current, attempt⟩ := stays
  rw [← taken] at announced
  rw [lapse, ← taken]
  have planned : Link.planRetry (hushed delay stages) n epoch cause k =
      (true,
        (((k.consult.count .retry).offerReload).shift .connecting).spawn (.retry ms epoch)) := by
    have asked : (hushed delay stages).delay k.reconnectAttempt k.consult.outside =
        (some ms, k.outside) := by
      rw [attempt, ← held]
      rfl
    have there : Link.planRetry (hushed delay stages) n epoch cause k = _ := if_pos current
    have silent : occur (hushed delay stages) n (.consulting k.reconnectAttempt) k.consult =
        k.consult := rfl
    rw [there]
    dsimp only
    rw [← consult, silent, asked]
    simp only [log_hushed, signalReload_hushed, moveTo_hushed]
    rfl
  have connecting : ∀ m : Link Scene,
      ((m.shift .connecting).spawn (.retry ms epoch)).state = .connecting :=
    fun m => state_shift m .connecting
  simp only [Link.fail, announced, persistent, wanted, Bool.false_eq_true, ↓reduceIte, planned,
    connecting]
  rfl

theorem succeed_hushed (connecting : l.state = .connecting) (ticket : Option TicketId)
    (c : ChannelId) : Link.succeed (hushed delay stages) n ticket c l =
      (l.putToUse ticket c).count .success := by
  have here : (l.install c).state = .connecting := connecting
  simp only [Link.succeed, here, ↓reduceIte, moveTo_hushed, log_hushed, putToUse, settle?_count,
    spawn_count]

end Hushed

/-! ## The steps of a link that nobody calls -/

/-- What acts tell: the jobs they create, the beats and the replies to notices. -/
structure Tells (acts : List Act) (created : List (JobId × Job)) (beats : List Beat)
    (replies : List (Rehearsal.Source × Rehearsal.Reply)) : Prop where
  created : acts.filterMap Act.creation? = created
  beats : acts.filterMap Act.beat? = beats
  replies : acts.filterMap Act.reply? = replies

/-- A persistent link in its first chain that nobody disconnected and nobody is going to call. It
has a single job, the last that it created. -/
structure Solo (safeguard : Nat) (state : State) (id : JobId) (j : Job) (attempt : UInt64)
    (l : Link Scene) : Prop where
  persistent : l.identity.transient = false
  wanted : l.disconnected = false
  current : l.epoch = 1
  safeguard : l.environment.settings.safeguard = safeguard
  unprompted : l.outside.Unprompted
  state : l.state = state
  jobs : l.jobs = [(id, j)]
  count : l.jobCount = id + 1
  attempt : l.reconnectAttempt = attempt

/-- What stays as it is while nobody calls. -/
structure Stays (l l' : Link Scene) : Prop where
  identity : l'.identity = l.identity
  environment : l'.environment = l.environment
  disconnected : l'.disconnected = l.disconnected
  epoch : l'.epoch = l.epoch
  outside : ∃ sink, l'.outside = { l.outside with sink := sink }

/-- A link did what is told, which took no time and made no channel. -/
structure Goes (created : List (JobId × Job)) (beats : List Beat)
    (replies : List (Rehearsal.Source × Rehearsal.Reply)) (l l' : Link Scene) : Prop where
  journal : ∃ acts, l'.journal = l.journal ++ acts ∧ Tells acts created beats replies
  now : l'.outside.now = l.outside.now
  channels : l'.outside.channels = l.outside.channels

section Tells

variable {l l' : Link Scene} (next : State) (ticket : Option TicketId) (outcome : Outcome)

theorem Tells.append {acts more : List Act} {created created' : List (JobId × Job)}
    {beats beats' : List Beat} {replies replies' : List (Rehearsal.Source × Rehearsal.Reply)}
    (first : Tells acts created beats replies) (second : Tells more created' beats' replies') :
    Tells (acts ++ more) (created ++ created') (beats ++ beats') (replies ++ replies') where
  created := by rw [List.filterMap_append, first.created, second.created]
  beats := by rw [List.filterMap_append, first.beats, second.beats]
  replies := by rw [List.filterMap_append, first.replies, second.replies]

/-- Nobody is told of a change of state, but for the beat that the link is up. -/
theorem tells_passage (l : Link Scene) :
    Tells (l.passage next) [] (if l.state ≠ next ∧ next = .connected then [.up] else []) [] := by
  unfold passage
  by_cases same : l.state = next
  · rw [if_pos same, if_neg fun other => other.1 same]
    exact ⟨rfl, rfl, rfl⟩
  · rw [if_neg same]
    by_cases up : next = .connected
    · rw [if_pos ⟨same, up⟩]
      subst up
      exact ⟨rfl, rfl, rfl⟩
    · rw [if_neg fun both => up both.2]
      refine ⟨rfl, ?_, rfl⟩
      simp [Act.beat?, up]

theorem tells_settling : Tells (settling ticket outcome) []
    (ticket.toList.map (.told · outcome))
    (ticket.toList.map fun t => (.ticket t, .outcome outcome)) := by
  cases ticket <;> exact ⟨rfl, rfl, rfl⟩

end Tells

/-! ### Failed attempts -/

section Lapse

variable (l : Link Scene) (ticket : Option TicketId) (cause : Fault)

theorem lapse_stays (bootstrap : Bool) : Stays l (l.lapse ticket bootstrap cause) ∧
    (l.lapse ticket bootstrap cause).reconnectAttempt = l.reconnectAttempt + 1 ∧
    (l.lapse ticket bootstrap cause).jobCount = l.jobCount := by
  simp only [lapse, offerReload, consult, count, amid, note, takeUp_eq, and_self, and_true]
  exact ⟨rfl, rfl, rfl, rfl, _, rfl⟩

/-- Whoever waits for the first attempt of a chain is told of its failure at once. -/
theorem keptTicket_isSome : keptTicket ticket ticket.isSome cause = none := by
  cases ticket <;> simp [keptTicket]

theorem Entry.reckoned {l l' : Link Scene} {acts : List Act} (entry : Entry acts l l')
    (c : Counter) : Entry acts l (l'.count c) :=
  ⟨entry.journal, entry.jobs, entry.names, entry.count⟩

theorem Entry.offerReload : Entry [.published .reload (l.outside.accept .reload).1] l
    l.offerReload := by
  refine .silent ?_ rfl ?_ ?_ <;> simp only [Link.offerReload, Link.count, Link.amid, Link.note]

/-- A failed attempt is told to whoever waits for it, and a reload is offered. -/
theorem Entry.lapse : ∃ acts, Entry acts l (l.lapse ticket ticket.isSome cause) ∧
    Tells acts [] (ticket.toList.map (.told · (.error cause)) ++ [.reloaded])
      (ticket.toList.map fun t => (.ticket t, .outcome (.error cause))) := by
  have took := Entry.takeUp (l.count .failure) ticket ticket.isSome cause
  have entry := (took.reckoned .retry).trans (.offerReload _)
  refine ⟨_, ⟨entry.journal, entry.jobs, entry.names, entry.count⟩, ?_⟩
  have dropped : Tells (if cause.isTerminal then (l.count .failure).passage .disconnected else [])
      [] [] [] := by
    split
    · simpa using tells_passage .disconnected (l.count .failure)
    · exact ⟨rfl, rfl, rfl⟩
  have told : Tells
      (if cause.isTerminal ∨ ticket.isSome then settling ticket (.error cause) else []) []
      (ticket.toList.map (.told · (.error cause)))
      (ticket.toList.map fun t => (.ticket t, .outcome (.error cause))) := by
    cases ticket with
    | none => split <;> exact ⟨rfl, rfl, rfl⟩
    | some t =>
      rw [if_pos (.inr rfl)]
      exact tells_settling _ _
  have asked : Tells [.consulted (l.count .failure).reconnectAttempt] [] [] [] := ⟨rfl, rfl, rfl⟩
  have reloaded : ∀ refusal, Tells [.published .reload refusal] [] [.reloaded] [] :=
    fun _ => ⟨rfl, rfl, rfl⟩
  simpa only [List.nil_append, List.append_nil] using
    ((dropped.append told).append asked).append (reloaded _)

end Lapse

/-! ### Steps -/

section Single

variable {σ : Type} {l : Link σ} {id : JobId} {j : Job}

theorem job?_single (jobs : l.jobs = [(id, j)]) : l.job? id = some j := by
  simp [job?, jobs]

theorem become_single (jobs : l.jobs = [(id, j)]) (j' : Job) :
    (l.become id j').jobs = [(id, j')] := by
  simp [become, jobs]

theorem finish_single (jobs : l.jobs = [(id, j)]) : (l.finish id).jobs = [] := by
  simp [finish, jobs]

end Single

section Steps

variable {safeguard : Nat} {l : Link Scene} {state : State} {id : JobId} {j : Job}
  {attempt : UInt64} {ticket : Option TicketId} {bootstrap : Bool} (depth : Nat)

/-- A link that is seen by nobody but a log is the same to itself. -/
theorem Solo.hears (solo : Solo safeguard state id j attempt l) : Hears l l :=
  ⟨solo.unprompted, l.outside.lines, rfl⟩

/-- What was written down and what is around a link make no difference to its job. -/
theorem Solo.beside (solo : Solo safeguard state id j attempt l) (journal : List Act) {s : Scene}
    (unprompted : s.Unprompted) :
    Solo safeguard state id j attempt { l with journal := journal, outside := s } :=
  ⟨solo.persistent, solo.wanted, solo.current, solo.safeguard, unprompted, solo.state, solo.jobs,
    solo.count, solo.attempt⟩

/-- Lines that were logged leave a link as it is. -/
theorem Solo.of_hears {k : Link Scene} (solo : Solo safeguard state id j attempt l)
    (hears : Hears k l) : Solo safeguard state id j attempt k := by
  obtain ⟨unprompted, lines, rfl⟩ := hears
  exact solo.beside l.journal ⟨unprompted.onLog, unprompted.onPublish⟩

/-- What a link does without a log, it does. -/
theorem Goes.of_hears {created : List (JobId × Job)} {beats : List Beat}
    {replies : List (Rehearsal.Source × Rehearsal.Reply)} {k l' : Link Scene}
    (goes : Goes created beats replies l l') (hears : Hears k l') :
    Goes created beats replies l k := by
  obtain ⟨-, lines, rfl⟩ := hears
  exact ⟨goes.journal, goes.now, goes.channels⟩

/-- When the only job ends and another one is created, the link goes on with that. -/
theorem Solo.replaced {k l' : Link Scene} {acts : List Act} {j' : Job} {beats : List Beat}
    {replies : List (Rehearsal.Source × Rehearsal.Reply)} {state' : State} {attempt' : UInt64}
    (solo : Solo safeguard state id j attempt l) (entry : Entry acts (l.finish id) l')
    (tells : Tells acts [(id + 1, j')] beats replies) (stays : Stays l l')
    (reached : l'.state = state') (counted : l'.reconnectAttempt = attempt') (hears : Hears k l') :
    Goes [(id + 1, j')] beats replies l k ∧ Solo safeguard state' (id + 1) j' attempt' k := by
  have jobs : l'.jobs = [(id + 1, j')] := by
    rw [entry.jobs, finish_single solo.jobs, tells.created]
    rfl
  have count : l'.jobCount = id + 1 + 1 := by
    rw [entry.count, tells.created]
    exact congrArg (· + 1) solo.count
  obtain ⟨sink, outside⟩ := stays.outside
  have goes : Goes [(id + 1, j')] beats replies l l' := by
    refine ⟨⟨acts, entry.journal, tells⟩, ?_, ?_⟩ <;> rw [outside]
  have after : Solo safeguard state' (id + 1) j' attempt' l' := by
    refine ⟨?_, ?_, ?_, ?_, ?_, reached, jobs, count, counted⟩
    · rw [stays.identity, solo.persistent]
    · rw [stays.disconnected, solo.wanted]
    · rw [stays.epoch, solo.current]
    · rw [stays.environment, solo.safeguard]
    · rw [outside]
      exact ⟨solo.unprompted.onLog, solo.unprompted.onPublish⟩
  exact ⟨goes.of_hears hears, after.of_hears hears⟩

/-- A persistent link that has not done anything, in a scene without prepared calls. -/
structure Untouched (safeguard : Nat) (l : Link Scene) : Prop where
  persistent : l.identity.transient = false
  wanted : l.disconnected = false
  epoch : l.epoch = 0
  safeguard : l.environment.settings.safeguard = safeguard
  unprompted : l.outside.Unprompted
  state : l.state = .disconnected
  jobs : l.jobs = []
  count : l.jobCount = 0
  tickets : l.ticketCount = 0
  attempt : l.reconnectAttempt = 1

variable (delay stages) in
/-- The first connect creates the first attempt, and its ticket waits for that. -/
theorem connect_goes (n : Call → Link Scene → Link Scene) (untouched : Untouched safeguard l) :
    (Link.connect (surroundings delay stages) n l).1 = .pending 0 ∧
      Goes [(0, .attempt (some 0) true 1 false)] [] [] l
        (Link.connect (surroundings delay stages) n l).2 ∧
      Solo safeguard .connecting 0 (.attempt (some 0) true 1 false) 1
        (Link.connect (surroundings delay stages) n l).2 := by
  have hears : Hears l l := ⟨untouched.unprompted, l.outside.lines, rfl⟩
  have silent : Link.connectWith (hushed delay stages) n true l = (.pending 0, l.setOut true) := by
    rw [connectWith, if_neg (by rw [untouched.wanted]; exact Bool.false_ne_true),
      if_pos untouched.state, moveTo_hushed, ← untouched.tickets]
    have same : (l.shift .connecting).ticketCount = l.ticketCount := by rw [shift_eq]
    rw [← same]
    rfl
  obtain ⟨ticket, k, l', here, there, after⟩ :=
    (hears_lockstep delay stages n n).connectWith hears true
  rw [silent] at there
  obtain ⟨rfl, rfl⟩ := Prod.mk.inj there
  have connected : Link.connect (surroundings delay stages) n l = (.pending 0, k) := here
  rw [connected]
  have entry := Entry.setOut l true
  have tells : Tells (l.settingOut true) [(0, .attempt (some 0) true 1 false)] [] [] := by
    have created : Tells
        [.spawned l.jobCount (.attempt (some l.ticketCount) true (l.epoch + 1) false)]
        [(0, .attempt (some 0) true 1 false)] [] [] := by
      rw [untouched.count, untouched.tickets, untouched.epoch]
      exact ⟨rfl, rfl, rfl⟩
    simpa [settingOut] using (tells_passage .connecting l).append created
  have jobs : (l.setOut true).jobs = [(0, .attempt (some 0) true 1 false)] := by
    rw [entry.jobs, untouched.jobs, tells.created]
    rfl
  have count : (l.setOut true).jobCount = 0 + 1 := by
    rw [entry.count, untouched.count, tells.created]
    rfl
  have goes : Goes [(0, .attempt (some 0) true 1 false)] [] [] l (l.setOut true) := by
    refine ⟨⟨_, entry.journal, tells⟩, ?_, ?_⟩ <;> rw [setOut_eq]
  have solo : Solo safeguard .connecting 0 (.attempt (some 0) true 1 false) 1 (l.setOut true) := by
    refine ⟨?_, ?_, ?_, ?_, ?_, ?_, jobs, count, ?_⟩ <;> rw [setOut_eq]
    · exact untouched.persistent
    · exact untouched.wanted
    · exact congrArg (· + 1) untouched.epoch
    · exact untouched.safeguard
    · exact untouched.unprompted
    · exact Lifecycle.Machine.current_transition _ _
    · exact untouched.attempt
  exact ⟨rfl, goes.of_hears after, solo.of_hears after⟩

/-- An attempt calls the connector. -/
theorem dial_goes (solo : Solo safeguard state id j attempt l) :
    Goes [] [.called] [] l (dial (surroundings delay stages) id ticket bootstrap 1 l) ∧
      Solo safeguard state id (.attempt ticket bootstrap 1 true) attempt
        (dial (surroundings delay stages) id ticket bootstrap 1 l) := by
  have jobs := become_single solo.jobs (.attempt ticket bootstrap 1 true)
  unfold dial options note
  constructor
  · exact ⟨⟨_, rfl, rfl, rfl, rfl⟩, rfl, rfl⟩
  · exact ⟨solo.persistent, solo.wanted, solo.current, solo.safeguard, solo.unprompted, solo.state,
      jobs, solo.count, solo.attempt⟩

/-- The first attempt begins. -/
theorem step_begins
    (solo : Solo safeguard state id (.attempt ticket bootstrap 1 false) attempt l) :
    Goes [] [.called] [] l (step (surroundings delay stages) depth (.start id) l) ∧
      Solo safeguard state id (.attempt ticket bootstrap 1 true) attempt
        (step (surroundings delay stages) depth (.start id) l) := by
  have there : step (surroundings delay stages) depth (.start id) l =
      dial (surroundings delay stages) id ticket bootstrap 1 l := by
    simp only [step, stepWith, start, job?_single solo.jobs]
  rw [there]
  exact dial_goes solo

/-- A retry begins. -/
theorem step_wakes {ms : Nat} (solo : Solo safeguard state id (.retry ms 1) attempt l) :
    Goes [] [.called] [] l (step (surroundings delay stages) depth (.wake id) l) ∧
      Solo safeguard state id (.attempt none false 1 true) attempt
        (step (surroundings delay stages) depth (.wake id) l) := by
  have there : step (surroundings delay stages) depth (.wake id) l =
      dial (surroundings delay stages) id none false 1 l := by
    simp only [step, stepWith, job?_single solo.jobs, wake, solo.current, ne_eq, not_true_eq_false,
      ↓reduceIte, solo.wanted, Bool.false_eq_true]
  rw [there]
  exact dial_goes solo

/-- Whatever is logged when an attempt is answered, only the log knows. -/
theorem answer_hears (solo : Solo safeguard state id j attempt l)
    (answer : Except Fault ChannelId) :
    Hears (step (surroundings delay stages) depth (.answer id answer) l)
      (step (hushed delay stages) depth (.answer id answer) l) :=
  (hears_lockstep delay stages _ _).errand (i := id) solo.hears rfl (.answer answer)

variable (delay stages) in
/-- The answer for an attempt that is wanted counts. -/
theorem answer_hushed (solo : Solo safeguard .connecting id
      (.attempt ticket bootstrap 1 true) attempt l) (answer : Except Fault ChannelId) :
    step (hushed delay stages) depth (.answer id answer) l =
      match answer with
      | .ok c => Link.succeed (hushed delay stages) (nested (hushed delay stages) depth) ticket c
          (l.take id answer)
      | .error cause => Link.fail (hushed delay stages) (nested (hushed delay stages) depth) ticket
          bootstrap 1 cause (l.take id answer) := by
  have current : (l.take id answer).epoch = 1 := solo.current
  have wanted : (l.take id answer).disconnected = false := solo.wanted
  have up : (l.take id answer).state.isDown = false := by
    have same : (l.take id answer).state = .connecting := solo.state
    rw [same]
    rfl
  have there : step (hushed delay stages) depth (.answer id answer) l =
      conclude (hushed delay stages) (nested (hushed delay stages) depth) ticket bootstrap 1 answer
        (l.take id answer) := by
    simp only [step, stepWith, job?_single solo.jobs]
    rfl
  rw [there]
  cases answer <;>
    simp only [conclude, current, up, wanted, ne_eq, not_true_eq_false, ↓reduceIte,
      Bool.false_eq_true, or_self]

/-- An attempt fails: whoever waits for it is told, a reload is offered, and the retry is
planned. -/
theorem step_fails (solo : Solo safeguard .connecting id
      (.attempt ticket ticket.isSome 1 true) attempt l) {ms : Nat} (held : delay attempt = some ms)
    (f : Fault) :
    Goes [(id + 1, .retry ms 1)]
        (.ended (.error f) :: (ticket.toList.map (.told · (.error f)) ++ [.reloaded]))
        (ticket.toList.map fun t => (.ticket t, .outcome (.error f))) l
        (step (surroundings delay stages) depth (.answer id (.error f)) l) ∧
      Solo safeguard .connecting (id + 1) (.retry ms 1) (attempt + 1)
        (step (surroundings delay stages) depth (.answer id (.error f)) l) := by
  have hears : Hears (step (surroundings delay stages) depth (.answer id (.error f)) l) _ :=
    answer_hears depth solo (.error f)
  have wanted : (l.take id (.error f)).disconnected = false := solo.wanted
  have persistent : (l.take id (.error f)).identity.transient = false := solo.persistent
  have current : (l.take id (.error f)).epoch = 1 := solo.current
  have planned : delay (l.take id (.error f)).reconnectAttempt = some ms := solo.attempt ▸ held
  have there := (answer_hushed delay stages depth solo (.error f)).trans
    (fail_hushed _ persistent wanted current planned ticket ticket.isSome f)
  obtain ⟨k, lapse⟩ : ∃ k, k = (l.take id (.error f)).lapse ticket ticket.isSome f := ⟨_, rfl⟩
  obtain ⟨acts, lapsed, tells⟩ := Entry.lapse (l.take id (.error f)) ticket f
  obtain ⟨stays, asked, count⟩ := lapse_stays (l.take id (.error f)) ticket f ticket.isSome
  rw [keptTicket_isSome, ← lapse] at there
  rw [← lapse] at lapsed stays asked count
  -- what the whole step writes down
  have entry := (Entry.take l id (.error f)).trans (lapsed.trans (.plan k ms 1 none))
  have answered : Tells [.answered id (.error f)] [] [.ended (.error f)] [] := ⟨rfl, rfl, rfl⟩
  have created : Tells [.spawned k.jobCount (.retry ms 1)] [(id + 1, .retry ms 1)] [] [] := by
    rw [count.trans solo.count]
    exact ⟨rfl, rfl, rfl⟩
  have planned : Tells (k.passage .connecting ++ [.spawned k.jobCount (.retry ms 1)])
      [(id + 1, .retry ms 1)] [] [] := by
    simpa using (tells_passage .connecting k).append created
  have whole := answered.append (tells.append planned)
  rw [← there] at entry
  simp only [List.append_nil, List.nil_append] at whole
  rw [plan_eq] at there
  have kept : Stays l (step (hushed delay stages) depth (.answer id (.error f)) l) := by
    rw [there]
    exact ⟨stays.identity, stays.environment, stays.disconnected, stays.epoch, stays.outside⟩
  have connecting : (step (hushed delay stages) depth (.answer id (.error f)) l).state =
      .connecting := by
    rw [there]
    exact Lifecycle.Machine.current_transition _ _
  have next : (step (hushed delay stages) depth (.answer id (.error f)) l).reconnectAttempt =
      attempt + 1 := by
    rw [there]
    exact asked.trans (congrArg (· + 1) solo.attempt)
  exact solo.replaced entry whole kept connecting next hears

/-- An attempt gets its channel: the link is connected, and whoever waits for it is told. -/
theorem step_succeeds (solo : Solo safeguard .connecting id
      (.attempt ticket ticket.isSome 1 true) attempt l) (c : ChannelId) :
    Goes [(id + 1, .watch c)]
        (.ended (.ok c) :: .up :: ticket.toList.map (.told · (.ok .connected)))
        (ticket.toList.map fun t => (.ticket t, .outcome (.ok .connected))) l
        (step (surroundings delay stages) depth (.answer id (.ok c)) l) ∧
      Solo safeguard .connected (id + 1) (.watch c) attempt
        (step (surroundings delay stages) depth (.answer id (.ok c)) l) := by
  have hears : Hears (step (surroundings delay stages) depth (.answer id (.ok c)) l) _ :=
    answer_hears depth solo (.ok c)
  have connecting : (l.take id (.ok c)).state = .connecting := solo.state
  have there := (answer_hushed delay stages depth solo (.ok c)).trans
    (succeed_hushed _ connecting ticket c)
  -- what the whole step writes down
  have entry := ((Entry.take l id (.ok c)).trans (.putToUse _ ticket c)).reckoned .success
  have name : (l.take id (.ok c)).jobCount = id + 1 := solo.count
  have installed : Tells [.answered id (.ok c), .installed c] [] [.ended (.ok c)] [] :=
    ⟨rfl, rfl, rfl⟩
  have up : Tells ((l.take id (.ok c)).passage .connected) [] [.up] [] := by
    simpa [connecting] using tells_passage .connected (l.take id (.ok c))
  have created : Tells [.spawned (id + 1) (.watch c)] [(id + 1, .watch c)] [] [] :=
    ⟨rfl, rfl, rfl⟩
  have told := tells_settling ticket (.ok .connected)
  have whole := installed.append (up.append (created.append told))
  rw [← there, name] at entry
  rw [putToUse_eq] at there
  have kept : Stays l (step (hushed delay stages) depth (.answer id (.ok c)) l) := by
    rw [there]
    exact ⟨rfl, rfl, rfl, rfl, l.outside.sink, rfl⟩
  have connected : (step (hushed delay stages) depth (.answer id (.ok c)) l).state =
      .connected := by
    rw [there]
    exact Lifecycle.Machine.current_transition _ _
  have next : (step (hushed delay stages) depth (.answer id (.ok c)) l).reconnectAttempt =
      attempt := by
    rw [there]
    exact solo.attempt
  exact solo.replaced entry whole kept connected next hears

end Steps

end Link

end NodeLink
