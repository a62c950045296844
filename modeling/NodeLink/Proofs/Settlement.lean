import NodeLink.Proofs.Chain
import NodeLink.Proofs.Custody

/-!
# Notices are settled once

The ticket of a connect stays with the first attempt of the chain that the connect started. The
step in which the connector answers this attempt is the step that settles the notice, whatever
else has happened to the link by then. The *verdict* depends on nothing but the link as it is found
in that step and on the answer.
-/

set_option autoImplicit false

namespace NodeLink

namespace Link

variable {σ : Type} {o : Surroundings σ}

/-! ## Answers -/

/-- What the caller of connect is told when the connector answers the first attempt of the chain. -/
def verdict (l : Link σ) (epoch : UInt64) (answer : Except Fault ChannelId) : Outcome :=
  if l.epoch ≠ epoch then .ok l.state
  else if l.state.isDown ∨ l.disconnected then .ok .disconnected
  else
    match answer with
    | .ok _ => .ok .connected
    | .error cause => .error cause

/-- From one state to another an attempt is answered. If a connect waits for it, its notice is
settled with the verdict, unless the attempt collides with a channel that is installed. -/
def Answers (l l' : Link σ) (id : JobId) (answer : Except Fault ChannelId) : Prop :=
  ∃ ticket bootstrap epoch outcome, l.job? id = some (.attempt ticket bootstrap epoch true) ∧
    (∀ t, ticket = some t → bootstrap = true → .settled t outcome ∈ l'.journal) ∧
    ((l.epoch = epoch → l.state ≠ .connected) → outcome = l.verdict epoch answer)

section Answers

variable {l k l' : Link σ} {id : JobId} {answer : Except Fault ChannelId}

theorem Answers.later (h : Answers l k id answer) (grown : k.journal <+: l'.journal) :
    Answers l l' id answer := by
  obtain ⟨ticket, bootstrap, epoch, outcome, job, settled, verdict⟩ := h
  exact ⟨ticket, bootstrap, epoch, outcome, job,
    fun t same first => grown.subset (settled t same first), verdict⟩

/-- Strokes answer no attempt. -/
theorem Strokes.unanswered (h : Strokes l l') (mem : .answered id answer ∈ l'.journal) :
    .answered id answer ∈ l.journal := by
  induction h with
  | refl => exact mem
  | tail _ last ih =>
    obtain ⟨acts, entry, idle⟩ := last.entry
    rw [entry.journal, List.mem_append] at mem
    exact ih (mem.resolve_right fun new => List.any_eq_false.mp idle _ new rfl)

/-- A turn answers an attempt, or it does not. -/
theorem Turn.answered {s : Step σ} (h : Turn s l l') (mem : .answered id answer ∈ l'.journal) :
    .answered id answer ∈ l.journal ∨ s = .answer id answer ∧ Answers l l' id answer := by
  cases h with
  | dialed | redialed | tearing | cleaning => exact .inl (by simpa [note, become] using mem)
  | abandoned =>
    rw [journal_hangUp, List.mem_append] at mem
    have idle : l.hangingUp.any Act.isWork = false := Act.isWork_of_traces (by simp)
    exact .inl (mem.resolve_right fun new => List.any_eq_false.mp idle _ new rfl)
  | ended => exact .inl mem
  | toreDown => exact .inl (by simpa [drop_eq, settle, note, finish] using mem)
  | @turnedAway _ id' ticket bootstrap epoch job stale answer' =>
    have mem : .answered id answer ∈ l.journal ∨ id = id' ∧ answer = answer' := by
      simpa [turnAway_eq, take, note, finish] using mem
    rcases mem with old | ⟨rfl, rfl⟩
    · exact .inl old
    refine .inr ⟨rfl, ticket, bootstrap, epoch, .ok l.state, job, fun t same _ => ?_, fun _ => ?_⟩
    · simp [turnAway_eq, same]
    · simp [verdict, stale]
  | @undone _ id' ticket bootstrap epoch job current down answer' =>
    have mem : .answered id answer ∈ l.journal ∨ id = id' ∧ answer = answer' := by
      simpa [undo_eq, take, note, finish] using mem
    rcases mem with old | ⟨rfl, rfl⟩
    · exact .inl old
    refine .inr ⟨rfl, ticket, bootstrap, epoch, .ok .disconnected, job, fun t same _ => ?_,
      fun _ => ?_⟩
    · simp [undo_eq, same]
    · simp [verdict, current, down]
  | @succeeded _ id' ticket bootstrap epoch job current wanted connecting c =>
    have mem : .answered id answer ∈ l.journal ∨ id = id' ∧ answer = .ok c := by
      simpa [putToUse_eq, take, note, finish] using mem
    rcases mem with old | ⟨rfl, rfl⟩
    · exact .inl old
    refine .inr ⟨rfl, ticket, bootstrap, epoch, .ok .connected, job, fun t same _ => ?_,
      fun _ => ?_⟩
    · simp [putToUse_eq, same]
    · simp [verdict, current, wanted, connecting, Lifecycle.State.isDown]
  | @collided _ id' ticket bootstrap epoch job current wanted connected c =>
    have mem : .answered id answer ∈ l.journal ∨ id = id' ∧ answer = .ok c := by
      simpa [undo_eq, install, take, note, finish] using mem
    rcases mem with old | ⟨rfl, rfl⟩
    · exact .inl old
    refine .inr ⟨rfl, ticket, bootstrap, epoch, .ok .disconnected, job, fun t same _ => ?_,
      fun free => ?_⟩
    · simp [undo_eq, same]
    · exact absurd connected (free current)
  | @gaveUp _ id' ticket bootstrap epoch job current wanted up transient cause =>
    have mem : .answered id answer ∈ l.journal ∨ id = id' ∧ answer = .error cause := by
      simpa [giveUp_eq, take, note, finish] using mem
    rcases mem with old | ⟨rfl, rfl⟩
    · exact .inl old
    refine .inr ⟨rfl, ticket, bootstrap, epoch, .error cause, job, fun t same _ => ?_, fun _ => ?_⟩
    · simp [giveUp_eq, same]
    · simp [verdict, current, wanted, up]

/-- A failed attempt of a persistent link is answered when it is taken up. -/
theorem TakesUp.answers {ticket : Option TicketId} {bootstrap : Bool} {epoch : UInt64}
    (up : l.TakesUp id ticket bootstrap epoch) (cause : Fault) :
    Answers l ((l.take id (.error cause)).takeUp ticket bootstrap cause).consult id
      (.error cause) := by
  refine ⟨ticket, bootstrap, epoch, .error cause, up.job, fun t same first => ?_, fun _ => ?_⟩
  · simp [consult, takeUp_eq, note, same, first]
  · simp [verdict, up.current, up.wanted, up.up]

/-- A step answers an attempt only if the connector did. -/
theorem Advance.answered {s : Step σ} (h : Advance o s l l')
    (mem : .answered id answer ∈ l'.journal) :
    .answered id answer ∈ l.journal ∨ s = .answer id answer ∧ Answers l l' id answer := by
  have taken : ∀ {id' : JobId} {ticket : Option TicketId} {bootstrap : Bool} {cause : Fault},
      .answered id answer ∈
        ((l.take id' (.error cause)).takeUp ticket bootstrap cause).consult.journal →
      .answered id answer ∈ l.journal ∨ id = id' ∧ answer = .error cause := by
    intro id' ticket bootstrap cause mem
    simp only [consult, takeUp_eq, take, note, finish] at mem
    split at mem <;> split at mem <;> simpa using mem
  cases h with
  | strokes after => exact .inl (after.unanswered mem)
  | turn turn after =>
    rcases turn.answered (after.unanswered mem) with old | ⟨rfl, answers⟩
    · exact .inl old
    · exact .inr ⟨rfl, answers.later after.journal⟩
  | @planned _ k _ id' ticket bootstrap epoch cause delay s up after done =>
    have planned :
        l'.journal = (k.plan delay epoch (keptTicket ticket bootstrap cause)).journal := by
      rw [done]
      rfl
    have grown : k.journal <+: l'.journal := planned ▸ (Entry.plan ..).grows
    have before : .answered id answer ∈ k.journal := by
      simpa [planned, plan_eq] using mem
    rcases taken (after.unanswered before) with old | ⟨rfl, rfl⟩
    · exact .inl old
    · exact .inr ⟨rfl, ((up.answers cause).later after.journal).later grown⟩
  | @brokeDown _ k _ id' ticket bootstrap epoch cause loose up after done =>
    have grown : k.journal <+: l'.journal := done ▸ (Entry.settle? ..).grows
    have before : .answered id answer ∈ k.journal := by
      simpa [done, settle?_eq] using mem
    rcases taken (after.unanswered before) with old | ⟨rfl, rfl⟩
    · exact .inl old
    · exact .inr ⟨rfl, ((up.answers cause).later after.journal).later grown⟩

/-- The step in which an attempt was answered can be found in a run. -/
theorem answered_run (quiet : o.Quiet) (depth : Nat) {steps : List (Step σ)}
    (ordinary : ∀ s ∈ steps, s.Ordinary) (fresh : .answered id answer ∉ l.journal)
    (mem : .answered id answer ∈ (run o depth steps l).journal) :
    ∃ before after, steps = before ++ .answer id answer :: after ∧
      Answers (run o depth before l) (run o depth (before ++ [.answer id answer]) l) id answer := by
  induction steps generalizing l with
  | nil => exact absurd mem fresh
  | cons s steps ih =>
    have advance := advance_step quiet depth (ordinary s List.mem_cons_self) l
    by_cases now : .answered id answer ∈ (step o depth s l).journal
    · obtain ⟨rfl, answers⟩ := (advance.answered now).resolve_left fresh
      exact ⟨[], steps, rfl, answers⟩
    · obtain ⟨before, after, rfl, answers⟩ :=
        ih (fun t ht => ordinary t (List.mem_cons_of_mem _ ht)) now mem
      exact ⟨s :: before, after, rfl, answers⟩

end Answers

/-! ## The notice of a connect -/

theorem connect_ignored (quiet : o.Quiet) (nested : Call → Link σ → Link σ) {l : Link σ}
    (h : l.disconnected = true ∨ l.state ≠ .disconnected) :
    ∃ s, connect o nested l = (.settled (.ok l.state), l.amid s) :=
  connectWith_ignored nested quiet true h

/-- The ticket of a connect that starts a chain goes with the first attempt of the chain. -/
theorem connect_opened (quiet : o.Quiet) (nested : Call → Link σ → Link σ) {l : Link σ}
    (wanted : l.disconnected = false) (down : l.state = .disconnected) :
    (∃ s, connect o nested l = (.pending l.ticketCount, (l.setOut true).amid s)) ∧
      .spawned l.jobCount (.attempt (some l.ticketCount) true (l.epoch + 1) false) ∈
        (l.setOut true).journal := by
  refine ⟨connectWith_opened nested quiet true wanted down, ?_⟩
  rw [(Entry.setOut l true).journal]
  simp [settingOut]

section Run

variable (quiet : o.Quiet) (depth : Nat) {steps : List (Step σ)}
  (ordinary : ∀ s ∈ steps, s.Ordinary) (identity : Identity) (environment : Environment)
  (outside : σ)
include quiet ordinary

/-- An attempt that was answered in a run is the one that was created under its name. -/
theorem answers_run {id : JobId} {t : TicketId} {epoch : UInt64} {answer : Except Fault ChannelId}
    {start : Link σ} (new : start = .new identity environment outside)
    (opened : .spawned id (.attempt (some t) true epoch false) ∈ (run o depth steps start).journal)
    (answered : .answered id answer ∈ (run o depth steps start).journal) :
    ∃ before after outcome, steps = before ++ .answer id answer :: after ∧
      (run o depth before start).job? id = some (.attempt (some t) true epoch true) ∧
      .settled t outcome ∈ (run o depth (before ++ [.answer id answer]) start).journal ∧
      (((run o depth before start).epoch = epoch → (run o depth before start).state ≠ .connected) →
        outcome = (run o depth before start).verdict epoch answer) := by
  have lawful : Numbered start ∧ Recorded start :=
    new ▸ ⟨.new .., .new identity environment outside⟩
  have fresh : .answered id answer ∉ start.journal := new ▸ List.not_mem_nil
  obtain ⟨before, after, rfl, ticket, bootstrap, epoch', outcome, job, settled, verdict⟩ :=
    answered_run quiet depth ordinary fresh answered
  have early : ∀ s ∈ before, s.Ordinary := fun s hs => ordinary s (List.mem_append_left _ hs)
  have late : ∀ s ∈ Step.answer id answer :: after, s.Ordinary :=
    fun s hs => ordinary s (List.mem_append_right _ hs)
  have earlier := (recorded_kept o).run quiet depth early lawful
  have now := ((recorded_kept o).run quiet depth ordinary lawful).2
  have grown : (run o depth before start).journal <+:
      (run o depth (before ++ .answer id answer :: after) start).journal := by
    rw [run_append]
    exact (journal_kept o _).run quiet depth late List.prefix_rfl
  obtain ⟨prior, rest, hjobs, -⟩ := earlier.1.split job
  obtain ⟨j, spawned, becomes⟩ := earlier.2.origin (id, .attempt ticket bootstrap epoch' true)
    (by simp [hjobs])
  have same : j = .attempt (some t) true epoch false := now.unique (grown.subset spawned) opened
  subst same
  cases becomes
  exact ⟨before, after, outcome, rfl, job, settled t rfl rfl, verdict⟩

/-- The notice of a connect is settled in the step in which its first attempt is answered, and only
in this step. -/
theorem settles_run {id : JobId} {t : TicketId} {epoch : UInt64} {start : Link σ}
    (new : start = .new identity environment outside)
    (opened : .spawned id (.attempt (some t) true epoch false) ∈
      (run o depth steps start).journal) :
    (∃ dialing, (id, .attempt (some t) true epoch dialing) ∈ (run o depth steps start).jobs) ∧
        (run o depth steps start).outcomes t = [] ∨
      ∃ before answer after outcome, steps = before ++ .answer id answer :: after ∧
        (run o depth before start).job? id = some (.attempt (some t) true epoch true) ∧
        (run o depth before start).outcomes t = [] ∧
        (run o depth (before ++ [.answer id answer]) start).outcomes t = [outcome] ∧
        (run o depth steps start).outcomes t = [outcome] ∧
        (((run o depth before start).epoch = epoch →
            (run o depth before start).state ≠ .connected) →
          outcome = (run o depth before start).verdict epoch answer) := by
  have custody : ∀ {steps : List (Step σ)}, (∀ s ∈ steps, s.Ordinary) →
      Custody none (run o depth steps start) :=
    fun ordinary => (custody_kept o).run quiet depth ordinary (new ▸ .new ..)
  have owned : ∀ dialing, (Job.attempt (some t) true epoch dialing).owns t = true :=
    fun _ => decide_eq_true rfl
  by_cases answered : ∃ answer, .answered id answer ∈ (run o depth steps start).journal
  · obtain ⟨answer, answered⟩ := answered
    obtain ⟨before, after, outcome, rfl, job, settled, verdict⟩ :=
      answers_run quiet depth ordinary identity environment outside new opened answered
    have early : ∀ s ∈ before, s.Ordinary := fun s hs => ordinary s (List.mem_append_left _ hs)
    have late : ∀ s ∈ after, s.Ordinary := fun s hs =>
      ordinary s (List.mem_append_right _ (List.mem_cons_of_mem _ hs))
    have upTo : ∀ s ∈ before ++ [.answer id answer], s.Ordinary :=
      List.forall_mem_append.mpr ⟨early, List.forall_mem_singleton.mpr trivial⟩
    have split : before ++ .answer id answer :: after = (before ++ [.answer id answer]) ++ after :=
      (List.append_cons ..)
    have still : .settled t outcome ∈
        (run o depth (before ++ .answer id answer :: after) start).journal := by
      rw [split, run_append]
      exact ((journal_kept o _).run quiet depth late List.prefix_rfl).subset settled
    exact .inr ⟨before, answer, after, outcome, rfl, job,
      (custody early).outcomes_eq_nil (mem_jobs job) (owned true),
      (custody upTo).outcomes_eq_singleton settled, (custody ordinary).outcomes_eq_singleton still,
      verdict⟩
  · have lawful : Numbered start ∧ Awaited start :=
      new ▸ ⟨.new .., .new identity environment outside⟩
    have awaited := ((awaited_kept o).run quiet depth ordinary lawful).2
    obtain ⟨dialing, pending⟩ := (awaited id (some t) true epoch opened).resolve_right answered
    exact .inl ⟨⟨dialing, pending⟩, (custody ordinary).outcomes_eq_nil pending (owned dialing)⟩

end Run

/-- A connect that starts no chain answers with the state and changes nothing, whatever state the
link is in. A connect that starts a chain answers with a ticket of its own, which goes with the
first attempt of the chain. In every run, that attempt is still pending and the notice is not
settled, or there is one step in which the connector answered the attempt: until then the notice
was not settled, in that step it was, and it was never settled again. What it was settled with is
the verdict on the link as it was found in that step. Only the last rests on epochs that have not
wrapped round. -/
theorem connect_settles_once (quiet : o.Quiet) (depth : Nat) {steps : List (Step σ)}
    (ordinary : ∀ s ∈ steps, s.Ordinary) (identity : Identity) (environment : Environment)
    (outside : σ) {start l : Link σ} (new : start = .new identity environment outside)
    (reached : l = run o depth steps start) :
    (∀ (nested : Call → Link σ → Link σ) (k : Link σ),
      (k.disconnected = true ∨ k.state ≠ .disconnected →
        ∃ s, connect o nested k = (.settled (.ok k.state), k.amid s)) ∧
      (k.disconnected = false → k.state = .disconnected →
        (∃ s, connect o nested k = (.pending k.ticketCount, (k.setOut true).amid s)) ∧
        .spawned k.jobCount (.attempt (some k.ticketCount) true (k.epoch + 1) false) ∈
          (k.setOut true).journal)) ∧
    ∀ id t epoch, .spawned id (.attempt (some t) true epoch false) ∈ l.journal →
      (∃ dialing, (id, .attempt (some t) true epoch dialing) ∈ l.jobs) ∧ l.outcomes t = [] ∨
      ∃ before answer after outcome, steps = before ++ .answer id answer :: after ∧
        (run o depth before start).job? id = some (.attempt (some t) true epoch true) ∧
        (run o depth before start).outcomes t = [] ∧
        (run o depth (before ++ [.answer id answer]) start).outcomes t = [outcome] ∧
        l.outcomes t = [outcome] ∧
        ((run o depth before start).chains < UInt64.size →
          outcome = (run o depth before start).verdict epoch answer) := by
  refine ⟨fun nested k => ⟨connect_ignored quiet nested, connect_opened quiet nested⟩,
    fun id t epoch opened => ?_⟩
  subst reached
  refine (settles_run quiet depth ordinary identity environment outside new opened).imp_right ?_
  rintro ⟨before, answer, after, outcome, rfl, job, notYet, settled, once, verdict⟩
  have early : ∀ s ∈ before, s.Ordinary := fun s hs => ordinary s (List.mem_append_left _ hs)
  refine ⟨before, answer, after, outcome, rfl, job, notYet, settled, once, fun few => ?_⟩
  apply verdict
  intro current
  have numbered : Numbered (run o depth before start) :=
    (numbered_kept o).run quiet depth early (new ▸ .new ..)
  subst new
  have sound := sound_run quiet depth early identity environment outside few
  exact sound.not_connected numbered job current

/-- A connect whose first attempt fails is told so, once, although the next attempt of its chain
succeeds and the link is disconnected afterwards. -/
theorem connect_settles_once_refused :
    let steps : List (Step Unit) := [.call .connect, .start 0, .answer 0 (.error .notConnected),
      .wake 1, .answer 1 (.ok 7), .call .disconnect]
    let l := run .insistent 2 steps .sample
    .spawned 0 (.attempt (some 0) true 1 false) ∈ l.journal ∧
      ∃ before answer after outcome, steps = before ++ .answer 0 answer :: after ∧
        (run .insistent 2 before .sample).outcomes 0 = [] ∧ l.outcomes 0 = [outcome] := by
  intro steps l
  have ordinary : ∀ s ∈ steps, s.Ordinary := by simp [steps, Step.Ordinary]
  have opened : .spawned 0 (.attempt (some 0) true 1 false) ∈ l.journal := by decide
  have settled : l.outcomes 0 ≠ [] := by decide
  obtain ⟨-, told⟩ := connect_settles_once (l := l) Surroundings.insistent_quiet 2 ordinary _ _ ()
    rfl rfl
  obtain ⟨-, none⟩ | ⟨before, answer, after, outcome, split, -, notYet, -, once, -⟩ :=
    told 0 0 1 opened
  · exact absurd none settled
  · exact ⟨opened, before, answer, after, outcome, split, notYet, once⟩

end Link

end NodeLink
