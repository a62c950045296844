import NodeLink.Proofs.Undisturbed

/-!
# The clockwork of a rehearsal

A rehearsal lets a link act, takes note of what it did, and moves the clock from deadline to
deadline. What it takes note of is computed here once: the queue gets the jobs that were created,
the notices get their replies, and what was kept for jobs that ended is forgotten.

While only one job is pending, a rehearsal is described by its *pose*: the time, the queue, the
timers, what the connector has yet to say, and what happened so far. The turns of an attempt are
computed as what they do to the pose, and they bring the attempt to its verdict: what the connector
says in time, or the failure that the safeguard stands for.
-/

set_option autoImplicit false

namespace NodeLink.Rehearsal

open Lifecycle (State)
open Link (Goes Solo Tells)

/-! ## Taking note -/

/-- The beats of a rehearsal, with their times. -/
def beats (r : Rehearsal) : List (Nat × Beat) :=
  r.chronicle.filterMap fun e => e.2.beat?.map fun b => (e.1, b)

/-- The notices after a reply. -/
def heed (notices : List Numbered) (e : Source × Reply) : List Numbered :=
  notices.map fun n =>
    match n with
    | .waiting s => if s = e.1 then .settled e.2 else n
    | _ => n

/-- Where no job waits for an outcome, an outcome moves no job. -/
theorem enqueueJobs_none {r : Rehearsal} {p : Job → Bool}
    (unreported : ∀ e ∈ r.link.jobs, ∀ ticket, e.2 ≠ .report ticket)
    (none : ∀ j, (∀ ticket, j ≠ .report ticket) → p j = false) : r.enqueueJobs p = r := by
  have empty : (r.link.jobs.filter fun j => p j.2) = [] :=
    List.filter_eq_nil_iff.mpr fun e mem => by simp [none e.2 (unreported e mem)]
  rw [enqueueJobs, empty]
  rfl

/-- Note was taken of some acts: the jobs that they create stand in the queue, and the notices have
their replies. -/
structure Noted (acts : List Act) (r r' : Rehearsal) : Prop where
  link : r'.link = r.link
  surroundings : r'.surroundings = r.surroundings
  patience : r'.patience = r.patience
  held : r'.held = r.held
  timers : r'.timers = r.timers
  casts : r'.casts = r.casts
  script : r'.script = r.script
  chronicle : r'.chronicle = r.chronicle
  ready : r'.ready = r.ready ++ (acts.filterMap Act.creation?).map Prod.fst
  notices : r'.notices = (acts.filterMap Act.reply?).foldl heed r.notices
  outcomes : acts.filterMap Act.reply? = [] → r'.outcomes = r.outcomes

theorem Noted.trans {acts more : List Act} {r r' r'' : Rehearsal} (first : Noted acts r r')
    (second : Noted more r' r'') : Noted (acts ++ more) r r'' where
  link := second.link.trans first.link
  surroundings := second.surroundings.trans first.surroundings
  patience := second.patience.trans first.patience
  held := second.held.trans first.held
  timers := second.timers.trans first.timers
  casts := second.casts.trans first.casts
  script := second.script.trans first.script
  chronicle := second.chronicle.trans first.chronicle
  ready := by
    rw [second.ready, first.ready, List.filterMap_append, List.map_append, List.append_assoc]
  notices := by rw [second.notices, first.notices, List.filterMap_append, List.foldl_append]
  outcomes none := by
    rw [List.filterMap_append, List.append_eq_nil_iff] at none
    exact (second.outcomes none.2).trans (first.outcomes none.1)

/-- Taking note changes the queue, the notices, the outcomes and the last options, and nothing
else. -/
theorem Noted.of {acts : List Act} {r : Rehearsal} {ready : List JobId} {notices : List Numbered}
    {outcomes : List (TicketId × Outcome)} {options : Option ConnectOptions}
    (created : ready = r.ready ++ (acts.filterMap Act.creation?).map Prod.fst)
    (replied : notices = (acts.filterMap Act.reply?).foldl heed r.notices)
    (quiet : acts.filterMap Act.reply? = [] → outcomes = r.outcomes) :
    Noted acts r { r with
      ready := ready, notices := notices, outcomes := outcomes, lastOptions := options } :=
  ⟨rfl, rfl, rfl, rfl, rfl, rfl, rfl, rfl, created, replied, quiet⟩

/-- Note is taken of an act. -/
theorem observe_noted {r : Rehearsal} {a : Act}
    (fresh : ∀ e, a.creation? = some e → e.1 ∉ r.ready)
    (unreported : ∀ e ∈ r.link.jobs, ∀ ticket, e.2 ≠ .report ticket) :
    Noted [a] r (observe r a) := by
  -- most acts are only written down
  have plain : ∀ a : Act, a.creation? = none → a.reply? = none → Noted [a] r r := by
    intro a created replies
    exact .of (by simp [created]) (by simp [replies]) fun _ => rfl
  cases a with
  | spawned id j =>
    have new : r.ready.contains id = false := by simpa using fresh (id, j) rfl
    simp only [observe, enqueue, new, Bool.false_eq_true, ↓reduceIte]
    exact .of rfl rfl fun _ => rfl
  | settled ticket outcome =>
    have noted : observe r (.settled ticket outcome) =
        { r with outcomes := r.outcomes ++ [(ticket, outcome)] }.reply (.ticket ticket)
          (.outcome outcome) := by
      unfold observe
      refine enqueueJobs_none unreported fun j other => ?_
      cases j with
      | report t => exact absurd rfl (other t)
      | _ => rfl
    rw [noted]
    exact .of (List.append_nil _).symm rfl fun none => absurd none (List.cons_ne_nil _ _)
  | failed request fault =>
    exact .of (List.append_nil _).symm rfl fun _ => rfl
  | dialed id options =>
    exact .of (List.append_nil _).symm rfl fun _ => rfl
  | _ => exact plain _ rfl rfl

/-- Note is taken of several acts. -/
theorem foldl_noted (acts : List Act) : ∀ r : Rehearsal,
    (r.ready ++ (acts.filterMap Act.creation?).map Prod.fst).Nodup →
    (∀ e ∈ r.link.jobs, ∀ ticket, e.2 ≠ .report ticket) → Noted acts r (acts.foldl observe r) := by
  induction acts with
  | nil =>
    intro r _ _
    exact .of (List.append_nil _).symm rfl fun _ => rfl
  | cons a acts ih =>
    intro r fresh unreported
    have split : (a :: acts).filterMap Act.creation? =
        [a].filterMap Act.creation? ++ acts.filterMap Act.creation? :=
      (List.filterMap_append : ([a] ++ acts).filterMap Act.creation? = _)
    rw [split, List.map_append, ← List.append_assoc] at fresh
    have new : ∀ e, a.creation? = some e → e.1 ∉ r.ready := by
      intro e spawned mem
      have apart := (List.nodup_append.mp (List.nodup_append.mp fresh).1).2.2
      exact apart e.1 mem e.1 (by simp [spawned]) rfl
    have first := observe_noted new unreported
    rw [← first.ready] at fresh
    exact first.trans (ih _ fresh (first.link ▸ unreported))

/-! ## Poses -/

/-- Where a rehearsal stands. -/
structure Pose where
  now : Nat
  ready : List JobId
  timers : List Timer
  casts : List (JobId × Cast)
  script : List Cast
  channels : Array Channel
  beats : List (Nat × Beat)
  notices : List Numbered

/-- What is kept for a job is forgotten unless it is the only one that goes on. -/
def Pose.tidy (p : Pose) (id : JobId) : Pose :=
  { p with
    timers := p.timers.filter fun t => [id].contains t.job
    casts := p.casts.filter fun c => [id].contains c.1 }

/-- Jobs were created, and something happened. -/
def Pose.after (p : Pose) (created : List (JobId × Job)) (beats : List Beat)
    (replies : List (Source × Reply)) : Pose :=
  { p with
    ready := p.ready ++ created.map Prod.fst
    beats := p.beats ++ beats.map fun b => (p.now, b)
    notices := replies.foldl heed p.notices }

def pose (r : Rehearsal) : Pose where
  now := r.now
  ready := r.ready
  timers := r.timers
  casts := r.casts
  script := r.script
  channels := r.link.outside.channels
  beats := r.beats
  notices := r.notices

/-- The link as it is let act. -/
def prepared (r : Rehearsal) : Link Scene :=
  { r.link with
    journal := [], outside := { r.link.outside with linkExists := r.linkExists } }

/-- A link in a given backoff with a single job, and where its rehearsal stands. The owner holds
the link. -/
structure Poised (delay : UInt64 → Option Nat) (stages : List Stage) (safeguard : Nat)
    (state : State) (id : JobId) (j : Job) (attempt : UInt64) (p : Pose) (r : Rehearsal) :
    Prop where
  surroundings : r.surroundings = Scene.surroundings delay stages
  held : r.held = true
  solo : Solo safeguard state id j attempt r.link
  pose : r.pose = p

section Poised

variable {delay : UInt64 → Option Nat} {stages : List Stage} {safeguard : Nat} {state : State}
  {id : JobId} {j : Job} {attempt : UInt64} {p : Pose} {r : Rehearsal}

theorem Poised.prepared (poised : Poised delay stages safeguard state id j attempt p r) :
    Solo safeguard state id j attempt r.prepared := by
  have unprompted := poised.solo.unprompted
  exact poised.solo.beside [] ⟨unprompted.onLog, unprompted.onPublish⟩

/-- What was done at one time is a beat of that time. -/
theorem beats_timed (t : Nat) (acts : List Act) :
    ((acts.map fun a => (t, a)).filterMap fun e => e.2.beat?.map fun b => (e.1, b)) =
      (acts.filterMap Act.beat?).map fun b => (t, b) := by
  rw [List.filterMap_map, List.map_filterMap]
  rfl

/-- As long as the owner holds it, a link exists. -/
theorem part_held (held : r.held = true) : r.part = r := by
  simp [part, linkExists, held]

/-- A rehearsal takes note of what its link did. -/
theorem act_poised {α : Type} {f : Link Scene → α × Link Scene} {created : List (JobId × Job)}
    {told : List Beat} {replies : List (Source × Reply)} {state' : State} {id' : JobId} {j' : Job}
    {attempt' : UInt64} (surroundings : r.surroundings = Scene.surroundings delay stages)
    (held : r.held = true) (pose : r.pose = p)
    (goes : Goes created told replies r.prepared (f r.prepared).2)
    (solo : Solo safeguard state' id' j' attempt' (f r.prepared).2)
    (fresh : (p.ready ++ created.map Prod.fst).Nodup) (unreported : ∀ ticket, j' ≠ .report ticket) :
    Poised delay stages safeguard state' id' j' attempt' ((p.after created told replies).tidy id')
      (r.act f).2 ∧ (r.act f).2.patience = r.patience ∧
      (replies = [] → (r.act f).2.outcomes = r.outcomes) := by
  obtain ⟨⟨acts, journal, tells⟩, now_kept, channels⟩ := goes
  obtain ⟨l, acted⟩ : ∃ l, l = (f r.prepared).2 := ⟨_, rfl⟩
  rw [← acted] at journal now_kept channels solo
  subst pose
  have written : l.journal = acts := journal.trans (List.nil_append _)
  obtain ⟨r₁, recorded⟩ : ∃ r₁ : Rehearsal, r₁ = { r with
      link := { l with journal := [] }
      chronicle := r.chronicle ++ acts.map fun a => (r.now, a) } := ⟨_, rfl⟩
  have there : (r.act f).2 = (acts.foldl observe r₁).tidy.part := by
    rw [recorded, ← written, acted]
    rfl
  have idle : ∀ e ∈ r₁.link.jobs, ∀ ticket, e.2 ≠ .report ticket := by
    intro e mem ticket
    rw [recorded] at mem
    have only : e = (id', j') := by simpa [solo.jobs] using mem
    subst only
    exact unreported ticket
  have noted := foldl_noted acts r₁ (by rw [tells.created, recorded]; exact fresh) idle
  have pending : r₁.link.jobs.map Prod.fst = [id'] := by
    rw [recorded, solo.jobs]
    rfl
  obtain ⟨r₂, after⟩ : ∃ r₂, r₂ = acts.foldl observe r₁ := ⟨_, rfl⟩
  rw [← after] at there noted
  have owned : r₂.tidy.held = true := noted.held.trans (recorded ▸ held)
  rw [there, part_held owned]
  refine ⟨⟨noted.surroundings.trans (recorded ▸ surroundings), owned, ?_, ?_⟩,
    noted.patience.trans (by rw [recorded]), fun none => ?_⟩
  · have same : r₂.tidy.link = { l with journal := [] } := noted.link.trans (by rw [recorded])
    rw [same]
    exact solo.beside [] solo.unprompted
  · simp only [pose, tidy, now, beats, noted.link, noted.ready, noted.timers, noted.casts,
      noted.script, noted.chronicle, noted.notices, pending, tells.created, tells.replies]
    subst recorded
    simp only [Pose.after, Pose.tidy, List.filterMap_append, beats_timed, tells.beats, now_kept,
      channels]
    rfl
  · have quiet : acts.filterMap Act.reply? = [] := tells.replies.trans none
    exact (noted.outcomes quiet).trans (by rw [recorded])

/-! ### What a rehearsal arranges by itself -/

theorem Poised.of_pose {q : Pose} (poised : Poised delay stages safeguard state id j attempt p r)
    (same : p = q) : Poised delay stages safeguard state id j attempt q r := same ▸ poised

theorem Poised.setTimer (poised : Poised delay stages safeguard state id j attempt p r)
    (purpose : Purpose) (ms : Nat) :
    Poised delay stages safeguard state id j attempt
      { p with timers := p.timers ++ [⟨p.now + ms, id, purpose⟩] } (r.setTimer id purpose ms) := by
  obtain ⟨surroundings, held, solo, rfl⟩ := poised
  exact ⟨surroundings, held, solo, rfl⟩

theorem Poised.dropTimers (poised : Poised delay stages safeguard state id j attempt p r)
    (purpose : Purpose) :
    Poised delay stages safeguard state id j attempt
      { p with timers := p.timers.filter fun t => !(t.job == id && t.purpose == purpose) }
      (r.dropTimers id purpose) := by
  obtain ⟨surroundings, held, solo, rfl⟩ := poised
  exact ⟨surroundings, held, solo, rfl⟩

theorem Poised.withReady (poised : Poised delay stages safeguard state id j attempt p r)
    (ready : List JobId) :
    Poised delay stages safeguard state id j attempt { p with ready := ready }
      { r with ready := ready } := by
  obtain ⟨surroundings, held, solo, rfl⟩ := poised
  exact ⟨surroundings, held, solo, rfl⟩

theorem Poised.withCasts (poised : Poised delay stages safeguard state id j attempt p r)
    (casts : List (JobId × Cast)) :
    Poised delay stages safeguard state id j attempt { p with casts := casts }
      { r with casts := casts } := by
  obtain ⟨surroundings, held, solo, rfl⟩ := poised
  exact ⟨surroundings, held, solo, rfl⟩

theorem Poised.withScript (poised : Poised delay stages safeguard state id j attempt p r)
    (script : List Cast) :
    Poised delay stages safeguard state id j attempt { p with script := script }
      { r with script := script } := by
  obtain ⟨surroundings, held, solo, rfl⟩ := poised
  exact ⟨surroundings, held, solo, rfl⟩

theorem Poised.hasTimer (poised : Poised delay stages safeguard state id j attempt p r)
    (id' : JobId) (purpose : Purpose) :
    r.hasTimer id' purpose = p.timers.any fun t => t.job == id' && t.purpose == purpose := by
  rw [← poised.pose]
  rfl

theorem Poised.isDue (poised : Poised delay stages safeguard state id j attempt p r)
    (id' : JobId) (purpose : Purpose) :
    r.isDue id' purpose =
      p.timers.any fun t => t.job == id' && t.purpose == purpose && t.deadline ≤ p.now := by
  rw [← poised.pose]
  rfl

/-- The clock moves. -/
theorem Poised.atTime (poised : Poised delay stages safeguard state id j attempt p r) (t : Nat) :
    Poised delay stages safeguard state id j attempt { p with now := t }
      (r.mapScene fun s => { s with now := t }) := by
  obtain ⟨surroundings, held, solo, rfl⟩ := poised
  have unprompted := solo.unprompted
  exact ⟨surroundings, held, solo.beside _ ⟨unprompted.onLog, unprompted.onPublish⟩, rfl⟩

/-- A channel is there. -/
theorem Poised.deliver (poised : Poised delay stages safeguard state id j attempt p r)
    (channel : Channel) :
    Poised delay stages safeguard state id j attempt
      { p with channels := p.channels.push channel }
      (r.mapScene fun s => { s with channels := s.channels.push channel }) := by
  obtain ⟨surroundings, held, solo, rfl⟩ := poised
  have unprompted := solo.unprompted
  exact ⟨surroundings, held, solo.beside _ ⟨unprompted.onLog, unprompted.onPublish⟩, rfl⟩

/-! ### Steps -/

/-- A step that is taken is noted. -/
theorem Poised.take {created : List (JobId × Job)} {told : List Beat}
    {replies : List (Source × Reply)} {state' : State} {id' : JobId} {j' : Job} {attempt' : UInt64}
    (poised : Poised delay stages safeguard state id j attempt p r) (s : Link.Step Scene)
    (steps : ∀ (depth : Nat) (l : Link Scene), Solo safeguard state id j attempt l →
      Goes created told replies l (l.step (Scene.surroundings delay stages) depth s) ∧
        Solo safeguard state' id' j' attempt' (l.step (Scene.surroundings delay stages) depth s))
    (fresh : (p.ready ++ created.map Prod.fst).Nodup) (unreported : ∀ ticket, j' ≠ .report ticket) :
    Poised delay stages safeguard state' id' j' attempt' ((p.after created told replies).tidy id')
      (r.take s) := by
  obtain ⟨goes, solo⟩ := steps r.depth _ poised.prepared
  rw [← poised.surroundings] at goes solo
  exact (act_poised poised.surroundings poised.held poised.pose goes solo fresh unreported).1

end Poised

/-! ## Verdicts -/

/-- What an attempt comes to: a fault, or a channel that starts in a given way. -/
abbrev Verdict := Except Fault Setup

namespace Verdict

/-- The entry of a script that brings a verdict at once. -/
def cast : Verdict → Cast
  | .ok setup => .channel setup
  | .error f => .fault f

/-- The state in which a persistent link is after a verdict. -/
def state : Verdict → State
  | .ok _ => .connected
  | .error _ => .connecting

/-- The job that is pending after a verdict. -/
def next (d : UInt64 → Nat) (attempt : UInt64) : Verdict → Job
  | .ok _ => .watch 0
  | .error _ => .retry (d attempt) 1

/-- The number of the next reconnect attempt after a verdict. -/
def number (attempt : UInt64) : Verdict → UInt64
  | .ok _ => attempt
  | .error _ => attempt + 1

/-- What the caller of a connect is told. -/
def outcome : Verdict → Outcome
  | .ok _ => .ok .connected
  | .error f => .error f

/-- The end of an attempt. Whoever waits for it is told, and a failed attempt publishes a reload. -/
def beats (ticket : Option TicketId) : Verdict → List Beat
  | .ok _ => .ended (.ok 0) :: .up :: ticket.toList.map (.told · (.ok .connected))
  | .error f => .ended (.error f) :: (ticket.toList.map (.told · (.error f)) ++ [.reloaded])

def replies (ticket : Option TicketId) (v : Verdict) : List (Source × Reply) :=
  ticket.toList.map fun t => (.ticket t, .outcome v.outcome)

/-- The channels after a verdict, if it is the first that may bring one. -/
def channels : Verdict → Array Channel
  | .ok setup => #[.ofSetup setup]
  | .error _ => #[]

end Verdict

/-- All that is kept is kept for one job, whose turn it is. -/
structure Pose.Engaged (p : Pose) (id : JobId) : Prop where
  ready : p.ready = []
  timers : ∀ t ∈ p.timers, t.job = id
  casts : ∀ c ∈ p.casts, c.1 = id
  channels : p.channels = #[]

/-- An attempt came to its verdict. -/
def Pose.concluded (p : Pose) (id : JobId) (ticket : Option TicketId) (v : Verdict) : Pose where
  now := p.now
  ready := [id + 1]
  timers := []
  casts := []
  script := p.script
  channels := v.channels
  beats := p.beats ++ (v.beats ticket).map fun b => (p.now, b)
  notices := (v.replies ticket).foldl heed p.notices

/-- What was kept for an attempt is forgotten with it. -/
theorem Pose.Engaged.tidy_succ {p : Pose} {id : JobId} (engaged : p.Engaged id)
    (ticket : Option TicketId) (j : Job) (v : Verdict) :
    (({ p with channels := v.channels }).after [(id + 1, j)] (v.beats ticket)
      (v.replies ticket)).tidy (id + 1) = p.concluded id ticket v := by
  have timers : p.timers.filter (fun t => [id + 1].contains t.job) = [] :=
    List.filter_eq_nil_iff.mpr fun t mem => by simp [engaged.timers t mem]
  have casts : p.casts.filter (fun c => [id + 1].contains c.1) = [] :=
    List.filter_eq_nil_iff.mpr fun c mem => by simp [engaged.casts c mem]
  simp only [after, tidy, timers, casts, engaged.ready]
  rfl

section Turns

variable {d : UInt64 → Nat} {stages : List Stage} {safeguard : Nat} {state : State}
  {id : JobId} {j : Job} {attempt : UInt64} {p : Pose} {r : Rehearsal} {ticket : Option TicketId}

/-- A verdict ends the attempt that waits for it. -/
theorem follow_verdict (v : Verdict)
    (poised : Poised (fun n => some (d n)) stages safeguard .connecting id
      (.attempt ticket ticket.isSome 1 true) attempt p r) (engaged : p.Engaged id) :
    Poised (fun n => some (d n)) stages safeguard v.state (id + 1) (v.next d attempt)
      (v.number attempt) (p.concluded id ticket v) (follow id v.cast r) := by
  rw [← engaged.tidy_succ ticket (v.next d attempt) v]
  cases v with
  | error f =>
    have same : { p with channels := Verdict.channels (.error f) } = p := by
      rw [Verdict.channels, ← engaged.channels]
    have taken := poised.take (.answer id (.error f))
      (fun depth l solo => Link.step_fails depth solo rfl f) (by simp [engaged.ready]) (by simp)
    rw [same]
    exact taken
  | ok setup =>
    have delivered := poised.deliver (.ofSetup setup)
    have first : r.link.outside.channels.size = 0 := by
      have none : r.link.outside.channels = p.channels := congrArg Pose.channels poised.pose
      rw [none, engaged.channels]
      rfl
    have taken := delivered.take (.answer id (.ok 0))
      (fun depth l solo => Link.step_succeeds depth solo 0) (by simp [engaged.ready]) (by simp)
    have there : follow id (.channel setup) r = (r.mapScene fun s =>
        { s with channels := s.channels.push (.ofSetup setup) }).take (.answer id (.ok 0)) := by
      rw [follow, first]
    rw [Verdict.cast, there]
    rw [engaged.channels] at taken
    exact taken

theorem isDialing_attempt {bootstrap : Bool} {delay : UInt64 → Option Nat}
    (poised : Poised delay stages safeguard state id (.attempt ticket bootstrap 1 true) attempt p
      r) : r.isDialing id = true := by
  rw [isDialing, Link.job?_single poised.solo.jobs]

/-- An attempt that has come to its verdict does not wait any more. -/
theorem isDialing_over {delay : UInt64 → Option Nat}
    (poised : Poised delay stages safeguard state (id + 1) j attempt p r) :
    r.isDialing id = false := by
  have none : r.link.job? id = none := by
    have other : (id == id + 1) = false := by simp
    rw [Link.job?, poised.solo.jobs, List.lookup_cons, other]
    rfl
  rw [isDialing, none]

end Turns

/-! ## Reactions -/

/-- How the connector answers a call: after some milliseconds, or never. -/
abbrev Reaction := Option (Nat × Verdict)

namespace Reaction

/-- The entry of a script for a reaction. -/
def cast : Reaction → Cast
  | some (t, v) => .later t v.cast
  | none => .silence

/-- How long an attempt lasts: until the connector answers or the safeguard time is over. -/
def lasts (safeguard : Nat) : Reaction → Nat
  | some (t, _) => min t safeguard
  | none => safeguard

/-- What an attempt comes to. An answer at the very end of the safeguard time counts. -/
def verdict (safeguard : Nat) : Reaction → Verdict
  | some (t, v) => if t ≤ safeguard then v else .error .safeguardTimeout
  | none => .error .safeguardTimeout

theorem verdict_early {safeguard t : Nat} (early : t ≤ safeguard) (v : Verdict) :
    verdict safeguard (some (t, v)) = v := by
  simp [verdict, early]

theorem verdict_late {safeguard t : Nat} (late : safeguard < t) (v : Verdict) :
    verdict safeguard (some (t, v)) = .error .safeguardTimeout := by
  simp [verdict, Nat.not_le.mpr late]

/-- What an attempt waits for that began at a given time. -/
def timers (safeguard : Nat) (now : Nat) (id : JobId) : Reaction → List Timer
  | some (t, _) => [⟨now + t, id, .connector⟩, ⟨now + safeguard, id, .safeguard⟩]
  | none => [⟨now + safeguard, id, .safeguard⟩]

theorem timers_job {safeguard now : Nat} {id : JobId} {reaction : Reaction} :
    ∀ t ∈ reaction.timers safeguard now id, t.job = id := by
  cases reaction <;> simp [timers]

/-- The first of its deadlines ends an attempt. -/
theorem min_timers (safeguard now : Nat) (id : JobId) (reaction : Reaction) :
    ((reaction.timers safeguard now id).map (·.deadline)).min? =
      some (now + reaction.lasts safeguard) := by
  cases reaction with
  | none => rfl
  | some answer =>
    have first : min (now + answer.1) (now + safeguard) = now + min answer.1 safeguard :=
      Nat.add_min_add_left ..
    exact congrArg some first

/-- What the connector has yet to say to an attempt. -/
def casts (id : JobId) : Reaction → List (JobId × Cast)
  | some (_, v) => [(id, v.cast)]
  | none => []

end Reaction

section Reactions

variable {d : UInt64 → Nat} {stages : List Stage} {safeguard : Nat} {id : JobId}
  {attempt : UInt64} {p : Pose} {r : Rehearsal} {ticket : Option TicketId}

/-- An attempt waits for the connector and the safeguard time together. -/
def Pose.waiting (p : Pose) (id : JobId) (safeguard : Nat) (reaction : Reaction) : Pose :=
  { p with
    timers := reaction.timers safeguard p.now id
    casts := reaction.casts id }

/-- The safeguard time begins, and is over at once if it is none. -/
theorem guard_poised (poised : Poised (fun n => some (d n)) stages safeguard .connecting id
      (.attempt ticket ticket.isSome 1 true) attempt p r) (engaged : p.Engaged id) :
    let r' := match r.link.environment.settings.safeguard with
      | 0 => r.take (.answer id (.error .safeguardTimeout))
      | ms + 1 => r.setTimer id .safeguard (ms + 1)
    (safeguard = 0 →
      Poised (fun n => some (d n)) stages safeguard .connecting (id + 1) (.retry (d attempt) 1)
        (attempt + 1) (p.concluded id ticket (.error .safeguardTimeout)) r') ∧
    (safeguard ≠ 0 →
      Poised (fun n => some (d n)) stages safeguard .connecting id
        (.attempt ticket ticket.isSome 1 true) attempt
        { p with timers := p.timers ++ [⟨p.now + safeguard, id, .safeguard⟩] } r') := by
  rw [poised.solo.safeguard]
  cases safeguard with
  | zero =>
    refine ⟨fun _ => ?_, fun other => absurd rfl other⟩
    exact follow_verdict (.error .safeguardTimeout) poised engaged
  | succ ms =>
    refine ⟨fun other => absurd other (Nat.succ_ne_zero ms), fun _ => ?_⟩
    exact poised.setTimer .safeguard (ms + 1)

/-- After the connector was called, the attempt comes to its verdict at once or waits for it. -/
theorem dialed_poised (reaction : Reaction)
    (poised : Poised (fun n => some (d n)) stages safeguard .connecting id
      (.attempt ticket ticket.isSome 1 true) attempt p r)
    (ready : p.ready = []) (timers : p.timers = []) (casts : p.casts = [])
    (channels : p.channels = #[]) (next : p.script.headD .silence = reaction.cast) :
    (reaction.lasts safeguard = 0 →
      Poised (fun n => some (d n)) stages safeguard (reaction.verdict safeguard).state (id + 1)
        ((reaction.verdict safeguard).next d attempt)
        ((reaction.verdict safeguard).number attempt)
        ({ p with script := p.script.tail }.concluded id ticket (reaction.verdict safeguard))
        (dialed id r)) ∧
    (reaction.lasts safeguard ≠ 0 →
      Poised (fun n => some (d n)) stages safeguard .connecting id
        (.attempt ticket ticket.isSome 1 true) attempt
        ({ p with script := p.script.tail }.waiting id safeguard reaction) (dialed id r)) := by
  have script : r.script = p.script := congrArg Pose.script poised.pose
  have told := poised.withScript p.script.tail
  have engaged : ({ p with script := p.script.tail } : Pose).Engaged id :=
    ⟨ready, by simp [timers], by simp [casts], channels⟩
  unfold dialed
  rw [if_pos (isDialing_attempt poised), script, next]
  match reaction with
  | none =>
    have silent : follow id .silence { r with script := p.script.tail } =
        { r with script := p.script.tail } := by rw [follow]
    dsimp only [Reaction.cast]
    rw [silent, if_pos (isDialing_attempt told)]
    obtain ⟨lapsed, waits⟩ := guard_poised told engaged
    have pose : ({ p with script := p.script.tail } : Pose).waiting id safeguard none =
        { p with
          script := p.script.tail
          timers := p.timers ++ [⟨p.now + safeguard, id, .safeguard⟩] } := by
      simp [Pose.waiting, Reaction.timers, Reaction.casts, timers, casts]
    rw [pose]
    exact ⟨lapsed, waits⟩
  | some (0, v) =>
    have final := follow_verdict v told engaged
    have atOnce : follow id (.later 0 v.cast) { r with script := p.script.tail } =
        follow id v.cast { r with script := p.script.tail } := by rw [follow]
    have verdict := Reaction.verdict_early (Nat.zero_le safeguard) v
    dsimp only [Reaction.cast]
    rw [atOnce, isDialing_over final, verdict]
    exact ⟨fun _ => final, fun some => absurd (Nat.zero_min _) some⟩
  | some (t + 1, v) =>
    have later := (told.withCasts (p.casts ++ [(id, v.cast)])).setTimer .connector (t + 1)
    have begun : follow id (.later (t + 1) v.cast) { r with script := p.script.tail } =
        { r with script := p.script.tail, casts := r.casts ++ [(id, v.cast)] }.setTimer id
          .connector (t + 1) := by rw [follow]
    have same : r.casts = p.casts := congrArg Pose.casts poised.pose
    dsimp only [Reaction.cast]
    rw [begun, same, if_pos (isDialing_attempt later)]
    have busy : ({ p with
        script := p.script.tail
        casts := p.casts ++ [(id, v.cast)]
        timers := p.timers ++ [⟨p.now + (t + 1), id, .connector⟩] } : Pose).Engaged id :=
      ⟨ready, by simp [timers], by simp [casts], channels⟩
    obtain ⟨lapsed, waits⟩ := guard_poised later busy
    have pose : ({ p with script := p.script.tail } : Pose).waiting id safeguard (some (t + 1, v)) =
        { p with
          script := p.script.tail
          casts := p.casts ++ [(id, v.cast)]
          timers := p.timers ++ [⟨p.now + (t + 1), id, .connector⟩] ++
            [⟨p.now + safeguard, id, .safeguard⟩] } := by
      simp [Pose.waiting, Reaction.timers, Reaction.casts, timers, casts]
    have none : Reaction.lasts safeguard (some (t + 1, v)) = 0 ↔ safeguard = 0 := by
      simp only [Reaction.lasts]
      omega
    rw [pose, ne_eq, none]
    refine ⟨fun zero => ?_, waits⟩
    have late : safeguard < t + 1 := zero ▸ Nat.succ_pos t
    rw [Reaction.verdict_late late]
    exact lapsed zero

/-- When the time of an attempt is over, it comes to its verdict. -/
theorem resume_poised (reaction : Reaction) {began : Nat}
    (poised : Poised (fun n => some (d n)) stages safeguard .connecting id
      (.attempt ticket ticket.isSome 1 true) attempt p r)
    (ready : p.ready = []) (timers : p.timers = reaction.timers safeguard began id)
    (casts : p.casts = reaction.casts id) (channels : p.channels = #[])
    (lapsed : p.now = began + reaction.lasts safeguard) :
    Poised (fun n => some (d n)) stages safeguard (reaction.verdict safeguard).state (id + 1)
      ((reaction.verdict safeguard).next d attempt) ((reaction.verdict safeguard).number attempt)
      (p.concluded id ticket (reaction.verdict safeguard)) (resume id r) := by
  have engaged : p.Engaged id := by
    refine ⟨ready, timers ▸ Reaction.timers_job, ?_, channels⟩
    · rw [casts]
      cases reaction <;> simp [Reaction.casts]
  have due : ∀ purpose, r.isDue id purpose = (reaction.timers safeguard began id).any fun t =>
      t.job == id && t.purpose == purpose && t.deadline ≤ began + reaction.lasts safeguard := by
    intro purpose
    rw [poised.isDue, timers, lapsed]
  -- unless the connector was in time, the safeguard answers
  have guarded : r.isDue id .connector = false → r.isDue id .safeguard = true →
      Poised (fun n => some (d n)) stages safeguard .connecting (id + 1) (.retry (d attempt) 1)
        (attempt + 1) (p.concluded id ticket (.error .safeguardTimeout)) (resume id r) := by
    intro pending elapsed
    have there : resume id r = r.take (.answer id (.error .safeguardTimeout)) := by
      simp only [resume, pending, Bool.false_eq_true, ↓reduceIte, isDialing_attempt poised, elapsed,
        Bool.and_self]
    rw [there]
    exact follow_verdict (.error .safeguardTimeout) poised engaged
  match reaction with
  | none =>
    refine guarded ?_ ?_
    · rw [due]
      simp [Reaction.timers]
    · rw [due]
      simp [Reaction.timers, Reaction.lasts]
  | some (t, v) =>
    by_cases early : t ≤ safeguard
    · rw [Reaction.verdict_early early]
      have lasts : Reaction.lasts safeguard (some (t, v)) = t := Nat.min_eq_left early
      have answered : r.isDue id .connector = true := by
        rw [due]
        simp [Reaction.timers, lasts]
      have said : r.casts.lookup id = some v.cast := by
        have same : r.casts = p.casts := congrArg Pose.casts poised.pose
        rw [same, casts]
        simp [Reaction.casts]
      have arranged := (poised.dropTimers .connector).withCasts (r.casts.filter (·.1 ≠ id))
      have none : (r.casts.filter (·.1 ≠ id)) = [] := by
        have same : r.casts = p.casts := congrArg Pose.casts poised.pose
        rw [same]
        exact List.filter_eq_nil_iff.mpr fun c mem => by simp [engaged.casts c mem]
      have final := follow_verdict v arranged ⟨ready,
        fun t mem => engaged.timers t (List.mem_filter.mp mem).1, by rw [none]; simp, channels⟩
      have there : resume id r = follow id v.cast
          { r.dropTimers id .connector with casts := r.casts.filter (·.1 ≠ id) } := by
        have ended := isDialing_over final
        simp only [resume, answered, said, ↓reduceIte]
        simp only [ended, Bool.false_and, Bool.false_eq_true, ↓reduceIte]
      rw [there]
      exact final
    · have late : safeguard < t := Nat.not_le.mp early
      rw [Reaction.verdict_late late]
      have lasts : Reaction.lasts safeguard (some (t, v)) = safeguard :=
        Nat.min_eq_right (Nat.le_of_lt late)
      refine guarded ?_ ?_
      · rw [due]
        simp [Reaction.timers, lasts, late]
      · rw [due]
        simp [Reaction.timers, lasts]

end Reactions

end NodeLink.Rehearsal
