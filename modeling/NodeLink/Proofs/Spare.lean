import NodeLink.Proofs.Lockstep

/-!
# Jobs to spare

A retry that waits and a watch over a channel do nothing until they are woken. A link that has some
of them to spare does what it does without them: every call and every step takes two such links to
two such links. This is shown of the small changes that operations are made of, and of requests and
flushes; for all that is built on them the two links are in lockstep. Nested calls are covered by
induction on their depth.

The two links need not have logged the same lines. The premise is that the surroundings keep a log
at most, and never look at it.
-/

set_option autoImplicit false

namespace NodeLink

variable {σ : Type}

/-- Surroundings that never look at their log. States of theirs that differ in the log at most are
`alike`; the surroundings answer alike in them. -/
structure Surroundings.Aloof (o : Surroundings σ) (alike : σ → σ → Prop) : Prop where
  equivalence : Equivalence alike
  /-- A log line is no occasion to call the link, and makes no difference but to the log. -/
  logging : ∀ line s, (o.react (.logging line) s).1 = [] ∧ alike (o.react (.logging line) s).2 s
  react : ∀ k {s t}, alike s t →
    (o.react k s).1 = (o.react k t).1 ∧ alike (o.react k s).2 (o.react k t).2
  accept : ∀ e {s t}, alike s t →
    (o.accept e s).1 = (o.accept e t).1 ∧ alike (o.accept e s).2 (o.accept e t).2
  delay : ∀ n {s t}, alike s t →
    (o.delay n s).1 = (o.delay n t).1 ∧ alike (o.delay n s).2 (o.delay n t).2
  stages : ∀ {s t}, alike s t →
    (o.stages s).1 = (o.stages t).1 ∧ alike (o.stages s).2 (o.stages t).2
  traces : ∀ {s t}, alike s t → o.traces s = o.traces t
  isActive : ∀ {s t}, alike s t → o.isActive s = o.isActive t
  isWritable : ∀ {s t}, alike s t → o.isWritable s = o.isWritable t

/-- The jobs that do nothing until they are woken. -/
def Job.Waits : Job → Prop
  | .retry .. | .watch _ => True
  | _ => False

namespace Link

open Lifecycle (State Machine)

variable {o : Surroundings σ} {nested : Call → Link σ → Link σ} {alike : σ → σ → Prop}
  {spare : List JobId} {k l : Link σ}

/-- A line that is logged changes nothing but the log. -/
theorem log_aloof (aloof : o.Aloof alike) (nested : Call → Link σ → Link σ) (level : Level)
    (message : String) (fields : List (String × String)) (l : Link σ) :
    ∃ s, alike s l.outside ∧ log o nested level message fields l = l.amid s := by
  obtain ⟨none, near⟩ := aloof.logging ⟨level, message, fields⟩ l.outside
  exact ⟨_, near, by simp only [log, occur, none, List.foldl_nil, amid]⟩

/-- A link without some of its jobs, amid other surroundings. -/
def without (l : Link σ) (spare : List JobId) (s : σ) : Link σ :=
  { l with jobs := l.jobs.filter (·.1 ∉ spare), outside := s }

theorem job?_without_of_mem {id : JobId} (h : id ∈ spare) (s : σ) :
    (l.without spare s).job? id = none := by
  refine List.lookup_eq_none_iff.mpr fun e he => ?_
  have kept : e.1 ∉ spare := by simpa using (List.mem_filter.mp he).2
  simp only [bne_iff_ne, ne_eq]
  rintro rfl
  exact kept h

theorem job?_without_of_notMem {id : JobId} (h : id ∉ spare) (s : σ) :
    (l.without spare s).job? id = l.job? id := by
  simp only [job?, without]
  induction l.jobs with
  | nil => rfl
  | cons e jobs ih =>
    obtain ⟨name, j⟩ := e
    by_cases same : id = name
    · simp [← same, h]
    · have other : (id == name) = false := beq_eq_false_iff_ne.mpr same
      by_cases kept : name ∈ spare
      · simpa [kept, List.lookup_cons, other] using ih
      · simpa [kept, List.lookup_cons, other] using ih

theorem Numbered.unique (numbered : Numbered l) {e : JobId × Job} (mem : e ∈ l.jobs) {j : Job}
    (job : l.job? e.1 = some j) : e.2 = j :=
  congrArg Prod.snd (List.inj_on_of_nodup_map numbered.nodup mem (mem_jobs job) rfl)

/-- The second link is the first one with some jobs to spare, all of them waiting. -/
inductive Spares (alike : σ → σ → Prop) (spare : List JobId) : Link σ → Link σ → Prop
  | mk (l : Link σ) (s : σ) (near : alike s l.outside) (numbered : Numbered l)
      (past : ∀ id ∈ spare, id < l.jobCount)
      (waiting : ∀ e ∈ l.jobs, e.1 ∈ spare → e.2.Waits) : Spares alike spare (l.without spare s) l

/-- Two links answer the same, and are left as a link is with jobs to spare. -/
def AnswersAlike {α : Type} (alike : σ → σ → Prop) (spare : List JobId) (p q : α × Link σ) : Prop :=
  ∃ a k l, p = (a, k) ∧ q = (a, l) ∧ Spares alike spare k l

namespace Spares

/-! ## What the two links have in common -/

theorem outside (h : Spares alike spare k l) : alike k.outside l.outside := by
  cases h with
  | mk _ s near => exact near

theorem eq_without (h : Spares alike spare k l) :
    k = l.without spare k.outside ∧ ∀ e ∈ l.jobs, e.1 ∈ spare → e.2.Waits := by
  cases h with
  | mk _ s near numbered past waiting => exact ⟨rfl, waiting⟩

theorem common (h : Spares alike spare k l) : k.common = l.common := by cases h; rfl

theorem state (h : Spares alike spare k l) : k.state = l.state := by cases h; rfl

theorem channel (h : Spares alike spare k l) : k.channel = l.channel := by cases h; rfl

theorem hasWritten (h : Spares alike spare k l) : k.hasWritten = l.hasWritten := by cases h; rfl

/-- A job of the first link is a job of the second one, and none that it has to spare. -/
theorem job? (h : Spares alike spare k l) {id : JobId} (notSpare : id ∉ spare) :
    k.job? id = l.job? id := by
  cases h with
  | mk _ s => exact job?_without_of_notMem notSpare s

theorem job?_spare (h : Spares alike spare k l) {id : JobId} (isSpare : id ∈ spare) :
    k.job? id = none ∧ ∀ j, l.job? id = some j → j.Waits := by
  cases h with
  | mk _ s near numbered past waiting =>
    refine ⟨job?_without_of_mem isSpare s, fun j job => ?_⟩
    exact waiting (id, j) (mem_jobs job) isSpare

/-- The first link has no jobs that the second one lacks. -/
theorem job?_of_some (h : Spares alike spare k l) {id : JobId} {j : Job}
    (job : k.job? id = some j) : l.job? id = some j := by
  have notSpare : id ∉ spare := fun mem => absurd ((h.job?_spare mem).1.symm.trans job) nofun
  exact (h.job? notSpare).symm.trans job

/-! ## Small changes -/

theorem refl (equivalence : Equivalence alike) (numbered : Numbered l) : Spares alike [] l l := by
  have same : l.without [] l.outside = l := by simp [without]
  have spares := Spares.mk l l.outside (equivalence.refl _) numbered
    (fun id mem => absurd mem List.not_mem_nil) fun e _ mem => absurd mem List.not_mem_nil
  rwa [same] at spares

/-- A change that leaves the jobs alone may be made to both links. -/
theorem still (h : Spares alike spare k l) {f : Link σ → Link σ}
    (moves : ∀ s, f (l.without spare s) = (f l).without spare s) (jobs : (f l).jobs = l.jobs)
    (count : (f l).jobCount = l.jobCount) (outside : (f l).outside = l.outside) :
    Spares alike spare (f k) (f l) := by
  cases h with
  | mk _ s near numbered past waiting =>
    rw [moves]
    exact .mk (f l) s (outside ▸ near) ⟨jobs ▸ numbered.nodup, jobs ▸ count ▸ numbered.lt⟩
      (count ▸ past) (jobs ▸ waiting)

theorem amid (h : Spares alike spare k l) {s t : σ} (near : alike s t) :
    Spares alike spare (k.amid s) (l.amid t) := by
  cases h with
  | mk _ _ _ numbered past waiting =>
    exact .mk (l.amid t) s near ⟨numbered.nodup, numbered.lt⟩ past waiting

theorem note (h : Spares alike spare k l) (a : Act) : Spares alike spare (k.note a) (l.note a) :=
  h.still (f := (·.note a)) (fun _ => rfl) rfl rfl rfl

theorem count (h : Spares alike spare k l) (c : Counter) :
    Spares alike spare (k.count c) (l.count c) :=
  h.still (f := (·.count c)) (fun _ => rfl) rfl rfl rfl

theorem mark (h : Spares alike spare k l) (b : Bool) :
    Spares alike spare { k with hasWritten := b } { l with hasWritten := b } :=
  h.still (f := fun l => { l with hasWritten := b }) (fun _ => rfl) rfl rfl rfl

/-- New jobs get names that no spare job has. -/
theorem spawn (h : Spares alike spare k l) (j : Job) :
    Spares alike spare (k.spawn j) (l.spawn j) := by
  cases h with
  | mk _ s near numbered past waiting =>
    have new : l.jobCount ∉ spare := fun mem => Nat.lt_irrefl _ (past _ mem)
    have same : (l.without spare s).spawn j = (l.spawn j).without spare s := by
      simp [without, Link.spawn, Link.note, new]
    rw [same]
    refine .mk (l.spawn j) s near (numbered.entry (.spawn l j))
      (fun id mem => Nat.lt_succ_of_lt (past id mem)) fun e he => ?_
    rcases List.mem_append.mp he with old | created
    · exact waiting e old
    · rw [List.mem_singleton.mp created]
      exact fun mem => absurd mem new

theorem finish (h : Spares alike spare k l) (id : JobId) :
    Spares alike spare (k.finish id) (l.finish id) := by
  cases h with
  | mk _ s near numbered past waiting =>
    have same : (l.without spare s).finish id = (l.finish id).without spare s := by
      simp only [without, Link.finish, List.filter_filter, Bool.and_comm]
    rw [same]
    exact .mk (l.finish id) s near (numbered.finish id) past
      fun e he => waiting e (List.mem_filter.mp he).1

/-- A spare job may end. -/
theorem finish_spare (h : Spares alike spare k l) {id : JobId} (isSpare : id ∈ spare) :
    Spares alike spare k (l.finish id) := by
  cases h with
  | mk _ s near numbered past waiting =>
    have same : l.without spare s = (l.finish id).without spare s := by
      simp only [without, Link.finish, List.filter_filter]
      congr 1
      refine List.filter_congr fun e _ => ?_
      by_cases mem : e.1 ∈ spare
      · simp [mem]
      · have other : e.1 ≠ id := fun same => mem (same ▸ isSpare)
        simp [mem, other]
    rw [same]
    exact .mk (l.finish id) s near (numbered.finish id) past
      fun e he => waiting e (List.mem_filter.mp he).1

/-- A job that the first link ends is one more to spare for the second one, if it waits. -/
theorem spared (h : Spares alike spare k l) {id : JobId} {j : Job} (job : l.job? id = some j)
    (waits : j.Waits) : Spares alike (id :: spare) (k.finish id) l := by
  cases h with
  | mk _ s near numbered past waiting =>
    have same : (l.without spare s).finish id = l.without (id :: spare) s := by
      simp only [without, Link.finish, List.filter_filter, List.mem_cons, not_or,
        Bool.decide_and]
    rw [same]
    refine .mk l s near numbered ?_ fun e he => ?_
    · exact List.forall_mem_cons.mpr ⟨numbered.lt _ (mem_jobs job), past⟩
    · rintro (_ | ⟨_, mem⟩)
      · rw [numbered.unique he job]
        exact waits
      · exact waiting e he mem

/-- A job that is not to spare may go on. -/
theorem become (h : Spares alike spare k l) {id : JobId} (notSpare : id ∉ spare) (j : Job) :
    Spares alike spare (k.become id j) (l.become id j) := by
  cases h with
  | mk _ s near numbered past waiting =>
    have name : ∀ e : JobId × Job, (if e.1 = id then (id, j) else e).1 = e.1 := by
      intro e
      split
      next same => exact same.symm
      next => rfl
    have same : (l.without spare s).become id j = (l.become id j).without spare s := by
      simp only [without, Link.become, List.filter_map, Function.comp_def, name]
    rw [same]
    refine .mk (l.become id j) s near (numbered.become id j) past fun e he mem => ?_
    obtain ⟨e', he', rfl⟩ := List.mem_map.mp he
    rw [name] at mem
    have other : e'.1 ≠ id := fun same => notSpare (same ▸ mem)
    rw [if_neg other]
    exact waiting e' he' mem

/-! ## Calls -/

section Calls

variable (aloof : o.Aloof alike)
include aloof

variable (nested) in
/-- The two links may log different lines. -/
theorem log (h : Spares alike spare k l) (level level' : Level) (message message' : String)
    (fields fields' : List (String × String)) :
    Spares alike spare (Link.log o nested level message fields k)
      (Link.log o nested level' message' fields' l) := by
  have near := aloof.equivalence
  obtain ⟨s, here, hs⟩ := log_aloof aloof nested level message fields k
  obtain ⟨t, there, ht⟩ := log_aloof aloof nested level' message' fields' l
  rw [hs, ht]
  exact h.amid (near.trans here (near.trans h.outside (near.symm there)))

variable (within : ∀ c {k l : Link σ}, Spares alike spare k l →
  Spares alike spare (nested c k) (nested c l))
include within

theorem occur (h : Spares alike spare k l) (occasion : Occasion) :
    Spares alike spare (Link.occur o nested occasion k) (Link.occur o nested occasion l) := by
  obtain ⟨same, near⟩ := aloof.react occasion h.outside
  unfold Link.occur
  dsimp only
  rw [same]
  exact List.foldl_rel (h.amid near) fun c _ _ _ h => within c h

theorem publish (h : Spares alike spare k l) (e : Event) :
    AnswersAlike alike spare (Link.publish o nested e k) (Link.publish o nested e l) := by
  have asked := h.occur aloof within (.publishing e)
  obtain ⟨same, near⟩ := aloof.accept e asked.outside
  unfold Link.publish
  dsimp only
  rw [same]
  exact ⟨_, _, _, rfl, rfl, (asked.amid near).note _⟩

theorem signalReload (h : Spares alike spare k l) :
    Spares alike spare (Link.signalReload o nested k) (Link.signalReload o nested l) := by
  obtain ⟨answer, k', l', here, there, offered⟩ :=
    (h.count .reload).publish aloof within .reload
  unfold Link.signalReload
  rw [here, there]
  cases answer with
  | none => exact offered
  | some refusal => exact offered.log _ aloof ..

/-- Jobs that are not to spare are the same on both links. -/
theorem lockstep : Lockstep o o nested nested (Spares alike spare)
    fun id id' _ _ => id = id' ∧ id ∉ spare where
  common h := h.common
  adopt h c := h.still (f := (·.adopt c)) (fun _ => rfl) rfl rfl rfl
  unmark h := h.mark false
  note h a := h.note a
  count h c := h.count c
  spawn h j := h.spawn j
  job? h := by
    rintro ⟨rfl, notSpare⟩
    exact h.job? notSpare
  finish h := by
    rintro ⟨rfl, -⟩
    exact h.finish _
  take h := by
    rintro ⟨rfl, -⟩ answer
    exact (h.finish _).note _
  become h := by
    rintro ⟨rfl, notSpare⟩ j
    exact h.become notSpare j
  dialed h := by
    rintro ⟨rfl, notSpare⟩ j options
    exact (h.become notSpare j).note _
  log h := h.log nested aloof
  signalReload h := h.signalReload aloof within
  consulting h attempt := h.occur aloof within (.consulting attempt)
  delay h attempt := by
    obtain ⟨same, near⟩ := aloof.delay attempt h.outside
    exact ⟨same, h.amid near⟩
  stages h := by
    obtain ⟨same, near⟩ := aloof.stages h.outside
    exact ⟨same, h.amid near⟩
  traces h := aloof.traces h.outside

theorem flush (h : Spares alike spare k l) :
    Spares alike spare (Link.flush o nested k) (Link.flush o nested l) := by
  unfold Link.flush
  rw [h.state, h.hasWritten, h.channel, aloof.isActive h.outside]
  split
  · split
    next c _ =>
      split
      · exact ((h.note (.flushed c)).occur aloof within (.flushing c)).mark false
      · exact h
    next => exact h
  · exact h

theorem redirect (h : Spares alike spare k l) (r : Request) :
    Spares alike spare (Link.redirect o nested r k) (Link.redirect o nested r l) := by
  have logged := (h.count .redirect).log nested aloof .debug .debug
    "endpoint_request_redirected" "endpoint_request_redirected"
    [("ident", (k.count .redirect).mark o)] [("ident", (l.count .redirect).mark o)]
  obtain ⟨answer, k', l', here, there, offered⟩ := logged.publish aloof within (.redirect r)
  unfold Link.redirect
  dsimp only
  rw [here, there]
  cases answer with
  | none => exact offered
  | some refusal => exact (offered.log _ aloof ..).note _

theorem send (h : Spares alike spare k l) (r : Request) :
    Spares alike spare (Link.send o nested r k) (Link.send o nested r l) := by
  unfold Link.send
  rw [h.state, h.channel, aloof.isActive h.outside, aloof.isWritable h.outside]
  split
  · split
    next c _ =>
      split
      · exact ((h.note (.wrote c r)).occur aloof within (.writing c r)).mark true
      · exact h.redirect aloof within r
    next => exact h.redirect aloof within r
  · exact (h.count .rejection).spawn _

theorem carryOut (h : Spares alike spare k l) (c : Call) :
    Spares alike spare (Link.carryOut o nested c k) (Link.carryOut o nested c l) := by
  have called := h.note (.called c)
  cases c with
  | flush => exact (called.flush aloof within).note _
  | send r => exact (called.send aloof within r).note _
  | _ => exact (lockstep aloof within).carryOut h rfl

end Calls

/-- Calls do to both links the same, to any depth, by induction on the depth. -/
theorem atDepth (aloof : o.Aloof alike) (depth : Nat) (c : Call) (h : Spares alike spare k l) :
    Spares alike spare (Link.nested o depth c k) (Link.nested o depth c l) := by
  induction depth generalizing c k l with
  | zero => exact h
  | succ depth ih => exact h.carryOut aloof (fun c _ _ h => ih c h) c

/-! ## Steps -/

/-- A job to spare does nothing on either link until it is woken, or it ends on the second one. -/
theorem errand_spare (h : Spares alike spare k l) (o : Surroundings σ) (depth : Nat) {id : JobId}
    (isSpare : id ∈ spare) {e : Errand} (asleep : e ≠ .wake ∧ e ≠ .lost) :
    Spares alike spare (Link.step o depth (e.step id) k) (Link.step o depth (e.step id) l) := by
  obtain ⟨missing, waits⟩ := h.job?_spare isSpare
  rw [step_missing missing]
  cases job : l.job? id with
  | none => rwa [step_missing job]
  | some j =>
    have waiting := waits j job
    cases e with
    | wake => exact absurd rfl asleep.1
    | lost => exact absurd rfl asleep.2
    | crash =>
      cases j with
      | retry | watch =>
        simpa only [Errand.step, Link.step, stepWith, forsake, job] using h.finish_spare isSpare
      | attempt | teardown | cleanup | report | rejection => exact waiting.elim
    | start | answer | closed | told =>
      cases j with
      | retry | watch => simpa only [Errand.step, Link.step, stepWith, Link.start, job] using h
      | attempt | teardown | cleanup | report | rejection => exact waiting.elim

/-- Both links take the same steps, if nobody wakes a job that the first one lacks. -/
theorem step (aloof : o.Aloof alike) (h : Spares alike spare k l) (depth : Nat) {s : Step σ}
    (others : ∀ id ∈ spare, s ≠ .wake id ∧ s ≠ .lost id) :
    Spares alike spare (Link.step o depth s k) (Link.step o depth s l) := by
  have within : ∀ c {k l : Link σ}, Spares alike spare k l →
      Spares alike spare (Link.nested o depth c k) (Link.nested o depth c l) :=
    fun c _ _ h => h.atDepth aloof depth c
  have both := lockstep aloof within
  cases s using Step.cases_errand with
  | call c => exact h.carryOut aloof within c
  | errand id e =>
    by_cases isSpare : id ∈ spare
    · refine h.errand_spare o depth isSpare ⟨?_, ?_⟩
      · rintro rfl
        exact (others id isSpare).1 rfl
      · rintro rfl
        exact (others id isSpare).2 rfl
    · exact both.errand h ⟨rfl, isSpare⟩ e
  | drift s => exact h.amid (aloof.equivalence.refl s)
  | subscribe => exact both.subscribe h
  | receive subscriber => exact both.receive h subscriber
  | unsubscribe subscriber => exact both.unsubscribe h subscriber

end Spares

end Link

end NodeLink
