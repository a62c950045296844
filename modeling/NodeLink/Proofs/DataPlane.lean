import NodeLink.Proofs.Lockstep

/-!
# The data plane

Requests and flushes belong to the data plane of a link. They bear on the mark for unflushed writes,
on two of the counters, on the jobs that tell of rejections, and on what was written, published and
failed. All else is the *control plane*, and this module shows that requests and flushes leave it
alone, however they are nested and whatever the sink answers.

The surroundings may have a state of their own that the control plane depends on. What it sees of
that state is given by a view.
-/

set_option autoImplicit false

namespace NodeLink

variable {σ ν : Type}

/-- Whether a job belongs to the control plane. The telling of a rejection does not. -/
def Job.isControl : Job → Bool
  | .rejection _ => false
  | _ => true

/-- What an act is to the control plane. Jobs have no names there, and how the sink answered is not
told. -/
def Act.control? : Act → Option Act
  | .called c => if c.isControl then some (.called c) else none
  | .returned c => if c.isControl then some (.returned c) else none
  | .answered _ result => some (.answered 0 result)
  | .spawned _ j => if j.isControl then some (.spawned 0 j) else none
  | .dialed _ options => some (.dialed 0 options)
  | .published .reload _ => some (.published .reload none)
  | .published .. | .wrote .. | .flushed _ | .failed .. => none
  | a => some a

/-- The counters of the control plane. -/
def Metrics.control (m : Metrics) : Metrics := { m with redirects := 0, rejections := 0 }

theorem Metrics.control_record {m m' : Metrics} (same : m.control = m'.control) (c : Counter) :
    (m.record c).control = (m'.record c).control := by
  cases c <;> simp_all [control, record, add, set, get]

theorem Metrics.get_control (m : Metrics) {c : Counter} (redirect : c ≠ .redirect)
    (rejection : c ≠ .rejection) : m.control.get c = m.get c := by
  cases c <;> first | rfl | exact absurd rfl redirect | exact absurd rfl rejection

/-- Surroundings that look, to the control plane, like others: these are what it sees of them. Only
while the backoff is consulted may they make calls on the control plane. -/
structure Surroundings.Shows (o : Surroundings σ) (view : σ → ν) (c : Surroundings ν) : Prop where
  consulting : ∀ attempt s, (o.react (.consulting attempt) s).1.filter Call.isControl =
      (c.react (.consulting attempt) (view s)).1.filter Call.isControl ∧
    view (o.react (.consulting attempt) s).2 = (c.react (.consulting attempt) (view s)).2
  react : ∀ k s, (∀ attempt, k ≠ .consulting attempt) →
    (∀ call ∈ (o.react k s).1, call.isControl = false) ∧ view (o.react k s).2 = view s
  accept : ∀ e s, view (o.accept e s).2 = view s
  delay : ∀ attempt s, (o.delay attempt s).1 = (c.delay attempt (view s)).1 ∧
    view (o.delay attempt s).2 = (c.delay attempt (view s)).2
  stages : ∀ s, (o.stages s).1 = (c.stages (view s)).1 ∧
    view (o.stages s).2 = (c.stages (view s)).2
  traces : ∀ s, o.traces s = c.traces (view s)

namespace Link

/-- The jobs of the control plane among some jobs. -/
def workers (jobs : List (JobId × Job)) : List (JobId × Job) := jobs.filter (·.2.isControl)

/-- What a link did on the control plane. -/
def transcript (l : Link σ) : List Act := l.journal.filterMap Act.control?

/-- The control plane of a link was left alone. -/
structure Aside (view : σ → ν) (l l' : Link σ) : Prop where
  common : l'.common = l.common
  metrics : l'.metrics.control = l.metrics.control
  workers : workers l'.jobs = workers l.jobs
  transcript : l'.transcript = l.transcript
  shown : view l'.outside = view l.outside
  numbered : Numbered l → Numbered l'

namespace Aside

variable {view : σ → ν} {l k l' : Link σ}

theorem refl (view : σ → ν) (l : Link σ) : Aside view l l := ⟨rfl, rfl, rfl, rfl, rfl, id⟩

theorem trans (first : Aside view l k) (second : Aside view k l') : Aside view l l' where
  common := second.common.trans first.common
  metrics := second.metrics.trans first.metrics
  workers := second.workers.trans first.workers
  transcript := second.transcript.trans first.transcript
  shown := second.shown.trans first.shown
  numbered numbered := second.numbered (first.numbered numbered)

theorem amid (l : Link σ) {s : σ} (shown : view s = view l.outside) : Aside view l (l.amid s) :=
  ⟨rfl, rfl, rfl, rfl, shown, fun numbered => ⟨numbered.nodup, numbered.lt⟩⟩

theorem note (l : Link σ) {a : Act} (data : a.control? = none) : Aside view l (l.note a) where
  common := rfl
  metrics := rfl
  workers := rfl
  transcript := by simp [Link.transcript, Link.note, data]
  shown := rfl
  numbered numbered := ⟨numbered.nodup, numbered.lt⟩

theorem mark (l : Link σ) (b : Bool) : Aside view l { l with hasWritten := b } :=
  ⟨rfl, rfl, rfl, rfl, rfl, fun numbered => ⟨numbered.nodup, numbered.lt⟩⟩

theorem count (l : Link σ) {c : Counter} (data : c = .redirect ∨ c = .rejection) :
    Aside view l (l.count c) where
  common := rfl
  metrics := by rcases data with rfl | rfl <;> rfl
  workers := rfl
  transcript := rfl
  shown := rfl
  numbered numbered := ⟨numbered.nodup, numbered.lt⟩

theorem spawn (l : Link σ) (r : Request) : Aside view l (l.spawn (.rejection r)) where
  common := rfl
  metrics := rfl
  workers := by simp [Link.workers, Link.spawn, Link.note, Job.isControl]
  transcript := by simp [Link.transcript, Link.spawn, Link.note, Act.control?, Job.isControl]
  shown := rfl
  numbered numbered := numbered.entry (.spawn l _)

/-- The job that tells of a rejection may end. -/
theorem finish (numbered : Numbered l) {id : JobId} {r : Request}
    (job : l.job? id = some (.rejection r)) : Aside view l (l.finish id) where
  common := rfl
  metrics := rfl
  workers := by
    obtain ⟨before, after, hjobs, hfinish, -⟩ := numbered.split job
    rw [hfinish, hjobs]
    simp [Link.workers, Job.isControl]
  transcript := rfl
  shown := rfl
  numbered numbered := numbered.finish id

section Calls

variable {o : Surroundings σ} {c : Surroundings ν} {nested : Call → Link σ → Link σ}
  (shows : o.Shows view c)
  (within : ∀ call l, call.isControl = false → Aside view l (nested call l))
include shows within

theorem occur (l : Link σ) {k : Occasion} (other : ∀ attempt, k ≠ .consulting attempt) :
    Aside view l (Link.occur o nested k l) := by
  obtain ⟨data, shown⟩ := shows.react k l.outside other
  exact List.foldlRecOn _ _ (Aside.amid l shown) fun k aside call mem =>
    aside.trans (within call k (data call mem))

theorem log (l : Link σ) (level : Level) (message : String) (fields : List (String × String)) :
    Aside view l (Link.log o nested level message fields l) :=
  occur shows within l (k := .logging _) nofun

theorem flush (l : Link σ) : Aside view l (Link.flush o nested l) := by
  unfold Link.flush
  split
  · split
    next c _ =>
      split
      · have flushed := occur shows within (l.note (.flushed c)) (k := .flushing c) nofun
        exact ((Aside.note l rfl).trans flushed).trans (.mark _ false)
      · exact .refl view l
    next => exact .refl view l
  · exact .refl view l

/-- That the sink refused a reload is logged, and nothing else. -/
theorem reload (l : Link σ) : Aside view (publish o nested .reload (l.count .reload)).2
    (Link.signalReload o nested l) := by
  unfold Link.signalReload
  split
  next k h =>
    rw [h]
    exact .refl view k
  next refusal k h =>
    rw [h]
    exact log shows within ..

/-- A request is offered to the sink. -/
theorem offer (r : Request) (l : Link σ) :
    Aside view l (publish o nested (.redirect r) l).2 := by
  have asked := occur shows within l (k := .publishing (.redirect r)) nofun
  have answered :=
    shows.accept (.redirect r) (Link.occur o nested (.publishing (.redirect r)) l).outside
  exact (asked.trans (.amid _ answered)).trans (.note _ rfl)

theorem redirect (r : Request) (l : Link σ) : Aside view l (Link.redirect o nested r l) := by
  have offered := ((Aside.count l (.inl rfl)).trans (log shows within _ .debug
    "endpoint_request_redirected" [("ident", (l.count .redirect).mark o)])).trans
      (offer shows within r _)
  unfold Link.redirect
  dsimp only
  split
  next k h =>
    rw [h] at offered
    exact offered
  next refusal k h =>
    rw [h] at offered
    exact (offered.trans (log shows within ..)).trans (.note _ rfl)

theorem send (r : Request) (l : Link σ) : Aside view l (Link.send o nested r l) := by
  unfold Link.send
  split
  · split
    next c _ =>
      split
      · have written := occur shows within (l.note (.wrote c r)) (k := .writing c r) nofun
        exact ((Aside.note l rfl).trans written).trans (.mark _ true)
      · exact redirect shows within r l
    next => exact redirect shows within r l
  · exact (Aside.count l (.inr rfl)).trans (.spawn _ r)

/-- A request or a flush leaves the control plane alone, if those that are made within it do. -/
theorem carryOut (l : Link σ) {call : Call} (data : call.isControl = false) :
    Aside view l (Link.carryOut o nested call l) := by
  have called : Aside view l (l.note (.called call)) := .note l (by simp [Act.control?, data])
  have returned : ∀ l, Aside view l (l.note (.returned call)) :=
    fun l => .note l (by simp [Act.control?, data])
  refine (called.trans ?_).trans (returned _)
  cases call with
  | flush => exact flush shows within _
  | send r => exact send shows within r _
  | connect | disconnect | reportLoss | signalReload => cases data

end Calls

/-- Requests and flushes leave the control plane alone to any depth, by induction on the depth. -/
theorem nested {o : Surroundings σ} {c : Surroundings ν} (shows : o.Shows view c) (depth : Nat) :
    ∀ (call : Call) (l : Link σ), call.isControl = false →
      Aside view l (Link.nested o depth call l) := by
  induction depth with
  | zero => exact fun _ l _ => .refl view l
  | succ depth ih => exact fun _ l data => carryOut shows ih l data

end Aside

end Link

end NodeLink
