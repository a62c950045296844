import Mathlib.Data.List.InsertIdx
import NodeLink.Proofs.DataPlane
import NodeLink.Proofs.Requests

/-!
# Two runs with one control plane

Two runs of a link may differ in the requests and flushes that are made, in what the sink answers,
and in which channels are active and take more to write. As long as the same is done on the control
plane, in the same order, and the surroundings look the same to it, the two links are *abreast*:
their control planes are equal. The one place where the sink could make a difference is a reload
that it refuses; this is logged, and nothing depends on it.

The jobs of the two links have different names, because rejections are jobs. A job of the control
plane is known by its place among the pending jobs of the control plane.
-/

set_option autoImplicit false

namespace NodeLink

open Lifecycle (State Machine SubscriberId)

variable {σ τ ν : Type}

namespace Link

/-- Two links with the same control plane. -/
structure Abreast (view : σ → ν) (view' : τ → ν) (k : Link σ) (l : Link τ) : Prop where
  common : k.common = l.common
  metrics : k.metrics.control = l.metrics.control
  workers : (workers k.jobs).map Prod.snd = (workers l.jobs).map Prod.snd
  transcript : k.transcript = l.transcript
  shown : view k.outside = view' l.outside
  numbered : Numbered k ∧ Numbered l

/-- Two jobs stand at the same place on the control plane. -/
def AtPlace (i j : JobId) (jobs jobs' : List (JobId × Job)) : Prop :=
  ∃ (place : Nat) (x y : Job),
    (workers jobs)[place]? = some (i, x) ∧ (workers jobs')[place]? = some (j, y)

/-! ## Places -/

section Places

variable {jobs : List (JobId × Job)} {id : JobId} {x : Job} {place : Nat}

/-- A job that ends leaves its place. -/
theorem filter_eq_eraseIdx (nodup : (jobs.map Prod.fst).Nodup)
    (found : jobs[place]? = some (id, x)) : jobs.filter (·.1 ≠ id) = jobs.eraseIdx place := by
  induction jobs generalizing place with
  | nil => rfl
  | cons e jobs ih =>
    obtain ⟨new, nodup⟩ := List.nodup_cons.mp nodup
    cases place with
    | zero =>
      obtain rfl : e = (id, x) := Option.some.inj found
      have new : id ∉ jobs.map Prod.fst := new
      have others : ∀ e ∈ jobs, decide (e.1 ≠ id) = true := fun e mem =>
        decide_eq_true fun same => new (same ▸ List.mem_map_of_mem mem)
      rw [List.filter_cons_of_neg (by simp), List.filter_eq_self.mpr others]
      rfl
    | succ place =>
      have mem := List.mem_of_getElem? (l := jobs) found
      have other : e.1 ≠ id := by
        rintro rfl
        exact new (List.mem_map.mpr ⟨_, mem, rfl⟩)
      rw [List.filter_cons_of_pos (by simpa using other), ih nodup found]
      rfl

/-- A job that goes on keeps its place. -/
theorem map_eq_set (nodup : (jobs.map Prod.fst).Nodup) (found : jobs[place]? = some (id, x))
    (x' : Job) :
    jobs.map (fun e => if e.1 = id then (id, x') else e) = jobs.set place (id, x') := by
  induction jobs generalizing place with
  | nil => rfl
  | cons e jobs ih =>
    obtain ⟨new, nodup⟩ := List.nodup_cons.mp nodup
    cases place with
    | zero =>
      obtain rfl : e = (id, x) := Option.some.inj found
      have new : id ∉ jobs.map Prod.fst := new
      have others : ∀ e ∈ jobs, (if e.1 = id then (id, x') else e) = e := by
        refine fun e mem => if_neg fun same => new ?_
        exact same ▸ List.mem_map_of_mem mem
      simp [List.map_congr_left others]
    | succ place =>
      have mem := List.mem_of_getElem? (l := jobs) found
      have other : e.1 ≠ id := by
        rintro rfl
        exact new (List.mem_map.mpr ⟨_, mem, rfl⟩)
      simp [other, ih nodup found]

theorem nodup_workers (nodup : (jobs.map Prod.fst).Nodup) : ((workers jobs).map Prod.fst).Nodup :=
  nodup.sublist (List.filter_sublist.map _)

end Places

/-- What is left on the control plane when a job of it ends. -/
theorem workers_finish {l : Link σ} (numbered : Numbered l) {id : JobId} {x : Job} {place : Nat}
    (found : (workers l.jobs)[place]? = some (id, x)) :
    workers (l.finish id).jobs = (workers l.jobs).eraseIdx place := by
  rw [← filter_eq_eraseIdx (nodup_workers numbered.nodup) found]
  simp only [workers, finish, List.filter_filter, Bool.and_comm]

/-- What is left on the control plane when a job of it goes on as another one. -/
theorem workers_become {l : Link σ} (numbered : Numbered l) {id : JobId} {x : Job} {place : Nat}
    (found : (workers l.jobs)[place]? = some (id, x)) (x' : Job) :
    workers (l.become id x').jobs =
      ((workers l.jobs).set place (id, x')).filter (·.2.isControl) := by
  obtain ⟨mem, control⟩ := List.mem_filter.mp (List.mem_of_getElem? found)
  rw [← map_eq_set (nodup_workers numbered.nodup) found]
  simp only [workers, become, List.filter_map, List.filter_filter]
  congr 1
  refine List.filter_congr fun e he => ?_
  by_cases same : e.1 = id
  · obtain rfl : e = (id, x) := List.inj_on_of_nodup_map numbered.nodup he mem same
    simp only [Function.comp_apply, control, Bool.and_true]
  · simp [same]

/-! ## The same done to both -/

namespace Abreast

variable {view : σ → ν} {view' : τ → ν} {k k' : Link σ} {l l' : Link τ} {i j : JobId}

/-- Work on the data plane of one of the links makes no difference. -/
theorem left (h : Abreast view view' k l) (aside : Aside view k k') : Abreast view view' k' l where
  common := aside.common.trans h.common
  metrics := aside.metrics.trans h.metrics
  workers := (congrArg _ aside.workers).trans h.workers
  transcript := aside.transcript.trans h.transcript
  shown := aside.shown.trans h.shown
  numbered := ⟨aside.numbered h.numbered.1, h.numbered.2⟩

theorem right (h : Abreast view view' k l) (aside : Aside view' l l') :
    Abreast view view' k l' where
  common := h.common.trans aside.common.symm
  metrics := h.metrics.trans aside.metrics.symm
  workers := h.workers.trans (congrArg _ aside.workers).symm
  transcript := h.transcript.trans aside.transcript.symm
  shown := h.shown.trans aside.shown.symm
  numbered := ⟨h.numbered.1, aside.numbered h.numbered.2⟩

theorem amid (h : Abreast view view' k l) {s : σ} {t : τ} (shown : view s = view' t) :
    Abreast view view' (k.amid s) (l.amid t) :=
  ⟨h.common, h.metrics, h.workers, h.transcript, shown,
    ⟨h.numbered.1.nodup, h.numbered.1.lt⟩, ⟨h.numbered.2.nodup, h.numbered.2.lt⟩⟩

/-- Both links do what is the same to the control plane. -/
theorem note (h : Abreast view view' k l) {a b : Act} (same : a.control? = b.control?) :
    Abreast view view' (k.note a) (l.note b) :=
  ⟨h.common, h.metrics, h.workers, by
    have before := h.transcript
    simp only [Link.transcript, Link.note, List.filterMap_append, List.filterMap_cons, same]
      at before ⊢
    rw [before], h.shown,
    ⟨h.numbered.1.nodup, h.numbered.1.lt⟩, ⟨h.numbered.2.nodup, h.numbered.2.lt⟩⟩

theorem count (h : Abreast view view' k l) (c : Counter) :
    Abreast view view' (k.count c) (l.count c) :=
  ⟨h.common, Metrics.control_record h.metrics c, h.workers, h.transcript, h.shown,
    ⟨h.numbered.1.nodup, h.numbered.1.lt⟩, ⟨h.numbered.2.nodup, h.numbered.2.lt⟩⟩

theorem spawn (h : Abreast view view' k l) (x : Job) :
    Abreast view view' (k.spawn x) (l.spawn x) where
  common := h.common
  metrics := h.metrics
  workers := by
    have before := h.workers
    simp only [Link.workers, Link.spawn, Link.note, List.filter_append, List.map_append] at before ⊢
    cases control : x.isControl <;> simp [before, control]
  transcript := by
    have before := h.transcript
    simp only [Link.transcript, Link.spawn, Link.note, List.filterMap_append] at before ⊢
    rw [before]
    rfl
  shown := h.shown
  numbered := ⟨h.numbered.1.entry (.spawn k x), h.numbered.2.entry (.spawn l x)⟩

theorem job? (h : Abreast view view' k l) (pair : AtPlace i j k.jobs l.jobs) :
    k.job? i = l.job? j := by
  obtain ⟨place, x, y, here, there⟩ := pair
  have found := congrArg (·[place]?) h.workers
  simp only [List.getElem?_map, here, there, Option.map_some] at found
  have mem := (List.mem_filter.mp (List.mem_of_getElem? here)).1
  have mem' := (List.mem_filter.mp (List.mem_of_getElem? there)).1
  rw [h.numbered.1.job?_of_mem mem, h.numbered.2.job?_of_mem mem', found]

theorem finish (h : Abreast view view' k l) (pair : AtPlace i j k.jobs l.jobs) :
    Abreast view view' (k.finish i) (l.finish j) where
  common := h.common
  metrics := h.metrics
  workers := by
    obtain ⟨place, x, y, here, there⟩ := pair
    rw [workers_finish h.numbered.1 here, workers_finish h.numbered.2 there,
      ← List.eraseIdx_map, h.workers, List.eraseIdx_map]
  transcript := h.transcript
  shown := h.shown
  numbered := ⟨h.numbered.1.finish i, h.numbered.2.finish j⟩

theorem become (h : Abreast view view' k l) (pair : AtPlace i j k.jobs l.jobs) (x : Job) :
    Abreast view view' (k.become i x) (l.become j x) where
  common := h.common
  metrics := h.metrics
  workers := by
    obtain ⟨place, y, z, here, there⟩ := pair
    have same : ((Link.workers k.jobs).set place (i, x)).map Prod.snd =
        ((Link.workers l.jobs).set place (j, x)).map Prod.snd := by
      rw [List.map_set, h.workers, List.map_set]
    have kept := congrArg (List.filter Job.isControl) same
    rw [workers_become h.numbered.1 here, workers_become h.numbered.2 there]
    rwa [List.filter_map, List.filter_map] at kept
  transcript := h.transcript
  shown := h.shown
  numbered := ⟨h.numbered.1.become i x, h.numbered.2.become j x⟩

section Calls

variable {o : Surroundings σ} {p : Surroundings τ} {c : Surroundings ν}
  {n : Call → Link σ → Link σ} {m : Call → Link τ → Link τ}
  (shows : o.Shows view c) (shows' : p.Shows view' c)
  (aside : ∀ call k, call.isControl = false → Aside view k (n call k))
  (aside' : ∀ call l, call.isControl = false → Aside view' l (m call l))
include aside aside'

/-- The links may make different requests and flushes between the same calls on the control
plane. -/
theorem calls (within : ∀ {call k l}, call.isControl = true → Abreast view view' k l →
      Abreast view view' (n call k) (m call l)) :
    ∀ (xs ys : List Call) {k : Link σ} {l : Link τ},
      xs.filter Call.isControl = ys.filter Call.isControl → Abreast view view' k l →
      Abreast view view' (xs.foldl (fun k call => n call k) k)
        (ys.foldl (fun l call => m call l) l) := by
  intro xs
  induction xs with
  | nil =>
    intro ys
    induction ys with
    | nil => exact fun _ h => h
    | cons y ys ih =>
      intro k l same h
      obtain ⟨data, rest⟩ := List.filter_eq_nil_iff.mp same.symm |> List.forall_mem_cons.mp
      have data : y.isControl = false := Bool.eq_false_iff.mpr data
      exact ih (List.filter_eq_nil_iff.mpr rest).symm (h.right (aside' y l data))
  | cons x xs ih =>
    intro ys
    cases control : x.isControl with
    | false =>
      intro k l same h
      rw [List.filter_cons_of_neg (by simp [control])] at same
      exact ih ys same (h.left (aside x k control))
    | true =>
      induction ys with
      | nil =>
        intro k l same
        simp [control] at same
      | cons y ys ih' =>
        intro k l same h
        cases control' : y.isControl with
        | false =>
          rw [List.filter_cons_of_neg (p := Call.isControl) (a := y) (by simp [control'])] at same
          exact ih' same (h.right (aside' y l control'))
        | true =>
          rw [List.filter_cons_of_pos control, List.filter_cons_of_pos control'] at same
          obtain ⟨rfl, rest⟩ := List.cons.inj same
          exact ih ys rest (within control h)

include shows shows'

/-- A reload is asked for on both links, whatever the sinks answer. -/
theorem signalReload (h : Abreast view view' k l) :
    Abreast view view' (Link.signalReload o n k) (Link.signalReload p m l) := by
  have asked := ((h.count .reload).left
    (.occur shows aside _ (k := .publishing .reload) nofun)).right
    (.occur shows' aside' _ (k := .publishing .reload) nofun)
  have offered : Abreast view view' (publish o n .reload (k.count .reload)).2
      (publish p m .reload (l.count .reload)).2 := by
    refine (asked.amid ?_).note rfl
    rw [shows.accept, shows'.accept, asked.shown]
  exact (offered.left (.reload shows aside k)).right (.reload shows' aside' l)

/-- Links that are abreast stay so when the same is done to both on the control plane. -/
theorem lockstep (within : ∀ {call k l}, call.isControl = true → Abreast view view' k l →
      Abreast view view' (n call k) (m call l)) :
    Lockstep o p n m (Abreast view view') AtPlace where
  common h := h.common
  adopt h c := ⟨rfl, h.metrics, h.workers, h.transcript, h.shown,
    ⟨h.numbered.1.nodup, h.numbered.1.lt⟩, ⟨h.numbered.2.nodup, h.numbered.2.lt⟩⟩
  unmark h := (h.left (.mark _ false)).right (.mark _ false)
  note h _ := h.note rfl
  count h c := h.count c
  spawn h x := h.spawn x
  job? h pair := h.job? pair
  finish h pair := h.finish pair
  take h pair _ := (h.finish pair).note rfl
  become h pair x := h.become pair x
  dialed h pair x _ := (h.become pair x).note rfl
  log h level level' message message' fields fields' :=
    (h.left (.log shows aside _ level message fields)).right
      (.log shows' aside' _ level' message' fields')
  signalReload h := h.signalReload shows shows' aside aside'
  consulting {k l} h attempt := by
    obtain ⟨calls, shown⟩ := shows.consulting attempt k.outside
    obtain ⟨calls', shown'⟩ := shows'.consulting attempt l.outside
    rw [h.shown] at calls shown
    exact Abreast.calls aside aside' within _ _ (calls.trans calls'.symm)
      (h.amid (shown.trans shown'.symm))
  delay {k l} h attempt := by
    obtain ⟨answer, shown⟩ := shows.delay attempt k.outside
    obtain ⟨answer', shown'⟩ := shows'.delay attempt l.outside
    rw [h.shown] at answer shown
    exact ⟨answer.trans answer'.symm, h.amid (shown.trans shown'.symm)⟩
  stages {k l} h := by
    obtain ⟨stages, shown⟩ := shows.stages k.outside
    obtain ⟨stages', shown'⟩ := shows'.stages l.outside
    rw [h.shown] at stages shown
    exact ⟨stages.trans stages'.symm, h.amid (shown.trans shown'.symm)⟩
  traces {k l} h := by rw [shows.traces, shows'.traces, h.shown]

end Calls

/-- Calls on the control plane, to any depth, by induction on the depth. -/
theorem nested {o : Surroundings σ} {p : Surroundings τ} {c : Surroundings ν}
    (shows : o.Shows view c) (shows' : p.Shows view' c) (depth : Nat) :
    ∀ {call : Call} {k : Link σ} {l : Link τ}, call.isControl = true → Abreast view view' k l →
      Abreast view view' (Link.nested o depth call k) (Link.nested p depth call l) := by
  induction depth with
  | zero => exact fun _ h => h
  | succ depth ih =>
    exact fun control h => (lockstep shows shows' (.nested shows depth) (.nested shows' depth)
      ih).carryOut h control

end Abreast

/-! ## Moves -/

/-- What a step is to the control plane. A job is named by its place among the pending jobs of the
control plane, a change of the surroundings by what is seen of it. -/
inductive Move (ν : Type)
  | call (c : Call)
  | job (place : Nat) (errand : Errand)
  | drift (shown : ν)
  | subscribe
  | receive (subscriber : SubscriberId)
  | unsubscribe (subscriber : SubscriberId)
deriving DecidableEq

/-- The place of a job among the pending jobs of the control plane. -/
def place? (id : JobId) (l : Link σ) : Option Nat := (workers l.jobs).findIdx? (·.1 == id)

variable [DecidableEq ν]

/-- What a step is to the control plane, if it is anything. -/
def Step.move? (view : σ → ν) (l : Link σ) : Step σ → Option (Move ν)
  | .call c => if c.isControl then some (.call c) else none
  | .start id => (place? id l).map (.job · .start)
  | .answer id result => (place? id l).map (.job · (.answer result))
  | .wake id => (place? id l).map (.job · .wake)
  | .closed id failure => (place? id l).map (.job · (.closed failure))
  | .lost id => (place? id l).map (.job · .lost)
  | .told id outcome => (place? id l).map (.job · (.told outcome))
  | .crash id => (place? id l).map (.job · .crash)
  | .drift s => if view s = view l.outside then none else some (.drift (view s))
  | .subscribe => some .subscribe
  | .receive subscriber => some (.receive subscriber)
  | .unsubscribe subscriber => some (.unsubscribe subscriber)

/-- What a run is to the control plane. -/
def moves (o : Surroundings σ) (view : σ → ν) (depth : Nat) : List (Step σ) → Link σ → List (Move ν)
  | [], _ => []
  | s :: steps, l => (s.move? view l).toList ++ moves o view depth steps (step o depth s l)

/-- A step that is something to the control plane. -/
inductive Makes (view : σ → ν) (l : Link σ) : Step σ → Move ν → Prop
  | call {c : Call} (control : c.isControl = true) : Makes view l (.call c) (.call c)
  | job {id : JobId} {place : Nat} {x : Job} (found : (workers l.jobs)[place]? = some (id, x))
      (e : Errand) : Makes view l (e.step id) (.job place e)
  | drift (s : σ) : Makes view l (.drift s) (.drift (view s))
  | subscribe : Makes view l .subscribe .subscribe
  | receive (subscriber : SubscriberId) : Makes view l (.receive subscriber) (.receive subscriber)
  | unsubscribe (subscriber : SubscriberId) :
      Makes view l (.unsubscribe subscriber) (.unsubscribe subscriber)

/-- A job that goes on is something to the control plane if it has a place there. -/
theorem Step.move?_errand (view : σ → ν) (l : Link σ) (id : JobId) (e : Errand) :
    (e.step id).move? view l = (place? id l).map (.job · e) := by
  cases e <;> rfl

theorem makes_of_move? {view : σ → ν} {l : Link σ} {s : Step σ} {move : Move ν}
    (h : s.move? view l = some move) : Makes view l s move := by
  cases s using Step.cases_errand with
  | call c =>
    obtain ⟨control, rfl⟩ : c.isControl = true ∧ Move.call c = move := by
      simpa [Step.move?] using h
    exact .call control
  | errand id e =>
    obtain ⟨place, found, rfl⟩ := Option.map_eq_some_iff.mp ((Step.move?_errand ..).symm.trans h)
    obtain ⟨lt, same, -⟩ := List.findIdx?_eq_some_iff_getElem.mp found
    have same : (workers l.jobs)[place].1 = id := by simpa using same
    exact .job (x := (workers l.jobs)[place].2) (by rw [List.getElem?_eq_getElem lt, ← same]) e
  | drift s =>
    obtain ⟨-, rfl⟩ : view s ≠ view l.outside ∧ Move.drift (view s) = move := by
      simpa [Step.move?] using h
    exact .drift s
  | subscribe => exact Option.some.inj h ▸ .subscribe
  | receive subscriber => exact Option.some.inj h ▸ .receive subscriber
  | unsubscribe subscriber => exact Option.some.inj h ▸ .unsubscribe subscriber

/-- A job without a place on the control plane is none, or it tells of a rejection. -/
theorem Numbered.job?_of_place? {l : Link σ} (numbered : Numbered l) {id : JobId}
    (h : place? id l = none) : l.job? id = none ∨ ∃ r, l.job? id = some (.rejection r) := by
  have missing := List.findIdx?_eq_none_iff.mp h
  cases found : l.job? id with
  | none => exact .inl rfl
  | some x =>
    obtain ⟨before, after, hjobs, -⟩ := numbered.split found
    have mem : x.isControl = true → (id, x) ∈ workers l.jobs := fun control =>
      List.mem_filter.mpr ⟨by simp [hjobs], control⟩
    cases x with
    | rejection r => exact .inr ⟨r, rfl⟩
    | _ => exact absurd (missing _ (mem rfl)) (by simp)

section Runs

variable {o : Surroundings σ} {p : Surroundings τ} {c : Surroundings ν} {view : σ → ν}
  {view' : τ → ν}

/-- A step that is nothing to the control plane leaves it alone. -/
theorem Aside.step (shows : o.Shows view c) (depth : Nat) {l : Link σ} (numbered : Numbered l)
    {s : Step σ} (h : s.move? view l = none) : Aside view l (Link.step o depth s l) := by
  cases s using Step.cases_errand with
  | call call =>
    have data : call.isControl = false := by simpa [Step.move?] using h
    exact carryOut shows (nested shows depth) l data
  | errand id e =>
    have placeless := Option.map_eq_none_iff.mp ((Step.move?_errand ..).symm.trans h)
    rcases numbered.job?_of_place? placeless with missing | ⟨r, rejection⟩
    · rw [step_missing missing]
      exact refl view l
    · cases e with
      | start =>
        simpa [Errand.step, Link.step, stepWith, Link.start, rejection] using
          (finish numbered rejection).trans (.note _ rfl)
      | crash =>
        simpa [Errand.step, Link.step, stepWith, forsake, rejection] using
          (finish numbered rejection).trans (.note _ rfl)
      | _ => simpa [Errand.step, Link.step, stepWith, rejection] using refl view l
  | drift s => exact amid l (by simpa [Step.move?] using h)
  | subscribe | receive | unsubscribe => cases h

variable {k : Link σ} {l : Link τ}

omit [DecidableEq ν] in
/-- Steps that are the same to the control plane do the same to it. -/
theorem Abreast.step (shows : o.Shows view c) (shows' : p.Shows view' c) (depth : Nat)
    (h : Abreast view view' k l) {s : Step σ} {t : Step τ} {move : Move ν}
    (made : Makes view k s move) (made' : Makes view' l t move) :
    Abreast view view' (Link.step o depth s k) (Link.step p depth t l) := by
  have both := lockstep shows shows' (.nested shows depth) (.nested shows' depth)
    (nested shows shows' depth)
  cases made with
  | call control =>
    cases made'
    exact both.carryOut h control
  | @job i place x found e =>
    cases made' with
    | @job j _ y found' _ => exact both.errand h ⟨place, x, y, found, found'⟩ e
  | drift s =>
    generalize seen : view s = v at made'
    obtain ⟨⟩ := made'
    exact h.amid seen
  | subscribe =>
    cases made'
    exact both.subscribe h
  | receive subscriber =>
    cases made'
    exact both.receive h subscriber
  | unsubscribe subscriber =>
    cases made'
    exact both.unsubscribe h subscriber

/-- Runs that are the same to the control plane do the same to it. -/
theorem Abreast.run (shows : o.Shows view c) (shows' : p.Shows view' c) (depth : Nat) :
    ∀ (steps : List (Step σ)) (steps' : List (Step τ)) {k : Link σ} {l : Link τ},
      Abreast view view' k l → moves o view depth steps k = moves p view' depth steps' l →
      Abreast view view' (Link.run o depth steps k) (Link.run p depth steps' l) := by
  intro steps
  induction steps with
  | nil =>
    intro steps'
    induction steps' with
    | nil => exact fun h _ => h
    | cons t steps' ih =>
      intro k l h same
      obtain ⟨none, rest⟩ := List.append_eq_nil_iff.mp same.symm
      have none : t.move? view' l = Option.none := Option.toList_eq_nil_iff.mp none
      exact ih (h.right (.step shows' depth h.numbered.2 none)) rest.symm
  | cons s steps ih =>
    intro steps' k l h same
    rw [moves] at same
    cases made : s.move? view k with
    | none =>
      rw [made] at same
      exact ih steps' (h.left (.step shows depth h.numbered.1 made)) same
    | some move =>
      rw [made] at same
      induction steps' generalizing l with
      | nil => cases same
      | cons t steps' ih' =>
        rw [moves] at same
        cases made' : t.move? view' l with
        | none =>
          rw [made'] at same
          exact ih' (h.right (.step shows' depth h.numbered.2 made')) same
        | some move' =>
          rw [made'] at same
          obtain ⟨rfl, rest⟩ := List.cons.inj same
          exact ih steps' (h.step shows shows' depth (makes_of_move? made) (makes_of_move? made'))
            rest

omit [DecidableEq ν] in
theorem Abreast.new (identity : Identity) (environment : Environment) {s : σ} {t : τ}
    (shown : view s = view' t) :
    Abreast view view' (.new identity environment s) (.new identity environment t) :=
  ⟨rfl, rfl, rfl, rfl, shown, .new identity environment s, .new identity environment t⟩

/-- The control plane of a link depends neither on its data plane nor on what the sink answers. Take
two runs that are the same to the control plane: in the same order, the same calls on it are made,
the same of its jobs go on in the same way, and the same is seen of the surroundings. Requests and
flushes may be made at any time in either run, in between and from within other work; the sinks may
accept or refuse whatever they are offered; and channels may be active, and take more to write, or
not. Then both links have the same state and history of states, channel, epoch and attempt number,
they did the same on the control plane, and they have counted the same but for redirected and
rejected requests. The same of their jobs wait, and the next call to connect or to disconnect gets
the same. -/
theorem control_plane_independent (shows : o.Shows view c) (shows' : p.Shows view' c) (depth : Nat)
    (identity : Identity) (environment : Environment) {s : σ} {t : τ} (shown : view s = view' t)
    {steps : List (Step σ)} {steps' : List (Step τ)}
    (same : moves o view depth steps (.new identity environment s) =
      moves p view' depth steps' (.new identity environment t))
    {k : Link σ} (reached : k = run o depth steps (.new identity environment s))
    {l : Link τ} (reached' : l = run p depth steps' (.new identity environment t)) :
    k.lifecycle = l.lifecycle ∧ k.channel = l.channel ∧ k.disconnected = l.disconnected ∧
      k.epoch = l.epoch ∧ k.reconnectAttempt = l.reconnectAttempt ∧
      k.transcript = l.transcript ∧
      (∀ x, x ≠ .redirect → x ≠ .rejection → k.metrics.get x = l.metrics.get x) ∧
      (workers k.jobs).map Prod.snd = (workers l.jobs).map Prod.snd ∧
      (connect o (nested o depth) (k.note (.called .connect))).1 =
        (connect p (nested p depth) (l.note (.called .connect))).1 ∧
      (disconnect o (nested o depth) (k.note (.called .disconnect))).1 =
        (disconnect p (nested p depth) (l.note (.called .disconnect))).1 := by
  have h : Abreast view view' k l := by
    rw [reached, reached']
    exact Abreast.run shows shows' depth steps steps' (.new identity environment shown) same
  have both := Abreast.lockstep shows shows' (.nested shows depth) (.nested shows' depth)
    (Abreast.nested shows shows' depth)
  obtain ⟨ticket, _, _, here, there, -⟩ := both.connectWith (both.note h (.called .connect)) true
  obtain ⟨ticket', _, _, here', there', -⟩ := both.disconnect (both.note h (.called .disconnect))
  refine ⟨both.lifecycle h, both.channel h, both.disconnected h, both.epoch h,
    both.reconnectAttempt h, h.transcript, fun x redirect rejection => ?_, h.workers, ?_, ?_⟩
  · rw [← k.metrics.get_control redirect rejection, ← l.metrics.get_control redirect rejection,
      h.metrics]
  · rw [connect, connect, here, there]
  · rw [here', there']

end Runs

/-- A failed attempt, its retry and a reported loss. In the first run a request is rejected, another
one is redirected, and the sink refuses that one and all reloads. In the second run there are no
requests, and the sink takes the reloads. -/
theorem control_plane_independent_crowded :
    let steps : List (Step Unit) := [.call (.send ⟨0, [128]⟩), .call .connect, .start 1, .start 0,
      .answer 1 (.error .notConnected), .call .flush, .wake 2, .answer 2 (.ok 7),
      .call (.send ⟨1, [128]⟩), .call .flush, .call .reportLoss]
    let steps' : List (Step Unit) := [.call .connect, .start 0, .answer 0 (.error .notConnected),
      .wake 1, .answer 1 (.ok 7), .call .reportLoss]
    let k := run .crowded 1 steps .sample
    let l := run .silent 1 steps' .sample
    k.journal.length = l.journal.length + 12 ∧ k.transcript = l.transcript ∧
      (connect .crowded (nested .crowded 1) (k.note (.called .connect))).1 =
        (connect .silent (nested .silent 1) (l.note (.called .connect))).1 := by
  intro steps steps' k l
  have crowded : Surroundings.crowded.Shows id .silent :=
    ⟨fun _ _ => ⟨rfl, rfl⟩, fun _ _ _ => ⟨by simp [Surroundings.crowded, Surroundings.silent], rfl⟩,
      fun _ _ => rfl, fun _ _ => ⟨rfl, rfl⟩, fun _ => ⟨rfl, rfl⟩, fun _ => rfl⟩
  have silent : Surroundings.silent.Shows id .silent :=
    ⟨fun _ _ => ⟨rfl, rfl⟩, fun _ _ _ => ⟨by simp [Surroundings.silent], rfl⟩,
      fun _ _ => rfl, fun _ _ => ⟨rfl, rfl⟩, fun _ => ⟨rfl, rfl⟩, fun _ => rfl⟩
  have same : moves .crowded id 1 steps .sample = moves .silent id 1 steps' .sample := by decide
  obtain ⟨-, -, -, -, -, transcript, -, -, ticket, -⟩ :=
    control_plane_independent crowded silent 1 _ _ rfl same (k := k) rfl (l := l) rfl
  exact ⟨by decide, transcript, ticket⟩

end Link

end NodeLink
