import NodeLink.Proofs.Fair

/-!
# What becomes of requests

Every step of a link is fair, and so no request is lost, none has two fates, and none fails twice,
whatever is called in whatever order. A job that breaks down does not change that: a request that
it was to tell of its rejection fails all the same, though for another reason.
-/

set_option autoImplicit false

namespace NodeLink

/-- Surroundings in which every channel stays active, none is writable, and the sink is full. -/
def Surroundings.crowded : Surroundings Unit :=
  { Surroundings.silent with
    accept := fun _ s => (some .full, s)
    isActive := fun _ _ => true }

namespace Link

variable {σ α : Type} {k l l' : Link σ}

/-- The failures that pending jobs wait with. -/
def waiting (l : Link σ) : List (RequestId × Fault) := l.jobs.filterMap (·.2.news?)

/-- The requests that met a fate, in the order in which they did. -/
def fates (l : Link σ) : List (Request × Fate) := l.journal.filterMap Act.fate?

/-- The failure that a job waits with, and those that the other jobs wait with, are all of them. -/
theorem waiting_finish (numbered : Numbered l) {id : JobId} {j : Job} (job : l.job? id = some j) :
    l.waiting.Perm (j.news?.toList ++ (l.finish id).waiting) := by
  obtain ⟨before, after, hjobs, hfinish, -⟩ := numbered.split job
  simp only [waiting, hjobs, hfinish, List.filterMap_append, List.filterMap_cons]
  cases j.news? with
  | none => exact .refl _
  | some failure => exact List.perm_middle

/-- The request that a job was to tell of its rejection fails if the job breaks down. -/
theorem failures_forsaking (j : Job) :
    ((forsaking j).filterMap Act.failure?).map Prod.fst = j.news?.toList.map Prod.fst := by
  cases j with
  | attempt ticket => cases ticket <;> rfl
  | _ => rfl

theorem fates_forsaking (j : Job) : (forsaking j).filterMap Act.fate? = [] := by
  cases j with
  | attempt ticket => cases ticket <;> rfl
  | _ => rfl

theorem sent_forsaking (j : Job) : (forsaking j).filterMap Act.sent? = [] := by
  cases j with
  | attempt ticket => cases ticket <;> rfl
  | _ => rfl

/-! ## Runs -/

/-- Every request that was sent met one fate, every failure that fell due was told or is waited
with, and the counters know of both ways in which a request is not written. Failures are compared
by what they tell: all of them, or the request only. -/
structure Served (tells : RequestId × Fault → α) (l : Link σ) : Prop where
  numbered : Numbered l
  placed : (l.journal.filterMap Act.sent?).Perm (l.fates.map Prod.fst)
  due : ((l.journal.filterMap Act.failure? ++ l.waiting).map tells).Perm
    ((l.fates.filterMap Request.due?).map tells)
  redirects : l.metrics.redirects = UInt64.ofNat (l.fates.countP (·.2.isOffered))
  rejections : l.metrics.rejections = UInt64.ofNat (l.fates.countP (·.2.isRejected))

namespace Served

variable {tells : RequestId × Fault → α}

theorem new (tells : RequestId × Fault → α) (identity : Identity) (environment : Environment)
    (outside : σ) : Served tells (Link.new identity environment outside) :=
  ⟨.new identity environment outside, .refl _, .refl _, rfl, rfl⟩

theorem fair (served : Served tells l) (fair : Fair l l') : Served tells l' := by
  obtain ⟨acts, deals⟩ := fair
  have fates : l'.fates = l.fates ++ acts.filterMap Act.fate? := by
    rw [Link.fates, deals.entry.journal, List.filterMap_append, Link.fates]
  have waiting : l'.waiting = l.waiting ++ acts.filterMap Act.news? := by
    rw [Link.waiting, deals.entry.jobs, List.filterMap_append, List.filterMap_filterMap]
    rfl
  refine ⟨served.numbered.entry deals.entry, ?_, ?_, ?_, ?_⟩
  · rw [deals.entry.journal, fates, List.filterMap_append, List.map_append]
    exact served.placed.append deals.square.placed
  · rw [deals.entry.journal, fates, waiting, List.filterMap_append, List.filterMap_append]
    simp only [List.map_append, List.append_assoc]
    refine List.Perm.trans ?_ ((List.map_append ▸ served.due).append (deals.square.due.map tells))
    simp only [List.map_append, List.append_assoc]
    exact (List.perm_append_comm_assoc ..).append_left _
  · rw [deals.redirects, served.redirects, fates, List.countP_append, UInt64.ofNat_add]
  · rw [deals.rejections, served.rejections, fates, List.countP_append, UInt64.ofNat_add]

/-- A job without news may end or go on. -/
theorem resumed (served : Served tells l) (resumed : Resumed l k) : Served tells k := by
  cases resumed with
  | none => exact served
  | @ended id j job silent =>
    have waiting : l.waiting.Perm (l.finish id).waiting := by
      simpa [silent] using waiting_finish served.numbered job
    exact ⟨served.numbered.finish id, served.placed,
      ((waiting.symm.append_left _).map tells).trans served.due, served.redirects,
      served.rejections⟩
  | @gone id j j' job silent still =>
    obtain ⟨before, after, hjobs, -, hbecome⟩ := served.numbered.split job
    have waiting : (l.become id j').waiting = l.waiting := by
      simp [Link.waiting, hjobs, hbecome, silent, still]
    exact ⟨served.numbered.become id j', served.placed, waiting ▸ served.due, served.redirects,
      served.rejections⟩

/-- The news of a rejection moves from the job into the journal. -/
theorem told (served : Served tells l) {id : JobId} {r : Request}
    (job : l.job? id = some (.rejection r)) :
    Served tells ((l.finish id).note (.failed r.id .notConnected)) := by
  have fates : ((l.finish id).note (.failed r.id .notConnected)).fates = l.fates := by
    simp [Link.fates, note, finish, Act.fate?]
  refine ⟨(served.numbered.finish id).entry (.note _ rfl), ?_, ?_, ?_, ?_⟩
  · rw [fates]
    simpa [note, finish, List.filterMap_cons, Act.sent?] using served.placed
  · rw [fates]
    refine List.Perm.trans ?_ served.due
    have told : ((l.finish id).note (.failed r.id .notConnected)).journal.filterMap Act.failure? =
        l.journal.filterMap Act.failure? ++ [(r.id, .notConnected)] := by
      simp [note, finish, Act.failure?]
    rw [told, List.append_assoc, List.singleton_append]
    exact ((waiting_finish served.numbered job).symm.append_left _).map tells
  · rw [fates]
    exact served.redirects
  · rw [fates]
    exact served.rejections

theorem step (served : Served tells l) (o : Surroundings σ) (depth : Nat) {s : Step σ}
    (ordinary : s.Ordinary) : Served tells (Link.step o depth s l) := by
  rcases step_fair o depth ordinary l with ⟨k, resumed, fair⟩ | ⟨id, r, -, job, told⟩
  · exact (served.resumed resumed).fair fair
  · exact told ▸ served.told job

theorem run (served : Served tells l) (o : Surroundings σ) (depth : Nat) {steps : List (Step σ)}
    (ordinary : ∀ s ∈ steps, s.Ordinary) : Served tells (Link.run o depth steps l) := by
  induction steps generalizing l with
  | nil => exact served
  | cons s steps ih =>
    exact ih (served.step o depth (ordinary s List.mem_cons_self))
      fun t ht => ordinary t (List.mem_cons_of_mem _ ht)

/-- A job that breaks down takes no failure with it. The request that it was to tell of its
rejection fails at once, for whatever reason it is given. -/
theorem crash (served : Served Prod.fst l) (o : Surroundings σ) (depth : Nat) (id : JobId) :
    Served Prod.fst (Link.step o depth (.crash id) l) := by
  dsimp only [Link.step, stepWith]
  split
  next j job =>
    have numbered := (served.numbered.finish id).entry (Entry.forsake (l.finish id) j)
    have fates : ((l.finish id).forsake j).fates = l.fates := by
      rw [Link.fates, forsake_eq, List.filterMap_append, fates_forsaking, List.append_nil]
      rfl
    refine ⟨numbered, ?_, ?_, ?_, ?_⟩
    · rw [fates, forsake_eq, List.filterMap_append, sent_forsaking, List.append_nil]
      exact served.placed
    · have told := ((waiting_finish served.numbered job).map Prod.fst).symm
      rw [List.map_append, ← failures_forsaking] at told
      rw [fates, waiting, forsake_eq, List.filterMap_append, List.append_assoc]
      refine List.Perm.trans ?_ served.due
      simp only [List.map_append]
      exact told.append_left _
    · rw [fates, forsake_eq]
      exact served.redirects
    · rw [fates, forsake_eq]
      exact served.rejections
  next => exact served

/-- What every run keeps, also one in which jobs break down. -/
theorem outlasts (served : Served Prod.fst l) (o : Surroundings σ) (depth : Nat)
    (steps : List (Step σ)) : Served Prod.fst (Link.run o depth steps l) :=
  run_keeps (P := Served Prod.fst) (fun ordinary served => served.step o depth ordinary)
    (fun served => served.crash o depth _) served steps

end Served

/-- The news of a rejection waits in its job until the job is taken up, and then the request is told
that the link was not connected. -/
theorem Served.rejection {tells : RequestId × Fault → α} (served : Served tells l)
    (o : Surroundings σ) (depth : Nat) {id : JobId} {r : Request} (pending : (id, .rejection r) ∈ l.jobs) {s : Step σ} (ordinary : s.Ordinary) :
    s ≠ .start id ∧ (id, .rejection r) ∈ (Link.step o depth s l).jobs ∨
      s = .start id ∧
        Link.step o depth s l = (l.finish id).note (.failed r.id .notConnected) := by
  have job : l.job? id = some (.rejection r) := served.numbered.job?_of_mem pending
  by_cases now : s = .start id
  · refine .inr ⟨now, ?_⟩
    simp only [now, Link.step, stepWith, Link.start, job]
  -- only a job of another name ends or goes on
  have other : ∀ {id' j}, l.job? id' = some j → j.news? = none → id ≠ id' := by
    rintro _ j job' silent rfl
    obtain rfl : j = .rejection r := Option.some.inj (job'.symm.trans job)
    cases silent
  refine .inl ⟨now, ?_⟩
  rcases step_fair o depth ordinary l with ⟨k, resumed, acts, deals⟩ | ⟨id', r', rfl, -, told⟩
  · have kept : (id, .rejection r) ∈ k.jobs := by
      cases resumed with
      | none => exact pending
      | ended job' silent => exact List.mem_filter.mpr ⟨pending, by simpa using other job' silent⟩
      | gone job' silent still =>
        exact List.mem_map.mpr ⟨_, pending, if_neg (other job' silent)⟩
    rw [deals.entry.jobs]
    exact List.mem_append_left _ kept
  · have different : id ≠ id' := by
      rintro rfl
      exact now rfl
    rw [told]
    exact List.mem_filter.mpr ⟨pending, by simpa using different⟩

/-- No request is lost, has two fates, or fails twice. A send, as any link is found and however deep
calls are nested, deals with its request in one of three ways, whatever else is called meanwhile.
After every run, the requests that were sent are those that met a fate, each as often. A request
fails if and as its fate has it: at once if the sink refused it; if it was rejected, in the step
that takes up the job which waits with the news, and which stays until then. The counters of
redirected and of rejected requests are exact, up to 64 bits. -/
theorem requests_served (o : Surroundings σ) (depth : Nat) {steps : List (Step σ)}
    (ordinary : ∀ s ∈ steps, s.Ordinary) (identity : Identity) (environment : Environment)
    (outside : σ) (reached : l = run o depth steps (.new identity environment outside)) :
    (∀ (depth : Nat) (r : Request) (k : Link σ),
      ∃ acts, Dispatched o r k acts ∧ Deals acts k (step o depth (.call (.send r)) k)) ∧
    (∀ id r s, (id, .rejection r) ∈ l.jobs → s.Ordinary →
      s ≠ .start id ∧ (id, .rejection r) ∈ (step o depth s l).jobs ∨
      s = .start id ∧ step o depth s l = (l.finish id).note (.failed r.id .notConnected)) ∧
    (l.journal.filterMap Act.sent?).Perm (l.fates.map Prod.fst) ∧
    (l.journal.filterMap Act.failure? ++ l.waiting).Perm (l.fates.filterMap Request.due?) ∧
    l.metrics.redirects = UInt64.ofNat (l.fates.countP (·.2.isOffered)) ∧
    l.metrics.rejections = UInt64.ofNat (l.fates.countP (·.2.isRejected)) := by
  have served : Served id l :=
    reached ▸ (Served.new id identity environment outside).run o depth ordinary
  have due := served.due
  rw [List.map_id, List.map_id] at due
  refine ⟨fun depth r k => dispatched_send (Fair.atDepth o depth) r k, ?_, served.placed, due,
    served.redirects, served.rejections⟩
  exact fun id r s pending ordinary => served.rejection o depth pending ordinary

/-- Of two requests the first is sent too early, and its rejection is told at the end. The second
meets a channel that is not writable and a sink that is full. -/
theorem requests_served_crowded :
    let early : Request := ⟨0, [128]⟩
    let late : Request := ⟨1, [128]⟩
    let steps : List (Step Unit) := [.call (.send early), .call .connect, .start 1,
      .answer 1 (.ok 7), .call (.send late), .start 0]
    let l := run .crowded 1 steps .sample
    l.fates = [(early, .rejected), (late, .offered (some .full))] ∧
      (l.journal.filterMap Act.failure? ++ l.waiting).Perm
        [(0, .notConnected), (1, .sinkFull)] := by
  intro early late steps l
  have ordinary : ∀ s ∈ steps, s.Ordinary := by simp [steps, Step.Ordinary]
  have fates : l.fates = [(early, .rejected), (late, .offered (some .full))] := by decide
  obtain ⟨-, -, -, due, -⟩ :=
    requests_served (l := l) Surroundings.crowded 1 ordinary _ _ () rfl
  rw [fates] at due
  exact ⟨fates, due⟩

/-- Where jobs break down, too, every request that was sent meets one fate, and those fail that are
to fail, each once. Only the reasons may differ. -/
theorem failures_outlast (o : Surroundings σ) (depth : Nat) (steps : List (Step σ))
    (identity : Identity) (environment : Environment) (outside : σ)
    (reached : l = run o depth steps (.new identity environment outside)) :
    (l.journal.filterMap Act.sent?).Perm (l.fates.map Prod.fst) ∧
      ((l.journal.filterMap Act.failure? ++ l.waiting).map Prod.fst).Perm
        ((l.fates.filterMap Request.due?).map Prod.fst) := by
  have served : Served Prod.fst l :=
    reached ▸ (Served.new Prod.fst identity environment outside).outlasts o depth steps
  exact ⟨served.placed, served.due⟩

end Link

end NodeLink
