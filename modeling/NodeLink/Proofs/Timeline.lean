import NodeLink.Proofs.Clockwork
import NodeLink.Proofs.Ticks
import NodeLink.Rehearsal.Report

/-!
# The reconnect timeline

A persistent link that was asked to connect, and is then left alone, calls its connector again and
again until it gets a channel. When each call is made, and what comes of it, is a plain recursion:
an attempt lasts until the connector answers or the safeguard time is over, and the next call
follows after the delay that the backoff asks for.

A rehearsal keeps to this *timeline*, tick by tick. Between two ticks it stands in one of four
phases: a call is pending, an attempt is waiting for the connector, a retry is pausing, or the link
is up. Zero times skip the phases in which nothing would be waited for.
-/

set_option autoImplicit false

namespace NodeLink.Rehearsal

open Lifecycle (State)

/-! ## Alarms for the only job -/

section Alarms

variable {delay : UInt64 → Option Nat} {stages : List Stage} {safeguard : Nat} {state : State}
  {id : JobId} {j : Job} {attempt : UInt64} {p : Pose} {r : Rehearsal}

/-- However many timers of a job go off, it stands in the queue once. -/
theorem foldl_enqueue {l : List Timer} (mine : ∀ t ∈ l, t.job = id) (some : l ≠ [])
    (idle : r.ready = []) :
    l.foldl (fun r t => r.enqueue t.job) r = { r with ready := [id] } := by
  have again : ∀ l : List Timer, (∀ t ∈ l, t.job = id) →
      l.foldl (fun r t => r.enqueue t.job) { r with ready := [id] } = { r with ready := [id] } := by
    intro l mine
    induction l with
    | nil => rfl
    | cons t l ih =>
      have same : ({ r with ready := [id] } : Rehearsal).enqueue t.job =
          { r with ready := [id] } := by
        rw [mine t (List.mem_cons_self ..)]
        simp [enqueue]
      rw [List.foldl_cons, same]
      exact ih fun t mem => mine t (List.mem_cons_of_mem _ mem)
  cases l with
  | nil => exact absurd rfl some
  | cons t l =>
    have first : r.enqueue t.job = { r with ready := [id] } := by
      rw [mine t (List.mem_cons_self ..)]
      simp [enqueue, idle]
    rw [List.foldl_cons, first]
    exact again l fun t mem => mine t (List.mem_cons_of_mem _ mem)

/-- When the clock stops at a deadline of the only job, that job can go on. -/
theorem Poised.ringAt (poised : Poised delay stages safeguard state id j attempt p r) (t : Nat)
    (idle : p.ready = []) (mine : ∀ x ∈ p.timers, x.job = id) {x : Timer} (mem : x ∈ p.timers)
    (due : x.deadline ≤ t) :
    Poised delay stages safeguard state id j attempt { p with now := t, ready := [id] }
      (r.ringAt t) := by
  have moved := poised.atTime t
  have timers : r.timers = p.timers := congrArg Pose.timers poised.pose
  have queue : r.ready = p.ready := congrArg Pose.ready poised.pose
  have rung : r.ringAt t = { r.mapScene fun s => { s with now := t } with ready := [id] } := by
    refine foldl_enqueue ?_ ?_ (queue.trans idle)
    · intro y sorted
      have listed : y ∈ r.timers := (List.mem_filter.mp (List.mem_mergeSort.mp sorted)).1
      exact mine y (timers ▸ listed)
    · have rings : x ∈ r.timers.filter fun t' => t'.deadline ≤ t :=
        List.mem_filter.mpr ⟨timers ▸ mem, decide_eq_true due⟩
      exact List.ne_nil_of_mem (List.mem_mergeSort.mpr rings)
  rw [rung]
  exact moved.withReady [id]

end Alarms

/-! ## The reference recursion -/

/-- What decides the times of calls. -/
structure Timeline where
  /-- The milliseconds after which an attempt is given up. -/
  safeguard : Nat
  /-- The delay before a reconnect attempt of a given number. -/
  delay : UInt64 → Nat
  /-- How the connector answers its calls, in order. Later calls are never answered. -/
  answers : List Reaction

namespace Timeline

variable (τ : Timeline) (n : Nat)

def reaction : Reaction := τ.answers.getD n none

/-- How long an attempt lasts. -/
def lasts : Nat := (τ.reaction n).lasts τ.safeguard

/-- What an attempt comes to. -/
def verdict : Verdict := (τ.reaction n).verdict τ.safeguard

/-- When a call of the connector is made, counted from nought. -/
def begins : Nat → Nat
  | 0 => 0
  | n + 1 => begins n + τ.lasts n + τ.delay (.ofNat (n + 1))

/-- When an attempt comes to its verdict. -/
def ends : Nat := τ.begins n + τ.lasts n

/-- The caller waits for the first attempt. -/
def ticket : Nat → Option TicketId
  | 0 => some 0
  | _ + 1 => none

/-- What is to be seen of an attempt. -/
def attempt : List (Nat × Beat) :=
  (τ.begins n, .called) :: ((τ.verdict n).beats (ticket n)).map fun b => (τ.ends n, b)

/-- What is to be seen of the first attempts. -/
def history : List (Nat × Beat) := (List.range n).flatMap τ.attempt

/-- The notice of the caller, after so many attempts. -/
def notices : Nat → List Numbered
  | 0 => [.waiting (.ticket 0)]
  | _ + 1 => [.settled (.outcome (τ.verdict 0).outcome)]

/-- The rest of the connector's script. -/
def script : List Cast := (τ.answers.map Reaction.cast).drop n

theorem history_succ : τ.history (n + 1) =
    τ.history n ++ [(τ.begins n, .called)] ++
      ((τ.verdict n).beats (ticket n)).map fun b => (τ.ends n, b) := by
  rw [history, List.range_succ, List.flatMap_append, List.flatMap_singleton, attempt,
    List.append_assoc]
  rfl

theorem notices_succ :
    ((τ.verdict n).replies (ticket n)).foldl heed (τ.notices n) = τ.notices (n + 1) := by
  cases n <;> rfl

theorem script_next : (τ.script n).headD .silence = (τ.reaction n).cast := by
  rw [script, reaction, List.headD_eq_head?_getD, List.head?_drop, List.getElem?_map,
    List.getD_eq_getElem?_getD]
  cases τ.answers[n]? <;> rfl

theorem script_tail : (τ.script n).tail = τ.script (n + 1) := by
  rw [script, script, List.tail_drop]

theorem begins_le_ends : τ.begins n ≤ τ.ends n := Nat.le_add_right _ _

theorem ends_le_begins : τ.ends n ≤ τ.begins (n + 1) := Nat.le_add_right _ _

/-! ## Phases -/

/-- The job that is to make a call. -/
def caller : Nat → Job
  | 0 => .attempt (some 0) true 1 false
  | n + 1 => .retry (τ.delay (.ofNat (n + 1))) 1

/-- When that job is created. -/
def planned : Nat → Nat
  | 0 => 0
  | n + 1 => τ.ends n

theorem planned_le_begins : τ.planned n ≤ τ.begins n := by
  cases n with
  | zero => exact Nat.le_refl 0
  | succ n => exact τ.ends_le_begins n

/-- Where a rehearsal stands between attempts. -/
def between (now : Nat) (ready : List JobId) (timers : List Timer) : Pose where
  now := now
  ready := ready
  timers := timers
  casts := []
  script := τ.script n
  channels := #[]
  beats := τ.history n
  notices := τ.notices n

/-- Where a rehearsal stands when a call was made. -/
def dialing : Pose where
  now := τ.begins n
  ready := []
  timers := []
  casts := []
  script := τ.script (n + 1)
  channels := #[]
  beats := τ.history n ++ [(τ.begins n, .called)]
  notices := τ.notices n

variable (stages : List Stage)

/-- The link of a rehearsal is connecting, and has a job of the name of the attempt. -/
def Connecting (j : Job) (p : Pose) (r : Rehearsal) : Prop :=
  Poised (fun k => some (τ.delay k)) stages τ.safeguard .connecting n j (.ofNat (n + 1)) p r

/-- A call is pending. -/
def Pending (r : Rehearsal) : Prop :=
  τ.Connecting n stages (τ.caller n) (τ.between n (τ.planned n) [n] []) r

/-- A retry pauses. -/
def Pausing (r : Rehearsal) : Prop :=
  τ.Connecting n stages (τ.caller n) (τ.between n (τ.planned n) [] [⟨τ.begins n, n, .pause⟩]) r

/-- An attempt waits for the connector. -/
def Waiting (r : Rehearsal) : Prop :=
  τ.Connecting n stages (.attempt (ticket n) (ticket n).isSome 1 true)
    ((τ.dialing n).waiting n τ.safeguard (τ.reaction n)) r

/-- Some attempts are over, and the last of them came to its verdict. -/
def Concluded (r : Rehearsal) : Prop :=
  Poised (fun k => some (τ.delay k)) stages τ.safeguard (τ.verdict n).state (n + 1)
    ((τ.verdict n).next τ.delay (.ofNat (n + 1))) ((τ.verdict n).number (.ofNat (n + 1)))
    { τ.between (n + 1) (τ.ends n) [n + 1] [] with channels := (τ.verdict n).channels } r

/-- A call was made, and the attempt has come to its verdict or waits for it. -/
def Called (r : Rehearsal) : Prop :=
  (τ.lasts n = 0 → τ.Concluded n stages r) ∧ (τ.lasts n ≠ 0 → τ.Waiting n stages r)

variable {τ n stages} {r : Rehearsal} {target : Nat}

/-- After a failed attempt the next call is pending. -/
theorem Concluded.pending {f : Fault} (concluded : τ.Concluded n stages r)
    (failed : τ.verdict n = .error f) : τ.Pending (n + 1) stages r := by
  unfold Concluded at concluded
  rw [failed] at concluded
  have number : UInt64.ofNat (n + 1) + 1 = .ofNat (n + 1 + 1) := by
    rw [UInt64.ofNat_add (n + 1) 1]
    rfl
  simp only [Verdict.number, number] at concluded
  exact concluded

/-- A call is made at last: the attempt comes to its verdict at once or waits for it. -/
theorem called {r' : Rehearsal} (made : τ.Connecting n stages
      (.attempt (ticket n) (ticket n).isSome 1 true)
      { τ.dialing n with script := τ.script n } r') : τ.Called n stages (dialed n r') := by
  obtain ⟨lapsed, waits⟩ := dialed_poised (τ.reaction n) made rfl rfl rfl rfl (τ.script_next n)
  simp only [script_tail] at lapsed waits
  refine ⟨fun none => ?_, waits⟩
  have ended : τ.begins n = τ.ends n := by rw [ends, none, Nat.add_zero]
  have pose : ({ τ.dialing n with script := τ.script (n + 1) } : Pose).concluded n (ticket n)
      (τ.verdict n) =
      { τ.between (n + 1) (τ.ends n) [n + 1] [] with channels := (τ.verdict n).channels } := by
    simp only [Pose.concluded, dialing, between, history_succ, notices_succ, ← ended]
  unfold Concluded
  rw [← pose]
  exact lapsed none

/-- The first attempt begins. -/
theorem started (pending : τ.Connecting 0 stages (τ.caller 0) (τ.between 0 0 [] []) r) :
    τ.Connecting 0 stages (.attempt (ticket 0) (ticket 0).isSome 1 true)
      { τ.dialing 0 with script := τ.script 0 } (r.take (.start 0)) :=
  pending.take (.start 0) (fun depth _ solo => Link.step_begins depth solo) List.nodup_nil (by simp)

/-- A retry begins. -/
theorem woken {ms : Nat} (pending : τ.Connecting (n + 1) stages (.retry ms 1)
      (τ.between (n + 1) (τ.begins (n + 1)) [] []) r) :
    τ.Connecting (n + 1) stages (.attempt (ticket (n + 1)) (ticket (n + 1)).isSome 1 true)
      { τ.dialing (n + 1) with script := τ.script (n + 1) } (r.take (.wake (n + 1))) :=
  pending.take (.wake (n + 1)) (fun depth _ solo => Link.step_wakes depth solo) List.nodup_nil
    (by simp)

/-- A retry with a delay pauses first. -/
theorem Pending.pauses (pending : τ.Pending (n + 1) stages r)
    (delayed : τ.delay (.ofNat (n + 1)) ≠ 0) :
    ∃ r', Ticks target 1 r r' ∧ τ.Pausing (n + 1) stages r' := by
  obtain ⟨ms, delay⟩ : ∃ ms, τ.delay (.ofNat (n + 1)) = ms + 1 :=
    ⟨τ.delay (.ofNat (n + 1)) - 1, by omega⟩
  have next : r.ready = [n + 1] := congrArg Pose.ready pending.pose
  have turned := (pending.withReady []).setTimer .pause (ms + 1)
  have job : ({ r with ready := [] } : Rehearsal).link.job? (n + 1) = some (.retry (ms + 1) 1) := by
    rw [← delay]
    exact Link.job?_single pending.solo.jobs
  have none : ({ r with ready := [] } : Rehearsal).hasTimer (n + 1) .pause = false :=
    (pending.withReady []).hasTimer ..
  refine ⟨_, .turn next (.refl _), ?_⟩
  have there : turn (n + 1) { r with ready := [] } =
      ({ r with ready := [] } : Rehearsal).setTimer (n + 1) .pause (ms + 1) := by
    simp only [turn, job, none, Bool.false_eq_true, ↓reduceIte]
  rw [there]
  have deadline : τ.begins (n + 1) = τ.ends n + (ms + 1) := by rw [← delay]; rfl
  unfold Pausing
  rw [deadline]
  exact turned

/-- When the pause is over, the retry calls. -/
theorem Pausing.calls (pausing : τ.Pausing (n + 1) stages r)
    (delayed : τ.delay (.ofNat (n + 1)) ≠ 0) (within : τ.begins (n + 1) ≤ target) :
    ∃ r', Ticks target 2 r r' ∧ τ.Called (n + 1) stages r' := by
  obtain ⟨ms, delay⟩ : ∃ ms, τ.delay (.ofNat (n + 1)) = ms + 1 :=
    ⟨τ.delay (.ofNat (n + 1)) - 1, by omega⟩
  have deadline : τ.begins (n + 1) = τ.ends n + (ms + 1) := by rw [← delay]; rfl
  have idle : r.ready = [] := congrArg Pose.ready pausing.pose
  have next : r.nextDeadline? = some (τ.begins (n + 1)) := by
    have timers : r.timers = [⟨τ.begins (n + 1), n + 1, .pause⟩] :=
      congrArg Pose.timers pausing.pose
    rw [nextDeadline?, timers]
    rfl
  have ahead : r.now < τ.begins (n + 1) := by
    have now : r.now = τ.ends n := congrArg Pose.now pausing.pose
    omega
  have rung := pausing.ringAt (τ.begins (n + 1)) rfl (by simp [between]) (List.mem_cons_self ..)
    (Nat.le_refl _)
  obtain ⟨r₁, stopped⟩ : ∃ r₁, r₁ = r.ringAt (τ.begins (n + 1)) := ⟨_, rfl⟩
  rw [← stopped] at rung
  have front : r₁.ready = [n + 1] := congrArg Pose.ready rung.pose
  have freed := rung.withReady []
  have job : ({ r₁ with ready := [] } : Rehearsal).link.job? (n + 1) =
      some (.retry (ms + 1) 1) := by
    rw [← delay]
    exact Link.job?_single freed.solo.jobs
  have held : ({ r₁ with ready := [] } : Rehearsal).hasTimer (n + 1) .pause = true := by
    rw [freed.hasTimer]
    simp [between]
  have due : ({ r₁ with ready := [] } : Rehearsal).isDue (n + 1) .pause = true := by
    rw [freed.isDue]
    simp [between]
  have dropped : τ.Connecting (n + 1) stages (.retry (ms + 1) 1)
      (τ.between (n + 1) (τ.begins (n + 1)) [] [])
      (dropTimers { r₁ with ready := [] } (n + 1) .pause) := by
    rw [← delay]
    exact (freed.dropTimers .pause).of_pose (by simp [between])
  have turned : Ticks target 1 (r.ringAt (τ.begins (n + 1)))
      (turn (n + 1) { r₁ with ready := [] }) := by
    rw [← stopped]
    exact .turn front (.refl _)
  refine ⟨_, .stop idle next ahead within turned, ?_⟩
  have there : turn (n + 1) { r₁ with ready := [] } = dialed (n + 1)
      ((dropTimers { r₁ with ready := [] } (n + 1) .pause).take (.wake (n + 1))) := by
    simp only [turn, job, held, ↓reduceIte, afterPause, due]
  rw [there]
  exact called (woken dropped)

/-- When the time of an attempt is over, it comes to its verdict. -/
theorem Waiting.concludes (waiting : τ.Waiting n stages r) (lasting : τ.lasts n ≠ 0)
    (within : τ.ends n ≤ target) : ∃ r', Ticks target 2 r r' ∧ τ.Concluded n stages r' := by
  have idle : r.ready = [] := congrArg Pose.ready waiting.pose
  have timers : r.timers = (τ.reaction n).timers τ.safeguard (τ.begins n) n :=
    congrArg Pose.timers waiting.pose
  have next : r.nextDeadline? = some (τ.ends n) := by
    rw [nextDeadline?, timers]
    exact Reaction.min_timers ..
  have ahead : r.now < τ.ends n := by
    have now : r.now = τ.begins n := congrArg Pose.now waiting.pose
    have ends : τ.ends n = τ.begins n + τ.lasts n := rfl
    omega
  obtain ⟨x, mem, due⟩ := List.mem_map.mp (List.min?_mem next)
  have listed : x ∈ (τ.reaction n).timers τ.safeguard (τ.begins n) n := timers ▸ mem
  have rung := waiting.ringAt (τ.ends n) rfl Reaction.timers_job listed (Nat.le_of_eq due)
  obtain ⟨r₁, stopped⟩ : ∃ r₁, r₁ = r.ringAt (τ.ends n) := ⟨_, rfl⟩
  rw [← stopped] at rung
  have front : r₁.ready = [n] := congrArg Pose.ready rung.pose
  have freed := rung.withReady []
  have turned : Ticks target 1 (r.ringAt (τ.ends n)) (turn n { r₁ with ready := [] }) := by
    rw [← stopped]
    exact .turn front (.refl _)
  refine ⟨_, .stop idle next ahead within turned, ?_⟩
  have job := Link.job?_single freed.solo.jobs
  have there : turn n { r₁ with ready := [] } = resume n { r₁ with ready := [] } := by
    simp only [turn, job]
  rw [there]
  refine (resume_poised (τ.reaction n) freed rfl rfl rfl rfl rfl).of_pose ?_
  simp only [Pose.concluded, Pose.waiting, dialing, between, history_succ]
  rw [← notices_succ]
  rfl

/-! ## Phases in which nothing happens -/

theorem Pausing.rests (pausing : τ.Pausing n stages r) (later : target < τ.begins n) :
    Rests target r := by
  refine ⟨congrArg Pose.ready pausing.pose, fun t next => ?_⟩
  have timers : r.timers = [⟨τ.begins n, n, .pause⟩] := congrArg Pose.timers pausing.pose
  rw [nextDeadline?, timers] at next
  cases next
  exact later

theorem Waiting.rests (waiting : τ.Waiting n stages r) (later : target < τ.ends n) :
    Rests target r := by
  refine ⟨congrArg Pose.ready waiting.pose, fun t next => ?_⟩
  have timers : r.timers = (τ.reaction n).timers τ.safeguard (τ.begins n) n :=
    congrArg Pose.timers waiting.pose
  rw [nextDeadline?, timers, Reaction.min_timers] at next
  cases next
  exact later

/-- A link that is up stays as it is, however long the clock runs. -/
theorem Concluded.rests {setup : Setup} (concluded : τ.Concluded n stages r)
    (succeeded : τ.verdict n = .ok setup) :
    Ticks target 1 r { r with ready := [] } ∧ Rests target { r with ready := [] } := by
  unfold Concluded at concluded
  rw [succeeded] at concluded
  have next : r.ready = [n + 1] := congrArg Pose.ready concluded.pose
  have timers : r.timers = [] := congrArg Pose.timers concluded.pose
  have channels : r.link.outside.channels = #[.ofSetup setup] :=
    congrArg Pose.channels concluded.pose
  have job : ({ r with ready := [] } : Rehearsal).link.job? (n + 1) = some (.watch 0) :=
    Link.job?_single concluded.solo.jobs
  have there : turn (n + 1) { r with ready := [] } = { r with ready := [] } := by
    simp only [turn, job, channels]
    rfl
  constructor
  · have turned : Ticks target 1 r (turn (n + 1) { r with ready := [] }) := .turn next (.refl _)
    rwa [there] at turned
  · refine ⟨rfl, fun t next => ?_⟩
    have none : ({ r with ready := [] } : Rehearsal).nextDeadline? = none := by
      rw [nextDeadline?, timers]
      rfl
    exact absurd (none.symm.trans next) (Option.some_ne_none t).symm

/-! ## The whole way -/

/-- A call that is pending is made in time, and in few ticks. -/
theorem Pending.calls (pending : τ.Pending n stages r) (within : τ.begins n ≤ target) :
    ∃ k r', k ≤ 3 ∧ Ticks target k r r' ∧ τ.Called n stages r' := by
  have next : r.ready = [n] := congrArg Pose.ready pending.pose
  have freed := pending.withReady []
  cases n with
  | zero =>
    have job : ({ r with ready := [] } : Rehearsal).link.job? 0 =
        some (.attempt (some 0) true 1 false) := Link.job?_single freed.solo.jobs
    have there : turn 0 { r with ready := [] } =
        dialed 0 (take { r with ready := [] } (.start 0)) := by
      simp only [turn, job]
    exact ⟨1, _, by omega, .turn next (.refl _), there ▸ called (started freed)⟩
  | succ n =>
    by_cases delayed : τ.delay (.ofNat (n + 1)) = 0
    · have job : ({ r with ready := [] } : Rehearsal).link.job? (n + 1) = some (.retry 0 1) := by
        rw [← delayed]
        exact Link.job?_single freed.solo.jobs
      have there : turn (n + 1) { r with ready := [] } =
          dialed (n + 1) (take { r with ready := [] } (.wake (n + 1))) := by
        simp only [turn, job]
      have now : τ.ends n = τ.begins (n + 1) := by
        have begins : τ.begins (n + 1) = τ.ends n + τ.delay (.ofNat (n + 1)) := rfl
        rw [begins, delayed, Nat.add_zero]
      have prompt : τ.Connecting (n + 1) stages (.retry 0 1)
          (τ.between (n + 1) (τ.begins (n + 1)) [] []) { r with ready := [] } := by
        rw [← delayed, ← now]
        exact freed
      exact ⟨1, _, by omega, .turn next (.refl _), there ▸ called (woken prompt)⟩
    · obtain ⟨r₁, first, pausing⟩ : ∃ r₁, Ticks target 1 r r₁ ∧ τ.Pausing (n + 1) stages r₁ :=
        pending.pauses delayed
      obtain ⟨r₂, second, called⟩ := pausing.calls delayed within
      exact ⟨3, r₂, by omega, first.trans second, called⟩

/-- An attempt whose call is pending comes to its verdict in time, and in few ticks. -/
theorem Pending.concludes (pending : τ.Pending n stages r) (within : τ.ends n ≤ target) :
    ∃ k r', k ≤ 5 ∧ Ticks target k r r' ∧ τ.Concluded n stages r' := by
  obtain ⟨k, r₁, few, ticks, atOnce, waits⟩ :=
    pending.calls (Nat.le_trans (τ.begins_le_ends n) within)
  by_cases none : τ.lasts n = 0
  · exact ⟨k, r₁, by omega, ticks, atOnce none⟩
  · obtain ⟨r₂, more, concluded⟩ := (waits none).concludes none within
    exact ⟨k + 2, r₂, by omega, ticks.trans more, concluded⟩

/-- As long as attempts fail, one call after the other becomes pending. -/
theorem Pending.onward (pending : τ.Pending 0 stages r)
    (fails : ∀ i < n, ∃ f, τ.verdict i = .error f) (within : τ.planned n ≤ target) :
    ∃ k r', k ≤ 5 * n ∧ Ticks target k r r' ∧ τ.Pending n stages r' := by
  induction n with
  | zero => exact ⟨0, r, by omega, .refl r, pending⟩
  | succ n ih =>
    have before := Nat.le_trans (τ.planned_le_begins n) (τ.begins_le_ends n)
    obtain ⟨k, r₁, few, ticks, here⟩ :=
      ih (fun i lt => fails i (Nat.lt_succ_of_lt lt)) (Nat.le_trans before within)
    obtain ⟨f, failed⟩ := fails n (Nat.lt_succ_self n)
    obtain ⟨k', r₂, few', more, concluded⟩ := here.concludes within
    exact ⟨k + k', r₂, by omega, ticks.trans more, concluded.pending failed⟩

/-- After so many failures the next call is made in its time. -/
theorem Pending.reaches_call (pending : τ.Pending 0 stages r)
    (fails : ∀ i < n, ∃ f, τ.verdict i = .error f) (begun : τ.begins n ≤ target) :
    ∃ k r', k ≤ 5 * n + 3 ∧ Ticks target k r r' ∧ τ.Called n stages r' := by
  obtain ⟨k, r₁, few, ticks, here⟩ :=
    pending.onward fails (Nat.le_trans (τ.planned_le_begins n) begun)
  obtain ⟨k', r₂, few', more, called⟩ := here.calls begun
  exact ⟨k + k', r₂, by omega, ticks.trans more, called⟩

/-- After so many failures the next attempt comes to its verdict in its time. -/
theorem Pending.reaches_verdict (pending : τ.Pending 0 stages r)
    (fails : ∀ i < n, ∃ f, τ.verdict i = .error f) (ended : τ.ends n ≤ target) :
    ∃ k r', k ≤ 5 * n + 5 ∧ Ticks target k r r' ∧ τ.Concluded n stages r' := by
  have begun := Nat.le_trans (τ.begins_le_ends n) ended
  obtain ⟨k, r₁, few, ticks, here⟩ :=
    pending.onward fails (Nat.le_trans (τ.planned_le_begins n) begun)
  obtain ⟨k', r₂, few', more, concluded⟩ := here.concludes ended
  exact ⟨k + k', r₂, by omega, ticks.trans more, concluded⟩

end Timeline

/-! ## The beginning -/

/-- The same rehearsal under a backoff that always knows how long to wait. -/
def withBackoff (r : Rehearsal) (d : UInt64 → Nat) (stages : List Stage) : Rehearsal :=
  { r with surroundings := Scene.surroundings (fun n => some (d n)) stages }

/-- A program's own backoff is such a one if it never breaks down. -/
theorem withBackoff_own {p : Program} {opened : Rehearsal} (starts : p.start = .ok opened)
    {d : UInt64 → Nat} (firm : p.delay = fun n => some (d n)) :
    opened.withBackoff d p.stages = opened := by
  unfold Program.start at starts
  dsimp only at starts
  cases link : Link.open? (Scene.surroundings p.delay p.stages) p.identity
    ⟨some p.environment, true, true⟩
    ⟨0, false, #[], p.sink, p.onPublish, p.onLog, p.threshold, []⟩ with
  | error e =>
    rw [link] at starts
    cases starts
  | ok l =>
    rw [link] at starts
    have started := Except.ok.inj starts
    rw [← started, withBackoff, ← firm]

/-- The timeline of a program's link, under a backoff and with the connector's answers. The
safeguard time is the exact sum of the two timeouts. -/
def Program.timeline (p : Program) (d : UInt64 → Nat) (answers : List Reaction) : Timeline where
  safeguard := p.environment.settings.socketTimeout.toNat + p.environment.settings.gracePeriod.toNat
  delay := d
  answers := answers

/-- Where a rehearsal stands at first. -/
def Pose.initial (script : List Cast) : Pose := ⟨0, [], [], [], script, #[], [], []⟩

/-- How a rehearsal of a persistent link without prepared calls starts. -/
theorem start_untouched {p : Program} {opened : Rehearsal} (starts : p.start = .ok opened)
    (persistent : p.identity.transient = false) (onLog : p.onLog = [])
    (onPublish : p.onPublish = []) :
    Link.Untouched p.environment.settings.safeguard opened.link ∧
      opened.pose = .initial p.script ∧ opened.held = true ∧ opened.outcomes = [] ∧
      opened.patience = p.patience := by
  unfold Program.start Link.open? at starts
  cases checked : Collaborators.check ⟨some p.environment, true, true⟩ with
  | error e =>
    rw [checked] at starts
    cases starts
  | ok e =>
    have same : e = p.environment := by
      unfold Collaborators.check at checked
      dsimp only at checked
      repeat' split at checked
      all_goals cases checked
      rfl
    subst same
    rw [checked] at starts
    have started := Except.ok.inj starts
    dsimp only at started
    have unprompted : Scene.Unprompted
        ⟨0, false, #[], p.sink, p.onPublish, p.onLog, p.threshold, []⟩ := ⟨onLog, onPublish⟩
    have logged : ∀ fields, ∃ lines, Link.log (Scene.surroundings p.delay p.stages) (fun _ l => l)
        .debug "endpoint_created" fields (Link.new p.identity p.environment
          ⟨0, false, #[], p.sink, p.onPublish, p.onLog, p.threshold, []⟩) =
        Link.new p.identity p.environment
          ⟨0, false, #[], p.sink, p.onPublish, p.onLog, p.threshold, lines⟩ := by
      intro fields
      obtain ⟨lines, heard⟩ := Scene.react_logging unprompted ⟨.debug, "endpoint_created", fields⟩
      exact ⟨lines, Link.occur_silent heard _⟩
    obtain ⟨lines, logged⟩ := logged _
    rw [logged] at started
    subst started
    exact ⟨⟨persistent, rfl, rfl, rfl, ⟨onLog, onPublish⟩, rfl, rfl, rfl, rfl, rfl⟩, rfl, rfl, rfl,
      rfl⟩

/-- When the owner connects, the first call is pending, and the ticket waits for what comes of
it. -/
theorem connect_pending {p : Program} {opened : Rehearsal} (starts : p.start = .ok opened)
    (persistent : p.identity.transient = false) (onLog : p.onLog = [])
    (onPublish : p.onPublish = []) (d : UInt64 → Nat) {answers : List Reaction}
    (scripted : p.script = answers.map Reaction.cast) :
    (p.timeline d answers).Pending 0 p.stages ((opened.withBackoff d p.stages).play .connect).2 ∧
      ((opened.withBackoff d p.stages).play .connect).2.patience = p.patience := by
  obtain ⟨untouched, pose, held, outcomes, patience⟩ :=
    start_untouched starts persistent onLog onPublish
  obtain ⟨r, before⟩ : ∃ r, r = opened.withBackoff d p.stages := ⟨_, rfl⟩
  have ready : Link.Untouched p.environment.settings.safeguard r.prepared := by
    rw [before]
    exact ⟨untouched.persistent, untouched.wanted, untouched.epoch, untouched.safeguard,
      ⟨untouched.unprompted.onLog, untouched.unprompted.onPublish⟩, untouched.state,
      untouched.jobs, untouched.count, untouched.tickets, untouched.attempt⟩
  have surroundings : r.surroundings = Scene.surroundings (fun n => some (d n)) p.stages := by
    rw [before]
    rfl
  have owned : r.held = true := by
    rw [before]
    exact held
  obtain ⟨ticket, goes, solo⟩ := Link.connect_goes (fun n => some (d n)) p.stages
    (Link.nested r.surroundings r.depth) ready
  rw [← surroundings] at ticket goes solo
  have initial : r.pose = .initial p.script := by
    rw [before]
    exact pose
  obtain ⟨poised, patient, quiet⟩ := act_poised surroundings owned initial goes solo
    (by simp [Pose.initial]) (by simp)
  obtain ⟨r₁, acted⟩ : ∃ r₁, r₁ = r.act (Link.connect r.surroundings
    (Link.nested r.surroundings r.depth)) := ⟨_, rfl⟩
  have first : r₁.1 = .pending 0 := by
    rw [acted]
    exact ticket
  rw [← acted] at poised patient quiet
  have none : r₁.2.outcomes = [] := by
    rw [quiet rfl, before]
    exact outcomes
  have played : (r.play .connect).2 = r₁.2.number (.waiting (.ticket 0)) := by
    simp only [play, whileHeld, owned, ↓reduceIte, ← acted, first, numberTicket, none,
      List.lookup_nil]
  rw [← before, played]
  refine ⟨?_, patient.trans (by rw [before]; exact patience)⟩
  obtain ⟨same, held, solo, pose⟩ := poised
  refine ⟨same, held, solo, ?_⟩
  have numbered : (r₁.2.number (.waiting (.ticket 0))).pose =
      { r₁.2.pose with notices := r₁.2.pose.notices ++ [.waiting (.ticket 0)] } := rfl
  rw [numbered, pose, scripted]
  rfl

/-! ## The timeline of a rehearsal -/

/-- What a rehearsal shows: the beats so far, the state of the link, and the notices. -/
structure Shows (beats : List (Nat × Beat)) (state : State) (notices : List Numbered)
    (r : Rehearsal) : Prop where
  beats : r.beats = beats
  state : r.link.state = state
  notices : r.notices = notices

/-- What is shown where ticks lead to is shown when the clock stands still, if nothing happens in
between. -/
theorem Ticks.shows {target k : Nat} {r r' : Rehearsal} (ticks : Ticks target k r r')
    (start : r.now = 0) (enough : k < r.patience) (rests : Rests target r')
    {beats : List (Nat × Beat)} {state : State} {notices : List Numbered}
    (shows : Shows beats state notices r') :
    Shows beats state notices (r.play (.advance target)).2 := by
  obtain ⟨t, there⟩ := (ticks.advance start enough).2 rests
  have played : (r.play (.advance target)).2 = r'.mapScene fun s => { s with now := t } := there
  rw [played]
  exact ⟨shows.beats, shows.state, shows.notices⟩

/-- What happened on the way of ticks is among the beats when the clock stands still. -/
theorem Ticks.beats_grow {target k : Nat} {r r' : Rehearsal} (ticks : Ticks target k r r')
    (start : r.now = 0) (enough : k < r.patience) :
    r'.beats <+: (r.play (.advance target)).2.beats :=
  (ticks.advance start enough).1.filterMap _

/-- A persistent link is asked to connect at time nought, nobody else calls it, and the clock runs
to some time. Whatever the timeouts, the backoff and the connector's answers: when the first `n`
attempts fail, their calls, their verdicts, the reloads and what the caller is told come at the
times of the recursion and in its order, each attempt after the one before; the next call is made in
its time and lasts until its own verdict; a failure is followed by a pause and nothing else; and
when the next attempt succeeds, the link is connected from then on and calls no more, however long
the clock runs. -/
theorem reconnect_timeline {p : Program} {opened : Rehearsal} (starts : p.start = .ok opened)
    (persistent : p.identity.transient = false) (onLog : p.onLog = [])
    (onPublish : p.onPublish = []) (d : UInt64 → Nat) {answers : List Reaction}
    (scripted : p.script = answers.map Reaction.cast) (n target : Nat)
    (fails : ∀ i < n, ∃ f, (p.timeline d answers).verdict i = .error f)
    (patient : 5 * n + 6 < p.patience) :
    let τ := p.timeline d answers
    let r := (((opened.withBackoff d p.stages).play .connect).2.play (.advance target)).2
    (τ.begins n ≤ target → τ.history n ++ [(τ.begins n, .called)] <+: r.beats) ∧
    (τ.begins n ≤ target → target < τ.ends n →
      Shows (τ.history n ++ [(τ.begins n, .called)]) .connecting (τ.notices n) r) ∧
    (∀ f, τ.verdict n = .error f → τ.ends n ≤ target → target < τ.begins (n + 1) →
      Shows (τ.history (n + 1)) .connecting (τ.notices (n + 1)) r) ∧
    (∀ setup, τ.verdict n = .ok setup → τ.ends n ≤ target →
      Shows (τ.history (n + 1)) .connected (τ.notices (n + 1)) r) := by
  intro τ
  obtain ⟨pending, patience⟩ := connect_pending starts persistent onLog onPublish d scripted
  obtain ⟨r, asked⟩ : ∃ r, r = ((opened.withBackoff d p.stages).play .connect).2 := ⟨_, rfl⟩
  rw [← asked] at pending patience ⊢
  have start : r.now = 0 := congrArg Pose.now pending.pose
  intro r'
  refine ⟨fun begun => ?_, fun begun early => ?_, fun f failed ended early => ?_,
    fun setup succeeded ended => ?_⟩
  · obtain ⟨k, r₁, few, ticks, atOnce, waits⟩ := pending.reaches_call fails begun
    have grown := ticks.beats_grow start (by omega)
    by_cases none : τ.lasts n = 0
    · have beats : r₁.beats = τ.history (n + 1) := congrArg Pose.beats (atOnce none).pose
      rw [beats, τ.history_succ] at grown
      exact (List.prefix_append _ _).trans grown
    · have beats : r₁.beats = τ.history n ++ [(τ.begins n, .called)] :=
        congrArg Pose.beats (waits none).pose
      rwa [beats] at grown
  · obtain ⟨k, r₁, few, ticks, -, waits⟩ := pending.reaches_call fails begun
    have lasting : τ.lasts n ≠ 0 := by
      have ends : τ.ends n = τ.begins n + τ.lasts n := rfl
      omega
    have waiting := waits lasting
    exact ticks.shows start (by omega) (waiting.rests early)
      ⟨congrArg Pose.beats waiting.pose, waiting.solo.state, congrArg Pose.notices waiting.pose⟩
  · obtain ⟨k, r₁, few, ticks, concluded⟩ := pending.reaches_verdict fails ended
    have delayed : τ.delay (.ofNat (n + 1)) ≠ 0 := by
      have begins : τ.begins (n + 1) = τ.ends n + τ.delay (.ofNat (n + 1)) := rfl
      omega
    obtain ⟨r₂, last, pausing⟩ := (concluded.pending failed).pauses delayed
    exact (ticks.trans last).shows start (by omega) (pausing.rests early)
      ⟨congrArg Pose.beats pausing.pose, pausing.solo.state, congrArg Pose.notices pausing.pose⟩
  · obtain ⟨k, r₁, few, ticks, concluded⟩ := pending.reaches_verdict fails ended
    obtain ⟨last, rests⟩ := concluded.rests succeeded
    have connected : r₁.link.state = .connected := by
      rw [concluded.solo.state, succeeded]
      rfl
    exact (ticks.trans last).shows start (by omega) rests
      ⟨congrArg Pose.beats concluded.pose, connected, congrArg Pose.notices concluded.pose⟩

/-- A connector that refuses the first call, is silent on the second, and answers the third when the
safeguard time is just over. -/
def sampleAnswers : List Reaction :=
  [some (3, .error (.connectRefused "no")), none, some (15, .ok {})]

/-- A rehearsal of a persistent link with this connector. -/
def sampleProgram : Program where
  identity := ⟨⟨"node", 11210⟩, "bucket", ⟨"user", "secret"⟩, false⟩
  environment := .ofSettings { socketTimeout := 10, gracePeriod := 5 }
  stages := []
  sink := .unbounded [] false
  script := sampleAnswers.map Reaction.cast
  threshold := 0
  onLog := []
  onPublish := []
  patience := 20
  cues := []

theorem reconnect_timeline_sample : ∃ opened, sampleProgram.start = .ok opened ∧
    Shows [(0, .called), (3, .ended (.error (.connectRefused "no"))),
        (3, .told 0 (.error (.connectRefused "no"))), (3, .reloaded), (13, .called),
        (28, .ended (.error .safeguardTimeout)), (28, .reloaded), (48, .called),
        (63, .ended (.ok 0)), (63, .up)] .connected
      [.settled (.outcome (.error (.connectRefused "no")))]
      (((opened.withBackoff (10 * ·.toNat) []).play .connect).2.play (.advance 63)).2 := by
  have fails : ∀ i < 2, ∃ f, (sampleProgram.timeline (10 * ·.toNat) sampleAnswers).verdict i =
      .error f := by
    intro i lt
    match i, lt with
    | 0, _ => exact ⟨_, rfl⟩
    | 1, _ => exact ⟨_, rfl⟩
  exact ⟨_, rfl, (reconnect_timeline (p := sampleProgram) rfl rfl rfl rfl (10 * ·.toNat) rfl 2 63
    fails (by decide)).2.2.2 {} rfl (by decide)⟩

end NodeLink.Rehearsal
