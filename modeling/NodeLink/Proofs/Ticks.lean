import Mathlib.Data.List.Infix
import NodeLink.Rehearsal.Schedule

/-!
# Ticks of a rehearsal

How far a rehearsal gets is bounded by its patience. It goes on in *ticks*: a job takes its turn,
or, when no job can go on, the clock stops at the next deadline. A rehearsal takes as many ticks as
it has patience for. If they lead to where nothing happens before the clock is to stand still, it
ends up there; if not, it has at least come so far, since what was done is never taken back.
-/

set_option autoImplicit false

namespace NodeLink.Rehearsal

/-! ## What was done stays done -/

section Chronicle

variable (r : Rehearsal)

/-- What is not done by any of several small changes, all of them do not do. -/
theorem foldl_chronicle {β : Type} {f : Rehearsal → β → Rehearsal}
    (keeps : ∀ r b, (f r b).chronicle = r.chronicle) (l : List β) :
    (l.foldl f r).chronicle = r.chronicle :=
  List.foldlRecOn (motive := fun k => k.chronicle = r.chronicle) l f rfl
    fun k same b _ => (keeps k b).trans same

@[simp] theorem chronicle_enqueue (id : JobId) : (r.enqueue id).chronicle = r.chronicle := by
  unfold enqueue
  split <;> rfl

@[simp] theorem chronicle_enqueueJobs (p : Job → Bool) :
    (r.enqueueJobs p).chronicle = r.chronicle := by
  unfold enqueueJobs
  exact foldl_chronicle r (fun (r : Rehearsal) (e : JobId × Job) => chronicle_enqueue r e.1) _

@[simp] theorem chronicle_mapScene (f : Scene → Scene) :
    (r.mapScene f).chronicle = r.chronicle := rfl

@[simp] theorem chronicle_setTimer (id : JobId) (purpose : Purpose) (ms : Nat) :
    (r.setTimer id purpose ms).chronicle = r.chronicle := rfl

@[simp] theorem chronicle_observe (a : Act) : (observe r a).chronicle = r.chronicle := by
  cases a <;> simp [observe, reply, respond]

@[simp] theorem chronicle_dropEvents (es : List Event) :
    (r.dropEvents es).chronicle = r.chronicle := by
  have dropped : ∀ (r : Rehearsal) (q : Request), (r.dropRequest q).chronicle = r.chronicle :=
    fun _ _ => rfl
  exact foldl_chronicle r dropped _

@[simp] theorem chronicle_part : r.part.chronicle = r.chronicle := by
  unfold part
  split
  · rfl
  · exact chronicle_dropEvents _ _

/-- A link that is let act adds to the chronicle. -/
theorem act_grows {α : Type} (f : Link Scene → α × Link Scene) :
    r.chronicle <+: (r.act f).2.chronicle := by
  simp only [act, chronicle_part, tidy, foldl_chronicle _ chronicle_observe]
  exact List.prefix_append _ _

theorem take_grows (s : Link.Step Scene) : r.chronicle <+: (r.take s).chronicle := act_grows r _

@[simp] theorem chronicle_lose (c : ChannelId) : (r.lose c).chronicle = r.chronicle := by
  rw [lose, chronicle_enqueueJobs]
  rfl

theorem close_grows (id : JobId) (c : ChannelId) : r.chronicle <+: (r.close id c).chronicle := by
  unfold close
  split
  · exact List.prefix_refl _
  · extract_lets asked left
    have kept : left.chronicle = r.chronicle := by
      unfold left
      split <;> simp [asked]
    rw [← kept]
    split
    · exact List.prefix_refl _
    · split
      · exact List.prefix_refl _
      · exact take_grows left _

/-- Following the script adds to the chronicle. -/
theorem follow_grows (id : JobId) (cast : Cast) :
    ∀ r : Rehearsal, r.chronicle <+: (follow id cast r).chronicle := by
  induction cast with
  | channel setup =>
    intro r
    rw [follow]
    have taken := take_grows (r.mapScene fun s =>
      { s with channels := s.channels.push (.ofSetup setup) })
    exact taken _
  | fault f =>
    intro r
    rw [follow]
    exact take_grows r _
  | silence =>
    intro r
    rw [follow]
  | breakdown =>
    intro r
    rw [follow]
    exact take_grows r _
  | again index =>
    intro r
    rw [follow]
    split <;> exact take_grows _ _
  | later ms next ih =>
    intro r
    cases ms with
    | zero =>
      rw [follow]
      exact ih r
    | succ ms =>
      rw [follow, chronicle_setTimer]

theorem dialed_grows (id : JobId) : r.chronicle <+: (dialed id r).chronicle := by
  unfold dialed
  split
  · have said := follow_grows id (r.script.headD .silence) { r with script := r.script.tail }
    dsimp only
    split
    · split
      · exact said.trans (take_grows _ _)
      · exact said
    · exact said
  · exact List.prefix_refl _

theorem resume_grows (id : JobId) : r.chronicle <+: (resume id r).chronicle := by
  unfold resume
  extract_lets _ answered
  have grown : r.chronicle <+: answered.chronicle := by
    unfold answered
    split
    · split
      · exact follow_grows id _
          { r.dropTimers id .connector with casts := r.casts.filter (·.1 ≠ id) }
      · exact List.prefix_refl _
    · exact List.prefix_refl _
  split
  · exact grown.trans (take_grows answered _)
  · exact grown

theorem afterPause_grows (id : JobId) {next : Rehearsal → Rehearsal}
    (grows : ∀ r : Rehearsal, r.chronicle <+: (next r).chronicle) :
    r.chronicle <+: (r.afterPause id next).chronicle := by
  unfold afterPause
  split
  · exact grows (r.dropTimers id .pause)
  · exact List.prefix_refl _

/-- The turn of a job adds to the chronicle. -/
theorem turn_grows (id : JobId) : r.chronicle <+: (turn id r).chronicle := by
  have woken : ∀ r : Rehearsal, r.chronicle <+: (dialed id (r.take (.wake id))).chronicle :=
    fun r => (take_grows r _).trans (dialed_grows _ id)
  unfold turn
  split
  · exact List.prefix_refl _
  · exact (take_grows r _).trans (dialed_grows _ id)
  · exact resume_grows r id
  · split
    · exact woken r
    · split
      · exact afterPause_grows r id woken
      · exact List.prefix_refl _
  · exact (take_grows r _).trans (close_grows _ id _)
  · exact take_grows r _
  · exact (take_grows r _).trans (close_grows _ id _)
  · exact afterPause_grows r id fun r => take_grows r _
  · exact afterPause_grows r id fun r => take_grows r _
  · split
    · exact take_grows r _
    · exact List.prefix_refl _
  · exact take_grows r _
  · split
    · exact take_grows r _
    · exact List.prefix_refl _
  · exact take_grows r _

end Chronicle

/-- Jobs that take turns add to the chronicle. -/
theorem settle_grows (n : Nat) : ∀ r : Rehearsal, r.chronicle <+: (settle n r).chronicle := by
  induction n with
  | zero => exact fun r => List.prefix_refl _
  | succ n ih =>
    intro r
    rw [settle]
    split
    · exact List.prefix_refl _
    next id rest _ => exact (turn_grows { r with ready := rest } id).trans (ih _)

@[simp] theorem chronicle_ring (r : Rehearsal) : r.ring.chronicle = r.chronicle :=
  foldl_chronicle r (fun (r : Rehearsal) (t : Timer) => chronicle_enqueue r t.job) _

/-- The clock is set, and the timers that are due by then go off. -/
def ringAt (r : Rehearsal) (t : Nat) : Rehearsal := (r.mapScene fun s => { s with now := t }).ring

theorem ringAt_max (r : Rehearsal) (t : Nat) :
    (r.mapScene fun s => { s with now := Nat.max s.now t }).ring = r.ringAt (Nat.max r.now t) := rfl

@[simp] theorem chronicle_ringAt (r : Rehearsal) (t : Nat) :
    (r.ringAt t).chronicle = r.chronicle := by
  rw [ringAt, chronicle_ring]
  rfl

/-- While the clock runs, the jobs first take turns, and what follows adds to that. -/
theorem runUntil_grows (patience target n : Nat) : ∀ r : Rehearsal,
    (settle patience r).chronicle <+: (runUntil patience target (n + 1) r).chronicle := by
  induction n with
  | zero =>
    intro r
    rw [runUntil]
    split
    · split
      · rw [ringAt_max, runUntil, chronicle_ringAt]
      · exact List.prefix_refl _
    · exact List.prefix_refl _
  | succ n ih =>
    intro r
    rw [runUntil]
    split
    next t _ =>
      split
      · rw [ringAt_max]
        have settled := settle_grows patience
          ((settle patience r).ringAt (Nat.max (settle patience r).now t))
        rw [chronicle_ringAt] at settled
        exact settled.trans (ih _)
      · exact List.prefix_refl _
    next => exact List.prefix_refl _

/-! ## Ticks -/

/-- A rehearsal that lets its clock run to a time goes on by so many ticks. -/
inductive Ticks (target : Nat) : Nat → Rehearsal → Rehearsal → Prop
  | refl (r : Rehearsal) : Ticks target 0 r r
  /-- The first job in the queue takes its turn. -/
  | turn {n : Nat} {r r' : Rehearsal} {id : JobId} {rest : List JobId} (next : r.ready = id :: rest)
      (ticks : Ticks target n (turn id { r with ready := rest }) r') : Ticks target (n + 1) r r'
  /-- No job can go on, and the clock stops at the next deadline. -/
  | stop {n : Nat} {r r' : Rehearsal} {t : Nat} (idle : r.ready = [])
      (next : r.nextDeadline? = some t) (ahead : r.now < t) (within : t ≤ target)
      (ticks : Ticks target n (r.ringAt t) r') : Ticks target (n + 1) r r'

/-- Nothing happens until after a time. -/
structure Rests (target : Nat) (r : Rehearsal) : Prop where
  idle : r.ready = []
  later : ∀ t, r.nextDeadline? = some t → target < t

theorem Ticks.trans {target m n : Nat} {r r' r'' : Rehearsal} (first : Ticks target m r r')
    (second : Ticks target n r' r'') : Ticks target (m + n) r r'' := by
  induction first with
  | refl r => rwa [Nat.zero_add]
  | turn next _ ih =>
    rw [Nat.succ_add]
    exact .turn next (ih second)
  | stop idle next ahead within _ ih =>
    rw [Nat.succ_add]
    exact .stop idle next ahead within (ih second)

theorem settle_idle {r : Rehearsal} (idle : r.ready = []) (n : Nat) : settle n r = r := by
  cases n with
  | zero => rfl
  | succ n => rw [settle, idle]

/-- While the clock runs, a rehearsal comes to where ticks lead, if it has the patience. -/
theorem Ticks.runUntil {target n : Nat} {r r' : Rehearsal} (ticks : Ticks target n r r')
    {patience : Nat} (enough : n ≤ patience) :
    ∀ m stops r₀, n ≤ m → n ≤ stops → settle patience r₀ = settle m r →
      ∃ m' stops' r₁, settle patience r₁ = settle m' r' ∧
        Rehearsal.runUntil patience target (stops + 1) r₀ =
          Rehearsal.runUntil patience target (stops' + 1) r₁ := by
  induction ticks with
  | refl r => exact fun m stops r₀ _ _ settled => ⟨m, stops, r₀, settled, rfl⟩
  | @turn n r r' id rest next _ ih =>
    intro m stops r₀ turns stopping settled
    obtain ⟨m, rfl⟩ : ∃ k, m = k + 1 := ⟨m - 1, by omega⟩
    refine ih (by omega) m stops r₀ (by omega) (by omega) (settled.trans ?_)
    rw [settle, next]
  | @stop n r r' t idle next ahead within _ ih =>
    intro m stops r₀ turns stopping settled
    obtain ⟨stops, rfl⟩ : ∃ k, stops = k + 1 := ⟨stops - 1, by omega⟩
    rw [settle_idle idle] at settled
    have clock : Nat.max r.now t = t := Nat.max_eq_right (Nat.le_of_lt ahead)
    obtain ⟨m', stops', r₁, there, ran⟩ :=
      ih (by omega) patience stops (r.ringAt t) (by omega) (by omega) rfl
    refine ⟨m', stops', r₁, there, Eq.trans ?_ ran⟩
    rw [Rehearsal.runUntil, settled, next]
    dsimp only
    rw [if_pos within, ringAt_max, clock]

/-- No stop is made when the clock is not to move. -/
theorem Ticks.settle {n : Nat} {r r' : Rehearsal} (ticks : Ticks 0 n r r') :
    ∀ m, n ≤ m → ∃ m', Rehearsal.settle m r = Rehearsal.settle m' r' := by
  induction ticks with
  | refl r => exact fun m _ => ⟨m, rfl⟩
  | @turn n r r' id rest next _ ih =>
    intro m turns
    obtain ⟨m, rfl⟩ : ∃ k, m = k + 1 := ⟨m - 1, by omega⟩
    obtain ⟨m', there⟩ := ih m (by omega)
    refine ⟨m', Eq.trans ?_ there⟩
    rw [Rehearsal.settle, next]
  | stop idle next ahead within => omega

/-- A rehearsal whose clock is set going at nought does what ticks lead to. If nothing more happens
until the clock stands still, it does nothing else. -/
theorem Ticks.advance {target n : Nat} {r r' : Rehearsal} (ticks : Ticks target n r r')
    (start : r.now = 0) (enough : n < r.patience) :
    r'.chronicle <+: (r.advance target).chronicle ∧
      (Rests target r' → ∃ t, r.advance target = r'.mapScene fun s => { s with now := t }) := by
  obtain ⟨stops, patience⟩ : ∃ k, r.patience = k + 1 := ⟨r.patience - 1, by omega⟩
  by_cases still : target = 0
  · subst still
    obtain ⟨m, settled⟩ := ticks.settle r.patience (Nat.le_of_lt enough)
    have there : r.advance 0 = Rehearsal.settle m r' := settled
    rw [there]
    refine ⟨settle_grows m r', fun rests => ⟨r'.now, ?_⟩⟩
    rw [settle_idle rests.idle]
    rfl
  · obtain ⟨m, stops', r₁, settled, ran⟩ := ticks.runUntil (Nat.le_of_lt enough) r.patience stops r
      (Nat.le_of_lt enough) (by omega) rfl
    have there : r.advance target =
        (Rehearsal.runUntil r.patience target (stops' + 1) r₁).rest := by
      rw [← ran, ← patience, Rehearsal.advance, if_neg still, start, Nat.zero_add]
    rw [there]
    constructor
    · have grown := (settle_grows m r').trans (settled ▸ runUntil_grows r.patience target stops' r₁)
      exact grown.trans (settle_grows _ _)
    · intro rests
      refine ⟨target, ?_⟩
      rw [settle_idle rests.idle] at settled
      have stopped : Rehearsal.runUntil r.patience target (stops' + 1) r₁ =
          r'.mapScene fun s => { s with now := target } := by
        rw [Rehearsal.runUntil, settled]
        split
        next t next => exact if_neg (Nat.not_le.mpr (rests.later t next))
        next => rfl
      have idle : (r'.mapScene fun s => { s with now := target }).ready = [] := rests.idle
      rw [stopped, rest, settle_idle idle]

end NodeLink.Rehearsal
