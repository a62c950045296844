import NodeLink.Proofs.Core

/-!
# One chain at a time

A connect chain is the attempts and retries that carry one epoch. The chain of the current epoch
is the *live* one. This module shows that between steps a live chain has one pending job while the
link is connecting, and none while it is connected, so that a persistent link which nobody
disconnected is never left with neither a channel nor a job that works on one.

Epochs are counted modulo 2^64. The law is therefore claimed for links that have started fewer
chains than that: from then on, an attempt of a chain long gone could pass for a live one.
-/

set_option autoImplicit false

namespace NodeLink

open Lifecycle (State)

namespace Link

variable {σ : Type} {o : Surroundings σ}

/-! ## The law of chains -/

/-- How many jobs work on the current chain, the one in hand included. -/
def Core.workers (c : Core) (hand : Option Hand) : Nat :=
  c.pending.count c.epoch + if hand.map Hand.epoch = some c.epoch then 1 else 0

/-- What the state of a link tells about its channel and about the current chain. A link whose
backoff may break down can be left without a worker, as long as nobody disconnected it. -/
def Core.Fits (loose : Prop) (hand : Option Hand) (c : Core) : Prop :=
  match c.state with
  | .disconnected => c.channel = none ∧ (c.disconnected = false → c.pending.count c.epoch = 0 ∧
      (c.transient = false → c.chains = 0 ∨ hand ≠ none ∨ loose))
  | .connecting => c.channel = none ∧ (c.workers hand = 1 ∨ loose ∧ c.disconnected = false)
  | .connected => c.channel ≠ none ∧ c.workers hand = 0 ∧ c.disconnected = false
  | .disconnecting => c.workers hand = 0 ∧ c.disconnected = true ∧ c.teardowns ≠ 0

/-- The law of chains. -/
structure Sound (loose : Prop) (hand : Option Hand) (c : Core) : Prop where
  /-- The epoch has not wrapped round yet. -/
  counted : c.epoch.toNat = c.chains
  /-- No job is ahead of its time. -/
  past : ∀ epoch ∈ c.pending, epoch.toNat ≤ c.chains
  handPast : ∀ h ∈ hand, h.epoch.toNat ≤ c.chains
  single : c.workers hand ≤ 1
  /-- A chain in hand, or the one that replaced it, is worked on. -/
  inHand : hand ≠ none → c.workers hand = 1 ∧ c.transient = false ∧
    (c.disconnected = true → c.state = .disconnected)
  fits : c.Fits loose hand
  torn : c.teardowns ≠ 0 → c.disconnected = true

namespace Sound

variable {loose : Prop} {hand : Option Hand} {c : Core}

/-- A new chain is the only one of its epoch. -/
theorem setOut (sound : Sound loose hand c) (few : c.chains + 1 < UInt64.size)
    (wanted : c.disconnected = false) : Sound loose hand c.drop.setOut := by
  have counted : (c.epoch + 1).toNat = c.chains + 1 := by
    rw [UInt64.toNat_add, sound.counted]
    exact Nat.mod_eq_of_lt few
  have noJob : c.pending.count (c.epoch + 1) = 0 := by
    rw [List.count_eq_zero]
    intro mem
    have := sound.past _ mem
    omega
  have notInHand : hand.map Hand.epoch ≠ some (c.epoch + 1) := by
    intro held
    obtain ⟨h, hh, same⟩ := Option.map_eq_some_iff.mp held
    have := sound.handPast h hh
    rw [same] at this
    omega
  have one : c.drop.setOut.workers hand = 1 := by
    simp [Core.workers, Core.setOut, Core.drop, noJob, notInHand]
  refine ⟨counted, ?_, ?_, Nat.le_of_eq one, fun held => ?_, ⟨rfl, .inl one⟩, sound.torn⟩
  · intro epoch mem
    rcases List.mem_append.mp mem with mem | mem
    · exact Nat.le_succ_of_le (sound.past epoch mem)
    · rw [List.mem_singleton.mp mem]
      exact Nat.le_of_eq counted
  · intro h hh
    exact Nat.le_succ_of_le (sound.handPast h hh)
  · refine ⟨one, (sound.inHand held).2.1, ?_⟩
    intro barred
    exact absurd (wanted.symm.trans barred) (by decide)

/-- A link that was to be disconnected may drop its channel at any time, also when a teardown
ends. -/
theorem drop (sound : Sound loose hand c) (barred : c.disconnected = true) (n : Nat) :
    Sound loose hand { c with state := .disconnected, channel := none, teardowns := n } where
  counted := sound.counted
  past := sound.past
  handPast := sound.handPast
  single := sound.single
  inHand held := ⟨(sound.inHand held).1, (sound.inHand held).2.1, fun _ => rfl⟩
  fits := ⟨rfl, fun wanted => absurd (barred.symm.trans wanted) (by decide)⟩
  torn _ := barred

theorem hangUp (sound : Sound loose hand c) : Sound loose hand c.hangUp := by
  have fits := sound.fits
  unfold Core.hangUp
  unfold Core.Fits at fits
  cases h : c.state with
  | disconnected =>
    simp only [h] at fits ⊢
    exact ⟨sound.counted, sound.past, sound.handPast, sound.single,
      fun held => ⟨(sound.inHand held).1, (sound.inHand held).2.1, fun _ => rfl⟩,
      ⟨fits.1, fun wanted => by cases wanted⟩, fun _ => rfl⟩
  | disconnecting =>
    simp only [h] at fits ⊢
    obtain ⟨idle, barred, torn⟩ := fits
    refine ⟨sound.counted, sound.past, sound.handPast, sound.single, fun held => ?_,
      ⟨idle, rfl, torn⟩, fun _ => rfl⟩
    have := (sound.inHand held).2.2 barred
    rw [h] at this
    cases this
  | connecting =>
    exact ⟨sound.counted, sound.past, sound.handPast, sound.single,
      fun held => ⟨(sound.inHand held).1, (sound.inHand held).2.1, fun _ => rfl⟩,
      ⟨rfl, fun wanted => by cases wanted⟩, fun _ => rfl⟩
  | connected =>
    simp only [h] at fits ⊢
    obtain ⟨-, idle, -⟩ := fits
    refine ⟨sound.counted, sound.past, sound.handPast, sound.single, fun held => ?_,
      ⟨idle, rfl, Nat.succ_ne_zero _⟩, fun _ => rfl⟩
    have busy : c.workers hand = 1 := (sound.inHand held).1
    omega

section Leaving

variable {before after : List UInt64} {epoch : UInt64}

/-- The jobs that stay when one leaves are not ahead of their time either. -/
theorem past_of_leaving (sound : Sound loose hand c)
    (pending : c.pending = before ++ epoch :: after) :
    ∀ epoch ∈ before ++ after, epoch.toNat ≤ c.chains := by
  intro epoch mem
  apply sound.past epoch
  simp only [pending, List.mem_append, List.mem_cons] at mem ⊢
  exact mem.imp_right .inr

/-- A job of an earlier chain may leave at any time. -/
theorem stale (sound : Sound loose hand c) (pending : c.pending = before ++ epoch :: after)
    (old : epoch ≠ c.epoch) : Sound loose hand { c with pending := before ++ after } := by
  have same : c.pending.count c.epoch = (before ++ after).count c.epoch := by
    simp [pending, old]
  have workers : Core.workers { c with pending := before ++ after } hand = c.workers hand := by
    simp only [Core.workers, same]
  have fits := sound.fits
  simp only [Core.Fits, same] at fits
  refine ⟨sound.counted, sound.past_of_leaving pending, sound.handPast, workers ▸ sound.single,
    workers ▸ sound.inHand, ?_, sound.torn⟩
  simp only [Core.Fits, workers]
  exact fits

/-- Where a live job is pending, it is the only one, and there is no channel. -/
theorem of_live (sound : Sound loose none c) (pending : c.pending = before ++ c.epoch :: after) :
    (before ++ after).count c.epoch = 0 ∧ c.channel = none ∧
      (c.state = .connecting ∨ c.state = .disconnected ∧ c.disconnected = true) := by
  have workers : c.workers none = (before ++ after).count c.epoch + 1 := by
    simp [Core.workers, pending]
    omega
  have single := sound.single
  have fits := sound.fits
  refine ⟨by omega, ?_⟩
  unfold Core.Fits at fits
  cases h : c.state with
  | disconnected =>
    simp only [h] at fits
    refine ⟨fits.1, .inr ⟨rfl, ?_⟩⟩
    cases barred : c.disconnected with
    | true => rfl
    | false =>
      have none : c.pending.count c.epoch = 0 := (fits.2 barred).1
      simp [pending] at none
  | connecting =>
    simp only [h] at fits
    exact ⟨fits.1, .inl rfl⟩
  | connected =>
    simp only [h] at fits
    omega
  | disconnecting =>
    simp only [h] at fits
    omega

/-- When a live job leaves, its link may go to any state that fits without a live job. -/
theorem left (sound : Sound loose none c) (pending : c.pending = before ++ c.epoch :: after)
    {state : State} {channel : Option ChannelId}
    (fits : Core.Fits loose none { c with state, channel, pending := before ++ after }) :
    Sound loose none { c with state, channel, pending := before ++ after } := by
  obtain ⟨none, -⟩ := sound.of_live pending
  refine ⟨sound.counted, sound.past_of_leaving pending, by simp, ?_, fun held => absurd rfl held,
    fits, sound.torn⟩
  simp [Core.workers, none]

/-- When a live job leaves for its retry, its chain is in hand. -/
theorem takeUp (sound : Sound loose none c) (pending : c.pending = before ++ c.epoch :: after)
    (persistent : c.transient = false) (wanted : c.disconnected = false) {state : State}
    (fits : state = .connecting ∨ state = .disconnected) (ticket : Option TicketId) :
    Sound loose (some ⟨c.epoch, ticket⟩) { c with state, pending := before ++ after } := by
  obtain ⟨none, vacant, -⟩ := sound.of_live pending
  have one : Core.workers { c with state, pending := before ++ after }
      (some ⟨c.epoch, ticket⟩) = 1 := by
    simp [Core.workers, none]
  refine ⟨sound.counted, sound.past_of_leaving pending, ?_, Nat.le_of_eq one,
    fun _ => ⟨one, persistent, ?_⟩, ?_, sound.torn⟩
  · rintro h ⟨⟩
    exact Nat.le_of_eq sound.counted
  · intro barred
    rw [wanted] at barred
    cases barred
  · rcases fits with rfl | rfl
    · exact ⟨vacant, .inl one⟩
    · exact ⟨vacant, fun _ => ⟨none, fun _ => .inr (.inl (Option.some_ne_none _))⟩⟩

end Leaving

/-- While a chain is in hand, there is no channel and no teardown under way. -/
theorem of_inHand {h : Hand} (sound : Sound loose (some h) c) : c.channel = none ∧
    (c.state = .disconnected ∨ c.state = .connecting ∧ c.disconnected = false) := by
  obtain ⟨one, -, barred⟩ := sound.inHand (Option.some_ne_none _)
  have fits := sound.fits
  unfold Core.Fits at fits
  cases hs : c.state with
  | disconnected =>
    simp only [hs] at fits
    exact ⟨fits.1, .inl rfl⟩
  | connecting =>
    simp only [hs] at fits
    refine ⟨fits.1, .inr ⟨rfl, ?_⟩⟩
    cases hd : c.disconnected with
    | false => rfl
    | true =>
      have := barred hd
      rw [hs] at this
      cases this
  | connected =>
    simp only [hs] at fits
    omega
  | disconnecting =>
    simp only [hs] at fits
    omega

/-- The chain in hand becomes a job again, even if it is no longer the current one. -/
theorem plan {h : Hand} (sound : Sound loose (some h) c) :
    Sound loose none { c with state := .connecting, pending := c.pending ++ [h.epoch] } := by
  have one : Core.workers { c with state := .connecting, pending := c.pending ++ [h.epoch] } none
      = 1 := by
    rw [← (sound.inHand (Option.some_ne_none _)).1]
    by_cases same : h.epoch = c.epoch <;> simp [Core.workers, same]
  refine ⟨sound.counted, ?_, by simp, Nat.le_of_eq one, fun held => absurd rfl held,
    ⟨sound.of_inHand.1, .inl one⟩, sound.torn⟩
  intro epoch mem
  rcases List.mem_append.mp mem with mem | mem
  · exact sound.past epoch mem
  · rw [List.mem_singleton.mp mem]
    exact sound.handPast h rfl

/-- The chain in hand is lost when the backoff breaks down. -/
theorem breakDown {h : Hand} (sound : Sound loose (some h) c) (broken : loose) :
    Sound loose none c := by
  obtain ⟨vacant, fits⟩ := sound.of_inHand
  have few : c.workers none ≤ c.workers (some h) := by simp [Core.workers]
  refine ⟨sound.counted, sound.past, by simp, Nat.le_trans few sound.single,
    fun held => absurd rfl held, ?_, sound.torn⟩
  have before := sound.fits
  unfold Core.Fits at before ⊢
  rcases fits with down | ⟨connecting, wanted⟩
  · simp only [down] at before ⊢
    exact ⟨vacant, fun wanted => ⟨(before.2 wanted).1, fun _ => .inr (.inr broken)⟩⟩
  · simp only [connecting]
    exact ⟨vacant, .inr ⟨broken, wanted⟩⟩

/-! ## Every run keeps the law -/

variable {l l' : Link σ}

theorem stroke (h : Stroke l l') (few : l'.chains < UInt64.size) (sound : Sound loose hand l.core) :
    Sound loose hand l'.core := by
  rw [← chains_core] at few
  rcases h.core with same | ⟨wanted, down, same⟩ | ⟨wanted, -, same⟩ | ⟨barred, same⟩ | same
  · rw [same]
    exact sound
  · have down : l.core.state = .disconnected := down
    have vacant : l.core.channel = none := by
      have fits := sound.fits
      simp only [Core.Fits, down] at fits
      exact fits.1
    have dropped : l.core.drop = l.core := by rw [Core.drop, ← down, ← vacant]
    rw [same] at few
    rw [same, ← dropped]
    exact sound.setOut few wanted
  · rw [same] at few ⊢
    exact sound.setOut few wanted
  · rw [same]
    exact sound.drop barred _
  · rw [same]
    exact sound.hangUp

/-- An attempt of the current chain finds no channel that it could collide with. -/
theorem not_connected (sound : Sound loose none l.core)
    (numbered : Numbered l) {id : JobId} {ticket : Option TicketId} {bootstrap dialing : Bool}
    {epoch : UInt64} (job : l.job? id = some (.attempt ticket bootstrap epoch dialing))
    (current : l.epoch = epoch) : l.state ≠ .connected := by
  intro connected
  subst current
  obtain ⟨before, after, pending, -⟩ := core_finish_chain numbered job rfl
  have connected : l.core.state = .connected := connected
  obtain ⟨-, -, connecting | ⟨down, -⟩⟩ := sound.of_live pending
  · exact absurd (connected.symm.trans connecting) (by decide)
  · exact absurd (connected.symm.trans down) (by decide)

theorem turn {s : Step σ} (h : Turn s l l') (numbered : Numbered l)
    (sound : Sound loose none l.core) : Sound loose none l'.core := by
  cases h with
  | dialed _ job | redialed _ job | tearing _ job | cleaning _ job =>
    rw [core_note _ rfl, core_become numbered job]
    · exact sound
    · rfl
    · rfl
  | abandoned _ job current barred =>
    subst current
    obtain ⟨before, after, pending, left⟩ := core_finish_chain numbered job rfl
    obtain ⟨-, vacant, fits⟩ := sound.of_live pending
    have hung : Core.hangUp { l.core with pending := before ++ after } =
        { l.core with state := .disconnected, channel := none, pending := before ++ after } := by
      have barred : l.core.disconnected = true := barred
      rcases fits with connecting | ⟨down, -⟩
      · simp only [Core.hangUp, connecting, barred]
      · simp only [Core.hangUp, down, barred, vacant]
    rw [core_hangUp, left, hung]
    refine sound.left pending ⟨rfl, fun wanted => ?_⟩
    exact absurd (barred.symm.trans wanted) (by decide)
  | toreDown _ _ job =>
    obtain ⟨n, torn, left⟩ := core_finish_teardown numbered job rfl
    rw [settle, core_note _ rfl, core_drop, left]
    exact sound.drop (sound.torn (by omega)) n
  | @ended _ _ _ j job ending =>
    cases j with
    | attempt | teardown => exact ending.elim
    | retry delay epoch =>
      obtain ⟨before, after, pending, left⟩ := core_finish_chain numbered job rfl
      rw [left]
      exact sound.stale pending ending
    | cleanup | watch | report | rejection =>
      rw [core_finish_other numbered job rfl rfl]
      exact sound
  | turnedAway _ job stale =>
    obtain ⟨before, after, pending, left⟩ := core_finish_chain numbered job rfl
    rw [core_turnAway, core_take, left]
    exact sound.stale pending (Ne.symm stale)
  | @undone _ id _ _ _ job current down answer =>
    subst current
    obtain ⟨before, after, pending, left⟩ := core_finish_chain numbered job rfl
    obtain ⟨-, vacant, fits⟩ := sound.of_live pending
    have vacant : ((l.take id answer).yield answer).channel = none := by
      have vacant : (l.take id answer).channel = none := vacant
      cases answer <;> simp [yield, vacant]
    have barred : l.core.disconnected = true := by
      rcases fits with connecting | ⟨-, barred⟩
      · have connecting : l.state = .connecting := connecting
        rw [connecting] at down
        exact down.resolve_left (by decide)
      · exact barred
    rw [core_undo, core_take, left, vacant]
    refine sound.left pending ⟨rfl, fun wanted => ?_⟩
    exact absurd (barred.symm.trans wanted) (by decide)
  | succeeded _ job current wanted connecting c =>
    subst current
    obtain ⟨before, after, pending, left⟩ := core_finish_chain numbered job rfl
    obtain ⟨idle, -⟩ := sound.of_live pending
    rw [core_putToUse, core_take, left]
    refine sound.left pending ⟨Option.some_ne_none c, ?_, wanted⟩
    simp [Core.workers, idle]
  | collided _ job current _ connected =>
    exact absurd connected (sound.not_connected numbered job current)
  | gaveUp _ job current wanted up transient =>
    subst current
    obtain ⟨before, after, pending, left⟩ := core_finish_chain numbered job rfl
    obtain ⟨idle, vacant, -⟩ := sound.of_live pending
    rw [core_giveUp, core_take, left]
    refine sound.left pending ⟨vacant, fun _ => ⟨idle, fun persistent => ?_⟩⟩
    exact absurd (transient.symm.trans persistent) (by decide)

end Sound

/-- The law of chains, together with the names of the jobs it takes apart. It holds as long as
fewer than 2^64 chains were started. -/
theorem sound_kept (o : Surroundings σ) : Kept o fun hand l =>
    Numbered l ∧ (l.chains < UInt64.size → Sound (¬ o.Firm) hand l.core) where
  stroke h holds := by
    refine ⟨holds.1.stroke h, fun few => ?_⟩
    have before := holds.2 (Nat.lt_of_le_of_lt (chains_le h.journal) few)
    exact before.stroke h few
  turn h holds := by
    refine ⟨holds.1.turn h, fun few => ?_⟩
    have before := holds.2 (Nat.lt_of_le_of_lt (chains_le h.journal) few)
    exact before.turn h holds.1
  takeUp {l id ticket bootstrap epoch} cause up holds := by
    refine ⟨(numbered_kept o).takeUp cause up holds.1, fun few => ?_⟩
    obtain rfl := up.current
    obtain ⟨before, after, pending, left⟩ := core_finish_chain holds.1 up.job rfl
    have chains : ((l.take id (.error cause)).takeUp ticket bootstrap cause).consult.chains
        = l.chains := by
      rw [← chains_core, core_takeUp, core_take, left]
      rfl
    have sound := holds.2 (chains ▸ few)
    have connecting : l.state = .connecting := by
      obtain ⟨-, -, connecting | ⟨-, barred⟩⟩ := sound.of_live pending
      · exact connecting
      · exact absurd (up.wanted.symm.trans barred) (by decide)
    rw [core_takeUp, core_take, left, state_take, connecting]
    refine sound.takeUp pending up.persistent up.wanted ?_ _
    cases cause.isTerminal with
    | true => exact .inr rfl
    | false => exact .inl rfl
  plan {hand l} delay holds := by
    refine ⟨(numbered_kept o).plan delay holds.1, fun few => ?_⟩
    have chains : (l.plan delay hand.epoch hand.ticket).chains = l.chains := by
      rw [← chains_core, core_plan]
      rfl
    rw [core_plan]
    exact (holds.2 (chains ▸ few)).plan
  breakDown {hand l} loose holds := by
    refine ⟨(numbered_kept o).breakDown loose holds.1, fun few => ?_⟩
    have same := core_settle? l hand.ticket (.error .dropped)
    have chains : (l.settle? hand.ticket (.error .dropped)).chains = l.chains :=
      congrArg Core.chains same
    rw [same]
    exact (holds.2 (chains ▸ few)).breakDown loose

/-! ## Links that set out -/

/-- A link that is not disconnected has started a chain, and so has one that was asked to and
was never disconnected. -/
structure Begun (hand : Option Hand) (l : Link σ) : Prop where
  up : l.state ≠ .disconnected ∨ hand ≠ none → l.chains ≠ 0
  asked : .called .connect ∈ l.journal → l.disconnected = false → l.chains ≠ 0

theorem state_drop (l : Link σ) : l.drop.state = .disconnected := by
  rw [drop_eq]
  exact Lifecycle.Machine.current_transition _ _

theorem state_setOut (l : Link σ) (bootstrap : Bool) :
    (l.setOut bootstrap).state = .connecting := by
  rw [setOut_eq]
  exact Lifecycle.Machine.current_transition _ _

theorem state_undo (l : Link σ) (ticket : Option TicketId) (answer : Except Fault ChannelId) :
    (l.undo ticket answer).state = .disconnected := by
  rw [undo_eq]
  exact Lifecycle.Machine.current_transition _ _

theorem state_putToUse (l : Link σ) (ticket : Option TicketId) (c : ChannelId) :
    (l.putToUse ticket c).state = .connected := by
  rw [putToUse_eq]
  exact Lifecycle.Machine.current_transition _ _

theorem state_giveUp (l : Link σ) (ticket : Option TicketId) (cause : Fault) :
    (l.giveUp ticket cause).state = .disconnected := by
  rw [giveUp_eq]
  exact Lifecycle.Machine.current_transition _ _

theorem state_plan (l : Link σ) (delay : Nat) (epoch : UInt64) (ticket : Option TicketId) :
    (l.plan delay epoch ticket).state = .connecting := by
  rw [plan_eq]
  exact Lifecycle.Machine.current_transition _ _

theorem state_hangUp {l : Link σ} (down : l.state = .disconnected) :
    l.hangUp.state = .disconnected := by
  simp only [hangUp, down]
  exact down

/-- No turn brings a link up that is disconnected. -/
theorem Turn.state_ne {s : Step σ} {l l' : Link σ} (h : Turn s l l')
    (up : l'.state ≠ .disconnected) : l.state ≠ .disconnected := by
  intro down
  apply up
  cases h with
  | dialed | redialed | tearing | cleaning | ended => exact down
  | abandoned => exact state_hangUp down
  | toreDown => exact state_drop _
  | turnedAway => rw [turnAway_eq]; exact down
  | undone | collided => exact state_undo ..
  | succeeded _ _ _ _ connecting => exact absurd (connecting.symm.trans down) (by decide)
  | gaveUp => exact state_giveUp ..

namespace Begun

variable {hand : Option Hand} {l l' : Link σ}

theorem new (identity : Identity) (environment : Environment) (outside : σ) :
    Begun none (Link.new identity environment outside) where
  up h := absurd rfl (h.resolve_right fun held => held rfl)
  asked called _ := absurd called List.not_mem_nil

/-- A link that has begun need not begin again. -/
theorem later (begun : Begun hand l) (grown : l.chains ≤ l'.chains)
    (up : l'.state ≠ .disconnected → l.state ≠ .disconnected)
    (asked : .called .connect ∈ l'.journal → l'.disconnected = false →
      .called .connect ∈ l.journal ∧ l.disconnected = false) : Begun hand l' where
  up h := by
    have := begun.up (h.imp_left up)
    omega
  asked called wanted := by
    obtain ⟨called, wanted⟩ := asked called wanted
    have := begun.asked called wanted
    omega

theorem stroke (h : Stroke l l') (begun : Begun hand l) : Begun hand l' := by
  have grown := chains_le h.journal
  cases h with
  | drifted | counted | marked => exact ⟨begun.up, begun.asked⟩
  | attended current =>
    exact begun.later grown (fun up down => up (current.trans down)) fun called wanted =>
      ⟨called, wanted⟩
  | @noted a plain =>
    have other : Act.called .connect ≠ a := by
      rintro rfl
      exact plain.1 rfl
    exact begun.later grown id fun called wanted => ⟨by simpa [note, other] using called, wanted⟩
  | returned | spawned =>
    exact begun.later grown id fun called wanted =>
      ⟨by simpa [note, spawn] using called, wanted⟩
  | ignored h =>
    refine ⟨fun up => ?_, fun _ wanted => ?_⟩
    · have := begun.up up
      omega
    · have := begun.up (.inl (h.resolve_left (by simpa [note] using wanted)))
      omega
  | opened | restarted =>
    have first := chains_setOut (σ := σ)
    exact ⟨fun _ => by rw [first]; omega, fun _ _ => by rw [first]; omega⟩
  | dropped barred =>
    refine begun.later grown (fun up => absurd (state_drop l) up) fun _ wanted => ?_
    rw [drop_eq] at wanted
    exact absurd (barred.symm.trans wanted) (by decide)
  | hungUp =>
    refine begun.later grown (fun up down => up (state_hangUp down)) fun _ wanted => ?_
    exact absurd ((disconnected_hangUp _).symm.trans wanted) (by decide)

theorem turn {s : Step σ} (h : Turn s l l') (begun : Begun none l) : Begun none l' :=
  begun.later (chains_le h.journal) h.state_ne fun called wanted =>
    ⟨(h.mem_journal rfl).mp called, h.disconnected.symm.trans wanted⟩

end Begun

theorem begun_kept (o : Surroundings σ) : Kept o fun hand l => Begun hand l where
  stroke := Begun.stroke
  turn := Begun.turn
  takeUp {l id ticket bootstrap epoch} cause up begun := by
    have grown : l.chains ≤
        ((l.take id (.error cause)).takeUp ticket bootstrap cause).consult.chains := by
      refine chains_le ?_
      simp only [consult, takeUp_eq, take, note, finish, List.append_assoc]
      exact List.prefix_append _ _
    have first : l.chains ≠ 0 := by
      refine begun.up (.inl fun down => ?_)
      have := up.up
      rw [down] at this
      cases this
    exact ⟨fun _ => by omega, fun _ _ => by omega⟩
  plan {hand l} delay begun := by
    have same : (l.plan delay hand.epoch hand.ticket).chains = l.chains := by
      rw [← chains_core, core_plan]
      rfl
    have first := begun.up (.inr (Option.some_ne_none _))
    exact ⟨fun _ => by omega, fun _ _ => by omega⟩
  breakDown {hand l} _ begun := by
    have grown : l.chains ≤ (l.settle? hand.ticket (.error .dropped)).chains := by
      refine chains_le ?_
      rw [settle?_eq]
      exact List.prefix_append _ _
    have first := begun.up (.inr (Option.some_ne_none _))
    exact ⟨fun _ => by omega, fun _ _ => by omega⟩

/-! ## No chain is lost, and none is doubled -/

/-- A link that has not done anything keeps the law of chains. -/
theorem Sound.new (loose : Prop) (identity : Identity) (environment : Environment) (outside : σ) :
    Sound loose none (Link.new identity environment outside).core where
  counted := rfl
  past _ mem := absurd mem List.not_mem_nil
  handPast _ mem := absurd mem (by simp)
  single := Nat.zero_le _
  inHand held := absurd rfl held
  fits := ⟨rfl, fun _ => ⟨rfl, fun _ => .inl rfl⟩⟩
  torn h := absurd rfl h

/-- The law of chains after a run. -/
theorem sound_run (quiet : o.Quiet) (depth : Nat) {steps : List (Step σ)}
    (ordinary : ∀ s ∈ steps, s.Ordinary) (identity : Identity) (environment : Environment)
    (outside : σ)
    (few : (run o depth steps (.new identity environment outside)).chains < UInt64.size) :
    Sound (¬ o.Firm) none (run o depth steps (.new identity environment outside)).core := by
  have start : Numbered (Link.new identity environment outside) ∧
      ((Link.new identity environment outside).chains < UInt64.size →
        Sound (¬ o.Firm) none (Link.new identity environment outside).core) :=
    ⟨.new identity environment outside, fun _ => .new _ identity environment outside⟩
  exact ((sound_kept o).run quiet depth ordinary start).2 few

/-- After every run, at most one attempt or retry of the current epoch is pending: exactly one
while the link is connecting, none while it is connected, and then a channel is installed. A
persistent link that was asked to connect, and never to disconnect, is one or the other. -/
theorem one_live_chain (quiet : o.Quiet) (firm : o.Firm) (depth : Nat) {steps : List (Step σ)}
    (ordinary : ∀ s ∈ steps, s.Ordinary) (identity : Identity) (environment : Environment)
    (outside : σ) {l : Link σ} (reached : l = run o depth steps (.new identity environment outside))
    (few : l.chains < UInt64.size) :
    l.live.length ≤ 1 ∧
      (l.state = .connecting → l.live.length = 1) ∧
      (l.state = .connected → l.live = [] ∧ l.channel.isSome) ∧
      (identity.transient = false → .called .disconnect ∉ l.journal →
        .called .connect ∈ l.journal → l.state = .connecting ∨ l.state = .connected) := by
  subst reached
  have sound := sound_run quiet depth ordinary identity environment outside few
  have begun : Begun none (run o depth steps (.new identity environment outside)) :=
    (begun_kept o).run quiet depth ordinary (.new identity environment outside)
  have barred := (barred_kept o).run quiet depth ordinary (l := .new identity environment outside)
    (by simp [Link.new])
  have same := (identity_kept o identity).run quiet depth ordinary
    (l := .new identity environment outside) rfl
  generalize run o depth steps (.new identity environment outside) = l at *
  have workers : l.core.workers none = l.live.length := (length_live l).symm
  refine ⟨workers ▸ sound.single, fun connecting => ?_, fun connected => ?_, ?_⟩
  · have fits := sound.fits
    have connecting : l.core.state = .connecting := connecting
    simp only [Core.Fits, connecting] at fits
    obtain ⟨-, one | ⟨loose, -⟩⟩ := fits
    · exact workers ▸ one
    · exact absurd firm loose
  · have fits := sound.fits
    have connected : l.core.state = .connected := connected
    simp only [Core.Fits, connected] at fits
    obtain ⟨installed, idle, -⟩ := fits
    exact ⟨List.length_eq_zero_iff.mp (workers ▸ idle), Option.isSome_iff_ne_none.mpr installed⟩
  · intro persistent notBarred called
    have wanted : l.disconnected = false := by
      rw [← Bool.not_eq_true, barred]
      exact notBarred
    have fits := sound.fits
    unfold Core.Fits at fits
    cases h : l.state with
    | connecting => exact .inl rfl
    | connected => exact .inr rfl
    | disconnecting =>
      have h : l.core.state = .disconnecting := h
      simp only [h] at fits
      exact absurd (wanted.symm.trans fits.2.1) (by decide)
    | disconnected =>
      have h : l.core.state = .disconnected := h
      simp only [h] at fits
      obtain ⟨-, idle⟩ := fits
      have persistent := (congrArg Identity.transient same).trans persistent
      rcases (idle wanted).2 persistent with none | inHand | loose
      · exact absurd none (begun.asked called wanted)
      · exact absurd rfl inHand
      · exact absurd firm loose

/-- A persistent link whose first attempt failed, and which is asked to connect again whenever it
publishes something, has one live retry. -/
theorem one_live_chain_retrying :
    let steps : List (Step Unit) := [.call .connect, .start 0, .answer 0 (.error .notConnected)]
    let l := run .insistent 2 steps .sample
    l.chains < UInt64.size ∧ .called .disconnect ∉ l.journal ∧ .called .connect ∈ l.journal ∧
      l.live.length ≤ 1 ∧ (l.state = .connecting ∨ l.state = .connected) := by
  intro steps l
  have ordinary : ∀ s ∈ steps, s.Ordinary := by simp [steps, Step.Ordinary]
  have few : l.chains < UInt64.size := by decide
  have wanted : .called .disconnect ∉ l.journal := by decide
  have called : .called .connect ∈ l.journal := by decide
  obtain ⟨single, -, -, up⟩ := one_live_chain Surroundings.insistent_quiet
    Surroundings.insistent_firm 2 ordinary _ _ () rfl few
  exact ⟨few, wanted, called, single, up rfl wanted called⟩

end Link

end NodeLink
