import NodeLink.Proofs.Disconnect

/-!
# What becomes of a channel

A channel is delivered by an attempt. It is put into the slot, or its closing is ordered at once.
From the slot it is cleared sooner or later, and then its closing is ordered if a disconnect was
asked for, and not otherwise. The *tally* of a channel counts these four acts, and the laws of this
module compare the counts.

A closing is ordered by creating a job for it, which asks the channel to close when it is taken up.
That it asks once is the law of closings.
-/

set_option autoImplicit false

namespace NodeLink

open Lifecycle (State)

/-- Whether an act orders the closing of a channel. -/
def Act.orders (c : ChannelId) : Act → Bool
  | .spawned _ j => j.closes c
  | _ => false

/-- Whether an act puts a channel into the slot. -/
def Act.installs (c : ChannelId) : Act → Bool
  | .installed c' => c' = c
  | _ => false

/-- Whether an act takes a channel out of the slot. -/
def Act.clears (c : ChannelId) : Act → Bool
  | .cleared c' => c' = c
  | _ => false

/-- The channel that an act delivers. -/
def Act.delivery? : Act → Option ChannelId
  | .answered _ (.ok c) => some c
  | _ => none

/-- How often a channel was delivered, its closing was ordered, and it was put into the slot and
taken out of it. -/
@[ext]
structure Tally where
  delivered : Nat
  ordered : Nat
  installed : Nat
  cleared : Nat

namespace Tally

instance : Zero Tally := ⟨⟨0, 0, 0, 0⟩⟩

instance : Add Tally := ⟨fun t u => ⟨t.delivered + u.delivered, t.ordered + u.ordered,
  t.installed + u.installed, t.cleared + u.cleared⟩⟩

variable (t u : Tally)

@[simp] theorem delivered_zero : (0 : Tally).delivered = 0 := rfl
@[simp] theorem ordered_zero : (0 : Tally).ordered = 0 := rfl
@[simp] theorem installed_zero : (0 : Tally).installed = 0 := rfl
@[simp] theorem cleared_zero : (0 : Tally).cleared = 0 := rfl

@[simp] theorem delivered_add : (t + u).delivered = t.delivered + u.delivered := rfl
@[simp] theorem ordered_add : (t + u).ordered = t.ordered + u.ordered := rfl
@[simp] theorem installed_add : (t + u).installed = t.installed + u.installed := rfl
@[simp] theorem cleared_add : (t + u).cleared = t.cleared + u.cleared := rfl

@[simp] theorem add_zero : t + 0 = t := rfl

@[simp] theorem zero_add : 0 + t = t := by
  ext <;> simp

end Tally

/-- What acts tell of a channel. -/
def Act.tally (c : ChannelId) (acts : List Act) : Tally where
  delivered := acts.countP (·.delivers c)
  ordered := acts.countP (·.orders c)
  installed := acts.countP (·.installs c)
  cleared := acts.countP (·.clears c)

/-- Surroundings in which every channel stays active. -/
def Surroundings.lively : Surroundings Unit :=
  { Surroundings.silent with isActive := fun _ _ => true }

theorem Surroundings.lively_quiet : lively.Quiet := fun _ _ => rfl

namespace Link

variable {σ : Type} {o : Surroundings σ} {l l' : Link σ} {c : ChannelId}

/-! ## The tally of acts -/

section Acts

variable (c) (l) (next : State) (answer : Except Fault ChannelId) (ticket : Option TicketId)
  (outcome : Outcome)

@[simp] theorem tally_nil : Act.tally c [] = 0 := rfl

@[simp] theorem tally_append (acts more : List Act) :
    Act.tally c (acts ++ more) = Act.tally c acts + Act.tally c more := by
  ext <;> simp [Act.tally]

theorem tally_cons (a : Act) (acts : List Act) :
    Act.tally c (a :: acts) = Act.tally c [a] + Act.tally c acts :=
  tally_append c [a] acts

/-- Acts that have nothing to do with the channel. -/
theorem tally_eq_zero {acts : List Act} (h : ∀ a ∈ acts, a.delivers c = false ∧
    a.orders c = false ∧ a.installs c = false ∧ a.clears c = false) : Act.tally c acts = 0 := by
  ext <;> refine List.countP_eq_zero.mpr fun a ha => ?_ <;> simp [h a ha]

@[simp] theorem tally_of_traces {acts : List Act}
    (traces : acts.all (Act.isTraceBut [.slot, .cleanup, .teardown]) = true) :
    Act.tally c acts = 0 := by
  have other : ∀ a : Act, a.isTraceBut [.slot, .cleanup, .teardown] = true →
      a.delivers c = false ∧ a.orders c = false ∧ a.installs c = false ∧ a.clears c = false := by
    intro a trace
    cases a with
    | spawned id j => cases j <;> cases trace
    | _ => first | exact ⟨rfl, rfl, rfl, rfl⟩ | cases trace
  exact tally_eq_zero c fun a mem => other a (List.all_eq_true.mp traces a mem)

@[simp] theorem tally_emptying :
    Act.tally c l.emptying = ⟨0, 0, 0, if l.channel = some c then 1 else 0⟩ := by
  unfold emptying
  cases h : l.channel with
  | none => rfl
  | some c' => ext <;> simp [Act.tally, Act.delivers, Act.orders, Act.installs, Act.clears]

@[simp] theorem tally_yielding : Act.tally c (l.yielding answer) =
    ⟨0, 0, 0, if answer = .ok c ∧ l.channel = some c then 1 else 0⟩ := by
  cases answer with
  | error f => rfl
  | ok c' =>
    by_cases here : l.channel = some c'
    · ext <;> simp [Act.tally, yielding, here, Act.delivers, Act.orders, Act.installs, Act.clears]
    · ext <;> simp [Act.tally, yielding, here]
      rintro rfl
      exact here

@[simp] theorem tally_disposing :
    Act.tally c (l.disposing answer) = ⟨0, if answer = .ok c then 1 else 0, 0, 0⟩ := by
  cases answer with
  | error f => rfl
  | ok c' =>
    ext <;> simp [Act.tally, disposing, leftover, Act.delivers, Act.orders, Act.installs,
      Act.clears, Job.closes]

@[simp] theorem tally_answered (id : JobId) (acts : List Act) :
    Act.tally c (.answered id answer :: acts) =
      ⟨if answer = .ok c then 1 else 0, 0, 0, 0⟩ + Act.tally c acts := by
  rw [tally_cons]
  congr 1
  cases answer with
  | error f => rfl
  | ok c' => ext <;> simp [Act.tally, Act.orders, Act.installs, Act.clears]

@[simp] theorem tally_installed (c' : ChannelId) (acts : List Act) :
    Act.tally c (.installed c' :: acts) =
      ⟨0, 0, if c' = c then 1 else 0, 0⟩ + Act.tally c acts := by
  rw [tally_cons]
  congr 1
  ext <;> simp [Act.tally, Act.delivers, Act.orders, Act.installs, Act.clears]

@[simp] theorem tally_spawned (id : JobId) (j : Job) (acts : List Act) :
    Act.tally c (.spawned id j :: acts) =
      ⟨0, if j.closes c then 1 else 0, 0, 0⟩ + Act.tally c acts := by
  rw [tally_cons]
  congr 1
  ext <;> simp [Act.tally, Act.orders, Act.installs, Act.clears]

theorem tally_hangingUp : Act.tally c l.hangingUp =
    ⟨0, if l.state = .connected ∧ l.channel = some c then 1 else 0, 0,
      if l.state = .connecting ∧ l.channel = some c then 1 else 0⟩ := by
  unfold hangingUp
  cases h : l.state with
  | disconnected | disconnecting => rfl
  | connecting => simp
  | connected => cases l.channel <;> simp [Job.closes]

end Acts

/-! ## The tally of a link -/

/-- What the journal tells of a channel. -/
def tally (l : Link σ) (c : ChannelId) : Tally := Act.tally c l.journal

theorem Entry.tally {acts : List Act} (entry : Entry acts l l') (c : ChannelId) :
    l'.tally c = l.tally c + Act.tally c acts := by
  rw [Link.tally, entry.journal, tally_append, Link.tally]

/-- The jobs that were created to close a channel are the closings that were ordered. -/
theorem countP_created (l : Link σ) (c : ChannelId) :
    l.created.countP (·.2.closes c) = (l.tally c).ordered := by
  simp only [created, tally, Act.tally, List.countP_filterMap]
  refine List.countP_congr fun a _ => ?_
  cases a <;> simp [Act.creation?, Act.orders]

/-- The channels that were delivered, in order. -/
def deliveries (l : Link σ) : List ChannelId := l.journal.filterMap Act.delivery?

theorem count_deliveries (l : Link σ) (c : ChannelId) :
    l.deliveries.count c = (l.tally c).delivered := by
  simp only [deliveries, tally, Act.tally, List.count, List.countP_filterMap]
  refine List.countP_congr fun a _ => ?_
  cases a with
  | answered id answer => cases answer <;> simp [Act.delivery?]
  | _ => simp [Act.delivery?, Act.delivers]

/-- Nothing happens to channels, and the link does not become connected. -/
structure Idles (l l' : Link σ) : Prop where
  identity : l'.identity = l.identity
  tally : ∀ c, l'.tally c = l.tally c
  channel : l'.channel = l.channel
  flag : l'.disconnected = l.disconnected
  state : l'.state = .connected → l.state = .connected
  grows : l.journal <+: l'.journal

namespace Idles

theorem refl (l : Link σ) : Idles l l := ⟨rfl, fun _ => rfl, rfl, rfl, id, List.prefix_rfl⟩

theorem trans {k : Link σ} (first : Idles l k) (second : Idles k l') : Idles l l' where
  identity := second.identity.trans first.identity
  tally c := (second.tally c).trans (first.tally c)
  channel := second.channel.trans first.channel
  flag := second.flag.trans first.flag
  state := first.state ∘ second.state
  grows := first.grows.trans second.grows

/-- Acts that have nothing to do with channels. -/
theorem entry {acts : List Act} (entry : Entry acts l l') (none : ∀ c, Act.tally c acts = 0)
    (identity : l'.identity = l.identity) (channel : l'.channel = l.channel)
    (flag : l'.disconnected = l.disconnected)
    (state : l'.state = .connected → l.state = .connected) : Idles l l' where
  identity := identity
  tally c := by rw [entry.tally, none, Tally.add_zero]
  channel := channel
  flag := flag
  state := state
  grows := entry.grows

theorem note (l : Link σ) {a : Act} (none : ∀ c, Act.tally c [a] = 0) : Idles l (l.note a) where
  identity := rfl
  tally c := by rw [Link.tally, Link.note, tally_append, none, Tally.add_zero, Link.tally]
  channel := rfl
  flag := rfl
  state := id
  grows := List.prefix_append _ _

/-- An answer without a channel. -/
theorem take (l : Link σ) (id : JobId) (cause : Fault) : Idles l (l.take id (.error cause)) :=
  have finished : Idles l (l.finish id) :=
    ⟨rfl, fun _ => rfl, rfl, rfl, fun up => up, List.prefix_rfl⟩
  finished.trans (.note (l.finish id) (a := .answered id (.error cause)) fun _ => rfl)

theorem setOut (l : Link σ) (bootstrap : Bool) : Idles l (l.setOut bootstrap) := by
  refine .entry (.setOut l bootstrap) (fun c => ?_) ?_ ?_ ?_
    fun up => absurd (up.symm.trans (state_setOut ..)) (by decide)
  · simp [settingOut, Job.closes]
    rfl
  all_goals rw [setOut_eq]

theorem settle? (l : Link σ) (ticket : Option TicketId) (outcome : Outcome) :
    Idles l (l.settle? ticket outcome) := by
  refine .entry (.settle? l ticket outcome) (fun c => by simp) ?_ ?_ ?_ ?_
  all_goals rw [settle?_eq]
  exact id

/-- A chain that is planned anew leaves the channel alone. -/
theorem plan (l : Link σ) (delay : Nat) (epoch : UInt64) (ticket : Option TicketId) :
    Idles l (l.plan delay epoch ticket) := by
  refine .entry (.plan l delay epoch ticket) (fun c => ?_) ?_ ?_ ?_
    fun up => absurd (up.symm.trans (state_plan ..)) (by decide)
  · simp [Job.closes]
    rfl
  all_goals rw [plan_eq]

theorem giveUp (l : Link σ) (ticket : Option TicketId) (cause : Fault) :
    Idles l (l.giveUp ticket cause) := by
  refine .entry (.giveUp l ticket cause) (fun c => ?_) ?_ ?_ ?_
    fun up => absurd (up.symm.trans (state_giveUp ..)) (by decide)
  · simp
  all_goals rw [giveUp_eq]

theorem takeUp (l : Link σ) (ticket : Option TicketId) (bootstrap : Bool) (cause : Fault) :
    Idles l (l.takeUp ticket bootstrap cause) := by
  unfold Link.takeUp
  split
  · exact giveUp l ticket cause
  · split
    · exact settle? l ticket (.error cause)
    · exact refl l

theorem consult (l : Link σ) : Idles l l.consult :=
  .entry (.consult l) (fun _ => rfl) rfl rfl rfl id

end Idles

theorem tally_drop (l : Link σ) (c : ChannelId) :
    l.drop.tally c = l.tally c + ⟨0, 0, 0, if l.channel = some c then 1 else 0⟩ := by
  rw [(Entry.drop l).tally]
  simp

theorem tally_hangUp (l : Link σ) (c : ChannelId) : l.hangUp.tally c = l.tally c +
    ⟨0, if l.state = .connected ∧ l.channel = some c then 1 else 0, 0,
      if l.state = .connecting ∧ l.channel = some c then 1 else 0⟩ := by
  rw [(Entry.hangUp l).tally, tally_hangingUp]

theorem tally_take (l : Link σ) (id : JobId) (answer : Except Fault ChannelId) (c : ChannelId) :
    (l.take id answer).tally c = l.tally c + ⟨if answer = .ok c then 1 else 0, 0, 0, 0⟩ := by
  rw [(Entry.take l id answer).tally, tally_answered]
  rfl

theorem tally_turnAway (l : Link σ) (ticket : Option TicketId) (answer : Except Fault ChannelId)
    (c : ChannelId) : (l.turnAway ticket answer).tally c =
      l.tally c + ⟨0, if answer = .ok c then 1 else 0, 0, 0⟩ := by
  rw [(Entry.turnAway l ticket answer).tally]
  simp

theorem tally_undo (l : Link σ) (ticket : Option TicketId) (answer : Except Fault ChannelId)
    (c : ChannelId) : (l.undo ticket answer).tally c = l.tally c +
      ⟨0, if answer = .ok c then 1 else 0, 0,
        if answer = .ok c ∧ l.channel = some c then 1 else 0⟩ := by
  rw [(Entry.undo l ticket answer).tally]
  congr 1
  ext <;> simp

theorem tally_install (l : Link σ) (c' c : ChannelId) :
    (l.install c').tally c = l.tally c + ⟨0, 0, if c' = c then 1 else 0, 0⟩ := by
  rw [(Entry.install l c').tally, tally_installed]
  rfl

theorem tally_putToUse (l : Link σ) (ticket : Option TicketId) (c' c : ChannelId) :
    (l.putToUse ticket c').tally c = l.tally c + ⟨0, 0, if c' = c then 1 else 0, 0⟩ := by
  rw [(Entry.putToUse l ticket c').tally]
  congr 1
  ext <;> simp [Job.closes]

/-- What strokes do to channels. -/
theorem Stroke.channels (h : Stroke l l') :
    Idles l l' ∨
      (l.disconnected = false ∧ l.identity.transient = false ∧ l' = l.drop.setOut false) ∨
      (l.disconnected = true ∧ l' = l.drop) ∨ l' = hangUp (l.note (.called .disconnect)) := by
  cases h with
  | drifted | counted | marked => exact .inl ⟨rfl, fun _ => rfl, rfl, rfl, id, List.prefix_rfl⟩
  | attended current =>
    exact .inl ⟨rfl, fun _ => rfl, rfl, rfl, fun up => current.symm.trans up, List.prefix_rfl⟩
  | @noted a plain =>
    refine .inl (.note l fun c => ?_)
    cases a <;> first | rfl | cases plain
  | returned | ignored => exact .inl (.note l fun _ => rfl)
  | @spawned j idle =>
    refine .inl (.entry (.spawn l j) (fun c => ?_) rfl rfl rfl id)
    cases j <;> first | rfl | cases idle
  | opened => exact .inl ((Idles.note l fun _ => rfl).trans (.setOut _ true))
  | restarted wanted persistent => exact .inr (.inl ⟨wanted, persistent, rfl⟩)
  | dropped barred => exact .inr (.inr (.inl ⟨barred, rfl⟩))
  | hungUp => exact .inr (.inr (.inr rfl))

/-! ## No more closings than deliveries -/

/-- A channel that a connected link has in its slot was delivered, and its closing has not been
ordered as often. -/
def Backed (l : Link σ) : Prop := ∀ c, (l.tally c).ordered +
  (if l.state = .connected ∧ l.channel = some c then 1 else 0) ≤ (l.tally c).delivered

namespace Backed

/-- Acts may follow that deliver a channel as often as they order its closing, unless they connect
the link. -/
theorem later (backed : Backed l)
    (holds : l'.state = .connected → l.state = .connected ∧ l'.channel = l.channel)
    (tally : ∀ c, (l'.tally c).ordered + (l.tally c).delivered ≤
      (l.tally c).ordered + (l'.tally c).delivered) : Backed l' := by
  intro c
  have before := backed c
  have more := tally c
  have fewer : (if l'.state = .connected ∧ l'.channel = some c then 1 else 0) ≤
      if l.state = .connected ∧ l.channel = some c then 1 else 0 := by
    by_cases up : l'.state = .connected
    · simp [up, holds up]
    · simp [up]
  omega

theorem idle (backed : Backed l) (idles : Idles l l') : Backed l' :=
  backed.later (fun up => ⟨idles.state up, idles.channel⟩) fun c =>
    idles.tally c ▸ Nat.le_refl _

theorem drop (backed : Backed l) : Backed l.drop := by
  refine backed.later (fun up => absurd (up.symm.trans (state_drop l)) (by decide)) fun c => ?_
  simp [tally_drop]

theorem hangUp (backed : Backed l) : Backed l.hangUp := by
  intro c
  have before := backed c
  rw [tally_hangUp]
  simp only [state_hangUp_ne, false_and, ↓reduceIte, Tally.ordered_add, Tally.delivered_add]
  omega

theorem undo (backed : Backed l) (id : JobId) (ticket : Option TicketId)
    (answer : Except Fault ChannelId) : Backed ((l.take id answer).undo ticket answer) := by
  refine backed.later (fun up => absurd (up.symm.trans (state_undo ..)) (by decide)) fun c => ?_
  simp only [tally_undo, tally_take, Tally.ordered_add, Tally.delivered_add]
  omega

theorem stroke (h : Stroke l l') (backed : Backed l) : Backed l' := by
  rcases h.channels with idles | ⟨-, -, rfl⟩ | ⟨-, rfl⟩ | rfl
  · exact backed.idle idles
  · exact backed.drop.idle (.setOut _ false)
  · exact backed.drop
  · have called : Backed (l.note (.called .disconnect)) := backed.idle (.note l fun _ => rfl)
    exact called.hangUp

theorem turn {s : Step σ} (h : Turn s l l') (backed : Backed l) : Backed l' := by
  have finished : ∀ id, Backed (l.finish id) := fun _ => backed
  have gone : ∀ id j, Backed (l.become id j) := fun _ _ => backed
  cases h with
  | dialed | redialed | tearing | cleaning => exact (gone _ _).idle (.note _ fun _ => rfl)
  | ended => exact finished _
  | abandoned => exact (finished _).hangUp
  | toreDown => exact (finished _).drop.idle (.note _ fun _ => rfl)
  | turnedAway _ _ _ answer =>
    refine backed.later (fun up => ?_) fun c => ?_
    · rw [turnAway_eq] at up ⊢
      exact ⟨up, rfl⟩
    · simp only [tally_turnAway, tally_take, Tally.ordered_add, Tally.delivered_add]
      omega
  | undone _ _ _ _ answer => exact backed.undo _ _ answer
  | @succeeded _ id ticket _ _ _ _ _ connecting c' =>
    intro c
    have before := backed c
    rw [connecting] at before
    have channel : ((l.take id (.ok c')).putToUse ticket c').channel = some c' := by
      rw [putToUse_eq]
    rw [tally_putToUse, tally_take, channel]
    simp only [reduceCtorEq, false_and, ↓reduceIte, Except.ok.injEq, Option.some.injEq,
      Tally.ordered_add, Tally.delivered_add] at before ⊢
    by_cases same : c' = c
    · simp only [same, and_true, ↓reduceIte]
      split <;> omega
    · simp only [same, and_false, ↓reduceIte]
      exact before
  | @collided _ id ticket _ _ _ _ _ _ c' =>
    refine backed.later (fun up => absurd (up.symm.trans (state_undo ..)) (by decide)) fun c => ?_
    simp only [tally_undo, tally_install, tally_take, Tally.ordered_add, Tally.delivered_add]
    omega
  | gaveUp _ _ _ _ _ _ cause => exact (backed.idle (.take l _ cause)).idle (.giveUp ..)

end Backed

theorem backed_kept (o : Surroundings σ) : Kept o fun _ l => Backed l where
  stroke := Backed.stroke
  turn := Backed.turn
  takeUp {l id ticket bootstrap _} cause _ backed := by
    have noticed := (Idles.take l id cause).trans (.takeUp _ ticket bootstrap cause)
    exact backed.idle (noticed.trans (.consult _))
  plan _ backed := backed.idle (.plan ..)
  breakDown _ backed := backed.idle (.settle? ..)

/-! ## What becomes of a channel -/

/-- A chain was started in place of a channel whose loss was reported. -/
def Abandoned (l : Link σ) (c : ChannelId) : Prop := ∃ told id ticket epoch,
  [.cleared c, .changed ⟨.disconnected, .connecting⟩ told,
    .spawned id (.attempt ticket false epoch false)] <:+: l.journal

theorem Abandoned.mono (abandoned : Abandoned l c) (grown : l.journal <+: l'.journal) :
    Abandoned l' c := by
  obtain ⟨told, id, ticket, epoch, there⟩ := abandoned
  exact ⟨told, id, ticket, epoch, there.trans grown.isInfix⟩

theorem Abandoned.restarted (installed : l.channel = some c) :
    Abandoned (l.drop.setOut false) c := by
  refine ⟨!l.drop.lifecycle.subscribers.isEmpty, l.drop.jobCount, some l.drop.ticketCount,
    l.drop.epoch + 1, l.journal ++ l.passage .disconnected, [], ?_⟩
  rw [(Entry.setOut l.drop false).journal, (Entry.drop l).journal]
  have emptied : l.emptying = [.cleared c] := by simp [emptying, installed]
  have passed : l.drop.passage .connecting = [.changed ⟨.disconnected, .connecting⟩
      (!l.drop.lifecycle.subscribers.isEmpty)] := by
    simp [passage, state_drop]
  simp only [settingOut, emptied, passed, List.append_assoc, List.append_nil, List.cons_append,
    List.nil_append]

/-- The law of channels. -/
structure Tended (l : Link σ) (c : ChannelId) : Prop where
  /-- Until a disconnect is asked for, closing is ordered for what was not put to use. -/
  unused : l.disconnected = false →
    (l.tally c).ordered + (l.tally c).installed ≤ (l.tally c).delivered
  slot : (l.tally c).installed = (l.tally c).cleared + if l.channel = some c then 1 else 0
  /-- After that, closing is ordered for what is still in the slot. -/
  barred : l.disconnected = true → l.channel = some c → (l.tally c).ordered ≠ 0
  known : (l.tally c).delivered ≠ 0 →
    l.channel = some c ∨ (l.tally c).ordered ≠ 0 ∨ l.identity.transient = false ∧ Abandoned l c

namespace Tended

/-- What may follow. The conditions speak of the acts that follow, tallied in `t`. -/
theorem later (tended : Tended l c) {t : Tally} (tally : l'.tally c = l.tally c + t)
    (identity : l'.identity = l.identity) (grows : l.journal <+: l'.journal)
    (unused : l'.disconnected = false →
      l.disconnected = false ∧ t.ordered + t.installed ≤ t.delivered)
    (slot : t.installed + (if l.channel = some c then 1 else 0) =
      t.cleared + if l'.channel = some c then 1 else 0)
    (barred : l'.disconnected = true → l'.channel = some c →
      t.ordered ≠ 0 ∨ l.disconnected = true ∧ l.channel = some c)
    (known : t.delivered ≠ 0 ∨ l.channel = some c →
      l'.channel = some c ∨ (l.tally c).ordered + t.ordered ≠ 0 ∨
        l.identity.transient = false ∧ Abandoned l' c) :
    Tended l' c := by
  refine ⟨fun wanted => ?_, ?_, fun flag here => ?_, fun delivered => ?_⟩
  all_goals rw [tally]
  · obtain ⟨wanted, new⟩ := unused wanted
    have old := tended.unused wanted
    simp only [Tally.ordered_add, Tally.installed_add, Tally.delivered_add]
    omega
  · have old := tended.slot
    simp only [Tally.installed_add, Tally.cleared_add]
    omega
  · simp only [Tally.ordered_add]
    rcases barred flag here with new | ⟨flag, here⟩
    · omega
    · have old := tended.barred flag here
      omega
  · rw [tally, Tally.delivered_add] at delivered
    rw [identity]
    by_cases new : t.delivered = 0
    · rcases tended.known (by omega) with here | ordered | ⟨persistent, abandoned⟩
      · exact known (.inr here)
      · exact .inr (.inl (by simp only [Tally.ordered_add]; omega))
      · exact .inr (.inr ⟨persistent, abandoned.mono grows⟩)
    · exact known (.inl new)

theorem idle (tended : Tended l c) (idles : Idles l l') : Tended l' c := by
  refine tended.later (t := 0) (idles.tally c) idles.identity idles.grows
    (fun wanted => ⟨idles.flag.symm.trans wanted, Nat.le_refl 0⟩) ?_
    (fun barred here => .inr ⟨idles.flag.symm.trans barred, idles.channel.symm.trans here⟩)
    fun h => .inl (idles.channel.trans (h.resolve_left (absurd rfl)))
  rw [idles.channel]
  rfl

/-- A link that is to be disconnected may drop a channel whose closing is ordered. -/
theorem drop (tended : Tended l c) (barred : l.disconnected = true) : Tended l.drop c := by
  have flag : l.drop.disconnected = true := by
    rw [drop_eq]
    exact barred
  have vacant : l.drop.channel = none := by rw [drop_eq]
  refine tended.later (tally_drop l c) (by rw [drop_eq]) (Entry.drop l).grows
    (fun wanted => absurd (flag.symm.trans wanted) (by decide)) ?_
    (fun _ here => absurd (vacant.symm.trans here) nofun)
    fun h => .inr (.inl (tended.barred barred (h.resolve_left (absurd rfl))))
  simp [vacant]

/-- Any other link that drops its channel starts a chain in its place. -/
theorem restart (tended : Tended l c) (wanted : l.disconnected = false)
    (persistent : l.identity.transient = false) : Tended (l.drop.setOut false) c := by
  have idles := Idles.setOut l.drop false
  have flag : (l.drop.setOut false).disconnected = false := by
    rw [idles.flag, drop_eq]
    exact wanted
  have vacant : (l.drop.setOut false).channel = none := by rw [idles.channel, drop_eq]
  refine tended.later ((idles.tally c).trans (tally_drop l c))
    (idles.identity.trans (by rw [drop_eq])) ((Entry.drop l).grows.trans idles.grows)
    (fun _ => ⟨wanted, Nat.le_refl 0⟩) ?_
    (fun barred => absurd (flag.symm.trans barred) (by decide))
    fun h => .inr (.inr ⟨persistent, .restarted (h.resolve_left (absurd rfl))⟩)
  simp [vacant]

/-- A link hangs up on a channel that it has in its slot by way of a teardown. -/
theorem hangUp (tended : Tended l c)
    (vacant : l.state = .disconnected ∨ l.state = .connecting → l.channel = none)
    (torn : l.state = .disconnecting → l.disconnected = true) : Tended l.hangUp c := by
  have flag := disconnected_hangUp l
  have channel : l.hangUp.channel = l.channel := by
    cases h : l.state with
    | disconnected | disconnecting => simp only [Link.hangUp, h, bar]
    | connecting => simp only [Link.hangUp, h, bar, drop_eq, vacant (.inr h)]
    | connected => simp only [Link.hangUp, h, bar, shift_eq, issue, spawn, note]
  have gone : l.state = .disconnected ∨ l.state = .connecting → l.channel ≠ some c := by
    intro down
    rw [vacant down]
    exact (Option.some_ne_none c).symm
  have away : ¬ (l.state = .connecting ∧ l.channel = some c) := by
    rintro ⟨connecting, here⟩
    exact gone (.inr connecting) here
  refine tended.later (tally_hangUp l c) (identity_hangUp l) (Entry.hangUp l).grows
    (fun wanted => absurd (flag.symm.trans wanted) (by decide)) ?_ (fun _ here => ?_)
    fun h => .inl (channel.trans (h.resolve_left (absurd rfl)))
  · rw [channel]
    simp [away]
  · have here := channel.symm.trans here
    cases h : l.state with
    | disconnected => exact absurd here (gone (.inl h))
    | connecting => exact absurd here (gone (.inr h))
    | disconnecting => exact .inr ⟨torn h, here⟩
    | connected => exact .inl (by simp [here])

/-- A channel that is delivered too late is not put to use, and its closing is ordered. -/
theorem refused (tended : Tended l c) {n : Nat} (tally : l'.tally c = l.tally c + ⟨n, n, 0, 0⟩)
    (identity : l'.identity = l.identity) (channel : l'.channel = l.channel)
    (flag : l'.disconnected = l.disconnected) (grows : l.journal <+: l'.journal) : Tended l' c := by
  refine tended.later tally identity grows
    (fun wanted => ⟨flag.symm.trans wanted, Nat.le_refl n⟩) ?_
    (fun barred here => .inr ⟨flag.symm.trans barred, channel.symm.trans here⟩) fun h => ?_
  · rw [channel]
  · rcases h with delivered | here
    · have delivered : n ≠ 0 := delivered
      have ordered : (l.tally c).ordered + n ≠ 0 := by omega
      exact .inr (.inl ordered)
    · exact .inl (channel.trans here)

/-- A channel is put to use while the slot is empty. -/
theorem putToUse (tended : Tended l c) (wanted : l.disconnected = false) (vacant : l.channel = none)
    (id : JobId) (ticket : Option TicketId) (c' : ChannelId) :
    Tended ((l.take id (.ok c')).putToUse ticket c') c := by
  have tally : ((l.take id (.ok c')).putToUse ticket c').tally c =
      l.tally c + ⟨if c' = c then 1 else 0, 0, if c' = c then 1 else 0, 0⟩ := by
    rw [tally_putToUse, tally_take]
    ext <;> simp
  have flag : ((l.take id (.ok c')).putToUse ticket c').disconnected = false := by
    rw [putToUse_eq]
    exact wanted
  have channel : ((l.take id (.ok c')).putToUse ticket c').channel = some c' := by
    rw [putToUse_eq]
  have grows := (Entry.take l id (.ok c')).grows.trans (Entry.putToUse _ ticket c').grows
  refine tended.later tally (by rw [putToUse_eq]; rfl) grows
    (fun _ => ⟨wanted, Nat.le_of_eq (Nat.zero_add _)⟩) ?_
    (fun barred => absurd (flag.symm.trans barred) (by decide)) fun h => ?_
  · rw [channel]
    simp [vacant]
  · rcases h with delivered | here
    · have same : c' = c := by simpa using delivered
      exact .inl (same ▸ channel)
    · exact absurd (vacant.symm.trans here) nofun

end Tended

/-- What the law of chains says of the slot. -/
theorem Sound.slot {loose : Prop} {hand : Option Hand} (sound : Sound loose hand l.core) :
    (l.state = .disconnected ∨ l.state = .connecting → l.channel = none) ∧
      (l.state = .disconnecting → l.disconnected = true) := by
  have fits := sound.fits
  unfold Core.Fits at fits
  refine ⟨fun down => ?_, fun torn => ?_⟩
  · rcases down with down | down
    · have down : l.core.state = .disconnected := down
      simp only [down] at fits
      exact fits.1
    · have down : l.core.state = .connecting := down
      simp only [down] at fits
      exact fits.1
  · have torn : l.core.state = .disconnecting := torn
    simp only [torn] at fits
    exact fits.2.1

/-- An attempt of the current chain finds the slot empty. -/
theorem Sound.vacant {loose : Prop} (sound : Sound loose none l.core) (numbered : Numbered l)
    {id : JobId} {j : Job} (job : l.job? id = some j) (chain : j.chain? = some l.epoch) :
    l.channel = none := by
  obtain ⟨before, after, pending, -⟩ := core_finish_chain numbered job chain
  exact (sound.of_live pending).2.1

namespace Tended

theorem stroke {loose : Prop} {hand : Option Hand} (h : Stroke l l')
    (sound : Sound loose hand l.core) (tended : Tended l c) : Tended l' c := by
  rcases h.channels with idles | ⟨wanted, persistent, rfl⟩ | ⟨barred, rfl⟩ | rfl
  · exact tended.idle idles
  · exact tended.restart wanted persistent
  · exact tended.drop barred
  · have called : Tended (l.note (.called .disconnect)) c := tended.idle (.note l fun _ => rfl)
    exact called.hangUp sound.slot.1 sound.slot.2

theorem turn {loose : Prop} {s : Step σ} (h : Turn s l l') (numbered : Numbered l)
    (sound : Sound loose none l.core) (tended : Tended l c) : Tended l' c := by
  have finished : ∀ id, Idles l (l.finish id) :=
    fun _ => ⟨rfl, fun _ => rfl, rfl, rfl, id, List.prefix_rfl⟩
  have gone : ∀ id j, Idles l (l.become id j) :=
    fun _ _ => ⟨rfl, fun _ => rfl, rfl, rfl, id, List.prefix_rfl⟩
  cases h with
  | dialed | redialed | tearing | cleaning =>
    exact tended.idle ((gone _ _).trans (.note _ fun _ => rfl))
  | ended => exact tended.idle (finished _)
  | @abandoned _ id => exact (tended.idle (finished id)).hangUp sound.slot.1 sound.slot.2
  | @toreDown _ _ id c' ticket job =>
    have barred : l.disconnected = true := by
      obtain ⟨n, torn, -⟩ := core_finish_teardown numbered job rfl
      exact sound.torn (by omega)
    exact ((tended.idle (finished id)).drop barred).idle (.note _ fun _ => rfl)
  | @turnedAway _ id ticket _ _ _ _ answer =>
    refine tended.refused (n := if answer = .ok c then 1 else 0) ?_ ?_ ?_ ?_ ?_
    · rw [tally_turnAway, tally_take]
      ext <;> simp
    · rw [turnAway_eq]
      rfl
    · rw [turnAway_eq]
      rfl
    · rw [turnAway_eq]
      rfl
    · exact (Entry.take l id answer).grows.trans (Entry.turnAway _ ticket answer).grows
  | @undone _ id ticket _ _ job current _ answer =>
    have vacant : l.channel = none := sound.vacant numbered job (congrArg some current.symm)
    refine tended.refused (n := if answer = .ok c then 1 else 0) ?_ ?_ ?_ ?_ ?_
    · rw [tally_undo, tally_take]
      ext <;> simp [take, note, finish, vacant]
    · rw [undo_eq]
      rfl
    · rw [undo_eq]
      cases answer <;> simp [take, note, finish, yield, vacant]
    · rw [undo_eq]
      rfl
    · exact (Entry.take l id answer).grows.trans (Entry.undo _ ticket answer).grows
  | succeeded _ job current wanted _ c' =>
    exact tended.putToUse wanted (sound.vacant numbered job (congrArg some current.symm)) _ _ c'
  | collided _ job current _ connected =>
    exact absurd connected (sound.not_connected numbered job current)
  | gaveUp _ _ _ _ _ _ cause => exact tended.idle ((Idles.take l _ cause).trans (.giveUp ..))

end Tended

/-- The law of channels rests on the law of chains. -/
theorem tended_kept (o : Surroundings σ) : Kept o fun hand l =>
    (Numbered l ∧ (l.chains < UInt64.size → Sound (¬ o.Firm) hand l.core)) ∧
      (l.chains < UInt64.size → ∀ c, Tended l c) := by
  refine KeptUnder.kept (Q := fun _ l => l.chains < UInt64.size → ∀ c, Tended l c) ?_
    (sound_kept o)
  have fewer : ∀ {k l : Link σ}, k.journal <+: l.journal → l.chains < UInt64.size →
      k.chains < UInt64.size := fun grows few => Nat.lt_of_le_of_lt (chains_le grows) few
  exact {
    stroke := fun h law _ tended few c => by
      have before := fewer h.journal few
      exact (tended before c).stroke h (law.2 before)
    turn := fun h law _ tended few c => by
      have before := fewer h.journal few
      exact (tended before c).turn h law.1 (law.2 before)
    takeUp := fun {l id ticket bootstrap epoch} cause _ _ tended few c => by
      have noticed := (Idles.take l id cause).trans (.takeUp _ ticket bootstrap cause)
      have idles := noticed.trans (.consult _)
      exact (tended (fewer idles.grows few) c).idle idles
    plan := fun {hand l} delay _ tended few c => by
      have idles := Idles.plan l delay hand.epoch hand.ticket
      exact (tended (fewer idles.grows few) c).idle idles
    breakDown := fun {hand l} _ _ tended few c => by
      have idles := Idles.settle? l hand.ticket (.error .dropped)
      exact (tended (fewer idles.grows few) c).idle idles }

/-! ## What held before the disconnect -/

/-- Only a disconnect is called by hanging up. -/
theorem Stroke.called (h : Stroke l l') (now : .called .disconnect ∈ l'.journal) :
    .called .disconnect ∈ l.journal ∨ l' = hangUp (l.note (.called .disconnect)) := by
  cases h with
  | drifted | counted | marked | attended => exact .inl now
  | @noted a plain =>
    have other : Act.called .disconnect ≠ a := by
      rintro rfl
      exact plain.2 rfl
    exact .inl (by simpa [note, other] using now)
  | returned | ignored | spawned => exact .inl (by simpa [note, spawn] using now)
  | opened => exact .inl (by simpa [note, setOut_eq] using now)
  | restarted => exact .inl (by simpa [setOut_eq, drop_eq] using now)
  | dropped => exact .inl (by simpa [drop_eq] using now)
  | hungUp => exact .inr rfl

/-- A law that is kept held before the disconnect was called: of a link whose journal tells what
was done until then. -/
theorem Kept.beforehand {P : Option Hand → Link σ → Prop} (kept : Kept o P) :
    Kept o fun hand l => P hand l ∧ ∃ hand' k, P hand' k ∧ k.journal = l.beforehand := by
  -- the cut stays where it is, or there is none yet
  have later : ∀ {hand} {l l' : Link σ}, P hand l' → l.journal <+: l'.journal →
      (.called .disconnect ∈ l'.journal → .called .disconnect ∈ l.journal) →
      (∃ hand' k, P hand' k ∧ k.journal = l.beforehand) →
      P hand l' ∧ ∃ hand' k, P hand' k ∧ k.journal = l'.beforehand := by
    intro hand l l' holds grows same cut
    refine ⟨holds, ?_⟩
    by_cases now : .called .disconnect ∈ l'.journal
    · obtain ⟨acts, journal⟩ := grows
      have there : l'.beforehand = l.beforehand := by
        rw [Link.beforehand, ← journal, Act.upTo_append (same now), Link.beforehand]
      rw [there]
      exact cut
    · exact ⟨hand, l', holds, (Act.upTo_of_notMem now).symm⟩
  exact {
    stroke := fun {hand l l'} h holds => by
      have after := kept.stroke h holds.1
      by_cases now : .called .disconnect ∈ l'.journal → .called .disconnect ∈ l.journal
      · exact later after h.journal now holds.2
      · obtain ⟨now, fresh⟩ := Classical.not_imp.mp now
        obtain rfl := (h.called now).resolve_left fresh
        refine ⟨after, hand, l, holds.1, ?_⟩
        rw [Link.beforehand, journal_hangUp, note, List.append_assoc,
          Act.upTo_append_of_notMem fresh, List.singleton_append, Act.upTo, if_pos rfl,
          List.append_nil]
    turn := fun h holds =>
      later (kept.turn h holds.1) h.journal (h.mem_journal rfl).mp holds.2
    takeUp := fun {l id ticket bootstrap epoch} cause up holds => by
      have entry := (Entry.take l id (.error cause)).trans (.takeUp _ ticket bootstrap cause)
      refine later (kept.takeUp cause up holds.1) entry.grows (fun now => ?_) holds.2
      rw [entry.journal, List.mem_append] at now
      refine now.resolve_right ?_
      split <;> split <;> simp
    plan := fun {hand l} delay holds => by
      refine later (kept.plan delay holds.1) (Entry.plan ..).grows (fun now => ?_) holds.2
      rw [(Entry.plan ..).journal, List.mem_append] at now
      exact now.resolve_right (by simp)
    breakDown := fun {hand l} loose holds => by
      refine later (kept.breakDown loose holds.1) (Entry.settle? ..).grows (fun now => ?_) holds.2
      rw [(Entry.settle? ..).journal, List.mem_append] at now
      exact now.resolve_right (by simp) }

/-! ## The step that delivers a channel -/

/-- In the step in which it is delivered, a channel is put to use or its closing is ordered. -/
theorem step_delivered (quiet : o.Quiet) (depth : Nat) {id : JobId} {ticket : Option TicketId}
    {bootstrap : Bool} {epoch : UInt64}
    (job : l.job? id = some (.attempt ticket bootstrap epoch true)) (c : ChannelId) :
    (l.state = .connecting ∧ (step o depth (.answer id (.ok c)) l).state = .connected ∧
        (step o depth (.answer id (.ok c)) l).channel = some c ∧
        ((step o depth (.answer id (.ok c)) l).tally c).ordered = (l.tally c).ordered) ∨
      ((step o depth (.answer id (.ok c)) l).tally c).ordered = (l.tally c).ordered + 1 := by
  have stepped : step o depth (.answer id (.ok c)) l =
      conclude o (Link.nested o depth) ticket bootstrap epoch (.ok c) (l.take id (.ok c)) := by
    simp only [step, stepWith, job]
    rfl
  have counted : ∀ (k : Link σ) d s, ((k.count d).amid s).tally c = k.tally c := fun _ _ _ => rfl
  rw [stepped]
  unfold conclude
  split
  · obtain ⟨s, hs⟩ := supersede_eq (Link.nested o depth) quiet ticket (.ok c) (l.take id (.ok c))
    rw [hs, counted, tally_turnAway, tally_take]
    simp
  · split
    · obtain ⟨s, hs⟩ := discard_eq (Link.nested o depth) quiet ticket (.ok c) (l.take id (.ok c))
      rw [hs, counted, tally_undo, tally_take]
      simp
    · by_cases connecting : l.state = .connecting
      · obtain ⟨s, hs⟩ := succeed_eq (Link.nested o depth) quiet ticket c
          (l := l.take id (.ok c)) connecting
        dsimp only
        rw [hs, counted, tally_putToUse, tally_take]
        refine .inl ⟨connecting, state_putToUse .., ?_, by simp⟩
        rw [putToUse_eq]
        rfl
      · have here : ((l.take id (.ok c)).install c).state ≠ .connecting := connecting
        obtain ⟨s, hs⟩ := discard_eq (Link.nested o depth) quiet ticket (.ok c)
          ((l.take id (.ok c)).install c)
        simp only [succeed, here, ↓reduceIte]
        rw [hs, counted, tally_undo, tally_install, tally_take]
        simp

/-! ## Every channel is accounted for -/

theorem Tended.new (identity : Identity) (environment : Environment) (outside : σ)
    (c : ChannelId) : Tended (Link.new identity environment outside) c where
  unused _ := Nat.le_refl 0
  slot := rfl
  barred barred := absurd barred Bool.false_ne_true
  known delivered := absurd rfl delivered

/-- The law of channels, after a run, and before the first disconnect that is called in it. -/
theorem tended_run (quiet : o.Quiet) (depth : Nat) {steps : List (Step σ)}
    (ordinary : ∀ s ∈ steps, s.Ordinary) (identity : Identity) (environment : Environment)
    (outside : σ) (reached : l = run o depth steps (.new identity environment outside))
    (few : l.chains < UInt64.size) : (∀ c, Tended l c) ∧
      ∃ k : Link σ, k.journal = l.beforehand ∧ Closing k ∧ ∀ c, k.disconnected = false ∧
        Tended k c := by
  have kept := (tended_kept o).and ((barred_kept o).and (closing_kept o))
  have start : ((Numbered (Link.new identity environment outside) ∧
      ((Link.new identity environment outside).chains < UInt64.size →
        Sound (¬ o.Firm) none (Link.new identity environment outside).core)) ∧
      ((Link.new identity environment outside).chains < UInt64.size →
        ∀ c, Tended (Link.new identity environment outside) c)) ∧
      ((Link.new identity environment outside).disconnected = true ↔
        .called .disconnect ∈ (Link.new identity environment outside).journal) ∧
      Closing (Link.new identity environment outside) :=
    ⟨⟨⟨.new .., fun _ => .new ..⟩, fun _ => .new identity environment outside⟩,
      by simp [Link.new], .new ..⟩
  obtain ⟨⟨⟨-, tended⟩, -⟩, hand, k, ⟨⟨-, tended'⟩, flag, closing⟩, journal⟩ :=
    kept.beforehand.run quiet depth ordinary ⟨start, none, _, start, rfl⟩
  rw [← reached] at tended journal
  have wanted : k.disconnected = false := by
    rw [← Bool.not_eq_true, flag, journal]
    exact Act.notMem_upTo _ _
  have grown : k.journal <+: l.journal := journal ▸ Act.upTo_prefix _ _
  have fewer := Nat.lt_of_le_of_lt (chains_le grown) few
  exact ⟨tended few, k, journal, closing, fun c => ⟨wanted, tended' fewer c⟩⟩

/-- A channel that was ever put to use was put to use before the first disconnect was called. -/
theorem Settling.installed_beforehand (settling : Settling l)
    (installed : .installed c ∈ l.journal) : .installed c ∈ l.beforehand := by
  by_cases called : .called .disconnect ∈ l.journal
  · rw [Act.upTo_append_since called, List.mem_append, List.mem_cons] at installed
    rcases installed with before | same | after
    · exact before
    · cases same
    · exact (settling.tame.calm _ after).elim
  · rw [beforehand, Act.upTo_of_notMem called]
    exact installed

/-- Until a disconnect is asked for, no closing is ordered of what was delivered once and put to
use. -/
theorem Tended.unordered (tended : Tended l c) (wanted : l.disconnected = false)
    (installed : .installed c ∈ l.journal) (once : (l.tally c).delivered ≤ 1) :
    (l.tally c).ordered = 0 := by
  have used : 0 < (l.tally c).installed :=
    List.countP_pos_iff.mpr ⟨_, installed, decide_eq_true rfl⟩
  have unused := tended.unused wanted
  omega

/-- Where no channel is delivered twice,
* a channel is in the slot while the link is connected or its teardown is under way, and leaves
  it only by being cleared;
* a channel that is delivered is put to use in that step, or its closing is ordered in it;
* closing is ordered once at most, and every closing that was ordered is asked for once, as soon as
  its job is taken up;
* before the first call of disconnect, nobody asks a channel to close, or orders it, that was ever
  put to use.
The first and the last rest on epochs that have not wrapped round. -/
theorem channel_accounting (quiet : o.Quiet) (depth : Nat) {steps : List (Step σ)}
    (ordinary : ∀ s ∈ steps, s.Ordinary) (identity : Identity) (environment : Environment)
    (outside : σ) {l : Link σ} (reached : l = run o depth steps (.new identity environment outside))
    (fresh : l.deliveries.Nodup) :
    (l.chains < UInt64.size → ∀ c,
      (l.channel = some c → l.state = .connected ∨ l.state = .disconnecting) ∧
        (l.tally c).installed = (l.tally c).cleared + if l.channel = some c then 1 else 0) ∧
    (∀ id ticket bootstrap epoch c, l.job? id = some (.attempt ticket bootstrap epoch true) →
      let l' := step o depth (.answer id (.ok c)) l
      l.state = .connecting ∧ l'.state = .connected ∧ l'.channel = some c ∧
          (l'.tally c).ordered = (l.tally c).ordered ∨
        (l'.tally c).ordered = (l.tally c).ordered + 1) ∧
    (∀ c, (l.tally c).ordered ≤ 1 ∧
      l.journal.count (.closing c) + l.jobs.countP (·.2.closes c) = (l.tally c).ordered) ∧
    (l.chains < UInt64.size → ∀ c, .installed c ∈ l.journal →
      .closing c ∉ l.beforehand ∧ (Act.tally c l.beforehand).ordered = 0) := by
  have backed := (backed_kept o).run quiet depth ordinary (l := .new identity environment outside)
    fun _ => Nat.le_refl 0
  have closing := (closing_kept o).run quiet depth ordinary (.new identity environment outside)
  have settling := (settling_kept o).run quiet depth ordinary (.new identity environment outside)
  rw [← reached] at backed closing settling
  have once : ∀ c, (l.tally c).delivered ≤ 1 := fun c =>
    count_deliveries l c ▸ List.nodup_iff_count_le_one.mp fresh c
  refine ⟨fun few c => ?_, fun id ticket bootstrap epoch c job => step_delivered quiet depth job c,
    fun c => ?_, fun few c installed => ?_⟩
  · obtain ⟨tended, -⟩ := tended_run quiet depth ordinary identity environment outside reached few
    have sound := sound_run quiet depth ordinary identity environment outside (reached ▸ few)
    rw [← reached] at sound
    refine ⟨fun here => ?_, (tended c).slot⟩
    cases h : l.state with
    | connected => exact .inl rfl
    | disconnecting => exact .inr rfl
    | disconnected => exact absurd ((sound.slot.1 (.inl h)).symm.trans here) nofun
    | connecting => exact absurd ((sound.slot.1 (.inr h)).symm.trans here) nofun
  · have before := backed c
    have most := once c
    refine ⟨by omega, ?_⟩
    rw [closing.balance c, countP_created]
  · obtain ⟨-, k, journal, closing, tended⟩ :=
      tended_run quiet depth ordinary identity environment outside reached few
    obtain ⟨wanted, tended⟩ := tended c
    have there : .installed c ∈ k.journal := journal ▸ settling.installed_beforehand installed
    have delivered : (k.tally c).delivered ≤ (l.tally c).delivered :=
      (journal ▸ Act.upTo_prefix _ _ : k.journal <+: l.journal).sublist.countP_le
    have none := tended.unordered wanted there (Nat.le_trans delivered (once c))
    have balance := closing.balance c
    rw [countP_created, none] at balance
    rw [← journal]
    exact ⟨List.count_eq_zero.mp (by omega), none⟩

/-- A link that loses its first channel, and is disconnected while it has its second, asks only the
second one to close. -/
theorem channel_accounting_replaced :
    let steps : List (Step Unit) := [.call .connect, .start 0, .answer 0 (.ok 7),
      .call .reportLoss, .start 2]
    let k := run .insistent 1 steps .sample
    let more : List (Step Unit) := steps ++ [.answer 2 (.ok 8), .call .disconnect, .start 5]
    let l := run .insistent 1 more .sample
    k.job? 2 = some (.attempt (some 1) false 2 true) ∧
      (step .insistent 1 (.answer 2 (.ok 8)) k).channel = some 8 ∧
      l.deliveries = [7, 8] ∧ l.chains < UInt64.size ∧
      (l.state = .connected ∨ l.state = .disconnecting) ∧
      (l.tally 7).installed = (l.tally 7).cleared + 0 ∧
      l.journal.count (.closing 8) + l.jobs.countP (·.2.closes 8) = (l.tally 8).ordered ∧
      (l.tally 8).ordered ≤ 1 ∧ .closing 8 ∈ l.journal ∧ .closing 8 ∉ l.beforehand := by
  intro steps k more l
  have ordinary : ∀ s ∈ more, s.Ordinary := by simp [more, steps, Step.Ordinary]
  have sooner : ∀ s ∈ steps, s.Ordinary := fun s mem => ordinary s (List.mem_append_left _ mem)
  have attempting : k.job? 2 = some (.attempt (some 1) false 2 true) := by decide
  have few : l.chains < UInt64.size := by decide
  have fresh : l.deliveries = [7, 8] := by decide
  have here : l.channel = some 8 := by decide
  have used : .installed 8 ∈ l.journal := by decide
  have asked : .closing 8 ∈ l.journal := by decide
  obtain ⟨-, delivered, -⟩ := channel_accounting (l := k) Surroundings.insistent_quiet 1 sooner
    _ _ () rfl (by decide)
  obtain ⟨slot, -, once, unasked⟩ := channel_accounting (l := l) Surroundings.insistent_quiet 1
    ordinary _ _ () rfl (by rw [fresh]; decide)
  have inUse : (step .insistent 1 (.answer 2 (.ok 8)) k).channel = some 8 := by
    rcases delivered 2 _ _ _ 8 attempting with ⟨-, -, inUse, -⟩ | ordered
    · exact inUse
    · exact absurd ordered (by decide)
  have gone := (slot few 7).2
  rw [here] at gone
  exact ⟨attempting, inUse, fresh, few, (slot few 8).1 here, gone, (once 8).2, (once 8).1, asked,
    (unasked few 8 used).1⟩

/-! ## Channels that are let go -/

/-- A channel that was delivered is in the slot, or its closing was ordered, or a chain was started
in its place because its loss was reported. The report is believed: nobody looks whether the channel
is active, and nobody closes it. A transient link takes no notice of such reports. -/
theorem delivered_channels (quiet : o.Quiet) (depth : Nat) {steps : List (Step σ)}
    (ordinary : ∀ s ∈ steps, s.Ordinary) (identity : Identity) (environment : Environment)
    (outside : σ) {l : Link σ} (reached : l = run o depth steps (.new identity environment outside))
    (few : l.chains < UInt64.size) : ∀ c ∈ l.deliveries,
      l.channel = some c ∨ (l.tally c).ordered ≠ 0 ∨
        identity.transient = false ∧ l.Abandoned c := by
  intro c mem
  obtain ⟨tended, -⟩ := tended_run quiet depth ordinary identity environment outside reached few
  have same := (identity_kept o identity).run quiet depth ordinary
    (l := .new identity environment outside) rfl
  rw [← reached] at same
  have delivered : (l.tally c).delivered ≠ 0 := by
    rw [← count_deliveries]
    exact Nat.ne_of_gt (List.count_pos_iff.mpr mem)
  rw [← same]
  exact (tended c).known delivered

/-- A link that is told of a loss which did not happen connects anew, and closes nothing. -/
theorem delivered_channels_reported :
    let steps : List (Step Unit) := [.call .connect, .start 0, .answer 0 (.ok 7),
      .call .reportLoss, .start 2, .answer 2 (.ok 8)]
    let l := run .lively 1 steps .sample
    7 ∈ l.deliveries ∧ l.channel = some 8 ∧ (l.tally 7).ordered = 0 ∧ l.Abandoned 7 := by
  intro steps l
  have ordinary : ∀ s ∈ steps, s.Ordinary := by simp [steps, Step.Ordinary]
  have few : l.chains < UInt64.size := by decide
  have fresh : 7 ∈ l.deliveries := by decide
  have here : l.channel = some 8 := by decide
  have unclosed : (l.tally 7).ordered = 0 := by decide
  obtain installed | closed | ⟨-, abandoned⟩ :=
    delivered_channels (l := l) Surroundings.lively_quiet 1 ordinary _ _ () rfl few 7 fresh
  · rw [here] at installed
    cases installed
  · exact absurd unclosed closed
  · exact ⟨fresh, here, unclosed, abandoned⟩

/-- The link holds two channels that are active and were never asked to close: the report of a loss
took the first one out of the slot, and the attempt that followed put the second one in. -/
theorem two_live_channels :
    let steps : List (Step Unit) := [.call .connect, .start 0, .answer 0 (.ok 7),
      .call .reportLoss, .start 2, .answer 2 (.ok 8)]
    let l := run .lively 1 steps .sample
    Surroundings.lively.Quiet ∧ (∀ s ∈ steps, s.Ordinary) ∧ l.deliveries.Nodup ∧
      ¬ ∀ c ∈ l.deliveries, l.channel = some c ∨ Surroundings.lively.isActive l.outside c = false ∨
        (l.tally c).ordered ≠ 0 := by
  intro steps l
  have ordinary : ∀ s ∈ steps, s.Ordinary := by simp [steps, Step.Ordinary]
  have fresh : l.deliveries = [7, 8] := by decide
  have here : l.channel = some 8 := by decide
  have unclosed : (l.tally 7).ordered = 0 := by decide
  refine ⟨Surroundings.lively_quiet, ordinary, by rw [fresh]; decide, fun kept => ?_⟩
  rcases kept 7 (by rw [fresh]; decide) with installed | inactive | closed
  · rw [here] at installed
    cases installed
  · cases inactive
  · exact absurd unclosed closed

end Link

end NodeLink
