import NodeLink.Proofs.Disconnect

/-!
# The edges of the lifecycle

The machine that holds the state of a link validates nothing: any state may be swapped for any
other. Which changes really occur is a property of the link. There are six *edges*, and the changes
that the journal tells of are a *walk* along them, from disconnected to the state the link is in.

Most swaps are for disconnected, which may follow any other state. The swap for connecting that
ends the planning of a retry looks at nothing, and it is the one whose legality rests on the law of
chains: while a chain is in hand, its link is disconnected or connecting. That law is claimed for
links that have started fewer than 2^64 chains, and so is the edge to connecting. The other edges
hold without a bound.
-/

set_option autoImplicit false

namespace NodeLink

open Lifecycle (State Change)

/-- The states that may follow a state. -/
def Lifecycle.State.nexts : State → List State
  | .disconnected => [.connecting]
  | .connecting => [.connected, .disconnected]
  | .connected => [.disconnecting, .disconnected]
  | .disconnecting => [.disconnected]

/-- Every state may be given up. -/
theorem Lifecycle.State.disconnected_mem_nexts {s : State} (h : s ≠ .disconnected) :
    .disconnected ∈ s.nexts := by
  cases s with
  | disconnected => exact absurd rfl h
  | connecting | connected | disconnecting => decide

/-- Changes that lead from one state to another, each of them allowed. -/
inductive Lifecycle.Walk (allowed : State → State → Prop) : State → List Change → State → Prop
  | done (s : State) : Walk allowed s [] s
  | change {c : Change} {cs : List Change} {t : State} (step : allowed c.source c.target)
      (rest : Walk allowed c.target cs t) : Walk allowed c.source (c :: cs) t

namespace Lifecycle.Walk

variable {allowed more : State → State → Prop} {s t u : State} {cs ds : List Change}

theorem append (first : Walk allowed s cs t) (second : Walk allowed t ds u) :
    Walk allowed s (cs ++ ds) u := by
  induction first with
  | done => exact second
  | change step _ ih => exact .change step (ih second)

theorem mono (walk : Walk allowed s cs t) (wider : ∀ s t, allowed s t → more s t) :
    Walk more s cs t := by
  induction walk with
  | done s => exact .done s
  | change step _ ih => exact .change (wider _ _ step) ih

/-- Every change of a walk is allowed. -/
theorem step_of_mem (walk : Walk allowed s cs t) {c : Change} (mem : c ∈ cs) :
    allowed c.source c.target := by
  induction walk with
  | done => cases mem
  | change step _ ih =>
    rcases List.mem_cons.mp mem with rfl | later
    · exact step
    · exact ih later

end Lifecycle.Walk

open Lifecycle (Walk)

/-- The change that an act tells of. -/
def Act.change? : Act → Option Change
  | .changed c _ => some c
  | _ => none

namespace Link

variable {σ : Type} {o : Surroundings σ} {l k l' : Link σ} {allowed more : State → State → Prop}

/-- The changes of state that the journal tells of, oldest first. -/
def changes (l : Link σ) : List Change := l.journal.filterMap Act.change?

@[simp] theorem change_passage (l : Link σ) (next : State) :
    (l.passage next).filterMap Act.change? = if l.state = next then [] else [⟨l.state, next⟩] := by
  unfold passage
  split <;> rfl

@[simp] theorem change_of_traces {acts : List Act}
    (traces : acts.all (Act.isTraceBut [.state]) = true) : acts.filterMap Act.change? = [] :=
  Act.filterMap_of_traces traces fun a trace => by cases a <;> first | rfl | cases trace

/-! ## What operations do to the state -/

/-- From one link to another the journal tells of a walk. -/
def Walks (allowed : State → State → Prop) (l l' : Link σ) : Prop :=
  ∃ cs, l'.changes = l.changes ++ cs ∧ Walk allowed l.state cs l'.state

namespace Walks

theorem trans (first : Walks allowed l k) (second : Walks allowed k l') : Walks allowed l l' := by
  obtain ⟨cs, changes, walk⟩ := first
  obtain ⟨ds, changes', walk'⟩ := second
  exact ⟨cs ++ ds, by rw [changes', changes, List.append_assoc], walk.append walk'⟩

theorem mono (walks : Walks allowed l l') (wider : ∀ s t, allowed s t → more s t) :
    Walks more l l' := by
  obtain ⟨cs, changes, walk⟩ := walks
  exact ⟨cs, changes, walk.mono wider⟩

/-- The state did not change. -/
theorem still (changes : l'.changes = l.changes) (state : l'.state = l.state) :
    Walks allowed l l' :=
  ⟨[], by rw [changes, List.append_nil], state ▸ .done _⟩

/-- The state was swapped once. -/
theorem swap {acts : List Act} (next : State) (journal : l'.journal = l.journal ++ acts)
    (passed : acts.filterMap Act.change? = (l.passage next).filterMap Act.change?)
    (state : l'.state = next) (step : l.state ≠ next → allowed l.state next) :
    Walks allowed l l' := by
  refine ⟨(l.passage next).filterMap Act.change?, ?_, ?_⟩
  · rw [changes, journal, List.filterMap_append, passed]
    rfl
  · rw [change_passage, state]
    split
    next same =>
      rw [same]
      exact .done next
    next other => exact .change (c := ⟨l.state, next⟩) (step other) (.done next)

end Walks

/-- The edges, without the one by which a teardown begins. -/
def Plain (s t : State) : Prop := t ∈ s.nexts ∧ t ≠ .disconnecting

theorem plain_disconnected {s : State} (h : s ≠ .disconnected) : Plain s .disconnected :=
  ⟨State.disconnected_mem_nexts h, by decide⟩

theorem walks_note (l : Link σ) {a : Act} (none : a.change? = none) :
    Walks allowed l (l.note a) :=
  .still (by simp [changes, note, none]) rfl

theorem walks_drop (l : Link σ) : Walks Plain l l.drop := by
  refine .swap _ (Entry.drop l).journal ?_ (state_drop l) plain_disconnected
  simp

theorem walks_setOut (bootstrap : Bool) (down : l.state = .disconnected) :
    Walks Plain l (l.setOut bootstrap) := by
  refine .swap .connecting (Entry.setOut l bootstrap).journal ?_ (state_setOut ..) fun _ => ?_
  · simp [settingOut, Act.change?]
  · rw [down]
    exact ⟨by decide, by decide⟩

/-- A link that is not connected hangs up by dropping its channel, if it does anything. -/
theorem walks_hangUp (h : l.state ≠ .connected) : Walks Plain l l.hangUp := by
  cases hs : l.state with
  | disconnected | disconnecting =>
    simp only [hangUp, hs]
    exact .still rfl rfl
  | connecting =>
    simp only [hangUp, hs]
    have barred : Walks Plain l l.bar := .still rfl rfl
    exact barred.trans (walks_drop _)
  | connected => exact absurd hs h

/-- A connected link hangs up by way of a teardown. -/
theorem walks_hangUp_connected (h : l.state = .connected) :
    l.hangUp.changes = l.changes ++ [⟨.connected, .disconnecting⟩] ∧
      l.hangUp.state = .disconnecting := by
  constructor
  · rw [changes, journal_hangUp, List.filterMap_append]
    simp [hangingUp, h, changes, Act.change?]
  · simp only [hangUp, h, bar, shift_eq, issue, spawn, note]
    exact Lifecycle.Machine.current_transition _ _

theorem walks_turnAway (l : Link σ) (ticket : Option TicketId) (answer : Except Fault ChannelId) :
    Walks allowed l (l.turnAway ticket answer) := by
  refine .still ?_ (by rw [turnAway_eq]; rfl)
  rw [changes, (Entry.turnAway l ticket answer).journal]
  simp [changes]

theorem walks_undo (l : Link σ) (ticket : Option TicketId) (answer : Except Fault ChannelId) :
    Walks Plain l (l.undo ticket answer) := by
  refine .swap _ (Entry.undo l ticket answer).journal ?_ (state_undo ..) plain_disconnected
  simp

theorem walks_putToUse (ticket : Option TicketId) (c : ChannelId)
    (connecting : l.state = .connecting) : Walks Plain l (l.putToUse ticket c) := by
  refine .swap .connected (Entry.putToUse l ticket c).journal ?_ (state_putToUse ..) fun _ => ?_
  · simp [Act.change?, List.filterMap_cons]
  · rw [connecting]
    exact ⟨by decide, by decide⟩

theorem walks_giveUp (l : Link σ) (ticket : Option TicketId) (cause : Fault) :
    Walks Plain l (l.giveUp ticket cause) := by
  refine .swap _ (Entry.giveUp l ticket cause).journal ?_ (state_giveUp ..) plain_disconnected
  simp

theorem walks_settle? (l : Link σ) (ticket : Option TicketId) (outcome : Outcome) :
    Walks allowed l (l.settle? ticket outcome) := by
  refine .still ?_ (by rw [settle?_eq]; rfl)
  rw [changes, (Entry.settle? l ticket outcome).journal]
  simp [changes]

theorem walks_takeUp (l : Link σ) (ticket : Option TicketId) (bootstrap : Bool) (cause : Fault) :
    Walks Plain l (l.takeUp ticket bootstrap cause) := by
  unfold takeUp
  split
  · exact walks_giveUp l ticket cause
  · split
    · exact walks_settle? l ticket (.error cause)
    · exact .still rfl rfl

/-- Planning a retry swaps the state for connecting, whatever it is. -/
theorem walks_plan (delay : Nat) (epoch : UInt64) (ticket : Option TicketId)
    (step : l.state ≠ .connecting → allowed l.state .connecting) :
    Walks allowed l (l.plan delay epoch ticket) := by
  refine .swap .connecting (Entry.plan l delay epoch ticket).journal ?_ (state_plan ..) step
  simp [Act.change?, List.filterMap_cons]

/-- Strokes go along edges, and begin a teardown only when a connected link hangs up. -/
theorem Stroke.walks (h : Stroke l l') :
    Walks Plain l l' ∨ l.state = .connected ∧ l' = hangUp (l.note (.called .disconnect)) := by
  cases h with
  | drifted | counted | marked => exact .inl (.still rfl rfl)
  | attended current => exact .inl (.still rfl current)
  | @noted a plain =>
    refine .inl (walks_note l ?_)
    cases a <;> first | rfl | cases plain
  | returned | ignored => exact .inl (walks_note l rfl)
  | spawned => exact .inl (.still (by simp [changes, spawn, note, Act.change?]) rfl)
  | opened _ down => exact .inl ((walks_note l rfl).trans (walks_setOut true down))
  | restarted => exact .inl ((walks_drop l).trans (walks_setOut false (state_drop l)))
  | dropped => exact .inl (walks_drop l)
  | hungUp =>
    by_cases connected : l.state = .connected
    · exact .inr ⟨connected, rfl⟩
    · exact .inl ((walks_note l rfl).trans (walks_hangUp connected))

/-- Turns go along edges, and begin no teardown. -/
theorem Turn.walks {s : Step σ} (h : Turn s l l')
    (parted : l.disconnected = true → l.state ≠ .connected) : Walks Plain l l' := by
  have finished : ∀ id, Walks Plain l (l.finish id) := fun _ => .still rfl rfl
  have taken : ∀ id answer, Walks Plain l (l.take id answer) :=
    fun id _ => (finished id).trans (walks_note _ rfl)
  cases h with
  | dialed | redialed | tearing | cleaning =>
    exact .still (by simp [changes, note, become, Act.change?]) rfl
  | @abandoned _ id _ _ _ _ barred => exact (finished id).trans (walks_hangUp (parted barred))
  | @toreDown _ _ id => exact ((finished id).trans (walks_drop _)).trans (walks_note _ rfl)
  | ended => exact finished _
  | turnedAway _ _ _ answer => exact (taken _ answer).trans (walks_turnAway ..)
  | undone _ _ _ _ answer => exact (taken _ answer).trans (walks_undo ..)
  | succeeded _ _ _ _ connecting c => exact (taken _ (.ok c)).trans (walks_putToUse _ c connecting)
  | collided _ _ _ _ _ c =>
    exact ((taken _ (.ok c)).trans (walks_note _ rfl)).trans (walks_undo ..)
  | gaveUp _ _ _ _ _ _ cause => exact (taken _ (.error cause)).trans (walks_giveUp ..)

/-! ## Every run is a walk -/

/-- The edges. The one to connecting may be taken from anywhere once epochs have wrapped round. -/
def Edge (wrapped : Prop) (s t : State) : Prop := t ∈ s.nexts ∨ wrapped ∧ t = .connecting

theorem Edge.of_plain (wrapped : Prop) (s t : State) (h : Plain s t) : Edge wrapped s t := .inl h.1

/-- The law of edges. -/
structure Orderly (l : Link σ) : Prop where
  walk : Walk (Edge (UInt64.size ≤ l.chains)) .disconnected l.changes l.state
  /-- A teardown begins once, and then a disconnect was asked for. -/
  once : l.changes.countP (·.target = .disconnecting) ≤ if l.disconnected then 1 else 0

namespace Orderly

/-- A walk may always go on along an edge. -/
theorem onward (orderly : Orderly l)
    (grown : l.chains ≤ l'.chains) (walks : Walks (Edge (UInt64.size ≤ l'.chains)) l l') :
    Walk (Edge (UInt64.size ≤ l'.chains)) .disconnected l'.changes l'.state := by
  obtain ⟨cs, changes, walk⟩ := walks
  rw [changes]
  refine (orderly.walk.mono fun s t edge => ?_).append walk
  exact edge.imp_right fun wrapped => ⟨Nat.le_trans wrapped.1 grown, wrapped.2⟩

/-- What begins no teardown may always follow. -/
theorem plain (orderly : Orderly l) (grown : l.chains ≤ l'.chains) (walks : Walks Plain l l')
    (flag : l.disconnected = true → l'.disconnected = true) : Orderly l' := by
  refine ⟨orderly.onward grown (walks.mono (Edge.of_plain _)), ?_⟩
  obtain ⟨cs, changes, walk⟩ := walks
  have none : cs.countP (·.target = .disconnecting) = 0 :=
    List.countP_eq_zero.mpr fun c hc => by simpa using (walk.step_of_mem hc).2
  rw [changes, List.countP_append, none, Nat.add_zero]
  refine Nat.le_trans orderly.once ?_
  cases barred : l.disconnected with
  | false => exact Nat.zero_le _
  | true => simp [flag barred]

theorem stroke (h : Stroke l l') (parted : l.disconnected = true → l.state ≠ .connected)
    (orderly : Orderly l) : Orderly l' := by
  have grown := chains_le h.journal
  rcases h.walks with walks | ⟨connected, rfl⟩
  · refine orderly.plain grown walks fun barred => ?_
    rcases h.disconnected with same | rfl
    · exact same.trans barred
    · exact disconnected_hangUp _
  · have connected' : (l.note (.called .disconnect)).state = .connected := connected
    obtain ⟨changes, state⟩ := walks_hangUp_connected connected'
    have wanted : l.disconnected = false := by
      cases barred : l.disconnected with
      | false => rfl
      | true => exact absurd connected (parted barred)
    have told : (l.note (.called .disconnect)).changes = l.changes := by
      simp [Link.changes, note, Act.change?]
    rw [told] at changes
    have edge : Edge (UInt64.size ≤ (hangUp (l.note (.called .disconnect))).chains)
        .connected .disconnecting := .inl (by decide)
    refine ⟨orderly.onward grown ⟨_, changes, ?_⟩, ?_⟩
    · rw [state, connected]
      exact .change (c := ⟨.connected, .disconnecting⟩) edge (.done _)
    · have once := orderly.once
      rw [wanted] at once
      rw [changes, List.countP_append, disconnected_hangUp]
      simpa using once

end Orderly

/-- A link that is in hand is disconnected or connecting, so that the swap for connecting is no
change or an edge. -/
theorem Sound.edge_plan {loose wrapped : Prop} {hand : Hand}
    (sound : Sound loose (some hand) l.core) (up : l.state ≠ .connecting) :
    Edge wrapped l.state .connecting := by
  rcases sound.of_inHand.2 with down | ⟨connecting, -⟩
  · have down : l.state = .disconnected := down
    rw [down]
    exact .inl (by decide)
  · exact absurd connecting up

/-- What the law of edges rests on: the law of chains, and that a link which was to be disconnected
is not connected. -/
theorem orderly_kept (o : Surroundings σ) : Kept o fun hand l =>
    ((Numbered l ∧ (l.chains < UInt64.size → Sound (¬ o.Firm) hand l.core)) ∧
      (l.disconnected = true → l.state ≠ .connected)) ∧ Orderly l := by
  refine KeptUnder.kept (Q := fun _ l => Orderly l) ?_ ((sound_kept o).and (parted_kept o))
  exact {
    stroke := fun h law _ orderly => orderly.stroke h law.2
    turn := fun h law _ orderly =>
      orderly.plain (Nat.le_of_eq h.chains.symm) (h.walks law.2) h.disconnected.trans
    takeUp := fun {l id ticket bootstrap _} cause up _ orderly => by
      have taken : Walks Plain l (l.take id (.error cause)) :=
        Walks.trans (.still rfl rfl) (walks_note (l.finish id) rfl)
      have noticed := taken.trans (walks_takeUp _ ticket bootstrap cause)
      refine orderly.plain ?_ (noticed.trans (walks_note _ rfl)) fun barred => ?_
      · exact chains_le ((Entry.take l id (.error cause)).grows.trans
          (Entry.takeUp _ ticket bootstrap cause).grows)
      · exact absurd (up.wanted.symm.trans barred) (by decide)
    plan := fun {hand l} delay law orderly => by
      have same : (l.plan delay hand.epoch hand.ticket).chains = l.chains := by
        rw [← chains_core, core_plan]
        rfl
      have walks : Walks (Edge (UInt64.size ≤ l.chains)) l
          (l.plan delay hand.epoch hand.ticket) := by
        refine walks_plan delay hand.epoch hand.ticket fun up => ?_
        rcases Nat.lt_or_ge l.chains UInt64.size with few | many
        · exact (law.1.2 few).edge_plan up
        · exact .inr ⟨many, rfl⟩
      refine ⟨orderly.onward (Nat.le_of_eq same.symm) (same ▸ walks), ?_⟩
      have told : (l.plan delay hand.epoch hand.ticket).changes.countP
          (·.target = .disconnecting) = l.changes.countP (·.target = .disconnecting) := by
        rw [changes, (Entry.plan l delay hand.epoch hand.ticket).journal]
        by_cases up : l.state = .connecting <;> simp [changes, up, List.filterMap_cons, Act.change?]
      rw [told, plan_eq]
      exact orderly.once
    breakDown := fun {hand l} _ _ orderly => by
      refine orderly.plain ?_ (walks_settle? l hand.ticket (.error .dropped)) fun barred => ?_
      · exact chains_le (Entry.settle? ..).grows
      · rw [settle?_eq]
        exact barred }

/-- The changes of state that the journal tells of lead from disconnected to the state that the
link is in. Every one of them is one of the six edges. A teardown begins at most once, and from
connected. Only for the edge to connecting this rests on epochs that have not wrapped round. -/
theorem lifecycle_edges (quiet : o.Quiet) (depth : Nat) {steps : List (Step σ)}
    (ordinary : ∀ s ∈ steps, s.Ordinary) (identity : Identity) (environment : Environment)
    (outside : σ) {l : Link σ}
    (reached : l = run o depth steps (.new identity environment outside)) :
    (l.chains < UInt64.size →
      Walk (fun s t => t ∈ s.nexts) .disconnected l.changes l.state) ∧
    (∀ c ∈ l.changes, c.target ≠ .connecting → c.target ∈ c.source.nexts) ∧
    l.changes.countP (·.target = .disconnecting) ≤ 1 := by
  have start : ((Numbered (Link.new identity environment outside) ∧
      ((Link.new identity environment outside).chains < UInt64.size →
        Sound (¬ o.Firm) none (Link.new identity environment outside).core)) ∧
      ((Link.new identity environment outside).disconnected = true →
        (Link.new identity environment outside).state ≠ .connected)) ∧
      Orderly (Link.new identity environment outside) :=
    ⟨⟨⟨.new .., fun _ => .new ..⟩, fun barred => absurd barred Bool.false_ne_true⟩, .done _,
      Nat.zero_le _⟩
  have orderly := ((orderly_kept o).run quiet depth ordinary start).2
  rw [← reached] at orderly
  refine ⟨fun few => orderly.walk.mono fun s t edge => ?_, fun c mem other => ?_, ?_⟩
  · exact edge.resolve_right fun wrapped => absurd wrapped.1 (Nat.not_le.mpr few)
  · exact (orderly.walk.step_of_mem mem).resolve_right fun wrapped => other wrapped.2
  · refine Nat.le_trans orderly.once ?_
    split <;> decide

/-- A link whose first attempt is refused, which loses its first channel and tears down its second,
goes along every edge. -/
theorem lifecycle_edges_all :
    let steps : List (Step Unit) := [.call .connect, .start 0,
      .answer 0 (.error (.connectRefused "")), .start 1, .answer 1 (.ok 7), .call .reportLoss,
      .start 4, .answer 4 (.ok 8), .call .disconnect, .start 7, .closed 7 none]
    let l := run .insistent 1 steps .sample
    l.chains < UInt64.size ∧ Walk (fun s t => t ∈ s.nexts) .disconnected l.changes l.state ∧
      (∀ s, ∀ t ∈ s.nexts, ⟨s, t⟩ ∈ l.changes) ∧
      l.changes.countP (·.target = .disconnecting) ≤ 1 := by
  intro steps l
  have ordinary : ∀ s ∈ steps, s.Ordinary := by simp [steps, Step.Ordinary]
  have few : l.chains < UInt64.size := by decide
  obtain ⟨walk, -, once⟩ := lifecycle_edges (l := l) Surroundings.insistent_quiet 1 ordinary _ _ ()
    rfl
  refine ⟨few, walk few, fun s => ?_, once⟩
  cases s <;> decide

end Link

end NodeLink
