import NodeLink.Proofs.Flushing
import NodeLink.Proofs.Transient

/-!
# Requests that overlap a flush

A link marks that it wrote something after the write, and takes the mark away after a flush. When
the surroundings call the link while a channel writes or flushes, the mark may come to be wrong:
what is written while a flush is under way is not remembered, and no later call flushes it.

Nothing else is forgotten. A write that began while no flush was under way is remembered as long as
its channel stays installed and no flush of it has begun, whatever calls are made meanwhile and to
whatever depth. What carries this is that calls are bracketed: a call for a flush that is made in
the course of another one has returned before that one does, so at the end of a flush all writes
since its beginning were made within it.
-/

set_option autoImplicit false

namespace NodeLink

open Lifecycle (State)

/-- Surroundings that send one more request while a channel is flushed. -/
def Surroundings.eager : Surroundings Unit where
  react k s :=
    match k with
    | .flushing _ => ([.send ⟨1, [129]⟩], s)
    | _ => ([], s)
  accept _ s := (none, s)
  delay _ s := (some 0, s)
  stages s := ([], s)
  traces _ := false
  isActive _ _ := true
  isWritable _ _ := true
  remote _ _ := none

/-! ## Flushes under way -/

/-- How many calls for a flush have not returned after some acts. -/
def flushing (acts : List Act) : Int :=
  (acts.count (.called .flush) : Int) - acts.count (.returned .flush)

/-- Something was written to a channel when no flush was under way, and since then the channel was
not installed and no flush of it has begun. -/
def Owed (c : ChannelId) (acts : List Act) : Prop :=
  ∃ before r after, acts = before ++ .wrote c r :: after ∧ flushing before = 0 ∧
    .installed c ∉ after ∧ .flushed c ∉ after

/-- Calls for a flush return, and none returns that was not made. -/
structure Bracketed (acts : List Act) : Prop where
  closed : flushing acts = 0
  opened : ∀ {before after : List Act}, acts = before ++ after → 0 ≤ flushing before

/-- Whether an act is a write, or the beginning or the end of a call for a flush. -/
def Act.bears : Act → Bool
  | .called c | .returned c => c == .flush
  | .wrote .. => true
  | _ => false

variable {acts more : List Act}

@[simp] theorem flushing_append (acts more : List Act) :
    flushing (acts ++ more) = flushing acts + flushing more := by
  simp only [flushing, List.count_append]
  omega

theorem flushing_plain (plain : acts.any Act.bears = false) : flushing acts = 0 := by
  have absent : ∀ a : Act, a.bears = true → acts.count a = 0 := fun a bears =>
    List.count_eq_zero.mpr fun mem => List.any_eq_false.mp plain a mem bears
  rw [flushing, absent (.called .flush) rfl, absent (.returned .flush) rfl]
  rfl

@[simp] theorem flushing_called (acts : List Act) :
    flushing (.called .flush :: acts) = flushing acts + 1 := by
  simp [flushing]
  omega

@[simp] theorem flushing_returned : flushing [.returned .flush] = -1 := by decide

theorem flushing_cons_flushed (c : ChannelId) (acts : List Act) :
    flushing (.flushed c :: acts) = flushing acts := by
  simp [flushing]

/-- What no act of a turn does. -/
theorem Act.bears_of_turns (turns : acts.all Act.ofTurn = true) : acts.any Act.bears = false :=
  Act.any_of_turns turns fun a turn => by cases a <;> first | rfl | cases turn

theorem Act.bears_of_traces (traces : acts.all Act.isTrace = true) : acts.any Act.bears = false :=
  Act.bears_of_turns (Act.turns_of_traces traces)

namespace Bracketed

theorem plain (plain : acts.any Act.bears = false) : Bracketed acts where
  closed := flushing_plain plain
  opened {before after} split := by
    rw [split, List.any_append, Bool.or_eq_false_iff] at plain
    exact Int.le_of_eq (flushing_plain plain.1).symm

theorem append (first : Bracketed acts) (second : Bracketed more) : Bracketed (acts ++ more) where
  closed := by rw [flushing_append, first.closed, second.closed]; rfl
  opened {before after} split := by
    rcases List.append_eq_append_iff.mp split with ⟨between, rfl, rest⟩ | ⟨between, rest, -⟩
    · rw [flushing_append, first.closed, Int.zero_add]
      exact second.opened rest
    · exact first.opened rest

/-- A single act is bracketed if it is neither the beginning nor the end of a call for a flush. -/
theorem single {a : Act} (zero : flushing [a] = 0) : Bracketed [a] where
  closed := zero
  opened {before after} split := by
    rcases List.singleton_eq_append_iff.mp split with ⟨rfl, -⟩ | ⟨rfl, -⟩
    · exact Int.le_refl 0
    · exact Int.le_of_eq zero.symm

/-- What happens in a call for a flush is bracketed by it. -/
theorem flush (inside : Bracketed acts) :
    Bracketed (.called .flush :: (acts ++ [.returned .flush])) where
  closed := by
    rw [flushing_called, flushing_append, inside.closed, flushing_returned]
    rfl
  opened {before after} split := by
    cases before with
    | nil => exact Int.le_refl 0
    | cons a before =>
      rw [List.cons_append, List.cons.injEq] at split
      obtain ⟨rfl, split⟩ := split
      rw [flushing_called]
      rcases List.append_eq_append_iff.mp split with ⟨between, rfl, rest⟩ | ⟨between, rest, -⟩
      · rw [flushing_append, inside.closed]
        rcases List.singleton_eq_append_iff.mp rest with ⟨rfl, -⟩ | ⟨rfl, -⟩ <;> decide
      · have := inside.opened rest
        omega

end Bracketed

/-- Bracketed acts leave as many flushes under way as before. -/
theorem Bracketed.flushing_eq (bracketed : Bracketed more) (acts : List Act) :
    flushing (acts ++ more) = flushing acts := by
  rw [flushing_append, bracketed.closed, Int.add_zero]

/-- What is owed after acts that write nothing was owed before. -/
theorem Owed.of_append {c : ChannelId} (owed : Owed c (acts ++ more))
    (silent : ∀ r, .wrote c r ∉ more) : Owed c acts ∧ .installed c ∉ more := by
  obtain ⟨before, r, after, split, idle, installed, flushed⟩ := owed
  rcases Link.append_split split with ⟨between, within, rfl⟩ | ⟨between, -, within⟩
  · simp only [List.mem_append, not_or] at installed flushed
    exact ⟨⟨before, r, between, within, idle, installed.1, flushed.1⟩, installed.2⟩
  · exact absurd (within ▸ List.mem_append_right between List.mem_cons_self) (silent r)

/-- An act other than the first stands behind it. -/
theorem cons_split {a b : Act} {before after : List Act}
    (split : a :: acts = before ++ b :: after) (other : b ≠ a) :
    ∃ rest, before = a :: rest ∧ acts = rest ++ b :: after := by
  rcases List.cons_eq_append_iff.mp split with ⟨-, same⟩ | ⟨rest, rfl, rfl⟩
  · exact absurd (List.cons.inj same).1 other
  · exact ⟨rest, rfl, rfl⟩

/-- After a flush nothing is owed: what was written before was flushed, and what was written since
was written while the flush was under way. -/
theorem not_owed_flushed {c : ChannelId} (opened : 0 ≤ flushing acts) (inside : Bracketed more) :
    ¬ Owed c (acts ++ .called .flush :: .flushed c :: (more ++ [.returned .flush])) := by
  rintro ⟨before, r, after, split, idle, -, flushed⟩
  rcases Link.append_split split with ⟨between, -, rfl⟩ | ⟨between, rfl, within⟩
  · exact flushed (by simp)
  · obtain ⟨_, rfl, second⟩ := cons_split within nofun
    obtain ⟨_, rfl, third⟩ := cons_split second nofun
    rcases Link.append_split third with ⟨rest, nested, -⟩ | ⟨rest, -, last⟩
    · have nested := inside.opened nested
      rw [flushing_append, flushing_called, flushing_cons_flushed] at idle
      omega
    · cases rest <;> simp at last

namespace Link

variable {σ : Type} {o : Surroundings σ} {l k l' : Link σ}

/-! ## The mark -/

/-- A link remembers what it owes its channel. -/
structure Mindful (l : Link σ) : Prop where
  opened : 0 ≤ flushing l.journal
  marked : ∀ {c}, l.state = .connected → l.channel = some c → Owed c l.journal →
    l.hasWritten = true

theorem Mindful.new (identity : Identity) (environment : Environment) (outside : σ) :
    Mindful (Link.new identity environment outside) := ⟨Int.le_refl 0, nofun⟩

/-- A change without writes and flushes leaves the link as it was, or not connected, or with a
channel that it has just installed. -/
theorem Mindful.change (mindful : Mindful l) (journal : l'.journal = l.journal ++ acts)
    (plain : acts.any Act.bears = false)
    (change : l'.state ≠ .connected ∨ (∃ c, l'.channel = some c ∧ .installed c ∈ acts) ∨
      l'.state = l.state ∧ (∀ c, l'.channel = some c → l.channel = some c) ∧
        l'.hasWritten = l.hasWritten) : Mindful l' where
  opened := by
    rw [journal, (Bracketed.plain plain).flushing_eq]
    exact mindful.opened
  marked {c} connected slot owed := by
    have silent : ∀ r, .wrote c r ∉ acts := fun r mem => List.any_eq_false.mp plain _ mem rfl
    rw [journal] at owed
    obtain ⟨owed, installed⟩ := owed.of_append silent
    rcases change with apart | ⟨d, slot', installed'⟩ | ⟨state, channel, mark⟩
    · exact absurd connected apart
    · obtain rfl : d = c := Option.some.inj (slot'.symm.trans slot)
      exact absurd installed' installed
    · rw [mark]
      exact mindful.marked (state.symm.trans connected) (channel c slot) owed

/-! ## Calls -/

/-- What every call keeps: it puts no channel into the slot, its flushes are bracketed, and what is
owed is remembered. -/
structure Retains (l l' : Link σ) : Prop where
  slot : ∀ c, l'.channel = some c → l.channel = some c
  journal : ∃ acts, l'.journal = l.journal ++ acts ∧ Bracketed acts
  mindful : Mindful l → Mindful l'

namespace Retains

/-- A change without writes and flushes. -/
theorem of (acts : List Act) (journal : l'.journal = l.journal ++ acts)
    (plain : acts.any Act.bears = false) (slot : ∀ c, l'.channel = some c → l.channel = some c)
    (change : l'.state ≠ .connected ∨ l'.state = l.state ∧ l'.hasWritten = l.hasWritten) :
    Retains l l' where
  slot := slot
  journal := ⟨acts, journal, .plain plain⟩
  mindful mindful := mindful.change journal plain <| change.imp_right fun same =>
    .inr ⟨same.1, slot, same.2⟩

theorem amid (l : Link σ) (s : σ) : Retains l (l.amid s) :=
  of [] (List.append_nil _).symm rfl (fun _ => id) (.inr ⟨rfl, rfl⟩)

theorem trans (first : Retains l k) (second : Retains k l') : Retains l l' where
  slot c slot := first.slot c (second.slot c slot)
  journal := by
    obtain ⟨acts, grown, bracketed⟩ := first.journal
    obtain ⟨more, grown', bracketed'⟩ := second.journal
    exact ⟨acts ++ more, by rw [grown', grown, List.append_assoc], bracketed.append bracketed'⟩
  mindful mindful := second.mindful (first.mindful mindful)

theorem note (l : Link σ) {a : Act} (plain : a.bears = false) : Retains l (l.note a) :=
  of [a] rfl (by simp [plain]) (fun _ => id) (.inr ⟨rfl, rfl⟩)

theorem count (l : Link σ) (c : Counter) : Retains l (l.count c) :=
  of [] (List.append_nil _).symm rfl (fun _ => id) (.inr ⟨rfl, rfl⟩)

theorem spawn (l : Link σ) (j : Job) : Retains l (l.spawn j) :=
  of [.spawned l.jobCount j] rfl rfl (fun _ => id) (.inr ⟨rfl, rfl⟩)

theorem setOut (l : Link σ) (bootstrap : Bool) : Retains l (l.setOut bootstrap) := by
  refine of _ (Entry.setOut l bootstrap).journal ?_ ?_ (.inl ?_)
  · simp [settingOut, Act.bears, Act.bears_of_traces (traces_passage _ _ List.not_mem_nil)]
  · rw [setOut_eq]
    exact fun _ => id
  · exact (state_setOut l bootstrap).trans_ne (by decide)

theorem drop (l : Link σ) : Retains l l.drop := by
  refine of _ (Entry.drop l).journal (Act.bears_of_traces (by simp)) ?_ (.inl ?_)
  · rw [drop_eq]
    exact nofun
  · exact (state_drop l).trans_ne (by decide)

theorem hangUp (l : Link σ) : Retains l l.hangUp := by
  refine of _ (journal_hangUp l) (Act.bears_of_traces (by simp)) ?_
    (.inl (state_hangUp_ne l))
  unfold Link.hangUp
  split
  · exact fun _ => id
  · exact fun _ => id
  · exact (Retains.drop _).slot
  · simp only [shift_eq]
    exact fun _ => id

/-- A call for a flush that flushes nothing. -/
theorem passed (l : Link σ) : Retains l ((l.note (.called .flush)).note (.returned .flush)) := by
  have grown : ((l.note (.called .flush)).note (.returned .flush)).journal =
      l.journal ++ [.called .flush, .returned .flush] := by simp [Link.note]
  have nothing : Bracketed [] := .plain rfl
  have inside : Bracketed [.called .flush, .returned .flush] := nothing.flush
  refine ⟨fun _ => id, ⟨_, grown, inside⟩, fun mindful => ⟨?_, ?_⟩⟩
  · rw [grown, inside.flushing_eq]
    exact mindful.opened
  · intro c connected slot owed
    rw [grown] at owed
    exact mindful.marked connected slot (owed.of_append (by simp)).1

theorem finish (l : Link σ) (id : JobId) : Retains l (l.finish id) :=
  of [] (List.append_nil _).symm rfl (fun _ slot => slot) (.inr ⟨rfl, rfl⟩)

theorem consult (l : Link σ) : Retains l l.consult :=
  of [.consulted l.reconnectAttempt] rfl rfl (fun _ => id) (.inr ⟨rfl, rfl⟩)

theorem settle? (l : Link σ) (ticket : Option TicketId) (outcome : Outcome) :
    Retains l (l.settle? ticket outcome) := by
  refine of _ (Entry.settle? l ticket outcome).journal (Act.bears_of_traces (by simp)) ?_ ?_ <;>
    rw [settle?_eq]
  · exact fun _ => id
  · exact .inr ⟨rfl, rfl⟩

/-- A failed attempt is taken up, and the backoff is consulted. -/
theorem takeUp (l : Link σ) (ticket : Option TicketId) (bootstrap : Bool) (cause : Fault) :
    Retains l (l.takeUp ticket bootstrap cause).consult := by
  refine trans ?_ (consult _)
  unfold Link.takeUp
  split
  · refine of _ (Entry.giveUp l ticket cause).journal (Act.bears_of_traces (by simp)) ?_ (.inl ?_)
    · rw [giveUp_eq]
      exact fun _ => id
    · exact (state_giveUp l ticket cause).trans_ne (by decide)
  · split
    · exact settle? l ticket (.error cause)
    · exact amid l l.outside

theorem plan (l : Link σ) (delay : Nat) (epoch : UInt64) (ticket : Option TicketId) :
    Retains l (l.plan delay epoch ticket) := by
  refine of _ (Entry.plan l delay epoch ticket).journal ?_ ?_ (.inl ?_)
  · simp [Act.bears, Act.bears_of_traces (traces_passage _ _ List.not_mem_nil),
      Act.bears_of_traces (traces_settling _ _ List.not_mem_nil)]
  · rw [plan_eq]
    exact fun _ => id
  · exact (state_plan l delay epoch ticket).trans_ne (by decide)

section Calls

variable {R : Occasion → Link σ → Link σ → Prop} (within : ∀ {k l l'}, R k l l' → Retains l l')
include within

theorem of_reloads (h : Reloads R l l') : Retains l l' := by
  cases h with
  | mk meanwhile refusal s =>
    exact (((count l _).trans (within meanwhile)).trans (note _ rfl)).trans (amid _ s)

theorem of_loses (h : Loses R l l') : Retains l l' := by
  have counted : ∀ s, Retains l ((l.count .loss).amid s) :=
    fun s => (count l _).trans (amid _ s)
  cases h with
  | heedless => exact amid l l.outside
  | down _ _ s => exact counted s
  | @restarted k _ _ s reloads _ t =>
    have dropped := ((counted s).trans (of_reloads within reloads)).trans (drop k)
    exact ((dropped.trans (setOut _ false)).trans (spawn _ _)).trans (amid _ t)
  | @dropped k _ _ s reloads _ t =>
    have dropped := ((counted s).trans (of_reloads within reloads)).trans (drop k)
    exact (dropped.trans (spawn _ _)).trans (amid _ t)

/-- A flush leaves nothing owed to its channel. -/
theorem flushed {c : ChannelId} (slot : l.channel = some c)
    (meanwhile : R (.flushing c) ((l.note (.called .flush)).note (.flushed c)) k) :
    Retains l ({ k with hasWritten := false }.note (.returned .flush)) := by
  obtain ⟨shrinks, ⟨acts, grown, bracketed⟩, -⟩ := within meanwhile
  have grown : k.journal ++ [.returned .flush] =
      l.journal ++ .called .flush :: .flushed c :: (acts ++ [.returned .flush]) := by
    rw [grown]
    simp [Link.note]
  have begun : Bracketed [.flushed c] := .plain rfl
  have inside : Bracketed (.flushed c :: acts) := begun.append bracketed
  refine ⟨fun d slot' => shrinks d slot', ⟨_, grown, inside.flush⟩, fun mindful => ⟨?_, ?_⟩⟩
  · show 0 ≤ flushing (k.journal ++ _)
    rw [grown]
    exact Int.le_trans mindful.opened (Int.le_of_eq (inside.flush.flushing_eq _).symm)
  · intro d _ slot' owed
    obtain rfl : c = d := Option.some.inj (slot.symm.trans (shrinks d slot'))
    have owed : Owed c (k.journal ++ [.returned .flush]) := owed
    rw [grown] at owed
    exact absurd owed (not_owed_flushed mindful.opened bracketed)

/-- A write is remembered. -/
theorem wrote {c : ChannelId} {r : Request}
    (meanwhile : R (.writing c r) ((l.note (.called (.send r))).note (.wrote c r)) k) :
    Retains l ({ k with hasWritten := true }.note (.returned (.send r))) := by
  obtain ⟨shrinks, ⟨acts, grown, bracketed⟩, -⟩ := within meanwhile
  have grown : k.journal ++ [.returned (.send r)] =
      l.journal ++ ([.called (.send r)] ++ [.wrote c r] ++ acts ++ [.returned (.send r)]) := by
    rw [grown]
    simp [Link.note]
  have called : Bracketed [.called (.send r)] := .single (by simp [flushing])
  have written : Bracketed [.wrote c r] := .single (by simp [flushing])
  have returned : Bracketed [.returned (.send r)] := .single (by simp [flushing])
  have inside := ((called.append written).append bracketed).append returned
  refine ⟨shrinks, ⟨_, grown, inside⟩, fun mindful => ⟨?_, fun _ _ _ => rfl⟩⟩
  show 0 ≤ flushing (k.journal ++ _)
  rw [grown]
  exact Int.le_trans mindful.opened (Int.le_of_eq (inside.flushing_eq _).symm)

omit within in
/-- Every call keeps this, if the calls made within it do. -/
theorem of_performs {c : Call} (h : Performs o (Within o Retains) c (l.note (.called c)) k) :
    Retains l (k.note (.returned c)) := by
  have other : c ≠ .flush → Retains (l.note (.called c)) k → Retains l (k.note (.returned c)) := by
    intro other kept
    have called : Act.bears (.called c) = false := by simpa [Act.bears] using other
    exact ((note l called).trans kept).trans (note k called)
  cases h with
  | ignored _ _ s => exact other nofun (amid _ s)
  | opened _ _ _ s => exact other nofun ((setOut _ true).trans (amid _ s))
  | hungUp _ s => exact other nofun ((hangUp _).trans (amid _ s))
  | lost loses => exact other nofun (of_loses And.left loses)
  | reloaded reloads => exact other nofun (of_reloads And.left reloads)
  | flushed _ _ slot _ meanwhile => exact flushed And.left slot meanwhile
  | unflushed => exact passed l
  | wrote _ _ _ _ meanwhile => exact wrote And.left meanwhile
  | @redirected _ k r _ s meanwhile refusal t =>
    apply other nofun
    have plain : (redirecting r refusal).any Act.bears = false := by cases refusal <;> rfl
    have published := ((count (l.note (.called (.send r))) _).trans (amid _ s)).trans meanwhile.1
    have offered : Retains k { k with journal := k.journal ++ redirecting r refusal } :=
      of _ rfl plain (fun _ => id) (.inr ⟨rfl, rfl⟩)
    exact (published.trans offered).trans (amid _ t)
  | rejected => exact other nofun ((count _ _).trans (spawn _ _))

end Calls

end Retains

theorem retains_occur (quiet : o.Quiet) (depth : Nat) (k : Occasion) (l : Link σ) :
    Within o Retains k l (occur o (Link.nested o depth) k l) :=
  within_occur Retains.amid Retains.trans
    (within_nested Retains.amid Retains.trans quiet Retains.of_performs depth) k l

/-! ## Steps -/

namespace Mindful

/-- A job that goes on neither writes nor flushes, and connects the link only to a channel that it
installs. -/
theorem turn {s : Step σ} (h : Turn s l k) (mindful : Mindful l) : Mindful k := by
  obtain ⟨acts, grown, turns⟩ := h.acts
  refine mindful.change grown (Act.bears_of_turns turns) ?_
  cases h with
  | dialed | redialed | tearing | cleaning | ended => exact .inr (.inr ⟨rfl, fun _ => id, rfl⟩)
  | abandoned => exact .inl (state_hangUp_ne _)
  | toreDown => exact .inl ((state_drop _).trans_ne (by decide))
  | turnedAway => exact .inr (.inr (by rw [turnAway_eq]; exact ⟨rfl, fun _ => id, rfl⟩))
  | undone => exact .inl ((state_undo _ _ _).trans_ne (by decide))
  | collided => exact .inl ((state_undo _ _ _).trans_ne (by decide))
  | gaveUp => exact .inl ((state_giveUp _ _ _).trans_ne (by decide))
  | @succeeded _ id ticket _ _ _ _ _ _ c =>
    refine .inr (.inl ⟨c, by rw [putToUse_eq], ?_⟩)
    rw [(Entry.trans (.take l id (.ok c)) (.putToUse _ ticket c)).journal] at grown
    have same := List.append_cancel_left grown
    rw [← same]
    simp

/-- Every ordinary step keeps a link mindful. -/
theorem step (mindful : Mindful l) (quiet : o.Quiet) (depth : Nat) {s : Step σ}
    (ordinary : s.Ordinary) : Mindful (Link.step o depth s l) := by
  have course := course_step quiet depth (retains_occur (o := o) quiet depth) ordinary l
  have asked : ∀ {id ticket bootstrap} {cause : Fault} {s : σ} {k : Link σ},
      Retains ((((l.take id (.error cause)).takeUp ticket bootstrap cause).count
        .failure).consult.amid s) k → Mindful k := by
    intro id ticket bootstrap cause s k asked
    have taken := (Retains.finish l id).trans (.note _ (a := .answered id (.error cause)) rfl)
    have consulted := taken.trans (.takeUp _ ticket bootstrap cause)
    exact ((consulted.trans (.count _ .failure)).trans ((Retains.amid _ s).trans asked)).mindful
      mindful
  generalize Link.step o depth s l = l' at course ⊢
  cases course with
  | called performs => exact (Retains.of_performs performs).mindful mindful
  | drifted _ _ t => exact (Retains.amid l t).mindful mindful
  | attended _ _ current =>
    exact mindful.change (List.append_nil _).symm rfl (.inr (.inr ⟨current, fun _ => id, rfl⟩))
  | @turned _ _ k acts _ turn _ t =>
    have counted : Mindful (k.count? (l.toll acts)) := by
      cases l.toll acts with
      | none => exact mindful.turn turn
      | some c => exact (Retains.count k c).mindful (mindful.turn turn)
    exact (Retains.amid _ t).mindful counted
  | @told id _ r =>
    have told := (Retains.finish l id).trans (.note _ (a := .failed r.id .notConnected) rfl)
    exact told.mindful mindful
  | @lost id _ _ _ _ _ loses =>
    exact ((Retains.finish l id).trans (.of_loses And.left loses)).mindful mindful
  | planned up _ t u meanwhile reloads =>
    have reloaded := (Retains.count _ .retry).trans
      ((Retains.amid _ t).trans (.of_reloads And.left reloads))
    exact ((reloaded.trans (.plan _ _ _ _)).trans (.amid _ u)).mindful (asked meanwhile.1)
  | brokeDown _ up _ t meanwhile =>
    exact ((Retains.settle? _ _ _).trans (.amid _ t)).mindful (asked meanwhile.1)

/-- So does every run. -/
theorem run (mindful : Mindful l) (quiet : o.Quiet) (depth : Nat) {steps : List (Step σ)}
    (ordinary : ∀ s ∈ steps, s.Ordinary) : Mindful (Link.run o depth steps l) := by
  induction steps generalizing l with
  | nil => exact mindful
  | cons s steps ih =>
    exact ih (mindful.step quiet depth (ordinary s List.mem_cons_self)) fun t mem =>
      ordinary t (List.mem_cons_of_mem _ mem)

end Mindful

/-! ## What is owed is flushed -/

/-- Whatever calls were made while channels were writing or flushing: a connected link flushes its
active channel on a call if something was written to it when no flush was under way, and the channel
was neither installed nor flushed since that write began. -/
theorem flush_owed (quiet : o.Quiet) (depth : Nat) {steps : List (Step σ)}
    (ordinary : ∀ s ∈ steps, s.Ordinary) (identity : Identity) (environment : Environment)
    (outside : σ) (reached : l = run o depth steps (.new identity environment outside))
    {c : ChannelId} (connected : l.state = .connected) (slot : l.channel = some c)
    (active : o.isActive l.outside c = true) (owed : Owed c l.journal) :
    ∃ rest, (step o depth (.call .flush) l).journal =
      l.journal ++ .called .flush :: .flushed c :: rest := by
  have mindful : Mindful l := by
    rw [reached]
    exact (Mindful.new identity environment outside).run quiet depth ordinary
  have performs := performs_flush (retains_occur quiet depth) (l.note (.called .flush))
  show ∃ rest, ((flush o (Link.nested o depth) (l.note (.called .flush))).note
    (.returned .flush)).journal = _
  generalize flush o (Link.nested o depth) (l.note (.called .flush)) = k at performs ⊢
  cases performs with
  | @flushed _ k d _ _ slot' _ meanwhile =>
    obtain rfl : c = d := Option.some.inj (slot.symm.trans slot')
    obtain ⟨acts, grown, -⟩ := meanwhile.1.journal
    refine ⟨acts ++ [.returned .flush], ?_⟩
    show k.journal ++ [.returned .flush] = _
    rw [grown]
    simp [note]
  | unflushed _ idle =>
    exact absurd ⟨connected, mindful.marked connected slot owed, c, slot, active⟩ idle

/-- A second request is written after one was lost in a flush, and is flushed. -/
theorem flush_owed_again :
    let steps : List (Step Unit) := [.call .connect, .start 0, .answer 0 (.ok 7),
      .call (.send ⟨0, [128]⟩), .call .flush, .call (.send ⟨2, [128]⟩)]
    let l := run .eager 1 steps (.new sample.identity sample.environment ())
    Owed 7 l.journal ∧ ∃ rest, (step .eager 1 (.call .flush) l).journal =
      l.journal ++ .called .flush :: .flushed 7 :: rest := by
  intro steps l
  have ordinary : ∀ s ∈ steps, s.Ordinary := by simp [steps, Step.Ordinary]
  have owed : Owed 7 l.journal :=
    ⟨l.journal.dropLast.dropLast, ⟨2, [128]⟩, [.returned (.send ⟨2, [128]⟩)], by decide, by decide,
      by decide, by decide⟩
  exact ⟨owed, flush_owed (fun _ _ => rfl) 1 ordinary _ _ () rfl (by decide) (by decide) rfl owed⟩

/-- What is written in the course of a flush is not flushed by the next call, and neither is what
was written to a channel before it was lost and installed again. -/
theorem flush_forgets :
    let steps : List (Step Unit) := [.call .connect, .start 0, .answer 0 (.ok 7),
      .call (.send ⟨0, [128]⟩)]
    let written := run .eager 1 steps (.new sample.identity sample.environment ())
    let l := run .eager 1 [.call .flush] written
    let k := run .eager 1 [.call .reportLoss, .start 2, .answer 2 (.ok 7)] written
    (l.state = .connected ∧ l.channel = some 7 ∧ Surroundings.eager.isActive l.outside 7 = true ∧
      Unflushed 7 l.journal ∧ (step .eager 1 (.call .flush) l).journal =
        l.journal ++ [.called .flush, .returned .flush]) ∧
    (k.state = .connected ∧ k.channel = some 7 ∧ Surroundings.eager.isActive k.outside 7 = true ∧
      .wrote 7 ⟨0, [128]⟩ ∈ k.journal ∧ .flushed 7 ∉ k.journal ∧
      (step .eager 1 (.call .flush) k).journal =
        k.journal ++ [.called .flush, .returned .flush]) := by
  decide

end Link

end NodeLink
