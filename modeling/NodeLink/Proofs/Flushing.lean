import Mathlib.Data.List.Induction
import NodeLink.Proofs.Account
import NodeLink.Proofs.Chain
import NodeLink.Proofs.Handling

/-!
# Flushes

A link keeps one mark for all its channels: that something was written since the last flush. The
mark is taken away when a chain starts, and not when a channel is installed, nor when one is
dropped. This module shows that while a link is connected the mark is nevertheless that of the
installed channel, so that a call for a flush flushes exactly when there is something to flush.
Calls made from within other work are no exception: a run is the same when they are carried out by
this rule.

What carries this is that a connecting link has no mark. It had none when its chain started, and
nothing is written before the link is connected. The one moment at which that could be lost is
between the halves of a failed attempt, when the state may be anything that calls make of it; but
none of them makes it connected, and then nothing is written either.
-/

set_option autoImplicit false

namespace NodeLink

open Lifecycle (State Machine)

variable {σ : Type}

/-- Surroundings that say whether channels are active, and that call for a flush whenever an event
is published. -/
def Surroundings.fickle : Surroundings Bool where
  react k s :=
    match k with
    | .publishing _ => ([.flush], s)
    | _ => ([], s)
  accept _ s := (none, s)
  delay _ s := (some 0, s)
  stages s := ([], s)
  traces _ := false
  isActive s _ := s
  isWritable _ _ := true
  remote _ _ := none

/-- Whether an act is a flush or a call for one. -/
def Act.isFlush : Act → Bool
  | .called c => c == .flush
  | .flushed _ => true
  | _ => false

/-- Whether an act has no bearing on the state, the slot, and what is written and flushed. -/
def Act.isAside : Act → Bool
  | .called c => c != .flush
  | .changed .. | .installed _ | .cleared _ | .wrote .. | .flushed _ => false
  | _ => true

/-- Whether a channel has something to flush after an act. -/
def Act.marks (c : ChannelId) (marked : Bool) : Act → Bool
  | .installed d | .flushed d => marked && d != c
  | .wrote d _ => marked || d == c
  | _ => marked

@[simp] theorem Act.isFlush_of_traces {acts : List Act} (traces : acts.all Act.isTrace = true) :
    acts.any Act.isFlush = false :=
  Act.any_of_traces traces fun a trace => by cases a <;> first | rfl | cases trace

theorem Act.isFlush_of_aside {acts : List Act} (aside : acts.all Act.isAside = true) :
    acts.any Act.isFlush = false := by
  refine List.any_eq_false.mpr fun a mem flush => ?_
  have aside := List.all_eq_true.mp aside a mem
  cases a <;> simp [isAside, isFlush] at aside flush
  exact aside flush

/-- What such acts leave as it was. -/
theorem Act.keeps_aside {acts : List Act} (aside : acts.all Act.isAside = true) :
    (∀ s, acts.foldl Act.leads s = s) ∧ (∀ slot, acts.foldl Act.fills slot = slot) ∧
      ∀ c marked, acts.foldl (Act.marks c) marked = marked := by
  induction acts with
  | nil => exact ⟨fun _ => rfl, fun _ => rfl, fun _ _ => rfl⟩
  | cons a acts ih =>
    obtain ⟨here, there⟩ := Bool.and_eq_true_iff.mp aside
    obtain ⟨leads, fills, marks⟩ := ih there
    refine ⟨fun s => (leads _).trans ?_, fun slot => (fills _).trans ?_,
      fun c marked => (marks c _).trans ?_⟩ <;> cases a <;> first | rfl | cases here

@[simp] theorem Act.marks_of_traces {acts : List Act} (traces : acts.all Act.isTrace = true)
    (c : ChannelId) (marked : Bool) : acts.foldl (Act.marks c) marked = marked :=
  Act.foldl_of_traces traces (fun a trace marked => by cases a <;> first | rfl | cases trace) marked

/-! ## What was written and not flushed -/

/-- Something was written to a channel since it was installed and since it was flushed. -/
def Unflushed (c : ChannelId) (acts : List Act) : Prop :=
  ∃ before r after, acts = before ++ .wrote c r :: after ∧
    .installed c ∉ after ∧ .flushed c ∉ after

theorem unflushed_snoc {c : ChannelId} {acts : List Act} {a : Act} :
    Unflushed c (acts ++ [a]) ↔
      (∃ r, a = .wrote c r) ∨ Unflushed c acts ∧ a ≠ .installed c ∧ a ≠ .flushed c := by
  constructor
  · rintro ⟨before, r, after, split, installed, flushed⟩
    rcases List.eq_nil_or_concat after with rfl | ⟨after, b, rfl⟩
    · exact .inl ⟨r, (List.append_inj' split rfl).2 |> List.singleton_inj.mp⟩
    · rw [List.concat_eq_append] at split installed flushed
      rw [← List.cons_append, ← List.append_assoc] at split
      obtain ⟨rfl, last⟩ := List.append_inj' split rfl
      obtain rfl := List.singleton_inj.mp last
      simp only [List.mem_append, List.mem_singleton, not_or] at installed flushed
      exact .inr ⟨⟨before, r, after, rfl, installed.1, flushed.1⟩, Ne.symm installed.2,
        Ne.symm flushed.2⟩
  · rintro (⟨r, rfl⟩ | ⟨⟨before, r, after, rfl, installed, flushed⟩, other, unflushed⟩)
    · exact ⟨acts, r, [], rfl, by simp, by simp⟩
    · refine ⟨before, r, after ++ [a], by simp, ?_, ?_⟩ <;>
        simp [installed, flushed, Ne.symm other, Ne.symm unflushed]

/-- It can be told by going through the acts once. -/
theorem unflushed_iff (c : ChannelId) (acts : List Act) :
    Unflushed c acts ↔ acts.foldl (Act.marks c) false = true := by
  induction acts using List.reverseRecOn with
  | nil => simp [Unflushed]
  | append_singleton acts a ih =>
    rw [unflushed_snoc, ih, List.foldl_append]
    cases a <;> simp [Act.marks, or_comm]

instance (c : ChannelId) (acts : List Act) : Decidable (Unflushed c acts) :=
  decidable_of_iff _ (unflushed_iff c acts).symm

theorem unflushed_aside {c : ChannelId} {acts more : List Act}
    (aside : more.all Act.isAside = true) : Unflushed c (acts ++ more) ↔ Unflushed c acts := by
  rw [unflushed_iff, unflushed_iff, List.foldl_append, (Act.keeps_aside aside).2.2]

namespace Link

variable {o : Surroundings σ} {l k l' : Link σ}

/-! ## Flushes in order -/

/-- A flush of a channel is due: the link is connected through it, it is active, and something was
written to it since it was installed and since it was flushed. -/
structure Due (o : Surroundings σ) (l : Link σ) (c : ChannelId) : Prop where
  connected : l.state = .connected
  slot : l.channel = some c
  active : o.isActive l.outside c = true
  unflushed : Unflushed c l.journal

instance (o : Surroundings σ) (l : Link σ) (c : ChannelId) : Decidable (Due o l c) :=
  decidable_of_iff (l.state = .connected ∧ l.channel = some c ∧ o.isActive l.outside c = true ∧
    Unflushed c l.journal) ⟨fun ⟨h, i, j, k⟩ => ⟨h, i, j, k⟩, fun ⟨h, i, j, k⟩ => ⟨h, i, j, k⟩⟩

/-- The channel whose flush is due, if there is one. -/
def due? (o : Surroundings σ) (l : Link σ) : Option ChannelId :=
  l.channel.filter fun c => Due o l c

/-- What a call for a flush is to do: it flushes the channel that is due, and nothing else. -/
def flushDue (o : Surroundings σ) (l : Link σ) : Link σ :=
  match due? o l with
  | some c => { l with
      hasWritten := false
      journal := l.journal ++ [.called .flush, .flushed c, .returned .flush]
      outside := (o.react (.flushing c) l.outside).2 }
  | none => { l with journal := l.journal ++ [.called .flush, .returned .flush] }

/-- Calls made from within the link's own work, to a depth, those for a flush being carried out by
their rule. -/
def byRule (o : Surroundings σ) : Nat → Call → Link σ → Link σ
  | 0, _, l => l
  | depth + 1, c, l => if c = .flush then flushDue o l else carryOut o (byRule o depth) c l

theorem due?_eq_some_iff {c : ChannelId} : due? o l = some c ↔ Due o l c := by
  rw [due?, Option.filter_eq_some_iff, decide_eq_true_iff]
  exact ⟨And.right, fun due => ⟨due.slot, due⟩⟩

theorem due?_eq_none_iff : due? o l = none ↔ ∀ c, ¬ Due o l c := by
  simp only [← due?_eq_some_iff, Option.eq_none_iff_forall_ne_some, ne_eq]

/-- What the journal shows of that: whenever a flush was called for, the channel was flushed that
was due on a link with the journal up to there, and nothing else; and nothing was flushed without a
call. -/
structure Tidy (o : Surroundings σ) (acts : List Act) : Prop where
  called : ∀ {before after : List Act}, acts = before ++ .called .flush :: after →
    ∃ (m : Link σ) (due : Option ChannelId) (rest : List Act), m.journal = before ∧ Account m ∧
      (∀ c, Due o m c ↔ due = some c) ∧
      after = due.toList.map .flushed ++ .returned .flush :: rest
  flushed : ∀ {before after : List Act} {c : ChannelId}, acts = before ++ .flushed c :: after →
    ∃ earlier, before = earlier ++ [.called .flush]

/-- The mark of a link is what it is to be, and all flushes were in order. -/
structure Ordered (o : Surroundings σ) (l : Link σ) : Prop where
  account : Account l
  /-- A connecting link has not written anything. -/
  fresh : l.state = .connecting → l.hasWritten = false
  /-- The mark of a connected link is that of its channel. -/
  marked : l.state = .connected →
    ∃ c, l.channel = some c ∧ (l.hasWritten = true ↔ Unflushed c l.journal)
  tidy : Tidy o l.journal

/-- A link that is not connected and has no mark. -/
structure Clean (l : Link σ) : Prop where
  apart : l.state ≠ .connected
  unmarked : l.hasWritten = false

/-- An act stands in one of two lists that follow each other. -/
theorem append_split {acts more before after : List Act} {a : Act}
    (split : acts ++ more = before ++ a :: after) :
    (∃ between, acts = before ++ a :: between ∧ after = between ++ more) ∨
      ∃ between, before = acts ++ between ∧ more = between ++ a :: after := by
  rcases List.append_eq_append_iff.mp split with ⟨between, hb, hm⟩ | ⟨between, ha, hm⟩
  · exact .inr ⟨between, hb, hm⟩
  · cases between with
    | nil => exact .inr ⟨[], by simpa using ha.symm, hm.symm⟩
    | cons b between =>
      obtain ⟨rfl, rfl⟩ := List.cons.inj hm
      exact .inl ⟨between, ha, rfl⟩

namespace Tidy

variable {acts more : List Act}

theorem nil (o : Surroundings σ) : Tidy o [] := ⟨by simp, by simp⟩

/-- Acts may follow that are no flushes. -/
theorem append (tidy : Tidy o acts) (none : more.any Act.isFlush = false) :
    Tidy o (acts ++ more) where
  called split := by
    rcases append_split split with ⟨between, within, rfl⟩ | ⟨between, -, within⟩
    · obtain ⟨m, due, rest, journal, account, exact, rfl⟩ := tidy.called within
      exact ⟨m, due, rest ++ more, journal, account, exact, List.append_assoc ..⟩
    · exact absurd rfl (List.any_eq_false.mp none (.called .flush) (by simp [within]))
  flushed {_ _ c} split := by
    rcases append_split split with ⟨between, within, rfl⟩ | ⟨between, -, within⟩
    · exact tidy.flushed within
    · exact absurd rfl (List.any_eq_false.mp none (.flushed c) (by simp [within]))

/-- A flush may follow that is exact. -/
theorem flush (tidy : Tidy o l.journal) (account : Account l) (due : Option ChannelId)
    (exact : ∀ c, Due o l c ↔ due = some c) :
    Tidy o (l.journal ++ .called .flush :: (due.toList.map .flushed ++ [.returned .flush])) where
  called {before after} split := by
    rcases append_split split with ⟨between, within, rfl⟩ | ⟨between, rfl, within⟩
    · obtain ⟨m, due', rest, journal, account', exact', rfl⟩ := tidy.called within
      exact ⟨m, due', _, journal, account', exact', List.append_assoc ..⟩
    · cases between with
      | nil => exact ⟨l, due, [], by simp, account, exact, (List.cons.inj within).2.symm⟩
      | cons a between =>
        have mem : Act.called .flush ∈ due.toList.map .flushed ++ [.returned .flush] := by
          rw [(List.cons.inj within).2]
          simp
        simp at mem
  flushed {before after c} split := by
    rcases append_split split with ⟨between, within, rfl⟩ | ⟨between, rfl, within⟩
    · exact tidy.flushed within
    · refine ⟨l.journal, ?_⟩
      cases between with
      | nil => cases (List.cons.inj within).1
      | cons a between =>
        obtain ⟨rfl, rest⟩ := List.cons.inj within
        cases due with
        | none => simp [List.singleton_eq_append_iff] at rest
        | some d => cases between <;> simp_all [List.singleton_eq_append_iff]

end Tidy

namespace Ordered

/-- A change is in order that leaves the mark, the state, the slot and the flushes alone. -/
theorem aside (ordered : Ordered o l) (acts : List Act) (journal : l'.journal = l.journal ++ acts)
    (aside : acts.all Act.isAside = true) (state : l'.state = l.state)
    (channel : l'.channel = l.channel) (mark : l'.hasWritten = l.hasWritten) : Ordered o l' where
  account := by
    obtain ⟨leads, fills, -⟩ := Act.keeps_aside aside
    refine ⟨?_, ?_⟩ <;> rw [journal, List.foldl_append]
    · rw [state, leads, ordered.account.state]
    · rw [channel, fills, ordered.account.channel]
  fresh connecting := mark.trans (ordered.fresh (state.symm.trans connecting))
  marked connected := by
    rw [channel, mark, journal]
    simp only [unflushed_aside aside]
    exact ordered.marked (state.symm.trans connected)
  tidy := journal ▸ ordered.tidy.append (Act.isFlush_of_aside aside)

/-- So is one after which the link is not connected, nor connecting with a mark. -/
theorem down (ordered : Ordered o l) (account : Account l') {acts : List Act}
    (journal : l'.journal = l.journal ++ acts) (none : acts.any Act.isFlush = false)
    (apart : l'.state ≠ .connected) (fresh : l'.state = .connecting → l'.hasWritten = false) :
    Ordered o l' :=
  ⟨account, fresh, fun connected => absurd connected apart, journal ▸ ordered.tidy.append none⟩

theorem new (o : Surroundings σ) (identity : Identity) (environment : Environment) (outside : σ) :
    Ordered o (Link.new identity environment outside) :=
  ⟨⟨rfl, rfl⟩, nofun, nofun, .nil o⟩

theorem amid (ordered : Ordered o l) (s : σ) : Ordered o (l.amid s) :=
  ordered.aside [] (List.append_nil _).symm rfl rfl rfl rfl

theorem note (ordered : Ordered o l) {a : Act} (aside : a.isAside = true) : Ordered o (l.note a) :=
  ordered.aside [a] rfl (by simp [aside]) rfl rfl rfl

theorem count (ordered : Ordered o l) (c : Counter) : Ordered o (l.count c) :=
  ordered.aside [] (List.append_nil _).symm rfl rfl rfl rfl

theorem spawn (ordered : Ordered o l) (j : Job) : Ordered o (l.spawn j) :=
  ordered.aside [.spawned l.jobCount j] rfl rfl rfl rfl rfl

theorem finish (ordered : Ordered o l) (id : JobId) : Ordered o (l.finish id) :=
  ordered.aside [] (List.append_nil _).symm rfl rfl rfl rfl

theorem become (ordered : Ordered o l) (id : JobId) (j : Job) : Ordered o (l.become id j) :=
  ordered.aside [] (List.append_nil _).symm rfl rfl rfl rfl

theorem settle? (ordered : Ordered o l) (ticket : Option TicketId) (outcome : Outcome) :
    Ordered o (l.settle? ticket outcome) := by
  refine ordered.aside (settling ticket outcome) ?_ ?_ ?_ ?_ ?_
  · rw [settle?_eq]
  · cases ticket <;> rfl
  all_goals rw [settle?_eq]
  rfl

/-- A link that sets out takes its mark away. -/
theorem setOut (ordered : Ordered o l) (bootstrap : Bool) : Ordered o (l.setOut bootstrap) := by
  have connecting : (l.setOut bootstrap).state = .connecting := by
    rw [setOut_eq]
    exact Machine.current_transition _ _
  refine ordered.down (ordered.account.setOut bootstrap) (Entry.setOut l bootstrap).journal
    (by simp [settingOut, Act.isFlush]) (by simp [connecting]) fun _ => ?_
  rw [setOut_eq]

theorem drop (ordered : Ordered o l) : Ordered o l.drop := by
  have down : l.drop.state = .disconnected := by rw [Link.drop, state_clear, state_shift]
  exact ordered.down ordered.account.drop (Entry.drop l).journal (by simp) (by simp [down])
    (by simp [down])

theorem hangUp (ordered : Ordered o l) : Ordered o l.hangUp := by
  refine ordered.down ordered.account.hangUp (journal_hangUp l) (by simp) (state_hangUp_ne l) ?_
  intro connecting
  have connecting : l.core.hangUp.state = .connecting :=
    (congrArg Core.state (core_hangUp l)).symm.trans connecting
  cases h : l.core.state <;> simp [Core.hangUp, h] at connecting

end Ordered

@[simp] theorem hasWritten_hangUp (l : Link σ) : l.hangUp.hasWritten = l.hasWritten := by
  unfold hangUp
  split <;> simp only [bar, drop_eq, shift_eq, issue, spawn, note]

/-! ## Calls -/

/-- What every call keeps. -/
def Abides (o : Surroundings σ) (l l' : Link σ) : Prop :=
  Ordered o l → Ordered o l' ∧ (Clean l → Clean l')

theorem Abides.amid (l : Link σ) (s : σ) : Abides o l (l.amid s) :=
  fun ordered => ⟨ordered.amid s, fun clean => ⟨clean.apart, clean.unmarked⟩⟩

theorem Abides.trans (first : Abides o l k) (second : Abides o k l') : Abides o l l' := by
  intro ordered
  obtain ⟨ordered, clean⟩ := first ordered
  obtain ⟨ordered', clean'⟩ := second ordered
  exact ⟨ordered', fun h => clean' (clean h)⟩

theorem Abides.setOut (l : Link σ) (bootstrap : Bool) : Abides o l (l.setOut bootstrap) := by
  refine fun ordered => ⟨ordered.setOut bootstrap, fun _ => ?_⟩
  rw [setOut_eq]
  exact ⟨(Machine.current_transition _ _).trans_ne nofun, rfl⟩

theorem Abides.drop (l : Link σ) : Abides o l l.drop := by
  refine fun ordered => ⟨ordered.drop, fun clean => ?_⟩
  rw [drop_eq]
  exact ⟨(Machine.current_transition _ _).trans_ne nofun, clean.unmarked⟩

theorem Abides.hangUp (l : Link σ) : Abides o l l.hangUp := fun ordered =>
  ⟨ordered.hangUp, fun clean => ⟨state_hangUp_ne l, (hasWritten_hangUp l).trans clean.unmarked⟩⟩

theorem Abides.spawn (l : Link σ) (j : Job) : Abides o l (l.spawn j) := fun ordered =>
  ⟨ordered.spawn j, fun clean => ⟨clean.apart, clean.unmarked⟩⟩

theorem Abides.count (l : Link σ) (c : Counter) : Abides o l (l.count c) := fun ordered =>
  ⟨ordered.count c, fun clean => ⟨clean.apart, clean.unmarked⟩⟩

theorem Abides.note (l : Link σ) {a : Act} (aside : a.isAside = true) : Abides o l (l.note a) :=
  fun ordered => ⟨ordered.note aside, fun clean => ⟨clean.apart, clean.unmarked⟩⟩

section Calls

variable {R : Occasion → Link σ → Link σ → Prop} (within : ∀ {k l l'}, R k l l' → Abides o l l')
include within

theorem Reloads.abides (h : Reloads R l l') : Abides o l l' := by
  cases h with
  | mk meanwhile refusal s =>
    exact (((Abides.count l _).trans (within meanwhile)).trans (.note _ rfl)).trans (.amid _ s)

theorem Loses.abides (h : Loses R l l') : Abides o l l' := by
  have counted : ∀ s, Abides o l ((l.count .loss).amid s) :=
    fun s => (Abides.count l _).trans (.amid _ s)
  cases h with
  | heedless => exact .amid l l.outside
  | down _ _ s => exact counted s
  | @restarted k _ _ s reloads _ t =>
    have dropped := ((counted s).trans (reloads.abides within)).trans (.drop k)
    exact ((dropped.trans (.setOut _ false)).trans (.spawn _ _)).trans (.amid _ t)
  | @dropped k _ _ s reloads _ t =>
    have dropped := ((counted s).trans (reloads.abides within)).trans (.drop k)
    exact (dropped.trans (.spawn _ _)).trans (.amid _ t)

omit within in
/-- A call for a flush finds the channel that is due, if there is one, and flushes that. -/
theorem Performs.flushes (h : Performs o R .flush (l.note (.called .flush)) k)
    (ordered : Ordered o l) :
    (∃ c m, Due o l c ∧ R (.flushing c) ((l.note (.called .flush)).note (.flushed c)) m ∧
      k = { m with hasWritten := false }) ∨
    (∀ c, ¬ Due o l c) ∧ k = l.note (.called .flush) := by
  cases h with
  | @flushed _ m c connected marked slot active meanwhile =>
    obtain ⟨d, slot', same⟩ := ordered.marked connected
    obtain rfl : c = d := Option.some.inj (slot.symm.trans slot')
    exact .inl ⟨c, m, ⟨connected, slot, active, same.mp marked⟩, meanwhile, rfl⟩
  | unflushed _ idle =>
    refine .inr ⟨fun c due => idle ⟨due.connected, ?_, c, due.slot, due.active⟩, rfl⟩
    obtain ⟨d, slot', same⟩ := ordered.marked due.connected
    obtain rfl : c = d := Option.some.inj (due.slot.symm.trans slot')
    exact same.mpr due.unflushed

omit within in
/-- A call that writes marks its channel. -/
theorem Ordered.wrote (ordered : Ordered o l) (connected : l.state = .connected) {c : ChannelId}
    (slot : l.channel = some c) (r : Request) (s : σ) :
    Ordered o { (l.note (.wrote c r)).amid s with hasWritten := true } where
  account := by
    have noted := ordered.account.entry (.note l (a := .wrote c r) rfl) rfl rfl
    exact ⟨noted.state, noted.channel⟩
  fresh connecting := absurd (connected.symm.trans connecting) nofun
  marked _ := ⟨c, slot, iff_of_true rfl (unflushed_snoc.mpr (.inl ⟨r, rfl⟩))⟩
  tidy := ordered.tidy.append rfl

/-- A call other than for a flush is in order. -/
theorem Performs.abides {c : Call} (h : Performs o R c l k) (other : c ≠ .flush)
    (silent : ∀ {c r l l'}, R (.writing c r) l l' → ∃ s, l' = l.amid s) : Abides o l k := by
  cases h with
  | ignored _ _ s => exact .amid l s
  | opened _ _ _ s => exact (Abides.setOut l true).trans (.amid _ s)
  | hungUp _ s => exact (Abides.hangUp l).trans (.amid _ s)
  | lost loses => exact loses.abides within
  | reloaded reloads => exact reloads.abides within
  | flushed | unflushed => exact absurd rfl other
  | @wrote _ _ c r connected slot active writable meanwhile =>
    obtain ⟨s, rfl⟩ := silent meanwhile
    exact fun ordered =>
      ⟨ordered.wrote connected slot r s, fun clean => absurd connected clean.apart⟩
  | @redirected _ k r connected s meanwhile refusal t =>
    have asked := ((Abides.count l .redirect).trans (.amid _ s)).trans (within meanwhile)
    have offered : Abides o k { k with journal := k.journal ++ redirecting r refusal } :=
      fun ordered => ⟨ordered.aside _ rfl (by cases refusal <;> rfl) rfl rfl rfl,
        fun clean => ⟨clean.apart, clean.unmarked⟩⟩
    exact (asked.trans offered).trans (.amid _ t)
  | rejected => exact (Abides.count l .rejection).trans (.spawn _ _)

end Calls

/-! ## Calls for a flush -/

theorem Due.unique {c : ChannelId} (due : Due o l c) (d : ChannelId) :
    Due o l d ↔ some c = some d :=
  ⟨fun due' => due.slot.symm.trans due'.slot, fun same => Option.some.inj same ▸ due⟩

/-- A flush that is due takes the mark away. -/
theorem Ordered.flushed (ordered : Ordered o l) {c : ChannelId} (due : Due o l c) (s : σ) :
    Ordered o { l with
      hasWritten := false
      journal := l.journal ++ [.called .flush, .flushed c, .returned .flush]
      outside := s } where
  account := ordered.account.entry (.silent rfl rfl rfl rfl) rfl rfl
  fresh _ := rfl
  marked _ := by
    refine ⟨c, due.slot, iff_of_false nofun ?_⟩
    rw [unflushed_iff, List.foldl_append]
    simp [Act.marks]
  tidy := ordered.tidy.flush ordered.account (some c) due.unique

/-- One that is not due leaves it alone. -/
theorem Ordered.passed (ordered : Ordered o l) (undue : ∀ c, ¬ Due o l c) :
    Ordered o { l with journal := l.journal ++ [.called .flush, .returned .flush] } where
  account := ordered.account.entry (.silent rfl rfl rfl rfl) rfl rfl
  fresh := ordered.fresh
  marked connected := by
    simp only [unflushed_iff, List.foldl_append]
    simp only [List.foldl_cons, List.foldl_nil, Act.marks, ← unflushed_iff]
    exact ordered.marked connected
  tidy := ordered.tidy.flush ordered.account none fun c => iff_of_false (undue c) nofun

/-- Every call keeps what it is to keep, if the calls made within it do. -/
theorem Performs.carried (still : o.Still) {c : Call}
    (h : Performs o (Within o (Abides o)) c (l.note (.called c)) k) :
    Abides o l (k.note (.returned c)) := by
  by_cases flush : c = .flush
  · subst flush
    intro ordered
    rcases h.flushes ordered with ⟨c, m, due, meanwhile, rfl⟩ | ⟨undue, rfl⟩
    · obtain ⟨s, rfl⟩ := meanwhile.2 fun s => (still c s).1
      refine ⟨?_, fun clean => absurd due.connected clean.apart⟩
      simpa [note, Link.amid] using ordered.flushed due s
    · refine ⟨?_, fun clean => ⟨clean.apart, clean.unmarked⟩⟩
      simpa [note] using ordered.passed undue
  · have called : Abides o l (l.note (.called c)) := .note l (by simpa [Act.isAside] using flush)
    have performed := h.abides And.left flush fun meanwhile =>
      meanwhile.2 fun s => (still _ s).2 _
    exact (called.trans performed).trans (.note _ rfl)

theorem abides_nested (quiet : o.Quiet) (still : o.Still) (depth : Nat) :
    ∀ (c : Call) (l : Link σ), Abides o l (Link.nested o depth c l) :=
  within_nested Abides.amid Abides.trans quiet (fun performs => performs.carried still) depth

/-! ## Steps -/

/-- A job that goes on leaves the flushes alone, and does not bring a mark with it. -/
theorem Ordered.turn {s : Step σ} (h : Turn s l k) (ordered : Ordered o l) : Ordered o k := by
  have account := ordered.account.turn h
  cases h with
  | @dialed _ id | @redialed _ id | @tearing _ id | @cleaning _ id =>
    exact (ordered.become id _).note rfl
  | @abandoned _ id => exact (ordered.finish id).hangUp
  | @ended _ _ id => exact ordered.finish id
  | @toreDown _ _ id => exact (ordered.finish id).drop.note rfl
  | @turnedAway _ id ticket _ _ _ _ answer =>
    have entry := (Entry.take l id answer).trans (.turnAway _ ticket answer)
    refine ordered.aside _ entry.journal ?_ ?_ ?_ ?_
    · cases answer <;> cases ticket <;> rfl
    all_goals rw [turnAway_eq]; rfl
  | @undone _ id ticket _ _ _ _ _ answer =>
    have entry := (Entry.take l id answer).trans (.undo _ ticket answer)
    have state : ((l.take id answer).undo ticket answer).state = .disconnected :=
      congrArg Core.state (core_undo _ ticket answer)
    exact ordered.down account entry.journal (by simp [Act.isFlush]) (by simp [state])
      (by simp [state])
  | @collided _ id ticket _ _ _ _ _ _ c =>
    have entry := ((Entry.take l id (.ok c)).trans (.install _ c)).trans (.undo _ ticket (.ok c))
    have state : (((l.take id (.ok c)).install c).undo ticket (.ok c)).state = .disconnected :=
      congrArg Core.state (core_undo _ ticket (.ok c))
    exact ordered.down account entry.journal (by simp [Act.isFlush]) (by simp [state])
      (by simp [state])
  | @gaveUp _ id ticket _ _ _ _ _ _ _ cause =>
    have entry := (Entry.take l id (.error cause)).trans (.giveUp _ ticket cause)
    have state : ((l.take id (.error cause)).giveUp ticket cause).state = .disconnected :=
      congrArg Core.state (core_giveUp _ ticket cause)
    exact ordered.down account entry.journal (by simp [Act.isFlush]) (by simp [state])
      (by simp [state])
  | @succeeded _ id ticket _ _ _ _ _ connecting c =>
    have entry := (Entry.take l id (.ok c)).trans (.putToUse _ ticket c)
    have unmarked : ((l.take id (.ok c)).putToUse ticket c).hasWritten = false := by
      rw [putToUse_eq]
      exact ordered.fresh connecting
    have state : ((l.take id (.ok c)).putToUse ticket c).state = .connected :=
      congrArg Core.state (core_putToUse _ ticket c)
    refine ⟨account, fun _ => unmarked, fun _ => ⟨c, ?_, ?_⟩, ?_⟩
    · rw [putToUse_eq]
    · rw [unmarked, unflushed_iff, entry.journal, List.foldl_append]
      simp [Act.marks]
    · exact entry.journal ▸ ordered.tidy.append (by simp [Act.isFlush])

theorem Abides.takeUp (l : Link σ) (ticket : Option TicketId) (bootstrap : Bool) (cause : Fault) :
    Abides o l (l.takeUp ticket bootstrap cause) := by
  have settled : Abides o l (l.settle? ticket (.error cause)) := by
    refine fun ordered => ⟨ordered.settle? ticket (.error cause), fun clean => ?_⟩
    rw [settle?_eq]
    exact ⟨clean.apart, clean.unmarked⟩
  unfold Link.takeUp
  split
  · refine fun ordered => ?_
    have state : (l.giveUp ticket cause).state = .disconnected :=
      congrArg Core.state (core_giveUp _ ticket cause)
    refine ⟨ordered.down (ordered.account.giveUp ticket cause) (Entry.giveUp l ticket cause).journal
      (by simp) (by simp [state]) (by simp [state]), fun clean => ⟨by simp [state], ?_⟩⟩
    rw [giveUp_eq]
    exact clean.unmarked
  · split
    · exact settled
    · exact .amid l l.outside

theorem Abides.consult (l : Link σ) : Abides o l l.consult := fun ordered =>
  ⟨ordered.aside [.consulted l.reconnectAttempt] rfl rfl rfl rfl rfl,
    fun clean => ⟨clean.apart, clean.unmarked⟩⟩

/-- The retry of a link that is not connected and has no mark is in order. -/
theorem Ordered.plan (ordered : Ordered o l) (clean : Clean l) (delay : Nat) (epoch : UInt64)
    (ticket : Option TicketId) : Ordered o (l.plan delay epoch ticket) := by
  have state : (l.plan delay epoch ticket).state = .connecting :=
    congrArg Core.state (core_plan l delay epoch ticket)
  refine ordered.down (ordered.account.plan delay epoch ticket)
    (Entry.plan l delay epoch ticket).journal (by simp [Act.isFlush]) (by simp [state]) fun _ => ?_
  rw [plan_eq]
  exact clean.unmarked

/-- Every ordinary step is in order, if no attempt is answered that is the current one of a link
that is connected. -/
theorem Ordered.step (ordered : Ordered o l) (quiet : o.Quiet) (still : o.Still) (depth : Nat)
    {s : Step σ} (ordinary : s.Ordinary) (apart : ∀ {id ticket bootstrap epoch},
      l.TakesUp id ticket bootstrap epoch → l.state ≠ .connected) :
    Ordered o (Link.step o depth s l) := by
  have course := course_step quiet depth
    (within_occur (o := o) Abides.amid Abides.trans (abides_nested quiet still depth)) ordinary l
  -- between the halves of a failed attempt there is no mark
  have asked : ∀ {id ticket bootstrap epoch} {cause : Fault} {s : σ} {k : Link σ},
      l.TakesUp id ticket bootstrap epoch → Abides o ((((l.take id (.error cause)).takeUp ticket
        bootstrap cause).count .failure).consult.amid s) k → Ordered o k ∧ Clean k := by
    intro id ticket bootstrap epoch cause s k up asked
    have connecting : l.state = .connecting := by
      have down := up.up
      have apart := apart up
      cases h : l.state <;> simp_all [State.isDown]
    have taken : Ordered o (l.take id (.error cause)) := (ordered.finish id).note rfl
    have clean : Clean (l.take id (.error cause)) := ⟨apart up, ordered.fresh connecting⟩
    have told : Abides o (l.take id (.error cause)) (((l.take id (.error cause)).takeUp ticket
        bootstrap cause).count .failure) :=
      Abides.trans (.takeUp _ ticket bootstrap cause) (.count _ .failure)
    have consulted := (told.trans (.consult _)).trans (.amid _ s)
    obtain ⟨ordered, kept⟩ := (consulted.trans asked) taken
    exact ⟨ordered, kept clean⟩
  generalize Link.step o depth s l = l' at course ⊢
  cases course with
  | called performs => exact (performs.carried still ordered).1
  | drifted _ _ t => exact ordered.amid t
  | attended _ _ current =>
    exact ordered.aside [] (List.append_nil _).symm rfl current rfl rfl
  | @turned _ _ k acts _ turn _ t =>
    have counted : Ordered o (k.count? (l.toll acts)) := by
      cases l.toll acts with
      | none => exact ordered.turn turn
      | some c => exact (ordered.turn turn).count c
    exact counted.amid t
  | @told id => exact (ordered.finish id).note rfl
  | @lost id _ _ _ _ _ loses => exact (loses.abides And.left (ordered.finish id)).1
  | planned up _ t u meanwhile reloads =>
    obtain ⟨ordered, clean⟩ := asked up meanwhile.1
    obtain ⟨ordered, kept⟩ :=
      (((Abides.count _ .retry).trans (.amid _ t)).trans (reloads.abides And.left)) ordered
    exact (ordered.plan (kept clean) _ _ _).amid u
  | brokeDown _ up _ t meanwhile => exact ((asked up meanwhile.1).1.settle? _ _).amid t

/-- A call for a flush does what is to be done, and no more. -/
theorem carryOut_flush (still : o.Still) (nested : Call → Link σ → Link σ)
    (ordered : Ordered o l) : carryOut o nested .flush l = flushDue o l := by
  have performs : Performs o (fun k l l' => occur o nested k l = l') .flush
      (l.note (.called .flush)) (flush o nested (l.note (.called .flush))) :=
    performs_flush (fun _ _ => rfl) _
  have carried : carryOut o nested .flush l =
      (flush o nested (l.note (.called .flush))).note (.returned .flush) := rfl
  rcases performs.flushes ordered with ⟨c, m, due, rfl, done⟩ | ⟨undue, done⟩
  · rw [carried, done, flushDue, due?_eq_some_iff.mpr due]
    simp [occur, still c _, note]
  · rw [carried, done, flushDue, due?_eq_none_iff.mpr undue]
    simp [note]

/-- The work between calls leaves a link in order. -/
theorem ordered_lasting (o : Surroundings σ) : Lasting (Ordered o) where
  amid := Ordered.amid
  called ordered c other := ordered.note (by simpa [Act.isAside] using other)
  count := Ordered.count
  finish := Ordered.finish
  take ordered id _ := (ordered.finish id).note rfl
  takeUp ordered ticket bootstrap cause := (Abides.takeUp _ ticket bootstrap cause ordered).1
  consult ordered := (Abides.consult _ ordered).1

/-- On links that are in order, calls do the same as if every flush among them were carried out by
its rule. This is so to any depth, by induction on the depth. -/
theorem alike_byRule (quiet : o.Quiet) (still : o.Still) (depth : Nat) :
    Alike (Ordered o) (Link.nested o depth) (byRule o depth) := by
  induction depth with
  | zero =>
    exact { ordered_lasting o with same := fun _ _ => rfl, call := fun ordered _ => ordered }
  | succ depth ih =>
    refine { ordered_lasting o with
      same := fun {l} ordered c => ?_
      call := fun {l} ordered c => (abides_nested quiet still (depth + 1) c l ordered).1 }
    rw [byRule]
    split
    next flush =>
      rw [flush]
      exact carryOut_flush still _ ordered
    next => exact ih.carryOut quiet still ordered c

/-- Every run is in order, until the epochs wrap round, and so it is a run in which every flush is
carried out by its rule. -/
theorem Ordered.run (ordered : Ordered o l) (quiet : o.Quiet) (still : o.Still) (depth : Nat)
    {steps : List (Step σ)} (ordinary : ∀ s ∈ steps, s.Ordinary)
    (sound : Numbered l ∧ (l.chains < UInt64.size → Sound (¬ o.Firm) none l.core))
    (few : (Link.run o depth steps l).chains < UInt64.size) :
    Ordered o (Link.run o depth steps l) ∧
      Link.run o depth steps l = steps.foldl (fun l s => stepWith o (byRule o depth) s l) l := by
  induction steps generalizing l with
  | nil => exact ⟨ordered, rfl⟩
  | cons s steps ih =>
    have grown := (journal_kept o l.journal).run quiet depth ordinary List.prefix_rfl
    have early : l.chains < UInt64.size := Nat.lt_of_le_of_lt (chains_le grown) few
    have first := ordinary s List.mem_cons_self
    have next := ordered.step quiet still depth first fun up =>
      (sound.2 early).not_connected sound.1 up.job up.current
    have same : Link.step o depth s l = stepWith o (byRule o depth) s l :=
      (alike_byRule quiet still depth).stepWith quiet still ordered s
    have sound := (sound_kept o).advance (advance_step quiet depth first l) sound
    obtain ⟨ordered, equal⟩ :=
      ih next (fun t ht => ordinary t (List.mem_cons_of_mem _ ht)) sound few
    exact ⟨ordered, equal.trans (by rw [List.foldl_cons, same])⟩

/-- A call for a flush flushes exactly when the link is connected, its channel is active, and
something was written to that channel since it was installed and since it was flushed. It then
flushes this channel, once, and does nothing else. A call that flushes nothing leaves a channel
what it has to flush. The same is so of every call for a flush that was made in the course of the
run, from within whatever work: the run is that in which each of them is carried out by this rule,
on the link that it finds. -/
theorem flush_exact (quiet : o.Quiet) (still : o.Still) (depth : Nat) {steps : List (Step σ)}
    (ordinary : ∀ s ∈ steps, s.Ordinary) (identity : Identity) (environment : Environment)
    (outside : σ) (reached : l = run o depth steps (.new identity environment outside))
    (few : l.chains < UInt64.size) :
    (∀ c, Due o l c → step o depth (.call .flush) l = { l with
      hasWritten := false
      journal := l.journal ++ [.called .flush, .flushed c, .returned .flush]
      outside := (o.react (.flushing c) l.outside).2 }) ∧
    ((∀ c, ¬ Due o l c) → step o depth (.call .flush) l =
      { l with journal := l.journal ++ [.called .flush, .returned .flush] }) ∧
    (∀ c, ¬ Due o l c →
      (Unflushed c (step o depth (.call .flush) l).journal ↔ Unflushed c l.journal)) ∧
    Tidy o l.journal ∧
    l = steps.foldl (fun l s => stepWith o (byRule o depth) s l)
      (.new identity environment outside) := by
  subst reached
  obtain ⟨ordered, equal⟩ := (Ordered.new o identity environment outside).run quiet still depth
    ordinary ⟨.new identity environment outside, fun _ => .new _ identity environment outside⟩ few
  generalize run o depth steps (.new identity environment outside) = l at ordered equal ⊢
  have called : step o depth (.call .flush) l = flushDue o l := carryOut_flush still _ ordered
  have exact : ∀ c, Due o l c → step o depth (.call .flush) l = _ := fun c due => by
    rw [called, flushDue, due?_eq_some_iff.mpr due]
  have idle : (∀ c, ¬ Due o l c) → step o depth (.call .flush) l = _ := fun undue => by
    rw [called, flushDue, due?_eq_none_iff.mpr undue]
  refine ⟨exact, idle, fun c undue => ?_, ordered.tidy, equal⟩
  by_cases some : ∃ d, Due o l d
  · obtain ⟨d, due⟩ := some
    have other : d ≠ c := fun same => undue (same ▸ due)
    rw [exact d due, unflushed_iff, List.foldl_append, unflushed_iff]
    simp [Act.marks, other]
  · rw [idle (not_exists.mp some), unflushed_iff, List.foldl_append, unflushed_iff]
    simp [Act.marks]

/-- A channel is written to, and flushed as its loss is reported; the next one is written to, a
flush is dropped while it is inactive, and it is flushed when it is active again. -/
theorem flush_exact_fickle :
    let steps : List (Step Bool) := [.call .connect, .start 0, .answer 0 (.ok 7),
      .call (.send ⟨0, [128]⟩), .call .reportLoss, .start 2, .answer 2 (.ok 8), .call .flush,
      .call (.send ⟨1, [128]⟩), .drift false, .call .flush, .drift true]
    let l := run .fickle 1 steps (.new Link.sample.identity Link.sample.environment true)
    l.chains < UInt64.size ∧
      l.journal.filter Act.isFlush =
        [.called .flush, .flushed 7, .called .flush, .called .flush] ∧
      (step .fickle 1 (.call .flush) l).journal =
        l.journal ++ [.called .flush, .flushed 8, .returned .flush] := by
  intro steps l
  have ordinary : ∀ s ∈ steps, s.Ordinary := by simp [steps, Step.Ordinary]
  have few : l.chains < UInt64.size := by decide
  have due : Due .fickle l 8 := ⟨by decide, by decide, rfl, by decide⟩
  obtain ⟨exact, -⟩ := flush_exact (l := l) (fun _ _ => rfl) (fun _ _ => ⟨rfl, fun _ => rfl⟩) 1
    ordinary _ _ true rfl few
  exact ⟨few, by decide, congrArg Link.journal (exact 8 due)⟩

end Link

end NodeLink
