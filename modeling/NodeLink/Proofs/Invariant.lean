import Mathlib.Data.List.Nodup
import NodeLink.Proofs.Advance

/-!
# Laws that every run keeps

A law of a link is kept by every run if it is kept by strokes, by turns and by the two halves of
planning a retry. Between these halves the law may speak of the chain in hand. The induction over
runs is done once, for all laws.

Two laws that the others rest on are stated here: the journal only grows, and pending jobs have
names of their own. The second lets a pending job be taken out of the list of jobs: what comes
before it and what comes after it is left alone when it ends or goes on.
-/

set_option autoImplicit false

namespace NodeLink

section Names

variable {α : Type} (entries : List (Nat × α))

/-- Taking one name out of a list does not disturb the look-up of another. -/
theorem lookup_filter_other {id name : Nat} (other : name ≠ id) :
    (entries.filter (·.1 ≠ name)).lookup id = entries.lookup id := by
  induction entries with
  | nil => rfl
  | cons e rest ih =>
    obtain ⟨key, x⟩ := e
    by_cases gone : key = name
    · have differs : (id == key) = false := beq_eq_false_iff_ne.mpr (gone ▸ other.symm)
      simp only [List.lookup_cons, differs, ← ih]
      simp [gone]
    · simp only [ne_eq, gone, not_false_eq_true, decide_true, List.filter_cons_of_pos,
        List.lookup_cons, ← ih]

/-- What is found under a name after the entry of a name was replaced in its place. -/
theorem lookup_map_replace (id name : Nat) (x : α) :
    (entries.map fun e => if e.1 = name then (name, x) else e).lookup id =
      if name = id then (entries.lookup id).map fun _ => x else entries.lookup id := by
  induction entries with
  | nil => simp
  | cons e rest ih =>
    obtain ⟨key, y⟩ := e
    by_cases sought : id = key
    · subst sought
      by_cases here : id = name
      · simp [here]
      · simp [here, Ne.symm here]
    · have differs : (id == key) = false := beq_eq_false_iff_ne.mpr sought
      by_cases here : key = name
      · subst here
        simpa [List.lookup_cons, differs, Ne.symm sought] using ih
      · simpa [List.lookup_cons, differs, here] using ih

end Names

/-- A chain whose last attempt has failed and whose next one is not planned yet. -/
structure Hand where
  epoch : UInt64
  /-- The ticket that is still to be settled. -/
  ticket : Option TicketId

namespace Link

open Lifecycle (State)

variable {σ : Type} {o : Surroundings σ}

/-! ## Keeping a law -/

/-- A law that speaks of the chain in hand, if there is one, and is kept by all that a step is
made of. -/
structure Kept (o : Surroundings σ) (P : Option Hand → Link σ → Prop) : Prop where
  /-- Strokes keep the law, whatever is in hand. -/
  stroke : ∀ {hand l l'}, Stroke l l' → P hand l → P hand l'
  turn : ∀ {s l l'}, Turn s l l' → P none l → P none l'
  /-- Taking up a failed attempt keeps the law. -/
  takeUp : ∀ {l id ticket bootstrap epoch} (cause : Fault), TakesUp l id ticket bootstrap epoch →
    P none l → P (some ⟨epoch, keptTicket ticket bootstrap cause⟩)
      ((l.take id (.error cause)).takeUp ticket bootstrap cause).consult
  /-- Planning the next attempt keeps the law. -/
  plan : ∀ {hand l} (delay : Nat), P (some hand) l → P none (l.plan delay hand.epoch hand.ticket)
  /-- A backoff that breaks down keeps the law. -/
  breakDown : ∀ {hand l}, ¬ o.Firm → P (some hand) l →
    P none (l.settle? hand.ticket (.error .dropped))

/-- What ordinary steps keep, and jobs that break down as well, every run keeps. -/
theorem run_keeps {P : Link σ → Prop} {depth : Nat}
    (ordinary : ∀ {s l}, s.Ordinary → P l → P (step o depth s l))
    (crash : ∀ {id l}, P l → P (step o depth (.crash id) l)) {l : Link σ} (holds : P l)
    (steps : List (Step σ)) : P (run o depth steps l) := by
  induction steps generalizing l with
  | nil => exact holds
  | cons s steps ih =>
    refine ih (l := step o depth s l) ?_
    cases s with
    | crash id => exact crash holds
    | _ => exact ordinary trivial holds

namespace Kept

variable {P : Option Hand → Link σ → Prop} {hand : Option Hand} {l l' : Link σ}

theorem strokes (kept : Kept o P) (h : Strokes l l') (holds : P hand l) : P hand l' := by
  induction h with
  | refl => exact holds
  | tail _ last ih => exact kept.stroke last ih

theorem advance (kept : Kept o P) {s : Step σ} (h : Advance o s l l') (holds : P none l) :
    P none l' := by
  cases h with
  | strokes after _ => exact kept.strokes after holds
  | turn turn after => exact kept.strokes after (kept.turn turn holds)
  | @planned _ k _ id ticket bootstrap epoch cause delay s up after done =>
    subst done
    exact kept.stroke (.drifted _ s)
      (kept.plan delay (kept.strokes after (kept.takeUp cause up holds)))
  | @brokeDown _ k _ id ticket bootstrap epoch cause loose up after done =>
    subst done
    exact kept.breakDown loose (kept.strokes after (kept.takeUp cause up holds))

/-- A law that is kept holds after every run, by induction on the run. -/
theorem run (kept : Kept o P) (quiet : o.Quiet) (depth : Nat) {steps : List (Step σ)}
    (ordinary : ∀ s ∈ steps, s.Ordinary) (holds : P none l) : P none (run o depth steps l) := by
  induction steps generalizing l with
  | nil => exact holds
  | cons s steps ih =>
    exact ih (fun t ht => ordinary t (List.mem_cons_of_mem _ ht))
      (kept.advance (advance_step quiet depth (ordinary s List.mem_cons_self) l) holds)

/-- Two laws that are kept are kept together. -/
theorem and {Q : Option Hand → Link σ → Prop} (kept : Kept o P) (also : Kept o Q) :
    Kept o fun hand l => P hand l ∧ Q hand l where
  stroke h holds := ⟨kept.stroke h holds.1, also.stroke h holds.2⟩
  turn h holds := ⟨kept.turn h holds.1, also.turn h holds.2⟩
  takeUp cause up holds := ⟨kept.takeUp cause up holds.1, also.takeUp cause up holds.2⟩
  plan delay holds := ⟨kept.plan delay holds.1, also.plan delay holds.2⟩
  breakDown loose holds := ⟨kept.breakDown loose holds.1, also.breakDown loose holds.2⟩

end Kept

/-- A law that is kept where another law holds, before and after. -/
structure KeptUnder (o : Surroundings σ) (P Q : Option Hand → Link σ → Prop) : Prop where
  stroke : ∀ {hand l l'}, Stroke l l' → P hand l → P hand l' → Q hand l → Q hand l'
  turn : ∀ {s l l'}, Turn s l l' → P none l → P none l' → Q none l → Q none l'
  takeUp : ∀ {l id ticket bootstrap epoch} (cause : Fault), TakesUp l id ticket bootstrap epoch →
    P none l → Q none l → Q (some ⟨epoch, keptTicket ticket bootstrap cause⟩)
      ((l.take id (.error cause)).takeUp ticket bootstrap cause).consult
  plan : ∀ {hand l} (delay : Nat), P (some hand) l → Q (some hand) l →
    Q none (l.plan delay hand.epoch hand.ticket)
  breakDown : ∀ {hand l}, ¬ o.Firm → P (some hand) l → Q (some hand) l →
    Q none (l.settle? hand.ticket (.error .dropped))

/-- Where the other law is kept, both are. -/
theorem KeptUnder.kept {P Q : Option Hand → Link σ → Prop} (under : KeptUnder o P Q)
    (kept : Kept o P) : Kept o fun hand l => P hand l ∧ Q hand l where
  stroke h holds :=
    have after := kept.stroke h holds.1
    ⟨after, under.stroke h holds.1 after holds.2⟩
  turn h holds :=
    have after := kept.turn h holds.1
    ⟨after, under.turn h holds.1 after holds.2⟩
  takeUp cause up holds := ⟨kept.takeUp cause up holds.1, under.takeUp cause up holds.1 holds.2⟩
  plan delay holds := ⟨kept.plan delay holds.1, under.plan delay holds.1 holds.2⟩
  breakDown loose holds :=
    ⟨kept.breakDown loose holds.1, under.breakDown loose holds.1 holds.2⟩

theorem run_append (depth : Nat) (before after : List (Step σ)) (l : Link σ) :
    run o depth (before ++ after) l = run o depth after (run o depth before l) :=
  List.foldl_append

/-! ## The journal grows -/

theorem Stroke.journal {l l' : Link σ} (h : Stroke l l') : l.journal <+: l'.journal := by
  obtain ⟨acts, entry, -⟩ := h.entry
  exact entry.grows

theorem Strokes.journal {l l' : Link σ} (h : Strokes l l') : l.journal <+: l'.journal := by
  induction h with
  | refl => exact List.prefix_rfl
  | tail _ last ih => exact ih.trans last.journal

theorem Turn.journal {s : Step σ} {l l' : Link σ} (h : Turn s l l') : l.journal <+: l'.journal := by
  obtain ⟨id, j, acts, -, entry | ⟨j', -, entry⟩, -⟩ := h.entry
  · exact entry.grows
  · exact entry.grows

/-- What only calls do is not done in a turn. -/
theorem Turn.mem_journal {s : Step σ} {l l' : Link σ} (h : Turn s l l') {a : Act}
    (call : a.isCall = true) : a ∈ l'.journal ↔ a ∈ l.journal := by
  refine ⟨fun mem => ?_, fun mem => h.journal.subset mem⟩
  obtain ⟨id, j, acts, -, entry | ⟨j', -, entry⟩, none⟩ := h.entry
  · rw [entry.journal, List.mem_append] at mem
    exact mem.resolve_right fun ha => List.any_eq_false.mp none a ha call
  · rw [entry.journal, List.mem_append] at mem
    exact mem.resolve_right fun ha => List.any_eq_false.mp none a ha call

/-- Nothing is ever taken back: what the journal told once, it tells after every run. -/
theorem journal_kept (o : Surroundings σ) (before : List Act) :
    Kept o fun _ l => before <+: l.journal where
  stroke h holds := holds.trans h.journal
  turn h holds := holds.trans h.journal
  takeUp {l id ticket bootstrap _} cause _ holds :=
    (holds.trans (Entry.take l id (.error cause)).grows).trans
      (Entry.takeUp _ ticket bootstrap cause).grows
  plan _ holds := holds.trans (Entry.plan ..).grows
  breakDown _ holds := holds.trans (Entry.settle? ..).grows

theorem Turn.identity {s : Step σ} {l l' : Link σ} (h : Turn s l l') :
    l'.identity = l.identity := by
  cases h with
  | dialed | redialed | tearing | cleaning | ended => rfl
  | abandoned => exact identity_hangUp _
  | toreDown => rw [drop_eq]; rfl
  | turnedAway => rw [turnAway_eq]; rfl
  | undone | collided => rw [undo_eq]; rfl
  | succeeded => rw [putToUse_eq]; rfl
  | gaveUp => rw [giveUp_eq]; rfl

/-- A link stays who it is. -/
theorem identity_kept (o : Surroundings σ) (identity : Identity) :
    Kept o fun _ l => l.identity = identity where
  stroke h holds := h.identity.trans holds
  turn h holds := h.identity.trans holds
  takeUp cause _ holds := by
    rw [takeUp_eq]
    exact holds
  plan delay holds := by
    rw [plan_eq]
    exact holds
  breakDown _ holds := by
    rw [settle?_eq]
    exact holds

/-! ## Pending jobs -/

theorem mem_jobs {l : Link σ} {id : JobId} {j : Job} (job : l.job? id = some j) :
    (id, j) ∈ l.jobs := by
  obtain ⟨before, after, hjobs, -⟩ := List.lookup_eq_some_iff.mp job
  simp [hjobs]

/-- Pending jobs have names of their own, all of them handed out before. -/
structure Numbered (l : Link σ) : Prop where
  /-- No two pending jobs share a name. -/
  nodup : (l.jobs.map Prod.fst).Nodup
  lt : ∀ e ∈ l.jobs, e.1 < l.jobCount

namespace Numbered

variable {l : Link σ}

/-- A pending job stands at one place among the pending jobs. It ends there, and it goes on
there. -/
theorem split (numbered : Numbered l) {id : JobId} {j : Job} (job : l.job? id = some j) :
    ∃ before after, l.jobs = before ++ (id, j) :: after ∧
      (l.finish id).jobs = before ++ after ∧
      ∀ j', (l.become id j').jobs = before ++ (id, j') :: after := by
  obtain ⟨before, after, hjobs, hbefore⟩ := List.lookup_eq_some_iff.mp job
  have nodup := numbered.nodup
  simp only [hjobs, List.map_append, List.map_cons, List.nodup_append, List.nodup_cons] at nodup
  have others : ∀ e ∈ before ++ after, e.1 ≠ id := by
    intro e he same
    rcases List.mem_append.mp he with he | he
    · exact absurd same.symm (by simpa using hbefore e he)
    · exact nodup.2.1.1 (same ▸ List.mem_map_of_mem he)
  refine ⟨before, after, hjobs, ?_, fun j' => ?_⟩
  · have kept : (before ++ after).filter (·.1 ≠ id) = before ++ after :=
      List.filter_eq_self.mpr fun e he => by simpa using others e he
    simpa [finish, hjobs] using kept
  · have kept : ∀ e ∈ before ++ after, (if e.1 = id then (id, j') else e) = e :=
      fun e he => if_neg (others e he)
    have hb : before.map (fun e => if e.1 = id then (id, j') else e) = before :=
      (List.map_congr_left fun e he => kept e (List.mem_append_left _ he)).trans (List.map_id _)
    have ha : after.map (fun e => if e.1 = id then (id, j') else e) = after :=
      (List.map_congr_left fun e he => kept e (List.mem_append_right _ he)).trans (List.map_id _)
    simp [become, hjobs, hb, ha]

/-- A pending job is found under its name. -/
theorem job?_of_mem (numbered : Numbered l) {id : JobId} {j : Job} (mem : (id, j) ∈ l.jobs) :
    l.job? id = some j := by
  obtain ⟨before, after, hjobs⟩ := List.append_of_mem mem
  have nodup := numbered.nodup
  rw [hjobs, List.map_append, List.nodup_append] at nodup
  refine List.lookup_eq_some_iff.mpr ⟨before, after, hjobs, fun e he => ?_⟩
  have other := nodup.2.2 e.1 (List.mem_map_of_mem he) id (by simp)
  simpa using other.symm

theorem new (identity : Identity) (environment : Environment) (outside : σ) :
    Numbered (Link.new identity environment outside) := ⟨.nil, by simp [Link.new]⟩

/-- How many pending jobs have a property, before and after one of them ends. -/
theorem countP_finish (numbered : Numbered l) {id : JobId} {j : Job} (job : l.job? id = some j)
    (p : Job → Bool) :
    l.jobs.countP (p ·.2) = (l.finish id).jobs.countP (p ·.2) + if p j then 1 else 0 := by
  obtain ⟨before, after, hjobs, hfinish, -⟩ := numbered.split job
  rw [hjobs, hfinish]
  simp only [List.countP_append, List.countP_cons, Nat.add_assoc]

/-- How many pending jobs have a property, before and after one of them goes on. -/
theorem countP_become (numbered : Numbered l) {id : JobId} {j : Job} (job : l.job? id = some j)
    (j' : Job) (p : Job → Bool) :
    l.jobs.countP (p ·.2) + (if p j' then 1 else 0) =
      (l.become id j').jobs.countP (p ·.2) + if p j then 1 else 0 := by
  obtain ⟨before, after, hjobs, -, hbecome⟩ := numbered.split job
  rw [hjobs, hbecome j']
  simp only [List.countP_append, List.countP_cons]
  omega

/-- New jobs get new names. -/
theorem entry (numbered : Numbered l) {l' : Link σ} {acts : List Act} (entry : Entry acts l l') :
    Numbered l' where
  nodup := by
    rw [entry.jobs, List.map_append, entry.names, List.nodup_append]
    refine ⟨numbered.nodup, List.nodup_range', ?_⟩
    rintro a ha b hb rfl
    obtain ⟨e, he, rfl⟩ := List.mem_map.mp ha
    exact Nat.not_le.mpr (numbered.lt e he) (List.mem_range'_1.mp hb).1
  lt := by
    intro e he
    rw [entry.jobs, List.mem_append] at he
    rw [entry.count]
    obtain old | new := he
    · exact Nat.lt_add_right _ (numbered.lt e old)
    · have named := List.mem_map_of_mem (f := Prod.fst) new
      rw [entry.names] at named
      exact (List.mem_range'_1.mp named).2

/-- The names that are left are still apart when a job ends. -/
theorem finish (numbered : Numbered l) (id : JobId) : Numbered (l.finish id) where
  nodup := numbered.nodup.sublist (List.filter_sublist.map _)
  lt e he := numbered.lt e (List.mem_filter.mp he).1

/-- A job that goes on keeps its name. -/
theorem become (numbered : Numbered l) (id : JobId) (j : Job) : Numbered (l.become id j) := by
  have names : ((l.become id j).jobs.map Prod.fst) = l.jobs.map Prod.fst := by
    simp only [Link.become, List.map_map]
    refine List.map_congr_left fun e _ => ?_
    by_cases h : e.1 = id <;> simp [h]
  refine ⟨names ▸ numbered.nodup, fun e he => ?_⟩
  obtain ⟨e', he', same⟩ := List.mem_map.mp (names ▸ List.mem_map_of_mem he)
  exact same ▸ numbered.lt e' he'

theorem stroke {l' : Link σ} (h : Stroke l l') (numbered : Numbered l) : Numbered l' := by
  obtain ⟨acts, entry, -⟩ := h.entry
  exact numbered.entry entry

theorem turn {s : Step σ} {l' : Link σ} (h : Turn s l l') (numbered : Numbered l) :
    Numbered l' := by
  obtain ⟨id, j, acts, -, entry | ⟨j', -, entry⟩, -⟩ := h.entry
  · exact (numbered.finish id).entry entry
  · exact (numbered.become id j').entry entry

end Numbered

/-- Pending jobs have names of their own after every run. -/
theorem numbered_kept (o : Surroundings σ) : Kept o fun _ l => Numbered l where
  stroke := Numbered.stroke
  turn := Numbered.turn
  takeUp {l id ticket bootstrap _} cause _ numbered :=
    ((numbered.finish id).entry (.take l id (.error cause))).entry
      (.takeUp _ ticket bootstrap cause)
  plan _ numbered := numbered.entry (.plan ..)
  breakDown _ numbered := numbered.entry (.settle? ..)

/-! ## Disconnects that were asked for -/

@[simp] theorem called_mem_hangingUp {l : Link σ} {c : Call} : .called c ∉ l.hangingUp :=
  fun mem => List.any_eq_false.mp (Act.isCall_of_traces (by simp)) _ mem rfl

theorem Stroke.disconnected {l l' : Link σ} (h : Stroke l l') :
    l'.disconnected = l.disconnected ∨ l' = hangUp (l.note (.called .disconnect)) := by
  cases h with
  | hungUp => exact .inr rfl
  | opened => exact .inl (by rw [setOut_eq]; rfl)
  | restarted => exact .inl (by rw [setOut_eq, drop_eq])
  | dropped => exact .inl (by rw [drop_eq])
  | _ => exact .inl rfl

theorem Turn.disconnected {s : Step σ} {l l' : Link σ} (h : Turn s l l') :
    l'.disconnected = l.disconnected := by
  cases h with
  | dialed | redialed | tearing | cleaning | ended => rfl
  | abandoned _ _ _ barred => rw [disconnected_hangUp, barred]
  | toreDown => rw [drop_eq]; rfl
  | turnedAway => rw [turnAway_eq]; rfl
  | undone | collided => rw [undo_eq]; rfl
  | succeeded => rw [putToUse_eq]; rfl
  | gaveUp => rw [giveUp_eq]; rfl

/-- The flag is set exactly when a disconnect was called. -/
theorem barred_kept (o : Surroundings σ) :
    Kept o fun _ l => l.disconnected = true ↔ .called .disconnect ∈ l.journal where
  stroke h holds := by
    cases h with
    | drifted | counted | marked | attended => exact holds
    | @noted a plain =>
      have other : Act.called .disconnect ≠ a := by
        rintro rfl
        exact plain.2 rfl
      simpa [note, other] using holds
    | returned | ignored | spawned => simpa [note, spawn] using holds
    | opened => simpa [note, setOut_eq] using holds
    | restarted => simpa [setOut_eq, drop_eq] using holds
    | dropped => simpa [drop_eq] using holds
    | hungUp => simp [journal_hangUp, note]
  turn h holds := by rw [h.disconnected, h.mem_journal rfl, holds]
  takeUp cause _ holds := by
    simp only [consult, takeUp_eq, take, note, finish]
    split <;> split <;> simpa using holds
  plan delay holds := by simpa [plan_eq] using holds
  breakDown _ holds := by simpa [settle?_eq] using holds

/-! ## Jobs that were created -/

/-- Jobs are named in the order in which they are created. -/
structure Recorded (l : Link σ) : Prop where
  names : (l.journal.filterMap Act.creation?).map Prod.fst = List.range l.jobCount
  /-- A pending job was created, maybe as an earlier form of itself. -/
  origin : ∀ e ∈ l.jobs, ∃ j, .spawned e.1 j ∈ l.journal ∧ j.Becomes e.2

namespace Recorded

variable {l l' : Link σ}

theorem new (identity : Identity) (environment : Environment) (outside : σ) :
    Recorded (Link.new identity environment outside) := ⟨rfl, by simp [Link.new]⟩

/-- No name was given to two jobs. -/
theorem unique (recorded : Recorded l) {id : JobId} {j j' : Job} (h : .spawned id j ∈ l.journal)
    (h' : .spawned id j' ∈ l.journal) : j = j' := by
  have nodup : ((l.journal.filterMap Act.creation?).map Prod.fst).Nodup :=
    recorded.names ▸ List.nodup_range
  have hj : (id, j) ∈ l.journal.filterMap Act.creation? := List.mem_filterMap.mpr ⟨_, h, rfl⟩
  have hj' : (id, j') ∈ l.journal.filterMap Act.creation? := List.mem_filterMap.mpr ⟨_, h', rfl⟩
  exact congrArg Prod.snd (List.inj_on_of_nodup_map nodup hj hj' rfl)

/-- New jobs are recorded. -/
theorem entry (recorded : Recorded l) {acts : List Act} (entry : Entry acts l l') :
    Recorded l' where
  names := by
    rw [entry.journal, List.filterMap_append, List.map_append, recorded.names, entry.names,
      entry.count, List.range_add, List.range'_eq_map_range]
  origin e he := by
    rw [entry.jobs, List.mem_append] at he
    rw [entry.journal]
    obtain old | new := he
    · obtain ⟨j, spawned, becomes⟩ := recorded.origin e old
      exact ⟨j, List.mem_append_left _ spawned, becomes⟩
    · obtain ⟨a, ha, created⟩ := List.mem_filterMap.mp new
      refine ⟨e.2, List.mem_append_right _ ?_, .same _⟩
      cases a <;> cases created
      exact ha

/-- A job that goes on is recorded as what it was. -/
theorem become (recorded : Recorded l) (numbered : Numbered l) {id : JobId} {j j' : Job}
    (job : l.job? id = some j) (becomes : ∀ {j₀ : Job}, j₀.Becomes j → j₀.Becomes j') :
    Recorded (l.become id j') where
  names := recorded.names
  origin e he := by
    obtain ⟨before, after, hjobs, -, hbecome⟩ := numbered.split job
    rw [hbecome j'] at he
    have old : ∀ e ∈ before ++ (id, j) :: after, ∃ j, .spawned e.1 j ∈ l.journal ∧ j.Becomes e.2 :=
      hjobs ▸ recorded.origin
    rcases List.mem_append.mp he with he | he
    · exact old e (List.mem_append_left _ he)
    rcases List.mem_cons.mp he with rfl | he
    · obtain ⟨j₀, spawned, goesOn⟩ := old (id, j) (by simp)
      exact ⟨j₀, spawned, becomes goesOn⟩
    · exact old e (List.mem_append_right _ (List.mem_cons_of_mem _ he))

theorem finish (recorded : Recorded l) (id : JobId) : Recorded (l.finish id) where
  names := recorded.names
  origin e he := recorded.origin e (List.mem_filter.mp he).1

theorem stroke (h : Stroke l l') (recorded : Recorded l) : Recorded l' := by
  obtain ⟨acts, entry, -⟩ := h.entry
  exact recorded.entry entry

theorem turn {s : Step σ} (h : Turn s l l') (numbered : Numbered l) (recorded : Recorded l) :
    Recorded l' := by
  obtain ⟨id, j, acts, job, entry | ⟨j', goesOn, entry⟩, -⟩ := h.entry
  · exact (recorded.finish id).entry entry
  · exact (recorded.become numbered job goesOn).entry entry

end Recorded

/-- Jobs and the journal agree after every run. -/
theorem recorded_kept (o : Surroundings σ) :
    Kept o fun _ l => Numbered l ∧ Recorded l where
  stroke h holds := ⟨holds.1.stroke h, holds.2.stroke h⟩
  turn h holds := ⟨holds.1.turn h, holds.2.turn h holds.1⟩
  takeUp {l id ticket bootstrap _} cause up holds :=
    ⟨(numbered_kept o).takeUp cause up holds.1,
      ((holds.2.finish id).entry (.take l id (.error cause))).entry
        (.takeUp _ ticket bootstrap cause)⟩
  plan delay holds := ⟨(numbered_kept o).plan delay holds.1, holds.2.entry (.plan ..)⟩
  breakDown loose holds := ⟨(numbered_kept o).breakDown loose holds.1, holds.2.entry (.settle? ..)⟩

end Link

end NodeLink
