import NodeLink.Proofs.Disconnect

/-!
# What observers see after a disconnect

Once a call of disconnect has returned, a link does not go up again, with one exception. A retry
that is being planned asks the backoff and publishes a reload before it is planned, and nobody
looks for a disconnect in between. If disconnect is called from there, the link drops to
disconnected, the call returns, and then the link goes up to connecting after all. That is one
change, made before the step is over. The retry finds the flag when it wakes.

Subscribers read changes from a backlog. It holds what the journal tells of them.
-/

set_option autoImplicit false

namespace NodeLink

open Lifecycle (State Change Backlog)

/-- Surroundings that disconnect the link whenever it publishes an event. -/
def Surroundings.reluctant : Surroundings Unit :=
  { Surroundings.silent with
    react := fun k s =>
      match k with
      | .publishing _ => ([.disconnect], s)
      | _ => ([], s) }

/-- Whether an act brings a link up. -/
def Act.rises : Act → Bool
  | .changed c _ => !c.target.isDown
  | _ => false

/-- The change that subscribers are told by an act. -/
def Act.heard? : Act → Option Change
  | .changed c true => some c
  | _ => none

theorem Act.Calm.rises {may : JobId → Prop} {a : Act} (calm : a.Calm may (·.isDown = true)) :
    a.rises = false := by
  cases a with
  | changed c told =>
    have down : c.target.isDown = true := calm
    simp [Act.rises, down]
  | _ => rfl

theorem Tame.rises {may : JobId → Prop} {acts : List Act}
    (tame : Tame may (·.isDown = true) acts) : acts.filter Act.rises = [] :=
  List.filter_eq_nil_iff.mpr fun a ha => by simp [(tame.calm a ha).rises]

namespace Link

variable {σ : Type} {o : Surroundings σ} {l l' : Link σ}

/-- The acts since the first disconnect returned that brought the link up. -/
def rises (l : Link σ) : List Act :=
  (Act.since (.returned .disconnect) l.journal).filter Act.rises

theorem rises_eq_nil_of_notMem (h : .returned .disconnect ∉ l.journal) : l.rises = [] := by
  rw [rises, Act.since_of_notMem h]
  rfl

/-- Acts that follow a disconnect which returned bring the link up, or they do not. -/
theorem rises_append (called : .returned .disconnect ∈ l.journal) {acts : List Act}
    (journal : l'.journal = l.journal ++ acts) : l'.rises = l.rises ++ acts.filter Act.rises := by
  rw [rises, journal, Act.since_append called, List.filter_append, rises]

/-! ## Disconnects that returned -/

theorem returned_notMem_hangingUp (l : Link σ) (c : Call) : .returned c ∉ l.hangingUp := fun mem =>
  List.any_eq_false.mp (Act.isCall_of_traces (by simp)) _ mem rfl

/-- A call of disconnect leaves its flag behind when it returns. -/
def Returned (l : Link σ) : Prop := .returned .disconnect ∈ l.journal → l.disconnected = true

namespace Returned

/-- Until the flag is set, nothing has happened since. -/
theorem rises_eq_nil (returned : Returned l) (wanted : l.disconnected = false) : l.rises = [] :=
  rises_eq_nil_of_notMem fun h => absurd ((returned h).symm.trans wanted) (by decide)

/-- A stroke returns from a call of disconnect, or it does not. -/
theorem mem_of_stroke (h : Stroke l l') (mem : .returned .disconnect ∈ l'.journal) :
    .returned .disconnect ∈ l.journal ∨
      l.disconnected = true ∧ l' = l.note (.returned .disconnect) := by
  cases h with
  | drifted | counted | marked | attended => exact .inl mem
  | @noted a plain =>
    have other : Act.returned .disconnect ≠ a := by
      rintro rfl
      exact plain
    exact .inl (by simpa [note, other] using mem)
  | @returned c barred =>
    by_cases same : c = .disconnect
    · exact .inr ⟨barred same, same ▸ rfl⟩
    · exact .inl (by simpa [note, Ne.symm same] using mem)
  | ignored | spawned => exact .inl (by simpa [spawn, note] using mem)
  | opened => exact .inl (by simpa [setOut_eq, note] using mem)
  | restarted => exact .inl (by simpa [setOut_eq, drop_eq] using mem)
  | dropped => exact .inl (by simpa [drop_eq] using mem)
  | hungUp =>
    rw [journal_hangUp, List.mem_append] at mem
    have mem := mem.resolve_right (returned_notMem_hangingUp _ _)
    exact .inl (by simpa [note] using mem)

theorem stroke (h : Stroke l l') (returned : Returned l) : Returned l' := by
  intro mem
  rcases mem_of_stroke h mem with before | ⟨barred, rfl⟩
  · rcases h.disconnected with same | rfl
    · exact same.trans (returned before)
    · exact disconnected_hangUp _
  · exact barred

theorem turn {s : Step σ} (h : Turn s l l') (returned : Returned l) : Returned l' := fun mem =>
  h.disconnected.trans (returned ((h.mem_journal rfl).mp mem))

/-- Acts that do not tell of it may always follow. -/
theorem entry (returned : Returned l) {acts : List Act} (entry : Entry acts l l')
    (other : .returned .disconnect ∉ acts) (flag : l'.disconnected = l.disconnected) :
    Returned l' := by
  intro mem
  rw [entry.journal, List.mem_append] at mem
  exact flag.trans (returned (mem.resolve_right other))

theorem takeUp (returned : Returned l) (id : JobId) (ticket : Option TicketId) (bootstrap : Bool)
    (cause : Fault) :
    Returned ((l.take id (.error cause)).takeUp ticket bootstrap cause).consult := by
  have finished : Returned (l.finish id) := returned
  have taken := finished.entry (.take l id (.error cause)) (by simp) rfl
  refine taken.entry (.takeUp _ ticket bootstrap cause) ?_ (by rw [takeUp_eq]; rfl)
  split <;> split <;> simp

end Returned

theorem returned_kept (o : Surroundings σ) : Kept o fun _ l => Returned l where
  stroke := Returned.stroke
  turn := Returned.turn
  takeUp cause _ returned := returned.takeUp _ _ _ cause
  plan _ returned := returned.entry (.plan ..) (by simp) (by rw [plan_eq])
  breakDown _ returned := returned.entry (.settle? ..) (by simp) (by rw [settle?_eq])

/-! ## The link does not go up again -/

/-- Strokes bring nothing up once a disconnect has returned. -/
theorem Stroke.rises (h : Stroke l l') (returned : Returned l) : l'.rises = l.rises := by
  by_cases called : .returned .disconnect ∈ l.journal
  · obtain ⟨acts, journal, tame⟩ : ∃ acts, l'.journal = l.journal ++ acts ∧
        Tame (fun _ => True) (·.isDown = true) acts := h.tame (fun _ => id) (returned called)
    rw [rises_append called journal, tame.rises, List.append_nil]
  · rw [rises_eq_nil_of_notMem called]
    by_cases now : .returned .disconnect ∈ l'.journal
    · obtain mem | ⟨-, rfl⟩ := Returned.mem_of_stroke h now
      · exact absurd mem called
      · rw [Link.rises, note, Act.since_append_of_notMem called]
        simp [Act.since]
    · exact rises_eq_nil_of_notMem now

theorem Strokes.rises (h : Strokes l l') (returned : Returned l) :
    Returned l' ∧ l'.rises = l.rises := by
  induction h with
  | refl => exact ⟨returned, rfl⟩
  | tail _ last ih => exact ⟨ih.1.stroke last, (last.rises ih.1).trans ih.2⟩

/-- Turns bring nothing up once a disconnect has returned. -/
theorem Turn.rises {s : Step σ} (h : Turn s l l') (returned : Returned l) : l'.rises = l.rises := by
  by_cases called : .returned .disconnect ∈ l.journal
  · obtain ⟨acts, journal, tame⟩ : ∃ acts, l'.journal = l.journal ++ acts ∧
        Tame (fun _ => True) (·.isDown = true) acts :=
      h.tame (fun _ => id) (returned called) fun _ => trivial
    rw [rises_append called journal, tame.rises, List.append_nil]
  · have after : .returned .disconnect ∉ l'.journal := fun mem =>
      called ((h.mem_journal rfl).mp mem)
    rw [rises_eq_nil_of_notMem called, rises_eq_nil_of_notMem after]

theorem settle?_rises (l : Link σ) (ticket : Option TicketId) (outcome : Outcome) :
    (l.settle? ticket outcome).rises = l.rises := by
  by_cases called : .returned .disconnect ∈ l.journal
  · have tame : Tame (fun _ => True) (·.isDown = true) (settling ticket outcome) :=
      tame_of_traces (by simp)
    rw [rises_append called (congrArg journal (settle?_eq ..)), tame.rises, List.append_nil]
  · have after : .returned .disconnect ∉ (l.settle? ticket outcome).journal := by
      simpa [settle?_eq] using called
    rw [rises_eq_nil_of_notMem called, rises_eq_nil_of_notMem after]

/-- Planning a retry may bring the link up, to connecting. -/
theorem plan_rises (l : Link σ) (delay : Nat) (epoch : UInt64) (ticket : Option TicketId) :
    (l.plan delay epoch ticket).rises = l.rises ∨
      ∃ source told, (l.plan delay epoch ticket).rises =
        l.rises ++ [.changed ⟨source, .connecting⟩ told] := by
  by_cases called : .returned .disconnect ∈ l.journal
  · have settled : Tame (fun _ => True) (·.isDown = true) (settling ticket (.ok .connecting)) :=
      tame_of_traces (by simp)
    rw [rises_append called (congrArg journal (plan_eq ..))]
    simp only [List.filter_append, List.filter_cons, settled.rises, passage]
    split
    · exact .inl (List.append_nil _)
    · exact .inr ⟨_, _, rfl⟩
  · have after : .returned .disconnect ∉ (l.plan delay epoch ticket).journal := by
      simpa [plan_eq] using called
    exact .inl ((rises_eq_nil_of_notMem after).trans (rises_eq_nil_of_notMem called).symm)

/-- While a failed attempt is being taken up, the link does not go up. -/
theorem takenUp_rises (returned : Returned l) {id : JobId} {ticket : Option TicketId}
    {bootstrap : Bool} {epoch : UInt64} (up : l.TakesUp id ticket bootstrap epoch) (cause : Fault)
    {k : Link σ}
    (after : Strokes ((l.take id (.error cause)).takeUp ticket bootstrap cause).consult k) :
    Returned k ∧ k.rises = [] := by
  have kept := returned.takeUp id ticket bootstrap cause
  have wanted : ((l.take id (.error cause)).takeUp ticket bootstrap cause).consult.disconnected
      = false := by
    rw [takeUp_eq]
    exact up.wanted
  obtain ⟨kept', same⟩ := after.rises kept
  exact ⟨kept', same.trans (kept.rises_eq_nil wanted)⟩

/-- A step brings the link up again only if it plans a retry and nobody had asked for a disconnect
before. -/
theorem Advance.rises {s : Step σ} (h : Advance o s l l') (returned : Returned l) :
    l'.rises = l.rises ∨ ∃ id cause, s = .answer id (.error cause) ∧
      (∃ ticket bootstrap epoch, l.TakesUp id ticket bootstrap epoch) ∧
      ∃ source told, l'.rises = [.changed ⟨source, .connecting⟩ told] := by
  cases h with
  | strokes after => exact .inl (after.rises returned).2
  | turn turn after =>
    have kept := returned.turn turn
    exact .inl ((after.rises kept).2.trans (turn.rises returned))
  | @planned _ k _ id ticket bootstrap epoch cause delay s up after done =>
    obtain ⟨kept, none⟩ := takenUp_rises returned up cause after
    have rises : l'.rises = (k.plan delay epoch (keptTicket ticket bootstrap cause)).rises := by
      rw [done]
      rfl
    rw [rises, returned.rises_eq_nil up.wanted]
    rcases plan_rises k delay epoch (keptTicket ticket bootstrap cause) with
      same | ⟨source, told, h⟩
    · exact .inl (same.trans none)
    · rw [none, List.nil_append] at h
      exact .inr ⟨id, cause, rfl, ⟨ticket, bootstrap, epoch, up⟩, source, told, h⟩
  | @brokeDown _ k _ id ticket bootstrap epoch cause _ up after done =>
    obtain ⟨-, none⟩ := takenUp_rises returned up cause after
    rw [done, settle?_rises, none, returned.rises_eq_nil up.wanted]
    exact .inl rfl

/-! ## Runs -/

/-- A link that was to be disconnected before a run does not go up in it: it never takes up a
failed attempt again. -/
theorem rises_kept (o : Surroundings σ) (r : List Act) : Kept o fun hand l =>
    hand = none ∧ Returned l ∧ l.disconnected = true ∧ l.rises = r where
  stroke {hand l l'} h holds := by
    obtain ⟨none, returned, barred, rises⟩ := holds
    refine ⟨none, returned.stroke h, ?_, (h.rises returned).trans rises⟩
    rcases h.disconnected with same | rfl
    · exact same.trans barred
    · exact disconnected_hangUp _
  turn h holds := by
    obtain ⟨none, returned, barred, rises⟩ := holds
    exact ⟨none, returned.turn h, h.disconnected.trans barred, (h.rises returned).trans rises⟩
  takeUp _ up holds := absurd (up.wanted.symm.trans holds.2.2.1) (by decide)
  plan _ holds := absurd holds.1 (Option.some_ne_none _)
  breakDown _ holds := absurd holds.1 (Option.some_ne_none _)

section Runs

variable (quiet : o.Quiet) (depth : Nat)
include quiet

/-- A link goes up in at most one step of a run. In that step it plans a retry. -/
theorem rises_run {steps : List (Step σ)} (ordinary : ∀ s ∈ steps, s.Ordinary)
    (returned : Returned l) (none : l.rises = []) :
    (run o depth steps l).rises = [] ∨ ∃ before id cause after source told,
      steps = before ++ .answer id (.error cause) :: after ∧
      (∃ ticket bootstrap epoch, (run o depth before l).TakesUp id ticket bootstrap epoch) ∧
      (run o depth (before ++ [.answer id (.error cause)]) l).rises =
        [.changed ⟨source, .connecting⟩ told] ∧
      (run o depth steps l).rises = [.changed ⟨source, .connecting⟩ told] := by
  induction steps generalizing l with
  | nil => exact .inl none
  | cons s steps ih =>
    have advance := advance_step quiet depth (ordinary s List.mem_cons_self) l
    have later : ∀ t ∈ steps, t.Ordinary := fun t ht => ordinary t (List.mem_cons_of_mem _ ht)
    have kept : Returned (step o depth s l) := (returned_kept o).advance advance returned
    rcases advance.rises returned with same | ⟨id, cause, rfl, up, source, told, one⟩
    · rcases ih later kept (same.trans none) with calm | ⟨before, id, cause, after, source, told,
        rfl, up, there, now⟩
      · exact .inl calm
      · exact .inr ⟨s :: before, id, cause, after, source, told, rfl, up, there, now⟩
    · have barred : (step o depth (.answer id (.error cause)) l).disconnected = true := by
        cases wanted : (step o depth (.answer id (.error cause)) l).disconnected with
        | true => rfl
        | false =>
          have := kept.rises_eq_nil wanted
          rw [one] at this
          cases this
      have rest := (rises_kept o _).run quiet depth later ⟨rfl, kept, barred, rfl⟩
      exact .inr ⟨[], id, cause, steps, source, told, rfl, up, one, rest.2.2.2.trans one⟩

end Runs

/-! ## What subscribers are told -/

/-- The changes that subscribers were told, oldest first. -/
def heard (l : Link σ) : List Change := l.journal.filterMap Act.heard?

/-- The backlog holds what subscribers were told. -/
def Told (l : Link σ) : Prop := l.lifecycle.backlog = l.heard.foldl Backlog.push .empty

theorem backlog_transition (l : Link σ) (next : State) : (l.lifecycle.transition next).backlog =
    ((l.passage next).filterMap Act.heard?).foldl Backlog.push l.lifecycle.backlog := by
  unfold Lifecycle.Machine.transition passage state
  split
  · rfl
  · unfold Lifecycle.Machine.announce
    split
    next none =>
      have none : l.lifecycle.subscribers.isEmpty = true := none
      rw [none]
      rfl
    next some =>
      have some : l.lifecycle.subscribers.isEmpty = false := by simpa using some
      rw [some]
      rfl

@[simp] theorem heard_of_traces {acts : List Act}
    (traces : acts.all (Act.isTraceBut [.state]) = true) : acts.filterMap Act.heard? = [] :=
  Act.filterMap_of_traces traces fun a trace => by cases a <;> first | rfl | cases trace

namespace Told

/-- What tells subscribers nothing leaves the backlog alone. -/
theorem same (told : Told l) {acts : List Act} (journal : l'.journal = l.journal ++ acts)
    (none : acts.filterMap Act.heard? = []) (backlog : l'.lifecycle.backlog = l.lifecycle.backlog) :
    Told l' := by
  rw [Told, backlog, heard, journal, List.filterMap_append, none, List.append_nil]
  exact told

/-- A swap of the state tells subscribers of the change. -/
theorem passed (told : Told l) {next : State} (before after : List Act)
    (journal : l'.journal = l.journal ++ (before ++ (l.passage next ++ after)))
    (noneBefore : before.filterMap Act.heard? = []) (noneAfter : after.filterMap Act.heard? = [])
    (backlog : l'.lifecycle.backlog = (l.lifecycle.transition next).backlog) : Told l' := by
  have told : l.lifecycle.backlog = l.heard.foldl Backlog.push .empty := told
  rw [Told, backlog, backlog_transition, heard, journal, told, heard]
  simp only [List.filterMap_append, noneBefore, noneAfter, List.nil_append, List.append_nil,
    List.foldl_append]

theorem setOut (told : Told l) (bootstrap : Bool) : Told (l.setOut bootstrap) := by
  rw [setOut_eq]
  exact told.passed [] _ rfl rfl rfl rfl

theorem drop (told : Told l) : Told l.drop := by
  rw [drop_eq]
  exact told.passed [] _ rfl rfl (heard_of_traces (by simp)) rfl

theorem hangUp (told : Told l) : Told l.hangUp := by
  have journal := journal_hangUp l
  cases h : l.state with
  | disconnected | disconnecting =>
    simp only [Link.hangUp, h]
    exact told
  | connecting =>
    have barred : Told l.bar := told
    simp only [Link.hangUp, h]
    exact barred.drop
  | connected =>
    simp only [Link.hangUp, h, shift_eq, bar, issue, spawn, note, List.append_assoc]
    exact told.passed [] _ rfl rfl rfl rfl

theorem undo (told : Told l) (ticket : Option TicketId) (answer : Except Fault ChannelId) :
    Told (l.undo ticket answer) := by
  rw [undo_eq]
  refine told.passed (l.yielding answer ++ l.disposing answer)
    (settling ticket (.ok .disconnected)) ?_ (by simp) (heard_of_traces (by simp)) rfl
  simp only [List.append_assoc]

theorem stroke (h : Stroke l l') (told : Told l) : Told l' := by
  cases h with
  | drifted | counted | marked => exact told
  | attended _ backlog => exact backlog.trans told
  | @noted a plain =>
    have none : a.heard? = none := by cases a <;> first | rfl | cases plain
    exact told.same rfl (by simp [none]) rfl
  | returned | ignored | spawned => exact told.same rfl rfl rfl
  | opened =>
    have called : Told (l.note (.called .connect)) := told.same rfl rfl rfl
    exact called.setOut true
  | restarted => exact told.drop.setOut false
  | dropped => exact told.drop
  | hungUp =>
    have called : Told (l.note (.called .disconnect)) := told.same rfl rfl rfl
    exact called.hangUp

theorem turn {s : Step σ} (h : Turn s l l') (told : Told l) : Told l' := by
  have answered : ∀ id answer, Told (l.take id answer) := fun _ _ => told.same rfl rfl rfl
  cases h with
  | dialed | redialed | tearing | cleaning => exact told.same rfl rfl rfl
  | @abandoned _ id =>
    have ended : Told (l.finish id) := told
    exact ended.hangUp
  | ended => exact told
  | @toreDown _ _ id =>
    have ended : Told (l.finish id) := told
    exact ended.drop.same rfl rfl rfl
  | @turnedAway _ id _ _ _ _ _ answer =>
    rw [turnAway_eq]
    exact (answered id answer).same rfl (by simp) rfl
  | @undone _ id ticket _ _ _ _ _ answer => exact (answered id answer).undo ticket answer
  | @succeeded _ id _ _ _ _ _ _ _ c =>
    rw [putToUse_eq]
    refine (answered id (.ok c)).passed [.installed c] (_ :: _) rfl rfl ?_ rfl
    exact (List.filterMap_cons_none rfl).trans (heard_of_traces (by simp))
  | @collided _ id ticket _ _ _ _ _ _ c =>
    have installed : Told ((l.take id (.ok c)).install c) := (answered id (.ok c)).same rfl rfl rfl
    exact installed.undo ticket (.ok c)
  | @gaveUp _ id ticket _ _ _ _ _ _ _ cause =>
    rw [giveUp_eq]
    exact (answered id (.error cause)).passed [] _ rfl rfl (heard_of_traces (by simp)) rfl

end Told

/-- The backlog agrees with the journal after every run. -/
theorem told_kept (o : Surroundings σ) : Kept o fun _ l => Told l where
  stroke := Told.stroke
  turn := Told.turn
  takeUp {l id ticket bootstrap epoch} cause _ told := by
    have taken : Told (l.take id (.error cause)) := told.same rfl rfl rfl
    have noticed : Told ((l.take id (.error cause)).takeUp ticket bootstrap cause) := by
      unfold takeUp
      split
      · rw [giveUp_eq]
        exact taken.passed [] _ rfl rfl (heard_of_traces (by simp)) rfl
      · split
        · rw [settle?_eq]
          exact taken.same rfl (heard_of_traces (by simp)) rfl
        · exact taken
    exact noticed.same rfl rfl rfl
  plan {hand l} delay told := by
    rw [plan_eq]
    refine told.passed [] (_ :: _) rfl rfl ?_ rfl
    exact (List.filterMap_cons_none rfl).trans (heard_of_traces (by simp))
  breakDown {hand l} _ told := by
    rw [settle?_eq]
    exact told.same rfl (heard_of_traces (by simp)) rfl

/-! ## How final a disconnect is -/

/-- Since the first call of disconnect returned, the link went up at most once, and then to
connecting. It did so in the step in which an attempt failed whose link nobody had disconnected
before: disconnect was called while the retry was being planned. In all steps before and after,
and in all other runs, it does not go up. Subscribers read, at each position, the change that the
journal tells of. -/
theorem disconnect_final (quiet : o.Quiet) (depth : Nat) {steps : List (Step σ)}
    (ordinary : ∀ s ∈ steps, s.Ordinary) (identity : Identity) (environment : Environment)
    (outside : σ) {l : Link σ}
    (reached : l = run o depth steps (.new identity environment outside)) :
    (l.rises = [] ∨ ∃ before id cause after source told,
      steps = before ++ .answer id (.error cause) :: after ∧
      (∃ ticket bootstrap epoch, (run o depth before (.new identity environment outside)).TakesUp
        id ticket bootstrap epoch) ∧
      (run o depth (before ++ [.answer id (.error cause)])
        (.new identity environment outside)).rises = [.changed ⟨source, .connecting⟩ told] ∧
      l.rises = [.changed ⟨source, .connecting⟩ told]) ∧
    ∀ position c, l.lifecycle.backlog.read position = .item c → l.heard[position]? = some c := by
  subst reached
  have told : Told (run o depth steps (.new identity environment outside)) :=
    (told_kept o).run quiet depth ordinary rfl
  have returned : Returned (.new identity environment outside) :=
    fun mem => absurd mem List.not_mem_nil
  refine ⟨rises_run quiet depth ordinary returned rfl, fun position c read => ?_⟩
  rw [told] at read
  exact Backlog.eq_of_read read

/-- A link that is disconnected while it publishes the reload of a retry goes up once more, and
tells its subscribers so. -/
theorem connecting_after_disconnect :
    let steps : List (Step Unit) :=
      [.subscribe, .call .connect, .start 0, .answer 0 (.error .notConnected)]
    Surroundings.reluctant.Quiet ∧ Surroundings.reluctant.Firm ∧
      .changed ⟨.disconnected, .connecting⟩ true ∈
        Act.since (.returned .disconnect) (run .reluctant 1 steps .sample).journal :=
  ⟨fun _ _ => rfl, fun _ _ => Option.some_ne_none _, by decide⟩

/-- It does not go up again when it is asked to connect, nor when its retry wakes. -/
theorem disconnect_final_while_planning :
    let steps : List (Step Unit) := [.subscribe, .call .connect, .start 0,
      .answer 0 (.error .notConnected), .call .connect, .wake 1]
    let l := run .reluctant 1 steps .sample
    ∃ before id cause after source told, steps = before ++ .answer id (.error cause) :: after ∧
      l.rises = [.changed ⟨source, .connecting⟩ told] := by
  intro steps l
  have ordinary : ∀ s ∈ steps, s.Ordinary := by simp [steps, Step.Ordinary]
  have up : l.rises ≠ [] := by decide
  obtain ⟨none | ⟨before, id, cause, after, source, told, split, -, -, one⟩, -⟩ :=
    disconnect_final (l := l) (fun _ _ => rfl) 1 ordinary _ _ () rfl
  · exact absurd none up
  · exact ⟨before, id, cause, after, source, told, split, one⟩

end Link

end NodeLink
