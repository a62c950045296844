import NodeLink.Proofs.Invariant

/-!
# What a link does with requests

A request that is sent meets its *fate* before the call returns: it is written to the installed
channel, or offered to the sink, or rejected because the link is not connected. A fate may make a
failure due. A request that the sink does not take fails on the spot; a rejected one fails later,
when the job that waits with the news is taken up.

Acts are *square* when the requests sent are those that met a fate, and the failures told or waited
with are those that fell due. A link is *fair*: every operation makes a square entry, whatever the
surroundings call on the way. This is shown operation by operation, as they are written, so logging
may be an occasion to call the link like any other.
-/

set_option autoImplicit false

namespace NodeLink

/-- What a request meets that was sent. -/
inductive Fate
  | written (channel : ChannelId)
  /-- It was offered to the sink, which may have refused it. -/
  | offered (refusal : Option Refusal)
  /-- The link was not connected. -/
  | rejected
deriving DecidableEq

namespace Fate

/-- What a request fails with that met a fate, if it fails. -/
def fault? : Fate → Option Fault
  | written _ => none
  | offered refusal => refusal.map Refusal.fault
  | rejected => some .notConnected

/-- Whether the request went to the sink. -/
def isOffered : Fate → Bool
  | offered _ => true
  | written _ | rejected => false

def isRejected : Fate → Bool
  | rejected => true
  | written _ | offered _ => false

end Fate

/-- The failure that falls due when a request meets a fate. -/
def Request.due? (met : Request × Fate) : Option (RequestId × Fault) :=
  met.2.fault?.map (met.1.id, ·)

/-- The failure that a job waits with. -/
def Job.news? : Job → Option (RequestId × Fault)
  | .rejection r => some (r.id, .notConnected)
  | _ => none

namespace Act

/-- The request that a call sends. -/
def sent? : Act → Option Request
  | .called (.send r) => some r
  | _ => none

/-- The fate that a request meets. -/
def fate? : Act → Option (Request × Fate)
  | .wrote c r => some (r, .written c)
  | .published (.redirect r) refusal => some (r, .offered refusal)
  | .spawned _ (.rejection r) => some (r, .rejected)
  | _ => none

/-- The failure that is told. -/
def failure? : Act → Option (RequestId × Fault)
  | .failed r fault => some (r, fault)
  | _ => none

/-- The failure that a new job waits with. -/
def news? (a : Act) : Option (RequestId × Fault) := a.creation?.bind (·.2.news?)

/-- Whether an act has to do with a request. -/
def concerns : Act → Bool
  | .called (.send _) | .wrote .. | .published (.redirect _) _ | .spawned _ (.rejection _)
  | .failed .. => true
  | _ => false

theorem of_concerns {a : Act} (apart : a.concerns = false) :
    a.sent? = none ∧ a.fate? = none ∧ a.failure? = none ∧ a.news? = none := by
  refine ⟨?_, ?_, ?_, ?_⟩
  · unfold sent?
    split
    · cases apart
    · rfl
  · unfold fate?
    split <;> first | cases apart | rfl
  · unfold failure?
    split
    · cases apart
    · rfl
  · cases a with
    | spawned id j => cases j <;> first | rfl | cases apart
    | _ => rfl

end Act

/-- The requests sent are those that met a fate, and the failures told or waited with are those
that fell due. -/
structure Square (acts : List Act) : Prop where
  placed : (acts.filterMap Act.sent?).Perm ((acts.filterMap Act.fate?).map Prod.fst)
  due : (acts.filterMap Act.failure? ++ acts.filterMap Act.news?).Perm
    ((acts.filterMap Act.fate?).filterMap Request.due?)

namespace Square

variable {acts more : List Act}

theorem append (first : Square acts) (second : Square more) : Square (acts ++ more) where
  placed := by
    simpa only [List.filterMap_append, List.map_append] using first.placed.append second.placed
  due := by
    simp only [List.filterMap_append]
    refine List.Perm.trans ?_ (first.due.append second.due)
    simp only [List.append_assoc]
    exact (List.perm_append_comm_assoc ..).append_left _

/-- The order of acts does not matter. -/
theorem perm (square : Square acts) (same : acts.Perm more) : Square more where
  placed := ((same.filterMap _).symm.trans square.placed).trans ((same.filterMap _).map _)
  due := (((same.filterMap _).append (same.filterMap _)).symm.trans square.due).trans
    ((same.filterMap _).filterMap _)

theorem fates_eq_nil (apart : ∀ a ∈ acts, a.concerns = false) : acts.filterMap Act.fate? = [] :=
  List.filterMap_eq_nil_iff.mpr fun a mem => (Act.of_concerns (apart a mem)).2.1

/-- Acts that have nothing to do with requests. -/
theorem apart (apart : ∀ a ∈ acts, a.concerns = false) : Square acts := by
  have sent : acts.filterMap Act.sent? = [] :=
    List.filterMap_eq_nil_iff.mpr fun a mem => (Act.of_concerns (apart a mem)).1
  have failure : acts.filterMap Act.failure? = [] :=
    List.filterMap_eq_nil_iff.mpr fun a mem => (Act.of_concerns (apart a mem)).2.2.1
  have news : acts.filterMap Act.news? = [] :=
    List.filterMap_eq_nil_iff.mpr fun a mem => (Act.of_concerns (apart a mem)).2.2.2
  refine ⟨?_, ?_⟩ <;> simp [sent, failure, news, fates_eq_nil apart]

end Square

namespace Link

open Lifecycle (State Machine)

variable {σ : Type} {o : Surroundings σ} {nested : Call → Link σ → Link σ} {l k l' : Link σ}

/-! ## Square entries -/

/-- A link makes an entry, and has counted the requests that the entry redirects and rejects. -/
structure Booked (acts : List Act) (l l' : Link σ) : Prop where
  entry : Entry acts l l'
  redirects : l'.metrics.redirects = l.metrics.redirects +
    UInt64.ofNat ((acts.filterMap Act.fate?).countP (·.2.isOffered))
  rejections : l'.metrics.rejections = l.metrics.rejections +
    UInt64.ofNat ((acts.filterMap Act.fate?).countP (·.2.isRejected))

namespace Booked

variable {acts more : List Act}

/-- An entry without fates. -/
theorem plain (entry : Entry acts l l') (none : acts.filterMap Act.fate? = [])
    (redirects : l'.metrics.redirects = l.metrics.redirects)
    (rejections : l'.metrics.rejections = l.metrics.rejections) : Booked acts l l' where
  entry := entry
  redirects := by simp [none, redirects]
  rejections := by simp [none, rejections]

theorem trans (first : Booked acts l k) (second : Booked more k l') :
    Booked (acts ++ more) l l' where
  entry := first.entry.trans second.entry
  redirects := by
    rw [second.redirects, first.redirects, List.filterMap_append, List.countP_append,
      UInt64.ofNat_add, UInt64.add_assoc]
  rejections := by
    rw [second.rejections, first.rejections, List.filterMap_append, List.countP_append,
      UInt64.ofNat_add, UInt64.add_assoc]

theorem note (l : Link σ) {a : Act} (silent : a.creation? = none) (none : a.fate? = none) :
    Booked [a] l (l.note a) :=
  plain (.note l silent) (by simp [none]) rfl rfl

end Booked

/-- A link makes a square entry. -/
structure Deals (acts : List Act) (l l' : Link σ) : Prop extends Booked acts l l' where
  square : Square acts

/-- A link deals with all requests in some square entry. -/
def Fair (l l' : Link σ) : Prop := ∃ acts, Deals acts l l'

namespace Fair

/-- A change that has nothing to do with requests. -/
theorem apart {acts : List Act} (entry : Entry acts l l')
    (apart : ∀ a ∈ acts, a.concerns = false)
    (redirects : l'.metrics.redirects = l.metrics.redirects)
    (rejections : l'.metrics.rejections = l.metrics.rejections) : Fair l l' :=
  ⟨acts, .plain entry (Square.fates_eq_nil apart) redirects rejections, .apart apart⟩

theorem trans (first : Fair l k) (second : Fair k l') : Fair l l' := by
  obtain ⟨acts, first⟩ := first
  obtain ⟨more, second⟩ := second
  exact ⟨_, first.toBooked.trans second.toBooked, first.square.append second.square⟩

/-- A change that is not written down. -/
theorem silent (journal : l'.journal = l.journal) (jobs : l'.jobs = l.jobs)
    (count : l'.jobCount = l.jobCount) (redirects : l'.metrics.redirects = l.metrics.redirects)
    (rejections : l'.metrics.rejections = l.metrics.rejections) : Fair l l' :=
  .apart (.silent (journal.trans (List.append_nil _).symm) rfl jobs count) nofun redirects
    rejections

theorem refl (l : Link σ) : Fair l l := silent rfl rfl rfl rfl rfl

theorem note (l : Link σ) {a : Act} (none : a.creation? = none) (apart : a.concerns = false) :
    Fair l (l.note a) :=
  .apart (.note l none) (by simpa using apart) rfl rfl

theorem spawn (l : Link σ) {j : Job} (none : j.news? = none) : Fair l (l.spawn j) := by
  refine .apart (.spawn l j) (List.forall_mem_singleton.mpr ?_) rfl rfl
  cases j <;> first | rfl | cases none

theorem shift (l : Link σ) (next : State) : Fair l (l.shift next) := by
  rw [shift_eq]
  refine .apart (.silent rfl (by simp) rfl rfl) (fun a mem => ?_) rfl rfl
  obtain ⟨-, rfl⟩ := mem_passage.mp mem
  rfl

theorem clear (l : Link σ) : Fair l l.clear := by
  rw [clear_eq]
  refine .apart (.silent rfl (by simp) rfl rfl) (fun a mem => ?_) rfl rfl
  obtain ⟨c, -, rfl⟩ := mem_emptying.mp mem
  rfl

theorem settle? (l : Link σ) (ticket : Option TicketId) (outcome : Outcome) :
    Fair l (l.settle? ticket outcome) := by
  refine .apart (.settle? l ticket outcome) (fun a mem => ?_) ?_ ?_
  · obtain ⟨id, -, rfl⟩ := mem_settling.mp mem
    rfl
  all_goals rw [settle?_eq]

theorem cleanUp? (l : Link σ) (answer : Except Fault ChannelId) : Fair l (l.cleanUp? answer) := by
  cases answer with
  | ok c => exact .spawn l rfl
  | error f => exact .refl l

end Fair

/-! ## Sending a request -/

/-- What a send does with its request, as the link is found: the acts of the send. Those in between
are the acts of calls made meanwhile, which are square by themselves. -/
inductive Dispatched (o : Surroundings σ) (r : Request) (l : Link σ) : List Act → Prop
  /-- The installed channel can take the request, and it is written to it. -/
  | written {c : ChannelId} {meanwhile : List Act} (connected : l.state = .connected)
      (slot : l.channel = some c) (active : o.isActive l.outside c = true)
      (writable : o.isWritable l.outside c = true) (square : Square meanwhile) :
      Dispatched o r l (.called (.send r) :: .wrote c r :: (meanwhile ++ [.returned (.send r)]))
  /-- The installed channel cannot take it: the sink is asked, and if it refuses, that is told. -/
  | offered {refusal : Option Refusal} {s : σ} {before after : List Act}
      (connected : l.state = .connected)
      (unable : ∀ c, l.channel = some c →
        o.isActive l.outside c = false ∨ o.isWritable l.outside c = false)
      (answer : (o.accept (.redirect r) s).1 = refusal) (first : Square before)
      (second : Square after) :
      Dispatched o r l (.called (.send r) :: (before ++ .published (.redirect r) refusal ::
        (after ++ ((refusal.toList.map fun f => .failed r.id f.fault) ++ [.returned (.send r)]))))
  /-- The link is not connected: nothing is told yet. -/
  | rejected (down : l.state ≠ .connected) :
      Dispatched o r l
        [.called (.send r), .spawned l.jobCount (.rejection r), .returned (.send r)]

/-- The acts of a send are square. -/
theorem Dispatched.square {r : Request} {acts : List Act} (h : Dispatched o r l acts) :
    Square acts := by
  cases h with
  | @written c meanwhile _ _ _ _ square =>
    have own : Square [.called (.send r), .wrote c r] := ⟨.refl _, .refl _⟩
    exact own.append (square.append (.apart (by simp [Act.concerns])))
  | @offered refusal _ before after _ _ _ first second =>
    have own : Square ([.called (.send r), .published (.redirect r) refusal] ++
        ((refusal.toList.map fun f => .failed r.id f.fault) ++ [.returned (.send r)])) := by
      cases refusal <;> exact ⟨.refl _, .refl _⟩
    refine ((first.append second).append own).perm ?_
    refine (List.perm_append_comm_assoc ..).trans (List.Perm.cons _ ?_)
    simpa using List.perm_middle.symm
  | rejected => exact ⟨.refl _, .refl _⟩

section Calls

variable (within : ∀ c l, Fair l (nested c l))
include within

theorem Fair.occur (k : Occasion) (l : Link σ) : Fair l (Link.occur o nested k l) :=
  (within_occur (fun _ _ => .silent rfl rfl rfl rfl rfl) .trans within k l).1

theorem Fair.log (level : Level) (message : String) (fields : List (String × String))
    (l : Link σ) : Fair l (Link.log o nested level message fields l) := .occur within _ l

/-- A request is written to a channel, while calls are made. -/
theorem write_booked (r : Request) (c : ChannelId) (l : Link σ) :
    ∃ meanwhile, Square meanwhile ∧
      Booked (.wrote c r :: meanwhile) l (write o nested c r l) := by
  obtain ⟨meanwhile, deals⟩ :=
    Fair.occur (o := o) within (.writing c r) (l.note (.wrote c r))
  have marked : Entry meanwhile (l.note (.wrote c r)) (write o nested c r l) :=
    ⟨deals.entry.journal, deals.entry.jobs, deals.entry.names, deals.entry.count⟩
  exact ⟨meanwhile, deals.square, (Entry.note l rfl).trans marked, deals.redirects,
    deals.rejections⟩

/-- A request is offered to the sink, while calls are made before and after. -/
theorem redirect_booked (r : Request) (l : Link σ) : ∃ refusal s before after,
    (o.accept (.redirect r) s).1 = refusal ∧ Square before ∧ Square after ∧
      Booked (before ++ .published (.redirect r) refusal ::
        (after ++ refusal.toList.map fun f => .failed r.id f.fault)) l
        (redirect o nested r l) := by
  have logged := Fair.log (o := o) within .debug "endpoint_request_redirected"
    [("ident", (l.count .redirect).mark o)] (l.count .redirect)
  unfold redirect
  dsimp only
  generalize Link.log o nested _ _ _ (l.count .redirect) = m at logged ⊢
  obtain ⟨before, first⟩ := logged.trans (.occur (o := o) within (.publishing (.redirect r)) m)
  unfold publish
  dsimp only
  generalize Link.occur o nested (.publishing (.redirect r)) m = k at first ⊢
  have counted : Entry before l k :=
    ⟨first.entry.journal, first.entry.jobs, first.entry.names, first.entry.count⟩
  have offered : ∀ refusal s, Booked (before ++ [.published (.redirect r) refusal]) l
      ({ k with outside := s }.note (.published (.redirect r) refusal)) := by
    intro refusal s
    have drifted : Entry [] k { k with outside := s } :=
      .silent (List.append_nil _).symm rfl rfl rfl
    have entry := (counted.trans drifted).trans
      (.note _ (a := .published (.redirect r) refusal) rfl)
    rw [List.append_nil] at entry
    refine ⟨entry, first.redirects.trans ?_, first.rejections.trans ?_⟩
    · simp [Act.fate?, Fate.isOffered, count, Metrics.record, Metrics.add, Metrics.set,
        Metrics.get, UInt64.ofNat_add]
      ac_rfl
    · simp [Act.fate?, Fate.isRejected, count, Metrics.record, Metrics.add, Metrics.set,
        Metrics.get]
  cases hanswer : (o.accept (.redirect r) k.outside).1 with
  | none =>
    refine ⟨none, k.outside, before, [], hanswer, first.square, .apart (by simp), ?_⟩
    simpa using offered none (o.accept (.redirect r) k.outside).2
  | some refusal =>
    dsimp only
    generalize hm : Link.log o nested .warn _ _ _ = m
    obtain ⟨after, second⟩ := hm ▸ Fair.log (o := o) within ..
    have told := ((offered (some refusal) _).trans second.toBooked).trans
      (.note _ (a := .failed r.id refusal.fault) rfl rfl)
    refine ⟨some refusal, k.outside, before, after, hanswer, first.square, second.square, ?_⟩
    cases refusal <;> simpa [Refusal.fault] using told

/-- A send deals with its request, in one of three ways. -/
theorem dispatched_send (r : Request) (l : Link σ) :
    ∃ acts, Dispatched o r l acts ∧ Deals acts l (Link.carryOut o nested (.send r) l) := by
  have called : Booked [.called (.send r)] l (l.note (.called (.send r))) := .note l rfl rfl
  have returned : ∀ k : Link σ, Booked [.returned (.send r)] k (k.note (.returned (.send r))) :=
    fun k => .note k rfl rfl
  have closed : ∀ {acts : List Act} {l' : Link σ}, Dispatched o r l acts → Booked acts l l' →
      ∃ acts, Dispatched o r l acts ∧ Deals acts l l' :=
    fun dispatched booked => ⟨_, dispatched, booked, dispatched.square⟩
  by_cases connected : l.state = .connected
  · have redirected : (∀ c, l.channel = some c →
        o.isActive l.outside c = false ∨ o.isWritable l.outside c = false) →
        ∃ acts, Dispatched o r l acts ∧ Deals acts l ((redirect o nested r
          (l.note (.called (.send r)))).note (.returned (.send r))) := by
      intro unable
      obtain ⟨refusal, s, before, after, answer, first, second, booked⟩ :=
        redirect_booked (o := o) within r (l.note (.called (.send r)))
      refine closed (.offered connected unable answer first second) ?_
      simpa using (called.trans booked).trans (returned _)
    have here : (l.note (.called (.send r))).state = .connected := connected
    simp only [Link.carryOut, perform, send, here, ↓reduceIte]
    split
    next c slot =>
      split
      next able =>
        obtain ⟨meanwhile, square, booked⟩ :=
          write_booked (o := o) within r c (l.note (.called (.send r)))
        refine closed (.written connected slot able.1 able.2 square) ?_
        simpa using (called.trans booked).trans (returned _)
      next unable =>
        refine redirected fun c' slot' => ?_
        obtain rfl : c = c' := Option.some.inj (slot.symm.trans slot')
        rwa [not_and_or, Bool.not_eq_true, Bool.not_eq_true] at unable
    next slot =>
      exact redirected fun c slot' => absurd (slot'.symm.trans slot) (Option.some_ne_none c)
  · have here : (l.note (.called (.send r))).state ≠ .connected := connected
    simp only [Link.carryOut, perform, send, here, ↓reduceIte]
    have counted : Booked [.spawned l.jobCount (.rejection r)] (l.note (.called (.send r)))
        (((l.note (.called (.send r))).count .rejection).spawn (.rejection r)) :=
      ⟨⟨rfl, rfl, rfl, rfl⟩, (UInt64.add_zero _).symm, rfl⟩
    refine closed (.rejected connected) ?_
    simpa using (called.trans counted).trans (returned _)

namespace Fair

/-! ## The other calls -/

theorem moveTo (next : State) (l : Link σ) : Fair l (Link.moveTo o nested next l) := by
  unfold Link.moveTo
  split
  · exact .shift l next
  · exact (Fair.shift l next).trans (.log within ..)

omit within in
theorem startChain (bootstrap : Bool) (l : Link σ) : Fair l (Link.startChain bootstrap l).2 := by
  unfold Link.startChain
  refine Fair.trans ?_ (.spawn _ rfl)
  exact .silent rfl rfl rfl rfl rfl

theorem connectWith (bootstrap : Bool) (l : Link σ) :
    Fair l (Link.connectWith o nested bootstrap l).2 := by
  unfold Link.connectWith
  split
  · exact .log within ..
  · split
    · exact (Fair.moveTo within .connecting l).trans (.startChain bootstrap _)
    · dsimp only
      split
      · exact .log within ..
      · exact .refl l

theorem disconnect (l : Link σ) : Fair l (Link.disconnect o nested l).2 := by
  have barred : Fair l { l with disconnected := true } := .silent rfl rfl rfl rfl rfl
  unfold Link.disconnect
  dsimp only
  split
  · exact barred
  · exact barred
  · exact (barred.trans (.moveTo within .disconnected _)).trans (.clear _)
  · have moved := barred.trans (.moveTo (o := o) within .disconnecting _)
    have issued : Fair l
        (Link.moveTo o nested .disconnecting { l with disconnected := true }).issue.2 :=
      moved.trans (.silent rfl rfl rfl rfl rfl)
    exact issued.trans (.spawn _ rfl)

theorem signalReload (l : Link σ) : Fair l (Link.signalReload o nested l) := by
  have counted : Fair l (l.count .reload) := .silent rfl rfl rfl rfl rfl
  have drifted : ∀ (k : Link σ) (s : σ), Fair k { k with outside := s } :=
    fun _ _ => .silent rfl rfl rfl rfl rfl
  have offered : Fair l (publish o nested .reload (l.count .reload)).2 :=
    ((counted.trans (.occur within (.publishing .reload) _)).trans (drifted _ _)).trans
      (.note _ rfl rfl)
  unfold Link.signalReload
  split
  next k h =>
    rw [h] at offered
    exact offered
  next refusal k h =>
    rw [h] at offered
    exact offered.trans (.log within ..)

theorem reportLoss (l : Link σ) : Fair l (Link.reportLoss o nested l) := by
  unfold Link.reportLoss
  split
  · exact .refl l
  · have counted : Fair l (l.count .loss) := .silent rfl rfl rfl rfl rfl
    dsimp only
    generalize hk : (if (l.count .loss).state.isDown = true then _ else _ : Link σ) = k
    have asked : Fair l k := by
      rw [← hk]
      split
      · exact counted.trans (.log within ..)
      · exact (counted.trans (.log within ..)).trans (.signalReload within _)
    split
    · have dropped := (asked.trans (.moveTo (o := o) within .disconnected k)).trans (.clear _)
      exact (dropped.trans (.connectWith within false _)).trans (.spawn _ rfl)
    · exact asked

theorem flush (l : Link σ) : Fair l (Link.flush o nested l) := by
  unfold Link.flush
  split
  · split
    next c _ =>
      split
      · have flushed : Fair l (l.note (.flushed c)) := .note l rfl rfl
        refine (flushed.trans (.occur (o := o) within (.flushing c) _)).trans ?_
        exact .silent rfl rfl rfl rfl rfl
      · exact .refl l
    next => exact .refl l
  · exact .refl l

theorem carryOut (c : Call) (l : Link σ) : Fair l (Link.carryOut o nested c l) := by
  have closed : ∀ {l' : Link σ}, (∀ r, c ≠ .send r) → Fair (l.note (.called c)) l' →
      Fair l (l'.note (.returned c)) := by
    intro l' other fair
    refine .trans (.trans (.note l rfl ?_) fair) (.note l' rfl rfl)
    cases c with
    | send r => exact absurd rfl (other r)
    | _ => rfl
  cases c with
  | connect => exact closed nofun (.connectWith within true _)
  | disconnect => exact closed nofun (.disconnect within _)
  | reportLoss => exact closed nofun (.reportLoss within _)
  | signalReload => exact closed nofun (.signalReload within _)
  | flush => exact closed nofun (.flush within _)
  | send r =>
    obtain ⟨acts, -, deals⟩ := dispatched_send (o := o) within r l
    exact ⟨acts, deals⟩

end Fair

end Calls

/-- Calls are fair to any depth, by induction on the depth. -/
theorem Fair.atDepth (o : Surroundings σ) (depth : Nat) :
    ∀ (c : Call) (l : Link σ), Fair l (Link.nested o depth c l) := by
  induction depth with
  | zero => exact fun _ => .refl
  | succ depth ih => exact Fair.carryOut ih

/-! ## Jobs -/

namespace Fair

section Jobs

variable (within : ∀ c l, Fair l (nested c l))

theorem dial (id : JobId) (ticket : Option TicketId) (bootstrap : Bool) (epoch : UInt64)
    (l : Link σ) : Fair (l.become id (.attempt ticket bootstrap epoch true))
      (Link.dial o id ticket bootstrap epoch l) := by
  have counted : Fair (l.become id (.attempt ticket bootstrap epoch true))
      ((options o (l.count .attempt)).2.become id (.attempt ticket bootstrap epoch true)) :=
    .silent rfl rfl rfl rfl rfl
  exact counted.trans (.note _ rfl rfl)

include within

theorem supersede (ticket : Option TicketId) (answer : Except Fault ChannelId) (l : Link σ) :
    Fair l (Link.supersede o nested ticket answer l) := by
  have counted : ∀ k : Link σ, Fair k (k.count .discard) := fun _ => .silent rfl rfl rfl rfl rfl
  exact (((Fair.log within ..).trans (counted _)).trans (.cleanUp? _ answer)).trans (.settle? ..)

theorem discard (ticket : Option TicketId) (answer : Except Fault ChannelId) (l : Link σ) :
    Fair l (Link.discard o nested ticket answer l) := by
  have counted : ∀ k : Link σ, Fair k (k.count .discard) := fun _ => .silent rfl rfl rfl rfl rfl
  have logged := (Fair.log (o := o) within .debug "endpoint_connect_discarded"
    [("ident", l.mark o)] l).trans (counted _)
  refine (Fair.trans (Fair.trans logged ?_) (.moveTo within .disconnected _)).trans (.settle? ..)
  cases answer with
  | error f => exact .refl _
  | ok c =>
    dsimp only
    refine Fair.trans ?_ (.spawn _ rfl)
    split
    · exact .clear _
    · exact .refl _

theorem succeed (ticket : Option TicketId) (c : ChannelId) (l : Link σ) :
    Fair l (Link.succeed o nested ticket c l) := by
  have installed : Fair l (l.install c) := .apart (.install l c) (by simp [Act.concerns]) rfl rfl
  have counted : ∀ k : Link σ, Fair k (k.count .success) := fun _ => .silent rfl rfl rfl rfl rfl
  unfold Link.succeed
  dsimp only
  split
  · have connected := (installed.trans (.moveTo (o := o) within .connected _)).trans (counted _)
    exact ((connected.trans (.log within ..)).trans (.spawn _ rfl)).trans (.settle? ..)
  · exact installed.trans (.discard within ticket (.ok c) _)

theorem planRetry (epoch : UInt64) (cause : Fault) (l : Link σ) :
    Fair l (Link.planRetry o nested epoch cause l).2 := by
  by_cases current : l.epoch = epoch
  · have consulted : Fair l l.consult := .apart (.consult l) (by simp [Act.concerns]) rfl rfl
    have asked := consulted.trans (.occur (o := o) within (.consulting l.reconnectAttempt) _)
    have unfolded : Link.planRetry o nested epoch cause l = _ := if_pos current
    rw [unfolded]
    dsimp only
    rw [← Link.consult]
    generalize Link.occur o nested _ l.consult = k at asked ⊢
    split
    next s _ => exact asked.trans (.silent rfl rfl rfl rfl rfl)
    next delay s _ =>
      have counted : Fair k ({ k with outside := s }.count .retry) := .silent rfl rfl rfl rfl rfl
      refine .trans (.trans (.trans ?_ (.signalReload within _)) (.moveTo within .connecting _))
        (.spawn _ rfl)
      exact (asked.trans counted).trans (.log within ..)
  · have unfolded : Link.planRetry o nested epoch cause l = _ := if_neg current
    rw [unfolded]
    exact .refl l

theorem announceFailure (ticket : Option TicketId) (bootstrap : Bool) (cause : Fault)
    (l : Link σ) : Fair l (Link.announceFailure o nested ticket bootstrap cause l).2 := by
  unfold Link.announceFailure
  split
  · exact ((Fair.log within ..).trans (.moveTo within .disconnected _)).trans (.settle? ..)
  · dsimp only
    split
    · exact (Fair.log within ..).trans (.settle? ..)
    · exact .log within ..

theorem fail (ticket : Option TicketId) (bootstrap : Bool) (epoch : UInt64) (cause : Fault)
    (l : Link σ) : Fair l (Link.fail o nested ticket bootstrap epoch cause l) := by
  have counted : Fair l (l.count .failure) := .silent rfl rfl rfl rfl rfl
  have announced := counted.trans (.announceFailure (o := o) within ticket bootstrap cause _)
  unfold Link.fail
  dsimp only
  generalize Link.announceFailure o nested ticket bootstrap cause (l.count .failure) = p
    at announced ⊢
  split
  · exact (announced.trans (.log within ..)).trans (.settle? ..)
  · split
    · exact (announced.trans (.log within ..)).trans (.settle? ..)
    · have planned := announced.trans (.planRetry (o := o) within epoch cause _)
      split
      next k h =>
        rw [h] at planned
        exact planned.trans (.settle? ..)
      next k h =>
        rw [h] at planned
        exact planned.trans (.settle? ..)

theorem conclude (ticket : Option TicketId) (bootstrap : Bool) (epoch : UInt64)
    (answer : Except Fault ChannelId) (l : Link σ) :
    Fair l (Link.conclude o nested ticket bootstrap epoch answer l) := by
  unfold Link.conclude
  split
  · exact .supersede within ticket answer l
  · split
    · exact .discard within ticket answer l
    · cases answer with
      | ok c => exact .succeed within ticket c l
      | error cause => exact .fail within ticket bootstrap epoch cause l

theorem tornDown (ticket : TicketId) (l : Link σ) : Fair l (Link.tornDown o nested ticket l) :=
  (((Fair.moveTo within .disconnected l).trans (.clear _)).trans (.log within ..)).trans
    (.note _ rfl rfl)

theorem closeEnded (ticket : TicketId) (failure : Option Fault) (l : Link σ) :
    Fair l (Link.closeEnded o nested ticket failure l) := by
  cases failure with
  | none => exact (Fair.log within ..).trans (.tornDown within ticket _)
  | some f => exact (Fair.log within ..).trans (.tornDown within ticket _)

theorem cleanupEnded (failure : Option Fault) (l : Link σ) :
    Fair l (Link.cleanupEnded o nested failure l) := by
  cases failure with
  | none => exact .refl l
  | some f => exact .log within ..

theorem watchEnded (c : ChannelId) (l : Link σ) : Fair l (Link.watchEnded o nested c l) := by
  unfold Link.watchEnded
  split
  · exact .reportLoss within l
  · exact .refl l

theorem reconnectEnded (outcome : Outcome) (l : Link σ) :
    Fair l (Link.reconnectEnded o nested outcome l) := by
  cases outcome with
  | ok state => exact .refl l
  | error f => exact .log within ..

end Jobs

end Fair

/-! ## Steps -/

/-- A job that waits with no news has ended or gone on, if any has. -/
inductive Resumed (l : Link σ) : Link σ → Prop
  | none : Resumed l l
  | ended {id : JobId} {j : Job} (job : l.job? id = some j) (silent : j.news? = none) :
      Resumed l (l.finish id)
  | gone {id : JobId} {j j' : Job} (job : l.job? id = some j) (silent : j.news? = none)
      (still : j'.news? = none) : Resumed l (l.become id j')

/-- An ordinary step is fair once its job has ended or gone on, or it tells the news of a
rejection. -/
theorem step_fair (o : Surroundings σ) (depth : Nat) {s : Step σ} (ordinary : s.Ordinary)
    (l : Link σ) :
    (∃ k, Resumed l k ∧ Fair k (step o depth s l)) ∨
      ∃ id r, s = .start id ∧ l.job? id = some (.rejection r) ∧
        step o depth s l = (l.finish id).note (.failed r.id .notConnected) := by
  have within := Fair.atDepth o depth
  have idle : ∃ k, Resumed l k ∧ Fair k l := ⟨l, .none, .refl l⟩
  cases s with
  | call c => exact .inl ⟨l, .none, .carryOut within c l⟩
  | start id =>
    dsimp only [step, stepWith, start]
    split
    next job => exact .inl ⟨_, .gone job rfl rfl, .dial ..⟩
    next job => exact .inl ⟨_, .gone job rfl rfl, .note _ rfl rfl⟩
    next job => exact .inl ⟨_, .ended job rfl, .tornDown within _ _⟩
    next job => exact .inl ⟨_, .gone job rfl rfl, .note _ rfl rfl⟩
    next r job => exact .inr ⟨id, r, rfl, job, rfl⟩
    next => exact .inl idle
  | answer id answer =>
    dsimp only [step, stepWith]
    split
    next job =>
      have taken : Fair (l.finish id) (l.take id answer) := .note _ rfl rfl
      exact .inl ⟨_, .ended job rfl, taken.trans (.conclude within ..)⟩
    next => exact .inl idle
  | wake id =>
    dsimp only [step, stepWith]
    split
    next job =>
      unfold wake
      split
      · exact .inl ⟨_, .ended job rfl, .log within ..⟩
      · split
        · exact .inl ⟨_, .ended job rfl, (Fair.log within ..).trans (.disconnect within _)⟩
        · exact .inl ⟨_, .gone job rfl rfl, .dial ..⟩
    next => exact .inl idle
  | closed id failure =>
    dsimp only [step, stepWith]
    split
    next job => exact .inl ⟨_, .ended job rfl, .closeEnded within ..⟩
    next job => exact .inl ⟨_, .ended job rfl, .cleanupEnded within ..⟩
    next => exact .inl idle
  | lost id =>
    dsimp only [step, stepWith]
    split
    next job => exact .inl ⟨_, .ended job rfl, .watchEnded within ..⟩
    next => exact .inl idle
  | told id outcome =>
    dsimp only [step, stepWith]
    split
    next job => exact .inl ⟨_, .ended job rfl, .reconnectEnded within ..⟩
    next => exact .inl idle
  | crash id => exact ordinary.elim
  | drift s => exact .inl ⟨l, .none, .silent rfl rfl rfl rfl rfl⟩
  | subscribe => exact .inl ⟨l, .none, .silent rfl rfl rfl rfl rfl⟩
  | receive subscriber =>
    dsimp only [step, stepWith]
    split
    · exact .inl ⟨l, .none, .silent rfl rfl rfl rfl rfl⟩
    · exact .inl idle
  | unsubscribe subscriber => exact .inl ⟨l, .none, .silent rfl rfl rfl rfl rfl⟩

end Link

end NodeLink
