import Mathlib.Data.List.Perm.Basic
import NodeLink.Proofs.Queues
import NodeLink.Sink.Exchange

/-!
# Whose hands a request is in

An exchange settles a request in the same step in which somebody gets hold of it. Here these are
steps of their own: a publisher makes requests and holds them until a sink takes them, a consumer
holds what it received until it answers or drops it, and either party may leave. Every step of an
exchange is a few of these moves (`Passage.exchange_step`).

A bounded sink may be made of permits or of slots. In either case a publication is decided by what
is queued, events arrive in the order in which they were accepted, and every request is in one place
(`Sound`, kept by every move). Both kinds answer every move alike (`bounded_sinks_agree`).
-/

set_option autoImplicit false

namespace NodeLink.Sink

/-! ## Moves -/

/-- What is to be published. -/
inductive Cargo
  | reload
  | redirect (payload : List UInt8)
  | change (record : Dcp.Event)

/-- The event for a cargo; a request gets the next free name. -/
def Cargo.event (id : RequestId) : Cargo → Event
  | reload => .reload
  | redirect payload => .redirect ⟨id, payload⟩
  | change record => .change record

/-- How many names a cargo takes. -/
def Cargo.requests : Cargo → Nat
  | redirect _ => 1
  | reload | change _ => 0

/-- The requests in events, by their names. -/
def names (es : List Event) : List RequestId := es.filterMap fun e => e.request?.map (·.id)

/-- A sink, what its parties hold, and what became of the requests. -/
structure Passage where
  sink : Sink Event
  reading : Bool
  left : Bool
  made : Nat
  publisher : List Event
  consumer : List Event
  settled : List (RequestId × Response)
  /-- The events that the sink took, in order. -/
  accepted : List Event
  /-- The events that the consumer got, in order. -/
  received : List Event

/-- What a party does. Events in a party's hands are counted from the oldest. -/
inductive Move
  | make (c : Cargo)
  | publish (i : Nat)
  /-- The publisher drops an event. -/
  | discard (i : Nat)
  | receive
  | answer (i : Nat) (r : Response)
  /-- The consumer drops an event. -/
  | drop (i : Nat)
  | close
  | leave

/-- What a party learns. -/
inductive Answer
  | done
  | accepted
  | refused (why : Refusal) (e : Event)
  | gone
  | nothing
  | event (e : Event)

namespace Passage

/-- An unused sink between two parties with empty hands. -/
def start (s : Sink Event) : Passage := ⟨s, true, false, 0, [], [], [], [], []⟩

/-- Settles the requests in events. -/
def settle (p : Passage) (es : List Event) (r : Response) : Passage :=
  { p with settled := p.settled ++ (names es).map fun id => (id, r) }

/-- A move and what is learned by it. A party that holds no such event does nothing, nor does a
publisher that has left publish. In place of an event that is refused, the publisher holds what the
sink hands back. -/
def step (p : Passage) : Move → Answer × Passage
  | .make c =>
    (.done, { p with publisher := p.publisher ++ [c.event p.made], made := p.made + c.requests })
  | .publish i =>
    match p.publisher[i]? with
    | some e =>
      if p.left then (.done, p)
      else
        match p.sink.publish e with
        | (none, s) =>
          (.accepted, { p with
            sink := s, publisher := p.publisher.eraseIdx i, accepted := p.accepted ++ [e] })
        | (some (why, back), s) =>
          (.refused why back, { p with sink := s, publisher := p.publisher.set i back })
    | none => (.done, p)
  | .discard i =>
    match p.publisher[i]? with
    | some e =>
      (.done, { p with publisher := p.publisher.eraseIdx i }.settle [e] (.error .dropped))
    | none => (.done, p)
  | .receive =>
    if p.reading then
      match p.sink.receive with
      | (some e, s) =>
        (.event e, { p with
          sink := s, consumer := p.consumer ++ [e], received := p.received ++ [e] })
      | (none, s) => (.nothing, { p with sink := s })
    else (.gone, p)
  | .answer i r =>
    match p.consumer[i]? with
    | some e => (.done, { p with consumer := p.consumer.eraseIdx i }.settle [e] r)
    | none => (.done, p)
  | .drop i =>
    match p.consumer[i]? with
    | some e => (.done, { p with consumer := p.consumer.eraseIdx i }.settle [e] (.error .dropped))
    | none => (.done, p)
  | .close =>
    (.done, { p with sink := p.sink.close.2, reading := false }.settle p.sink.close.1
      (.error .dropped))
  | .leave =>
    (.done, { p with sink := p.sink.abandon.2, left := true }.settle p.sink.abandon.1
      (.error .dropped))

/-- Moves one after the other, and what is learned by each. -/
def run (p : Passage) : List Move → List Answer × Passage
  | [] => ([], p)
  | m :: ms => ((p.step m).1 :: ((p.step m).2.run ms).1, ((p.step m).2.run ms).2)

/-- The requests of a passage, wherever they are. -/
def places (p : Passage) : List RequestId :=
  names p.publisher ++ names p.sink.queued ++ names p.consumer ++ p.settled.map Prod.fst

/-! ## What every move keeps -/

/-- A bounded sink is what its queue says, events arrive in order and no request is lost or
doubled. -/
structure Sound (n : Nat) (p : Passage) : Prop where
  stands : Stands n p.sink.queued p.reading p.left p.sink
  order : ∃ lost, p.accepted = p.received ++ lost ++ p.sink.queued ∧ (p.reading = true → lost = [])
  custody : p.places.Perm (List.range p.made)

theorem names_append (es fs : List Event) : names (es ++ fs) = names es ++ names fs :=
  List.filterMap_append

/-- An event that is taken out of a party's hands and those that stay are all that it held. -/
theorem names_eraseIdx {es : List Event} {i : Nat} {e : Event} (h : es[i]? = some e) :
    (names es).Perm (names [e] ++ names (es.eraseIdx i)) := by
  obtain ⟨bound, rfl⟩ := List.getElem?_eq_some_iff.mp h
  rw [← names_append]
  exact (List.getElem_cons_eraseIdx_perm bound).symm.filterMap _

theorem map_fst_settle (p : Passage) (es : List Event) (r : Response) :
    (p.settle es r).settled.map Prod.fst = p.settled.map Prod.fst ++ names es := by
  simp [settle, Function.comp_def]

theorem sound_start {n : Nat} {s : Sink Event} (h : Stands n [] true false s) :
    Sound n (start s) := by
  have none : s.queued = [] := h.queued
  refine ⟨?_, ⟨[], ?_, fun _ => rfl⟩, ?_⟩
  · rw [start, none]
    exact h
  · simp [start, none]
  · simp [places, start, none, names]

variable {n : Nat} {p : Passage}

/-- A publication does as the queue tells: the sink takes the event, or hands it back and nothing
changes. -/
theorem Sound.publish_cases (h : Sound n p) {i : Nat} {e : Event}
    (held : p.publisher[i]? = some e) (there : p.left = false) :
    (∃ s, refusal? n p.sink.queued p.reading = none ∧
      p.step (.publish i) = (.accepted, { p with
        sink := s, publisher := p.publisher.eraseIdx i, accepted := p.accepted ++ [e] }) ∧
      Stands n (p.sink.queued ++ [e]) p.reading p.left s) ∨
    ∃ why, refusal? n p.sink.queued p.reading = some why ∧
      p.step (.publish i) = (.refused why e, p) := by
  obtain ⟨verdict, stands⟩ := h.stands.publish e
  obtain ⟨answer, s, taken⟩ : ∃ answer s, p.sink.publish e = (answer, s) := ⟨_, _, rfl⟩
  rw [taken] at verdict stands
  obtain rfl := verdict
  have remaining : ¬ p.left = true := by rw [there]; decide
  simp only [step, held, if_neg remaining, taken]
  cases refused : refusal? n p.sink.queued p.reading with
  | none =>
    rw [if_pos refused] at stands
    exact .inl ⟨s, rfl, rfl, stands⟩
  | some why =>
    rw [refused] at taken
    obtain ⟨-, rfl⟩ := publish_refused taken
    have unmoved : p.publisher.set i e = p.publisher := by
      obtain ⟨bound, rfl⟩ := List.getElem?_eq_some_iff.mp held
      exact List.set_getElem_self bound
    refine .inr ⟨why, rfl, ?_⟩
    simp only [Option.map_some, unmoved]

/-- What is received is the oldest event, unless there is none or the consumer has left. -/
theorem Sound.receive_cases (h : Sound n p) :
    p.reading = false ∧ p.step .receive = (.gone, p) ∨
    (∃ s, p.reading = true ∧ p.sink.queued = [] ∧
      p.step .receive = (.nothing, { p with sink := s }) ∧ Stands n [] p.reading p.left s) ∨
    ∃ e rest s, p.reading = true ∧ p.sink.queued = e :: rest ∧
      p.step .receive = (.event e, { p with
        sink := s, consumer := p.consumer ++ [e], received := p.received ++ [e] }) ∧
      Stands n rest p.reading p.left s := by
  have stands := h.stands
  cases present : p.reading with
  | false => exact .inl ⟨rfl, if_neg (by simp [present])⟩
  | true =>
    rw [present] at stands
    obtain ⟨first, next⟩ := stands.receive
    obtain ⟨answer, s, taken⟩ : ∃ answer s, p.sink.receive = (answer, s) := ⟨_, _, rfl⟩
    rw [taken] at first next
    obtain rfl := first
    cases queue : p.sink.queued with
    | nil =>
      rw [queue] at taken next
      refine .inr (.inl ⟨s, rfl, rfl, ?_, next⟩)
      simp only [step, present, if_true, taken, List.head?_nil]
    | cons e rest =>
      rw [queue] at taken next
      refine .inr (.inr ⟨e, rest, s, rfl, rfl, ?_, next⟩)
      simp only [step, present, if_true, taken, List.head?_cons]

/-- Events whose requests are settled go from a party's hands to what is settled. -/
theorem sound_settle {es : List Event} {r : Response} {q : Passage}
    (stands : Stands n q.sink.queued q.reading q.left q.sink)
    (order : ∃ lost, q.accepted = q.received ++ lost ++ q.sink.queued ∧
      (q.reading = true → lost = []))
    (custody : (q.places ++ names es).Perm (List.range q.made)) : Sound n (q.settle es r) := by
  refine ⟨stands, order, List.Perm.trans (List.Perm.of_eq ?_) custody⟩
  simp only [places, map_fst_settle, List.append_assoc]
  rfl

/-- The request in an event that the consumer holds goes to what is settled. -/
theorem Sound.handOver (h : Sound n p) {i : Nat} {e : Event} (held : p.consumer[i]? = some e)
    (r : Response) : Sound n ({ p with consumer := p.consumer.eraseIdx i }.settle [e] r) := by
  refine sound_settle h.stands h.order (List.perm_iff_count.mpr fun id => ?_)
  have before := h.custody.count_eq id
  have moved := (names_eraseIdx held).count_eq id
  simp only [places, List.count_append] at before moved ⊢
  omega

theorem Sound.step (h : Sound n p) (m : Move) : Sound n (p.step m).2 := by
  obtain ⟨stands, ⟨lost, order, whole⟩, custody⟩ := id h
  cases m with
  | make c =>
    refine ⟨stands, ⟨lost, order, whole⟩, ?_⟩
    have fresh : names [c.event p.made] = (List.range c.requests).map (p.made + ·) := by
      cases c <;> rfl
    simp only [Passage.step, List.range_add, ← fresh]
    refine List.perm_iff_count.mpr fun id => ?_
    have before := custody.count_eq id
    simp only [places, names_append, List.count_append] at before ⊢
    omega
  | publish i =>
    rcases held : p.publisher[i]? with _ | e
    · simpa only [Passage.step, held] using h
    cases there : p.left with
    | true => simpa only [Passage.step, held, if_pos there] using h
    | false =>
      rcases h.publish_cases held there with ⟨s, _, taken, next⟩ | ⟨why, _, taken⟩
      · rw [taken]
        refine ⟨?_, ⟨lost, ?_, whole⟩, ?_⟩
        · rw [next.queued]
          exact next
        · simp only [next.queued, order, List.append_assoc]
        · refine List.perm_iff_count.mpr fun id => ?_
          have before := custody.count_eq id
          have moved := (names_eraseIdx held).count_eq id
          simp only [places, next.queued, names_append, List.count_append] at before moved ⊢
          omega
      · rw [taken]
        exact h
  | discard i =>
    rcases held : p.publisher[i]? with _ | e
    · simpa only [Passage.step, held] using h
    · simp only [Passage.step, held]
      refine sound_settle stands ⟨lost, order, whole⟩ (List.perm_iff_count.mpr fun id => ?_)
      have before := custody.count_eq id
      have moved := (names_eraseIdx held).count_eq id
      simp only [places, List.count_append] at before moved ⊢
      omega
  | receive =>
    rcases h.receive_cases with ⟨-, taken⟩ | ⟨s, present, none, taken, next⟩ |
      ⟨e, rest, s, present, some, taken, next⟩
    · rw [taken]
      exact h
    · rw [taken]
      rw [none] at order
      refine ⟨?_, ⟨lost, ?_, whole⟩, ?_⟩
      · rw [next.queued]
        exact next
      · rw [next.queued]
        exact order
      · simpa only [places, next.queued, none] using custody
    · rw [taken]
      rw [some, whole present, List.append_nil] at order
      refine ⟨?_, ⟨[], ?_, fun _ => rfl⟩, ?_⟩
      · rw [next.queued]
        exact next
      · simp only [next.queued, order, List.append_nil, List.append_assoc, List.singleton_append]
      · refine List.perm_iff_count.mpr fun id => ?_
        have before := custody.count_eq id
        rw [places, some, ← List.singleton_append, names_append] at before
        simp only [places, next.queued, names_append, List.count_append] at before ⊢
        omega
  | answer i r =>
    rcases held : p.consumer[i]? with _ | e
    · simpa only [Passage.step, held] using h
    · simpa only [Passage.step, held] using h.handOver held _
  | drop i =>
    rcases held : p.consumer[i]? with _ | e
    · simpa only [Passage.step, held] using h
    · simpa only [Passage.step, held] using h.handOver held _
  | close =>
    obtain ⟨kept, parts, rest⟩ := stands.close
    refine sound_settle (rest.queued.symm ▸ rest) ⟨lost ++ p.sink.close.1, ?_, nofun⟩
      (List.perm_iff_count.mpr fun id => ?_)
    · simp only [rest.queued, order, List.append_assoc]
      rw [← parts]
    · have before := custody.count_eq id
      have moved := congrArg (fun es => (names es).count id) parts
      simp only [places, rest.queued, names_append, List.count_append] at before moved ⊢
      omega
  | leave =>
    obtain ⟨kept, parts, none, rest⟩ := stands.abandon
    refine sound_settle (rest.queued.symm ▸ rest) ⟨lost ++ p.sink.abandon.1, ?_, fun present => ?_⟩
      (List.perm_iff_count.mpr fun id => ?_)
    · simp only [rest.queued, order, List.append_assoc]
      rw [← parts]
    · rw [whole present, none present, List.append_nil]
    · have before := custody.count_eq id
      have moved := congrArg (fun es => (names es).count id) parts
      simp only [places, rest.queued, names_append, List.count_append] at before moved ⊢
      omega

theorem Sound.run (h : Sound n p) (ms : List Move) : Sound n (p.run ms).2 := by
  induction ms generalizing p with
  | nil => exact h
  | cons m ms ih => exact ih (h.step m)

/-! ## Two sinks side by side -/

/-- Another sink in the same hands. It may have dropped what this one still keeps for a consumer
that has left. -/
inductive Alike (p : Passage) : Passage → Prop
  | mk {s : Sink Event} {settled : List (RequestId × Response)}
      (queued : p.reading = true → p.sink.queued = s.queued) :
      Alike p { p with sink := s, settled := settled }

variable {q : Passage}

theorem Alike.refusal? (h : Alike p q) :
    refusal? n q.sink.queued q.reading = refusal? n p.sink.queued p.reading := by
  obtain ⟨queued⟩ := h
  cases present : p.reading with
  | false => rfl
  | true => rw [queued present]

theorem Alike.publish (h : Alike p q) (one : Sound n p) (other : Sound n q) (i : Nat) :
    (p.step (.publish i)).1 = (q.step (.publish i)).1 ∧
      Alike (p.step (.publish i)).2 (q.step (.publish i)).2 := by
  have hands : q.publisher = p.publisher ∧ q.left = p.left := by
    obtain ⟨-⟩ := h
    exact ⟨rfl, rfl⟩
  cases held : p.publisher[i]? with
  | none => simpa only [Passage.step, held, hands, true_and] using h
  | some e =>
    by_cases left : p.left = true
    · simpa only [Passage.step, held, hands, if_pos left, true_and] using h
    have there : p.left = false := Bool.eq_false_iff.mpr left
    have second := other.publish_cases (hands.1 ▸ held) (hands.2 ▸ there)
    rcases one.publish_cases held there with ⟨t, none, taken, next⟩ | ⟨why, some, taken⟩
    · obtain ⟨u, -, taken', next'⟩ := second.resolve_right (by simp [h.refusal?, none])
      rw [taken, taken']
      obtain ⟨queued⟩ := h
      refine ⟨rfl, .mk fun present => ?_⟩
      rw [next.queued, next'.queued, queued present]
    · obtain ⟨_, same, taken'⟩ := second.resolve_left (by simp [h.refusal?, some])
      rw [h.refusal?, some] at same
      cases same
      rw [taken, taken']
      exact ⟨rfl, h⟩

theorem Alike.receive (h : Alike p q) (one : Sound n p) (other : Sound n q) :
    (p.step .receive).1 = (q.step .receive).1 ∧
      Alike (p.step .receive).2 (q.step .receive).2 := by
  have hands : q.reading = p.reading ∧ (p.reading = true → p.sink.queued = q.sink.queued) := by
    obtain ⟨queued⟩ := h
    exact ⟨rfl, queued⟩
  rcases one.receive_cases with ⟨absent, taken⟩ | ⟨t, present, none, taken, next⟩ |
    ⟨e, rest, t, present, some, taken, next⟩
  · have absent' : ¬ q.reading = true := by rw [hands.1, absent]; decide
    have taken' : q.step .receive = (.gone, q) := if_neg absent'
    rw [taken, taken']
    exact ⟨rfl, h⟩
  · have same := hands.2 present
    rcases other.receive_cases with ⟨absent, -⟩ | ⟨u, -, -, taken', next'⟩ |
      ⟨e, rest, u, -, some, -⟩
    · rw [hands.1, present] at absent
      cases absent
    · rw [taken, taken']
      obtain ⟨queued⟩ := h
      refine ⟨rfl, .mk fun _ => ?_⟩
      rw [next.queued, next'.queued]
    · rw [← same, none] at some
      cases some
  · have same := hands.2 present
    rcases other.receive_cases with ⟨absent, -⟩ | ⟨u, -, none, -⟩ |
      ⟨_, _, u, -, some', taken', next'⟩
    · rw [hands.1, present] at absent
      cases absent
    · rw [← same, some] at none
      cases none
    · rw [← same, some] at some'
      cases some'
      rw [taken, taken']
      obtain ⟨queued⟩ := h
      refine ⟨rfl, .mk fun _ => ?_⟩
      rw [next.queued, next'.queued]

/-- Alike passages answer a move alike and stay alike. -/
theorem Alike.step (h : Alike p q) (one : Sound n p) (other : Sound n q) (m : Move) :
    (p.step m).1 = (q.step m).1 ∧ Alike (p.step m).2 (q.step m).2 := by
  have same := id h
  obtain @⟨s, settled, queued⟩ := id h
  cases m with
  | make c => exact ⟨rfl, .mk queued⟩
  | publish i => exact h.publish one other i
  | discard i =>
    cases held : p.publisher[i]? with
    | none => simpa only [Passage.step, held, true_and] using same
    | some e =>
      simp only [Passage.step, held, true_and]
      exact .mk queued
  | receive => exact h.receive one other
  | answer i r =>
    cases held : p.consumer[i]? with
    | none => simpa only [Passage.step, held, true_and] using same
    | some e =>
      simp only [Passage.step, held, true_and]
      exact .mk queued
  | drop i =>
    cases held : p.consumer[i]? with
    | none => simpa only [Passage.step, held, true_and] using same
    | some e =>
      simp only [Passage.step, held, true_and]
      exact .mk queued
  | close => exact ⟨rfl, .mk nofun⟩
  | leave =>
    refine ⟨rfl, .mk fun present => ?_⟩
    obtain ⟨kept, parts, none, next⟩ := one.stands.abandon
    obtain ⟨kept', parts', none', next'⟩ := other.stands.abandon
    have stays : p.sink.abandon.2.queued = p.sink.queued := by
      rw [next.queued, parts, none present, List.nil_append]
    have stays' : s.abandon.2.queued = s.queued := by
      rw [next'.queued, parts', none' present, List.nil_append]
    exact stays.trans ((queued present).trans stays'.symm)

theorem Alike.run (h : Alike p q) (one : Sound n p) (other : Sound n q) (ms : List Move) :
    (p.run ms).1 = (q.run ms).1 := by
  induction ms generalizing p q with
  | nil => rfl
  | cons m ms ih =>
    obtain ⟨answer, next⟩ := h.step one other m
    exact congrArg₂ List.cons answer (ih next (one.step m) (other.step m))

/-! ## How requests are settled -/

/-- A move settles requests besides those that are settled. Unless it is an answer, it settles them
as dropped. -/
theorem step_settles (p : Passage) (m : Move) : ∃ news, (p.step m).2.settled = p.settled ++ news ∧
    ∀ x ∈ news, (∃ i, m = .answer i x.2) ∨ x.2 = .error .dropped := by
  have none : ∃ news, p.settled = p.settled ++ news ∧
      ∀ x ∈ news, (∃ i, m = .answer i x.2) ∨ x.2 = .error .dropped :=
    ⟨[], (List.append_nil _).symm, nofun⟩
  have some (q : Passage) (same : q.settled = p.settled) (es : List Event) (r : Response)
      (fate : (∃ i, m = .answer i r) ∨ r = .error .dropped) :
      ∃ news, (q.settle es r).settled = p.settled ++ news ∧
        ∀ x ∈ news, (∃ i, m = .answer i x.2) ∨ x.2 = .error .dropped := by
    refine ⟨_, congrArg (· ++ _) same, fun x mem => ?_⟩
    obtain ⟨id, -, rfl⟩ := List.mem_map.mp mem
    exact fate
  cases m with
  | make c => exact none
  | publish i =>
    simp only [step]
    split
    · split
      · exact none
      · split <;> exact none
    · exact none
  | discard i =>
    simp only [step]
    split
    · exact some _ rfl _ _ (.inr rfl)
    · exact none
  | receive =>
    simp only [step]
    split
    · split <;> exact none
    · exact none
  | answer i r =>
    simp only [step]
    split
    · exact some _ rfl _ _ (.inl ⟨i, rfl⟩)
    · exact none
  | drop i =>
    simp only [step]
    split
    · exact some _ rfl _ _ (.inr rfl)
    · exact none
  | close => exact some _ rfl _ _ (.inr rfl)
  | leave => exact some _ rfl _ _ (.inr rfl)

end Passage

/-! ## Exchanges -/

/-- What is done to an exchange. -/
inductive Exchange.Step
  | publish (c : Cargo)
  | receive (answer : Response)
  | close

/-- The moves that make a step of an exchange: no party keeps anything in its hands. -/
def Exchange.Step.moves : Exchange.Step → List Move
  | publish c => [.make c, .publish 0, .discard 0]
  | receive answer => [.receive, .answer 0 answer]
  | close => [.close]

/-- Whether an answer tells of the sink. -/
def Answer.isNews : Answer → Bool
  | done => false
  | accepted | refused _ _ | gone | nothing | event _ => true

namespace Exchange

/-- Publishes a cargo. -/
def offer (x : Exchange) : Cargo → Option (Refusal × Event) × Exchange
  | .reload => x.publish .reload
  | .redirect payload => x.publishRequest payload
  | .change record => x.publish (.change record)

/-- A step of an exchange and what is learned of the sink. -/
def step (x : Exchange) : Step → List Answer × Exchange
  | .publish c =>
    match x.offer c with
    | (none, x) => ([.accepted], x)
    | (some (why, e), x) => ([.refused why e], x)
  | .receive answer =>
    match x.receive answer with
    | (.gone, x) => ([.gone], x)
    | (.nothing, x) => ([.nothing], x)
    | (.event e, x) => ([.event e], x)
  | .close => ([], x.close)

/-- Steps one after the other, and all that is learned of the sink. -/
def play (x : Exchange) : List Step → List Answer × Exchange
  | [] => ([], x)
  | t :: ts => ((x.step t).1 ++ ((x.step t).2.play ts).1, ((x.step t).2.play ts).2)

theorem offer_eq (x : Exchange) (c : Cargo) : x.offer c =
    { x with published := x.published + c.requests }.publish (c.event x.published) := by
  cases c <;> rfl

theorem settleIn_eq (x : Exchange) (e : Event) (r : Response) :
    x.settleIn e r = { x with settled := x.settled ++ (names [e]).map fun id => (id, r) } := by
  cases e with
  | redirect request => rfl
  | _ => simp [settleIn, names, Event.request?]

theorem foldl_settleIn (x : Exchange) (es : List Event) (r : Response) :
    es.foldl (fun x e => x.settleIn e r) x =
      { x with settled := x.settled ++ (names es).map fun id => (id, r) } := by
  induction es generalizing x with
  | nil => simp [names]
  | cons e es ih =>
    have parts : names (e :: es) = names [e] ++ names es := Passage.names_append [e] es
    rw [List.foldl_cons, ih, settleIn_eq, parts, List.map_append, List.append_assoc]

end Exchange

namespace Passage

/-- A passage as an exchange. -/
def exchange (p : Passage) : Exchange := ⟨p.sink, p.reading, p.made, p.settled, []⟩

/-- Neither party holds anything, and the publisher is there. -/
structure Rests (p : Passage) : Prop where
  publisher : p.publisher = []
  consumer : p.consumer = []
  left : p.left = false

/-- A step of an exchange is its moves. -/
theorem exchange_step {p : Passage} (h : p.Rests) (t : Exchange.Step) :
    p.exchange.step t = ((p.run t.moves).1.filter Answer.isNews, (p.run t.moves).2.exchange) ∧
      (p.run t.moves).2.Rests := by
  obtain ⟨sink, reading, left, made, publisher, consumer, settled, accepted, received⟩ := p
  obtain ⟨rfl, rfl, rfl⟩ := h
  cases t with
  | publish c =>
    rcases taken : sink.publish (c.event made) with ⟨_ | ⟨why, back⟩, s⟩
    · have ran : (run ⟨sink, reading, false, made, [], [], settled, accepted, received⟩
          (Exchange.Step.publish c).moves) = ([.done, .accepted, .done],
            ⟨s, reading, false, made + c.requests, [], [], settled, accepted ++ [c.event made],
              received⟩) := by
        simp [Exchange.Step.moves, run, step, taken]
      rw [ran, Exchange.step, Exchange.offer_eq]
      simp only [exchange, Exchange.publish, taken]
      exact ⟨rfl, rfl, rfl, rfl⟩
    · have ran : (run ⟨sink, reading, false, made, [], [], settled, accepted, received⟩
          (Exchange.Step.publish c).moves) = ([.done, .refused why back, .done],
            settle ⟨s, reading, false, made + c.requests, [], [], settled, accepted, received⟩
              [back] (.error .dropped)) := by
        simp [Exchange.Step.moves, run, step, taken]
      rw [ran, Exchange.step, Exchange.offer_eq]
      simp only [exchange, Exchange.publish, taken, Exchange.settleIn_eq]
      exact ⟨rfl, rfl, rfl, rfl⟩
  | receive answer =>
    cases reading with
    | false => exact ⟨rfl, rfl, rfl, rfl⟩
    | true =>
      rcases taken : sink.receive with ⟨_ | e, s⟩
      · have ran : (run ⟨sink, true, false, made, [], [], settled, accepted, received⟩
            (Exchange.Step.receive answer).moves) = ([.nothing, .done],
              ⟨s, true, false, made, [], [], settled, accepted, received⟩) := by
          simp [Exchange.Step.moves, run, step, taken]
        rw [ran, Exchange.step]
        simp only [exchange, Exchange.receive, if_true, taken]
        exact ⟨rfl, rfl, rfl, rfl⟩
      · have ran : (run ⟨sink, true, false, made, [], [], settled, accepted, received⟩
            (Exchange.Step.receive answer).moves) = ([.event e, .done],
              settle ⟨s, true, false, made, [], [], settled, accepted, received ++ [e]⟩ [e]
                answer) := by
          simp [Exchange.Step.moves, run, step, taken]
        rw [ran, Exchange.step]
        simp only [exchange, Exchange.receive, if_true, taken, Exchange.settleIn_eq]
        exact ⟨rfl, rfl, rfl, rfl⟩
  | close =>
    refine ⟨?_, ⟨rfl, rfl, rfl⟩⟩
    simp only [Exchange.step, Exchange.close, Exchange.foldl_settleIn]
    rfl

theorem run_append (p : Passage) (ms ns : List Move) :
    p.run (ms ++ ns) = ((p.run ms).1 ++ ((p.run ms).2.run ns).1, ((p.run ms).2.run ns).2) := by
  induction ms generalizing p with
  | nil => rfl
  | cons m ms ih => simp only [List.cons_append, run, ih]

/-- An exchange is a passage whose parties keep nothing. -/
theorem exchange_play {p : Passage} (h : p.Rests) (ts : List Exchange.Step) :
    p.exchange.play ts = ((p.run (ts.flatMap Exchange.Step.moves)).1.filter Answer.isNews,
      (p.run (ts.flatMap Exchange.Step.moves)).2.exchange) := by
  induction ts generalizing p with
  | nil => rfl
  | cons t ts ih =>
    obtain ⟨first, rests⟩ := exchange_step h t
    rw [Exchange.play, first, ih rests, List.flatMap_cons, run_append, List.filter_append]

/-! ## The two bounded sinks -/

/-- What holds of a passage at any point, by what is queued in its sink of `n` places. -/
structure Faithful (n : Nat) (p : Passage) : Prop where
  /-- A publication is accepted if there is a reader and room. -/
  accepts {i : Nat} {e : Event} : p.publisher[i]? = some e → p.left = false → p.reading = true →
    p.sink.queued.length < n → (p.step (.publish i)).1 = .accepted ∧
      (p.step (.publish i)).2.publisher = p.publisher.eraseIdx i ∧
      (p.step (.publish i)).2.sink.queued = p.sink.queued ++ [e]
  /-- Without room it is refused as full, and the publisher has the event back that it passed in. -/
  full {i : Nat} {e : Event} : p.publisher[i]? = some e → p.left = false → p.reading = true →
    n ≤ p.sink.queued.length → p.step (.publish i) = (.refused .full e, p)
  /-- Without a reader it is refused as closed and handed back, be there room or not. -/
  closed {i : Nat} {e : Event} : p.publisher[i]? = some e → p.left = false → p.reading = false →
    p.step (.publish i) = (.refused .closed e, p)
  /-- A reader gets the oldest event that is queued. -/
  receives : p.reading = true →
    (p.step .receive).1 = p.sink.queued.head?.elim .nothing Answer.event
  /-- Events arrive in the order in which they were accepted, and none is lost while there is a
  reader. -/
  order : ∃ lost, p.accepted = p.received ++ lost ++ p.sink.queued ∧ (p.reading = true → lost = [])
  /-- Every request is in one place. -/
  custody : p.places.Perm (List.range p.made)
  /-- No request is settled twice. -/
  once : (p.settled.map Prod.fst).Nodup
  /-- A move settles requests as dropped, unless it is an answer. -/
  settles (m : Move) : ∃ news, (p.step m).2.settled = p.settled ++ news ∧
    ∀ x ∈ news, (∃ i, m = .answer i x.2) ∨ ∃ text, x.2 = .error (.uncategorized text)
  /-- Nothing stays queued when both parties have left. -/
  emptied : p.reading = false → p.left = true → p.sink.queued = []

theorem Sound.faithful {n : Nat} {p : Passage} (h : Sound n p) : Faithful n p where
  accepts {i e} held there reading room := by
    have verdict : refusal? n p.sink.queued p.reading = none := by simp [refusal?, reading, room]
    obtain ⟨s, -, taken, next⟩ := (h.publish_cases held there).resolve_right (by simp [verdict])
    rw [taken]
    exact ⟨rfl, rfl, next.queued⟩
  full {i e} held there reading room := by
    have verdict : refusal? n p.sink.queued p.reading = some .full := by
      simp [refusal?, reading, Nat.not_lt_of_le room]
    obtain ⟨_, same, taken⟩ := (h.publish_cases held there).resolve_left (by simp [verdict])
    rw [verdict] at same
    cases same
    exact taken
  closed {i e} held there reading := by
    have verdict : refusal? n p.sink.queued p.reading = some .closed := by simp [refusal?, reading]
    obtain ⟨_, same, taken⟩ := (h.publish_cases held there).resolve_left (by simp [verdict])
    rw [verdict] at same
    cases same
    exact taken
  receives reading := by
    rcases h.receive_cases with ⟨absent, -⟩ | ⟨s, -, none, taken, -⟩ |
      ⟨e, rest, s, -, some, taken, -⟩
    · rw [reading] at absent
      cases absent
    · rw [taken, none]
      rfl
    · rw [taken, some]
      rfl
  order := h.order
  custody := h.custody
  once := by
    have all : p.places.Nodup := h.custody.nodup_iff.mpr List.nodup_range
    exact (List.nodup_append.mp all).2.1
  settles m := by
    obtain ⟨news, grown, fate⟩ := step_settles p m
    exact ⟨news, grown, fun x mem => (fate x mem).imp id fun dropped => ⟨_, dropped⟩⟩
  emptied reading left := by
    have stands := h.stands
    rw [reading, left] at stands
    exact stands.emptied

end Passage

open Passage (start Faithful)

/-- A bounded sink of either kind, as it is made. -/
inductive Bounded (n : Nat) : Sink Event → Prop
  | permits {q : Permits Event} (made : Permits.new? n = some q) : Bounded n (.permits q)
  | ring : Bounded n (.ring (.new n))

theorem Bounded.sound {n : Nat} {s : Sink Event} (h : Bounded n s) : Passage.Sound n (start s) := by
  cases h with
  | permits made => exact Passage.sound_start (stands_permits made)
  | ring => exact Passage.sound_start (stands_ring n)

/-- Bounded sinks of one size answer alike whatever is done to them, of either kind what they answer
follows from what is queued, and no request is lost or settled twice. Permits beyond the most that
can be counted make no sink. -/
theorem bounded_sinks_agree (n : Nat) :
    ((Permits.new? n : Option (Permits Event)) = none ↔ n = 0 ∨ Permits.most < n) ∧
    (∀ s t, Bounded n s → Bounded n t → ∀ ms, ((start s).run ms).1 = ((start t).run ms).1) ∧
    (∀ s, Bounded n s → ∀ ms, Faithful n ((start s).run ms).2) ∧
    ∀ s ts, (Exchange.new s).play ts =
      (((start s).run (ts.flatMap Exchange.Step.moves)).1.filter Answer.isNews,
        ((start s).run (ts.flatMap Exchange.Step.moves)).2.exchange) := by
  refine ⟨?_, fun s t one other ms => ?_, fun s bounded ms => (bounded.sound.run ms).faithful,
    fun s ts => Passage.exchange_play (p := start s) ⟨rfl, rfl, rfl⟩ ts⟩
  · unfold Permits.new?
    rw [ite_eq_right_iff]
    constructor
    · intro none
      by_cases room : 0 < n ∧ n ≤ Permits.most
      · cases none room
      · omega
    · intro outside inside
      omega
  · refine Passage.Alike.run (.mk fun _ => ?_) one.sound other.sound ms
    have first : s.queued = [] := by
      cases one with
      | permits made => exact (stands_permits made).queued
      | ring => exact (stands_ring n).queued
    have second : t.queued = [] := by
      cases other with
      | permits made => exact (stands_permits made).queued
      | ring => exact (stands_ring n).queued
    exact first.trans second.symm

/-- A ring with one slot answers as one permit does: the second request does not fit, and when the
reader has left that is what it is told, though the slot is filled still. -/
theorem bounded_sinks_agree_one :
    ((start (.ring (.new 1))).run [.make (.redirect [1]), .publish 0, .make (.redirect [2]),
      .publish 0, .close, .publish 0, .discard 0, .leave]).1 =
        [.done, .accepted, .done, .refused .full (.redirect ⟨1, [2]⟩), .done,
          .refused .closed (.redirect ⟨1, [2]⟩), .done, .done] := by
  have permit : Bounded 1 (.permits ⟨1, [], false⟩) := .permits rfl
  rw [(bounded_sinks_agree 1).2.1 _ _ .ring permit]
  rfl

end NodeLink.Sink
