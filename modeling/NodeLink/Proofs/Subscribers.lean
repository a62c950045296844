import Mathlib.Algebra.GroupWithZero.Nat
import Mathlib.Data.List.Induction
import NodeLink.Lifecycle.Machine
import NodeLink.Proofs.Edges

/-!
# What a subscriber is told of a machine

A machine keeps only its newest changes, and its subscribers read at their own pace. What one of
them gets is nevertheless the whole *history* since it subscribed, in order: every delivery stands
for the changes that come next, a change for itself and a notice of lag for as many as it counts.

The history is read off the states before and after each move, not off what the machine keeps, so
that the law compares two accounts of a run. It is shown for the machine alone and for moves in any
order: also for other subscribers that come, read and go. When the machine is retired the history is
at its end, and so a subscriber hears, once it has read the rest.
-/

set_option autoImplicit false

namespace NodeLink.Lifecycle

/-! ## What a reader of a backlog gets -/

namespace Backlog

variable {α : Type} {capacity : Nat}

/-- A reader that has read some of the pushed items gets the next one, unless more than the
capacity are unread. Then it is told how many of them were forgotten. -/
theorem read_foldl_push (b : Backlog α capacity) (seen unread : List α) :
    ((seen ++ unread).foldl push b).read (b.next + seen.length) =
      if capacity < unread.length then .missed (unread.length - capacity)
      else match unread with
        | x :: _ => .item x
        | [] => .caughtUp := by
  obtain ⟨forgotten, items⟩ := items_foldl_push b (seen ++ unread)
  simp only [List.length_append] at forgotten items
  simp only [read, next, forgotten, items]
  by_cases behind : capacity < unread.length
  · rw [if_pos behind, if_pos (by omega)]
    congr 1
    omega
  · rw [if_neg behind, if_neg (by omega), List.getElem?_drop, ← List.append_assoc,
      List.getElem?_append_right (by simp only [List.length_append]; omega)]
    have here : b.items.length + (seen.length + unread.length) - capacity +
        (b.forgotten + b.items.length + seen.length -
          (b.forgotten + (b.items.length + (seen.length + unread.length) - capacity))) -
        (b.items ++ seen).length = 0 := by
      simp only [List.length_append]
      omega
    rw [here]
    cases unread <;> rfl

/-- What is kept for a reader that fell behind is the end of what it did not read, and the reader's
new position is at its beginning. -/
theorem kept_foldl_push (b : Backlog α capacity) (seen : List α) {unread : List α}
    (behind : capacity ≤ unread.length) :
    ((seen ++ unread).foldl push b).items = unread.drop (unread.length - capacity) ∧
      ((seen ++ unread).foldl push b).forgotten =
        b.next + (seen ++ unread.take (unread.length - capacity)).length := by
  obtain ⟨forgotten, items⟩ := items_foldl_push b (seen ++ unread)
  constructor
  · rw [items, ← List.append_assoc, List.drop_append, List.drop_eq_nil_of_le (by simp; omega),
      List.nil_append]
    congr 1
    simp only [List.length_append]
    omega
  · simp only [forgotten, next, List.length_append, List.length_take]
    omega

end Backlog

/-! ## Moves of a machine -/

/-- What may happen to a machine. -/
inductive Move
  | transition (next : State)
  | compareAndTransition (expected next : State)
  | subscribe
  | receive (id : SubscriberId)
  | unsubscribe (id : SubscriberId)
  | retire
deriving DecidableEq

namespace Machine

/-- A machine after a move. Nobody can change or subscribe to a machine that is gone. -/
def move (m : Machine) : Move → Machine
  | .transition next => if m.retired then m else m.transition next
  | .compareAndTransition expected next =>
    if m.retired then m
    else match m.compareAndTransition expected next with
      | .ok m' => m'
      | .error _ => m
  | .subscribe => if m.retired then m else m.subscribe.2
  | .receive id => match m.receive? id with
    | some (_, m') => m'
    | none => m
  | .unsubscribe id => m.unsubscribe id
  | .retire => m.retire

def play (m : Machine) (moves : List Move) : Machine := moves.foldl move m

/-- The change from one machine to another, if their states differ. -/
def changeTo (m m' : Machine) : List Change :=
  if m.current = m'.current then [] else [⟨m.current, m'.current⟩]

/-- The changes of state in a run. -/
def history : Machine → List Move → List Change
  | _, [] => []
  | m, x :: xs => m.changeTo (m.move x) ++ (m.move x).history xs

/-- What a move hands to a subscriber. -/
def handed (m : Machine) (id : SubscriberId) : Move → Option Delivery
  | .receive reader => if reader = id then (m.receive? id).map (·.1) else none
  | _ => none

/-- Everything a subscriber gets in a run. -/
def deliveries (id : SubscriberId) : Machine → List Move → List Delivery
  | _, [] => []
  | m, x :: xs => (m.handed id x).toList ++ deliveries id (m.move x) xs

end Machine

/-! ## Deliveries against the history -/

/-- The change that a delivery hands over. -/
def Delivery.change? : Delivery → Option Change
  | .change c => some c
  | _ => none

/-- How many changes a delivery reports as missed. -/
def Delivery.missed : Delivery → Nat
  | .lagged n => n
  | _ => 0

/-- A delivery that says there is nothing to read. -/
def Delivery.isIdle : Delivery → Bool
  | .empty | .closed => true
  | .change _ | .lagged _ => false

/-- Deliveries *stand for* changes, in order: a change for itself, a notice of lag for as many as it
counts, and nothing else for any. -/
inductive StandFor : List Delivery → List Change → Prop
  | nil : StandFor [] []
  | change (c : Change) {ds : List Delivery} {cs : List Change} (rest : StandFor ds cs) :
      StandFor (.change c :: ds) (c :: cs)
  | lagged (skipped : List Change) {ds : List Delivery} {cs : List Change}
      (rest : StandFor ds cs) : StandFor (.lagged skipped.length :: ds) (skipped ++ cs)
  | idle {d : Delivery} (nothing : d.isIdle) {ds : List Delivery} {cs : List Change}
      (rest : StandFor ds cs) : StandFor (d :: ds) cs

namespace StandFor

variable {ds es : List Delivery} {cs : List Change}

theorem append {bs : List Change} (first : StandFor ds cs) (second : StandFor es bs) :
    StandFor (ds ++ es) (cs ++ bs) := by
  induction first with
  | nil => exact second
  | change c _ ih => exact .change c ih
  | lagged skipped _ ih =>
    rw [List.cons_append, List.append_assoc]
    exact .lagged skipped ih
  | idle nothing _ ih => exact .idle nothing ih

/-- What deliveries stand for is divided where the deliveries are. -/
theorem split (whole : StandFor (ds ++ es) cs) :
    ∃ first second, cs = first ++ second ∧ StandFor ds first ∧ StandFor es second := by
  induction ds generalizing cs with
  | nil => exact ⟨[], cs, rfl, .nil, whole⟩
  | cons d ds ih =>
    cases whole with
    | change c rest =>
      obtain ⟨first, second, rfl, left, right⟩ := ih rest
      exact ⟨c :: first, second, rfl, .change c left, right⟩
    | lagged skipped rest =>
      obtain ⟨first, second, rfl, left, right⟩ := ih rest
      exact ⟨skipped ++ first, second, (List.append_assoc ..).symm, .lagged skipped left, right⟩
    | idle nothing rest =>
      obtain ⟨first, second, rfl, left, right⟩ := ih rest
      exact ⟨first, second, rfl, .idle nothing left, right⟩

/-- Changes delivered and changes missed add up. -/
theorem length_eq (stand : StandFor ds cs) :
    (ds.filterMap Delivery.change?).length + (ds.map Delivery.missed).sum = cs.length := by
  induction stand with
  | nil => rfl
  | change c _ ih =>
    simp only [List.filterMap_cons, Delivery.change?, List.map_cons, Delivery.missed,
      List.sum_cons, List.length_cons]
    omega
  | lagged skipped _ ih =>
    simp only [List.filterMap_cons, Delivery.change?, List.map_cons, Delivery.missed,
      List.sum_cons, List.length_append]
    omega
  | @idle d nothing _ _ _ ih =>
    cases d with
    | change | lagged => cases nothing
    | empty | closed =>
      simp only [List.filterMap_cons, Delivery.change?, List.map_cons, Delivery.missed,
        List.sum_cons]
      omega

/-- What was handed over is one of the changes. -/
theorem mem (stand : StandFor ds cs) {c : Change} (handed : .change c ∈ ds) : c ∈ cs := by
  induction stand with
  | nil => cases handed
  | change _ _ ih =>
    obtain same | later := List.mem_cons.mp handed
    · cases same
      exact List.mem_cons_self
    · exact List.mem_cons_of_mem _ (ih later)
  | lagged skipped _ ih =>
    obtain same | later := List.mem_cons.mp handed
    · cases same
    · exact List.mem_append_right _ (ih later)
  | idle nothing _ ih =>
    obtain same | later := List.mem_cons.mp handed
    · subst same
      cases nothing
    · exact ih later

theorem uncons {c : Change} (stand : StandFor (.change c :: ds) cs) :
    ∃ rest, cs = c :: rest ∧ StandFor ds rest := by
  cases stand with
  | change _ rest => exact ⟨_, rfl, rest⟩
  | idle nothing _ => cases nothing

theorem nil_of_idle (idle : ∀ d ∈ ds, d.isIdle) (stand : StandFor ds cs) : cs = [] := by
  induction stand with
  | nil => rfl
  | change c | lagged skipped => cases idle _ List.mem_cons_self
  | idle _ _ ih => exact ih fun d hd => idle d (List.mem_cons_of_mem _ hd)

/-- Two changes with nothing but idle deliveries between them stand for neighbours. -/
theorem neighbours {c d : Change} {between : List Delivery}
    (stand : StandFor (ds ++ .change c :: (between ++ .change d :: es)) cs)
    (idle : ∀ e ∈ between, e.isIdle) : ∃ first rest, cs = first ++ c :: d :: rest := by
  obtain ⟨first, second, rfl, -, fromFirst⟩ := stand.split
  obtain ⟨third, rfl, afterFirst⟩ := fromFirst.uncons
  obtain ⟨nothing, fourth, rfl, still, fromSecond⟩ := afterFirst.split
  obtain ⟨rest, rfl, -⟩ := fromSecond.uncons
  rw [nil_of_idle idle still]
  exact ⟨first, rest, rfl⟩

end StandFor

/-! ## What moves do to one subscriber -/

namespace Walk

variable {allowed : State → State → Prop} {s u : State} {c : Change} {cs ds : List Change}

theorem uncons (walk : Walk allowed s (c :: cs) u) :
    s = c.source ∧ allowed c.source c.target ∧ Walk allowed c.target cs u := by
  generalize whole : c :: cs = changes at walk
  cases walk with
  | done => cases whole
  | change step rest =>
    cases whole
    exact ⟨rfl, step, rest⟩

theorem eq_of_nil (walk : Walk allowed s [] u) : s = u := by
  cases walk
  rfl

theorem split (walk : Walk allowed s (cs ++ ds) u) :
    ∃ t, Walk allowed s cs t ∧ Walk allowed t ds u := by
  induction cs generalizing s with
  | nil => exact ⟨s, .done s, walk⟩
  | cons c cs ih =>
    obtain ⟨rfl, step, rest⟩ := walk.uncons
    obtain ⟨t, left, right⟩ := ih rest
    exact ⟨t, .change step left, right⟩

/-- Each change of a walk starts where the one before it led. -/
theorem joined {d : Change} (walk : Walk allowed s (cs ++ c :: d :: ds) u) :
    d.source = c.target := by
  obtain ⟨t, -, fromFirst⟩ := walk.split
  obtain ⟨-, -, fromSecond⟩ := fromFirst.uncons
  exact fromSecond.uncons.1.symm

/-- A walk ends where its last change leads. -/
theorem target_last (walk : Walk allowed s (cs ++ [c]) u) : c.target = u := by
  obtain ⟨t, -, last⟩ := walk.split
  obtain ⟨-, -, done⟩ := last.uncons
  exact done.eq_of_nil

end Walk

namespace Machine

variable {m m' : Machine} {id reader : SubscriberId} {seen unread : List Change}
  {b : Backlog Change window}

theorem play_append (m : Machine) (xs ys : List Move) :
    m.play (xs ++ ys) = (m.play xs).play ys :=
  List.foldl_append ..

theorem history_append (m : Machine) (xs ys : List Move) :
    m.history (xs ++ ys) = m.history xs ++ (m.play xs).history ys := by
  induction xs generalizing m with
  | nil => rfl
  | cons x xs ih =>
    simp only [List.cons_append, history, ih, List.append_assoc]
    rfl

theorem deliveries_append (m : Machine) (id : SubscriberId) (xs ys : List Move) :
    m.deliveries id (xs ++ ys) = m.deliveries id xs ++ (m.play xs).deliveries id ys := by
  induction xs generalizing m with
  | nil => rfl
  | cons x xs ih =>
    simp only [List.cons_append, deliveries, ih, List.append_assoc]
    rfl

/-- The positions of subscribers are independent of each other. -/
theorem position?_seek (m : Machine) (reader id : SubscriberId) (position : Nat) :
    (m.seek reader position).position? id =
      if reader = id then (m.position? id).map fun _ => position else m.position? id := by
  have named : m.subscribers.map (fun s => if s.1 = reader then (s.1, position) else s) =
      m.subscribers.map fun s => if s.1 = reader then (reader, position) else s := by
    refine List.map_congr_left fun s _ => ?_
    split
    next same => rw [same]
    next => rfl
  rw [position?, seek, named]
  exact lookup_map_replace m.subscribers id reader position

theorem position?_unsubscribe (other : reader ≠ id) :
    (m.unsubscribe reader).position? id = m.position? id :=
  lookup_filter_other m.subscribers other

theorem position?_subscribe (there : (m.position? id).isSome ∨ m.subscriptions ≠ id) :
    m.subscribe.2.position? id = m.position? id := by
  unfold subscribe position?
  simp only [List.lookup_append]
  cases found : m.subscribers.lookup id with
  | some place => rfl
  | none =>
    obtain there | other := there
    · rw [position?, found] at there
      cases there
    · have : (id == m.subscriptions) = false := by simpa using other.symm
      simp [List.lookup_cons, this]

theorem changeTo_of_eq (same : m'.current = m.current) : m.changeTo m' = [] := if_pos same.symm

theorem history_single (m : Machine) (x : Move) : m.history [x] = m.changeTo (m.move x) :=
  List.append_nil _

theorem deliveries_single (m : Machine) (x : Move) :
    m.deliveries id [x] = (m.handed id x).toList :=
  List.append_nil _

/-- The history is a walk of real changes, from the first state to the last one. -/
theorem walk_history (m : Machine) (xs : List Move) :
    Walk (· ≠ ·) m.current (m.history xs) (m.play xs).current := by
  induction xs generalizing m with
  | nil => exact .done _
  | cons x xs ih =>
    refine Walk.append ?_ (ih (m.move x))
    unfold changeTo
    split
    next same => exact same ▸ .done _
    next differ => exact .change (c := ⟨m.current, _⟩) differ (.done _)

/-- A subscriber that has read some of the history since its subscription: the machine keeps the end
of the history, and the subscriber's position is behind what it has read. -/
structure Follows (b : Backlog Change window) (id : SubscriberId) (seen unread : List Change)
    (m : Machine) : Prop where
  kept : m.backlog = (seen ++ unread).foldl Backlog.push b
  place : m.position? id = some (b.next + seen.length)

namespace Follows

/-- Moves that touch neither the state nor the backlog nor the subscriber. -/
theorem still (follows : Follows b id seen unread m) (current : m'.current = m.current)
    (backlog : m'.backlog = m.backlog) (place : m'.position? id = m.position? id) :
    Follows b id seen (unread ++ m.changeTo m') m' := by
  rw [changeTo_of_eq current, List.append_nil]
  exact ⟨backlog.trans follows.kept, place.trans follows.place⟩

/-- Somebody is subscribed, so that a change is kept. -/
theorem transition (follows : Follows b id seen unread m) (next : State) :
    Follows b id seen (unread ++ m.changeTo (m.transition next)) (m.transition next) := by
  unfold Machine.transition
  split
  next => exact follows.still rfl rfl rfl
  next differ =>
    have somebody : m.subscribers.isEmpty = false := by
      cases none : m.subscribers with
      | nil =>
        have place := follows.place
        rw [position?, none] at place
        cases place
      | cons => rfl
    have change : m.changeTo { m with current := next } = [⟨m.current, next⟩] := if_neg differ
    have changed : m.changeTo ({ m with current := next }.announce ⟨m.current, next⟩) =
        [⟨m.current, next⟩] := by
      rw [← change]
      simp only [changeTo, current_announce]
    rw [changed, announce, if_neg (by simp [somebody])]
    refine ⟨?_, follows.place⟩
    rw [← List.append_assoc, List.foldl_append, ← follows.kept]
    rfl

/-- What everyone else does. -/
theorem others (follows : Follows b id seen unread m) {x : Move} (stays : x ≠ .unsubscribe id)
    (other : x ≠ .receive id) :
    Follows b id seen (unread ++ m.changeTo (m.move x)) (m.move x) := by
  cases x with
  | transition next =>
    simp only [move]
    split
    · exact follows.still rfl rfl rfl
    · exact follows.transition next
  | compareAndTransition expected next =>
    simp only [move, compareAndTransition]
    split
    · exact follows.still rfl rfl rfl
    · by_cases found : m.current = expected
      · rw [if_pos found]
        exact follows.transition next
      · rw [if_neg found]
        exact follows.still rfl rfl rfl
  | subscribe =>
    simp only [move]
    split
    · exact follows.still rfl rfl rfl
    · exact follows.still rfl rfl (position?_subscribe (.inl (by rw [follows.place]; rfl)))
  | receive reader =>
    have apart : reader ≠ id := fun same => other (same ▸ rfl)
    have elsewhere : ∀ position, (m.seek reader position).position? id = m.position? id :=
      fun position => (position?_seek ..).trans (if_neg apart)
    simp only [move, receive?]
    cases m.position? reader with
    | none => exact follows.still rfl rfl rfl
    | some position =>
      simp only [Option.map_some]
      cases m.backlog.read position with
      | item | missed => exact follows.still rfl rfl (elsewhere _)
      | caughtUp => exact follows.still rfl rfl rfl
  | unsubscribe reader =>
    exact follows.still rfl rfl (position?_unsubscribe fun same => stays (same ▸ rfl))
  | retire => exact follows.still rfl rfl rfl

end Follows

/-- What a subscriber is told next, by what it has not read. -/
def upcoming (m : Machine) (unread : List Change) : Delivery :=
  if window < unread.length then .lagged (unread.length - window)
  else match unread with
    | c :: _ => .change c
    | [] => if m.retired then .closed else .empty

/-- How much of what it has not read a subscriber is told of next. -/
def portion (unread : List Change) : Nat :=
  if window < unread.length then unread.length - window else 1

/-- A subscriber reads the next change, or passes over those that are gone. -/
theorem Follows.receive (follows : Follows b id seen unread m) :
    ∃ m', m.receive? id = some (m.upcoming unread, m') ∧ m'.current = m.current ∧
      Follows b id (seen ++ unread.take (portion unread)) (unread.drop (portion unread)) m' := by
  have moved : ∀ position, (m.seek id position).position? id = some position := by
    intro position
    rw [position?_seek, if_pos rfl, follows.place]
    rfl
  have kept : ∀ k, m.backlog = ((seen ++ unread.take k) ++ unread.drop k).foldl .push b := by
    intro k
    rw [List.append_assoc, List.take_append_drop]
    exact follows.kept
  have reads : m.backlog.read (b.next + seen.length) = _ :=
    follows.kept ▸ Backlog.read_foldl_push b seen unread
  unfold receive?
  rw [follows.place, Option.map_some, reads]
  unfold upcoming portion
  by_cases behind : window < unread.length
  · have oldest := (Backlog.kept_foldl_push b seen (Nat.le_of_lt behind)).2
    simp only [if_pos behind]
    refine ⟨_, rfl, rfl, kept _, ?_⟩
    rw [moved, follows.kept, oldest]
  · simp only [if_neg behind]
    cases unread with
    | nil => exact ⟨m, rfl, rfl, kept 1, by simpa using follows.place⟩
    | cons c rest =>
      refine ⟨_, rfl, rfl, kept 1, ?_⟩
      rw [moved]
      simp [Nat.add_assoc]

theorem standFor_upcoming (m : Machine) (unread : List Change) :
    StandFor [m.upcoming unread] (unread.take (portion unread)) := by
  unfold upcoming portion
  by_cases behind : window < unread.length
  · rw [if_pos behind, if_pos behind]
    have count : (unread.take (unread.length - window)).length = unread.length - window :=
      List.length_take_of_le (Nat.sub_le ..)
    have notice := StandFor.lagged (unread.take (unread.length - window)) .nil
    rwa [count, List.append_nil] at notice
  · rw [if_neg behind, if_neg behind]
    cases unread with
    | nil =>
      refine .idle ?_ .nil
      cases m.retired <;> rfl
    | cons c rest => exact .change c .nil

/-! ## A run -/

/-- The last change that was handed over. -/
def lastChange? (ds : List Delivery) : Option Change := (ds.filterMap Delivery.change?).getLast?

/-- How many changes deliveries account for: those handed over and those missed. -/
def covered (ds : List Delivery) : Nat :=
  (ds.filterMap Delivery.change?).length + (ds.map Delivery.missed).sum

/-- A subscriber with nothing left to read was handed the last change: what a notice of lag leaves
to read is never nothing. -/
theorem lastChange?_upcoming {ds : List Delivery}
    (last : unread = [] → lastChange? ds = seen.getLast?)
    (done : unread.drop (portion unread) = []) :
    lastChange? (ds ++ [m.upcoming unread]) =
      (seen ++ unread.take (portion unread)).getLast? := by
  unfold upcoming portion at *
  unfold lastChange? at *
  by_cases behind : window < unread.length
  · rw [if_pos behind] at done
    have : unread.length ≤ unread.length - window := List.drop_eq_nil_iff.mp done
    have : 0 < window := by decide
    omega
  · simp only [if_neg behind, List.filterMap_append]
    cases unread with
    | nil =>
      have idle : List.filterMap Delivery.change? [if m.retired then .closed else .empty] = [] := by
        cases m.retired <;> rfl
      rw [idle, List.append_nil, List.take_nil, List.append_nil]
      exact last rfl
    | cons c rest => simp [Delivery.change?]

/-- In a run, a subscriber follows the history. Once it has read all of it, the last change it was
handed is the last one there was. -/
theorem follows_run (follows : Follows b id [] [] m) {xs : List Move}
    (stays : .unsubscribe id ∉ xs) :
    ∃ seen unread, m.history xs = seen ++ unread ∧ StandFor (m.deliveries id xs) seen ∧
      Follows b id seen unread (m.play xs) ∧
      (unread = [] → lastChange? (m.deliveries id xs) = seen.getLast?) := by
  induction xs using List.reverseRecOn with
  | nil => exact ⟨[], [], rfl, .nil, follows, fun _ => rfl⟩
  | append_singleton xs x ih =>
    rw [List.mem_append, not_or, List.mem_singleton] at stays
    obtain ⟨seen, unread, whole, stand, follows, last⟩ := ih stays.1
    rw [history_append, deliveries_append, play_append, whole, history_single, deliveries_single]
    by_cases reading : x = .receive id
    · subst reading
      obtain ⟨m', received, current, ahead⟩ := follows.receive
      have next : (m.play xs).play [.receive id] = m' := by
        show (m.play xs).move (.receive id) = m'
        simp only [move, received]
      have told : (m.play xs).handed id (.receive id) = some ((m.play xs).upcoming unread) := by
        simp only [handed, if_true, received, Option.map_some]
      rw [next, told, show (m.play xs).move (.receive id) = m' from next, changeTo_of_eq current,
        List.append_nil]
      refine ⟨_, _, ?_, stand.append (standFor_upcoming ..), ahead, fun done => ?_⟩
      · rw [List.append_assoc, List.take_append_drop]
      · exact lastChange?_upcoming last done
    · have silent : (m.play xs).handed id x = none := by
        cases x with
        | receive reader =>
          exact if_neg fun same : reader = id => reading (congrArg _ same)
        | _ => rfl
      rw [silent, Option.toList_none, List.append_nil]
      refine ⟨seen, _, List.append_assoc .., stand,
        follows.others (fun leaves => stays.2 leaves.symm) reading, fun done => ?_⟩
      exact last (List.append_eq_nil_iff.mp done).1

/-! ## A machine that is gone -/

/-- Only retiring retires a machine, and nothing brings it back. -/
theorem retired_move (m : Machine) (x : Move) :
    (m.move x).retired = true ↔ m.retired = true ∨ x = .retire := by
  cases x with
  | transition next =>
    simp only [move, reduceCtorEq, or_false]
    split <;> simp
  | compareAndTransition expected next =>
    simp only [move, compareAndTransition, reduceCtorEq, or_false]
    split
    · rfl
    · by_cases found : m.current = expected <;> simp [found]
  | subscribe =>
    simp only [move, subscribe, reduceCtorEq, or_false]
    split <;> rfl
  | receive reader =>
    simp only [move, receive?, reduceCtorEq, or_false]
    cases m.position? reader with
    | none => rfl
    | some position =>
      simp only [Option.map_some]
      cases m.backlog.read position <;> rfl
  | unsubscribe reader => simp only [move, unsubscribe, reduceCtorEq, or_false]
  | retire => simp only [move, retire, or_true]

theorem retired_play (m : Machine) (xs : List Move) :
    (m.play xs).retired = true ↔ m.retired = true ∨ .retire ∈ xs := by
  induction xs generalizing m with
  | nil => simp [play]
  | cons x xs ih =>
    show ((m.move x).play xs).retired = true ↔ _
    rw [ih, retired_move, List.mem_cons, or_assoc, eq_comm (a := x)]

/-- The state of a machine that is gone is final. -/
theorem current_move (gone : m.retired = true) (x : Move) : (m.move x).current = m.current := by
  cases x with
  | receive reader =>
    simp only [move, receive?]
    cases m.position? reader with
    | none => rfl
    | some position =>
      simp only [Option.map_some]
      cases m.backlog.read position <;> rfl
  | unsubscribe | retire => rfl
  | _ => simp only [move, gone, if_true]

/-- Nothing is added to the history of a machine that is gone. -/
theorem play_of_retired (gone : m.retired = true) (xs : List Move) :
    m.history xs = [] ∧ (m.play xs).current = m.current := by
  induction xs generalizing m with
  | nil => exact ⟨rfl, rfl⟩
  | cons x xs ih =>
    have still := current_move gone x
    obtain ⟨nothing, final⟩ := ih ((m.retired_move x).mpr (.inl gone))
    exact ⟨by rw [history, changeTo_of_eq still, nothing]; rfl, final.trans still⟩

theorem nil_of_idle_upcoming (idle : (m.upcoming unread).isIdle) : unread = [] := by
  unfold upcoming at idle
  split at idle
  · cases idle
  · cases unread with
    | nil => rfl
    | cons => cases idle

theorem upcoming_nil (m : Machine) : m.upcoming [] = if m.retired then .closed else .empty := rfl

/-- Who has read everything is told so, and whether there may still be more. -/
theorem upcoming_eq_idle_iff (m : Machine) (unread : List Change) :
    (m.upcoming unread = .closed ↔ unread = [] ∧ m.retired = true) ∧
      (m.upcoming unread = .empty ↔ unread = [] ∧ ¬m.retired = true) := by
  have read : ∀ d : Delivery, d.isIdle → m.upcoming unread = d → unread = [] :=
    fun d idle told => nil_of_idle_upcoming (told ▸ idle)
  refine ⟨⟨fun told => ?_, fun ⟨done, gone⟩ => ?_⟩, ⟨fun told => ?_, fun ⟨done, stays⟩ => ?_⟩⟩
  · obtain rfl := read _ rfl told
    refine ⟨rfl, ?_⟩
    by_contra stays
    rw [upcoming_nil, if_neg stays] at told
    cases told
  · rw [done, upcoming_nil, if_pos gone]
  · obtain rfl := read _ rfl told
    refine ⟨rfl, fun gone => ?_⟩
    rw [upcoming_nil, if_pos gone] at told
    cases told
  · rw [done, upcoming_nil, if_neg stays]

/-! ## Who is subscribed -/

/-- The names of those that are subscribed. -/
def names (m : Machine) : List SubscriberId := m.subscribers.map (·.1)

/-- The names of subscribers are below the count of subscriptions. -/
def Counted (m : Machine) : Prop := ∀ name ∈ m.names, name < m.subscriptions

theorem position?_eq_none (nobody : id ∉ m.names) : m.position? id = none := by
  rw [position?, List.lookup_eq_none_iff]
  intro s hs
  have other : id ≠ s.1 := by
    rintro rfl
    exact nobody (List.mem_map_of_mem hs)
  exact bne_iff_ne.mpr other

/-- A change of state leaves the subscribers alone. -/
theorem subscribers_transition (m : Machine) (next : State) :
    (m.transition next).subscribers = m.subscribers ∧
      (m.transition next).subscriptions = m.subscriptions := by
  unfold transition announce
  split
  · exact ⟨rfl, rfl⟩
  · split <;> exact ⟨rfl, rfl⟩

/-- A new name is one that was never given before. -/
theorem names_move (m : Machine) (x : Move) :
    m.subscriptions ≤ (m.move x).subscriptions ∧
      ∀ name ∈ (m.move x).names, name ∈ m.names ∨
        name = m.subscriptions ∧ m.subscriptions < (m.move x).subscriptions := by
  have still : ∀ m' : Machine, m'.subscriptions = m.subscriptions → m'.names ⊆ m.names →
      m.subscriptions ≤ m'.subscriptions ∧ ∀ name ∈ m'.names, name ∈ m.names ∨
        name = m.subscriptions ∧ m.subscriptions < m'.subscriptions :=
    fun m' count fewer => ⟨Nat.le_of_eq count.symm, fun name hn => .inl (fewer hn)⟩
  have swapped : ∀ next, (m.transition next).names ⊆ m.names := by
    intro next
    rw [names, (subscribers_transition m next).1]
    exact List.Subset.refl _
  have sought : ∀ id position, (m.seek id position).names ⊆ m.names := by
    intro id position name hn
    obtain ⟨moved, hm, rfl⟩ := List.mem_map.mp hn
    obtain ⟨s, hs, rfl⟩ := List.mem_map.mp hm
    split
    · exact List.mem_map_of_mem (f := (·.1)) hs
    · exact List.mem_map_of_mem hs
  cases x with
  | transition next =>
    simp only [move]
    split
    · exact still m rfl (List.Subset.refl _)
    · exact still _ (subscribers_transition m next).2 (swapped next)
  | compareAndTransition expected next =>
    simp only [move, compareAndTransition]
    split
    · exact still m rfl (List.Subset.refl _)
    · by_cases found : m.current = expected
      · rw [if_pos found]
        exact still _ (subscribers_transition m next).2 (swapped next)
      · rw [if_neg found]
        exact still m rfl (List.Subset.refl _)
  | subscribe =>
    simp only [move]
    split
    · exact still m rfl (List.Subset.refl _)
    · refine ⟨Nat.le_succ _, fun name hn => ?_⟩
      obtain ⟨s, hs, rfl⟩ := List.mem_map.mp hn
      obtain old | new := List.mem_append.mp hs
      · exact .inl (List.mem_map_of_mem old)
      · exact .inr ⟨by rw [List.mem_singleton.mp new], Nat.lt_succ_self _⟩
  | receive reader =>
    simp only [move, receive?]
    cases m.position? reader with
    | none => exact still m rfl (List.Subset.refl _)
    | some position =>
      simp only [Option.map_some]
      cases m.backlog.read position with
      | item | missed => exact still _ rfl (sought ..)
      | caughtUp => exact still m rfl (List.Subset.refl _)
  | unsubscribe reader =>
    exact still _ rfl (List.map_subset _ (List.filter_subset_self _))
  | retire => exact still _ rfl (List.Subset.refl _)

theorem Counted.play {m : Machine} (counted : m.Counted) (xs : List Move) :
    (m.play xs).Counted := by
  induction xs generalizing m with
  | nil => exact counted
  | cons x xs ih =>
    refine ih fun name hn => ?_
    obtain ⟨grows, given⟩ := m.names_move x
    obtain old | ⟨rfl, more⟩ := given name hn
    · exact Nat.lt_of_lt_of_le (counted name old) grows
    · exact more

/-- Who has left gets nothing more: its name is not given again. -/
theorem deliveries_gone (given : id < m.subscriptions) (nobody : id ∉ m.names) (xs : List Move) :
    m.deliveries id xs = [] := by
  induction xs generalizing m with
  | nil => rfl
  | cons x xs ih =>
    obtain ⟨grows, names⟩ := m.names_move x
    have silent : m.handed id x = none := by
      cases x with
      | receive reader => simp [handed, receive?, position?_eq_none nobody]
      | _ => rfl
    rw [deliveries, silent, ih (Nat.lt_of_lt_of_le given grows)]
    · rfl
    · intro back
      obtain old | ⟨same, -⟩ := names id back
      · exact nobody old
      · exact Nat.lt_irrefl _ (same ▸ given)

theorem subscriptions_play (m : Machine) (xs : List Move) :
    m.subscriptions ≤ (m.play xs).subscriptions := by
  induction xs generalizing m with
  | nil => exact Nat.le_refl _
  | cons x xs ih => exact Nat.le_trans (m.names_move x).1 (ih _)

/-- A new subscriber follows what is still to come. -/
theorem follows_subscribe (counted : m.Counted) :
    Follows m.backlog m.subscriptions [] [] m.subscribe.2 where
  kept := rfl
  place := by
    have new : m.subscriptions ∉ m.names := fun old => Nat.lt_irrefl _ (counted _ old)
    have first := position?_eq_none new
    rw [position?] at first
    simp only [position?, subscribe, List.lookup_append, first, Option.none_or]
    simp

/-- Who leaves is nobody any more. -/
theorem notMem_names_unsubscribe (m : Machine) (id : SubscriberId) :
    id ∉ (m.unsubscribe id).names := by
  intro still
  obtain ⟨s, hs, rfl⟩ := List.mem_map.mp still
  exact of_decide_eq_true (List.mem_filter.mp hs).2 rfl

/-- A swap for the state that the machine is in, and a comparison that fails. -/
theorem move_vain {x : Move} (vain : x = .transition m.current ∨ ∃ expected next,
    x = .compareAndTransition expected next ∧ (m.current ≠ expected ∨ expected = next)) :
    m.move x = m := by
  have same : m.transition m.current = m := if_pos rfl
  obtain rfl | ⟨expected, next, rfl, vain⟩ := vain
  · simp only [move, same, ite_self]
  · simp only [move, compareAndTransition]
    by_cases found : m.current = expected
    · obtain rfl := vain.resolve_left (not_not_intro found)
      rw [if_pos found, ← found]
      simp only [same, ite_self]
    · simp only [if_neg found, ite_self]

/-- **Subscribers see the history.** A machine in any state has had any moves made on it, and
someone subscribes; then more moves are made, in any order. The changes since are a walk of real
changes, and what the subscriber was delivered stands for the first of them. What it gets next is
decided by those it has not read: the next change, or a notice of lag exactly if there are more
than are kept, which leaves it with those that are kept, or word that there is nothing to read.
Changes handed over one after the other are linked. When there is nothing to read, changes handed
over and changes missed are all there were, and the last one handed over led to the state the
machine is in. A subscriber that leaves gets nothing more. A swap for the state that the machine is
in and a comparison that fails change nothing. A machine is gone exactly if it was retired at some
point: a subscriber that has read everything is told that there will be no more just in that case,
and then the history and the state are final. -/
theorem subscriber_history (initial : State) (before : List Move) {m₀ m₁ m : Machine}
    {id : SubscriberId} {xs : List Move} (reached : m₀ = (new initial).play before)
    (subscribed : m₀.subscribe = (id, m₁)) (stays : .unsubscribe id ∉ xs) (now : m = m₁.play xs) :
    let all := m₁.history xs
    let ds := m₁.deliveries id xs
    let unread := all.drop (covered ds)
    Walk (· ≠ ·) m₁.current all m.current ∧
      StandFor ds (all.take (covered ds)) ∧
      m₁.deliveries id (xs ++ [.receive id]) = ds ++ [m.upcoming unread] ∧
      (window < unread.length → m.backlog.items = unread.drop (unread.length - window)) ∧
      ((∀ c, .change c ∈ ds → c.source ≠ c.target) ∧
        ∀ earlier c between d later, ds = earlier ++ .change c :: (between ++ .change d :: later) →
          (∀ e ∈ between, e.isIdle) → d.source = c.target) ∧
      ((m.upcoming unread).isIdle →
        covered ds = all.length ∧ ∀ c, lastChange? ds = some c → c.target = m.current) ∧
      (∀ ys, m₁.deliveries id (xs ++ .unsubscribe id :: ys) = ds) ∧
      (∀ x, (x = .transition m.current ∨ ∃ expected next,
          x = .compareAndTransition expected next ∧ (m.current ≠ expected ∨ expected = next)) →
        m.move x = m ∧ m₁.history (xs ++ [x]) = all) ∧
      (m.retired = true ↔ .retire ∈ before ++ xs) ∧
      (m₁.deliveries id (xs ++ [.receive id]) = ds ++ [.closed] ↔
        unread = [] ∧ .retire ∈ before ++ xs) ∧
      (m₁.deliveries id (xs ++ [.receive id]) = ds ++ [.empty] ↔
        unread = [] ∧ .retire ∉ before ++ xs) ∧
      (.retire ∈ before ++ xs →
        ∀ ys, m₁.history (xs ++ ys) = all ∧ (m.play ys).current = m.current) := by
  intro all ds unread
  have counted : m₀.Counted := by
    subst reached
    exact Counted.play (m := new initial) nofun before
  obtain ⟨rfl, rfl⟩ : m₀.subscriptions = id ∧ m₀.subscribe.2 = m₁ := by
    rw [subscribed]
    exact ⟨congrArg Prod.fst subscribed, rfl⟩
  have walk : Walk (· ≠ ·) _ all m.current := now ▸ walk_history _ xs
  obtain ⟨seen, rest, whole, stand, follows, last⟩ : ∃ seen rest, all = seen ++ rest ∧
      StandFor ds seen ∧ Follows _ _ seen rest m ∧
      (rest = [] → lastChange? ds = seen.getLast?) :=
    now ▸ follows_run (follows_subscribe counted) stays
  have count : covered ds = seen.length := stand.length_eq
  have read : all.take (covered ds) = seen := by rw [count, whole, List.take_left]
  have left : unread = rest := by
    show all.drop (covered ds) = rest
    rw [count, whole, List.drop_left]
  have retired : m.retired = true ↔ .retire ∈ before ++ xs := by
    rw [now, retired_play, List.mem_append]
    show m₀.retired = true ∨ _ ↔ _
    rw [reached, retired_play]
    simp [new]
  have told : m₀.subscribe.2.deliveries m₀.subscriptions (xs ++ [.receive m₀.subscriptions]) =
      ds ++ [m.upcoming rest] := by
    obtain ⟨m', received, -, -⟩ := follows.receive
    rw [deliveries_append, ← now, deliveries_single]
    simp only [handed, if_true, received, Option.map_some, Option.toList_some]
    rfl
  obtain ⟨closed, empty⟩ := upcoming_eq_idle_iff m rest
  rw [left, read, whole, told]
  simp only [List.append_cancel_left_eq, List.cons.injEq, and_true, ← retired]
  rw [whole] at walk
  refine ⟨walk, stand, trivial, fun behind => ?_, ⟨fun c handed => ?_, ?_⟩, fun idle => ?_,
    fun ys => ?_, fun x vain => ⟨move_vain vain, ?_⟩, trivial, closed, empty, fun gone ys => ?_⟩
  · rw [follows.kept]
    exact (Backlog.kept_foldl_push _ seen (Nat.le_of_lt behind)).1
  · exact walk.step_of_mem (List.mem_append_left _ (stand.mem handed))
  · intro earlier c between d later told idle
    rw [told] at stand
    obtain ⟨first, tail, rfl⟩ := stand.neighbours idle
    rw [List.append_assoc] at walk
    exact walk.joined
  · obtain rfl := nil_of_idle_upcoming idle
    rw [List.append_nil] at walk ⊢
    refine ⟨count, fun c handed => ?_⟩
    rw [last rfl] at handed
    obtain ⟨first, rfl⟩ := List.getLast?_eq_some_iff.mp handed
    exact walk.target_last
  · have given : m₀.subscriptions < m.subscriptions :=
      now ▸ subscriptions_play m₀.subscribe.2 xs
    rw [deliveries_append, ← now]
    show ds ++ deliveries _ (m.unsubscribe _) ys = ds
    rw [deliveries_gone (m := m.unsubscribe _) given (m.notMem_names_unsubscribe _),
      List.append_nil]
  · have nothing : m.changeTo (m.move x) = [] := changeTo_of_eq (congrArg _ (move_vain vain))
    rw [history_append, ← now, history_single, nothing, List.append_nil]
    exact whole
  · obtain ⟨nothing, final⟩ := play_of_retired gone ys
    rw [history_append, ← now, nothing, List.append_nil]
    exact ⟨whole, final⟩

/-- A subscriber that slept through 66 changes is told that it missed two, and reads on with the
third. When the machine has been retired it reads what is kept, hears that there will be no more,
and a swap comes too late. -/
theorem subscriber_history_lagging :
    let m₁ := ((new .connecting).play [.subscribe]).subscribe.2
    let xs := (List.replicate 33 [Move.transition .connected, .transition .connecting]).flatten
    let ended := xs ++ .retire :: List.replicate 65 (.receive 1)
    m₁.deliveries 1 (xs ++ [.receive 1]) = [.lagged 2] ∧
      m₁.deliveries 1 (xs ++ [.receive 1] ++ [.receive 1]) =
        [.lagged 2, .change ⟨.connecting, .connected⟩] ∧
      m₁.deliveries 1 (ended ++ [.receive 1]) = m₁.deliveries 1 ended ++ [.closed] ∧
      m₁.history (ended ++ [.transition .disconnected]) = m₁.history ended := by
  intro m₁ xs ended
  have subscribed : ((new .connecting).play [.subscribe]).subscribe = (1, m₁) := rfl
  have stays : .unsubscribe 1 ∉ xs := by decide +kernel
  have reads : .unsubscribe 1 ∉ xs ++ [.receive 1] := by decide +kernel
  have remains : .unsubscribe 1 ∉ ended := by decide +kernel
  obtain ⟨-, -, first, -⟩ :=
    subscriber_history .connecting [.subscribe] rfl subscribed stays rfl
  obtain ⟨-, -, second, -⟩ :=
    subscriber_history .connecting [.subscribe] rfl subscribed reads rfl
  obtain ⟨-, -, -, -, -, -, -, -, -, closed, -, final⟩ :=
    subscriber_history .connecting [.subscribe] rfl subscribed remains rfl
  have lagged : m₁.deliveries 1 (xs ++ [.receive 1]) = [.lagged 2] :=
    first.trans (by decide +kernel)
  have retired : .retire ∈ [.subscribe] ++ ended := by decide +kernel
  refine ⟨lagged, second.trans ?_, closed.mpr ⟨by decide +kernel, retired⟩, (final retired _).1⟩
  rw [lagged]
  decide +kernel

end Machine

end NodeLink.Lifecycle
