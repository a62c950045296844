import NodeLink.Proofs.Fields

/-!
# What the record decoders accept

The formats of the two records are given as data, with what each record holds. A decoder accepts the
texts of the values that hold a record and refuses the text of every other value, whichever fault
it has and wherever that sits (`decoders_exact`). A change stands under the name of its kind.

Nothing is assumed of what stands among the fields: any value that has a text may stand there. That
the decoder compares names by their meaning is used only for names that have a text, since a number
beyond sixteen bits could otherwise stand for a character.
-/

set_option autoImplicit false

namespace NodeLink.Dcp

open Json (Value Spelling)

/-! ## The two formats -/

/-- The fields of a mutation. -/
def Mutation.format : Format Mutation where
  fields := [
    ("total_body_length", .number UInt32.size), ("partition", .number UInt16.size),
    ("key", .string), ("content", .bytes), ("expiration", .number UInt32.size),
    ("by_sequence_number", .number UInt64.size), ("revision_sequence_number", .number UInt64.size),
    ("flags", .number UInt32.size), ("lock_time", .number UInt32.size),
    ("cas", .number UInt64.size), ("bucket", .string)]
  contents m := [
    .number m.totalBodyLength.toNat, .number m.partition.toNat, .string m.key, .bytes m.content,
    .number m.expiration.toNat, .number m.bySequence.toNat, .number m.revisionSequence.toNat,
    .number m.flags.toNat, .number m.lockTime.toNat, .number m.cas.toNat, .string m.bucket]
  distinct := by decide
  fitting m := by
    simp only [List.map_cons, List.map_nil, List.forall₂_cons, List.forall₂_nil_left_iff, and_true,
      of_word16_iff, of_word32_iff, of_word64_iff, of_string_iff, of_bytes_iff]
    exact ⟨⟨_, rfl⟩, ⟨_, rfl⟩, ⟨_, rfl⟩, ⟨_, rfl⟩, ⟨_, rfl⟩, ⟨_, rfl⟩, ⟨_, rfl⟩, ⟨_, rfl⟩, ⟨_, rfl⟩,
      ⟨_, rfl⟩, ⟨_, rfl⟩⟩
  complete cs fits := by
    simp only [List.map_cons, List.map_nil, List.forall₂_cons_right_iff,
      List.forall₂_nil_right_iff, of_word16_iff, of_word32_iff, of_word64_iff, of_string_iff,
      of_bytes_iff] at fits
    obtain ⟨_, _, ⟨length, rfl⟩, ⟨_, _, ⟨part, rfl⟩, ⟨_, _, ⟨key, rfl⟩, ⟨_, _, ⟨content, rfl⟩,
      ⟨_, _, ⟨expires, rfl⟩, ⟨_, _, ⟨seq, rfl⟩, ⟨_, _, ⟨rev, rfl⟩, ⟨_, _, ⟨flags, rfl⟩,
      ⟨_, _, ⟨lock, rfl⟩, ⟨_, _, ⟨cas, rfl⟩, ⟨_, _, ⟨bucket, rfl⟩, rfl, rfl⟩, rfl⟩, rfl⟩, rfl⟩,
      rfl⟩, rfl⟩, rfl⟩, rfl⟩, rfl⟩, rfl⟩, rfl⟩ := fits
    exact ⟨⟨length, part, key, content, expires, seq, rev, flags, lock, cas, bucket⟩, rfl⟩

/-- The fields of a removal. -/
def Removal.format : Format Removal where
  fields := [
    ("total_body_length", .number UInt32.size), ("partition", .number UInt16.size),
    ("key", .string), ("cas", .number UInt64.size), ("by_sequence_number", .number UInt64.size),
    ("revision_sequence_number", .number UInt64.size), ("bucket", .string)]
  contents r := [
    .number r.totalBodyLength.toNat, .number r.partition.toNat, .string r.key, .number r.cas.toNat,
    .number r.bySequence.toNat, .number r.revisionSequence.toNat, .string r.bucket]
  distinct := by decide
  fitting r := by
    simp only [List.map_cons, List.map_nil, List.forall₂_cons, List.forall₂_nil_left_iff, and_true,
      of_word16_iff, of_word32_iff, of_word64_iff, of_string_iff]
    exact ⟨⟨_, rfl⟩, ⟨_, rfl⟩, ⟨_, rfl⟩, ⟨_, rfl⟩, ⟨_, rfl⟩, ⟨_, rfl⟩, ⟨_, rfl⟩⟩
  complete cs fits := by
    simp only [List.map_cons, List.map_nil, List.forall₂_cons_right_iff,
      List.forall₂_nil_right_iff, of_word16_iff, of_word32_iff, of_word64_iff, of_string_iff]
      at fits
    obtain ⟨_, _, ⟨length, rfl⟩, ⟨_, _, ⟨part, rfl⟩, ⟨_, _, ⟨key, rfl⟩, ⟨_, _, ⟨cas, rfl⟩,
      ⟨_, _, ⟨seq, rfl⟩, ⟨_, _, ⟨rev, rfl⟩, ⟨_, _, ⟨bucket, rfl⟩, rfl, rfl⟩, rfl⟩, rfl⟩, rfl⟩,
      rfl⟩, rfl⟩, rfl⟩ := fits
    exact ⟨⟨length, part, key, cas, seq, rev, bucket⟩, rfl⟩

/-- The decoder builds the mutation that the values give. -/
theorem Mutation.ofValues?_eq_some_iff {vs : List Value} (spelled : ∀ v ∈ vs, v.Spelled)
    {m : Mutation} :
    ofValues? vs = some m ↔ List.Forall₂ Content.GivenBy (format.contents m) vs := by
  unfold ofValues?
  split
  next length part key content expires seq rev flags lock cas bucket =>
    have key_iff {t : String} := string?_eq_some_iff (spelled key (by simp)) (t := t)
    have bucket_iff {t : String} := string?_eq_some_iff (spelled bucket (by simp)) (t := t)
    simp only [Option.pure_def, Option.bind_eq_bind, Option.bind_eq_some_iff, Option.some.injEq,
      word16?_eq_some_iff, word32?_eq_some_iff, word64?_eq_some_iff, bytes?_eq_some_iff, key_iff,
      bucket_iff, format, List.forall₂_cons, List.forall₂_nil_left_iff, and_true]
    constructor
    · rintro ⟨_, h1, _, h2, _, h3, _, h4, _, h5, _, h6, _, h7, _, h8, _, h9, _, h10, _, h11, rfl⟩
      exact ⟨h1, h2, h3, h4, h5, h6, h7, h8, h9, h10, h11⟩
    · rintro ⟨h1, h2, h3, h4, h5, h6, h7, h8, h9, h10, h11⟩
      exact ⟨_, h1, _, h2, _, h3, _, h4, _, h5, _, h6, _, h7, _, h8, _, h9, _, h10, _, h11, rfl⟩
  next other =>
    refine ⟨nofun, fun gives => ?_⟩
    simp only [format, List.forall₂_cons_left_iff, List.forall₂_nil_left_iff] at gives
    obtain ⟨_, _, -, ⟨_, _, -, ⟨_, _, -, ⟨_, _, -, ⟨_, _, -, ⟨_, _, -, ⟨_, _, -, ⟨_, _, -,
      ⟨_, _, -, ⟨_, _, -, ⟨_, _, -, rfl, rfl⟩, rfl⟩, rfl⟩, rfl⟩, rfl⟩, rfl⟩, rfl⟩, rfl⟩, rfl⟩,
      rfl⟩, rfl⟩ := gives
    exact (other _ _ _ _ _ _ _ _ _ _ _ rfl).elim

/-- The decoder builds the removal that the values give. -/
theorem Removal.ofValues?_eq_some_iff {vs : List Value} (spelled : ∀ v ∈ vs, v.Spelled)
    {r : Removal} :
    ofValues? vs = some r ↔ List.Forall₂ Content.GivenBy (format.contents r) vs := by
  unfold ofValues?
  split
  next length part key cas seq rev bucket =>
    have key_iff {t : String} := string?_eq_some_iff (spelled key (by simp)) (t := t)
    have bucket_iff {t : String} := string?_eq_some_iff (spelled bucket (by simp)) (t := t)
    simp only [Option.pure_def, Option.bind_eq_bind, Option.bind_eq_some_iff, Option.some.injEq,
      word16?_eq_some_iff, word32?_eq_some_iff, word64?_eq_some_iff, key_iff, bucket_iff, format,
      List.forall₂_cons, List.forall₂_nil_left_iff, and_true]
    constructor
    · rintro ⟨_, h1, _, h2, _, h3, _, h4, _, h5, _, h6, _, h7, rfl⟩
      exact ⟨h1, h2, h3, h4, h5, h6, h7⟩
    · rintro ⟨h1, h2, h3, h4, h5, h6, h7⟩
      exact ⟨_, h1, _, h2, _, h3, _, h4, _, h5, _, h6, _, h7, rfl⟩
  next other =>
    refine ⟨nofun, fun gives => ?_⟩
    simp only [format, List.forall₂_cons_left_iff, List.forall₂_nil_left_iff] at gives
    obtain ⟨_, _, -, ⟨_, _, -, ⟨_, _, -, ⟨_, _, -, ⟨_, _, -, ⟨_, _, -, ⟨_, _, -, rfl, rfl⟩, rfl⟩,
      rfl⟩, rfl⟩, rfl⟩, rfl⟩, rfl⟩ := gives
    exact (other _ _ _ _ _ _ _ rfl).elim

/-! ## Values of records -/

/-- What belongs to names has a text if the whole has one. -/
theorem Lists.spelled {names : List String} {vs : List Value} {v : Value}
    (lists : Lists names vs v) (spelled : v.Spelled) : ∀ x ∈ vs, x.Spelled := by
  cases lists with
  | array => exact spelled.items
  | object order _ values _ =>
    subst values
    intro x mem
    obtain ⟨m, here, rfl⟩ := List.mem_map.mp mem
    exact (spelled.members m (order.mem_iff.mpr (List.mem_append_left _ here))).2

/-- A decoder that takes the values of the fields and builds what they give decodes the format. -/
theorem Format.ofValue?_eq_some_iff {α : Type} (f : Format α) {ofValues? : List Value → Option α}
    (builds : ∀ {vs : List Value}, (∀ v ∈ vs, v.Spelled) → ∀ {a : α},
      ofValues? vs = some a ↔ List.Forall₂ Content.GivenBy (f.contents a) vs)
    {v : Value} (spelled : v.Spelled) {a : α} :
    (fields? f.names v).bind ofValues? = some a ↔ f.Holds a v := by
  rw [Option.bind_eq_some_iff]
  refine exists_congr fun vs => ?_
  rw [fields?_eq_some_iff f.distinct_names spelled]
  exact and_congr_right fun lists => builds (lists.spelled spelled)

theorem Mutation.ofValue?_eq_some_iff {v : Value} (spelled : v.Spelled) {m : Mutation} :
    ofValue? v = some m ↔ format.Holds m v :=
  format.ofValue?_eq_some_iff Mutation.ofValues?_eq_some_iff spelled

theorem Removal.ofValue?_eq_some_iff {v : Value} (spelled : v.Spelled) {r : Removal} :
    ofValue? v = some r ↔ format.Holds r v :=
  format.ofValue?_eq_some_iff Removal.ofValues?_eq_some_iff spelled

/-! ## Changes -/

/-- A value holds a change if it is an object with one member, named for the kind of the change,
that holds the record. -/
inductive Event.Holds : Event → Value → Prop
  | mutation {m : Mutation} {tag : Spelling} {v : Value} (named : tag.Means "Mutation".toList)
      (holds : Mutation.format.Holds m v) : Holds (.mutation m) (.object [(tag, v)])
  | removal {r : Removal} {tag : Spelling} {v : Value} (named : tag.Means "Remove".toList)
      (holds : Removal.format.Holds r v) : Holds (.removal r) (.object [(tag, v)])

/-- Why a value holds no change. -/
inductive Event.Faulty : Value → Prop
  | shape {v : Value} (h : ∀ members, v ≠ .object members) : Faulty v
  | count {members : List (Spelling × Value)} (h : members.length ≠ 1) : Faulty (.object members)
  | tag {tag : Spelling} {v : Value} (mutation : ¬ tag.Means "Mutation".toList)
      (removal : ¬ tag.Means "Remove".toList) : Faulty (.object [(tag, v)])
  | mutation {tag : Spelling} {v : Value} (named : tag.Means "Mutation".toList)
      (h : Mutation.format.Faulty v) : Faulty (.object [(tag, v)])
  | removal {tag : Spelling} {v : Value} (named : tag.Means "Remove".toList)
      (h : Removal.format.Faulty v) : Faulty (.object [(tag, v)])

theorem tagged?_eq_some_iff {v w : Value} {name : String} (spelled : v.Spelled) :
    tagged? v = some (name, w) ↔ ∃ tag, v = .object [(tag, w)] ∧ tag.Means name.toList := by
  constructor
  · intro h
    unfold tagged? at h
    split at h
    next tag x =>
      obtain ⟨_, read, same⟩ := Option.map_eq_some_iff.mp h
      obtain ⟨rfl, rfl⟩ := Prod.mk.inj same
      obtain ⟨text, spells⟩ := (spelled.members (tag, x) List.mem_cons_self).1
      exact ⟨tag, rfl, (Spelling.toString?_eq_some_iff spells).mp read⟩
    next => cases h
  · rintro ⟨tag, rfl, means⟩
    rw [tagged?, means.toString?]
    rfl

theorem spelled_of_tagged {tag : Spelling} {v : Value}
    (spelled : Value.Spelled (.object [(tag, v)])) : v.Spelled :=
  (spelled.members (tag, v) List.mem_cons_self).2

theorem Event.ofValue?_eq_some_iff {v : Value} (spelled : v.Spelled) {e : Event} :
    ofValue? v = some e ↔ e.Holds v := by
  rw [ofValue?, Option.bind_eq_bind, Option.bind_eq_some_iff]
  constructor
  · rintro ⟨⟨name, w⟩, tagged, read⟩
    obtain ⟨tag, rfl, means⟩ := (tagged?_eq_some_iff spelled).mp tagged
    split at read
    next same =>
      obtain ⟨rfl, rfl⟩ := Prod.mk.inj same
      obtain ⟨m, holds, rfl⟩ := Option.map_eq_some_iff.mp read
      exact .mutation means ((Mutation.ofValue?_eq_some_iff (spelled_of_tagged spelled)).mp holds)
    next same =>
      obtain ⟨rfl, rfl⟩ := Prod.mk.inj same
      obtain ⟨r, holds, rfl⟩ := Option.map_eq_some_iff.mp read
      exact .removal means ((Removal.ofValue?_eq_some_iff (spelled_of_tagged spelled)).mp holds)
    next => cases read
  · rintro (⟨means, holds⟩ | ⟨means, holds⟩)
    · refine ⟨("Mutation", _), (tagged?_eq_some_iff spelled).mpr ⟨_, rfl, means⟩, ?_⟩
      exact Option.map_eq_some_iff.mpr
        ⟨_, (Mutation.ofValue?_eq_some_iff (spelled_of_tagged spelled)).mpr holds, rfl⟩
    · refine ⟨("Remove", _), (tagged?_eq_some_iff spelled).mpr ⟨_, rfl, means⟩, ?_⟩
      exact Option.map_eq_some_iff.mpr
        ⟨_, (Removal.ofValue?_eq_some_iff (spelled_of_tagged spelled)).mpr holds, rfl⟩

/-- A value holds a change exactly if there is no reason why it holds none. -/
theorem Event.exists_holds_iff {v : Value} (spelled : v.Spelled) :
    (∃ e, Event.Holds e v) ↔ ¬ Event.Faulty v := by
  constructor
  · rintro ⟨e, holds⟩ wrong
    have apart {tag : Spelling} (one : tag.Means "Mutation".toList)
        (other : tag.Means "Remove".toList) : False := absurd (one.unique other) (by decide)
    cases holds with
    | @mutation _ tag v named holds =>
      cases wrong with
      | shape h => exact h _ rfl
      | count h => exact h rfl
      | tag mutation _ => exact mutation named
      | mutation _ h =>
        exact (Format.exists_holds_iff (spelled_of_tagged spelled)).mp ⟨_, holds⟩ h
      | removal other _ => exact apart named other
    | @removal _ tag v named holds =>
      cases wrong with
      | shape h => exact h _ rfl
      | count h => exact h rfl
      | tag _ removal => exact removal named
      | mutation other _ => exact apart other named
      | removal _ h =>
        exact (Format.exists_holds_iff (spelled_of_tagged spelled)).mp ⟨_, holds⟩ h
  · intro right
    obtain ⟨members, rfl⟩ : ∃ members, v = .object members :=
      Classical.not_forall_not.mp fun h => right (.shape h)
    obtain ⟨⟨tag, w⟩, rfl⟩ := List.length_eq_one_iff.mp (Classical.not_not.mp fun h =>
      right (.count h))
    have inner := spelled_of_tagged spelled
    by_cases mutation : tag.Means "Mutation".toList
    · obtain ⟨m, holds⟩ := (Format.exists_holds_iff inner).mpr fun h => right (.mutation mutation h)
      exact ⟨_, .mutation mutation holds⟩
    · by_cases removal : tag.Means "Remove".toList
      · obtain ⟨r, holds⟩ := (Format.exists_holds_iff inner).mpr fun h => right (.removal removal h)
        exact ⟨_, .removal removal holds⟩
      · exact absurd (.tag mutation removal) right

/-- Where a number of a change is given: under the tag, at the place or under the name of its
field, and nowhere else. -/
inductive Places (name : String) (n : Nat) : Value → Prop
  | mutation {tag : Spelling} {v x : Value} (named : tag.Means "Mutation".toList)
      (figures : Figures n x) (only : ∀ y, Given Mutation.format.names name y v ↔ y = x) :
      Places name n (.object [(tag, v)])
  | removal {tag : Spelling} {v x : Value} (named : tag.Means "Remove".toList)
      (figures : Figures n x) (only : ∀ y, Given Removal.format.names name y v ↔ y = x) :
      Places name n (.object [(tag, v)])

theorem Event.Holds.partition {e : Event} {v : Value} (h : e.Holds v) :
    Places "partition" e.partition.toNat v := by
  cases h with
  | mutation named holds =>
    obtain ⟨x, ⟨figures⟩, only⟩ := holds.given (i := 1) rfl rfl
    exact .mutation named figures only
  | removal named holds =>
    obtain ⟨x, ⟨figures⟩, only⟩ := holds.given (i := 1) rfl rfl
    exact .removal named figures only

theorem Event.Holds.bySequence {e : Event} {v : Value} (h : e.Holds v) :
    Places "by_sequence_number" e.bySequence.toNat v := by
  cases h with
  | mutation named holds =>
    obtain ⟨x, ⟨figures⟩, only⟩ := holds.given (i := 5) rfl rfl
    exact .mutation named figures only
  | removal named holds =>
    obtain ⟨x, ⟨figures⟩, only⟩ := holds.given (i := 4) rfl rfl
    exact .removal named figures only

/-! ## Texts of records -/

/-- A reader of texts takes exactly the texts of the values that hold something. -/
structure Decodes {α : Type} (Holds : α → Value → Prop) (Faulty : Value → Prop)
    (read? : String → Option α) : Prop where
  /-- A text is read as a record exactly if its value holds the record. -/
  accepts (s : String) (a : α) : read? s = some a ↔ ∃ v, v.Padded s.toList ∧ Holds a v
  /-- The text of a value is refused exactly if there is a fault in the value. -/
  refuses (s : String) (v : Value) : v.Padded s.toList → (read? s = none ↔ Faulty v)
  /-- What has no value is refused. -/
  malformed (s : String) : (∀ v : Value, ¬ v.Padded s.toList) → read? s = none
  /-- What stands behind a value must be blank. -/
  alone (s tail : String) (v : Value) : v.Padded s.toList → ¬ Json.Blank tail.toList →
    read? (s ++ tail) = none

theorem decodes {α : Type} {ofValue? : Value → Option α} {Holds : α → Value → Prop}
    {Faulty : Value → Prop}
    (takes : ∀ {v : Value}, v.Spelled → ∀ {a : α}, ofValue? v = some a ↔ Holds a v)
    (exact : ∀ {v : Value}, v.Spelled → ((∃ a, Holds a v) ↔ ¬ Faulty v))
    (enclosed : ∀ {token : List Char} {a : α}, ¬ Holds a (.number token)) :
    Decodes Holds Faulty (ofText? ofValue?) := by
  have accepts (s : String) (a : α) :
      ofText? ofValue? s = some a ↔ ∃ v, v.Padded s.toList ∧ Holds a v := by
    rw [ofText?, Option.bind_eq_some_iff]
    refine exists_congr fun v => ?_
    rw [Json.ofText?_eq_some_iff]
    exact and_congr_right fun padded => takes padded.spelled
  refine ⟨accepts, fun s v padded => ?_, fun s none => ?_, fun s tail v padded more => ?_⟩
  · rw [← Classical.not_not (a := Faulty v), ← exact padded.spelled,
      Option.eq_none_iff_forall_ne_some, not_exists]
    refine forall_congr' fun a => not_congr ?_
    rw [accepts]
    constructor
    · rintro ⟨w, other, holds⟩
      exact padded.unique other ▸ holds
    · exact fun holds => ⟨v, padded, holds⟩
  · rw [Option.eq_none_iff_forall_ne_some]
    intro a read
    obtain ⟨v, padded, -⟩ := (accepts s a).mp read
    exact none v padded
  · rw [Option.eq_none_iff_forall_ne_some]
    intro a read
    obtain ⟨w, longer, holds⟩ := (accepts (s ++ tail) a).mp read
    rw [String.toList_append] at longer
    exact more (padded.blank_of_append longer fun token is => enclosed (is ▸ holds))

/-- The decoders accept exactly the texts of their records, and the partition and the place of a
change are the numbers given for these fields. -/
theorem decoders_exact :
    Decodes Mutation.format.Holds Mutation.format.Faulty Mutation.ofText? ∧
      Decodes Removal.format.Holds Removal.format.Faulty Removal.ofText? ∧
      Decodes Event.Holds Event.Faulty Event.ofText? ∧
      ∀ s e, Event.ofText? s = some e → ∃ v, v.Padded s.toList ∧
        Places "partition" e.partition.toNat v ∧
        Places "by_sequence_number" e.bySequence.toNat v := by
  have events : Decodes Event.Holds Event.Faulty Event.ofText? :=
    decodes Event.ofValue?_eq_some_iff Event.exists_holds_iff nofun
  refine ⟨decodes Mutation.ofValue?_eq_some_iff Format.exists_holds_iff ?_,
    decodes Removal.ofValue?_eq_some_iff Format.exists_holds_iff ?_, events, ?_⟩
  · rintro token m ⟨_, ⟨⟩, -⟩
  · rintro token r ⟨_, ⟨⟩, -⟩
  · intro s e read
    obtain ⟨v, padded, holds⟩ := (events.accepts s e).mp read
    exact ⟨v, padded, holds.partition, holds.bySequence⟩

/-- A removal with its fields in another order, a name and a string given by numbers, and a
member that no removal has, in which nothing means anything. -/
def scattered : Value :=
  .ofFields [("Remove", .object [
    (.ofString "by_sequence_number", .ofNat 9),
    (.ofString "x", .array [.ofFields [("cas", .null)], .string [.unit 0xdead],
      .number ['-', '0']]),
    (.ofString "bucket", .string [.unit 0xd83d, .unit 0xde00]),
    (.ofString "cas", .ofNat 18446744073709551615),
    (.ofString "revision_sequence_number", .ofNat 0),
    (.char 'p' :: .unit 0x61 :: Spelling.ofString "rtition", .ofNat 7),
    (.ofString "key", .ofString ""),
    (.ofString "total_body_length", .ofNat 4294967295)])]

theorem decoders_exact_scattered :
    ∃ v, v.Padded scattered.text.toList ∧ Places "partition" 7 v ∧
      Places "by_sequence_number" 9 v := by
  have read : Event.ofText? scattered.text =
      some (.removal ⟨4294967295, 7, "", 18446744073709551615, 9, 0, "😀"⟩) := by
    rw [Event.ofText?, Dcp.ofText?, Value.text, String.toList_ofList]
    decide +kernel
  exact decoders_exact.2.2.2 _ _ read

end NodeLink.Dcp
