import NodeLink.Settings.Overrides
import NodeLink.Proofs.Digits
import NodeLink.Proofs.Loading

/-!
# The layers of the surroundings

Whatever files there are and whatever the variables hold, the surroundings give settings. They
start from the file that the variable of the path names, or from the defaults if it cannot be
loaded. Then each of the five fields has the value that its own variable spells, and keeps the one
it started from if the variable is unset, is no text or spells none; the backoff always keeps its
own (`surroundings_layered`).

What a text spells is said here without reading it: a word is spelled by its decimal digits, perhaps
with zeros or one plus before them, and a switch by one of two words. No other variable has a part
in a field.
-/

set_option autoImplicit false

namespace NodeLink

namespace Variables

/-- A variable is set to the bytes of a text. -/
def Holds (v : Variables) (name text : String) : Prop :=
  v.entries.lookup name = some text.toUTF8

theorem text?_eq_some_iff {v : Variables} {name text : String} :
    v.text? name = some text ↔ v.Holds name text := by
  rw [text?, Option.bind_eq_some_iff, Holds]
  constructor
  · rintro ⟨bytes, found, decoded⟩
    rw [found, fromUTF8?_eq_some_iff.mp decoded]
  · exact fun found => ⟨_, found, fromUTF8?_eq_some_iff.mpr rfl⟩

end Variables

namespace Settings

/-! ## Spellings -/

/-- Decimal digits that spell a word. -/
def DigitsOf (digits : List Char) (n : UInt64) : Prop :=
  digits ≠ [] ∧ (∀ c ∈ digits, c.isDigit = true) ∧ Nat.ofDigitChars 10 digits 0 = n.toNat

/-- A text that spells a word: perhaps a plus, then its decimal digits. -/
def SpellsWord (text : String) (n : UInt64) : Prop :=
  ∃ digits, (text.toList = digits ∨ text.toList = '+' :: digits) ∧ DigitsOf digits n

/-- A text that spells a switch. -/
def SpellsSwitch (text : String) (b : Bool) : Prop := text = if b then "true" else "false"

theorem digitsOf_iff {digits : List Char} {n : UInt64} :
    ((Number.natural? 10 digits).filter (· < UInt64.size)).map UInt64.ofNat = some n ↔
      DigitsOf digits n := by
  rw [Option.map_eq_some_iff, DigitsOf]
  constructor
  · rintro ⟨k, spelled, rfl⟩
    obtain ⟨spelled, small⟩ := Option.filter_eq_some_iff.mp spelled
    obtain ⟨nonempty, digit, value⟩ := Number.natural?_eq_some_iff.mp spelled
    refine ⟨nonempty, digit, value.trans ?_⟩
    exact (UInt64.toNat_ofNat_of_lt (of_decide_eq_true small)).symm
  · rintro ⟨nonempty, digit, value⟩
    refine ⟨n.toNat, Option.filter_eq_some_iff.mpr ⟨?_, decide_eq_true n.toNat_lt_size⟩,
      UInt64.ofNat_toNat⟩
    exact Number.natural?_eq_some_iff.mpr ⟨nonempty, digit, value⟩

theorem spelledWord?_eq_some_iff {text : String} {n : UInt64} :
    spelledWord? text = some n ↔ SpellsWord text n := by
  rw [spelledWord?, digitsOf_iff, SpellsWord]
  -- A plus is no digit, so there is one way only to take the text apart.
  have no_plus {rest : List Char} : ¬ DigitsOf ('+' :: rest) n := fun spelled =>
    absurd (spelled.2.1 '+' List.mem_cons_self) (by decide)
  split
  next rest plus =>
    rw [plus]
    refine ⟨fun spelled => ⟨rest, .inr rfl, spelled⟩, ?_⟩
    rintro ⟨digits, whole | signed, spelled⟩
    · exact absurd (whole ▸ spelled) no_plus
    · exact (List.cons.inj signed).2 ▸ spelled
  next plain =>
    refine ⟨fun spelled => ⟨_, .inl rfl, spelled⟩, ?_⟩
    rintro ⟨digits, whole | signed, spelled⟩
    · exact whole ▸ spelled
    · exact absurd signed (plain digits)

theorem spelledSwitch?_eq_some_iff {text : String} {b : Bool} :
    spelledSwitch? text = some b ↔ SpellsSwitch text b := by
  unfold spelledSwitch? SpellsSwitch
  split
  next yes => cases b <;> simp [yes]
  next other =>
    split
    next no => cases b <;> simp [no]
    next neither => cases b <;> simp [other, neither]

/-! ## Fields -/

/-- The fields that have a variable. -/
inductive Field
  | socketTimeout
  | gracePeriod
  | tls
  | noDelay
  | pooling

namespace Field

/-- The variable of a field. -/
def variableName : Field → String
  | socketTimeout => "ENDPOINT_SOCKET_CONNECT_TIMEOUT_MS"
  | gracePeriod => "ENDPOINT_CONNECT_CALLBACK_GRACE_PERIOD_MS"
  | tls => "ENDPOINT_TLS_ENABLED"
  | noDelay => "ENDPOINT_TCP_NODELAY"
  | pooling => "ENDPOINT_BUFFER_POOLING"

/-- The type of a field: the times are words, and the others are switches. -/
def Value : Field → Type
  | socketTimeout | gracePeriod => UInt64
  | tls | noDelay | pooling => Bool

/-- What a text spells for a field. -/
def Spells : (f : Field) → String → f.Value → Prop
  | socketTimeout | gracePeriod => SpellsWord
  | tls | noDelay | pooling => SpellsSwitch

def spelled? : (f : Field) → String → Option f.Value
  | socketTimeout | gracePeriod => spelledWord?
  | tls | noDelay | pooling => spelledSwitch?

theorem spelled?_eq_some_iff (f : Field) {text : String} {a : f.Value} :
    f.spelled? text = some a ↔ f.Spells text a := by
  cases f with
  | socketTimeout | gracePeriod => exact spelledWord?_eq_some_iff
  | tls | noDelay | pooling => exact spelledSwitch?_eq_some_iff

end Field

/-- The value of a field. -/
def get (s : Settings) : (f : Field) → f.Value
  | .socketTimeout => s.socketTimeout
  | .gracePeriod => s.gracePeriod
  | .tls => s.tls
  | .noDelay => s.noDelay
  | .pooling => s.pooling

/-- The variable of a field holds a text that spells this value. -/
def Overrides (v : Variables) (f : Field) (a : f.Value) : Prop :=
  ∃ text, v.Holds f.variableName text ∧ f.Spells text a

section Override

variable {s : Settings} {v : Variables} {f : Field}

theorem get_override (s : Settings) (v : Variables) (f : Field) :
    (s.override v).get f = ((v.text? f.variableName).bind f.spelled?).getD (s.get f) := by
  cases f <;> rfl

theorem bind_spelled?_eq_some_iff {a : f.Value} :
    (v.text? f.variableName).bind f.spelled? = some a ↔ Overrides v f a := by
  rw [Option.bind_eq_some_iff]
  exact exists_congr fun text =>
    and_congr Variables.text?_eq_some_iff f.spelled?_eq_some_iff

theorem get_override_of_overrides {a : f.Value} (overrides : Overrides v f a) :
    (s.override v).get f = a := by
  rw [get_override, bind_spelled?_eq_some_iff.mpr overrides, Option.getD_some]

theorem get_override_of_not (left : ∀ a, ¬ Overrides v f a) :
    (s.override v).get f = s.get f := by
  have nothing : (v.text? f.variableName).bind f.spelled? = none :=
    Option.eq_none_iff_forall_ne_some.mpr fun a spelled =>
      left a (bind_spelled?_eq_some_iff.mp spelled)
  rw [get_override, nothing, Option.getD_none]

end Override

/-! ## The file -/

/-- The path that the variables name: that of their own variable, or else the usual one. -/
def Names (v : Variables) (path : String) : Prop :=
  v.Holds "ENDPOINT_CONFIG_PATH" path ∨
    (∀ text, ¬ v.Holds "ENDPOINT_CONFIG_PATH" text) ∧ path = "endpoint_config.toml"

/-- The settings to start from: those of the file that is named, or the defaults if it cannot be
loaded. -/
def Starts (d : Directory) (v : Variables) (s : Settings) : Prop :=
  ∃ path, Names v path ∧ (load d path = .ok s ∨ (∃ e, load d path = .error e) ∧ s = {})

theorem names_iff {v : Variables} {path : String} : Names v path ↔ path = filePath v := by
  simp only [Names, ← Variables.text?_eq_some_iff, filePath]
  cases v.text? "ENDPOINT_CONFIG_PATH" with
  | none => simp
  | some text => simp [eq_comm]

/-- There is one start, whatever the file holds. -/
theorem starts_iff {d : Directory} {v : Variables} {s : Settings} :
    Starts d v s ↔ s = (load d (filePath v)).toOption.getD {} := by
  simp only [Starts, names_iff, exists_eq_left]
  cases load d (filePath v) with
  | ok loaded => simp [Except.toOption, eq_comm]
  | error e => simp [Except.toOption]

theorem ofSurroundings_eq (d : Directory) (v : Variables) :
    ofSurroundings d v = ((load d (filePath v)).toOption.getD {}).override v := by
  rw [ofSurroundings]
  cases load d (filePath v) <;> rfl

/-! ## All layers -/

theorem text?_congr {v w : Variables} {name : String}
    (same : w.entries.lookup name = v.entries.lookup name) : w.text? name = v.text? name := by
  rw [Variables.text?, Variables.text?, same]

/-- Whatever the files and the variables are, the surroundings give settings: those of the file that
is named, or else the defaults, with each field for itself overridden by what its variable spells. A
field depends on no other variable than its own and that of the path, and the backoff on that of the
path alone. -/
theorem surroundings_layered (d : Directory) (v : Variables) :
    (∃ start, Starts d v start) ∧
    (∀ start, Starts d v start →
      (∀ f a, Overrides v f a → (ofSurroundings d v).get f = a) ∧
      (∀ f, (∀ a, ¬ Overrides v f a) → (ofSurroundings d v).get f = start.get f) ∧
      (ofSurroundings d v).reconnect = start.reconnect) ∧
    ∀ w : Variables,
      w.entries.lookup "ENDPOINT_CONFIG_PATH" = v.entries.lookup "ENDPOINT_CONFIG_PATH" →
      (ofSurroundings d w).reconnect = (ofSurroundings d v).reconnect ∧
      ∀ f : Field, w.entries.lookup f.variableName = v.entries.lookup f.variableName →
        (ofSurroundings d w).get f = (ofSurroundings d v).get f := by
  refine ⟨⟨_, starts_iff.mpr rfl⟩, fun start starts => ?_, fun w same_path => ?_⟩
  · have layered : ofSurroundings d v = start.override v := by
      rw [ofSurroundings_eq, ← starts_iff.mp starts]
    rw [layered]
    exact ⟨fun f a overrides => get_override_of_overrides overrides,
      fun f left => get_override_of_not left, rfl⟩
  · have path : filePath w = filePath v := by rw [filePath, filePath, text?_congr same_path]
    rw [ofSurroundings_eq, ofSurroundings_eq, path]
    refine ⟨rfl, fun f same => ?_⟩
    rw [get_override, get_override, text?_congr same]

/-- A path that is no text and a time that is no word are passed over, and the file of the usual
name stays; a plus before the largest word is taken. -/
theorem surroundings_fall_back :
    ∃ (d : Directory) (v : Variables),
      d.files = [("endpoint_config.toml",
        "connect_callback_grace_period_ms = 7\ntcp_nodelay_enabled = false\n".toUTF8)] ∧
      v.entries = [("ENDPOINT_CONFIG_PATH", ⟨#[0xff]⟩),
        ("ENDPOINT_SOCKET_CONNECT_TIMEOUT_MS", "+18446744073709551615".toUTF8),
        ("ENDPOINT_CONNECT_CALLBACK_GRACE_PERIOD_MS", "-1".toUTF8),
        ("ENDPOINT_TCP_NODELAY", "TRUE".toUTF8)] ∧
      (ofSurroundings d v).socketTimeout = 18446744073709551615 ∧
      (ofSurroundings d v).gracePeriod = 7 ∧ (ofSurroundings d v).noDelay = false := by
  let d : Directory := ⟨[("endpoint_config.toml",
    "connect_callback_grace_period_ms = 7\ntcp_nodelay_enabled = false\n".toUTF8)]⟩
  let v : Variables := ⟨[("ENDPOINT_CONFIG_PATH", ⟨#[0xff]⟩),
    ("ENDPOINT_SOCKET_CONNECT_TIMEOUT_MS", "+18446744073709551615".toUTF8),
    ("ENDPOINT_CONNECT_CALLBACK_GRACE_PERIOD_MS", "-1".toUTF8),
    ("ENDPOINT_TCP_NODELAY", "TRUE".toUTF8)]⟩
  have path : filePath v = "endpoint_config.toml" := by decide +kernel
  have read :
      ofText? "connect_callback_grace_period_ms = 7\ntcp_nodelay_enabled = false\n".toList =
        some { gracePeriod := 7, noDelay := false } := by decide +kernel
  have loaded : load d "endpoint_config.toml" = .ok { gracePeriod := 7, noDelay := false } :=
    load_of_read (by decide +kernel) read
  have starts : Starts d v { gracePeriod := 7, noDelay := false } := by
    rw [starts_iff, path, loaded]
    rfl
  obtain ⟨taken, left, -⟩ := (surroundings_layered d v).2.1 _ starts
  have spelled : Overrides v .socketTimeout (18446744073709551615 : UInt64) :=
    bind_spelled?_eq_some_iff.mp
      (by decide +kernel : ((v.text? "ENDPOINT_SOCKET_CONNECT_TIMEOUT_MS").bind spelledWord?) =
        some 18446744073709551615)
  have negative (n : UInt64) : ¬ Overrides v .gracePeriod n := fun overrides => by
    have none : (v.text? "ENDPOINT_CONNECT_CALLBACK_GRACE_PERIOD_MS").bind spelledWord? = none := by
      decide +kernel
    exact nomatch none.symm.trans (bind_spelled?_eq_some_iff.mpr overrides)
  have capital (b : Bool) : ¬ Overrides v .noDelay b := fun overrides => by
    have none : (v.text? "ENDPOINT_TCP_NODELAY").bind spelledSwitch? = none := by decide +kernel
    exact nomatch none.symm.trans (bind_spelled?_eq_some_iff.mpr overrides)
  exact ⟨d, v, rfl, rfl, taken .socketTimeout _ spelled, left .gracePeriod negative,
    left .noDelay capital⟩

end Settings

end NodeLink
