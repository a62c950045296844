import NodeLink.Proofs.Partial

/-!
# Settings kept in a file

Settings that are saved are loaded again as they were, every time, switch and factor of them: the
infinities, the zeros of either sign and what is not a number included. They are refused just when a
time is too large for a signed word. No text is made of such settings, so the refusal comes before
anything is written, whatever the file and whether or not there is a place for it
(`saved_settings_kept`).

Saved settings are a file of all nine keys in a fixed order, so that they are read back is a case of
what holds of files that give any of the keys.
-/

set_option autoImplicit false

namespace NodeLink.Settings

open Toml (Statement Value)

/-! ## Times that are too large -/

/-- Settings with a time that does not fit a signed word. -/
def Oversized (s : Settings) : Prop :=
  2 ^ 63 - 1 < s.socketTimeout.toNat ∨ 2 ^ 63 - 1 < s.gracePeriod.toNat ∨
    2 ^ 63 - 1 < s.reconnect.base.toNat ∨ 2 ^ 63 - 1 < s.reconnect.cap.toNat

instance (s : Settings) : Decidable s.Oversized := inferInstanceAs (Decidable (_ ∨ _ ∨ _ ∨ _))

theorem time?_of_lt {n : UInt64} (fits : n.toNat < 2 ^ 63) :
    time? n = some (.integer n.toNat) := if_pos fits

theorem time?_eq_none_iff {n : UInt64} : time? n = none ↔ 2 ^ 63 - 1 < n.toNat := by
  by_cases fits : n.toNat < 2 ^ 63
  · rw [time?_of_lt fits]
    exact ⟨fun missing => (nomatch missing), fun large => absurd fits (by omega)⟩
  · exact ⟨fun _ => by omega, fun _ => if_neg fits⟩

/-- Settings without a text are those with a time that is too large. -/
theorem text?_eq_none_iff (s : Settings) : s.text? = none ↔ s.Oversized := by
  rw [text?, Option.map_eq_none_iff, Oversized, ← time?_eq_none_iff, ← time?_eq_none_iff,
    ← time?_eq_none_iff, ← time?_eq_none_iff, statements?]
  cases time? s.socketTimeout with
  | none => exact ⟨fun _ => .inl rfl, fun _ => rfl⟩
  | some =>
    cases time? s.gracePeriod with
    | none => exact ⟨fun _ => .inr (.inl rfl), fun _ => rfl⟩
    | some =>
      cases time? s.reconnect.base with
      | none => exact ⟨fun _ => .inr (.inr (.inl rfl)), fun _ => rfl⟩
      | some =>
        cases time? s.reconnect.cap with
        | none => exact ⟨fun _ => .inr (.inr (.inr rfl)), fun _ => rfl⟩
        | some =>
          refine ⟨fun missing => (nomatch missing), ?_⟩
          rintro (missing | missing | missing | missing) <;> cases missing

/-! ## The file of all keys -/

/-- Settings whose times fit signed words. -/
structure Fits (s : Settings) : Prop where
  socketTimeout : s.socketTimeout.toNat < 2 ^ 63
  gracePeriod : s.gracePeriod.toNat < 2 ^ 63
  base : s.reconnect.base.toNat < 2 ^ 63
  cap : s.reconnect.cap.toNat < 2 ^ 63

theorem fits_of_not_oversized {s : Settings} (small : ¬ s.Oversized) : s.Fits := by
  unfold Oversized at small
  constructor <;> omega

section Fits

variable {s : Settings} (fits : s.Fits)

/-- All settings, as a file gives them. -/
def Fits.given : Partial where
  socketTimeout := some ⟨s.socketTimeout.toNat, fits.socketTimeout⟩
  gracePeriod := some ⟨s.gracePeriod.toNat, fits.gracePeriod⟩
  tls := some s.tls
  pooling := some s.pooling
  noDelay := some s.noDelay
  base := some ⟨s.reconnect.base.toNat, fits.base⟩
  cap := some ⟨s.reconnect.cap.toNat, fits.cap⟩
  multiplier := some (.decimal s.reconnect.multiplier)
  jitter := some (.decimal s.reconnect.jitter)

theorem Fits.over_given (other : Settings) : fits.given.over other = s := by
  have word (n : UInt64) (small : n.toNat < 2 ^ 63) : millis ⟨n.toNat, small⟩ = n :=
    UInt64.ofNat_toNat
  simp only [Partial.over, Fits.given, Option.elim_some, Option.getD_some, word, Factor.double]

/-- The pairs of settings, at the top and below the header of the backoff. -/
def Fits.top : List (String × Value) :=
  [("socket_connect_timeout_ms", timeValue ⟨s.socketTimeout.toNat, fits.socketTimeout⟩),
    ("connect_callback_grace_period_ms", timeValue ⟨s.gracePeriod.toNat, fits.gracePeriod⟩),
    ("tls_enabled", switchValue s.tls),
    ("buffer_pooling_enabled", switchValue s.pooling),
    ("tcp_nodelay_enabled", switchValue s.noDelay)]

def Fits.below : List (String × Value) :=
  [("base_ms", timeValue ⟨s.reconnect.base.toNat, fits.base⟩),
    ("max_ms", timeValue ⟨s.reconnect.cap.toNat, fits.cap⟩),
    ("multiplier", Factor.value (.decimal s.reconnect.multiplier)),
    ("jitter_factor", Factor.value (.decimal s.reconnect.jitter))]

theorem Fits.statements?_eq : s.statements? = some (document fits.top (some fits.below)) := by
  rw [statements?, time?_of_lt fits.socketTimeout, time?_of_lt fits.gracePeriod,
    time?_of_lt fits.base, time?_of_lt fits.cap]
  rfl

theorem Fits.plain_top : Plain fits.given.given Item.outer fits.top := by
  refine ⟨?_, fun item mem => ?_, fun e mem => ?_⟩
  · show List.Nodup ["socket_connect_timeout_ms", "connect_callback_grace_period_ms",
      "tls_enabled", "buffer_pooling_enabled", "tcp_nodelay_enabled"]
    decide
  · cases item <;> first | rfl | exact absurd mem (by decide)
  · simp only [Fits.top, List.mem_cons, List.not_mem_nil, or_false] at mem
    rcases mem with rfl | rfl | rfl | rfl | rfl
    · exact writable_time _
    · exact writable_time _
    · exact writable_switch _
    · exact writable_switch _
    · exact writable_switch _

theorem Fits.plain_below : Plain fits.given.given Item.inner fits.below := by
  refine ⟨?_, fun item mem => ?_, fun e mem => ?_⟩
  · show List.Nodup ["base_ms", "max_ms", "multiplier", "jitter_factor"]
    decide
  · cases item <;> first | rfl | exact absurd mem (by decide)
  · simp only [Fits.below, List.mem_cons, List.not_mem_nil, or_false] at mem
    rcases mem with rfl | rfl | rfl | rfl
    · exact writable_time _
    · exact writable_time _
    · exact writable_factor (.decimal s.reconnect.multiplier)
    · exact writable_factor (.decimal s.reconnect.jitter)

include fits

/-- The text of settings is read as these settings. -/
theorem Fits.text?_read : ∃ text, s.text? = some text ∧ ofText? text.toList = some s := by
  refine ⟨_, by rw [text?, fits.statements?_eq, Option.map_some], ?_⟩
  have header : "reconnect" ∉ fits.top.map Prod.fst := by
    show "reconnect" ∉ ["socket_connect_timeout_ms", "connect_callback_grace_period_ms",
      "tls_enabled", "buffer_pooling_enabled", "tcp_nodelay_enabled"]
    decide
  have below : Plain fits.given.given Item.inner ((some fits.below).getD []) := fits.plain_below
  have read := ofText?_of_spells (spells_document fits.plain_top header below)
  rw [fits.over_given] at read
  exact read

end Fits

/-! ## Saving and loading -/

theorem save_of_text {s : Settings} {text : String} (made : s.text? = some text) (d : Directory)
    (path : String) :
    save s d path = (d.write? path text.toUTF8).elim (.error .unwritable) .ok := by
  simp only [save, made]
  cases d.write? path text.toUTF8 <;> rfl

/-- Settings with a time that is too large are refused, before a text is made of them, and no others
are. Of others there is a text that is read as these settings, and saving fails only for want of a
place to write it to. What was saved is loaded as it was, and no other file has changed. -/
theorem saved_settings_kept (s : Settings) (d : Directory) (path : String) :
    (save s d path = .error .unrepresentable ↔ s.Oversized) ∧
    (s.Oversized → s.text? = none) ∧
    (¬ s.Oversized → ∃ text, s.text? = some text ∧ ofText? text.toList = some s ∧
      save s d path = (d.write? path text.toUTF8).elim (.error .unwritable) .ok) ∧
    ∀ e, save s d path = .ok e → load e path = .ok s ∧
      ∀ other, Directory.fileName? other ≠ Directory.fileName? path →
        e.read? other = d.read? other := by
  by_cases large : s.Oversized
  · have untold := (text?_eq_none_iff s).mpr large
    have refused : save s d path = .error .unrepresentable := by simp only [save, untold]
    refine ⟨⟨fun _ => large, fun _ => refused⟩, fun _ => untold,
      fun small => absurd large small, ?_⟩
    intro e saved
    rw [refused] at saved
    cases saved
  · obtain ⟨text, made, read⟩ := (fits_of_not_oversized large).text?_read
    have saving := save_of_text made d path
    refine ⟨⟨fun refused => ?_, fun h => absurd h large⟩, fun h => absurd h large,
      fun _ => ⟨text, made, read, saving⟩, fun e saved => ?_⟩
    · rw [saving] at refused
      cases written : d.write? path text.toUTF8 with
      | none => rw [written] at refused; cases refused
      | some e => rw [written] at refused; cases refused
    · rw [saving] at saved
      cases written : d.write? path text.toUTF8 with
      | none => rw [written] at saved; cases saved
      | some e' =>
        rw [written] at saved
        cases saved
        exact ⟨load_written written read, fun other differ =>
          Directory.read?_of_write?_other written differ⟩

/-- The largest time that can be written, a zero below zero and what is not a number are kept; one
millisecond more is refused. -/
theorem kept_at_the_edge :
    (∃ s : Settings, s.reconnect.base = 9223372036854775807 ∧
      s.reconnect.multiplier = .zero true ∧ s.reconnect.jitter = .nan ∧
      ∃ e, save s {} "link.toml" = .ok e ∧ load e "link.toml" = .ok s) ∧
    save { reconnect := { cap := 9223372036854775808 } } {} "link.toml" =
      .error .unrepresentable := by
  refine ⟨?_, (saved_settings_kept _ {} "link.toml").1.mpr (by decide +kernel)⟩
  let s : Settings :=
    { reconnect := { base := 9223372036854775807, multiplier := .zero true, jitter := .nan } }
  have kept := saved_settings_kept s {} "link.toml"
  obtain ⟨text, -, -, saving⟩ := kept.2.2.1 (by decide +kernel)
  have name : Directory.fileName? "link.toml" = some "link.toml" := by decide +kernel
  rw [Directory.write?, name, Option.map_some] at saving
  exact ⟨s, rfl, rfl, rfl, _, saving, (kept.2.2.2 _ saving).1⟩

end NodeLink.Settings
