import NodeLink.Settings.File

/-!
# Loading settings

A file is loaded by the text that it holds, and settings are made of a table field by field. So a
table makes settings just when each of its known names has an entry of the type of its field, or
none at all (`ofTable?_eq_some_iff`, `ofEntries?_eq_some_iff`).
-/

set_option autoImplicit false

namespace NodeLink

open Number (Binary64)
open Toml (Node Table Value)

/-- Bytes are a text just when they are its bytes. -/
theorem fromUTF8?_eq_some_iff {bytes : ByteArray} {text : String} :
    String.fromUTF8? bytes = some text ↔ bytes = text.toUTF8 := by
  rw [String.fromUTF8?]
  constructor
  · intro decoded
    split at decoded
    next valid =>
      cases decoded
      rfl
    next => cases decoded
  · rintro rfl
    exact dif_pos text.isValidUTF8

/-! ## Fields -/

theorem Reconnect.ofEntries?_eq_some_iff {base cap multiplier jitter : Option Node}
    {r : Reconnect} :
    ofEntries? base cap multiplier jitter = some r ↔
      Settings.orDefault Settings.word? 32 base = some r.base ∧
      Settings.orDefault Settings.word? 4096 cap = some r.cap ∧
      Settings.orDefault Settings.factor? 2 multiplier = some r.multiplier ∧
      Settings.orDefault Settings.factor? (.zero false) jitter = some r.jitter := by
  obtain ⟨b, c, m, j⟩ := r
  simp only [ofEntries?, Option.bind_eq_bind, Option.bind_eq_some_iff, Option.pure_def,
    Option.some.injEq, Reconnect.mk.injEq]
  constructor
  · rintro ⟨_, hb, _, hc, _, hm, _, hj, rfl, rfl, rfl, rfl⟩
    exact ⟨hb, hc, hm, hj⟩
  · rintro ⟨hb, hc, hm, hj⟩
    exact ⟨_, hb, _, hc, _, hm, _, hj, rfl, rfl, rfl, rfl⟩

namespace Settings

theorem ofTable?_eq_some_iff {t : Table} {s : Settings} :
    ofTable? t = some s ↔
      orDefault word? 1000 (t.get? "socket_connect_timeout_ms") = some s.socketTimeout ∧
      orDefault word? 2000 (t.get? "connect_callback_grace_period_ms") = some s.gracePeriod ∧
      orDefault switch? false (t.get? "tls_enabled") = some s.tls ∧
      orDefault switch? true (t.get? "buffer_pooling_enabled") = some s.pooling ∧
      orDefault switch? true (t.get? "tcp_nodelay_enabled") = some s.noDelay ∧
      orDefault Reconnect.ofNode? {} (t.get? "reconnect") = some s.reconnect := by
  obtain ⟨st, gp, tls, pool, delay, r⟩ := s
  simp only [ofTable?, Option.bind_eq_bind, Option.bind_eq_some_iff, Option.pure_def,
    Option.some.injEq, Settings.mk.injEq]
  constructor
  · rintro ⟨_, hst, _, hgp, _, htls, _, hpool, _, hdelay, _, hr, rfl, rfl, rfl, rfl, rfl, rfl⟩
    exact ⟨hst, hgp, htls, hpool, hdelay, hr⟩
  · rintro ⟨hst, hgp, htls, hpool, hdelay, hr⟩
    exact ⟨_, hst, _, hgp, _, htls, _, hpool, _, hdelay, _, hr, rfl, rfl, rfl, rfl, rfl, rfl⟩

/-! ## Files -/

variable {d e : Directory} {path text : String} {s : Settings}

theorem load_of_read (file : d.read? path = some text.toUTF8)
    (read : ofText? text.toList = some s) : load d path = .ok s := by
  rw [load, file, Option.bind_some, fromUTF8?_eq_some_iff.mpr rfl]
  simp only [read]

theorem load_of_malformed (file : d.read? path = some text.toUTF8)
    (read : ofText? text.toList = none) : load d path = .error .malformed := by
  rw [load, file, Option.bind_some, fromUTF8?_eq_some_iff.mpr rfl]
  simp only [read]

/-- A file that was written is read as the text that it holds. -/
theorem load_written (written : d.write? path text.toUTF8 = some e)
    (read : ofText? text.toList = some s) : load e path = .ok s :=
  load_of_read (Directory.read?_of_write? written) read

end Settings

end NodeLink
