import NodeLink.Number.Digits
import NodeLink.Settings.File

/-!
# Settings from the surroundings

A program's surroundings give settings in two layers. The lower one is a file, whose
path a variable may name; a file that cannot be loaded counts as no file. Above it
lie five variables, one for each field that may be overridden. A variable that is
unset, is not Unicode or does not spell a value of its field leaves the field alone.
The backoff has no variables.
-/

set_option autoImplicit false

namespace NodeLink

/-- The variables of the surroundings with their bytes. -/
structure Variables where
  /-- Names and values. Of two entries of one name the first counts. -/
  entries : List (String × ByteArray) := []

namespace Variables

/-- The text of a variable, if it is set and is text. -/
def text? (v : Variables) (name : String) : Option String :=
  (v.entries.lookup name).bind String.fromUTF8?

end Variables

namespace Settings

/-- A word that a text spells: perhaps a plus, then digits. -/
def spelledWord? (s : String) : Option UInt64 :=
  let digits := match s.toList with
    | '+' :: rest => rest
    | cs => cs
  ((Number.natural? 10 digits).filter (· < UInt64.size)).map UInt64.ofNat

/-- A switch that a text spells. -/
def spelledSwitch? (s : String) : Option Bool :=
  if s = "true" then some true else if s = "false" then some false else none

/-- The value that a variable spells, or else the given one. -/
def overridden {α : Type} (spelled? : String → Option α) (v : Variables) (name : String) (a : α) :
    α :=
  ((v.text? name).bind spelled?).getD a

/-- The settings with the variables laid over them. -/
def override (s : Settings) (v : Variables) : Settings := { s with
  socketTimeout := overridden spelledWord? v "ENDPOINT_SOCKET_CONNECT_TIMEOUT_MS" s.socketTimeout
  gracePeriod := overridden spelledWord? v "ENDPOINT_CONNECT_CALLBACK_GRACE_PERIOD_MS" s.gracePeriod
  tls := overridden spelledSwitch? v "ENDPOINT_TLS_ENABLED" s.tls
  noDelay := overridden spelledSwitch? v "ENDPOINT_TCP_NODELAY" s.noDelay
  pooling := overridden spelledSwitch? v "ENDPOINT_BUFFER_POOLING" s.pooling }

/-- The path of the file of settings. -/
def filePath (v : Variables) : String :=
  (v.text? "ENDPOINT_CONFIG_PATH").getD "endpoint_config.toml"

/-- The settings that the surroundings give. -/
def ofSurroundings (d : Directory) (v : Variables) : Settings :=
  let base := match load d (filePath v) with
    | .ok s => s
    | .error _ => {}
  base.override v

end Settings

end NodeLink
