import NodeLink.Backoff

/-!
# Settings

The settings of a link are nine values: two timeouts, three switches and the
four parameters of the reconnect backoff. The safeguard time, after which an
attempt is given up even if the connector stays silent, is the sum of the two
timeouts; it is a natural number, so the sum is exact.
-/

set_option autoImplicit false

namespace NodeLink

open Text (Layout)
open Number (Binary64)

/-- The parameters of the reconnect backoff. -/
structure Reconnect where
  base : UInt64 := 32
  cap : UInt64 := 4096
  /-- The factor from one attempt to the next. -/
  multiplier : Binary64 := 2
  /-- The random part, as a fraction. -/
  jitter : Binary64 := .zero false
deriving DecidableEq

/-- The settings of a link. -/
structure Settings where
  /-- Milliseconds the connector has for the socket. -/
  socketTimeout : UInt64 := 1000
  /-- Milliseconds of grace on top, before an attempt is given up. -/
  gracePeriod : UInt64 := 2000
  /-- Whether channels are wrapped in TLS. -/
  tls : Bool := false
  pooling : Bool := true
  /-- Whether small writes are sent at once. -/
  noDelay : Bool := true
  reconnect : Reconnect := {}
deriving DecidableEq

/-- The growth that the parameters describe, with the jitter moved into its range. -/
def Reconnect.growth (r : Reconnect) : Exponential :=
  (Exponential.new r.base r.cap r.multiplier).withJitter r.jitter

/-- The parameters as a printed record. -/
def Reconnect.layout (r : Reconnect) : Layout :=
  .fields "ReconnectDelayConfig" [
    ("base_ms", .number r.base.toNat),
    ("max_ms", .number r.cap.toNat),
    ("multiplier", doubleLayout r.multiplier),
    ("jitter_factor", doubleLayout r.jitter)]

namespace Settings

/-- The time in milliseconds after which a silent attempt is given up. -/
def safeguard (s : Settings) : Nat := s.socketTimeout.toNat + s.gracePeriod.toNat

/-- The settings as a printed record. -/
def layout (s : Settings) : Layout :=
  .fields "EndpointConfig" [
    ("socket_connect_timeout_ms", .number s.socketTimeout.toNat),
    ("connect_callback_grace_period_ms", .number s.gracePeriod.toNat),
    ("tls_enabled", .bool s.tls),
    ("buffer_pooling_enabled", .bool s.pooling),
    ("tcp_nodelay_enabled", .bool s.noDelay),
    ("reconnect", s.reconnect.layout)]

end Settings

end NodeLink
