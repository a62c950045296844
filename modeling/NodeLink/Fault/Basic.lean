import NodeLink.Text.Layout

/-!
# Faults

Everything that can go wrong on a link falls into one of eight kinds. A kind is
*terminal* when it settles the question for the caller who waits for a connect:
the node refused, the handshake or the credential failed, the channel closed or
the time ran out. The other kinds either answer a request or are unclassified.

Six kinds carry the text of what happened. The text never decides anything.
-/

set_option autoImplicit false

namespace NodeLink

open Text (Layout)

inductive Fault
  | authentication (text : String)
  | tlsHandshake (text : String)
  /-- The channel closed while it was being set up. -/
  | channelClosed (text : String)
  /-- The time for a connect ran out. -/
  | connectTimeout (text : String)
  | connectRefused (text : String)
  /-- A request was sent while the link was not connected. -/
  | notConnected
  /-- The event sink had no room for a redirected request. -/
  | sinkFull
  | uncategorized (text : String)
deriving DecidableEq

namespace Fault

/-- The kinds that end the wait of whoever asked for the connect. -/
def isTerminal : Fault → Bool
  | authentication _ | tlsHandshake _ | channelClosed _ => true
  | connectTimeout _ | connectRefused _ => true
  | notConnected | sinkFull | uncategorized _ => false

/-- The short label of the kind. -/
def kind : Fault → String
  | authentication _ => "authentication"
  | tlsHandshake _ => "tls_handshake"
  | channelClosed _ => "channel_closed"
  | connectTimeout _ => "connect_timeout"
  | connectRefused _ => "connect_refused"
  | notConnected => "not_connected"
  | sinkFull => "sink_full"
  | uncategorized _ => "uncategorized"

/-- The sentence shown to people. -/
def message : Fault → String
  | authentication text => "authentication failure: " ++ text
  | tlsHandshake text => "tls handshake failure: " ++ text
  | channelClosed text => "channel closed: " ++ text
  | connectTimeout text => "connect timeout: " ++ text
  | connectRefused text => "connect refused: " ++ text
  | notConnected => "endpoint is not connected"
  | sinkFull => "event sink is full"
  | uncategorized text => "connect failure: " ++ text

/-- A fault as a printed record. -/
def layout : Fault → Layout
  | authentication text => .items "Authentication" [.string text]
  | tlsHandshake text => .items "TlsHandshake" [.string text]
  | channelClosed text => .items "ChannelClosed" [.string text]
  | connectTimeout text => .items "ConnectTimeout" [.string text]
  | connectRefused text => .items "ConnectRefused" [.string text]
  | notConnected => .word "NotConnected"
  | sinkFull => .word "SinkFull"
  | uncategorized text => .items "Uncategorized" [.string text]

/-- The fault of a kind given by its label, with a text where the kind carries one. -/
def ofKind? (kind text : String) : Option Fault :=
  [authentication text, tlsHandshake text, channelClosed text, connectTimeout text,
    connectRefused text, notConnected, sinkFull, uncategorized text].find? (·.kind == kind)

/-- What an attempt ends with when the connector stays silent for the whole safeguard time. -/
def safeguardTimeout : Fault :=
  connectTimeout "connect callback did not return, hit safeguarding timeout"

/-- What a waiting party learns when nobody is left who could answer it. -/
def dropped : Fault := uncategorized "notification dropped before completion"

/-- What a redirected request is told when the sink has no reader any more. -/
def sinkClosed : Fault := uncategorized "event sink is closed"

end Fault

end NodeLink
