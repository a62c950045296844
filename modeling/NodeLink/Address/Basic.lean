import NodeLink.Text.Layout

/-!
# The address of a node

A node is named by a host and a port. The host is any text: a name, a numeric
address, even nothing. It is not resolved or checked here.
-/

set_option autoImplicit false

namespace NodeLink

open Text (Layout)

/-- Host and port of a node. -/
structure Address where
  /-- The host, as it was given. -/
  host : String
  port : UInt16
deriving DecidableEq

namespace Address

/-- The host, a colon and the port. -/
def label (a : Address) : String := a.host ++ ":" ++ toString a.port.toNat

/-- An address as a printed record. -/
def layout (a : Address) : Layout :=
  .fields "EndpointAddress" [("host", .string a.host), ("port", .number a.port.toNat)]

end Address

end NodeLink
