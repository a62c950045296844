import NodeLink.Address.Basic

/-!
# Who a link is

The identity of a link never changes: the node it goes to, the bucket it serves,
the credential it presents, and whether it is *transient*. A transient link
serves one exchange and is torn down by its owner; it never reconnects.

The password is never printed.
-/

set_option autoImplicit false

namespace NodeLink

open Text (Layout)

/-- A user name and its password. -/
structure Credential where
  username : String
  /-- The secret; kept out of every printed form. -/
  password : String
deriving DecidableEq

/-- A credential as a printed record: the place of the password is marked, not filled. -/
def Credential.layout (c : Credential) : Layout :=
  .fields "Credential" [("username", .string c.username), ("password", .string "<redacted>")]

/-- The fixed properties of a link. -/
structure Identity where
  address : Address
  bucket : String
  credential : Credential
  /-- Serves one exchange and never reconnects. -/
  transient : Bool

/-- An identity as a printed record. -/
def Identity.layout (i : Identity) : Layout :=
  .fields "EndpointIdentity" [
    ("address", i.address.layout),
    ("bucket", .string i.bucket),
    ("credential", i.credential.layout),
    ("transient", .bool i.transient)]

/-- Two credentials with the same user print alike, whatever their passwords. -/
theorem Credential.layout_eq (c : Credential) (password : String) :
    ({ c with password := password } : Credential).layout = c.layout := rfl

end NodeLink
