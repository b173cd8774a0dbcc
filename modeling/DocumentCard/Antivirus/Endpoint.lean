import DocumentCard.Bytes
set_option autoImplicit false

/-!
# Where the antivirus daemon listens
-/

namespace DocumentCard.Antivirus

/-- The kind of connection to the daemon. -/
inductive Network where
  | unix
  | tcp
  deriving DecidableEq, Repr, Inhabited

/-- Where the daemon listens: the path of a socket, or a host and a TCP port. -/
structure Endpoint where
  network : Network
  address : String
  deriving DecidableEq, Repr, Inhabited

/-- The endpoint in words. -/
def Endpoint.text (e : Endpoint) : String :=
  (match e.network with
   | .unix => "unix://"
   | .tcp => "tcp://") ++ e.address

end DocumentCard.Antivirus
