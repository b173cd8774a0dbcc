import DocumentCard.Antivirus.Endpoint
set_option autoImplicit false

/-!
# What a scan says

A scan ends with a verdict, or it could not be made.  The two are kept apart because a caller may
try again in the second case only; neither of `infected` and a fault lets data pass.
-/

namespace DocumentCard.Antivirus

/-- The outcome of a completed scan. -/
inductive Verdict where
  | clean
  /-- anything but the reply for clean data, as the daemon wrote it -/
  | infected (reply : String)
  deriving DecidableEq, Repr, Inhabited

/-- Why a scan could not be made. -/
inductive Fault where
  /-- no attempt to connect succeeded; `cause` is what the last one met -/
  | connect (endpoint : Endpoint) (attempts : Nat) (cause : String)
  /-- the connection broke, or the daemon did not answer in time -/
  | io (cause : String)
  /-- a chunk has more bytes than its length field can tell -/
  | chunkTooLarge (length : Nat)
  deriving DecidableEq, Repr, Inhabited

/-- The fault in words. -/
def Fault.message : Fault → String
  | .connect endpoint attempts cause =>
      "failed to connect to clamd at " ++ endpoint.text ++ " after " ++ decimalText attempts
        ++ " attempts: " ++ cause
  | .io cause => "clamd I/O error: " ++ cause
  | .chunkTooLarge length =>
      "chunk of " ++ decimalText length ++ " bytes does not fit the INSTREAM length prefix"

/-- What a scan of some data gives. -/
abbrev Scan : Type := Except Fault Verdict

end DocumentCard.Antivirus
