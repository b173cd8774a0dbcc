import DocumentCard.Card.Fault
set_option autoImplicit false

/-!
# Why a call on a session fails
-/

namespace DocumentCard.Session

/-- A call that does not fit the stage of its session. -/
inductive StageFault where
  | alreadyBuilt
  | notBuilt
  | alreadyParsed
  | notParsed
  deriving DecidableEq, Repr, Inhabited

/-- The stage fault in words. -/
def StageFault.message : StageFault → String
  | .alreadyBuilt => "DDC already built"
  | .notBuilt => "DDC not built"
  | .alreadyParsed => "DDC already parsed"
  | .notParsed => "DDC not parsed"

/-- Why a call on a session fails. -/
inductive Fault where
  /-- no live session has this id -/
  | unknownId
  | stage (fault : StageFault)
  /-- every signature has been handed out -/
  | noMoreSignatures
  /-- the scanner did not find the data clean -/
  | notClean (detail : String)
  /-- the scan could not be made -/
  | notScanned (detail : String)
  | render (detail : String)
  | parse (detail : String)
  | validation (detail : String)
  | internal (detail : String)
  deriving DecidableEq, Repr, Inhabited

namespace Fault

/-- The fault in words, as a caller sees it. -/
def message : Fault → String
  | .unknownId => "unknown id"
  | .stage fault => fault.message
  | .noMoreSignatures => "no more signatures"
  | .notClean detail => "unexpected response from clamd '" ++ detail ++ "'"
  | .notScanned detail => "antivirus scan failed: " ++ detail
  | .render detail => detail
  | .parse detail => detail
  | .validation detail => detail
  | .internal detail => "Internal error: " ++ detail

/-- The kind of the fault, as a code. -/
def code : Fault → String
  | .unknownId => "SESSION_NOT_FOUND"
  | .stage _ => "INVALID_STATE"
  | .noMoreSignatures => "SIGNATURES_EXHAUSTED"
  | .notClean _ => "SCAN_REJECTED"
  | .notScanned _ => "SCAN_FAILED"
  | .render _ => "RENDER_FAILED"
  | .parse _ => "PARSE_FAILED"
  | .validation _ => "VALIDATION_FAILED"
  | .internal _ => "INTERNAL_ERROR"

/-- A card that could not be made; what the request lacks stays a matter of validation. -/
def ofRender : Card.Fault → Fault
  | .validation text => .validation text
  | fault => .render fault.message

/-- A card that could not be opened. -/
def ofExtract (fault : Card.Fault) : Fault := .parse fault.message

/-- A part of no bytes cannot be asked for. -/
def partSize : Fault := .validation "MaxPartSize must be positive"

end Fault

end DocumentCard.Session
