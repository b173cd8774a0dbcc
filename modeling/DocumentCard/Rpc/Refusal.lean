set_option autoImplicit false

/-!
# Why a call cannot be made at all
-/

namespace DocumentCard.Rpc

/-- Why a call cannot be made at all. -/
inductive Refusal where
  | unknownMethod (name : String)
  | badArguments (detail : String)
  | badRequest (detail : String)
  | internal (detail : String)
  deriving DecidableEq, Repr, Inhabited

namespace Refusal

/-- The refusal in words. -/
def message : Refusal → String
  | .unknownMethod name => "rpc: can't find method " ++ name
  | .badArguments detail => "rpc: invalid params: " ++ detail
  | .badRequest detail => "rpc: invalid request: " ++ detail
  | .internal detail => "Internal error: " ++ detail

/-- The kind of the refusal, as a code. -/
def code : Refusal → String
  | .unknownMethod _ => "METHOD_NOT_FOUND"
  | .badArguments _ => "INVALID_PARAMS"
  | .badRequest _ => "INVALID_REQUEST"
  | .internal _ => "INTERNAL_ERROR"

end Refusal

end DocumentCard.Rpc
