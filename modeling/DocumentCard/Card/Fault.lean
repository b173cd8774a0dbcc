import DocumentCard.Pdf.Fault
set_option autoImplicit false

/-!
# Why a card cannot be made or opened
-/

namespace DocumentCard.Card

/-- Why a card cannot be made or opened. -/
inductive Fault where
  /-- the request lacks something that the card needs -/
  | validation (text : String)
  /-- a PDF file cannot be read -/
  | pdf (fault : Pdf.Fault)
  /-- a card is not built as it should be -/
  | malformed (text : String)
  /-- the card cannot be written -/
  | io (text : String)
  deriving DecidableEq, Repr, Inhabited

/-- The fault in words. -/
def Fault.message : Fault → String
  | .validation text => text
  | .pdf fault => "PDF error: " ++ fault.message
  | .malformed text => "Malformed card: " ++ text
  | .io text => "IO error: " ++ text

end DocumentCard.Card
