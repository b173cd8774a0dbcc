import DocumentCard.Bytes
set_option autoImplicit false

/-!
# What can be wrong with a PDF file
-/

namespace DocumentCard.Pdf

/-- What is wrong with a cross-reference section. -/
inductive XrefFault where
  /-- there is no section, or none that can be read, at its place -/
  | unreadable
  /-- the place of the last section cannot be told, or lies outside the file -/
  | start
  /-- the place of an earlier section lies outside the file -/
  | earlier
  /-- the place of a section's stream lies outside the file -/
  | stream
  deriving DecidableEq, Repr, Inhabited

/-- Why a file, or something in it, cannot be read. -/
inductive Fault where
  | header
  | trailer
  | xref (fault : XrefFault)
  /-- a reference leads to no object -/
  | objectMissing
  /-- a dictionary lacks a key -/
  | keyMissing
  /-- an object is of another kind than is needed -/
  | wrongType
  /-- references lead on and on -/
  | endlessReferences
  /-- another object than the expected one stands at this place -/
  | otherObject
  /-- no object stands at this place -/
  | noObject (offset : Nat)
  /-- the place lies outside the file -/
  | outside (offset : Nat)
  /-- data end too early -/
  | cutShort
  /-- a row of predicted data starts with an unknown number -/
  | unknownPredictor (n : Nat)
  /-- a row of predicted data is longer than any memory; whoever reads it breaks down -/
  | rowTooLong
  deriving DecidableEq, Repr, Inhabited

/-- A cross-reference fault in words. -/
def XrefFault.message : XrefFault → String
  | .unreadable => "could not parse xref"
  | .start => "invalid start value"
  | .earlier => "invalid start value in Prev field"
  | .stream => "invalid stream start value"

/-- The fault in words. -/
def Fault.message : Fault → String
  | .header => "Invalid file header"
  | .trailer => "Invalid file trailer"
  | .xref fault => "Invalid cross-reference table (" ++ fault.message ++ ")"
  | .objectMissing => "A required object was not found"
  | .keyMissing => "A required dictionary key was not found"
  | .wrongType => "An object does not have the expected type"
  | .endlessReferences => "Could not dereference an object; possible reference loop"
  | .otherObject => "The object id found did not match the requested object"
  | .noObject offset => "Invalid object at byte " ++ decimalText offset
  | .outside offset => "Invalid file offset: " ++ decimalText offset
  | .cutShort => "failed to fill whole buffer"
  | .unknownPredictor n => "invalid PNG filter type (" ++ decimalText n ++ ")"
  | .rowTooLong => "capacity overflow"

end DocumentCard.Pdf
