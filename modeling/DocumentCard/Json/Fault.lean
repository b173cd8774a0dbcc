set_option autoImplicit false

/-!
# What can be wrong with a JSON text
-/

namespace DocumentCard.Json

/-- Why a text is not JSON. -/
inductive SyntaxFault where
  /-- the text ends where a value should stand -/
  | endInValue
  /-- the text ends inside an array -/
  | endInList
  /-- the text ends inside an object -/
  | endInObject
  /-- the text ends inside a string -/
  | endInString
  /-- no value starts so -/
  | expectedValue
  /-- a broken `true`, `false` or `null` -/
  | expectedWord
  | expectedColon
  /-- two items of an array without a comma -/
  | expectedListEnd
  /-- two fields of an object without a comma -/
  | expectedObjectEnd
  | keyNotString
  | trailingComma
  /-- something stands after the value -/
  | trailingText
  | invalidNumber
  /-- a number beyond the greatest double -/
  | numberOutOfRange
  | invalidEscape
  /-- a first surrogate without a second one -/
  | unfinishedPair
  /-- a second surrogate where none belongs -/
  | loneSurrogate
  /-- a control character inside a string -/
  | controlCharacter
  /-- a string that is not UTF-8 -/
  | invalidText
  /-- too many brackets inside each other -/
  | tooDeep
  deriving DecidableEq, Repr, Inhabited

/-- The fault in words. -/
def SyntaxFault.message : SyntaxFault → String
  | .endInValue => "EOF while parsing a value"
  | .endInList => "EOF while parsing a list"
  | .endInObject => "EOF while parsing an object"
  | .endInString => "EOF while parsing a string"
  | .expectedValue => "expected value"
  | .expectedWord => "expected ident"
  | .expectedColon => "expected `:`"
  | .expectedListEnd => "expected `,` or `]`"
  | .expectedObjectEnd => "expected `,` or `\x7d`"
  | .keyNotString => "key must be a string"
  | .trailingComma => "trailing comma"
  | .trailingText => "trailing characters"
  | .invalidNumber => "invalid number"
  | .numberOutOfRange => "number out of range"
  | .invalidEscape => "invalid escape"
  | .unfinishedPair => "unexpected end of hex escape"
  | .loneSurrogate => "lone leading surrogate in hex escape"
  | .controlCharacter => "control character (\\u0000-\\u001F) found while parsing a string"
  | .invalidText => "invalid unicode code point"
  | .tooDeep => "recursion limit exceeded"

end DocumentCard.Json
