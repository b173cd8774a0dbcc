import DocumentCard.Json.Number
import DocumentCard.Text.Utf16
set_option autoImplicit false

/-!
# Reading JSON texts

A text is read from the front; each reader returns what it has read and the rest.  Values inside
each other are limited in depth, which is what the reader's recursion runs on.  A value that nobody
will look at is passed over by a machine of its own that keeps the open brackets on a stack, knows no
limit of depth, and does not look at the size of numbers or into strings.
-/

namespace DocumentCard.Json

/-- A space, tab or line end. -/
def isSpace (b : UInt8) : Bool := b = 0x20 || b = 0x0A || b = 0x09 || b = 0x0D

/-- A text without its leading white space. -/
def skipSpace (bytes : Bytes) : Bytes := bytes.dropWhile isSpace

/-- The rest of a word after its first letter. -/
def word (letters : Bytes) (bytes : Bytes) : Except SyntaxFault Bytes :=
  match letters, bytes with
  | [], rest => .ok rest
  | _ :: _, [] => .error .endInValue
  | l :: ls, b :: rest => if l = b then word ls rest else .error .expectedWord

/-! ## Strings -/

/-- Four hexadecimal digits as a number. -/
def fourDigits (bytes : Bytes) : Except SyntaxFault (Nat × Bytes) :=
  match bytes with
  | a :: b :: c :: d :: rest =>
      match Bytes.hexValue? a, Bytes.hexValue? b, Bytes.hexValue? c, Bytes.hexValue? d with
      | some a, some b, some c, some d => .ok (((a * 16 + b) * 16 + c) * 16 + d, rest)
      | _, _, _, _ => .error .invalidEscape
  | _ => .error .endInString

/-- The letter of an escape that stands for one byte. -/
def escapeLetter? (b : UInt8) : Option UInt8 :=
  if b = 0x22 ∨ b = 0x5C ∨ b = 0x2F then some b
  else if b = 0x62 then some 0x08
  else if b = 0x66 then some 0x0C
  else if b = 0x6E then some 0x0A
  else if b = 0x72 then some 0x0D
  else if b = 0x74 then some 0x09
  else none

/-- Reads a character given by its number, after the letter `u`. -/
def numbered (bytes : Bytes) : Except SyntaxFault (Char × Bytes) := do
  let (n, rest) ← fourDigits bytes
  if Text.Utf16.isLow n then .error .loneSurrogate
  else if !Text.Utf16.isHigh n then .ok (Char.ofNat n, rest)
  else
    match rest with
    | [] => .error .endInString
    | 0x5C :: [] => .error .endInString
    | 0x5C :: 0x75 :: rest =>
        let (low, rest) ← fourDigits rest
        if Text.Utf16.isLow low then
          .ok (Char.ofNat (0x10000 + (n - 0xD800) * 0x400 + (low - 0xDC00)), rest)
        else .error .loneSurrogate
    | _ => .error .unfinishedPair

/-- Reads a string after its opening quotation mark; `seen` holds its bytes so far, last first. -/
def stringFrom (seen : Bytes) : Nat → Bytes → Except SyntaxFault (String × Bytes)
  | 0, _ => .error .endInString
  | _ + 1, [] => .error .endInString
  | fuel + 1, b :: rest =>
      if b = 0x22 then
        match Text.Utf8.decode? seen.reverse with
        | some s => .ok (s, rest)
        | none => .error .invalidText
      else if b = 0x5C then
        match rest with
        | [] => .error .endInString
        | 0x75 :: rest =>
            match numbered rest with
            | .error e => .error e
            | .ok (c, rest) =>
                stringFrom ((Text.Utf8.encode (String.singleton c)).reverse ++ seen) fuel rest
        | l :: rest =>
            match escapeLetter? l with
            | some byte => stringFrom (byte :: seen) fuel rest
            | none => .error .invalidEscape
      else if b.toNat < 0x20 then .error .controlCharacter
      else stringFrom (b :: seen) fuel rest

/-- Passes over a string after its opening quotation mark. -/
def skipString : Nat → Bytes → Except SyntaxFault Bytes
  | 0, _ => .error .endInString
  | _ + 1, [] => .error .endInString
  | fuel + 1, b :: rest =>
      if b = 0x22 then .ok rest
      else if b = 0x5C then
        match rest with
        | [] => .error .endInString
        | 0x75 :: rest =>
            match fourDigits rest with
            | .error e => .error e
            | .ok (_, rest) => skipString fuel rest
        | l :: rest =>
            if (escapeLetter? l).isSome then skipString fuel rest else .error .invalidEscape
      else if b.toNat < 0x20 then .error .controlCharacter
      else skipString fuel rest

/-! ## Arrays and objects -/

/-- What comes next in an array or object. -/
inductive Next where
  /-- it is closed, and this follows -/
  | closed (rest : Bytes)
  /-- an item, or a key behind its quotation mark, starts here -/
  | more (rest : Bytes)

/-- The next item of an array. -/
def nextItem (first : Bool) (bytes : Bytes) : Except SyntaxFault Next :=
  match skipSpace bytes with
  | [] => .error .endInList
  | b :: rest =>
      if b = 0x5D then .ok (.closed rest)
      else if first then .ok (.more (b :: rest))
      else if b = 0x2C then
        match skipSpace rest with
        | [] => .error .endInValue
        | c :: rest => if c = 0x5D then .error .trailingComma else .ok (.more (c :: rest))
      else .error .expectedListEnd

/-- The next key of an object. -/
def nextKey (first : Bool) (bytes : Bytes) : Except SyntaxFault Next :=
  let key (b : UInt8) (rest : Bytes) : Except SyntaxFault Next :=
    if b = 0x22 then .ok (.more rest) else .error .keyNotString
  match skipSpace bytes with
  | [] => .error .endInObject
  | b :: rest =>
      if b = 0x7D then .ok (.closed rest)
      else if first then key b rest
      else if b = 0x2C then
        match skipSpace rest with
        | [] => .error .endInValue
        | c :: rest => if c = 0x7D then .error .trailingComma else key c rest
      else .error .expectedObjectEnd

/-- The colon behind a key. -/
def colon (bytes : Bytes) : Except SyntaxFault Bytes :=
  match skipSpace bytes with
  | [] => .error .endInObject
  | b :: rest => if b = 0x3A then .ok rest else .error .expectedColon

/-- The items of an array after its bracket, or after an item; `seen` holds them last first. -/
def items (item : Bytes → Except SyntaxFault (Value × Bytes)) (seen : List Value) :
    Nat → Bytes → Except SyntaxFault (Value × Bytes)
  | 0, _ => .error .endInList
  | fuel + 1, bytes =>
      match nextItem seen.isEmpty bytes with
      | .error e => .error e
      | .ok (.closed rest) => .ok (.array seen.reverse, rest)
      | .ok (.more rest) =>
          match item rest with
          | .error e => .error e
          | .ok (v, rest) => items item (v :: seen) fuel rest

/-- The fields of an object after its bracket, or after a field. -/
def fields (limit : Nat) (item : Bytes → Except SyntaxFault (Value × Bytes))
    (first : Bool) (seen : List (String × Value)) :
    Nat → Bytes → Except SyntaxFault (Value × Bytes)
  | 0, _ => .error .endInObject
  | fuel + 1, bytes =>
      match nextKey first bytes with
      | .error e => .error e
      | .ok (.closed rest) => .ok (.object seen, rest)
      | .ok (.more rest) =>
          let field : Except SyntaxFault (String × Value × Bytes) := do
            let (key, rest) ← stringFrom [] limit rest
            let rest ← colon rest
            let (v, rest) ← item rest
            return (key, v, rest)
          match field with
          | .error e => .error e
          | .ok (key, v, rest) =>
              fields limit item false (Value.insertField key v seen) fuel rest

/-! ## Values -/

/-- Reads a value; brackets may stand `depth` deep inside each other, and `limit` bounds the steps
at each depth. -/
def value (limit depth : Nat) (bytes : Bytes) : Except SyntaxFault (Value × Bytes) :=
  match skipSpace bytes with
  | [] => .error .endInValue
  | b :: rest =>
      if b = 0x6E then return (.null, ← word (Bytes.ascii "ull") rest)
      else if b = 0x74 then return (.bool true, ← word (Bytes.ascii "rue") rest)
      else if b = 0x66 then return (.bool false, ← word (Bytes.ascii "alse") rest)
      else if b = 0x2D then Number.read true rest
      else if Bytes.isDigit b then Number.read false (b :: rest)
      else if b = 0x22 then
        match stringFrom [] limit rest with
        | .error e => .error e
        | .ok (s, rest) => .ok (.string s, rest)
      else if b = 0x5B then
        match depth with
        | 0 => .error .tooDeep
        | d + 1 => items (value limit d) [] limit rest
      else if b = 0x7B then
        match depth with
        | 0 => .error .tooDeep
        | d + 1 => fields limit (value limit d) true [] limit rest
      else .error .expectedValue

/-- How deep brackets may stand inside each other. -/
def depthLimit : Nat := 127

/-- Nothing but white space may follow a text's value. -/
def finish (rest : Bytes) : Except SyntaxFault Unit :=
  if (skipSpace rest).isEmpty then .ok () else .error .trailingText

/-- Reads a whole text. -/
def parse (bytes : Bytes) : Except SyntaxFault Value := do
  let (v, rest) ← value (bytes.length + 1) depthLimit bytes
  finish rest
  return v

/-! ## Passing over a value -/

/-- A bracket that is open. -/
inductive Bracket where
  | list
  | object

/-- Passes over what follows an item of the innermost open bracket: a comma, or closing brackets.
`full` tells whether an item stands before this place. -/
def skipEnds (full : Bool) : List Bracket → Nat → Bytes →
    Except SyntaxFault (List Bracket × Bytes)
  | [], _, rest => .ok ([], rest)
  | open_, 0, rest => .ok (open_, rest)
  | .list :: outer, fuel + 1, bytes =>
      match skipSpace bytes with
      | [] => .error .endInList
      | b :: rest =>
          if b = 0x2C ∧ full then .ok (.list :: outer, rest)
          else if b = 0x5D then skipEnds true outer fuel rest
          else if full then .error .expectedListEnd
          else .ok (.list :: outer, b :: rest)
  | .object :: outer, fuel + 1, bytes =>
      match skipSpace bytes with
      | [] => .error .endInObject
      | b :: rest =>
          if b = 0x2C ∧ full then .ok (.object :: outer, rest)
          else if b = 0x7D then skipEnds true outer fuel rest
          else if full then .error .expectedObjectEnd
          else .ok (.object :: outer, b :: rest)

/-- Passes over the key of the next field, if the innermost open bracket is an object. -/
def skipKey (limit : Nat) (open_ : List Bracket) (bytes : Bytes) : Except SyntaxFault Bytes :=
  match open_ with
  | .object :: _ =>
      match skipSpace bytes with
      | [] => .error .endInObject
      | b :: rest =>
          if b = 0x22 then do colon (← skipString limit rest) else .error .keyNotString
  | _ => .ok bytes

/-- Passes over a value inside the open brackets, and over what follows until all are closed. -/
def skipFrom (limit : Nat) (open_ : List Bracket) : Nat → Bytes → Except SyntaxFault Bytes
  | 0, _ => .error .endInValue
  | fuel + 1, bytes =>
      let step : Except SyntaxFault (Bool × List Bracket × Bytes) :=
        match skipSpace bytes with
        | [] => .error .endInValue
        | b :: rest =>
            if b = 0x6E then return (true, open_, ← word (Bytes.ascii "ull") rest)
            else if b = 0x74 then return (true, open_, ← word (Bytes.ascii "rue") rest)
            else if b = 0x66 then return (true, open_, ← word (Bytes.ascii "alse") rest)
            else if b = 0x2D then return (true, open_, ← Number.skip rest)
            else if Bytes.isDigit b then return (true, open_, ← Number.skip (b :: rest))
            else if b = 0x22 then return (true, open_, ← skipString limit rest)
            else if b = 0x5B then .ok (false, .list :: open_, rest)
            else if b = 0x7B then .ok (false, .object :: open_, rest)
            else .error .expectedValue
      match step with
      | .error e => .error e
      | .ok (full, open_, rest) =>
          match skipEnds full open_ limit rest with
          | .error e => .error e
          | .ok ([], rest) => .ok rest
          | .ok (open_, rest) =>
              match skipKey limit open_ rest with
              | .error e => .error e
              | .ok rest => skipFrom limit open_ fuel rest

/-- Passes over a value. -/
def skipValue (limit : Nat) (bytes : Bytes) : Except SyntaxFault Bytes :=
  skipFrom limit [] limit bytes

end DocumentCard.Json
