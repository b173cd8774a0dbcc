import DocumentCard.Bytes
set_option autoImplicit false

/-!
# Literal strings

Between parentheses a string is written byte by byte.  Parentheses that balance stand for
themselves; a backslash starts an escape: a letter for a control byte, up to three octal digits for
any byte, a line end for nothing at all, and anything else for itself.

There are two ways to write a string.  `escaped` leaves nothing but printable ASCII and is used on
pages; `body` changes as little as it can and is used for the objects of a file.  `read` reads
both: it starts after the opening parenthesis and stops after the one that closes it.

Main statement: what `escaped` writes is read back, whatever stands behind it
(`read_escaped`).
-/

namespace DocumentCard.Pdf.Literal

/-! ## Writing -/

/-- A byte as three octal digits. -/
def octal (b : UInt8) : List Char :=
  [digitChar (b.toNat / 64), digitChar (b.toNat / 8 % 8), digitChar (b.toNat % 8)]

/-- One byte of a string on a page. -/
def escapedByte (b : UInt8) : List Char :=
  if b = 0x28 ∨ b = 0x29 ∨ b = 0x5C then ['\\', Char.ofNat b.toNat]
  else if 0x20 ≤ b.toNat ∧ b.toNat ≤ 0x7E then [Char.ofNat b.toNat]
  else '\\' :: octal b

/-- A string in printable ASCII, without its outer parentheses. -/
def escaped (bytes : Bytes) : List Char := bytes.flatMap escapedByte

/-- For each byte of a string, last first, whether it is an opening parenthesis that is never
closed; `closing` counts the closing ones seen. -/
def neverClosed (closing : Nat) : Bytes → List Bool
  | [] => []
  | b :: before =>
      if b = 0x29 then false :: neverClosed (closing + 1) before
      else if b = 0x28 then (closing == 0) :: neverClosed (closing - 1) before
      else false :: neverClosed closing before

/-- For each byte of a string, whether it is a closing parenthesis that was never opened; `opened`
counts the open ones. -/
def neverOpened (opened : Nat) : Bytes → List Bool
  | [] => []
  | b :: rest =>
      if b = 0x28 then false :: neverOpened (opened + 1) rest
      else if b = 0x29 then (opened == 0) :: neverOpened (opened - 1) rest
      else false :: neverOpened opened rest

/-- One byte of a string in a file, given whether it is an unbalanced parenthesis. -/
def bodyByte (b : UInt8) (unbalanced : Bool) : Bytes :=
  if b = 0x5C ∨ unbalanced then [0x5C, b]
  else if b = 0x0D then [0x5C, 0x72]
  else [b]

/-- A string as it stands in a file, without its outer parentheses: the backslash, the carriage
return and parentheses that do not balance are escaped. -/
def body (bytes : Bytes) : Bytes :=
  let unbalanced :=
    List.zipWith (· || ·) (neverOpened 0 bytes) (neverClosed 0 bytes.reverse).reverse
  (List.zipWith bodyByte bytes unbalanced).flatten

/-! ## Reading -/

/-- Nested parentheses beyond this depth are refused. -/
def depthLimit : Nat := 100

/-- An octal digit's value. -/
def octalValue? (b : UInt8) : Option Nat :=
  if 0x30 ≤ b.toNat ∧ b.toNat ≤ 0x37 then some (b.toNat - 0x30) else none

/-- The byte that an escape letter stands for. -/
def escapeByte (b : UInt8) : UInt8 :=
  if b = 0x6E then 0x0A
  else if b = 0x72 then 0x0D
  else if b = 0x74 then 0x09
  else if b = 0x62 then 0x08
  else if b = 0x66 then 0x0C
  else b

/-- Where a reader stands inside a string. -/
inductive Place where
  /-- between two bytes of the string -/
  | plain
  /-- after a backslash -/
  | escape
  /-- inside an octal number: its value so far and how many digits it may still take -/
  | number (value more : Nat)
  /-- after a backslash and a carriage return -/
  | lineEnd

/-- What one more byte does to a reader. -/
inductive Step where
  /-- the string goes on: its bytes so far, last first, the parentheses open inside it, the place -/
  | more (seen : Bytes) (depth : Nat) (place : Place)
  /-- the string is closed -/
  | closed (seen : Bytes)
  /-- the parentheses are nested too deeply -/
  | refused

/-- A byte between two bytes of the string. -/
def plainStep (seen : Bytes) (depth : Nat) (b : UInt8) : Step :=
  if b = 0x5C then .more seen depth .escape
  else if b = 0x28 then
    if depth < depthLimit then .more (b :: seen) (depth + 1) .plain else .refused
  else if b = 0x29 then
    match depth with
    | 0 => .closed seen
    | d + 1 => .more (b :: seen) d .plain
  else .more (b :: seen) depth .plain

/-- A byte at any place. -/
def step (seen : Bytes) (depth : Nat) (place : Place) (b : UInt8) : Step :=
  match place with
  | .plain => plainStep seen depth b
  | .escape =>
      match octalValue? b with
      | some v => .more seen depth (.number v 2)
      | none =>
          if b = 0x0A then .more seen depth .plain
          else if b = 0x0D then .more seen depth .lineEnd
          else .more (escapeByte b :: seen) depth .plain
  | .number value more =>
      match more, octalValue? b with
      | k + 1, some v => .more seen depth (.number (value * 8 + v) k)
      | _, _ => plainStep (UInt8.ofNat value :: seen) depth b
  | .lineEnd => if b = 0x0A then .more seen depth .plain else plainStep seen depth b

/-- Reads a string from inside its parentheses. -/
def readFrom (seen : Bytes) (depth : Nat) (place : Place) : Bytes → Option (Bytes × Bytes)
  | [] => none
  | b :: rest =>
      match step seen depth place b with
      | .more seen depth place => readFrom seen depth place rest
      | .closed seen => some (seen.reverse, rest)
      | .refused => none

/-- Reads a string whose opening parenthesis has been read: its bytes and what follows the
parenthesis that closes it. -/
def read (bytes : Bytes) : Option (Bytes × Bytes) := readFrom [] 0 .plain bytes

/-! ## Reading what was written -/

theorem octalValue?_digitChar (d : Nat) (h : d < 8) :
    octalValue? (UInt8.ofNat (digitChar d).toNat) = some d := by
  have all : ∀ k : Fin 8, octalValue? (UInt8.ofNat (digitChar k).toNat) = some k.val := by decide
  exact all ⟨d, h⟩

theorem readFrom_number_zero (seen : Bytes) (depth value : Nat) (rest : Bytes) :
    readFrom seen depth (.number value 0) rest
      = readFrom (UInt8.ofNat value :: seen) depth .plain rest := by
  cases rest <;> simp [readFrom, step]

theorem readFrom_octal (seen : Bytes) (depth : Nat) (b : UInt8) (rest : Bytes) :
    readFrom seen depth .plain (Bytes.latin1 ('\\' :: octal b) ++ rest)
      = readFrom (b :: seen) depth .plain rest := by
  have hb : b.toNat < 256 := b.toNat_lt
  have h1 := octalValue?_digitChar (b.toNat / 64) (by omega)
  have h2 := octalValue?_digitChar (b.toNat / 8 % 8) (by omega)
  have h3 := octalValue?_digitChar (b.toNat % 8) (by omega)
  have e : (b.toNat / 64 * 8 + b.toNat / 8 % 8) * 8 + b.toNat % 8 = b.toNat := by omega
  have hs : UInt8.ofNat '\\'.toNat = 0x5C := by decide
  simp only [Bytes.latin1, octal, List.map_cons, List.map_nil, List.cons_append, List.nil_append,
    hs, readFrom, step, plainStep, if_true, h1, h2, h3, readFrom_number_zero, e]
  simp

theorem readFrom_escapedByte (seen : Bytes) (depth : Nat) (b : UInt8) (rest : Bytes) :
    readFrom seen depth .plain (Bytes.latin1 (escapedByte b) ++ rest)
      = readFrom (b :: seen) depth .plain rest := by
  have hs : UInt8.ofNat '\\'.toNat = 0x5C := by decide
  unfold escapedByte
  split
  · rename_i h
    simp only [Bytes.latin1, List.map_cons, List.map_nil, List.cons_append, List.nil_append, hs,
      Bytes.toNat_ofNat_of_byte]
    rcases h with rfl | rfl | rfl <;> simp [readFrom, step, plainStep, octalValue?, escapeByte]
  · rename_i h
    split
    · simp only [not_or] at h
      simp [Bytes.latin1, Bytes.toNat_ofNat_of_byte, readFrom, step, plainStep, h.1, h.2.1, h.2.2]
    · exact readFrom_octal seen depth b rest

theorem readFrom_escaped (seen : Bytes) (depth : Nat) (bytes rest : Bytes) :
    readFrom seen depth .plain (Bytes.latin1 (escaped bytes) ++ rest)
      = readFrom (bytes.reverse ++ seen) depth .plain rest := by
  induction bytes generalizing seen with
  | nil => simp [escaped, Bytes.latin1]
  | cons b bytes ih =>
      have e : Bytes.latin1 (escaped (b :: bytes)) ++ rest
          = Bytes.latin1 (escapedByte b) ++ (Bytes.latin1 (escaped bytes) ++ rest) := by
        simp [escaped, Bytes.latin1]
      rw [e, readFrom_escapedByte, ih]
      simp

/-- A string written for a page is read back and ends where it was closed. -/
theorem read_escaped (bytes rest : Bytes) :
    read (Bytes.latin1 (escaped bytes) ++ 0x29 :: rest) = some (bytes, rest) := by
  rw [read, readFrom_escaped]
  simp [readFrom, step, plainStep]

end DocumentCard.Pdf.Literal
