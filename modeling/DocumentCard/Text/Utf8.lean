import DocumentCard.Bytes
set_option autoImplicit false

/-!
# UTF-8

Text travels as UTF-8.  Where the bytes come from another program they may be damaged; then each
longest stretch that begins a character and does not finish it, and each byte that begins none,
counts as one unreadable place.  `scan` reads bytes into characters and unreadable places; `lossy`
shows each such place as U+FFFD.

The scan is a machine: outside a character, or inside one with the value so far, the number of
bytes still owed and the range that the next byte must lie in.

Main statement: what the scan yields never outnumbers the bytes (`length_scan_le`).
-/

namespace DocumentCard.Text.Utf8

/-- A character begun and not finished. -/
structure Pending where
  value : Nat
  owed : Nat
  low : Nat
  high : Nat

/-- What a byte means outside a character. -/
inductive Lead where
  /-- the whole of an ASCII character -/
  | whole (c : Char)
  /-- the first byte of a longer one -/
  | begins (p : Pending)
  /-- no character begins so -/
  | stray

/-- The meaning of a byte outside a character. -/
def lead (b : UInt8) : Lead :=
  let n := b.toNat
  if n < 0x80 then .whole (Char.ofNat n)
  else if n < 0xC2 then .stray
  else if n < 0xE0 then .begins ⟨n - 0xC0, 1, 0x80, 0xBF⟩
  else if n = 0xE0 then .begins ⟨0, 2, 0xA0, 0xBF⟩
  else if n = 0xED then .begins ⟨0xD, 2, 0x80, 0x9F⟩
  else if n < 0xF0 then .begins ⟨n - 0xE0, 2, 0x80, 0xBF⟩
  else if n = 0xF0 then .begins ⟨0, 3, 0x90, 0xBF⟩
  else if n < 0xF4 then .begins ⟨n - 0xF0, 3, 0x80, 0xBF⟩
  else if n = 0xF4 then .begins ⟨4, 3, 0x80, 0x8F⟩
  else .stray

/-- Reads bytes into characters; `none` stands for an unreadable place. -/
def scanFrom : Option Pending → Bytes → List (Option Char)
  | none, [] => []
  | some _, [] => [none]
  | none, b :: bs =>
      match lead b with
      | .whole c => some c :: scanFrom none bs
      | .begins p => scanFrom (some p) bs
      | .stray => none :: scanFrom none bs
  | some p, b :: bs =>
      if p.low ≤ b.toNat ∧ b.toNat ≤ p.high then
        let value := p.value * 64 + (b.toNat - 0x80)
        if p.owed = 1 then some (Char.ofNat value) :: scanFrom none bs
        else scanFrom (some ⟨value, p.owed - 1, 0x80, 0xBF⟩) bs
      else
        match lead b with
        | .whole c => none :: some c :: scanFrom none bs
        | .begins q => none :: scanFrom (some q) bs
        | .stray => none :: none :: scanFrom none bs

/-- The characters and unreadable places of a byte sequence. -/
def scan (bytes : Bytes) : List (Option Char) := scanFrom none bytes

/-- The text of a byte sequence, with U+FFFD for each unreadable place. -/
def lossy (bytes : Bytes) : String :=
  String.ofList ((scan bytes).map fun c => c.getD '\uFFFD')

/-- The text of a byte sequence, if it is one. -/
def decode? (bytes : Bytes) : Option String := String.fromUTF8? ⟨bytes.toArray⟩

/-- The bytes of a text. -/
def encode (text : String) : Bytes := text.toUTF8.toList

theorem length_scanFrom_le (p : Option Pending) (bytes : Bytes) :
    (scanFrom p bytes).length ≤ bytes.length + (if p.isSome then 1 else 0) := by
  induction bytes generalizing p with
  | nil => cases p <;> simp [scanFrom]
  | cons b bs ih =>
      have h0 := ih none
      have h1 := fun q => ih (some q)
      simp only [Option.isSome_none, Option.isSome_some, if_true, Bool.false_eq_true,
        if_false] at h0 h1
      cases p with
      | none =>
          unfold scanFrom
          split
          · simp; omega
          · rename_i q _
            have := h1 q
            simp; omega
          · simp; omega
      | some q =>
          unfold scanFrom
          split
          · split
            · simp; omega
            · have := h1 ⟨q.value * 64 + (b.toNat - 0x80), q.owed - 1, 0x80, 0xBF⟩
              simp; omega
          · split
            · simp; omega
            · rename_i q' _
              have := h1 q'
              simp; omega
            · simp; omega

/-- A byte sequence yields at most one character or unreadable place per byte. -/
theorem length_scan_le (bytes : Bytes) : (scan bytes).length ≤ bytes.length := by
  simpa [scan] using length_scanFrom_le none bytes

example : lossy [0xED, 0xA0, 0x80] = "\uFFFD\uFFFD\uFFFD" := by decide
example : lossy [0xF0, 0x9F, 0x98] = "\uFFFD" := by decide

end DocumentCard.Text.Utf8
