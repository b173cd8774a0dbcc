set_option autoImplicit false

/-!
# Bytes

Everything that enters or leaves the program is a list of bytes, and most of what it writes is
plain text in bytes.  This module fixes the two directions once: `Bytes.latin1` writes a text whose
characters are all below U+0100 one byte per character, and `Bytes.toLatin1` reads bytes back as
such a text.  The digits of numbers are here too, as functions a proof can unfold, because the
program's formats are made of them: decimal, octal, hexadecimal, and words of four bytes with the
highest first.

Main statements: the two directions are inverse on their common range
(`toLatin1_latin1`, `latin1_toLatin1`), and a number is read back from its decimal digits
(`ofDecimal?_decimal`).
-/

namespace DocumentCard

/-- A sequence of bytes. -/
abbrev Bytes : Type := List UInt8

/-! ## Digits -/

/-- The character of a digit below sixteen, in capitals. -/
def digitChar (d : Nat) : Char :=
  if d < 10 then Char.ofNat (48 + d) else Char.ofNat (55 + d)

/-- The digits of a number in a base of at least two, highest first; zero has one digit. -/
def digits (base n : Nat) : List Nat :=
  if _h : n < base ∨ base < 2 then [n] else digits base (n / base) ++ [n % base]
termination_by n
decreasing_by
  have : 0 < n := by omega
  exact Nat.div_lt_self this (by omega)

/-- The decimal digits of a number. -/
def decimal (n : Nat) : List Char := (digits 10 n).map digitChar

/-- A number in decimal, as text. -/
def decimalText (n : Nat) : String := String.ofList (decimal n)

/-- A whole number in decimal, with a minus sign when it is below zero. -/
def integerText (i : Int) : String :=
  match i with
  | .ofNat n => decimalText n
  | .negSucc n => String.ofList ('-' :: decimal (n + 1))

/-- `text` brought to at least `width` characters by leading zeros. -/
def padZeros (width : Nat) (text : List Char) : List Char :=
  List.replicate (width - text.length) '0' ++ text

/-- A digit character's value. -/
def digitValue? (c : Char) : Option Nat :=
  if '0' ≤ c ∧ c ≤ '9' then some (c.toNat - 48) else none

/-- The number that a non-empty run of decimal digits stands for. -/
def ofDecimal? (cs : List Char) : Option Nat :=
  match cs with
  | [] => none
  | _ => cs.foldl (fun acc c => acc.bind fun n => (digitValue? c).map (10 * n + ·)) (some 0)

theorem digitValue?_digitChar (d : Nat) (h : d < 10) : digitValue? (digitChar d) = some d := by
  have all : ∀ k : Fin 10, digitValue? (digitChar k) = some k.val := by decide
  exact all ⟨d, h⟩

theorem decimal_ne_nil (n : Nat) : decimal n ≠ [] := by
  unfold decimal digits
  split <;> simp

theorem decimal_of_lt (n : Nat) (h : n < 10) : decimal n = [digitChar n] := by
  unfold decimal digits
  simp [h]

theorem decimal_of_ge (n : Nat) (h : 10 ≤ n) :
    decimal n = decimal (n / 10) ++ [digitChar (n % 10)] := by
  have hn : ¬ (n < 10 ∨ 10 < 2) := by omega
  unfold decimal
  rw [digits, dif_neg hn]
  simp

theorem foldl_decimal (n : Nat) :
    (decimal n).foldl (fun acc c => acc.bind fun k => (digitValue? c).map (10 * k + ·)) (some 0)
      = some n := by
  induction n using Nat.strongRecOn with
  | _ n ih =>
    by_cases h : n < 10
    · simp [decimal_of_lt n h, digitValue?_digitChar n h]
    · have hge : 10 ≤ n := by omega
      rw [decimal_of_ge n hge, List.foldl_append, ih (n / 10) (by omega)]
      simp [digitValue?_digitChar (n % 10) (by omega)]
      omega

/-- A number is read back from its decimal digits. -/
theorem ofDecimal?_decimal (n : Nat) : ofDecimal? (decimal n) = some n := by
  unfold ofDecimal?
  split
  · rename_i h
    exact absurd h (decimal_ne_nil n)
  · exact foldl_decimal n

namespace Bytes

/-! ## One byte per character -/

/-- A text of characters below U+0100 as bytes. -/
def latin1 (text : List Char) : Bytes := text.map fun c => UInt8.ofNat c.toNat

/-- Bytes read one character each. -/
def toLatin1 (bytes : Bytes) : List Char := bytes.map fun b => Char.ofNat b.toNat

/-- A plain ASCII text as bytes. -/
def ascii (text : String) : Bytes := latin1 text.toList

theorem toNat_ofNat_of_byte (b : UInt8) : (Char.ofNat b.toNat).toNat = b.toNat := by
  have h : b.toNat < 256 := b.toNat_lt
  have hv : b.toNat.isValidChar := Or.inl (by omega)
  rw [Char.ofNat, dif_pos hv]
  rfl

@[simp] theorem latin1_toLatin1 (bytes : Bytes) : latin1 (toLatin1 bytes) = bytes := by
  induction bytes with
  | nil => rfl
  | cons b rest ih =>
      simp only [latin1, toLatin1, List.map_cons, List.map_map, List.cons.injEq] at ih ⊢
      exact ⟨by rw [toNat_ofNat_of_byte]; simp, ih⟩

theorem toLatin1_latin1 (text : List Char) (h : ∀ c ∈ text, c.toNat < 256) :
    toLatin1 (latin1 text) = text := by
  induction text with
  | nil => rfl
  | cons c rest ih =>
      have hc : c.toNat < 256 := h c (by simp)
      simp only [latin1, toLatin1, List.map_cons, List.map_map, List.cons.injEq] at ih ⊢
      refine ⟨?_, ih fun x hx => h x (by simp [hx])⟩
      have : (UInt8.ofNat c.toNat).toNat = c.toNat := by
        simp [UInt8.toNat_ofNat', Nat.mod_eq_of_lt hc]
      rw [this, Char.ofNat_toNat]

/-! ## Words -/

/-- A word of four bytes, highest byte first. -/
def ofWord (n : Nat) : Bytes :=
  [UInt8.ofNat (n / 0x1000000), UInt8.ofNat (n / 0x10000), UInt8.ofNat (n / 0x100), UInt8.ofNat n]

/-- Bytes read as one number, highest byte first. -/
def toNumber (bytes : Bytes) : Nat := bytes.foldl (fun n b => n * 256 + b.toNat) 0

theorem toNumber_ofWord (n : Nat) (h : n < 0x100000000) : toNumber (ofWord n) = n := by
  simp [toNumber, ofWord, UInt8.toNat_ofNat']
  omega

/-- Four bytes are the word of the number that they tell. -/
theorem ofWord_toNumber (a b c d : UInt8) : ofWord (toNumber [a, b, c, d]) = [a, b, c, d] := by
  have ha := a.toNat_lt
  have hb := b.toNat_lt
  have hc := c.toNat_lt
  have hd := d.toNat_lt
  simp only [ofWord, toNumber, List.foldl_cons, List.foldl_nil, List.cons.injEq, and_true,
    ← UInt8.toNat_inj, UInt8.toNat_ofNat']
  omega

theorem toNumber_lt (a b c d : UInt8) : toNumber [a, b, c, d] < 0x100000000 := by
  have ha := a.toNat_lt
  have hb := b.toNat_lt
  have hc := c.toNat_lt
  have hd := d.toNat_lt
  simp only [toNumber, List.foldl_cons, List.foldl_nil]
  omega

/-- Two hexadecimal digits, in capitals. -/
def hexPair (b : UInt8) : List Char := [digitChar (b.toNat / 16), digitChar (b.toNat % 16)]

/-- A hexadecimal digit's value, in either case. -/
def hexValue? (b : UInt8) : Option Nat :=
  if 48 ≤ b.toNat ∧ b.toNat ≤ 57 then some (b.toNat - 48)
  else if 65 ≤ b.toNat ∧ b.toNat ≤ 70 then some (b.toNat - 55)
  else if 97 ≤ b.toNat ∧ b.toNat ≤ 102 then some (b.toNat - 87)
  else none

/-- An ASCII decimal digit. -/
def isDigit (b : UInt8) : Bool := 48 ≤ b.toNat && b.toNat ≤ 57

/-- The value of a run of ASCII decimal digits. -/
def decimalValue (ds : Bytes) : Nat := ds.foldl (fun n b => n * 10 + (b.toNat - 48)) 0

/-- `bytes` without the leading `expected`, if it starts so. -/
def dropLead? (expected : Bytes) (bytes : Bytes) : Option Bytes :=
  match expected, bytes with
  | [], rest => some rest
  | _ :: _, [] => none
  | e :: es, b :: bs => if e = b then dropLead? es bs else none

theorem dropLead?_append (expected rest : Bytes) :
    dropLead? expected (expected ++ rest) = some rest := by
  induction expected with
  | nil => simp [dropLead?]
  | cons e es ih => simp [dropLead?, ih]

theorem eq_append_of_dropLead? {expected bytes rest : Bytes}
    (h : dropLead? expected bytes = some rest) : bytes = expected ++ rest := by
  induction expected generalizing bytes with
  | nil => simp [dropLead?] at h; exact h
  | cons e es ih =>
      cases bytes with
      | nil => simp [dropLead?] at h
      | cons b bs =>
          simp only [dropLead?] at h
          split at h
          · rename_i he
            rw [he, ih h]
            rfl
          · simp at h

end Bytes

end DocumentCard
