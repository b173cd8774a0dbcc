import DocumentCard.Bytes
set_option autoImplicit false

/-!
# UTF-16

A text in units of sixteen bits: a character above U+FFFF takes two units, a high and a low
surrogate.  Reading pairs them up again; a surrogate that has lost its partner becomes U+FFFD.

Main statement: every text is read back from its units (`decode_encode`).
-/

namespace DocumentCard.Text.Utf16

/-- The units of one character. -/
def unitsOf (c : Char) : List Nat :=
  let n := c.toNat
  if n < 0x10000 then [n] else [0xD800 + (n - 0x10000) / 0x400, 0xDC00 + (n - 0x10000) % 0x400]

/-- The units of a text. -/
def encode (cs : List Char) : List Nat := cs.flatMap unitsOf

/-- A high surrogate, the first of a pair. -/
def isHigh (u : Nat) : Bool := 0xD800 ≤ u && u ≤ 0xDBFF

/-- A low surrogate, the second of a pair. -/
def isLow (u : Nat) : Bool := 0xDC00 ≤ u && u ≤ 0xDFFF

/-- Reads units; `high` is the first surrogate of a pair that still wants its second. -/
def decodeFrom : Option Nat → List Nat → List Char
  | none, [] => []
  | some _, [] => ['\uFFFD']
  | none, u :: us =>
      if isHigh u then decodeFrom (some u) us
      else if isLow u then '\uFFFD' :: decodeFrom none us
      else Char.ofNat u :: decodeFrom none us
  | some h, u :: us =>
      if isLow u then
        Char.ofNat (0x10000 + (h - 0xD800) * 0x400 + (u - 0xDC00)) :: decodeFrom none us
      else if isHigh u then '\uFFFD' :: decodeFrom (some u) us
      else '\uFFFD' :: Char.ofNat u :: decodeFrom none us

/-- The text of a sequence of units. -/
def decode (us : List Nat) : List Char := decodeFrom none us

theorem toNat_lt (c : Char) : c.toNat < 0x110000 := by
  rcases c.valid with h | ⟨_, h⟩
  · have : c.toNat < 0xD800 := h
    omega
  · exact h

theorem not_surrogate (c : Char) : c.toNat < 0xD800 ∨ 0xDFFF < c.toNat := by
  rcases c.valid with h | ⟨h, _⟩
  · exact Or.inl h
  · exact Or.inr h

theorem decodeFrom_unitsOf (c : Char) (rest : List Nat) :
    decodeFrom none (unitsOf c ++ rest) = c :: decodeFrom none rest := by
  have hlt := toNat_lt c
  have hs := not_surrogate c
  unfold unitsOf
  by_cases h : c.toNat < 0x10000
  · have h1 : isHigh c.toNat = false := by
      simp only [isHigh, Bool.and_eq_false_iff, decide_eq_false_iff_not]; omega
    have h2 : isLow c.toNat = false := by
      simp only [isLow, Bool.and_eq_false_iff, decide_eq_false_iff_not]; omega
    simp [h, decodeFrom, h1, h2, Char.ofNat_toNat]
  · have h1 : isHigh (0xD800 + (c.toNat - 0x10000) / 0x400) = true := by
      simp only [isHigh, Bool.and_eq_true, decide_eq_true_eq]; omega
    have h2 : isLow (0xDC00 + (c.toNat - 0x10000) % 0x400) = true := by
      simp only [isLow, Bool.and_eq_true, decide_eq_true_eq]; omega
    have e : 0x10000 + (0xD800 + (c.toNat - 0x10000) / 0x400 - 0xD800) * 0x400
        + (0xDC00 + (c.toNat - 0x10000) % 0x400 - 0xDC00) = c.toNat := by omega
    simp only [h, if_false, List.cons_append, List.nil_append, decodeFrom, h1, h2, if_true, e,
      Char.ofNat_toNat]

/-- Every text is read back from its units. -/
theorem decode_encode (cs : List Char) : decode (encode cs) = cs := by
  unfold decode encode
  induction cs with
  | nil => rfl
  | cons c rest ih => rw [List.flatMap_cons, decodeFrom_unitsOf, ih]

/-! ## Units as pairs of bytes -/

/-- Units as bytes, the higher byte of each first. -/
def toBytes (us : List Nat) : Bytes := us.flatMap fun u => [UInt8.ofNat (u / 256), UInt8.ofNat u]

/-- Bytes taken two by two, the higher first; a last odd byte is left out. -/
def ofBytes : Bytes → List Nat
  | high :: low :: rest => (high.toNat * 256 + low.toNat) :: ofBytes rest
  | _ => []

theorem ofBytes_toBytes (us : List Nat) (h : ∀ u ∈ us, u < 0x10000) : ofBytes (toBytes us) = us := by
  induction us with
  | nil => rfl
  | cons u us ih =>
      have hu : u < 0x10000 := h u (by simp)
      have hr := ih fun x hx => h x (by simp [hx])
      simp only [toBytes, List.flatMap_cons, List.cons_append, List.nil_append, ofBytes] at hr ⊢
      rw [hr]
      simp only [UInt8.toNat_ofNat', List.cons.injEq, and_true]
      omega

theorem lt_of_mem_encode {cs : List Char} {u : Nat} (h : u ∈ encode cs) : u < 0x10000 := by
  unfold encode at h
  obtain ⟨c, _, hc⟩ := List.mem_flatMap.1 h
  have hlt := toNat_lt c
  simp only [unitsOf] at hc
  split at hc
  · simp at hc
    omega
  · simp at hc
    omega

/-- Every text is read back from its units' bytes. -/
theorem decode_ofBytes_toBytes (cs : List Char) :
    decode (ofBytes (toBytes (encode cs))) = cs := by
  rw [ofBytes_toBytes _ fun _ hu => lt_of_mem_encode hu, decode_encode]

end DocumentCard.Text.Utf16
