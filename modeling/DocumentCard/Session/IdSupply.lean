import DocumentCard.Bytes
set_option autoImplicit false

/-!
# Ids

A session is known by an id that nobody can guess.  Ids come from a supply, an endless sequence
without repetitions, and a new session takes the first id that no other session has.  As a supply
does not repeat itself, there always is one among the first few (`fresh_not_mem`).

`IdSupply.numbered` counts up from a number, which the program draws at random, and writes each
number in the form of a random UUID: thirty hexadecimal digits in five groups, with the two digits
between them that tell the version and the variant.
-/

namespace DocumentCard.Session

/-- An endless sequence of ids without repetitions. -/
structure IdSupply where
  id : Nat → String
  injective : ∀ i j, id i = id j → i = j

namespace IdSupply

/-- The first id that is not taken. -/
def fresh (s : IdSupply) (taken : List String) : String :=
  s.id (((List.range (taken.length + 1)).find? fun k => !taken.contains (s.id k)).getD 0)

/-- More ids than are in a list cannot all be in it. -/
theorem le_length_of_forall_mem (s : IdSupply) (n : Nat) (taken : List String)
    (h : ∀ k < n, s.id k ∈ taken) : n ≤ taken.length := by
  induction n generalizing taken with
  | zero => omega
  | succ n ih =>
      have hn : s.id n ∈ taken := h n (by omega)
      have := ih (taken.erase (s.id n)) fun k hk => by
        have hne : s.id k ≠ s.id n := fun e => by
          have := s.injective k n e
          omega
        exact (List.mem_erase_of_ne hne).mpr (h k (by omega))
      rw [List.length_erase_of_mem hn] at this
      have := List.length_pos_of_mem hn
      omega

/-- A fresh id is not taken. -/
theorem fresh_not_mem (s : IdSupply) (taken : List String) : s.fresh taken ∉ taken := by
  unfold fresh
  cases hf : (List.range (taken.length + 1)).find? fun k => !taken.contains (s.id k) with
  | some k =>
      have := List.find?_some hf
      simpa using this
  | none =>
      rw [List.find?_eq_none] at hf
      have := s.le_length_of_forall_mem (taken.length + 1) taken fun k hk => by
        simpa using hf k (List.mem_range.mpr hk)
      omega

/-! ## Numbered ids -/

/-- A number in hexadecimal digits, at least thirty of them. -/
def hexDigits (n : Nat) : List Char :=
  padZeros 30 ((digits 16 n).map fun d => (digitChar d).toLower)

/-- The digits of an id in their groups. -/
def grouped (ds : List Char) : List Char :=
  ds.take 8 ++ '-' :: ((ds.drop 8).take 4 ++ '-' :: '4' :: ((ds.drop 12).take 3
    ++ '-' :: '8' :: ((ds.drop 15).take 3 ++ '-' :: ds.drop 18)))

/-- The value of a hexadecimal digit in small letters. -/
def hexValue (c : Char) : Nat := if c.toNat < 58 then c.toNat - 48 else c.toNat - 87

/-- The number that hexadecimal digits stand for. -/
def ofHexDigits (ds : List Char) : Nat := ds.foldl (fun n c => n * 16 + hexValue c) 0

theorem hexValue_digit (d : Nat) (h : d < 16) : hexValue (digitChar d).toLower = d := by
  have all : ∀ k : Fin 16, hexValue (digitChar k).toLower = k.val := by decide
  exact all ⟨d, h⟩

theorem ofHexDigits_digits (n : Nat) :
    ofHexDigits ((digits 16 n).map fun d => (digitChar d).toLower) = n := by
  induction n using Nat.strongRecOn with
  | _ n ih =>
    by_cases h : n < 16
    · rw [digits, dif_pos (Or.inl h)]
      simp [ofHexDigits, hexValue_digit n h]
    · rw [digits, dif_neg (by omega), List.map_append, ofHexDigits, List.foldl_append,
        ← ofHexDigits, ih (n / 16) (by omega)]
      simp [hexValue_digit (n % 16) (by omega)]
      omega

theorem ofHexDigits_replicate (k : Nat) (ds : List Char) :
    ofHexDigits (List.replicate k '0' ++ ds) = ofHexDigits ds := by
  induction k with
  | zero => simp
  | succ k ih =>
      rw [List.replicate_succ, List.cons_append, ofHexDigits, List.foldl_cons]
      exact ih

/-- A number is read back from its hexadecimal digits. -/
theorem ofHexDigits_hexDigits (n : Nat) : ofHexDigits (hexDigits n) = n := by
  unfold hexDigits padZeros
  rw [ofHexDigits_replicate, ofHexDigits_digits]

theorem length_hexDigits (n : Nat) : 30 ≤ (hexDigits n).length := by
  unfold hexDigits padZeros
  simp
  omega

/-- Digits are read back from their groups. -/
theorem eq_of_grouped_eq {a b : List Char} (ha : 30 ≤ a.length) (hb : 30 ≤ b.length)
    (h : grouped a = grouped b) : a = b := by
  unfold grouped at h
  obtain ⟨h1, h⟩ := List.append_inj h (by simp; omega)
  obtain ⟨h2, h⟩ := List.append_inj (List.cons.inj h).2 (by simp; omega)
  obtain ⟨h3, h⟩ := List.append_inj (List.cons.inj (List.cons.inj h).2).2 (by simp; omega)
  obtain ⟨h4, h⟩ := List.append_inj (List.cons.inj (List.cons.inj h).2).2 (by simp; omega)
  have h5 := (List.cons.inj h).2
  have whole (l : List Char) : l = l.take 8 ++ ((l.drop 8).take 4 ++ ((l.drop 12).take 3
      ++ ((l.drop 15).take 3 ++ l.drop 18))) := by
    conv => lhs; rw [← List.take_append_drop 8 l, ← List.take_append_drop 4 (l.drop 8),
      List.drop_drop, ← List.take_append_drop 3 (l.drop 12), List.drop_drop,
      ← List.take_append_drop 3 (l.drop 15), List.drop_drop]
  rw [whole a, whole b, h1, h2, h3, h4, h5]

/-- Ids that count up from a number. -/
def numbered (start : Nat) : IdSupply where
  id k := String.ofList (grouped (hexDigits (start + k)))
  injective i j h := by
    have := eq_of_grouped_eq (length_hexDigits _) (length_hexDigits _) (String.ofList_injective h)
    have := congrArg ofHexDigits this
    rw [ofHexDigits_hexDigits, ofHexDigits_hexDigits] at this
    omega

end IdSupply

end DocumentCard.Session
