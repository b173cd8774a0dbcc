import DocumentCard.Card.Attachments
import DocumentCard.Card.Draft
import Mathlib.Algebra.Group.Nat.Defs
set_option autoImplicit false

/-!
# Keys in order

The attachments of a card are keyed by their positions, and read back in the order of the keys.  Both
orders agree as long as no position has more digits than keys have: a key is then the digits of its
position at a fixed width (`padZeros_decimal`), and numbers of one width are in order when their digits
are.

Main statement: keys of four digits are in the order of their positions (`Card.pairwise_key`).
-/

namespace DocumentCard

/-- The lowest decimal digits of a number, so many of them, the highest first. -/
def lowDigits : Nat → Nat → List Char
  | 0, _ => []
  | width + 1, n => digitChar (n / 10 ^ width % 10) :: lowDigits width n

theorem lowDigits_zero (width : Nat) : lowDigits width 0 = List.replicate width '0' := by
  induction width with
  | zero => rfl
  | succ width ih =>
      rw [lowDigits, ih, Nat.zero_div, List.replicate_succ]
      rfl

/-- The lowest digit is the last one. -/
theorem lowDigits_succ (width n : Nat) :
    lowDigits (width + 1) n = lowDigits width (n / 10) ++ [digitChar (n % 10)] := by
  induction width with
  | zero => simp [lowDigits]
  | succ width ih =>
      have hdigit : n / 10 / 10 ^ width = n / 10 ^ (width + 1) := by
        rw [Nat.div_div_eq_div_mul, Nat.pow_succ']
      rw [lowDigits, ih, lowDigits, hdigit, List.cons_append]

theorem padZeros_concat (width : Nat) (text : List Char) (c : Char) :
    padZeros (width + 1) (text ++ [c]) = padZeros width text ++ [c] := by
  simp [padZeros, Nat.add_sub_add_right]

/-- A number that is not too great, with leading zeros, is its lowest digits. -/
theorem padZeros_decimal {width n : Nat} (h : n < 10 ^ (width + 1)) :
    padZeros (width + 1) (decimal n) = lowDigits (width + 1) n := by
  induction width generalizing n with
  | zero =>
      have hten : n < 10 := by simpa using h
      rw [decimal_of_lt n hten, lowDigits_succ, Nat.mod_eq_of_lt hten]
      rfl
  | succ width ih =>
      rw [lowDigits_succ]
      by_cases hn : n < 10
      · have hzero : n / 10 = 0 := Nat.div_eq_of_lt hn
        rw [decimal_of_lt n hn, hzero, lowDigits_zero, Nat.mod_eq_of_lt hn]
        rfl
      · have hrest : n / 10 < 10 ^ (width + 1) := by
          rw [Nat.pow_succ] at h
          omega
        rw [decimal_of_ge n (by omega), padZeros_concat, ih hrest]

namespace Card

open Attachments (keyLE)

theorem toNat_digit {d : Nat} (h : d < 10) : (UInt8.ofNat (digitChar d).toNat).toNat = 48 + d := by
  have all : ∀ k : Fin 10, (UInt8.ofNat (digitChar k).toNat).toNat = 48 + k.val := by decide
  exact all ⟨d, h⟩

/-- Digits of one width are in order when the numbers are, and only then. -/
theorem keyLE_lowDigits (width n m : Nat) :
    keyLE (Bytes.latin1 (lowDigits width n)) (Bytes.latin1 (lowDigits width m))
      = decide (n % 10 ^ width ≤ m % 10 ^ width) := by
  induction width with
  | zero => simp [lowDigits, Bytes.latin1, keyLE, Nat.mod_one]
  | succ width ih =>
      have hn : n / 10 ^ width % 10 < 10 := Nat.mod_lt _ (by omega)
      have hm : m / 10 ^ width % 10 < 10 := Nat.mod_lt _ (by omega)
      rw [Nat.mod_pow_succ, Nat.mod_pow_succ]
      simp only [lowDigits, Bytes.latin1, List.map_cons, keyLE]
      by_cases hsame : n / 10 ^ width % 10 = m / 10 ^ width % 10
      · rw [hsame, if_pos rfl]
        refine ih.trans (decide_eq_decide.mpr ?_)
        omega
      · have hbyte : UInt8.ofNat (digitChar (n / 10 ^ width % 10)).toNat
            ≠ UInt8.ofNat (digitChar (m / 10 ^ width % 10)).toNat := by
          intro e
          have := congrArg UInt8.toNat e
          rw [toNat_digit hn, toNat_digit hm] at this
          omega
        rw [if_neg hbyte, toNat_digit hn, toNat_digit hm, decide_eq_decide]
        have hfirst : n % 10 ^ width < 10 ^ width := Nat.mod_lt _ (Nat.pow_pos (by omega))
        have hsecond : m % 10 ^ width < 10 ^ width := Nat.mod_lt _ (Nat.pow_pos (by omega))
        generalize n / 10 ^ width % 10 = a at *
        generalize m / 10 ^ width % 10 = b at *
        constructor
        · intro hless
          have hnext : 10 ^ width * (a + 1) ≤ 10 ^ width * b := Nat.mul_le_mul_left _ (by omega)
          rw [Nat.mul_add] at hnext
          omega
        · intro hle
          apply Nat.lt_of_not_le
          intro hge
          have hnext : 10 ^ width * (b + 1) ≤ 10 ^ width * a := Nat.mul_le_mul_left _ (by omega)
          rw [Nat.mul_add] at hnext
          omega

/-- The keys of positions of four digits are in the order of the positions. -/
theorem keyLE_key {first second : Nat} (hfirst : first ≤ 9999) (hsecond : second ≤ 9999) :
    keyLE (Draft.key first) (Draft.key second) = decide (first ≤ second) := by
  have hfirst : first < 10 ^ (3 + 1) := by omega
  have hsecond : second < 10 ^ (3 + 1) := by omega
  unfold Draft.key
  rw [padZeros_decimal hfirst, padZeros_decimal hsecond, keyLE_lowDigits, Nat.mod_eq_of_lt hfirst,
    Nat.mod_eq_of_lt hsecond]

/-! ## The order of keys is that of byte sequences -/

theorem keyLE_iff (a b : Bytes) : keyLE a b = true ↔ a ≤ b := by
  induction a generalizing b with
  | nil => simp [keyLE]
  | cons x a ih =>
      cases b with
      | nil => simp [keyLE]
      | cons y b =>
          rw [List.cons_le_cons_iff, ← ih]
          by_cases hxy : x = y
          · simp [keyLE, hxy, UInt8.lt_irrefl]
          · simp [keyLE, hxy, UInt8.lt_iff_toNat_lt]

theorem keyLE_trans (a b c : Bytes) (hab : keyLE a b = true) (hbc : keyLE b c = true) :
    keyLE a c = true := by
  rw [keyLE_iff] at *
  exact List.le_trans hab hbc

theorem keyLE_total (a b : Bytes) : (keyLE a b || keyLE b a) = true := by
  rw [Bool.or_eq_true, keyLE_iff, keyLE_iff]
  exact List.le_total a b

theorem lt_iff_keyLE (a b : Bytes) : a < b ↔ keyLE b a = false := by
  rw [← List.not_le, ← keyLE_iff, Bool.not_eq_true]

/-- As long as positions have four digits, each key stands before all later ones. -/
theorem pairwise_key {count : Nat} (few : count ≤ 9999) :
    ((List.range' 1 count).map Draft.key).Pairwise (· < ·) := by
  rw [List.pairwise_map]
  refine List.Pairwise.imp_of_mem ?_ List.pairwise_lt_range'
  intro first second hfirst hsecond hlt
  have hfirst := (List.mem_range'_1.mp hfirst).2
  have hsecond := (List.mem_range'_1.mp hsecond).2
  rw [lt_iff_keyLE, keyLE_key (by omega) (by omega), decide_eq_false_iff_not]
  omega

end Card

end DocumentCard
