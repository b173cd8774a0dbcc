import DocumentCard.Bytes
import DocumentCard.Decimal.Binary
set_option autoImplicit false

/-!
# A fixed number of decimal places

Positions on a page are written with two places and matrix entries with four.  The exact value is
rounded, a half going to the even neighbour; the sign is kept even where nothing but zeros is left.

Main statement: the text holds nothing but digits, one point, a sign and the letters of the names
for what is no number (`fixed_plain`).
-/

namespace DocumentCard.Decimal

/-- The digits of `n / 10 ^ places`: whole part, point, exactly `places` digits. -/
def pointed (places n : Nat) : List Char :=
  let digits := padZeros (places + 1) (decimal n)
  let whole := digits.length - places
  if places = 0 then digits else digits.take whole ++ '.' :: digits.drop whole

/-- A number with a fixed count of decimal places. -/
def fixed (places : Nat) (b : Binary) : List Char :=
  match b with
  | .notANumber => "NaN".toList
  | .infinite negative => (if negative then ['-'] else []) ++ "inf".toList
  | .finite negative m q _ =>
      let (num, den) := quotient m q
      (if negative then ['-'] else []) ++ pointed places (roundDiv (num * Nat.pow 10 places) den)

/-- The characters that a number is written with. -/
def isNumeric (c : Char) : Bool := c.isDigit || c ∈ ['-', '.', 'N', 'a', 'i', 'n', 'f']

theorem digitChar_isDigit (d : Nat) (h : d < 10) : (digitChar d).isDigit = true := by
  have all : ∀ k : Fin 10, (digitChar k).isDigit = true := by decide
  exact all ⟨d, h⟩

theorem isDigit_of_mem_decimal (n : Nat) : ∀ c ∈ decimal n, c.isDigit = true := by
  induction n using Nat.strongRecOn with
  | _ n ih =>
    by_cases h : n < 10
    · rw [decimal_of_lt n h]
      simpa using digitChar_isDigit n h
    · rw [decimal_of_ge n (by omega)]
      intro c hc
      rcases List.mem_append.1 hc with hc | hc
      · exact ih (n / 10) (by omega) c hc
      · have : c = digitChar (n % 10) := by simpa using hc
        rw [this]
        exact digitChar_isDigit _ (by omega)

theorem isDigit_of_mem_padZeros (width : Nat) (cs : List Char)
    (h : ∀ c ∈ cs, c.isDigit = true) : ∀ c ∈ padZeros width cs, c.isDigit = true := by
  intro c hc
  rcases List.mem_append.1 hc with hc | hc
  · rw [(List.mem_replicate.1 hc).2]
    decide
  · exact h c hc

theorem isNumeric_of_mem_pointed (places n : Nat) : ∀ c ∈ pointed places n, isNumeric c = true := by
  have hd := isDigit_of_mem_padZeros (places + 1) _ (isDigit_of_mem_decimal n)
  intro c hc
  unfold pointed at hc
  simp only at hc
  split at hc
  · simp [isNumeric, hd c hc]
  · rcases List.mem_append.1 hc with hc | hc
    · simp [isNumeric, hd c (List.mem_of_mem_take hc)]
    · rcases List.mem_cons.1 hc with rfl | hc
      · decide
      · simp [isNumeric, hd c (List.mem_of_mem_drop hc)]

theorem isNumeric_of_mem_sign (negative : Bool) :
    ∀ c ∈ (if negative then ['-'] else []), isNumeric c = true := by
  cases negative <;> simp [isNumeric]

theorem isNumeric_of_mem_nan : ∀ c ∈ "NaN".toList, isNumeric c = true := by simp [isNumeric]

theorem isNumeric_of_mem_inf : ∀ c ∈ "inf".toList, isNumeric c = true := by simp [isNumeric]

/-- A number's text holds no blank, no parenthesis, no line end. -/
theorem fixed_plain (places : Nat) (b : Binary) : ∀ c ∈ fixed places b, isNumeric c = true := by
  intro c hc
  cases b with
  | notANumber => exact isNumeric_of_mem_nan c hc
  | infinite negative =>
      rcases List.mem_append.1 hc with hc | hc
      · exact isNumeric_of_mem_sign negative c hc
      · exact isNumeric_of_mem_inf c hc
  | finite negative m q lowest =>
      rcases List.mem_append.1 hc with hc | hc
      · exact isNumeric_of_mem_sign negative c hc
      · exact isNumeric_of_mem_pointed _ _ c hc

end DocumentCard.Decimal
