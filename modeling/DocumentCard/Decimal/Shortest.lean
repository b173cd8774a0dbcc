import DocumentCard.Decimal.Fixed
set_option autoImplicit false

/-!
# The shortest decimal that reads back

Among the decimals that round to a given binary number there are some with the fewest digits, and
among these one nearest to the number.  `shortest` finds it: for one digit, two digits, and so on
it tries the number's two neighbours on the decimal grid of that many digits, and takes the nearer
of those that lie between the midpoints to the number's own neighbours.  The midpoints themselves
count when the integer part of the number is even, because ties are read as even.

If any point of a grid lies between the midpoints, so does one of the two neighbours; so no shorter
decimal is passed over.
-/

namespace DocumentCard.Decimal

/-- A decimal: `digits · 10 ^ exponent`. -/
structure Scaled where
  digits : Nat
  exponent : Int

/-- The greatest `e` with `10 ^ e ≤ num / den`, for positive `num` and `den`. -/
def floorLog10 (num den : Nat) : Int :=
  let guess : Int := ((decimal num).length : Int) - (decimal den).length
  let reached : Bool :=
    if guess ≥ 0 then den * Nat.pow 10 guess.toNat ≤ num
    else den ≤ num * Nat.pow 10 (-guess).toNat
  if reached then guess else guess - 1

/-- The shortest decimal between two bounds that is nearest to the middle value.  The three numbers
are `low`, `mid` and `high`, all over `den`; `closed` says whether the bounds themselves count.
`grid` is the exponent of the current grid and `fuel` the number of finer grids still to try. -/
def shortestOn (low mid high den : Nat) (closed : Bool) (grid : Int) : Nat → Scaled
  | 0 => ⟨mid, 0⟩
  | fuel + 1 =>
      -- `k · up / den'` compared with `x / den`, all multiplied out
      let up := if grid ≥ 0 then Nat.pow 10 grid.toNat * den else den
      let down := if grid ≥ 0 then 1 else Nat.pow 10 (-grid).toNat
      let k := mid * down / up
      let inside (k : Nat) : Bool :=
        if closed then low * down ≤ k * up && k * up ≤ high * down
        else low * down < k * up && k * up < high * down
      let belowIn := inside k
      let aboveIn := inside (k + 1)
      let belowNearer := 2 * (mid * down - k * up) ≤ up
      if belowIn && (belowNearer || !aboveIn) then ⟨k, grid⟩
      else if aboveIn then ⟨k + 1, grid⟩
      else shortestOn low mid high den closed (grid - 1) fuel

/-- The shortest decimal that rounds to `m · 2 ^ q`. -/
def shortest (m : Nat) (q : Int) (lowest : Bool) : Scaled :=
  if m = 0 then ⟨0, 0⟩
  else
    let (unit, den) := quotient 1 (q - 2)
    let mid := 4 * m * unit
    let low := (4 * m - (if lowest then 1 else 2)) * unit
    let high := (4 * m + 2) * unit
    shortestOn low mid high den (m % 2 = 0) (floorLog10 mid den) 20

/-- Trailing zeros moved from the digits into the exponent. -/
def Scaled.stripped (s : Scaled) : Nat → Scaled
  | 0 => s
  | fuel + 1 =>
      if s.digits ≠ 0 ∧ s.digits % 10 = 0 then
        Scaled.stripped ⟨s.digits / 10, s.exponent + 1⟩ fuel
      else s

/-- A decimal written out in full, without an exponent. -/
def positional (s : Scaled) : List Char :=
  if s.exponent ≥ 0 then decimal (s.digits * Nat.pow 10 s.exponent.toNat)
  else pointed (-s.exponent).toNat s.digits

/-- A number as the shortest decimal that reads back, never with an exponent and without a point
where it is whole. -/
def plain (b : Binary) : List Char :=
  match b with
  | .notANumber => "NaN".toList
  | .infinite negative => (if negative then ['-'] else []) ++ "inf".toList
  | .finite negative m q lowest =>
      (if negative then ['-'] else []) ++ positional (shortest m q lowest)

theorem isNumeric_of_mem_decimal (n : Nat) : ∀ c ∈ decimal n, isNumeric c = true := by
  intro c hc
  simp [isNumeric, isDigit_of_mem_decimal n c hc]

/-- The text of a number holds no blank, no parenthesis, no line end. -/
theorem plain_plain (b : Binary) : ∀ c ∈ plain b, isNumeric c = true := by
  intro c hc
  cases b with
  | notANumber => exact isNumeric_of_mem_nan c hc
  | infinite negative =>
      rcases List.mem_append.1 hc with hc | hc
      · exact isNumeric_of_mem_sign negative c hc
      · exact isNumeric_of_mem_inf c hc
  | finite negative m q lowest =>
      rcases List.mem_append.1 hc with hc | hc
      · exact isNumeric_of_mem_sign negative c hc
      · unfold positional at hc
        split at hc
        · exact isNumeric_of_mem_decimal _ c hc
        · exact isNumeric_of_mem_pointed _ _ c hc

/-- A number as the shortest decimal that reads back, always with a point or an exponent: in full
from 0.00001 up to, not including, 10 ^ 16, else one digit before the point and an exponent with
its sign and at least two digits. -/
def scientific (b : Binary) : List Char :=
  match b with
  | .notANumber => "null".toList
  | .infinite _ => "null".toList
  | .finite negative m q lowest =>
      let s := (shortest m q lowest).stripped 400
      let ds := decimal s.digits
      let top : Int := ds.length + s.exponent
      let sign := if negative then ['-'] else []
      sign ++
        if m = 0 then "0.0".toList
        else if 0 ≤ s.exponent ∧ top ≤ 16 then positional s ++ ".0".toList
        else if -5 < top ∧ top ≤ 16 then positional s
        else
          let body := match ds with
            | [d] => [d]
            | d :: rest => d :: '.' :: rest
            | [] => []
          body ++ 'e' :: (if top - 1 < 0 then '-' else '+') :: padZeros 2 (decimal (top - 1).natAbs)

example : plain (single.decode 0x3dcccccd) = "0.1".toList := by decide +kernel
example : plain (single.decode 0x00000001) =
    "0.000000000000000000000000000000000000000000001".toList := by decide +kernel
example : scientific (double.decode 0x43f0000000000000) = "1.8446744073709552e+19".toList := by
  decide +kernel
example : scientific (double.decode 0x8000000000000000) = "-0.0".toList := by decide +kernel
example : scientific (double.decode 0x0000000000000001) = "5e-324".toList := by decide +kernel
example : scientific (double.decode 0x3e7ad7f29abcaf48) = "1e-07".toList := by decide +kernel

end DocumentCard.Decimal
