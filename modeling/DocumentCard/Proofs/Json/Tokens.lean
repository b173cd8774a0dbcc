import DocumentCard.Json.Reader
import DocumentCard.Proofs.Steps
import Mathlib.Data.List.DropRight
import Mathlib.Data.List.TakeDrop
set_option autoImplicit false

/-!
# Words, numbers and strings that are read are passed over

A value that nobody will look at is passed over without a look at the size of its numbers or into its
strings.  Where a number or a string can be read, passing over it ends at the same place
(`Number.skip_of_read`, `skipString_of_stringFrom`).  The converse fails: a number may be too great to be
read, and a string need not be UTF-8.
-/

namespace DocumentCard

namespace Json

theorem skipSpace_suffix (bytes : Bytes) : skipSpace bytes <:+ bytes := List.dropWhile_suffix _

theorem skipSpace_skipSpace (bytes : Bytes) : skipSpace (skipSpace bytes) = skipSpace bytes :=
  List.dropWhile_idempotent isSpace bytes

theorem word_suffix {letters bytes rest : Bytes} (h : word letters bytes = .ok rest) :
    rest <:+ bytes := by
  fun_induction word letters bytes with
  | case1 bytes =>
      obtain rfl := Except.ok.inj h
      exact List.suffix_refl _
  | case3 letters b behind ih => exact (ih h).trans (List.suffix_cons _ _)
  | _ => cases h

/-! ## Numbers -/

namespace Number

theorem dropWhile_takeDigits (number count : Nat) (bytes : Bytes) :
    (takeDigits number count bytes).2.2.dropWhile Bytes.isDigit = bytes.dropWhile Bytes.isDigit := by
  fun_induction takeDigits number count bytes with
  | case1 => rfl
  | case2 number count b rest h ih => rw [ih, List.dropWhile_cons_of_pos h.1]
  | case3 => rfl

theorem dropWhile_of_not_atDigit {bytes : Bytes} (h : ¬ atDigit bytes = true) :
    bytes.dropWhile Bytes.isDigit = bytes := by
  cases bytes with
  | nil => rfl
  | cons b rest => exact List.dropWhile_cons_of_neg h

/-- A text without the sign that it starts with, if it does. -/
def unsigned (bytes : Bytes) : Bytes :=
  match bytes with
  | b :: rest => if b = 0x2D ∨ b = 0x2B then rest else b :: rest
  | [] => []

/-- Passes over an exponent, if there is one. -/
def skipTail (bytes : Bytes) : Except SyntaxFault Bytes :=
  if atExponent bytes then skipExponent bytes.tail else .ok bytes

/-- Passes over what follows the whole digits of a number. -/
def skipBehindWhole (bytes : Bytes) : Except SyntaxFault Bytes :=
  match bytes with
  | 0x2E :: rest =>
      if !atDigit rest then .error .invalidNumber else skipTail (rest.dropWhile Bytes.isDigit)
  | _ => skipTail bytes

theorem skipExponent_eq (bytes : Bytes) :
    skipExponent bytes =
      if atDigit (unsigned bytes) then .ok ((unsigned bytes).dropWhile Bytes.isDigit)
      else .error .invalidNumber := rfl

theorem skip_cons (b : UInt8) (rest : Bytes) :
    skip (b :: rest) =
      if b = 0x30 then if atDigit rest then .error .invalidNumber else skipBehindWhole rest
      else if Bytes.isDigit b then skipBehindWhole (rest.dropWhile Bytes.isDigit)
      else .error .invalidNumber := rfl

section

variable {negative : Bool} {n : Nat} {start : Int} {bytes rest : Bytes} {v : Value}

theorem skipBehindWhole_of_ne (noPoint : ∀ behind, bytes ≠ 0x2E :: behind) :
    skipBehindWhole bytes = skipTail bytes := by
  unfold skipBehindWhole
  split
  · exact absurd rfl (noPoint _)
  · rfl

theorem eq_of_ofParts (h : ofParts negative n start bytes = .ok (v, rest)) : bytes = rest := by
  obtain ⟨bits, -, hdone⟩ := bind_eq_ok h
  exact (Prod.mk.inj (Except.ok.inj hdone)).2

/-! What is read of a number leads to the same place as passing over it, from the exponent upwards. -/

theorem skipExponent_of_exponent (h : exponent negative n start bytes = .ok (v, rest)) :
    skipExponent bytes = .ok rest := by
  unfold exponent at h
  split at h
  rename_i below digits hsign
  have hunsigned : unsigned bytes = digits := by
    cases bytes with
    | nil => exact congrArg Prod.snd hsign
    | cons b behind =>
        have hdigits := congrArg Prod.snd hsign
        by_cases hminus : b = 0x2D
        · simpa [unsigned, hminus] using hdigits
        · by_cases hplus : b = 0x2B
          · simpa [unsigned, hminus, hplus] using hdigits
          · simpa [unsigned, hminus, hplus] using hdigits
  rw [skipExponent_eq, hunsigned]
  split at h
  · cases h
  · split at h
    · cases h
    · rename_i hdigit
      rw [Bool.not_eq_true', Bool.not_eq_false] at hdigit
      rw [if_pos hdigit]
      rw [List.span_eq_takeWhile_dropWhile] at h
      dsimp only at h
      split at h
      · split at h
        · cases h
        · exact congrArg Except.ok (Prod.mk.inj (Except.ok.inj h)).2
      · exact congrArg Except.ok (eq_of_ofParts h)

theorem skipTail_of_afterDigits (h : afterDigits negative n start bytes = .ok (v, rest)) :
    skipTail bytes = .ok rest := by
  unfold afterDigits at h
  unfold skipTail
  split at h
  · rename_i hexponent
    rw [if_pos hexponent]
    exact skipExponent_of_exponent h
  · rename_i hexponent
    rw [if_neg hexponent]
    exact congrArg Except.ok (eq_of_ofParts h)

theorem skipBehindWhole_of_fraction (h : fraction negative n start bytes = .ok (v, rest)) :
    skipBehindWhole (0x2E :: bytes) = .ok rest := by
  unfold fraction at h
  split at h
  · cases h
  · split at h
    · cases h
    · rename_i hdigit
      have htail := skipTail_of_afterDigits h
      rw [dropWhile_takeDigits] at htail
      rw [skipBehindWhole, if_neg hdigit, htail]

theorem skipBehindWhole_of_afterWhole (h : afterWhole negative n bytes = .ok (v, rest)) :
    skipBehindWhole bytes = .ok rest := by
  unfold afterWhole at h
  split at h
  · exact skipBehindWhole_of_fraction h
  · rename_i hpoint
    rw [skipBehindWhole_of_ne hpoint, skipTail]
    split at h
    · rename_i hexponent
      rw [if_pos hexponent]
      exact skipExponent_of_exponent h
    · rename_i hexponent
      rw [if_neg hexponent]
      -- whatever the number is, nothing more is read
      have hrest : ∀ {w : Value}, (Except.ok (w, bytes) : Reading) = .ok (v, rest) → bytes = rest :=
        fun h => (Prod.mk.inj (Except.ok.inj h)).2
      split at h
      · exact congrArg Except.ok (hrest h)
      · split at h
        · exact congrArg Except.ok (hrest h)
        · exact congrArg Except.ok (hrest h)

/-- A number that is read is passed over up to the same place. -/
theorem skip_of_read (h : read negative bytes = .ok (v, rest)) : skip bytes = .ok rest := by
  revert h
  fun_cases read negative bytes with
  | case3 behind hdigit =>
      intro h
      rw [skip_cons, if_pos rfl, if_neg hdigit]
      exact skipBehindWhole_of_afterWhole h
  | case4 b behind hzero hdigit whole count after htaken hend =>
      intro h
      have hdrop := dropWhile_takeDigits 0 0 (b :: behind)
      rw [List.dropWhile_cons_of_pos hdigit, htaken] at hdrop
      rw [skip_cons, if_neg hzero, if_pos hdigit, ← hdrop, dropWhile_of_not_atDigit (by simpa using hend)]
      exact skipBehindWhole_of_afterWhole h
  | case5 b behind hzero hdigit whole count after htaken hend more fractional hspan =>
      intro h
      have hdrop := dropWhile_takeDigits 0 0 (b :: behind)
      rw [List.dropWhile_cons_of_pos hdigit, htaken] at hdrop
      rw [List.span_eq_takeWhile_dropWhile] at hspan
      rw [skip_cons, if_neg hzero, if_pos hdigit, ← hdrop, (Prod.mk.inj hspan).2]
      exact skipBehindWhole_of_fraction h
  | case6 b behind hzero hdigit whole count after htaken hend more last hspan hpoint =>
      intro h
      have hdrop := dropWhile_takeDigits 0 0 (b :: behind)
      rw [List.dropWhile_cons_of_pos hdigit, htaken] at hdrop
      rw [List.span_eq_takeWhile_dropWhile] at hspan
      rw [skip_cons, if_neg hzero, if_pos hdigit, ← hdrop, (Prod.mk.inj hspan).2,
        skipBehindWhole_of_ne hpoint]
      exact skipTail_of_afterDigits h
  | _ => exact nofun

/-! Passing over a number moves on. -/

theorem unsigned_suffix (bytes : Bytes) : unsigned bytes <:+ bytes := by
  unfold unsigned
  split
  · split
    · exact List.suffix_cons _ _
    · exact List.suffix_refl _
  · exact List.suffix_refl _

theorem skipTail_suffix (h : skipTail bytes = .ok rest) : rest <:+ bytes := by
  unfold skipTail at h
  split at h
  · rw [skipExponent_eq] at h
    split at h
    · obtain rfl := Except.ok.inj h
      exact ((List.dropWhile_suffix _).trans (unsigned_suffix _)).trans (List.tail_suffix _)
    · cases h
  · obtain rfl := Except.ok.inj h
    exact List.suffix_refl _

theorem skipBehindWhole_suffix (h : skipBehindWhole bytes = .ok rest) : rest <:+ bytes := by
  unfold skipBehindWhole at h
  split at h
  · split at h
    · cases h
    · exact ((skipTail_suffix h).trans (List.dropWhile_suffix _)).trans (List.suffix_cons _ _)
  · exact skipTail_suffix h

theorem length_lt_of_skip (h : skip bytes = .ok rest) : rest.length < bytes.length := by
  cases bytes with
  | nil => cases h
  | cons b behind =>
      rw [List.length_cons, Nat.lt_succ_iff]
      rw [skip_cons] at h
      split at h
      · split at h
        · cases h
        · exact (skipBehindWhole_suffix h).length_le
      · split at h
        · exact ((skipBehindWhole_suffix h).trans (List.dropWhile_suffix _)).length_le
        · cases h

end

end Number

/-! ## Strings -/

section

variable {bytes rest : Bytes}

theorem length_lt_of_fourDigits {n : Nat} (h : fourDigits bytes = .ok (n, rest)) :
    rest.length < bytes.length := by
  unfold fourDigits at h
  split at h
  · split at h
    · obtain rfl := (Prod.mk.inj (Except.ok.inj h)).2
      simp only [List.length_cons]
      omega
    · cases h
  · cases h

/-- A character that is given by its number takes up four digits, or twice four with a mark between. -/
theorem numbered_cases {c : Char} (h : numbered bytes = .ok (c, rest)) :
    (∃ n, fourDigits bytes = .ok (n, rest)) ∨
      ∃ n after low, fourDigits bytes = .ok (n, 0x5C :: 0x75 :: after) ∧
        fourDigits after = .ok (low, rest) := by
  obtain ⟨⟨n, behind⟩, hfirst, hpair⟩ := bind_eq_ok h
  dsimp only at hpair
  split at hpair
  · cases hpair
  · split at hpair
    · obtain rfl := (Prod.mk.inj (Except.ok.inj hpair)).2
      exact .inl ⟨n, hfirst⟩
    · split at hpair
      · cases hpair
      · cases hpair
      · rename_i after
        obtain ⟨⟨low, last⟩, hsecond, hdone⟩ := bind_eq_ok hpair
        dsimp only at hdone
        split at hdone
        · obtain rfl := (Prod.mk.inj (Except.ok.inj hdone)).2
          exact .inr ⟨n, after, low, hfirst, hsecond⟩
        · cases hdone
      · cases hpair

section Steps

variable (steps : Nat)

theorem skipString_quote : skipString (steps + 1) (0x22 :: rest) = .ok rest := rfl

theorem skipString_numbered {n : Nat} (h : fourDigits bytes = .ok (n, rest)) :
    skipString (steps + 1) (0x5C :: 0x75 :: bytes) = skipString steps rest := by
  simp [skipString, h]

theorem skipString_escape {letter byte : UInt8} (h : escapeLetter? letter = some byte) :
    skipString (steps + 1) (0x5C :: letter :: rest) = skipString steps rest := by
  have unnumbered : letter ≠ 0x75 := by
    rintro rfl
    cases h
  simp [skipString, h]

theorem skipString_plain {b : UInt8} (noQuote : b ≠ 0x22) (noEscape : b ≠ 0x5C)
    (noControl : ¬ b.toNat < 0x20) : skipString (steps + 1) (b :: rest) = skipString steps rest := by
  simp [skipString, noQuote, noEscape, noControl]

end Steps

/-- A string that is read is passed over up to the same place. -/
theorem skipString_of_stringFrom {seen : Bytes} {fuel steps : Nat} {s : String}
    (h : stringFrom seen fuel bytes = .ok (s, rest)) (hle : bytes.length ≤ steps) :
    skipString steps bytes = .ok rest ∧ rest.length < bytes.length := by
  -- the reader takes one step for a pair of numbered halves, passing over takes two
  revert h
  fun_induction stringFrom seen fuel bytes generalizing steps with
  | case3 seen fuel behind s' hdecoded =>
      intro h
      obtain rfl := (Prod.mk.inj (Except.ok.inj h)).2
      rw [List.length_cons] at hle ⊢
      obtain ⟨steps, rfl⟩ : ∃ k, steps = k + 1 := ⟨steps - 1, by omega⟩
      exact ⟨skipString_quote steps, by omega⟩
  | case7 seen fuel numbers c behind hnumbered _ ih =>
      intro h
      rw [List.length_cons, List.length_cons] at hle ⊢
      obtain ⟨steps, rfl⟩ : ∃ k, steps = k + 1 := ⟨steps - 1, by omega⟩
      rcases numbered_cases hnumbered with ⟨n, hdigits⟩ | ⟨n, second, low, hfirst, hsecond⟩
      · have hlt := length_lt_of_fourDigits hdigits
        have hbehind : behind.length ≤ steps := by omega
        obtain ⟨hskip, hrest⟩ := ih hbehind h
        rw [skipString_numbered steps hdigits]
        exact ⟨hskip, by omega⟩
      · have hlt := length_lt_of_fourDigits hfirst
        have hlt' := length_lt_of_fourDigits hsecond
        simp only [List.length_cons] at hlt
        obtain ⟨steps, rfl⟩ : ∃ k, steps = k + 1 := ⟨steps - 1, by omega⟩
        have hbehind : behind.length ≤ steps := by omega
        obtain ⟨hskip, hrest⟩ := ih hbehind h
        rw [skipString_numbered _ hfirst, skipString_numbered _ hsecond]
        exact ⟨hskip, by omega⟩
  | case8 seen fuel letter behind _ byte hescape _ ih =>
      intro h
      rw [List.length_cons, List.length_cons] at hle ⊢
      obtain ⟨steps, rfl⟩ : ∃ k, steps = k + 1 := ⟨steps - 1, by omega⟩
      have hbehind : behind.length ≤ steps := by omega
      obtain ⟨hskip, hrest⟩ := ih hbehind h
      rw [skipString_escape steps hescape]
      exact ⟨hskip, by omega⟩
  | case11 seen fuel b behind hquote hescape hcontrol ih =>
      intro h
      rw [List.length_cons] at hle ⊢
      obtain ⟨steps, rfl⟩ : ∃ k, steps = k + 1 := ⟨steps - 1, by omega⟩
      have hbehind : behind.length ≤ steps := by omega
      obtain ⟨hskip, hrest⟩ := ih hbehind h
      rw [skipString_plain steps hquote hescape hcontrol]
      exact ⟨hskip, by omega⟩
  | _ => exact nofun

end

end Json

end DocumentCard
