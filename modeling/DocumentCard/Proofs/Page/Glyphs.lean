import DocumentCard.Proofs.Page.Layout
import DocumentCard.Page.WinAnsi
import Mathlib.Data.Bool.AllAny
set_option autoImplicit false

/-!
# How wide a line becomes

A line has room for so many characters, and it is filled with the characters of the text.  What is drawn are
the letters by which these are spelled.  A character takes up to four of them (`glyphs_le_four`); more than one
are taken by eight letters of the alphabet, small and capital, and by one sign (`one_lt_glyphs_iff`).  Whether a
lowercase character follows decides on the case of the letters and not on their number (`length_encodeChar`),
so the width of a line is the sum of the widths of its characters.

Main statement: a line without wide characters fits when it is drawn, and one of wide characters may become
four times as wide as its column, in every column (`lines_are_filled_unspelled`).
-/

namespace DocumentCard.Page.WinAnsi

/-- How many letters and signs are drawn for a character. -/
def glyphs (c : Char) : Nat := (encodeChar false c).length

theorem length_capitalized (nextIsSmall : Bool) (latin : List Char) :
    (capitalized nextIsSmall latin).length = latin.length := by
  cases latin with
  | nil => rfl
  | cons first rest => cases nextIsSmall <;> simp [capitalized]

/-- What follows a character does not change its width. -/
theorem length_encodeChar (nextIsSmall : Bool) (c : Char) :
    (encodeChar nextIsSmall c).length = glyphs c := by
  unfold glyphs encodeChar
  cases spelling? c with
  | none => rfl
  | some spelling =>
      cases spelling with
      | small latin => rfl
      | capital latin => simp [Bytes.latin1, length_capitalized]

/-- A text is as wide as its characters together. -/
theorem length_encode (text : List Char) : (encode text).length = (text.map glyphs).sum := by
  induction text with
  | nil => rfl
  | cons c rest ih =>
      rw [encode, List.length_append, length_encodeChar, ih, List.map_cons, List.sum_cons]

/-- The characters that have a spelling. -/
def spelled : List Char := letters.flatMap fun (lower, upper, _) => [lower, upper]

/-- The characters that take more than one glyph. -/
def wide : List Char := "жхцчшщюяЖХЦЧШЩЮЯ№".toList

theorem spelling?_eq_none {c : Char} (h : c ∉ spelled) : spelling? c = none := by
  rw [spelling?, List.findSome?_eq_none_iff]
  intro entry hentry
  have hother : c ∉ [entry.1, entry.2.1] := fun hc => h (List.mem_flatMap.mpr ⟨entry, hentry, hc⟩)
  rw [List.mem_cons, List.mem_singleton, not_or] at hother
  simp [hother.1, hother.2]

theorem length_encodeOther_le {c : Char} (h : c ≠ '№') : (encodeOther c).length ≤ 1 := by
  unfold encodeOther
  simp only [if_neg h]
  split_ifs <;> simp

/-- A character takes more than one glyph if and only if it is one of the wide ones. -/
theorem one_lt_glyphs_iff (c : Char) : 1 < glyphs c ↔ c ∈ wide := by
  by_cases h : c ∈ spelled
  · -- as a check of the list, since deciding the statement itself can mean to run over all characters
    have all : ∀ c ∈ spelled, (1 < glyphs c ↔ c ∈ wide) := List.all_iff_forall_prop.mp (by decide +kernel)
    exact all c h
  · -- of what has no spelling, only the numero sign is not a single byte
    by_cases hnumero : c = '№'
    · subst hnumero
      decide +kernel
    · have hnarrow : glyphs c ≤ 1 := by
        rw [glyphs, encodeChar, spelling?_eq_none h]
        exact length_encodeOther_le hnumero
      have hspelled : ∀ c ∈ wide, c ∈ '№' :: spelled := List.all_iff_forall_prop.mp (by decide +kernel)
      constructor
      · intro hwide
        omega
      · intro hwide
        rcases List.mem_cons.mp (hspelled c hwide) with hc | hc
        · exact absurd hc hnumero
        · exact absurd hc h

/-- No character takes more than four glyphs. -/
theorem glyphs_le_four (c : Char) : glyphs c ≤ 4 := by
  by_cases h : c ∈ wide
  · have all : ∀ c ∈ wide, glyphs c ≤ 4 := List.all_iff_forall_prop.mp (by decide +kernel)
    exact all c h
  · have hnarrow := mt (one_lt_glyphs_iff c).mp h
    omega

theorem sum_glyphs_le (bound : Nat) {text : List Char} (h : ∀ c ∈ text, glyphs c ≤ bound) :
    (text.map glyphs).sum ≤ bound * text.length := by
  induction text with
  | nil => exact Nat.zero_le _
  | cons c rest ih =>
      obtain ⟨hc, hrest⟩ := List.forall_mem_cons.mp h
      have := ih hrest
      rw [List.map_cons, List.sum_cons, List.length_cons, Nat.mul_succ]
      omega

end DocumentCard.Page.WinAnsi

namespace DocumentCard.Page

open Wrap (limit)
open WinAnsi (encode glyphs wide)

/-- A word of as many letters as a line has room for takes one line. -/
theorem wrap_replicate {c : Char} (solid : Text.isBlank c = false) (font : Font) (size width : Single) :
    let word := List.replicate (limit font size width) c
    wrap word font size width = [word] := by
  intro word
  have room := Wrap.limit_pos font size width
  have hlength : word.length = limit font size width := List.length_replicate
  have hword : Wrap.IsWord word := by
    refine ⟨by rw [← List.length_pos_iff]; omega, fun other hother => ?_⟩
    rwa [List.eq_of_mem_replicate hother]
  have hend : '\n' ∉ word := fun h => absurd (hword.2 _ h) (by decide)
  have hparagraph : Wrap.paragraph (limit font size width) word = [word] := by
    have hjoined := Wrap.paragraph_joined (List.cons_ne_nil word [])
      (by simpa using ⟨hword, Nat.le_of_eq hlength⟩)
      (by rw [Wrap.joined_singleton]; exact Nat.le_of_eq hlength)
    rwa [Wrap.joined_singleton] at hjoined
  have hsplit : word.splitOn '\n' = [word] := by
    have hback := List.splitOn_intercalate '\n' (by simpa using hend) (List.cons_ne_nil word [])
    rwa [List.intercalate_singleton] at hback
  rw [wrap, Wrap.lines, Text.splitAt_eq_splitOn, hsplit, List.flatMap_singleton, hparagraph]

/-- Lines are filled with the characters of a text before these are spelled.

A line has no more characters than there is room for; drawn, it has the glyphs of its characters, and so fits if
none of them is wide.  Otherwise it may have up to four times as many glyphs as there is room for.  Every column
has a text with a line that has so many. -/
theorem lines_are_filled_unspelled (font : Font) (size width : Single) :
    let m := limit font size width
    (∀ text, ∀ line ∈ wrap text font size width,
      line.length ≤ m ∧ (encode line).length = (line.map glyphs).sum ∧
        ((∀ c ∈ line, c ∉ wide) → (encode line).length ≤ m) ∧ (encode line).length ≤ 4 * m) ∧
      ∃ text line, wrap text font size width = [line] ∧ (encode line).length = 4 * m := by
  intro m
  constructor
  · intro text line hline
    obtain ⟨paragraph, hparagraph⟩ := mem_wrap hline
    obtain ⟨hfits, -⟩ := Wrap.of_mem_paragraph (Wrap.limit_pos font size width) hparagraph
    refine ⟨hfits, WinAnsi.length_encode line, fun narrow => ?_, ?_⟩
    · have hone : ∀ c ∈ line, glyphs c ≤ 1 := fun c hc =>
        Nat.le_of_not_lt (mt (WinAnsi.one_lt_glyphs_iff c).mp (narrow c hc))
      calc (encode line).length = (line.map glyphs).sum := WinAnsi.length_encode line
        _ ≤ 1 * line.length := WinAnsi.sum_glyphs_le 1 hone
        _ ≤ m := by rw [Nat.one_mul]; exact hfits
    · calc (encode line).length = (line.map glyphs).sum := WinAnsi.length_encode line
        _ ≤ 4 * line.length := WinAnsi.sum_glyphs_le 4 fun c _ => WinAnsi.glyphs_le_four c
        _ ≤ 4 * m := Nat.mul_le_mul_left 4 hfits
  · refine ⟨List.replicate m 'щ', _, wrap_replicate rfl font size width, ?_⟩
    have hfour : glyphs 'щ' = 4 := by decide +kernel
    rw [WinAnsi.length_encode, List.map_replicate, hfour, List.sum_replicate_nat, Nat.mul_comm]

/-- Two words of one letter take one line of four characters, and nine glyphs. -/
theorem wide_line_overruns :
    let size := Single.ofInt 10
    let width := Single.ofInt 21
    limit .regular size width = 4 ∧ wrap "щ щ".toList .regular size width = ["щ щ".toList] ∧
      encode "щ щ".toList = Bytes.ascii "shch shch" ∧
      limit .regular size width < (encode "щ щ".toList).length := by
  decide +kernel

end DocumentCard.Page
