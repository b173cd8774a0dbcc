import DocumentCard.Proofs.Page.Breaks
import Mathlib.Algebra.GroupWithZero.Nat
import Mathlib.Algebra.Order.BigOperators.Group.List
import Mathlib.Algebra.Order.Group.Nat
import Mathlib.Data.List.Chain
import Mathlib.Data.List.Forall2
set_option autoImplicit false

/-!
# How a text is laid out

A paragraph is a sequence of words, a word longer than a line is a sequence of pieces (`IsCut`), and a layout
puts the pieces into lines (`Packs`): in order, with a single space between two of one line, and with no line
ended before it has to be.  Of all layouts a line by line filling finds this one (`fill_packs`), and everything
that can be said of the lines of a text is read off it.

Main statements: the lines of a text fit, hold its words and nothing else, and start anew with each paragraph
(`wrap_is_sound`); no word is cut without need and no line ended early, and a text that is set in lines
already is set in the same lines again (`wrap_is_greedy`).
-/

namespace DocumentCard.Page.Wrap

open Text (isBlank isAllBlank words unspaced)

/-! ## Lines of words -/

/-- Words with a single space between each two. -/
def joined (words : List (List Char)) : List Char := List.intercalate [' '] words

/-- A word has characters and no blanks. -/
def IsWord (word : List Char) : Prop := word ≠ [] ∧ ∀ c ∈ word, isBlank c = false

theorem isWord_of_mem_words {text word : List Char} (h : word ∈ words text) : IsWord word :=
  ⟨Text.ne_nil_of_mem_words h, Text.not_isBlank_of_mem_words h⟩

theorem joined_singleton (word : List Char) : joined [word] = word := List.intercalate_singleton

theorem joined_cons (word : List Char) {rest : List (List Char)} (h : rest ≠ []) :
    joined (word :: rest) = word ++ ' ' :: joined rest := by
  obtain ⟨next, rest, rfl⟩ := List.exists_cons_of_ne_nil h
  simp [joined, List.intercalate_cons_cons]

theorem joined_concat {line : List (List Char)} (h : line ≠ []) (word : List Char) :
    joined (line ++ [word]) = joined line ++ ' ' :: word := by
  induction line with
  | nil => exact absurd rfl h
  | cons first rest ih =>
      cases rest with
      | nil => simp [joined, List.intercalate_cons_cons]
      | cons next rest =>
          rw [List.cons_append, joined_cons first (List.cons_ne_nil _ _),
            joined_cons first (by simp), ih (List.cons_ne_nil _ _), List.append_assoc]
          rfl

theorem joined_ne_nil {line : List (List Char)} (h : line ≠ []) (whole : ∀ word ∈ line, word ≠ []) :
    joined line ≠ [] := by
  cases line with
  | nil => exact absurd rfl h
  | cons first rest =>
      have hfirst := whole first List.mem_cons_self
      cases rest with
      | nil => rwa [joined_singleton]
      | cons next rest =>
          rw [joined_cons first (List.cons_ne_nil _ _)]
          exact List.append_ne_nil_of_left_ne_nil hfirst _

/-- A line has the characters of its words and a space less than words. -/
theorem length_joined {line : List (List Char)} (h : line ≠ []) :
    (joined line).length + 1 = line.flatten.length + line.length := by
  induction line with
  | nil => exact absurd rfl h
  | cons first rest ih =>
      cases rest with
      | nil => simp [joined_singleton]
      | cons next rest =>
          have hrest := ih (List.cons_ne_nil _ _)
          rw [joined_cons first (List.cons_ne_nil _ _), List.length_append, List.length_cons,
            List.flatten_cons, List.length_append, List.length_cons]
          omega

theorem mem_joined {line : List (List Char)} {c : Char} (h : c ∈ joined line) :
    c = ' ' ∨ ∃ word ∈ line, c ∈ word := by
  induction line with
  | nil => cases h
  | cons first rest ih =>
      cases rest with
      | nil => exact .inr ⟨first, List.mem_cons_self, by rwa [joined_singleton] at h⟩
      | cons next rest =>
          rw [joined_cons first (List.cons_ne_nil _ _), List.mem_append, List.mem_cons] at h
          rcases h with h | h | h
          · exact .inr ⟨first, List.mem_cons_self, h⟩
          · exact .inl h
          · rcases ih h with h | ⟨word, hword, hc⟩
            · exact .inl h
            · exact .inr ⟨word, List.mem_cons_of_mem _ hword, hc⟩

/-- The words of a line are read back from it. -/
theorem words_joined {line : List (List Char)} (h : ∀ word ∈ line, IsWord word) :
    words (joined line) = line := by
  induction line with
  | nil => rfl
  | cons first rest ih =>
      obtain ⟨⟨nonempty, solid⟩, hrest⟩ := List.forall_mem_cons.mp h
      cases rest with
      | nil => rw [joined_singleton, Text.words_of_solid nonempty solid]
      | cons next rest =>
          rw [joined_cons first (List.cons_ne_nil _ _),
            Text.words_append_blank nonempty solid rfl, ih hrest]

/-! ## Pieces of words -/

/-- A word in pieces for lines of `m` characters: one piece if it fits in a line, and else pieces that fill
a line each, but for the last. -/
structure IsCut (m : Nat) (word : List Char) (pieces : List (List Char)) : Prop where
  flatten : pieces.flatten = word
  whole : word.length ≤ m → pieces = [word]
  full : ∀ piece ∈ pieces.dropLast, piece.length = m
  fits : ∀ piece ∈ pieces, piece ≠ [] ∧ piece.length ≤ m

theorem IsCut.ne_nil {m : Nat} {word : List Char} {cut : List (List Char)} (h : IsCut m word cut)
    (nonempty : word ≠ []) : cut ≠ [] := by
  rintro rfl
  exact nonempty h.flatten.symm

theorem pieces_of_le {m : Nat} {word : List Char} (h : word.length ≤ m) : pieces m word = [word] := by
  rw [pieces, dif_pos (.inr (by simpa using h))]

theorem isCut_pieces {m : Nat} (room : 1 ≤ m) (word : List Char) (nonempty : word ≠ []) :
    IsCut m word (pieces m word) := by
  fun_induction pieces m word with
  | case1 word h =>
      have hfits : word.length ≤ m := by
        rcases h with h | h
        · omega
        · simpa using h
      exact ⟨by simp, fun _ => rfl, nofun, by simpa using ⟨nonempty, hfits⟩⟩
  | case2 word h ih =>
      have hlong : m < word.length := by
        rw [not_or] at h
        simpa using h.2
      have hrest : word.drop m ≠ [] := by simpa using hlong
      have hfirst : (word.take m).length = m := List.length_take_of_le (Nat.le_of_lt hlong)
      have cut := ih hrest
      refine ⟨?_, fun hshort => absurd hshort (Nat.not_le_of_lt hlong), ?_, ?_⟩
      · rw [List.flatten_cons, cut.flatten, List.take_append_drop]
      · rw [List.dropLast_cons_of_ne_nil (cut.ne_nil hrest), List.forall_mem_cons]
        exact ⟨hfirst, cut.full⟩
      · rw [List.forall_mem_cons]
        exact ⟨⟨by rw [← List.length_pos_iff]; omega, Nat.le_of_eq hfirst⟩, cut.fits⟩

/-- What a paragraph puts into lines. -/
def allPieces (m : Nat) (paragraph : List Char) : List (List Char) := (words paragraph).flatMap (pieces m)

theorem mem_allPieces {m : Nat} (room : 1 ≤ m) {paragraph piece : List Char}
    (h : piece ∈ allPieces m paragraph) : IsWord piece ∧ piece.length ≤ m := by
  obtain ⟨word, hword, hpiece⟩ := List.mem_flatMap.mp h
  obtain ⟨nonempty, solid⟩ := isWord_of_mem_words hword
  have cut := isCut_pieces room word nonempty
  obtain ⟨hne, hfits⟩ := cut.fits piece hpiece
  refine ⟨⟨hne, fun c hc => solid c ?_⟩, hfits⟩
  rw [← cut.flatten]
  exact List.mem_flatten.mpr ⟨piece, hpiece, hc⟩

theorem flatten_allPieces {m : Nat} (room : 1 ≤ m) (paragraph : List Char) :
    (allPieces m paragraph).flatten = unspaced paragraph := by
  have hcuts : (words paragraph).map (fun word => (pieces m word).flatten) = words paragraph := by
    conv_rhs => rw [← List.map_id (words paragraph)]
    exact List.map_congr_left fun word hword =>
      (isCut_pieces room word (Text.ne_nil_of_mem_words hword)).flatten
  rw [unspaced, ← Text.flatten_words, allPieces, List.flatMap_def, List.flatten_flatten, List.map_map]
  exact congrArg List.flatten hcuts

/-! ## Lines of a paragraph -/

/-- Pieces put into lines of at most `m` characters, each line ended only where the next piece has no
room. -/
structure Packs (m : Nat) (pieces : List (List Char)) (lines : List (List (List Char))) : Prop where
  flatten : lines.flatten = pieces
  filled : ∀ line ∈ lines, line ≠ []
  fits : ∀ line ∈ lines, (joined line).length ≤ m
  greedy : lines.IsChain fun line next =>
    ∃ first ∈ next.head?, m < (joined line).length + 1 + first.length

/-- Filling goes on with the line under way and packs what is left. -/
theorem fill_packs {m : Nat} {line pieces : List (List Char)} (begun : line ≠ [])
    (fits : (joined line).length ≤ m) (whole : ∀ piece ∈ line ++ pieces, piece ≠ [] ∧ piece.length ≤ m) :
    ∃ first later, fill m (joined line) pieces = (first :: later).map joined ∧
      first.head? = line.head? ∧ Packs m (line ++ pieces) (first :: later) := by
  induction pieces generalizing line with
  | nil =>
      refine ⟨line, [], rfl, rfl, by simp, by simpa using begun, by simpa using fits, ?_⟩
      exact .singleton line
  | cons piece rest ih =>
      have hline : joined line ≠ [] :=
        joined_ne_nil begun fun word hword => (whole word (List.mem_append_left _ hword)).1
      have hpiece := whole piece (List.mem_append_right _ List.mem_cons_self)
      rw [fill, if_neg (by simpa using hline)]
      by_cases noRoom : m < (joined line).length + 1 + piece.length
      · -- the line under way is done, and the piece that has no room is the first of the next one
        obtain ⟨first, later, hfill, hhead, packs⟩ := ih (List.cons_ne_nil piece [])
          (by rw [joined_singleton]; exact hpiece.2)
          (fun p hp => whole p (List.mem_append_right _ hp))
        rw [joined_singleton] at hfill
        rw [if_pos noRoom]
        refine ⟨line, first :: later, by rw [hfill]; rfl, rfl, ?_, ?_, ?_, ?_⟩
        · rw [List.flatten_cons, packs.flatten]
          rfl
        · exact List.forall_mem_cons.mpr ⟨begun, packs.filled⟩
        · exact List.forall_mem_cons.mpr ⟨fits, packs.fits⟩
        · exact .cons_cons ⟨piece, hhead, noRoom⟩ packs.greedy
      · rw [if_neg noRoom, ← joined_concat begun piece]
        obtain ⟨first, later, hfill, hhead, packs⟩ := ih (List.append_ne_nil_of_left_ne_nil begun [piece])
          (by rw [joined_concat begun, List.length_append, List.length_cons]; omega)
          (by rw [List.append_assoc]; exact whole)
        rw [List.append_assoc] at packs
        refine ⟨first, later, hfill, ?_, packs⟩
        rw [hhead, List.head?_append_of_ne_nil _ begun]

/-- A paragraph with words is packed; one without has one empty line. -/
theorem paragraph_packs {m : Nat} (room : 1 ≤ m) (text : List Char) :
    (words text = [] ∧ paragraph m text = [[]]) ∨
      words text ≠ [] ∧ ∃ lines, lines ≠ [] ∧ paragraph m text = lines.map joined ∧
        Packs m (allPieces m text) lines := by
  have whole : ∀ piece ∈ allPieces m text, piece ≠ [] ∧ piece.length ≤ m := fun piece hpiece =>
    ⟨(mem_allPieces room hpiece).1.1, (mem_allPieces room hpiece).2⟩
  have hparagraph : paragraph m text = fill m [] (allPieces m text) := rfl
  rw [hparagraph]
  cases hwords : words text with
  | nil => exact .inl ⟨rfl, by rw [allPieces, hwords]; rfl⟩
  | cons word rest =>
      refine .inr ⟨List.cons_ne_nil _ _, ?_⟩
      have hsome : allPieces m text ≠ [] := by
        have hword : word ≠ [] := Text.ne_nil_of_mem_words (hwords ▸ List.mem_cons_self)
        rw [allPieces, hwords, List.flatMap_cons]
        exact List.append_ne_nil_of_left_ne_nil ((isCut_pieces room word hword).ne_nil hword) _
      obtain ⟨piece, later, hpieces⟩ := List.exists_cons_of_ne_nil hsome
      rw [hpieces] at whole
      rw [hpieces, fill, if_pos List.isEmpty_nil]
      have hfirst := whole piece List.mem_cons_self
      obtain ⟨first, rest, hfill, -, packs⟩ := fill_packs (List.cons_ne_nil piece [])
        (by rw [joined_singleton]; exact hfirst.2) whole
      rw [joined_singleton] at hfill
      exact ⟨first :: rest, List.cons_ne_nil _ _, hfill, packs⟩

/-- The lines in which a paragraph is set. -/
structure Sets (m : Nat) (paragraph : List Char) (lines : List (List Char)) : Prop where
  letters : lines.flatMap unspaced = unspaced paragraph
  blank : isAllBlank paragraph = true → lines = [[]]
  filled : isAllBlank paragraph = false → lines ≠ [] ∧ ∀ line ∈ lines, line ≠ []

/-- The lines of a paragraph as a filling line by line makes them: words are cut only where they are longer
than a line, and a line is ended only where the word or piece behind it has no room. -/
structure Greedy (m : Nat) (paragraph : List Char) (lines : List (List Char)) : Prop where
  cut : ∃ cuts, List.Forall₂ (IsCut m) (words paragraph) cuts ∧ lines.flatMap words = cuts.flatten
  late : lines.IsChain fun line next =>
    ∃ first ∈ (words next).head?, m < line.length + 1 + first.length

theorem words_eq_nil_iff (text : List Char) : words text = [] ↔ isAllBlank text = true := by
  constructor
  · intro h
    have hnone : unspaced text = [] := by rw [unspaced, ← Text.flatten_words, h, List.flatten_nil]
    simpa [unspaced, isAllBlank] using hnone
  · intro h
    have hnone : (words text).flatten = [] := by
      rw [Text.flatten_words]
      simpa [isAllBlank] using h
    rw [List.flatten_eq_nil_iff] at hnone
    rw [List.eq_nil_iff_forall_not_mem]
    intro word hword
    exact Text.ne_nil_of_mem_words hword (hnone word hword)

section Paragraph

variable {m : Nat} {text : List Char} {lines : List (List (List Char))}

theorem Packs.whole (packs : Packs m (allPieces m text) lines) (room : 1 ≤ m) :
    ∀ line ∈ lines, ∀ piece ∈ line, IsWord piece ∧ piece.length ≤ m := by
  intro line hline piece hpiece
  have hmem : piece ∈ allPieces m text := by
    rw [← packs.flatten]
    exact List.mem_flatten.mpr ⟨line, hline, hpiece⟩
  exact mem_allPieces room hmem

/-- The pieces in the lines of a paragraph are the words of the lines. -/
theorem Packs.words_eq (packs : Packs m (allPieces m text) lines) (room : 1 ≤ m) :
    ∀ line ∈ lines, words (joined line) = line :=
  fun line hline => words_joined fun piece hpiece => (packs.whole room line hline piece hpiece).1

theorem sets_paragraph (room : 1 ≤ m) (text : List Char) : Sets m text (paragraph m text) := by
  rcases paragraph_packs room text with ⟨hnone, hlines⟩ | ⟨hsome, lines, hne, hlines, packs⟩
  · have hblank : isAllBlank text = true := (words_eq_nil_iff text).mp hnone
    have hletters : unspaced text = [] := by rw [unspaced, ← Text.flatten_words, hnone]; rfl
    rw [hlines]
    exact ⟨hletters.symm, fun _ => rfl, fun h => absurd hblank (by simp [h])⟩
  · have hfilled : isAllBlank text ≠ true := fun h => hsome ((words_eq_nil_iff text).mpr h)
    rw [hlines]
    refine ⟨?_, fun h => absurd h hfilled, fun _ => ⟨by simpa using hne, ?_⟩⟩
    · have hletters : ∀ line ∈ lines, unspaced (joined line) = line.flatten := fun line hline => by
        rw [unspaced, ← Text.flatten_words, packs.words_eq room line hline]
      calc (lines.map joined).flatMap unspaced
          = lines.flatMap fun line => unspaced (joined line) := List.flatMap_map ..
        _ = lines.flatMap List.flatten := List.flatMap_congr hletters
        _ = lines.flatten.flatten := by rw [List.flatMap_def, List.flatten_flatten]
        _ = unspaced text := by rw [packs.flatten, flatten_allPieces room]
    · rintro _ h
      obtain ⟨line, hline, rfl⟩ := List.mem_map.mp h
      exact joined_ne_nil (packs.filled line hline) fun piece hpiece =>
        (packs.whole room line hline piece hpiece).1.1

theorem greedy_paragraph (room : 1 ≤ m) (text : List Char) : Greedy m text (paragraph m text) := by
  have cuts : List.Forall₂ (IsCut m) (words text) ((words text).map (pieces m)) := by
    rw [List.forall₂_map_right_iff, List.forall₂_same]
    exact fun word hword => isCut_pieces room word (Text.ne_nil_of_mem_words hword)
  have hcuts : ((words text).map (pieces m)).flatten = allPieces m text := List.flatMap_def.symm
  rcases paragraph_packs room text with ⟨hnone, hlines⟩ | ⟨-, lines, -, hlines, packs⟩
  · rw [hlines]
    refine ⟨⟨_, cuts, ?_⟩, .singleton _⟩
    rw [hcuts, allPieces, hnone]
    rfl
  · rw [hlines]
    refine ⟨⟨_, cuts, ?_⟩, ?_⟩
    · rw [hcuts, ← packs.flatten, List.flatMap_map, List.flatMap_congr (packs.words_eq room),
        List.flatMap_def, List.map_id']
    · rw [List.isChain_map]
      refine packs.greedy.imp_of_mem_imp fun line next _ hnext hlate => ?_
      rwa [packs.words_eq room next hnext]

/-- What fits in the line under way is put there. -/
theorem fill_fitting {line pieces : List (List Char)} (begun : line ≠ [])
    (whole : ∀ word ∈ line ++ pieces, word ≠ []) (fits : (joined (line ++ pieces)).length ≤ m) :
    fill m (joined line) pieces = [joined (line ++ pieces)] := by
  induction pieces generalizing line with
  | nil => rw [List.append_nil, fill]
  | cons piece rest ih =>
      have hline : joined line ≠ [] :=
        joined_ne_nil begun fun word hword => whole word (List.mem_append_left _ hword)
      have hfits : ¬ m < (joined line).length + 1 + piece.length := by
        have hbegun := length_joined begun
        have hall := length_joined (List.append_ne_nil_of_left_ne_nil begun (piece :: rest))
        simp only [List.flatten_append, List.flatten_cons, List.length_append, List.length_cons] at hall
        omega
      rw [fill, if_neg (by simpa using hline), if_neg hfits, ← joined_concat begun piece,
        ih (by simp) (by rwa [List.append_assoc]) (by rwa [List.append_assoc]), List.append_assoc]
      rfl

/-- A line is set in one line. -/
theorem paragraph_joined {line : List (List Char)} (begun : line ≠ [])
    (whole : ∀ word ∈ line, IsWord word ∧ word.length ≤ m) (fits : (joined line).length ≤ m) :
    paragraph m (joined line) = [joined line] := by
  have hpieces : (words (joined line)).flatMap (pieces m) = line := by
    rw [words_joined fun word hword => (whole word hword).1,
      List.flatMap_congr fun word hword => pieces_of_le (whole word hword).2, List.flatMap_singleton']
  rw [paragraph, hpieces]
  obtain ⟨first, rest, rfl⟩ := List.exists_cons_of_ne_nil begun
  rw [fill, if_pos List.isEmpty_nil]
  have hfill : fill m (joined [first]) rest = [joined (first :: rest)] :=
    fill_fitting (List.cons_ne_nil first []) (fun word hword => (whole word hword).1.1) fits
  rwa [joined_singleton] at hfill

/-- A line fits, has single spaces between its words and no line end in it, and is set in itself. -/
theorem of_mem_paragraph (room : 1 ≤ m) {line : List Char} (h : line ∈ paragraph m text) :
    line.length ≤ m ∧ joined (words line) = line ∧ '\n' ∉ line ∧ paragraph m line = [line] := by
  rcases paragraph_packs room text with ⟨-, hlines⟩ | ⟨-, lines, -, hlines, packs⟩
  · rw [hlines, List.mem_singleton] at h
    subst h
    exact ⟨Nat.zero_le m, rfl, nofun, rfl⟩
  · rw [hlines, List.mem_map] at h
    obtain ⟨line, hline, rfl⟩ := h
    have whole := packs.whole room line hline
    refine ⟨packs.fits line hline, by rw [packs.words_eq room line hline], fun hend => ?_,
      paragraph_joined (packs.filled line hline) whole (packs.fits line hline)⟩
    rcases mem_joined hend with hspace | ⟨word, hword, hc⟩
    · cases hspace
    · exact absurd ((whole word hword).1.2 _ hc) (by decide)

theorem length_le_length_flatten {α : Type} {parts : List (List α)} (h : ∀ part ∈ parts, part ≠ []) :
    parts.length ≤ parts.flatten.length := by
  induction parts with
  | nil => exact Nat.le_refl 0
  | cons part rest ih =>
      obtain ⟨hpart, hrest⟩ := List.forall_mem_cons.mp h
      have hpos := List.length_pos_iff.mpr hpart
      have := ih hrest
      rw [List.length_cons, List.flatten_cons, List.length_append]
      omega

/-- A paragraph has no more lines than letters, if it has any. -/
theorem length_paragraph_le (room : 1 ≤ m) (text : List Char) :
    (paragraph m text).length ≤ text.length + 1 := by
  rcases paragraph_packs room text with ⟨-, hlines⟩ | ⟨-, lines, -, hlines, packs⟩
  · rw [hlines, List.length_singleton]
    omega
  · rw [hlines, List.length_map]
    calc lines.length ≤ lines.flatten.length := length_le_length_flatten packs.filled
      _ = (allPieces m text).length := by rw [packs.flatten]
      _ ≤ (allPieces m text).flatten.length :=
          length_le_length_flatten fun piece hpiece => (mem_allPieces room hpiece).1.1
      _ = (unspaced text).length := by rw [flatten_allPieces room]
      _ ≤ text.length := List.length_filter_le ..
      _ ≤ text.length + 1 := Nat.le_succ _

end Paragraph

/-- Every piece of a text goes with the separator behind it, and the last one with the end of the text. -/
theorem sum_length_splitAt (sep : Char) (cs : List Char) :
    ((Text.splitAt sep cs).map fun piece => piece.length + 1).sum = cs.length + 1 := by
  induction cs with
  | nil => rfl
  | cons c rest ih =>
      obtain ⟨piece, pieces, hsplit⟩ := List.exists_cons_of_ne_nil (Text.splitAt_ne_nil sep rest)
      rw [hsplit, List.map_cons, List.sum_cons] at ih
      rw [Text.splitAt, hsplit, List.length_cons]
      by_cases h : c = sep
      · simp only [h, if_true, List.map_cons, List.sum_cons, List.length_nil]
        omega
      · simp only [h, if_false, List.map_cons, List.sum_cons, List.length_cons]
        omega

theorem limit_pos (font : Font) (size width : Single) : 1 ≤ limit font size width := Nat.le_max_left ..

end DocumentCard.Page.Wrap

namespace DocumentCard.Page

open Text (unspaced words)
open Wrap (joined Sets Greedy limit)

/-- The lines of a text are those of its paragraphs. -/
theorem wrap_eq_flatten (text : List Char) (font : Font) (size width : Single) :
    wrap text font size width
      = ((text.splitOn '\n').map (Wrap.paragraph (limit font size width))).flatten := by
  rw [wrap, Wrap.lines, Text.splitAt_eq_splitOn, List.flatMap_def]

theorem mem_wrap {text line : List Char} {font : Font} {size width : Single}
    (h : line ∈ wrap text font size width) :
    ∃ paragraph, line ∈ Wrap.paragraph (limit font size width) paragraph := by
  obtain ⟨paragraph, -, h⟩ := List.mem_flatMap.mp h
  exact ⟨paragraph, h⟩

/-- The lines of a text fit and hold its words, whatever the column.

A line has room for at least one character, and there are not more lines than characters and one.  No line has
more characters than there is room for, and all its blanks are single spaces between two words.  Without their
blanks the lines are the text without its blanks.  The lines of a paragraph follow each other: an empty one if
nothing is in the paragraph, and else lines of which none is empty. -/
theorem wrap_is_sound (text : List Char) (font : Font) (size width : Single) :
    let m := limit font size width
    let lines := wrap text font size width
    1 ≤ m ∧ lines.length ≤ text.length + 1 ∧
      (∀ line ∈ lines, line.length ≤ m ∧ joined (words line) = line) ∧
      lines.flatMap unspaced = unspaced text ∧
      ∃ parts, lines = parts.flatten ∧ List.Forall₂ (Sets m) (text.splitOn '\n') parts := by
  intro m lines
  have room : 1 ≤ m := Wrap.limit_pos font size width
  have hlines : lines = (Text.splitAt '\n' text).flatMap (Wrap.paragraph m) := rfl
  refine ⟨room, ?_, ?_, ?_, ?_⟩
  · calc lines.length
        = ((Text.splitAt '\n' text).map fun paragraph => (Wrap.paragraph m paragraph).length).sum := by
          rw [hlines, List.length_flatMap]
      _ ≤ ((Text.splitAt '\n' text).map fun paragraph => paragraph.length + 1).sum :=
          List.sum_le_sum fun paragraph _ => Wrap.length_paragraph_le room paragraph
      _ = text.length + 1 := Wrap.sum_length_splitAt '\n' text
  · intro line hline
    obtain ⟨paragraph, hparagraph⟩ := mem_wrap hline
    obtain ⟨fits, spaced, -⟩ := Wrap.of_mem_paragraph room hparagraph
    exact ⟨fits, spaced⟩
  · calc lines.flatMap unspaced
        = (Text.splitAt '\n' text).flatMap fun paragraph => (Wrap.paragraph m paragraph).flatMap unspaced := by
          rw [hlines, List.flatMap_assoc]
      _ = (Text.splitAt '\n' text).flatMap unspaced :=
          List.flatMap_congr fun paragraph _ => (Wrap.sets_paragraph room paragraph).letters
      _ = unspaced text := Text.flatMap_unspaced_splitAt rfl text
  · refine ⟨_, wrap_eq_flatten text font size width, ?_⟩
    rw [List.forall₂_map_right_iff, List.forall₂_same]
    exact fun paragraph _ => Wrap.sets_paragraph room paragraph

/-- The lines of a text are filled one after another, and are lines of their own text.

In each paragraph a word that fits in a line is whole, a longer one is cut into pieces that fill a line, but
for the last; and the first word or piece of a line has no room behind the line before.  Lines that are
taken for a text, each of them a paragraph, are set in the same lines. -/
theorem wrap_is_greedy (text : List Char) (font : Font) (size width : Single) :
    let m := limit font size width
    let lines := wrap text font size width
    (∃ parts, lines = parts.flatten ∧ List.Forall₂ (Greedy m) (text.splitOn '\n') parts) ∧
      wrap (['\n'].intercalate lines) font size width = lines := by
  intro m lines
  have room : 1 ≤ m := Wrap.limit_pos font size width
  constructor
  · refine ⟨_, wrap_eq_flatten text font size width, ?_⟩
    rw [List.forall₂_map_right_iff, List.forall₂_same]
    exact fun paragraph _ => Wrap.greedy_paragraph room paragraph
  · have known : ∀ line ∈ lines, '\n' ∉ line ∧ Wrap.paragraph m line = [line] := by
      intro line hline
      obtain ⟨paragraph, hparagraph⟩ := mem_wrap hline
      exact (Wrap.of_mem_paragraph room hparagraph).2.2
    have hsplit : (['\n'].intercalate lines).splitOn '\n' = lines :=
      List.splitOn_intercalate '\n' (fun line hline => (known line hline).1) (wrap_ne_nil text font size width)
    calc wrap (['\n'].intercalate lines) font size width
        = lines.flatMap (Wrap.paragraph m) := by
          rw [wrap, Wrap.lines, Text.splitAt_eq_splitOn, hsplit]
      _ = lines.flatMap fun line => [line] := List.flatMap_congr fun line hline => (known line hline).2
      _ = lines := List.flatMap_singleton' lines

end DocumentCard.Page
