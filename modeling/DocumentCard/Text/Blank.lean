set_option autoImplicit false

/-!
# Blank characters and words

A blank is a character with the Unicode property `White_Space`; there are twenty-five of them.
File names, language codes and settings are judged after trimming blanks at both ends, and a text
is laid out word by word, a word being a longest run without blanks.

Main statements: words hold no blank and are never empty (`not_isBlank_of_mem_words`,
`ne_nil_of_mem_words`), taken together they are the text without its blanks (`flatten_words`), and a word
goes up to the first blank behind it (`words_append_blank`).
-/

namespace DocumentCard.Text

/-- The property `White_Space`. -/
def isBlank (c : Char) : Bool :=
  let n := c.toNat
  (9 ≤ n && n ≤ 13) || n == 0x20 || n == 0x85 || n == 0xA0 || n == 0x1680
    || (0x2000 ≤ n && n ≤ 0x200A) || n == 0x2028 || n == 0x2029 || n == 0x202F
    || n == 0x205F || n == 0x3000

/-- A text without the blanks at its two ends. -/
def trimmed (cs : List Char) : List Char :=
  ((cs.dropWhile isBlank).reverse.dropWhile isBlank).reverse

/-- Nothing but blanks, or nothing at all. -/
def isAllBlank (cs : List Char) : Bool := cs.all isBlank

/-- The words of a text; `word` holds the characters of the word being read, last first. -/
def wordsFrom (word : List Char) : List Char → List (List Char)
  | [] => if word.isEmpty then [] else [word.reverse]
  | c :: rest =>
      if isBlank c then
        if word.isEmpty then wordsFrom [] rest else word.reverse :: wordsFrom [] rest
      else wordsFrom (c :: word) rest

/-- The words of a text, in order. -/
def words (cs : List Char) : List (List Char) := wordsFrom [] cs

/-- The pieces of a text between the occurrences of one character. -/
def splitAt (sep : Char) : List Char → List (List Char)
  | [] => [[]]
  | c :: rest =>
      match splitAt sep rest with
      | [] => [[c]]
      | piece :: pieces => if c = sep then [] :: piece :: pieces else (c :: piece) :: pieces

theorem ne_nil_of_mem_wordsFrom {word cs w : List Char} (h : w ∈ wordsFrom word cs) : w ≠ [] := by
  induction cs generalizing word with
  | nil =>
      unfold wordsFrom at h
      split at h
      · simp at h
      · rename_i hne
        simp only [List.mem_singleton] at h
        subst h
        simpa using hne
  | cons c rest ih =>
      unfold wordsFrom at h
      split at h
      · split at h
        · exact ih h
        · rename_i hne
          rcases List.mem_cons.1 h with rfl | h'
          · simpa using hne
          · exact ih h'
      · exact ih h

/-- A word has at least one character. -/
theorem ne_nil_of_mem_words {cs w : List Char} (h : w ∈ words cs) : w ≠ [] :=
  ne_nil_of_mem_wordsFrom h

theorem not_isBlank_of_mem_wordsFrom {word cs w : List Char}
    (hw : ∀ c ∈ word, isBlank c = false) (h : w ∈ wordsFrom word cs) :
    ∀ c ∈ w, isBlank c = false := by
  induction cs generalizing word with
  | nil =>
      unfold wordsFrom at h
      split at h
      · simp at h
      · simp only [List.mem_singleton] at h
        subst h
        simpa using hw
  | cons c rest ih =>
      unfold wordsFrom at h
      split at h
      · split at h
        · exact ih (by simp) h
        · rcases List.mem_cons.1 h with rfl | h'
          · simpa using hw
          · exact ih (by simp) h'
      · rename_i hc
        refine ih ?_ h
        intro x hx
        rcases List.mem_cons.1 hx with rfl | hx'
        · simpa using hc
        · exact hw x hx'

/-- A word holds no blank. -/
theorem not_isBlank_of_mem_words {cs w : List Char} (h : w ∈ words cs) :
    ∀ c ∈ w, isBlank c = false :=
  not_isBlank_of_mem_wordsFrom (by simp) h

theorem flatten_wordsFrom (word cs : List Char) :
    (wordsFrom word cs).flatten = word.reverse ++ cs.filter (fun c => !isBlank c) := by
  induction cs generalizing word with
  | nil =>
      unfold wordsFrom
      split
      · rename_i h
        simp_all
      · simp
  | cons c rest ih =>
      unfold wordsFrom
      by_cases hc : isBlank c = true
      · by_cases he : word.isEmpty = true
        · have hw : word = [] := by simpa using he
          subst hw
          simp [hc, ih]
        · simp [hc, he, ih]
      · simp [hc, ih]

/-- The words of a text, run together, are the text without its blanks. -/
theorem flatten_words (cs : List Char) :
    (words cs).flatten = cs.filter (fun c => !isBlank c) := by
  simp [words, flatten_wordsFrom]

/-- Characters that are no blanks go on with the word being read. -/
theorem wordsFrom_append {w : List Char} (solid : ∀ c ∈ w, isBlank c = false) (word rest : List Char) :
    wordsFrom word (w ++ rest) = wordsFrom (w.reverse ++ word) rest := by
  induction w generalizing word with
  | nil => rfl
  | cons c w ih =>
      obtain ⟨hc, hw⟩ := List.forall_mem_cons.mp solid
      rw [List.cons_append, wordsFrom, hc, List.reverse_cons, List.append_assoc]
      exact ih hw (c :: word)

/-- What holds no blank is one word. -/
theorem words_of_solid {w : List Char} (nonempty : w ≠ []) (solid : ∀ c ∈ w, isBlank c = false) :
    words w = [w] := by
  have h := wordsFrom_append solid [] []
  rw [List.append_nil, List.append_nil] at h
  rw [words, h, wordsFrom, if_neg (by simpa using nonempty), List.reverse_reverse]

/-- A word ends at the first blank. -/
theorem words_append_blank {w : List Char} (nonempty : w ≠ []) (solid : ∀ c ∈ w, isBlank c = false)
    {c : Char} (blank : isBlank c = true) (rest : List Char) :
    words (w ++ c :: rest) = w :: words rest := by
  rw [words, wordsFrom_append solid, List.append_nil, wordsFrom, if_pos blank,
    if_neg (by simpa using nonempty), List.reverse_reverse, words]

theorem splitAt_ne_nil (sep : Char) (cs : List Char) : splitAt sep cs ≠ [] := by
  cases cs with
  | nil => simp [splitAt]
  | cons c rest =>
      unfold splitAt
      split
      · simp
      · split <;> simp

/-- The pieces between the occurrences of a character are those that the library splits off. -/
theorem splitAt_eq_splitOn (sep : Char) (cs : List Char) : splitAt sep cs = cs.splitOn sep := by
  induction cs with
  | nil => rfl
  | cons c rest ih =>
      obtain ⟨piece, pieces, hsplit⟩ := List.exists_cons_of_ne_nil (splitAt_ne_nil sep rest)
      rw [List.splitOn_cons_eq_if_modifyHead, ← ih, splitAt, hsplit]
      by_cases h : c = sep <;> simp [h]

/-- A text without its blanks. -/
def unspaced (text : List Char) : List Char := text.filter fun c => !isBlank c

/-- Separators that are blanks are not missed in a text without its blanks. -/
theorem flatMap_unspaced_splitAt {sep : Char} (blank : isBlank sep = true) (cs : List Char) :
    (splitAt sep cs).flatMap unspaced = unspaced cs := by
  induction cs with
  | nil => rfl
  | cons c rest ih =>
      obtain ⟨piece, pieces, hsplit⟩ := List.exists_cons_of_ne_nil (splitAt_ne_nil sep rest)
      rw [hsplit, List.flatMap_cons] at ih
      rw [splitAt, hsplit, unspaced, List.filter_cons]
      by_cases h : c = sep
      · rw [h, blank]
        simpa [unspaced] using ih
      · by_cases hc : isBlank c = true
        · simpa [h, unspaced, hc] using ih
        · simpa [h, unspaced, hc] using ih

end DocumentCard.Text
