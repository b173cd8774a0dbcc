import DocumentCard.Page.Flow
set_option autoImplicit false

/-!
# No text breaks out of its string

Whatever is written on a page, its content consists of as many lines as things are drawn, all of them in
printable ASCII, and in the line of a text nothing but the text stands between the two parentheses.

A line is made of parts with spaces between (`Draw.spaced_around`).  All parts but strings are bare: they
hold no parenthesis (`Draw.isBare_of_mem_place` and so on).  So a string has the only parentheses of its
line that stand for themselves.

Main statement: a reader finds every text of a page as it was written, and stops where it ends
(`content_is_safe`).
-/

namespace DocumentCard.Page

open Pdf.Literal (escaped escapedByte octal)

/-! ## Characters -/

/-- Whether the character is printable ASCII. -/
def isPrintable (c : Char) : Bool := 0x20 ≤ c.toNat && c.toNat ≤ 0x7E

/-- Whether the character is printable ASCII and no parenthesis. -/
def isBare (c : Char) : Bool := isPrintable c && c ≠ '(' && c ≠ ')'

theorem isPrintable_of_isBare {c : Char} (h : isBare c = true) : isPrintable c = true := by
  simp only [isBare, Bool.and_eq_true] at h
  exact h.1.1

theorem isBare_of_isDigit {c : Char} (h : c.isDigit = true) : isBare c = true := by
  have hbounds : 48 ≤ c.toNat ∧ c.toNat ≤ 57 := by
    simpa [Char.isDigit, UInt32.le_iff_toNat_le] using h
  have hopen : c ≠ '(' := by
    rintro rfl
    exact absurd hbounds (by decide)
  have hclose : c ≠ ')' := by
    rintro rfl
    exact absurd hbounds (by decide)
  simp [isBare, isPrintable, hopen, hclose]
  omega

theorem isBare_of_isNumeric {c : Char} (h : Decimal.isNumeric c = true) : isBare c = true := by
  simp only [Decimal.isNumeric, Bool.or_eq_true, decide_eq_true_eq] at h
  rcases h with hdigit | hother
  · exact isBare_of_isDigit hdigit
  · have all : ['-', '.', 'N', 'a', 'i', 'n', 'f'].all isBare = true := rfl
    exact List.all_eq_true.mp all c hother

theorem isPrintable_of_mem_octal (b : UInt8) : ∀ c ∈ octal b, isPrintable c = true := by
  have hb : b.toNat < 256 := b.toNat_lt
  have digit (d : Nat) (h : d < 10) : isPrintable (digitChar d) = true :=
    isPrintable_of_isBare (isBare_of_isDigit (Decimal.digitChar_isDigit d h))
  simp only [octal, List.forall_mem_cons]
  exact ⟨digit _ (by omega), digit _ (by omega), digit _ (by omega), List.forall_mem_nil _⟩

theorem isPrintable_of_mem_escapedByte (b : UInt8) : ∀ c ∈ escapedByte b, isPrintable c = true := by
  unfold escapedByte
  split
  · rename_i special
    rcases special with rfl | rfl | rfl <;> exact List.all_eq_true.mp rfl
  · split
    · rename_i printable
      rw [List.forall_mem_singleton]
      simpa [isPrintable, Bytes.toNat_ofNat_of_byte] using printable
    · rw [List.forall_mem_cons]
      exact ⟨rfl, isPrintable_of_mem_octal b⟩

/-- A string is written in printable ASCII. -/
theorem isPrintable_of_mem_escaped (bytes : Bytes) : ∀ c ∈ escaped bytes, isPrintable c = true := by
  intro c hc
  obtain ⟨b, -, hb⟩ := List.mem_flatMap.mp hc
  exact isPrintable_of_mem_escapedByte b c hb

namespace Draw

/-! ## Lines -/

theorem spaced_cons (part : List Char) {parts : List (List Char)} (h : parts ≠ []) :
    spaced (part :: parts) = part ++ ' ' :: spaced parts := by
  rw [spaced, List.intercalate_cons_of_ne_nil h, List.append_assoc]
  rfl

/-- What holds of a space and of the parts holds of the line. -/
theorem forall_mem_spaced (p : Char → Bool) (space : p ' ' = true) {parts : List (List Char)}
    (h : ∀ part ∈ parts, ∀ c ∈ part, p c = true) : ∀ c ∈ spaced parts, p c = true := by
  induction parts with
  | nil => simp [spaced]
  | cons part parts ih =>
      rw [List.forall_mem_cons] at h
      cases parts with
      | nil => simpa [spaced] using h.1
      | cons next parts =>
          rw [spaced_cons part (List.cons_ne_nil _ _), List.forall_mem_append, List.forall_mem_cons]
          exact ⟨h.1, space, ih h.2⟩

/-- What holds of a space and of the other parts holds of what stands on either side of a part. -/
theorem spaced_around (p : Char → Bool) (space : p ' ' = true) (before : List (List Char))
    (part : List Char) (after : List (List Char))
    (hbefore : ∀ part ∈ before, ∀ c ∈ part, p c = true)
    (hafter : ∀ part ∈ after, ∀ c ∈ part, p c = true) :
    ∃ opening closing, spaced (before ++ part :: after) = opening ++ part ++ closing ∧
      (∀ c ∈ opening, p c = true) ∧ ∀ c ∈ closing, p c = true := by
  induction before with
  | nil =>
      cases after with
      | nil => exact ⟨[], [], by simp [spaced], nofun, nofun⟩
      | cons next after =>
          refine ⟨[], ' ' :: spaced (next :: after), ?_, nofun, ?_⟩
          · exact spaced_cons part (List.cons_ne_nil _ _)
          · rw [List.forall_mem_cons]
            exact ⟨space, forall_mem_spaced p space hafter⟩
  | cons first before ih =>
      rw [List.forall_mem_cons] at hbefore
      obtain ⟨opening, closing, hline, hopening, hclosing⟩ := ih hbefore.2
      refine ⟨first ++ ' ' :: opening, closing, ?_, ?_, hclosing⟩
      · rw [List.cons_append, spaced_cons first (by simp), hline]
        simp
      · rw [List.forall_mem_append, List.forall_mem_cons]
        exact ⟨hbefore.1, space, hopening⟩

/-! ## Parts of lines -/

theorem isBare_of_mem_place (x : Single) : ∀ c ∈ place x, isBare c = true :=
  fun c hc => isBare_of_isNumeric (Decimal.fixed_plain 2 x.binary c hc)

theorem isBare_of_mem_factor (x : Single) : ∀ c ∈ factor x, isBare c = true :=
  fun c hc => isBare_of_isNumeric (Decimal.fixed_plain 4 x.binary c hc)

theorem isBare_of_mem_size (size : Single) : ∀ c ∈ size.plain, isBare c = true :=
  fun c hc => isBare_of_isNumeric (Decimal.plain_plain size.binary c hc)

theorem isBare_of_mem_font (font : Font) : ∀ c ∈ font.resource.toList, isBare c = true := by
  cases font <;> exact List.all_eq_true.mp rfl

/-- Whether a form, if it is one, has a name of printable ASCII. -/
def isPlain : Draw → Bool
  | .form name _ _ _ => name.all isPrintable
  | _ => true

/-- The line of a text is its string, between parts without parentheses. -/
theorem code_of_words? {d : Draw} {words : List Char} (h : d.words? = some words) :
    ∃ opening closing, d.code = opening ++ shown words ++ closing ∧
      (∀ c ∈ opening, isBare c = true) ∧ ∀ c ∈ closing, isBare c = true := by
  have fixed {part : List Char} : part.all isBare = true → ∀ c ∈ part, isBare c = true :=
    List.all_eq_true.mp
  cases d with
  | text x y font size words' =>
      obtain rfl := Option.some.inj h
      refine spaced_around isBare rfl ["BT".toList, '/' :: font.resource.toList, size.plain,
        "Tf".toList, place x, place y, "Td".toList] (shown words') ["Tj ET".toList] ?_ ?_
      · simp only [List.forall_mem_cons]
        exact ⟨fixed rfl, ⟨rfl, isBare_of_mem_font font⟩, isBare_of_mem_size size, fixed rfl,
          isBare_of_mem_place x, isBare_of_mem_place y, fixed rfl, nofun⟩
      · rw [List.forall_mem_singleton]
        exact fixed rfl
  | watermark x y size angle words' =>
      obtain rfl := Option.some.inj h
      let turned := Single.radians angle
      refine spaced_around isBare rfl ["q 0.85 g BT".toList, '/' :: Font.bold.resource.toList,
        size.plain, "Tf".toList, factor turned.cos, factor turned.sin, factor (-turned.sin),
        factor turned.cos, place x, place y, "Tm".toList] (shown words') ["Tj ET Q".toList] ?_ ?_
      · simp only [List.forall_mem_cons]
        exact ⟨fixed rfl, ⟨rfl, isBare_of_mem_font .bold⟩, isBare_of_mem_size size, fixed rfl,
          isBare_of_mem_factor _, isBare_of_mem_factor _, isBare_of_mem_factor _,
          isBare_of_mem_factor _, isBare_of_mem_place x, isBare_of_mem_place y, fixed rfl, nofun⟩
      · rw [List.forall_mem_singleton]
        exact fixed rfl
  | _ => cases h

theorem isPrintable_of_mem_shown (words : List Char) :
    ∀ c ∈ shown words, isPrintable c = true := by
  rw [shown, List.cons_append, List.forall_mem_cons, List.forall_mem_append,
    List.forall_mem_singleton]
  exact ⟨rfl, isPrintable_of_mem_escaped _, rfl⟩

/-- A line is written in printable ASCII. -/
theorem isPrintable_of_mem_code {d : Draw} (plain : d.isPlain = true) :
    ∀ c ∈ d.code, isPrintable c = true := by
  have bare {part : List Char} (h : ∀ c ∈ part, isBare c = true) :
      ∀ c ∈ part, isPrintable c = true :=
    fun c hc => isPrintable_of_isBare (h c hc)
  have fixed {part : List Char} :
      part.all isPrintable = true → ∀ c ∈ part, isPrintable c = true :=
    List.all_eq_true.mp
  have strings {words : List Char} (h : d.words? = some words) :
      ∀ c ∈ d.code, isPrintable c = true := by
    obtain ⟨opening, closing, hcode, hopening, hclosing⟩ := code_of_words? h
    rw [hcode, List.forall_mem_append, List.forall_mem_append]
    exact ⟨⟨bare hopening, isPrintable_of_mem_shown words⟩, bare hclosing⟩
  cases d with
  | text => exact strings rfl
  | watermark => exact strings rfl
  | line x1 y1 x2 y2 =>
      refine forall_mem_spaced isPrintable rfl ?_
      simp only [List.forall_mem_cons]
      exact ⟨fixed rfl, bare (isBare_of_mem_place x1), bare (isBare_of_mem_place y1), fixed rfl,
        bare (isBare_of_mem_place x2), bare (isBare_of_mem_place y2), fixed rfl, nofun⟩
  | rect x y width height =>
      refine forall_mem_spaced isPrintable rfl ?_
      simp only [List.forall_mem_cons]
      exact ⟨fixed rfl, bare (isBare_of_mem_place x), bare (isBare_of_mem_place y),
        bare (isBare_of_mem_place width), bare (isBare_of_mem_place height), fixed rfl, nofun⟩
  | form name scale x y =>
      refine forall_mem_spaced isPrintable rfl ?_
      simp only [List.forall_mem_cons]
      exact ⟨⟨rfl, nofun⟩, bare (isBare_of_mem_factor scale), fixed rfl,
        bare (isBare_of_mem_factor scale), bare (isBare_of_mem_place x),
        bare (isBare_of_mem_place y), fixed rfl, ⟨rfl, fixed plain⟩, fixed rfl, nofun⟩

end Draw

/-! ## Pages -/

theorem content_append (above below : List Draw) :
    content (above ++ below) = content above ++ content below := List.flatMap_append

theorem content_cons (d : Draw) (below : List Draw) :
    content (d :: below) = d.code ++ '\n' :: content below := by
  simp [content]

/-- No line holds a line end, so there are as many lines as things drawn. -/
theorem lines_content {page : List Draw} (plain : ∀ d ∈ page, d.isPlain = true) :
    (content page).splitOn '\n' = page.map (·.code) ++ [[]] := by
  induction page with
  | nil => rfl
  | cons d page ih =>
      rw [List.forall_mem_cons] at plain
      have hnone : '\n' ∉ d.code :=
        fun h => absurd (Draw.isPrintable_of_mem_code plain.1 _ h) (by decide)
      rw [content_cons, List.splitOn_append_cons_self_of_not_mem hnone, ih plain.2]
      rfl

/-- A reader of strings finds a text of a page as it was written, and stops where it ends.

A page may show any texts, in any characters; only a form's name is to be printable.  Then the content is in
printable ASCII and line ends, and has one line for each thing that is drawn, the code of that thing.  In
the line of a text one parenthesis opens before all others and one closes after all others; whoever reads
a literal string from the former on stops at the latter, and has the text in the encoding of the fonts. -/
theorem content_is_safe (page : List Draw) (plain : ∀ d ∈ page, d.isPlain = true) :
    (∀ c ∈ content page, isPrintable c = true ∨ c = '\n') ∧
      (content page).splitOn '\n' = page.map (·.code) ++ [[]] ∧
      ∀ above d below words, page = above ++ d :: below → d.words? = some words →
        ∃ opening inside closing, d.code = opening ++ '(' :: inside ++ ')' :: closing ∧
          (∀ c ∈ opening, isBare c = true) ∧ (∀ c ∈ closing, isBare c = true) ∧
          let rest := closing ++ '\n' :: content below
          content page = content above ++ opening ++ '(' :: inside ++ ')' :: rest ∧
          Pdf.Literal.read (Bytes.latin1 (inside ++ ')' :: rest))
            = some (WinAnsi.encode words, Bytes.latin1 rest) := by
  refine ⟨?_, lines_content plain, ?_⟩
  · intro c hc
    obtain ⟨d, hd, hc⟩ := List.mem_flatMap.mp hc
    rcases List.mem_append.mp hc with hc | hc
    · exact .inl (Draw.isPrintable_of_mem_code (plain d hd) c hc)
    · exact .inr (List.mem_singleton.mp hc)
  · rintro above d below words rfl hwords
    obtain ⟨opening, closing, hcode, hopening, hclosing⟩ := Draw.code_of_words? hwords
    refine ⟨opening, escaped (WinAnsi.encode words), closing, ?_, hopening, hclosing, ?_, ?_⟩
    · rw [hcode, Draw.shown]
      simp
    · rw [content_append, content_cons, hcode, Draw.shown]
      simp
    · have hread := Pdf.Literal.read_escaped (WinAnsi.encode words)
        (Bytes.latin1 (closing ++ '\n' :: content below))
      rw [← hread]
      simp [Bytes.latin1]

/-- A page with a text of parentheses, backslashes and digits, and a line below it. -/
def hostile : List Draw :=
  [.text 40 790 .regular 10 "é1)\\ Tj (\\".toList, .line 40 55 555 55]

/-- The text on a hostile page is read as it was written. -/
theorem content_is_safe_hostile :
    (∀ d ∈ hostile, d.isPlain = true) ∧
      (content hostile).splitOn '\n' = hostile.map (·.code) ++ [[]] ∧
      ∃ opening inside rest, content hostile = opening ++ '(' :: inside ++ ')' :: rest ∧
        (∀ c ∈ opening, isBare c = true) ∧
        Pdf.Literal.read (Bytes.latin1 (inside ++ ')' :: rest))
          = some (0xE9 :: Bytes.ascii "1)\\ Tj (\\", Bytes.latin1 rest) := by
  have plain : ∀ d ∈ hostile, d.isPlain = true := by decide
  obtain ⟨-, hlines, hstrings⟩ := content_is_safe hostile plain
  obtain ⟨opening, inside, closing, -, hopening, -, hcontent, hread⟩ := hstrings [] _ _ _ rfl rfl
  have hwords : WinAnsi.encode "é1)\\ Tj (\\".toList = 0xE9 :: Bytes.ascii "1)\\ Tj (\\" := by
    decide +kernel
  rw [hwords] at hread
  exact ⟨plain, hlines, opening, inside, _, hcontent, hopening, hread⟩

end DocumentCard.Page
