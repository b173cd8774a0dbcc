import DocumentCard.Proofs.Page.Breaks
import DocumentCard.Proofs.Page.Content
set_option autoImplicit false

/-!
# Text that runs over pages

A section shows paragraphs and the entries of a table of contents (`Block`), with gaps and page ends
between them.  Wherever a page ends, a line stands whole on one page: `lines_placed` gives, for any items,
the lines that each page got.  What a page shows can be read off its content (`strings_content`).

Main statement: the pages show the texts of the blocks, all of them, once and in order (`shows_placed`).
-/

namespace DocumentCard.Page

/-! ## Lines -/

/-- A line of text that stands on a page. -/
structure Line where
  height : Single
  runs : List Run

namespace Line

/-- The pieces of the line as they are drawn. -/
def draws (l : Line) : List Draw := l.runs.map (·.at l.height)

/-- The texts of the pieces. -/
def texts (l : Line) : List (List Char) := l.runs.map Run.words

theorem words?_of_mem_draws {l : Line} {d : Draw} (h : d ∈ l.draws) : d.words?.isSome = true := by
  obtain ⟨r, -, rfl⟩ := List.mem_map.mp h
  rfl

end Line

/-- Whether the item is a line. -/
def Item.isLine : Item → Bool
  | .line .. => true
  | _ => false

/-- Only lines hold text. -/
theorem texts_filter (items : List Item) :
    ((items.filter Item.isLine).map Item.texts).flatten = items.flatMap Item.texts := by
  induction items with
  | nil => rfl
  | cons item rest ih =>
      cases item with
      | gap height => exact ih
      | pageBreak => exact ih
      | line leading runs => exact congrArg (runs.map Run.words ++ ·) ih

/-- What `drawn_placeFrom` says of all pages, page by page: the current page keeps what it shows, and every
line goes to one page, in order. -/
theorem lines_placeFrom (y : Single) (page : List Draw) (items : List Item) :
    ∃ (first : List Line) (later : List (List Line)),
      placeFrom y page items
          = (page ++ first.flatMap Line.draws) :: later.map (·.flatMap Line.draws) ∧
        (first ++ later.flatten).map Line.texts = (items.filter Item.isLine).map Item.texts := by
  induction items generalizing y page with
  | nil => exact ⟨[], [], by simp [placeFrom], rfl⟩
  | cons item rest ih =>
      cases item with
      | gap height => exact ih (y - height) page
      | pageBreak =>
          obtain ⟨first, later, hpages, hlines⟩ := ih Sheet.top []
          exact ⟨[], first :: later, by simp [placeFrom, hpages], hlines⟩
      | line leading runs =>
          by_cases below : y < Sheet.bottom
          · obtain ⟨first, later, hpages, hlines⟩ :=
              ih (Sheet.top - leading) (runs.map (·.at Sheet.top))
            refine ⟨[], (⟨Sheet.top, runs⟩ :: first) :: later, ?_, ?_⟩
            · simp [placeFrom, below, hpages, Line.draws]
            · exact congrArg (runs.map Run.words :: ·) hlines
          · obtain ⟨first, later, hpages, hlines⟩ := ih (y - leading) (page ++ runs.map (·.at y))
            refine ⟨⟨y, runs⟩ :: first, later, ?_, ?_⟩
            · simp [placeFrom, below, hpages, Line.draws]
            · exact congrArg (runs.map Run.words :: ·) hlines

/-- Pages are made of lines: every line of the items stands whole on one page, at one height. -/
theorem lines_placed (items : List Item) :
    ∃ parts : List (List Line), placed items = parts.map (·.flatMap Line.draws) ∧
      parts.flatten.map Line.texts = (items.filter Item.isLine).map Item.texts := by
  obtain ⟨first, later, hpages, hlines⟩ := lines_placeFrom Sheet.top [] items
  exact ⟨first :: later, hpages, hlines⟩

/-! ## Reading a page -/

/-- The texts that a page shows, in the order in which they are drawn. -/
def words (page : List Draw) : List (List Char) := page.filterMap Draw.words?

/-- The string that a line of content shows: it starts at the first parenthesis. -/
def string? (line : List Char) : Option Bytes :=
  match line.dropWhile (· ≠ '(') with
  | [] => none
  | _ :: rest => (Pdf.Literal.read (Bytes.latin1 rest)).map Prod.fst

/-- The strings that a content shows, line by line. -/
def strings (content : List Char) : List Bytes := (content.splitOn '\n').filterMap string?

theorem string?_code {d : Draw} {words : List Char} (h : d.words? = some words) :
    string? d.code = some (WinAnsi.encode words) := by
  obtain ⟨opening, closing, hcode, hopening, -⟩ := Draw.code_of_words? h
  have hbefore : ∀ c ∈ opening, decide (c ≠ '(') = true := by
    intro c hc
    have hbare := hopening c hc
    simp only [isBare, Bool.and_eq_true] at hbare
    exact hbare.1.2
  have hline : d.code.dropWhile (· ≠ '(')
      = '(' :: (Pdf.Literal.escaped (WinAnsi.encode words) ++ ')' :: closing) := by
    rw [hcode, List.append_assoc, List.dropWhile_append_of_pos hbefore, Draw.shown]
    simp
  have hread := Pdf.Literal.read_escaped (WinAnsi.encode words) (Bytes.latin1 closing)
  simp only [string?, hline]
  rw [Bytes.latin1, List.map_append, List.map_cons]
  simpa [Bytes.latin1] using congrArg (Option.map Prod.fst) hread

/-- Whoever reads the content of a page of text finds its texts, in the encoding of the fonts. -/
theorem strings_content {page : List Draw} (texts : ∀ d ∈ page, d.words?.isSome = true) :
    strings (content page) = (words page).map WinAnsi.encode := by
  have plain : ∀ d ∈ page, d.isPlain = true := by
    intro d hd
    have := texts d hd
    cases d <;> first | rfl | cases this
  have hlast : string? [] = none := rfl
  rw [strings, lines_content plain, List.filterMap_append, List.filterMap_cons_none hlast,
    List.filterMap_nil, List.append_nil]
  clear plain
  induction page with
  | nil => rfl
  | cons d page ih =>
      rw [List.forall_mem_cons] at texts
      obtain ⟨shown, hshown⟩ := Option.isSome_iff_exists.mp texts.1
      rw [List.map_cons, List.filterMap_cons_some (string?_code hshown), ih texts.2, words, words,
        List.filterMap_cons_some hshown, List.map_cons]

/-! ## Blocks -/

/-- A part of a section that shows text. -/
inductive Block where
  | paragraph (font : Font) (size indent : Nat) (text : List Char)
  /-- an entry of a table of contents -/
  | entry (text : List Char) (page : Nat)

namespace Block

/-- The lines that a block's text is set into. -/
def wrapped : Block → List (List Char)
  | paragraph font size indent text =>
      wrap text font (Single.ofInt size) (Sheet.column - Single.ofInt indent)
  | entry text _ => wrap text .regular (Single.ofInt 10) (Sheet.column - Single.ofInt 60)

/-- The texts that a block shows: a paragraph the lines that are not empty, an entry all lines and the page
number right behind the first of them. -/
def texts (b : Block) : List (List Char) :=
  match b with
  | paragraph .. => b.wrapped.filter fun line => !line.isEmpty
  | entry _ page => b.wrapped.take 1 ++ decimal page :: b.wrapped.drop 1

/-- The texts line by line: the empty line of a paragraph shows nothing, and the page number of an entry
stands on its first line. -/
def lines (b : Block) : List (List (List Char)) :=
  match b with
  | paragraph .. => b.wrapped.map fun line => [line].filter fun line => !line.isEmpty
  | entry _ page => (b.wrapped.take 1).map (· :: [decimal page]) ++ (b.wrapped.drop 1).map ([·])

/-- What a block puts on pages. -/
def items : Block → List Item
  | paragraph font size indent text => Page.paragraph font size indent text
  | entry text page => Page.entry text page

theorem isLine_of_mem_items (b : Block) : ∀ item ∈ b.items, item.isLine = true := by
  intro item h
  cases b with
  | paragraph font size indent text =>
      obtain ⟨line, -, rfl⟩ := List.mem_map.mp h
      rfl
  | entry text page =>
      simp only [items, Page.entry] at h
      split at h
      · cases h
      · obtain rfl | ⟨line, -, rfl⟩ := by simpa only [List.mem_cons, List.mem_map] using h
        · rfl
        · rfl

theorem texts_items (b : Block) : b.items.map Item.texts = b.lines := by
  cases b with
  | paragraph font size indent text =>
      simp only [items, Page.paragraph, lines, wrapped, List.map_map]
      refine List.map_congr_left fun line _ => ?_
      cases line <;> rfl
  | entry text page =>
      simp only [items, Page.entry, lines, wrapped]
      cases wrap text .regular (Single.ofInt 10) (Sheet.column - Single.ofInt 60) with
      | nil => rfl
      | cons first rest => simp [Item.texts, Function.comp_def]

theorem flatten_lines (b : Block) : b.lines.flatten = b.texts := by
  cases b with
  | paragraph font size indent text =>
      simp only [lines, texts]
      generalize wrapped _ = wrapped
      induction wrapped with
      | nil => rfl
      | cons line rest ih => rw [List.map_cons, List.flatten_cons, ih, ← List.filter_append]; rfl
  | entry text page =>
      have hsome : (entry text page).wrapped ≠ [] := wrap_ne_nil _ _ _ _
      simp only [lines, texts]
      obtain ⟨first, rest, hwrapped⟩ := List.exists_cons_of_ne_nil hsome
      simp [hwrapped, ← List.flatMap_def]

end Block

/-! ## Sections -/

/-- Pages show blocks, and nothing else. -/
structure Shows (pages : List (List Draw)) (blocks : List Block) : Prop where
  /-- page by page, the texts of the blocks are drawn in order, each of them once -/
  words : pages.flatMap words = blocks.flatMap Block.texts
  /-- the content of a page shows the texts of the page -/
  strings : ∀ page ∈ pages, strings (content page) = (Page.words page).map WinAnsi.encode
  /-- no line is torn: its texts stand beside each other, on one page and at one height -/
  lines : ∃ parts : List (List Line), pages = parts.map (·.flatMap Line.draws) ∧
    parts.flatten.map Line.texts = blocks.flatMap Block.lines

/-- Wherever pages end, and whatever gaps there are, what is placed is shown. -/
theorem shows_placed {items : List Item} {blocks : List Block}
    (lines : items.filter Item.isLine = blocks.flatMap Block.items) :
    Shows (placed items) blocks := by
  obtain ⟨parts, hpages, hparts⟩ := lines_placed items
  have htexts : (items.filter Item.isLine).map Item.texts = blocks.flatMap Block.lines := by
    rw [lines, List.map_flatMap]
    simp only [Block.texts_items]
  have hwords : (placed items).flatMap words = blocks.flatMap Block.texts := by
    calc (placed items).flatMap words
        = (placed items).flatten.filterMap Draw.words? := List.filterMap_flatten.symm
      _ = items.flatMap Item.texts := drawn_placed items
      _ = ((items.filter Item.isLine).map Item.texts).flatten := (texts_filter items).symm
      _ = (blocks.flatMap Block.lines).flatten := by rw [htexts]
      _ = blocks.flatMap Block.texts := by
        rw [List.flatten_eq_flatMap, List.flatMap_assoc]
        simp only [← List.flatten_eq_flatMap, Block.flatten_lines]
  refine ⟨hwords, ?_, parts, hpages, hparts.trans htexts⟩
  · intro page hpage
    rw [hpages] at hpage
    obtain ⟨part, -, rfl⟩ := List.mem_map.mp hpage
    refine strings_content fun d hd => ?_
    obtain ⟨l, -, hd⟩ := List.mem_flatMap.mp hd
    exact Line.words?_of_mem_draws hd

end DocumentCard.Page
