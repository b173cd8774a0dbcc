import DocumentCard.Page.Draw
import DocumentCard.Page.Wrap
set_option autoImplicit false

/-!
# Text from top to bottom

The text of a section is a list of items: lines, gaps between them, and forced page ends.  Placing the
items runs down a page and goes on at the top of a new one when a line would stand below the bottom.

Main statements: a forced page end cuts the placing in two (`placed_append_pageBreak`), and what is
drawn, read page by page, is what the lines hold, in order (`drawn_placed`).
-/

namespace DocumentCard.Page

/-! ## The sheet -/

namespace Sheet

/-- The width of a page in points. -/
def width : Single := Single.ofInt 595

/-- The height of a page. -/
def height : Single := Single.ofInt 842

/-- The margin at the left and at the right. -/
def margin : Single := Single.ofInt 40

/-- The width of the text. -/
def column : Single := width - Single.ofInt 2 * margin

/-- Where the first line of a page stands. -/
def top : Single := Single.ofInt 790

/-- No line stands below this. -/
def bottom : Single := Single.ofInt 70

/-- Where the line above the foot of a page stands. -/
def footRule : Single := Single.ofInt 55

/-- Where the foot of a page stands. -/
def footText : Single := Single.ofInt 42

/-- Where the head of a page stands. -/
def headText : Single := Single.ofInt 815

/-- The distance between lines, as a multiple of the font size. -/
def leading : Single := Single.ratio 13 10

end Sheet

/-! ## Items -/

/-- A piece of text on a line. -/
structure Run where
  x : Single
  font : Font
  size : Single
  words : List Char

/-- A part of a section. -/
inductive Item where
  /-- a line with its pieces of text, and the distance to the next line -/
  | line (leading : Single) (runs : List Run)
  | gap (height : Single)
  | pageBreak

/-- A piece of text drawn at a height. -/
def Run.at (r : Run) (y : Single) : Draw := .text r.x y r.font r.size r.words

/-- A text as lines below each other; an empty line takes room and draws nothing. -/
def paragraph (font : Font) (size : Nat) (indent : Nat) (text : List Char) : List Item :=
  let size := Single.ofInt size
  let indent := Single.ofInt indent
  (wrap text font size (Sheet.column - indent)).map fun words =>
    .line (size * Sheet.leading)
      (if words.isEmpty then [] else [⟨Sheet.margin + indent, font, size, words⟩])

/-- A line of a table of contents: a text, with a page number beside its first line. -/
def entry (text : List Char) (page : Nat) : List Item :=
  let size := Single.ofInt 10
  let line (words : List Char) (more : List Run) : Item :=
    .line (size * Sheet.leading) (⟨Sheet.margin + Single.ofInt 10, .regular, size, words⟩ :: more)
  match wrap text .regular size (Sheet.column - Single.ofInt 60) with
  | [] => []
  | first :: rest =>
      line first [⟨Sheet.width - Sheet.margin - Single.ofInt 30, .regular, size, decimal page⟩]
        :: rest.map (line · [])

/-! ## Placing -/

/-- Places items from a height on; `page` holds what the current page already shows. -/
def placeFrom (y : Single) (page : List Draw) : List Item → List (List Draw)
  | [] => [page]
  | .gap height :: rest => placeFrom (y - height) page rest
  | .pageBreak :: rest => page :: placeFrom Sheet.top [] rest
  | .line leading runs :: rest =>
      if y < Sheet.bottom then
        page :: placeFrom (Sheet.top - leading) (runs.map (·.at Sheet.top)) rest
      else placeFrom (y - leading) (page ++ runs.map (·.at y)) rest

/-- The pages of a list of items. -/
def placed (items : List Item) : List (List Draw) := placeFrom Sheet.top [] items

theorem placeFrom_append_pageBreak (y : Single) (page : List Draw) (above below : List Item) :
    placeFrom y page (above ++ .pageBreak :: below) = placeFrom y page above ++ placed below := by
  induction above generalizing y page with
  | nil => simp [placeFrom, placed]
  | cons item rest ih =>
      cases item with
      | gap height => simp [placeFrom, ih]
      | pageBreak => simp [placeFrom, ih]
      | line leading runs =>
          by_cases h : y < Sheet.bottom
          · simp [placeFrom, h, ih]
          · simp [placeFrom, h, ih]

/-- What stands below a forced page end is placed as if it stood alone. -/
theorem placed_append_pageBreak (above below : List Item) :
    placed (above ++ .pageBreak :: below) = placed above ++ placed below :=
  placeFrom_append_pageBreak _ _ above below

/-- The text that something drawn shows. -/
def Draw.words? : Draw → Option (List Char)
  | .text _ _ _ _ words => some words
  | .watermark _ _ _ _ words => some words
  | _ => none

/-- The texts of an item's runs. -/
def Item.texts : Item → List (List Char)
  | .line _ runs => runs.map Run.words
  | _ => []

theorem words_runs (runs : List Run) (y : Single) :
    (runs.map (·.at y)).filterMap Draw.words? = runs.map Run.words := by
  induction runs with
  | nil => rfl
  | cons r rest ih =>
      have shown : Draw.words? (r.at y) = some r.words := rfl
      rw [List.map_cons, List.filterMap_cons_some shown, ih, List.map_cons]

theorem drawn_placeFrom (y : Single) (page : List Draw) (items : List Item) :
    (placeFrom y page items).flatten.filterMap Draw.words?
      = page.filterMap Draw.words? ++ items.flatMap Item.texts := by
  induction items generalizing y page with
  | nil => simp [placeFrom]
  | cons item rest ih =>
      cases item with
      | gap height => simp [placeFrom, ih, Item.texts]
      | pageBreak => simp [placeFrom, ih, Item.texts]
      | line leading runs =>
          by_cases h : y < Sheet.bottom
          · rw [placeFrom, if_pos h, List.flatten_cons, List.filterMap_append, ih, words_runs,
              List.flatMap_cons, Item.texts]
          · rw [placeFrom, if_neg h, ih, List.filterMap_append, words_runs, List.append_assoc,
              List.flatMap_cons, Item.texts]

/-- Placing loses nothing and repeats nothing. -/
theorem drawn_placed (items : List Item) :
    (placed items).flatten.filterMap Draw.words? = items.flatMap Item.texts := by
  simpa [placed] using drawn_placeFrom Sheet.top [] items

end DocumentCard.Page
