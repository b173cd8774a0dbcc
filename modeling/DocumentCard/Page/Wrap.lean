import DocumentCard.Page.Font
import DocumentCard.Text.Blank
set_option autoImplicit false

/-!
# Lines that fit a column

The width of a line is estimated by the average width of the face, so a column has room for a fixed
number of characters.  A text is a sequence of paragraphs, one to a line of the text; the words of a
paragraph, those longer than a line cut into pieces, are put into lines, each line taking as many as
have room.  A paragraph without words takes one empty line.
-/

namespace DocumentCard.Page.Wrap

/-- How many characters a line of `width` has room for: at least one. -/
def limit (font : Font) (size width : Single) : Nat :=
  max 1 (Single.count (width / (size * font.averageWidth)))

/-- A word cut into pieces of `m` characters and a last one of at most so many. -/
def pieces (m : Nat) (word : List Char) : List (List Char) :=
  if _h : m = 0 ∨ (word.drop m).isEmpty then [word]
  else word.take m :: pieces m (word.drop m)
termination_by word.length
decreasing_by
  have hm : m ≠ 0 := fun e => _h (Or.inl e)
  have hw : word.drop m ≠ [] := fun e => _h (Or.inr (by simp [e]))
  have : m < word.length := by simpa using hw
  simp only [List.length_drop]
  omega

/-- Puts pieces into lines of at most `m` characters; `line` is the line being filled. -/
def fill (m : Nat) (line : List Char) : List (List Char) → List (List Char)
  | [] => [line]
  | piece :: rest =>
      if line.isEmpty then fill m piece rest
      else if m < line.length + 1 + piece.length then line :: fill m piece rest
      else fill m (line ++ ' ' :: piece) rest

/-- The lines of one paragraph. -/
def paragraph (m : Nat) (text : List Char) : List (List Char) :=
  fill m [] ((Text.words text).flatMap (pieces m))

/-- The lines of a text when a line has room for `m` characters. -/
def lines (m : Nat) (text : List Char) : List (List Char) :=
  (Text.splitAt '\n' text).flatMap (paragraph m)

end DocumentCard.Page.Wrap

namespace DocumentCard.Page

/-- A text set into lines of the given width. -/
def wrap (text : List Char) (font : Font) (size width : Single) : List (List Char) :=
  Wrap.lines (Wrap.limit font size width) text

end DocumentCard.Page
