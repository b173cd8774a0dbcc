import DocumentCard.Page.Font
import DocumentCard.Page.WinAnsi
import DocumentCard.Pdf.Literal
set_option autoImplicit false

/-!
# What is drawn on a page

A page is a list of things drawn on it, in order.  Its content is the text of these, one line each:
positions with two decimal places, matrix entries with four, font sizes as short as they can be,
and strings in printable ASCII.
-/

namespace DocumentCard.Page

/-- Something drawn on a page. -/
inductive Draw where
  /-- one line of text with its baseline starting at `x`, `y` -/
  | text (x y : Single) (font : Font) (size : Single) (words : List Char)
  /-- gray text turned by `angle` degrees -/
  | watermark (x y size angle : Single) (words : List Char)
  /-- a thin line between two points -/
  | line (x1 y1 x2 y2 : Single)
  /-- a thin frame with its lower left corner at `x`, `y` -/
  | rect (x y width height : Single)
  /-- a form that the page calls `name`, scaled and moved into place -/
  | form (name : List Char) (scale x y : Single)

namespace Draw

/-- A position or length. -/
def place (x : Single) : List Char := x.fixed 2

/-- An entry of a matrix. -/
def factor (x : Single) : List Char := x.fixed 4

/-- Parts with a space between each two. -/
def spaced (parts : List (List Char)) : List Char := List.intercalate [' '] parts

/-- A text as the string that shows it, in its parentheses. -/
def shown (words : List Char) : List Char :=
  '(' :: Pdf.Literal.escaped (WinAnsi.encode words) ++ [')']

/-- The line of content that draws it. -/
def code : Draw → List Char
  | .text x y font size words =>
      spaced ["BT".toList, '/' :: font.resource.toList, size.plain, "Tf".toList, place x, place y,
        "Td".toList, shown words, "Tj ET".toList]
  | .watermark x y size angle words =>
      let turned := Single.radians angle
      let sine := Float32.sin turned
      let cosine := Float32.cos turned
      spaced ["q 0.85 g BT".toList, '/' :: Font.bold.resource.toList, size.plain, "Tf".toList,
        factor cosine, factor sine, factor (-sine), factor cosine, place x, place y, "Tm".toList,
        shown words, "Tj ET Q".toList]
  | .line x1 y1 x2 y2 =>
      spaced ["0.5 w".toList, place x1, place y1, "m".toList, place x2, place y2, "l S".toList]
  | .rect x y width height =>
      spaced ["0.5 w".toList, place x, place y, place width, place height, "re S".toList]
  | .form name scale x y =>
      spaced [['q'], factor scale, "0 0".toList, factor scale, place x, place y,
        "cm".toList, '/' :: name, "Do Q".toList]

end Draw

/-- The content of a page: the code of what is drawn, one line each. -/
def content (page : List Draw) : List Char := page.flatMap fun d => d.code ++ ['\n']

end DocumentCard.Page
