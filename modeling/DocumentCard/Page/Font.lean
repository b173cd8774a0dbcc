import DocumentCard.Single
set_option autoImplicit false

/-!
# The fonts of a card

Every page of a card has the same three faces of one family, none of them embedded.
-/

namespace DocumentCard.Page

/-- A face of the card's one font family. -/
inductive Font where
  | regular
  | bold
  | italic
  deriving DecidableEq, Repr, Inhabited

namespace Font

/-- All faces, in the order of their names on a page. -/
def all : List Font := [.regular, .bold, .italic]

/-- The name by which a page's content calls the face. -/
def resource : Font → String
  | .regular => "F1"
  | .bold => "F2"
  | .italic => "F3"

/-- The face's own name. -/
def face : Font → String
  | .regular => "Helvetica"
  | .bold => "Helvetica-Bold"
  | .italic => "Helvetica-Oblique"

/-- The average width of a character, as a part of the font size. -/
def averageWidth : Font → Single
  | .bold => Single.ratio 56 100
  | _ => Single.ratio 52 100

end Font

end DocumentCard.Page
