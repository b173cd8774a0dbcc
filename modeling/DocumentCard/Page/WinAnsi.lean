import DocumentCard.Bytes
import DocumentCard.Text.Lowercase
set_option autoImplicit false

/-!
# Text in the encoding of the page fonts

The faces of a card know one byte per character and no Cyrillic.  Russian and Kazakh letters are
therefore spelled in Latin letters, some with two to four; characters of Latin-1 keep their byte, a
few signs have one of their own, and what is left becomes a question mark.

A capital letter whose spelling has several Latin letters starts with a capital; the letters after
it are small if a lowercase character follows in the text, and capital otherwise: `Шаблон` becomes
`Shablon` and `ШТ` becomes `SHT`.
-/

namespace DocumentCard.Page.WinAnsi

/-- The letters with a Latin spelling: the small letter, its capital, the spelling in small
letters. -/
def letters : List (Char × Char × String) :=
  [('а', 'А', "a"), ('ә', 'Ә', "a"), ('б', 'Б', "b"), ('в', 'В', "v"), ('г', 'Г', "g"),
   ('ғ', 'Ғ', "g"), ('д', 'Д', "d"), ('е', 'Е', "e"), ('ё', 'Ё', "e"), ('э', 'Э', "e"),
   ('ж', 'Ж', "zh"), ('з', 'З', "z"), ('и', 'И', "i"), ('й', 'Й', "i"), ('і', 'І', "i"),
   ('к', 'К', "k"), ('қ', 'Қ', "q"), ('л', 'Л', "l"), ('м', 'М', "m"), ('н', 'Н', "n"),
   ('ң', 'Ң', "n"), ('о', 'О', "o"), ('ө', 'Ө', "o"), ('п', 'П', "p"), ('р', 'Р', "r"),
   ('с', 'С', "s"), ('т', 'Т', "t"), ('у', 'У', "u"), ('ұ', 'Ұ', "u"), ('ү', 'Ү', "u"),
   ('ф', 'Ф', "f"), ('х', 'Х', "kh"), ('һ', 'Һ', "h"), ('ц', 'Ц', "ts"), ('ч', 'Ч', "ch"),
   ('ш', 'Ш', "sh"), ('щ', 'Щ', "shch"), ('ъ', 'Ъ', ""), ('ь', 'Ь', ""), ('ы', 'Ы', "y"),
   ('ю', 'Ю', "iu"), ('я', 'Я', "ia")]

/-- How a character is spelled: by a letter of the table in one of its two cases. -/
inductive Spelling where
  | small (latin : List Char)
  | capital (latin : List Char)

/-- The spelling of a character of the table. -/
def spelling? (c : Char) : Option Spelling :=
  letters.findSome? fun (lower, upper, latin) =>
    if c = lower then some (.small latin.toList)
    else if c = upper then some (.capital latin.toList)
    else none

/-- The capital of a letter of the table, or of an ASCII letter. -/
def capital (c : Char) : Char :=
  match letters.find? fun (lower, _, _) => c = lower with
  | some (_, upper, _) => upper
  | none => c.toUpper

/-- A spelling in capitals: the first letter always, the others unless a lowercase character
follows. -/
def capitalized (nextIsSmall : Bool) : List Char → List Char
  | [] => []
  | first :: rest => first.toUpper :: if nextIsSmall then rest else rest.map Char.toUpper

/-- The bytes of a character that has no spelling. -/
def encodeOther (c : Char) : Bytes :=
  let n := c.toNat
  if c = '№' then Bytes.ascii "No"
  else if c = '–' then [0x96]
  else if c = '—' then [0x97]
  else if c = '\t' then [0x20]
  else if n < 0x20 then []
  else if n < 0x7F then [UInt8.ofNat n]
  else if 0xA0 ≤ n ∧ n ≤ 0xFF then [UInt8.ofNat n]
  else [0x3F]

/-- The bytes of a character, given whether a lowercase character follows. -/
def encodeChar (nextIsSmall : Bool) (c : Char) : Bytes :=
  match spelling? c with
  | some (.small latin) => Bytes.latin1 latin
  | some (.capital latin) => Bytes.latin1 (capitalized nextIsSmall latin)
  | none => encodeOther c

/-- Whether a text starts with a lowercase character. -/
def startsSmall : List Char → Bool
  | [] => false
  | c :: _ => Text.isLowercase c

/-- A text in the encoding of the page fonts. -/
def encode : List Char → Bytes
  | [] => []
  | c :: rest => encodeChar (startsSmall rest) c ++ encode rest

end DocumentCard.Page.WinAnsi
