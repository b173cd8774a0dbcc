import DocumentCard.Text.Blank
import DocumentCard.Text.Replace
set_option autoImplicit false

/-!
# The languages and phrases of a card

A card speaks Russian, Kazakh, or both: then the Kazakh phrase comes first and the Russian one
after it, on the same line if the phrase is one line and after an empty line if it is several.
A phrase may have places, a name in braces each, which are filled one after another in the order in
which their values are given.  Long phrases are given in several pieces, none of them too long to be
read when a proof evaluates a card.
-/

namespace DocumentCard.Card

/-- The language of a card. -/
inductive Language where
  | russian
  | kazakh
  /-- Kazakh followed by Russian -/
  | both
  deriving DecidableEq, Repr, Inhabited

/-- The language that a code names; any other code means Russian. -/
def Language.ofCode (code : String) : Language :=
  let code := String.ofList (Text.trimmed code.toList)
  if code = "kk" then .kazakh
  else if code = "kk/ru" then .both
  else .russian

/-- What a card has to say. -/
inductive Phrase where
  /-- heads the first page -/
  | cardTitle
  /-- label of the time of creation -/
  | creationDate
  /-- label of the system that made the card -/
  | builderSystem
  /-- heads the list of sections -/
  | contents
  /-- the section with these very lines -/
  | infoBlock
  /-- the section with the document's pages -/
  | documentVisualization
  /-- the section with the signatures' pages -/
  | signaturesVisualization
  /-- heads the list of attachments -/
  | attachmentsList
  /-- what the first attachment is -/
  | documentAttachment
  /-- what a signature's attachment is; place `signer` -/
  | signatureAttachment
  /-- a personal number; place `id` -/
  | iin
  /-- an organisation; places `name`, `id` -/
  | organization
  /-- the foot of a page, on the right; places `page`, `total` -/
  | pageNumber
  /-- the foot of a page, on the left -/
  | cardFooter
  /-- written across the document's pages -/
  | documentCopy
  /-- heads a signature's pages -/
  | signatureVisualization
  /-- which signature; place `number` -/
  | signatureNumber
  /-- label -/
  | signatureDate
  /-- label -/
  | signedBy
  /-- label of the certificate policies -/
  | template
  /-- label -/
  | representsOrganization
  /-- label of the key usages -/
  | allowedUsage
  /-- places `subject`, `alt_name`, `serial`, `from`, `until`, `issuer` -/
  | certificateDetails
  /-- time stamp; places `generated_at`, `subject`, `serial`, `issuer` -/
  | tspDetails
  /-- revocation; places `status`, `generated_at`, `subject`, `serial`, `issuer` -/
  | ocspDetails
  /-- ends the first section; place `how_to_verify` -/
  | notice
  deriving DecidableEq, Repr, Inhabited

namespace Phrase

/-- The phrase in Russian, in pieces. -/
def russian : Phrase → List String
  | .cardTitle => ["КАРТОЧКА ЭЛЕКТРОННОГО ДОКУМЕНТА"]
  | .creationDate => ["Дата и время формирования"]
  | .builderSystem => ["Информационная система или сервис"]
  | .contents => ["Содержание:"]
  | .infoBlock => ["Информационный блок"]
  | .documentVisualization => ["Визуализация электронного документа"]
  | .signaturesVisualization => ["Визуализация подписей под электронным документом"]
  | .attachmentsList => ["Перечень вложенных файлов:"]
  | .documentAttachment => ["Подлинник электронного документа"]
  | .signatureAttachment => ["ЭЦП, \x7bsigner\x7d"]
  | .iin => ["ИИН \x7bid\x7d"]
  | .organization => ["\x7bname\x7d, БИН \x7bid\x7d"]
  | .pageNumber => ["стр. \x7bpage\x7d из \x7btotal\x7d"]
  | .cardFooter => ["Карточка электронного документа"]
  | .documentCopy => ["Копия электронного документа"]
  | .signatureVisualization => ["Визуализация электронной цифровой подписи"]
  | .signatureNumber => ["Подпись №\x7bnumber\x7d"]
  | .signatureDate => ["Дата формирования подписи:"]
  | .signedBy => ["Подписал(а):"]
  | .template => ["Шаблон:"]
  | .representsOrganization => ["Представляет организацию:"]
  | .allowedUsage => ["Допустимое использование:"]
  | .certificateDetails =>
      ["Субъект: \x7bsubject\x7d\n",
       "Альтернативные имена: \x7balt_name\x7d\n",
       "Серийный номер: \x7bserial\x7d\n",
       "С: \x7bfrom\x7d\n",
       "По: \x7buntil\x7d\n",
       "Издатель: \x7bissuer\x7d"]
  | .tspDetails =>
      ["Метка времени: \x7bgenerated_at\x7d\n",
       "Субъект: \x7bsubject\x7d\n",
       "Серийный номер: \x7bserial\x7d\n",
       "Издатель: \x7bissuer\x7d"]
  | .ocspDetails =>
      ["OCSP: \x7bstatus\x7d\n",
       "Сформирован: \x7bgenerated_at\x7d\n",
       "Субъект: \x7bsubject\x7d\n",
       "Серийный номер: \x7bserial\x7d\n",
       "Издатель: \x7bissuer\x7d"]
  | .notice =>
      ["Карточка электронного документа - это файл в ",
       "формате PDF, состоящий из визуально ",
       "отображаемой части и вложенных файлов.\n",
       "Визуально отображаемая часть карточки ",
       "электронного документа носит исключительно ",
       "информативный характер и не обладает ",
       "юридической значимостью.\n",
       "\x7bhow_to_verify\x7d\n",
       "ВНИМАНИЕ! Остерегайтесь мошенников! При ",
       "получении электронных документов обязательно ",
       "выполняйте проверку подписей!"]

/-- The phrase in Kazakh, in pieces. -/
def kazakh : Phrase → List String
  | .cardTitle => ["ЭЛЕКТРОНДЫҚ ҚҰЖАТТЫҢ КАРТОЧКАСЫ"]
  | .creationDate => ["Жасалу күні мен уақыты"]
  | .builderSystem => ["Ақпараттық жүйе немесе сервис"]
  | .contents => ["Мазмұны:"]
  | .infoBlock => ["Ақпараттық блок"]
  | .documentVisualization => ["Электрондық құжатты визуалдау"]
  | .signaturesVisualization => ["Электрондық құжатта қол қоюды визуалдау"]
  | .attachmentsList => ["Тіркемеленген файлдар тізімі:"]
  | .documentAttachment => ["Электрондық құжаттың түпнұсқасы"]
  | .signatureAttachment => ["ЭСҚ, \x7bsigner\x7d"]
  | .iin => ["ЖСН \x7bid\x7d"]
  | .organization => ["\x7bname\x7d, БСН \x7bid\x7d"]
  | .pageNumber => ["\x7btotal\x7d беттің \x7bpage\x7d беті"]
  | .cardFooter => ["Электрондық құжат карточкасы"]
  | .documentCopy => ["Электрондық құжаттың көшірмесі"]
  | .signatureVisualization => ["Электрондық сандық қолтаңбаның визуалдауы"]
  | .signatureNumber => ["Қолтаңба №\x7bnumber\x7d"]
  | .signatureDate => ["Қолтаңба жасалған күн:"]
  | .signedBy => ["Қол қойды:"]
  | .template => ["Үлгі:"]
  | .representsOrganization => ["Ұйымға өкілдік етеді:"]
  | .allowedUsage => ["Рұқсат етілген пайдалану:"]
  | .certificateDetails =>
      ["Субъект: \x7bsubject\x7d\n",
       "Баламалы есімдер: \x7balt_name\x7d\n",
       "Сериялық нөмір: \x7bserial\x7d\n",
       "Бастап: \x7bfrom\x7d\n",
       "Дейін: \x7buntil\x7d\n",
       "Басып шығарушы: \x7bissuer\x7d"]
  | .tspDetails =>
      ["Уақыт белгісі: \x7bgenerated_at\x7d\n",
       "Субъект: \x7bsubject\x7d\n",
       "Сериялық нөмір: \x7bserial\x7d\n",
       "Басып шығарушы: \x7bissuer\x7d"]
  | .ocspDetails =>
      ["OCSP: \x7bstatus\x7d\n",
       "Қалыптасты: \x7bgenerated_at\x7d\n",
       "Субъект: \x7bsubject\x7d\n",
       "Сериялық нөмір: \x7bserial\x7d\n",
       "Басып шығарушы: \x7bissuer\x7d"]
  | .notice =>
      ["Электрондық құжат карточкасы - бұл визуалды ",
       "түрде көрсетілетін бөліктен және оған қоса ",
       "берілген файлдардан тұратын PDF файлы.\n",
       "Электрондық құжат карточкасының визуалды ",
       "көрсетілетін бөлігі тек ақпараттық мақсатта ",
       "және оның заңдық мәні жоқ.\n",
       "\x7bhow_to_verify\x7d\n",
       "НАЗАР АУДАРЫҢЫЗ! Алаяқтардан сақ болыңыз! ",
       "Электрондық құжаттарды алу кезінде міндетті ",
       "түрде қолтаңбаларды тексеріңіз!"]

end Phrase

namespace Language

/-- A phrase with its places left open. -/
def text (language : Language) (phrase : Phrase) : List Char :=
  let russian := phrase.russian.flatMap String.toList
  let kazakh := phrase.kazakh.flatMap String.toList
  match language with
  | .russian => russian
  | .kazakh => kazakh
  | .both => kazakh ++ (if '\n' ∈ russian then ['\n', '\n'] else " / ".toList) ++ russian

/-- A place in a phrase: its name in braces. -/
def mark (name : List Char) : List Char := '\x7b' :: name ++ ['\x7d']

/-- A phrase with its places filled, one name after another. -/
def format (language : Language) (phrase : Phrase) (values : List (List Char × List Char)) :
    List Char :=
  values.foldl (fun text (name, value) => Text.replaceAll (mark name) value text)
    (language.text phrase)

end Language

end DocumentCard.Card
