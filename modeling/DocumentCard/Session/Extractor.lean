import DocumentCard.Session.PartReader
import DocumentCard.Session.Work
set_option autoImplicit false

/-!
# Opening a card

An extractor gathers a card in parts; then the card is opened, once.  From then on its document can be
read in parts, again and again, and its signatures are handed out one by one until none is left.  The
card is scanned before it is opened, and everything attached to it before any of it is handed out.

While the card is being opened and what was attached to it scanned, the extractor holds no card; it
gets it back on failure.
-/

namespace DocumentCard.Session

/-- The opening of one card. -/
inductive Extractor where
  /-- holds the card so far -/
  | gathering (card : Bytes)
  /-- the card is open: its document, and the signatures still to be handed out -/
  | parsed (name : String) (document : PartReader) (signatures : List Card.Attachment)
  deriving DecidableEq, Repr

namespace Extractor

/-- An extractor that has gathered nothing. -/
def start : Extractor := .gathering []

instance : Inhabited Extractor := ⟨start⟩

/-- Whether the card is open. -/
def isParsed : Extractor → Bool
  | .parsed .. => true
  | .gathering _ => false

/-- The card so far; once it is open the extractor does not hold it any more. -/
def card : Extractor → Bytes
  | .gathering card => card
  | .parsed .. => []

/-- The name of the document, once the card is open. -/
def documentName? : Extractor → Option String
  | .parsed name _ _ => some name
  | .gathering _ => none

/-- Takes in a part of the card. -/
def append (e : Extractor) (part : Bytes) : Except Fault (Unit × Extractor) :=
  match e with
  | .gathering card => .ok ((), .gathering (card ++ part))
  | .parsed .. => .error (.stage .alreadyParsed)

/-- A task that opened no card because it broke down. -/
def crashed (reason : String) : Fault := .internal ("extract task failed: " ++ reason)

/-- A card with too few files. -/
def tooFew (count : Nat) : Fault :=
  .parse ("PDF contains less than " ++ decimalText Card.leastAttachments ++ " attachments ("
    ++ decimalText count ++ ")")

/-- Work that has files scanned one after another up to the first that does not pass. -/
def screenAll {σ α : Type} (state : σ) (next : Except Fault Unit → Work σ α) :
    List Card.Attachment → Work σ α
  | [] => next (.ok ())
  | file :: rest =>
      .screen state file.bytes fun
        | .error fault => next (.error fault)
        | .ok () => screenAll state next rest

/-- Opens the card, if it and all files attached to it are clean, and gives the document's name. -/
def parse (e : Extractor) : Work Extractor (Except Fault String) :=
  match e with
  | .parsed .. => .done e (.error (.stage .alreadyParsed))
  | .gathering card =>
      let failed (fault : Fault) : Work Extractor (Except Fault String) := .done e (.error fault)
      .screen e card fun
        | .error fault => failed fault
        | .ok () =>
            .unpack start card fun
              | .crashed reason => .done start (.error (crashed reason))
              | .finished (.error fault) => failed (.ofExtract fault)
              | .finished (.ok (document :: first :: others)) =>
                  screenAll start (fun
                    | .error fault => failed fault
                    | .ok () =>
                        .done (.parsed document.name (.ofFile document.bytes) (first :: others))
                          (.ok document.name))
                    (document :: first :: others)
              | .finished (.ok files) => failed (tooFew files.length)

/-- The next part of the document, from its start if asked for; a size of zero is refused before
anything moves. -/
def nextPart (e : Extractor) (max : Nat) (fromStart : Bool) : Except Fault (Part × Extractor) :=
  match e with
  | .gathering _ => .error (.stage .notParsed)
  | .parsed name document signatures => do
      let (part, document) ← (if fromStart then document.rewind else document).next max
      return (part, .parsed name document signatures)

/-- The next signature, and whether it is the last one. -/
def nextSignature (e : Extractor) : Except Fault ((Card.Attachment × Bool) × Extractor) :=
  match e with
  | .gathering _ => .error (.stage .notParsed)
  | .parsed _ _ [] => .error .noMoreSignatures
  | .parsed name document (signature :: rest) =>
      .ok ((signature, rest.isEmpty), .parsed name document rest)

end Extractor

end DocumentCard.Session
