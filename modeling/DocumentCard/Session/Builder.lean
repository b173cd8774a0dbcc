import DocumentCard.Session.PartReader
import DocumentCard.Session.Work
set_option autoImplicit false

/-!
# Building a card

A builder gathers the document in parts and the signatures one at a time; then the card is made from
them, once, and handed out in parts.  Every signature is scanned before it is taken in, and the
document before the card is made.

While the card is being made the builder holds neither descriptor nor document; it gets them back
when the card cannot be made.
-/

namespace DocumentCard.Session

/-- How far a builder is. -/
inductive BuilderStage where
  /-- holds the document so far -/
  | gathering (document : Bytes)
  /-- the card is made -/
  | built (card : PartReader)
  deriving DecidableEq, Repr

/-- The building of one card. -/
structure Builder where
  descriptor : Card.Descriptor
  fileName : String
  stage : BuilderStage
  deriving DecidableEq, Repr

namespace Builder

/-- A builder that has gathered nothing.  Signatures come one at a time only; those of the descriptor
are left out. -/
def start (descriptor : Card.Descriptor) (fileName : String) : Builder :=
  ⟨{ descriptor with signatures := [] }, fileName, .gathering []⟩

instance : Inhabited Builder := ⟨start {} ""⟩

/-- Whether the card is made. -/
def isBuilt (b : Builder) : Bool :=
  match b.stage with
  | .built _ => true
  | .gathering _ => false

/-- The document so far; once the card is made the builder does not hold it any more. -/
def document (b : Builder) : Bytes :=
  match b.stage with
  | .gathering document => document
  | .built _ => []

/-- Takes in a part of the document. -/
def append (b : Builder) (part : Bytes) : Except Fault (Unit × Builder) :=
  match b.stage with
  | .gathering document => .ok ((), { b with stage := .gathering (document ++ part) })
  | .built _ => .error (.stage .alreadyBuilt)

/-- Takes in a signature whose body is clean. -/
def sign (b : Builder) (signature : Card.Signature) : Work Builder (Except Fault Unit) :=
  match b.stage with
  | .built _ => .done b (.error (.stage .alreadyBuilt))
  | .gathering _ =>
      .screen b signature.body fun
        | .error fault => .done b (.error fault)
        | .ok () =>
            let signatures := b.descriptor.signatures ++ [signature]
            .done { b with descriptor := { b.descriptor with signatures } } (.ok ())

/-- The request for the card of a document. -/
def request (b : Builder) (document : Bytes) (options : Card.Options) : Card.Request :=
  { descriptor := b.descriptor, document, fileName := b.fileName, options }

/-- What the builder holds while the card is being made. -/
def emptied (b : Builder) : Builder := { b with descriptor := {}, stage := .gathering [] }

/-- A task that made no card because it broke down. -/
def crashed (reason : String) : Fault := .internal ("render task failed: " ++ reason)

/-- Makes the card, if the document is clean, and gives its size. -/
def build (b : Builder) (options : Card.Options) : Work Builder (Except Fault Nat) :=
  match b.stage with
  | .built _ => .done b (.error (.stage .alreadyBuilt))
  | .gathering document =>
      .screen b document fun
        | .error fault => .done b (.error fault)
        | .ok () =>
            .press b.emptied (b.request document options) fun
              | .crashed reason => .done b.emptied (.error (crashed reason))
              | .finished (.error fault) => .done b (.error (.ofRender fault))
              | .finished (.ok card) =>
                  .done { b with stage := .built (.ofFile card) } (.ok card.length)

/-- The next part of the card. -/
def next (b : Builder) (max : Nat) : Except Fault (Part × Builder) :=
  match b.stage with
  | .gathering _ => .error (.stage .notBuilt)
  | .built card => do
      let (part, card) ← card.next max
      return (part, { b with stage := .built card })

end Builder

end DocumentCard.Session
