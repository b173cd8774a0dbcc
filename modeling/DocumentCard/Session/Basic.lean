import DocumentCard.Session.Builder
import DocumentCard.Session.Extractor
set_option autoImplicit false

/-!
# Sessions

A session builds one card or opens one.
-/

namespace DocumentCard

/-- The state of a session. -/
inductive Session where
  | builder (builder : Session.Builder)
  | extractor (extractor : Session.Extractor)
  deriving DecidableEq, Repr

namespace Session

/-- What a session does. -/
inductive Kind where
  | builder
  | extractor
  deriving DecidableEq, Repr, Inhabited

/-- The kind in a word. -/
def Kind.word : Kind → String
  | .builder => "builder"
  | .extractor => "extractor"

/-- What a session does. -/
def kind : Session → Kind
  | .builder _ => .builder
  | .extractor _ => .extractor

/-- A session of one kind, used as if it were of another. -/
def wrongKind (wanted actual : Kind) : Fault :=
  .internal ("session is a " ++ actual.word ++ ", not a " ++ wanted.word)

/-- The session as a builder. -/
def asBuilder : Session → Except Fault Builder
  | .builder b => .ok b
  | s => .error (wrongKind .builder s.kind)

/-- The session as an extractor. -/
def asExtractor : Session → Except Fault Extractor
  | .extractor e => .ok e
  | s => .error (wrongKind .extractor s.kind)

/-- The work of a builder, done on a session. -/
def onBuilder {α : Type} (s : Session) (work : Builder → Work Builder (Except Fault α)) :
    Work Session (Except Fault α) :=
  match s.asBuilder with
  | .ok b => (work b).map .builder id
  | .error fault => .done s (.error fault)

/-- The work of an extractor, done on a session. -/
def onExtractor {α : Type} (s : Session) (work : Extractor → Work Extractor (Except Fault α)) :
    Work Session (Except Fault α) :=
  match s.asExtractor with
  | .ok e => (work e).map .extractor id
  | .error fault => .done s (.error fault)

end Session

end DocumentCard
