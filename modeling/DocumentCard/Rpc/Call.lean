import DocumentCard.Rpc.Refusal
import DocumentCard.Rpc.Reply
import DocumentCard.Session.Basic
set_option autoImplicit false

/-!
# Calls

There are twelve methods.  Two start a session, two drop one, and the others use one: they name it by
its id, wait until they have it for themselves, and do their work on it.  A use that asks for parts of
no bytes is refused before it waits for anything.

A method takes one argument, a record whose fields may all be missing.
-/

namespace DocumentCard.Rpc

open Json (Value Mismatch Decoder)
open Json.Decode (record field text bool int)
open Session (Work Fault)

/-- What can be done with a session. -/
inductive Use where
  | appendDocument (part : Bytes)
  | appendSignature (signature : Card.Signature)
  | build (options : Card.Options)
  | cardPart (size : Int)
  | appendCard (part : Bytes)
  | parse
  | documentPart (size : Int) (fromStart : Bool)
  | nextSignature
  deriving DecidableEq, Repr

/-- A call with its arguments. -/
inductive Call where
  /-- starts a session -/
  | start (session : Session)
  | use (id : String) (use : Use)
  /-- drops a session, known or not -/
  | drop (id : String)
  deriving DecidableEq, Repr

namespace Use

/-- The kind of thing that a use gives. -/
def kind : Use → YieldKind
  | .appendDocument _ | .appendSignature _ | .build _ | .appendCard _ => .nothing
  | .cardPart _ | .documentPart _ _ => .part
  | .parse => .name
  | .nextSignature => .signature

/-- What is wrong with a use, whatever the session. -/
def fault? : Use → Option Fault
  | .cardPart size | .documentPart size _ => if size ≤ 0 then some .partSize else none
  | _ => none

/-- Work that is done at once, as part of a call. -/
def atOnce {σ α : Type} (result : α → Yield) (step : σ → Except Fault (α × σ)) (state : σ) :
    Work σ (Except Fault Yield) :=
  (Work.atOnce state (step state)).map id (·.map result)

/-- What a use does on a session. -/
def work (u : Use) (s : Session) : Work Session (Except Fault Yield) :=
  match u with
  | .appendDocument part => s.onBuilder (atOnce (fun _ => .nothing) (·.append part))
  | .appendSignature signature =>
      s.onBuilder fun b => (b.sign signature).map id (·.map fun _ => .nothing)
  | .build options => s.onBuilder fun b => (b.build options).map id (·.map fun _ => .nothing)
  | .cardPart size => s.onBuilder (atOnce .part (·.next size.toNat))
  | .appendCard part => s.onExtractor (atOnce (fun _ => .nothing) (·.append part))
  | .parse => s.onExtractor fun e => e.parse.map id (·.map .name)
  | .documentPart size fromStart =>
      s.onExtractor (atOnce .part (·.nextPart size.toNat fromStart))
  | .nextSignature =>
      s.onExtractor (atOnce (fun (file, final) => .signature file final) (·.nextSignature))

end Use

/-- The kind of thing that a call gives. -/
def Call.kind : Call → YieldKind
  | .start _ => .newId
  | .use _ u => u.kind
  | .drop _ => .nothing

/-! ## Methods and their arguments -/

/-- The methods. -/
inductive Method where
  | startBuilder
  | appendDocument
  | appendSignature
  | build
  | cardPart
  | dropBuilder
  | startExtractor
  | appendCard
  | parse
  | documentPart
  | nextSignature
  | dropExtractor
  deriving DecidableEq, Repr, Inhabited

namespace Method

/-- The methods with their names. -/
def names : List (String × Method) :=
  [("Builder.Register", .startBuilder), ("Builder.AppendDocumentPart", .appendDocument),
   ("Builder.AppendSignature", .appendSignature), ("Builder.Build", .build),
   ("Builder.GetDDCPart", .cardPart), ("Builder.Drop", .dropBuilder),
   ("Extractor.Register", .startExtractor), ("Extractor.AppendDDCPart", .appendCard),
   ("Extractor.Parse", .parse), ("Extractor.GetDocumentPart", .documentPart),
   ("Extractor.GetSignature", .nextSignature), ("Extractor.Drop", .dropExtractor)]

/-- The method of a name. -/
def ofName? (name : String) : Option Method := (names.find? (·.1 = name)).map Prod.snd

end Method

namespace Arguments

/-- An argument that only names a session. -/
def session : Decoder String := record "SessionArgs" [field "ID" text fun _ id => id] ""

/-- An argument without fields. -/
def none : Decoder Unit := record "NoArgs" [] ()

/-- What a new builder starts from: a descriptor and the document's name. -/
def start : Decoder (Card.Descriptor × String) :=
  record "BuilderRegisterArgs"
    [field "Title" text fun (d, name) title => ({ d with title }, name),
     field "Description" text fun (d, name) description => ({ d with description }, name),
     field "ID" text fun (d, name) id => ({ d with id }, name),
     field "IDQRCode" Json.Decode.bytes fun (d, name) idQrCode => ({ d with idQrCode }, name),
     field "FileName" text fun (d, _) name => (d, name),
     field "Language" text fun (d, name) language => ({ d with language }, name)]
    ({}, "")

/-- A session and bytes under the given key. -/
def bytes (name key : String) : Decoder (String × Bytes) :=
  record name
    [field "ID" text fun (_, part) id => (id, part),
     field key Json.Decode.bytes fun (id, _) part => (id, part)]
    ("", [])

/-- A session and a signature. -/
def signature : Decoder (String × Card.Signature) :=
  record "AppendSignatureArgs"
    [field "ID" text fun (_, s) id => (id, s),
     field "SignatureInfo" Card.Signature.ofJson fun (id, _) s => (id, s)]
    ("", {})

/-- A session and how its card is to look; document and signatures are shown unless the argument
says otherwise. -/
def build : Decoder (String × Card.Options) :=
  record "BuildArgs"
    [field "ID" text fun (_, o) id => (id, o),
     field "CreationDate" text fun (id, o) creationDate => (id, { o with creationDate }),
     field "BuilderName" text fun (id, o) builderName => (id, { o with builderName }),
     field "HowToVerify" text fun (id, o) howToVerify => (id, { o with howToVerify }),
     field "WithoutDocumentVisualization" bool fun (id, o) without =>
       (id, { o with showDocument := !without }),
     field "WithoutSignaturesVisualization" bool fun (id, o) without =>
       (id, { o with showSignatures := !without })]
    ("", { showDocument := true, showSignatures := true })

/-- A session, the greatest size of a part, and whether to go back to the start. -/
structure PartRequest where
  id : String := ""
  size : Int := 0
  fromStart : Bool := false

/-- Which part is wanted. -/
def part : Decoder PartRequest :=
  record "GetPartArgs"
    [field "ID" text fun r id => { r with id },
     field "MaxPartSize" int fun r size => { r with size },
     field "Rewind" bool fun r fromStart => { r with fromStart }]
    {}

end Arguments

namespace Call

/-- The call of a method with an argument. -/
def decode (m : Method) (argument : Value) : Except Mismatch Call :=
  match m with
  | .startBuilder =>
      (Arguments.start argument).map fun (d, name) => .start (.builder (.start d name))
  | .appendDocument =>
      (Arguments.bytes "AppendDocumentPartArgs" "Bytes" argument).map fun (id, part) =>
        .use id (.appendDocument part)
  | .appendSignature =>
      (Arguments.signature argument).map fun (id, s) => .use id (.appendSignature s)
  | .build => (Arguments.build argument).map fun (id, options) => .use id (.build options)
  | .cardPart => (Arguments.part argument).map fun r => .use r.id (.cardPart r.size)
  | .startExtractor => (Arguments.none argument).map fun _ => .start (.extractor .start)
  | .appendCard =>
      (Arguments.bytes "AppendDdcPartArgs" "Part" argument).map fun (id, part) =>
        .use id (.appendCard part)
  | .parse => (Arguments.session argument).map fun id => .use id .parse
  | .documentPart =>
      (Arguments.part argument).map fun r => .use r.id (.documentPart r.size r.fromStart)
  | .nextSignature => (Arguments.session argument).map fun id => .use id .nextSignature
  | .dropBuilder | .dropExtractor => (Arguments.session argument).map .drop

/-- The one argument among parameters; none at all stand for an empty record. -/
def argument (params : Value) : Except Refusal Value :=
  match params with
  | .null | .array [] | .array [.null] => .ok (.object [])
  | .array [v] => .ok v
  | .array items =>
      .error (.badArguments ("expected one argument, got " ++ decimalText items.length))
  | v => .ok v

/-- The call that a method's name and parameters stand for. -/
def read (method : String) (params : Value) : Except Refusal Call := do
  let some m := Method.ofName? method | throw (.unknownMethod method)
  (decode m (← argument params)).mapError fun mismatch => .badArguments mismatch.message

end Call

end DocumentCard.Rpc
