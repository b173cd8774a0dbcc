import DocumentCard.Proofs.Card.Refusal
import DocumentCard.Proofs.Rpc.Talk
import Mathlib.Algebra.GroupWithZero.Nat
set_option autoImplicit false

/-!
# What goes into a card comes out of it

A document goes to a builder in parts, and signatures one at a time; the card made from them is taken
away in parts, brought to an extractor in parts, opened, and read in parts.  Each of the four cuts is
made by a caller, and none of them shows in the end.

Each stage is one lemma about talks: gathering collects (`Talk.gather`, `Talk.upload`), reading in
parts cuts what is left to read (`Talk.download`, `Talk.read`), and the two tasks between take one
session from gathering to reading (`Talk.build`, `Talk.parse`).  What reading needs to know about sizes
is a fact about cuts alone (`Part.untilFinal_cut`).

Main statement: with a clean scanner, and an extractor that opens what the renderer makes, the document
and its signatures come back as they were (`card_round_trip`).
-/

namespace DocumentCard

open Session (Helpers Part PartReader Fault Work Builder Extractor)

/-! ## Parts -/

namespace Session.Part

/-- The bytes of parts up to the first that is final, if there is one. -/
def untilFinal : List Part → Option Bytes
  | [] => none
  | part :: rest =>
      if part.final then some part.bytes else (untilFinal rest).map (part.bytes ++ ·)

/-- The parts in which bytes are read when parts of these sizes are asked for. -/
def cut : Bytes → List Nat → List Part
  | _, [] => []
  | bytes, size :: sizes => ⟨bytes.take size, (bytes.drop size).isEmpty⟩ :: cut (bytes.drop size) sizes

/-- The parts of bytes make up the bytes as soon as the sizes asked for reach their length; the final
part does not come before. -/
theorem untilFinal_cut (bytes : Bytes) (sizes : List Nat) :
    untilFinal (cut bytes sizes)
      = if sizes ≠ [] ∧ bytes.length ≤ sizes.sum then some bytes else none := by
  induction sizes generalizing bytes with
  | nil => rfl
  | cons size sizes ih =>
      simp only [cut, untilFinal, List.isEmpty_iff, List.drop_eq_nil_iff]
      by_cases hlast : bytes.length ≤ size
      · have hsum : bytes.length ≤ size + sizes.sum := by omega
        simp [hlast, hsum, List.take_of_length_le hlast]
      · rw [if_neg hlast, ih, List.length_drop, List.sum_cons]
        by_cases hall : bytes.length ≤ size + sizes.sum
        · have hsizes : sizes ≠ [] := by
            rintro rfl
            exact hlast hall
          have hrest : bytes.length - size ≤ sizes.sum := by omega
          simp [hall, hrest, hsizes]
        · have hrest : ¬ bytes.length - size ≤ sizes.sum := by omega
          simp [hall, hrest]

end Session.Part

/-- A signature as a file. -/
def Card.Signature.file (s : Card.Signature) : Card.Attachment := ⟨s.fileName, s.body⟩

namespace Rpc

/-! ## What a talk is about -/

namespace Use

/-- A part of the document, if the use brings one. -/
def documentPart? : Use → Option Bytes
  | .appendDocument part => some part
  | _ => none

/-- A signature, if the use brings one. -/
def signature? : Use → Option Card.Signature
  | .appendSignature signature => some signature
  | _ => none

/-- A part of a card, if the use brings one. -/
def cardPart? : Use → Option Bytes
  | .appendCard part => some part
  | _ => none

/-- The size of the part that the use asks for, if it does. -/
def size? : Use → Option Nat
  | .cardPart size | .documentPart size _ => some size.toNat
  | _ => none

/-- Whether the use brings something to a builder. -/
def Gathers (u : Use) : Prop :=
  (∃ part, u = .appendDocument part) ∨ ∃ signature, u = .appendSignature signature

/-- Whether the use asks a builder for a part of its card, of some bytes. -/
def Downloads (u : Use) : Prop := ∃ size : Int, 0 < size ∧ u = .cardPart size

/-- Whether the use brings a part of a card to an extractor. -/
def Uploads (u : Use) : Prop := ∃ part, u = .appendCard part

/-- Whether the use asks an extractor for the next signature, or for the next part of the document, of
some bytes. -/
def Reads (u : Use) : Prop :=
  u = .nextSignature ∨ ∃ size : Int, 0 < size ∧ u = .documentPart size false

end Use

/-- The part that a reply gives, if it does. -/
def Reply.part? : Reply → Option Part
  | ⟨.part part, none⟩ => some part
  | _ => none

namespace Exchange

/-- The document that exchanges bring together. -/
def document (xs : List Exchange) : Bytes := (xs.filterMap (·.1.documentPart?)).flatten

/-- The signatures that exchanges bring. -/
def signatures (xs : List Exchange) : List Card.Signature := xs.filterMap (·.1.signature?)

/-- The card that exchanges bring together. -/
def card (xs : List Exchange) : Bytes := (xs.filterMap (·.1.cardPart?)).flatten

/-- The sizes that exchanges ask for. -/
def sizes (xs : List Exchange) : List Nat := xs.filterMap (·.1.size?)

/-- The parts that exchanges give. -/
def parts (xs : List Exchange) : List Part := xs.filterMap (·.2.part?)

theorem parts_cons {x : Exchange} {part : Part} (gives : x.2.part? = some part)
    (xs : List Exchange) : parts (x :: xs) = part :: parts xs := List.filterMap_cons_some gives

theorem parts_cons_of_none {x : Exchange} (gives : x.2.part? = none) (xs : List Exchange) :
    parts (x :: xs) = parts xs := List.filterMap_cons_none gives

theorem sizes_cons {x : Exchange} {size : Nat} (asks : x.1.size? = some size)
    (xs : List Exchange) : sizes (x :: xs) = size :: sizes xs := List.filterMap_cons_some asks

/-- The replies to those who asked for the next signature. -/
def signatureReplies (xs : List Exchange) : List Reply :=
  xs.filterMap fun x => if x.1 = .nextSignature then some x.2 else none

end Exchange

/-- The reply to those who ask for the next signature so many times before: the signature of that number
with a word on whether it is the last, or else that there are no more. -/
def signatureReply (files : List Card.Attachment) (asked : Nat) : Reply :=
  match files[asked]? with
  | some file => .ofResult .signature (.ok (.signature file (asked + 1 = files.length)))
  | none => .ofResult .signature (.error .noMoreSignatures)

/-- An extractor that opens what the renderer makes: it finds the document and the signatures in
order. -/
def Faithful (helpers : Helpers) : Prop :=
  ∀ before later (r : Card.Request) card, helpers.press before r = .finished (.ok card) →
    helpers.unpack later card
      = .finished (.ok (⟨r.fileName, r.document⟩ :: r.descriptor.signatures.map (·.file)))

/-! ## Building -/

section Building

variable {helpers : Helpers} {d : Card.Descriptor} {name : String} {doc : Bytes} {last : Session}

theorem run_appendDocument (helpers : Helpers) (scans : Nat) (d : Card.Descriptor) (name : String)
    (doc part : Bytes) :
    ((Use.appendDocument part).work (.builder ⟨d, name, .gathering doc⟩)).run helpers scans
      = ⟨.builder ⟨d, name, .gathering (doc ++ part)⟩, .ok .nothing, scans⟩ := rfl

theorem run_appendSignature (clean : ∀ before data, helpers.scan before data = .ok .clean)
    (scans : Nat) (d : Card.Descriptor) (name : String) (doc : Bytes) (signature : Card.Signature) :
    ((Use.appendSignature signature).work (.builder ⟨d, name, .gathering doc⟩)).run helpers scans
      = ⟨.builder ⟨{ d with signatures := d.signatures ++ [signature] }, name, .gathering doc⟩,
          .ok .nothing, scans + 1⟩ := by
  simp [Use.work, Session.onBuilder, Session.asBuilder, Builder.sign, Work.screen, Work.map,
    Work.run, clean, Session.passed, Except.map]

/-- What a builder is brought it gathers, in whatever pieces and order. -/
theorem Talk.gather (clean : ∀ before data, helpers.scan before data = .ok .clean)
    {gathered rest : List Exchange} (gathers : ∀ x ∈ gathered, x.1.Gathers)
    (talk : Talk helpers (.builder ⟨d, name, .gathering doc⟩) (gathered ++ rest) last) :
    Talk helpers
      (.builder ⟨{ d with signatures := d.signatures ++ Exchange.signatures gathered }, name,
        .gathering (doc ++ Exchange.document gathered)⟩)
      rest last := by
  induction gathered generalizing d doc with
  | nil => simpa [Exchange.signatures, Exchange.document] using talk
  | cons x xs ih =>
      rw [List.forall_mem_cons] at gathers
      obtain ⟨brings, others⟩ := gathers
      cases talk with
      | refused asks _ => rcases brings with ⟨part, rfl⟩ | ⟨signature, rfl⟩ <;> cases asks
      | used may scans talk =>
          rcases brings with ⟨part, rfl⟩ | ⟨signature, rfl⟩
          · rw [run_appendDocument] at talk
            simpa [Exchange.signatures, Exchange.document, Use.signature?, Use.documentPart?]
              using ih others talk
          · rw [run_appendSignature clean] at talk
            simpa [Exchange.signatures, Exchange.document, Use.signature?, Use.documentPart?]
              using ih others talk

theorem run_build (clean : ∀ before data, helpers.scan before data = .ok .clean) (scans : Nat)
    (d : Card.Descriptor) (name : String) (doc : Bytes) (options : Card.Options) :
    let b : Builder := ⟨d, name, .gathering doc⟩
    ((Use.build options).work (.builder b)).run helpers scans
      = match helpers.press (scans + 1) ⟨d, doc, name, options⟩ with
        | .crashed reason => ⟨.builder b.emptied, .error (Builder.crashed reason), scans + 1⟩
        | .finished (.error fault) => ⟨.builder b, .error (.ofRender fault), scans + 1⟩
        | .finished (.ok card) =>
            ⟨.builder ⟨d, name, .built (.ofFile card)⟩, .ok .nothing, scans + 1⟩ := by
  simp only [Use.work, Session.onBuilder, Session.asBuilder, Work.run_map, Builder.build,
    Work.screen, Work.run, clean, Session.passed, Builder.request]
  cases helpers.press (scans + 1) ⟨d, doc, name, options⟩ with
  | crashed reason => rfl
  | finished made =>
      cases made with
      | error fault => rfl
      | ok card => rfl

/-- Only a renderer that refuses a request with a reason of no words leaves no words. -/
theorem ofRender_eq_of_message {fault : Card.Fault} (h : (Fault.ofRender fault).message = "") :
    Fault.ofRender fault = .validation "" := by
  cases fault with
  | validation text => exact congrArg Fault.validation h
  | pdf fault => exact absurd h (append_ne_empty (by decide) _)
  | malformed text => exact absurd h (append_ne_empty (by decide) _)
  | io text => exact absurd h (append_ne_empty (by decide) _)

/-- When a build is told to have gone well, the card is made from all that was gathered. -/
theorem Talk.build (clean : ∀ before data, helpers.scan before data = .ok .clean)
    {options : Card.Options} {built : Reply} {rest : List Exchange}
    (told : built.faultText = "") (worded : built.fault ≠ some (.validation ""))
    (talk : Talk helpers (.builder ⟨d, name, .gathering doc⟩) ((.build options, built) :: rest)
      last) :
    ∃ before card, helpers.press before ⟨d, doc, name, options⟩ = .finished (.ok card) ∧
      Talk helpers (.builder ⟨d, name, .built (.ofFile card)⟩) rest last := by
  cases talk with
  | refused asks _ => cases asks
  | used may scans talk =>
      rw [run_build clean] at talk told worded
      cases hpress : helpers.press (scans + 1) ⟨d, doc, name, options⟩ with
      | crashed reason =>
          rw [hpress] at told
          exact absurd told (append_ne_empty (by decide) _)
      | finished made =>
          rw [hpress] at talk told worded
          cases made with
          | ok card => exact ⟨scans + 1, card, hpress, talk⟩
          | error fault => exact absurd (congrArg some (ofRender_eq_of_message told)) worded

/-- The renderer that the service comes with does not leave a build that it refuses without words. -/
theorem Talk.worded_of_press (clean : ∀ before data, helpers.scan before data = .ok .clean)
    (own : ∀ before r, ∃ created, helpers.press before r = .finished (r.press created))
    {options : Card.Options} {built : Reply} {rest : List Exchange}
    (talk : Talk helpers (.builder ⟨d, name, .gathering doc⟩) ((.build options, built) :: rest)
      last) :
    built.fault ≠ some (.validation "") := by
  cases talk with
  | refused asks _ => cases asks
  | used may scans talk =>
      obtain ⟨created, hpress⟩ := own (scans + 1) ⟨d, doc, name, options⟩
      rw [run_build clean, hpress]
      cases hmade : Card.Request.press ⟨d, doc, name, options⟩ created with
      | ok card => exact nofun
      | error fault =>
          intro h
          have hworded := Card.Request.message_ne_empty_of_press hmade
          cases fault with
          | validation text =>
              apply hworded
              exact Fault.validation.inj (Option.some.inj h)
          | pdf cause => cases h
          | malformed text => cases h
          | io text => cases h

/-- A part of a card is the front of what is left to read. -/
theorem run_cardPart (helpers : Helpers) (scans : Nat) (d : Card.Descriptor) (name : String)
    (reader : PartReader) {size : Int} (pos : 0 < size) :
    ∃ after, after.rest = reader.rest.drop size.toNat ∧
      ((Use.cardPart size).work (.builder ⟨d, name, .built reader⟩)).run helpers scans
        = ⟨.builder ⟨d, name, .built after⟩,
            .ok (.part ⟨reader.rest.take size.toNat, (reader.rest.drop size.toNat).isEmpty⟩),
            scans⟩ := by
  have hsize : 0 < size.toNat := by omega
  obtain ⟨after, hnext, hrest⟩ := reader.next_of_pos hsize
  refine ⟨after, hrest, ?_⟩
  simp [Use.work, Session.onBuilder, Session.asBuilder, Use.atOnce, Work.atOnce, Builder.next,
    hnext, Work.map, Work.run, Except.map, Bind.bind, Except.bind, Pure.pure, Except.pure]

/-- What a builder that has its card is asked for it cuts off what is left to read. -/
theorem Talk.download {reader : PartReader} {downloads rest : List Exchange}
    (asks : ∀ x ∈ downloads, x.1.Downloads)
    (talk : Talk helpers (.builder ⟨d, name, .built reader⟩) (downloads ++ rest) last) :
    Exchange.parts downloads = Part.cut reader.rest (Exchange.sizes downloads) := by
  induction downloads generalizing reader with
  | nil => rfl
  | cons x xs ih =>
      rw [List.forall_mem_cons] at asks
      obtain ⟨⟨size, pos, hx⟩, others⟩ := asks
      cases talk with
      | refused asks _ =>
          obtain rfl := hx
          rw [Use.fault?, if_neg (by omega)] at asks
          cases asks
      | used may scans talk =>
          obtain rfl := hx
          obtain ⟨after, hrest, hrun⟩ := run_cardPart helpers scans d name reader pos
          rw [hrun] at talk ⊢
          have hxs := ih others talk
          rw [hrest] at hxs
          rw [Exchange.parts_cons rfl, Exchange.sizes_cons rfl, hxs]
          rfl

end Building

/-! ## Opening -/

section Opening

variable {helpers : Helpers} {last : Session}

theorem run_appendCard (helpers : Helpers) (scans : Nat) (bytes part : Bytes) :
    ((Use.appendCard part).work (.extractor (.gathering bytes))).run helpers scans
      = ⟨.extractor (.gathering (bytes ++ part)), .ok .nothing, scans⟩ := rfl

/-- What an extractor is brought it gathers, in whatever pieces. -/
theorem Talk.upload {bytes : Bytes} {uploads rest : List Exchange}
    (brings : ∀ x ∈ uploads, x.1.Uploads)
    (talk : Talk helpers (.extractor (.gathering bytes)) (uploads ++ rest) last) :
    Talk helpers (.extractor (.gathering (bytes ++ Exchange.card uploads))) rest last := by
  induction uploads generalizing bytes with
  | nil => simpa [Exchange.card] using talk
  | cons x xs ih =>
      rw [List.forall_mem_cons] at brings
      obtain ⟨⟨part, hx⟩, others⟩ := brings
      cases talk with
      | refused asks _ =>
          obtain rfl := hx
          cases asks
      | used may scans talk =>
          obtain rfl := hx
          rw [run_appendCard] at talk
          simpa [Exchange.card, Use.cardPart?] using ih others talk

/-- A clean scanner lets all files pass. -/
theorem run_screenAll (clean : ∀ before data, helpers.scan before data = .ok .clean) {σ α : Type}
    (state : σ) (next : Except Fault Unit → Work σ α) (files : List Card.Attachment) (scans : Nat) :
    (Extractor.screenAll state next files).run helpers scans
      = (next (.ok ())).run helpers (scans + files.length) := by
  induction files generalizing scans with
  | nil => rfl
  | cons file rest ih =>
      simp only [Extractor.screenAll, Work.screen, Work.run, clean, Session.passed]
      rw [ih, List.length_cons, Nat.add_right_comm, Nat.add_assoc]

/-- A card with enough files is opened, and its first file is the document. -/
theorem run_parse (clean : ∀ before data, helpers.scan before data = .ok .clean) {card : Bytes}
    {document first : Card.Attachment} {others : List Card.Attachment}
    (opens : ∀ before, helpers.unpack before card = .finished (.ok (document :: first :: others)))
    (scans : Nat) :
    ∃ after, (Use.parse.work (.extractor (.gathering card))).run helpers scans
      = ⟨.extractor (.parsed document.name (.ofFile document.bytes) (first :: others)),
          .ok (.name document.name), after⟩ := by
  simp only [Use.work, Session.onExtractor, Session.asExtractor, Work.run_map, Extractor.parse,
    Work.screen, Work.run, clean, Session.passed, opens, run_screenAll clean]
  exact ⟨_, rfl⟩

/-- When a card with enough files is brought, the one who wants it opened is told the name of the
document, and then it can be read. -/
theorem Talk.parse (clean : ∀ before data, helpers.scan before data = .ok .clean) {card : Bytes}
    {document first : Card.Attachment} {others : List Card.Attachment} {parsed : Reply}
    {rest : List Exchange}
    (opens : ∀ before, helpers.unpack before card = .finished (.ok (document :: first :: others)))
    (talk : Talk helpers (.extractor (.gathering card)) ((.parse, parsed) :: rest) last) :
    parsed = .ofResult .name (.ok (.name document.name)) ∧
      Talk helpers (.extractor (.parsed document.name (.ofFile document.bytes) (first :: others)))
        rest last := by
  cases talk with
  | refused asks _ => cases asks
  | used may scans talk =>
      obtain ⟨after, hrun⟩ := run_parse clean opens scans
      rw [hrun] at talk ⊢
      exact ⟨rfl, talk⟩

/-- A part of the document is the front of what is left to read. -/
theorem run_documentPart (helpers : Helpers) (scans : Nat) (name : String) (reader : PartReader)
    (files : List Card.Attachment) {size : Int} (pos : 0 < size) :
    ∃ after, after.rest = reader.rest.drop size.toNat ∧
      ((Use.documentPart size false).work (.extractor (.parsed name reader files))).run helpers
          scans
        = ⟨.extractor (.parsed name after files),
            .ok (.part ⟨reader.rest.take size.toNat, (reader.rest.drop size.toNat).isEmpty⟩),
            scans⟩ := by
  have hsize : 0 < size.toNat := by omega
  obtain ⟨after, hnext, hrest⟩ := reader.next_of_pos hsize
  refine ⟨after, hrest, ?_⟩
  simp [Use.work, Session.onExtractor, Session.asExtractor, Use.atOnce, Work.atOnce,
    Extractor.nextPart, hnext, Work.map, Work.run, Except.map, Bind.bind, Except.bind, Pure.pure,
    Except.pure]

/-- The first signature that is left is handed out, and its reply is the one of number zero. -/
theorem run_nextSignature (helpers : Helpers) (scans : Nat) (name : String) (reader : PartReader)
    (files : List Card.Attachment) :
    ∃ result, Reply.ofResult .signature result = signatureReply files 0 ∧
      (Use.nextSignature.work (.extractor (.parsed name reader files))).run helpers scans
        = ⟨.extractor (.parsed name reader files.tail), result, scans⟩ := by
  cases files with
  | nil => exact ⟨_, rfl, rfl⟩
  | cons file files => exact ⟨.ok (.signature file files.isEmpty), by cases files <;> rfl, rfl⟩

/-- Who asks for a signature gets no part. -/
theorem part?_signatureReply (files : List Card.Attachment) (asked : Nat) :
    (signatureReply files asked).part? = none := by
  unfold signatureReply
  split <;> rfl

/-- After one signature has been handed out the others are asked for. -/
theorem signatureReply_succ (files : List Card.Attachment) (asked : Nat) :
    signatureReply files (asked + 1) = signatureReply files.tail asked := by
  cases files with
  | nil => rfl
  | cons file files =>
      show signatureReply (file :: files) (asked + 1) = signatureReply files asked
      simp [signatureReply]

/-- An open card is read from where the reader stands, and its signatures are handed out in order, in
whatever order the two are asked for. -/
theorem Talk.read {name : String} {reader : PartReader} {files : List Card.Attachment}
    {reads rest : List Exchange} (asks : ∀ x ∈ reads, x.1.Reads)
    (talk : Talk helpers (.extractor (.parsed name reader files)) (reads ++ rest) last) :
    Exchange.parts reads = Part.cut reader.rest (Exchange.sizes reads) ∧
      ∀ i reply, (Exchange.signatureReplies reads)[i]? = some reply →
        reply = signatureReply files i := by
  induction reads generalizing reader files with
  | nil => exact ⟨rfl, by simp [Exchange.signatureReplies]⟩
  | cons x xs ih =>
      rw [List.forall_mem_cons] at asks
      obtain ⟨hx, others⟩ := asks
      cases talk with
      | refused asks _ =>
          rcases hx with rfl | ⟨size, pos, rfl⟩
          · cases asks
          · rw [Use.fault?, if_neg (by omega)] at asks
            cases asks
      | used may scans talk =>
          rcases hx with rfl | ⟨size, pos, rfl⟩
          · obtain ⟨result, hreply, hrun⟩ := run_nextSignature helpers scans name reader files
            rw [hrun] at talk ⊢
            obtain ⟨hparts, hreplies⟩ := ih others talk
            have hnone : Reply.part? (.ofResult .signature result) = none := by
              rw [hreply]
              exact part?_signatureReply files 0
            refine ⟨?_, ?_⟩
            · exact (Exchange.parts_cons_of_none hnone xs).trans hparts
            · intro i reply hi
              cases i with
              | zero => exact (Option.some.inj hi).symm.trans hreply
              | succ i =>
                  rw [signatureReply_succ]
                  exact hreplies i reply hi
          · obtain ⟨after, hrest, hrun⟩ := run_documentPart helpers scans name reader files pos
            rw [hrun] at talk ⊢
            obtain ⟨hparts, hreplies⟩ := ih others talk
            rw [hrest] at hparts
            refine ⟨?_, hreplies⟩
            rw [Exchange.parts_cons rfl, Exchange.sizes_cons rfl, hparts]
            rfl

end Opening

/-! ## From one end to the other -/

/-- A document and its signatures come back from a card as they went in.

Between the calls of a session the service may do anything else, as long as it neither drops the session
nor is as late as its end.  Say that a builder is brought a document in any parts and at least one
signature, in any order, and is told that its card is made, by a renderer that gives a reason when it
makes none, as the one of the service does (`Talk.worded_of_press`).  Then there is a card that whoever
downloads it has in full as soon as the sizes asked for reach its length, and not before.  Brought to
an extractor in any parts, of this service or another with the same helpers, it is opened, under the
document's name; the document is read in full as soon as the sizes asked for reach its length, and not
before; and the signatures are handed out in order, the last one as the last, and then no more. -/
theorem card_round_trip (helpers : Helpers)
    (clean : ∀ before data, helpers.scan before data = .ok .clean) (faithful : Faithful helpers)
    (s started : Service) (m : Moment) (d : Card.Descriptor) (name b : String)
    (start : s.call helpers m (.start (.builder (.start d name)))
      = (started, .ofResult .newId (.ok (.newId b))))
    (turns : List Turn) (spared : ∀ t ∈ turns, t.Spares b m.now s.registry.lifetime)
    (gathered : List Exchange) (options : Card.Options) (built : Reply) (later : List Exchange)
    (talk : started.exchanges helpers b turns = gathered ++ (.build options, built) :: later)
    (gathers : ∀ x ∈ gathered, x.1.Gathers) (signed : Exchange.signatures gathered ≠ [])
    (told : built.faultText = "") (worded : built.fault ≠ some (.validation "")) :
    ∃ card : Bytes,
      (∀ downloads rest, later = downloads ++ rest → (∀ x ∈ downloads, x.1.Downloads) →
        Part.untilFinal (Exchange.parts downloads)
          = if Exchange.sizes downloads ≠ [] ∧ card.length ≤ (Exchange.sizes downloads).sum
            then some card else none) ∧
      (∀ (s' started' : Service) (m' : Moment) (e : String) (turns' : List Turn)
          (uploads : List Exchange) (parsed : Reply) (reads rest : List Exchange),
        s'.call helpers m' (.start (.extractor .start))
          = (started', .ofResult .newId (.ok (.newId e))) →
        (∀ t ∈ turns', t.Spares e m'.now s'.registry.lifetime) →
        started'.exchanges helpers e turns' = uploads ++ (.parse, parsed) :: (reads ++ rest) →
        (∀ x ∈ uploads, x.1.Uploads) → Exchange.card uploads = card →
        (∀ x ∈ reads, x.1.Reads) →
        parsed = .ofResult .name (.ok (.name name)) ∧
        (let document := Exchange.document gathered
         Part.untilFinal (Exchange.parts reads)
          = if Exchange.sizes reads ≠ [] ∧ document.length ≤ (Exchange.sizes reads).sum
            then some document else none) ∧
        ∀ i reply, (Exchange.signatureReplies reads)[i]? = some reply →
          reply = signatureReply ((Exchange.signatures gathered).map (·.file)) i) := by
  obtain ⟨last, hbuilder⟩ := Service.talk_of_start start spared
  rw [talk] at hbuilder
  have hgathered := Talk.gather clean gathers hbuilder
  obtain ⟨before, card, hpress, hbuilt⟩ := Talk.build clean told worded hgathered
  refine ⟨card, ?_, ?_⟩
  · intro downloads rest hlater asks
    rw [hlater] at hbuilt
    rw [Talk.download asks hbuilt]
    exact Part.untilFinal_cut card _
  · intro s' started' m' e turns' uploads parsed reads rest start' spared' talk' brings hcard asks
    obtain ⟨last', hextractor⟩ := Service.talk_of_start start' spared'
    rw [talk'] at hextractor
    have huploaded := Talk.upload brings hextractor
    obtain ⟨first, others, hfiles⟩ :
        ∃ first others, (Exchange.signatures gathered).map (·.file) = first :: others :=
      List.exists_cons_of_ne_nil (by simpa using signed)
    have opens (later : Nat) : helpers.unpack later card
        = .finished (.ok (⟨name, Exchange.document gathered⟩ :: first :: others)) := by
      rw [faithful before later _ card hpress, ← hfiles]
      rfl
    rw [List.nil_append, hcard] at huploaded
    obtain ⟨hparsed, hopen⟩ := Talk.parse clean opens huploaded
    obtain ⟨hparts, hreplies⟩ := Talk.read asks hopen
    refine ⟨hparsed, ?_, ?_⟩
    · rw [hparts]
      exact Part.untilFinal_cut _ _
    · rw [hfiles]
      exact hreplies

namespace Sample

/-- A signature. -/
def signature : Card.Signature := { body := [9, 8], fileName := "a.sig", signerName := "A" }

/-- Helpers that know the card of one document. -/
def helpers : Helpers where
  scan _ _ := .ok .clean
  press _ r :=
    if r.fileName = "a.txt" ∧ r.document = [1, 2, 3] ∧ r.descriptor.signatures = [signature] then
      .finished (.ok [5, 5, 5, 5, 5])
    else .finished (.error (.validation "unknown document"))
  unpack _ _ := .finished (.ok [⟨"a.txt", [1, 2, 3]⟩, signature.file])

/-- Time zero, with ids that count up. -/
def moment : Moment := ⟨0, .numbered 0⟩

/-- The id of the first session. -/
def id : String := moment.ids.fresh []

/-- The service when a session has been started. -/
def started (session : Session) : Service :=
  ((Service.empty 1000).call helpers moment (.start session)).1

/-- The reply to those who are to be told nothing but that it went well. -/
def done : Reply := .ofResult .nothing (.ok .nothing)

/-- The reply to those who ask for a part. -/
def part (bytes : Bytes) (final : Bool) : Reply := .ofResult .part (.ok (.part ⟨bytes, final⟩))

/-- What a builder is brought. -/
def gathered : List Exchange :=
  [(.appendDocument [1], done), (.appendSignature signature, done), (.appendDocument [2, 3], done)]

/-- How its card is taken away. -/
def downloads : List Exchange :=
  [(.cardPart 3, part [5, 5, 5] false), (.cardPart 3, part [5, 5] true)]

/-- How the card is brought to an extractor. -/
def uploads : List Exchange := [(.appendCard [5, 5], done), (.appendCard [5, 5, 5], done)]

/-- How the open card is read. -/
def reads : List Exchange :=
  [(.documentPart 2 false, part [1, 2] false),
   (.nextSignature, .ofResult .signature (.ok (.signature signature.file true))),
   (.documentPart 2 false, part [3] true),
   (.nextSignature, .ofResult .signature (.error .noMoreSignatures))]

/-- Uses of the session, one after another. -/
def turns (uses : List Use) : List Turn := uses.map fun u => .call 0 moment (.use id u)

theorem spared (uses : List Use) (t : Turn) (h : t ∈ turns uses) :
    t.Spares id moment.now (Service.empty 1000).registry.lifetime := by
  obtain ⟨u, -, rfl⟩ := List.mem_map.mp h
  exact ⟨Call.noConfusion, by decide⟩

theorem faithful : Faithful helpers := by
  intro before later r card h
  simp only [helpers] at h
  split at h
  · rename_i known
    obtain ⟨hname, hdocument, hsignatures⟩ := known
    rw [hname, hdocument, hsignatures]
    rfl
  · cases h

end Sample

/-- A document of three bytes and one signature go through a card of five bytes. -/
theorem card_round_trip_sample :
    Part.untilFinal (Exchange.parts Sample.downloads) = some (Exchange.card Sample.uploads) ∧
      Part.untilFinal (Exchange.parts Sample.reads) = some (Exchange.document Sample.gathered) ∧
      ∀ i reply, (Exchange.signatureReplies Sample.reads)[i]? = some reply →
        reply = signatureReply [Sample.signature.file] i := by
  obtain ⟨card, hdownload, hupload⟩ := card_round_trip Sample.helpers (fun _ _ => rfl)
    Sample.faithful (.empty 1000) (Sample.started (.builder (.start {} "a.txt"))) Sample.moment {}
    "a.txt" Sample.id rfl
    (Sample.turns [.appendDocument [1], .appendSignature Sample.signature, .appendDocument [2, 3],
      .build {}, .cardPart 3, .cardPart 3])
    (Sample.spared _) Sample.gathered {} Sample.done Sample.downloads (by decide +kernel)
    (by simp [Sample.gathered, Use.Gathers]) (by decide) (by decide) (by decide)
  have hcard : card = [5, 5, 5, 5, 5] := by
    have hwhole : some [5, 5, 5, 5, 5] = if _ then some card else none :=
      hdownload Sample.downloads [] rfl (by simp [Sample.downloads, Use.Downloads])
    split at hwhole
    · exact (Option.some.inj hwhole).symm
    · cases hwhole
  obtain ⟨-, hread, hsignatures⟩ := hupload (.empty 1000) (Sample.started (.extractor .start))
    Sample.moment Sample.id
    (Sample.turns [.appendCard [5, 5], .appendCard [5, 5, 5], .parse, .documentPart 2 false,
      .nextSignature, .documentPart 2 false, .nextSignature])
    Sample.uploads (.ofResult .name (.ok (.name "a.txt"))) Sample.reads [] rfl (Sample.spared _)
    (by decide +kernel) (by simp [Sample.uploads, Use.Uploads]) (by rw [hcard]; rfl)
    (by simp [Sample.reads, Use.Reads])
  exact ⟨rfl, hread, hsignatures⟩

namespace Wordless

/-- Helpers that know the card of one document, and refuse any other without a word. -/
def helpers : Helpers where
  scan := Sample.helpers.scan
  press before r :=
    match Sample.helpers.press before r with
    | .finished (.error _) => .finished (.error (.validation ""))
    | outcome => outcome
  unpack := Sample.helpers.unpack

theorem faithful : Faithful helpers := by
  intro before later r card h
  refine Sample.faithful before later r card ?_
  simp only [helpers] at h
  split at h
  · cases h
  · exact h

/-- The reply to the one who wants the card. -/
def built : Reply := .ofResult .nothing (.error (.validation ""))

end Wordless

/-- That a reason is given is needed: where a build is refused without a word, the reply reads like that to a
build that went well, but there is no card to be taken away. -/
theorem wordless_refusal_reads_as_success :
    (∀ before data, Wordless.helpers.scan before data = .ok .clean) ∧ Faithful Wordless.helpers ∧
      (Sample.started (.builder (.start {} "b.txt"))).exchanges Wordless.helpers Sample.id
          (Sample.turns [.appendDocument [1], .appendSignature Sample.signature, .build {},
            .cardPart 3])
        = [(.appendDocument [1], Sample.done), (.appendSignature Sample.signature, Sample.done),
            (.build {}, Wordless.built), (.cardPart 3, .ofResult .part (.error (.stage .notBuilt)))] ∧
      Wordless.built.faultText = "" ∧ Wordless.built.toJson = Sample.done.toJson :=
  ⟨fun _ _ => rfl, Wordless.faithful, by decide +kernel, rfl, rfl⟩

end Rpc

end DocumentCard
