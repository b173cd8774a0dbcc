import DocumentCard.Rpc.Service
set_option autoImplicit false

/-!
# How the use of a session can go

Work on a session waits for helpers, and whatever they say it goes on.  `Work.acts` tells, for given
helpers, what they were asked and what they said, in order.  `Course` tells all ways in which the use of a
session can go: what the helpers do, what the session becomes, and what the use gives.

Main statement: every use of a session goes in one of these ways (`Use.course`), and a service has it go
so (`Service.use_cases`).  What holds of all uses follows by cases, without a look into the work.
-/

namespace DocumentCard.Session

open Antivirus (Scan)

/-! ## What helpers do -/

/-- Something that a helper was asked, and what it said. -/
inductive Act where
  | scanned (data : Bytes) (said : Scan)
  | pressed (request : Card.Request) (outcome : Pressed)
  | unpacked (card : Bytes) (outcome : Unpacked)

/-- Data that was found clean. -/
abbrev Act.foundClean (data : Bytes) : Act := .scanned data (.ok .clean)

/-- Whether this is what the helper says, at some time. -/
def Act.From (helpers : Helpers) : Act → Prop
  | .scanned data said => ∃ before, helpers.scan before data = said
  | .pressed request outcome => ∃ before, helpers.press before request = outcome
  | .unpacked card outcome => ∃ before, helpers.unpack before card = outcome

namespace Work

variable {σ τ α β : Type}

/-- What helpers do in the course of the work. -/
def acts (helpers : Helpers) (scans : Nat) : Work σ α → List Act
  | .done _ _ => []
  | .scan _ data next =>
      .scanned data (helpers.scan scans data) ::
        acts helpers (scans + 1) (next (helpers.scan scans data))
  | .press _ request next =>
      .pressed request (helpers.press scans request) ::
        acts helpers scans (next (helpers.press scans request))
  | .unpack _ card next =>
      .unpacked card (helpers.unpack scans card) ::
        acts helpers scans (next (helpers.unpack scans card))

theorem acts_map (helpers : Helpers) (f : σ → τ) (g : α → β) (w : Work σ α) (scans : Nat) :
    (w.map f g).acts helpers scans = w.acts helpers scans := by
  induction w generalizing scans with
  | done s a => rfl
  | scan s data next ih => exact congrArg _ (ih _ _)
  | press s request next ih => exact congrArg _ (ih _ _)
  | unpack s card next ih => exact congrArg _ (ih _ _)

/-- The acts of a work are acts of the helpers. -/
theorem from_of_mem_acts {helpers : Helpers} {w : Work σ α} {scans : Nat} {a : Act}
    (h : a ∈ w.acts helpers scans) : a.From helpers := by
  induction w generalizing scans with
  | done s result => cases h
  | scan s data next ih =>
      rcases List.mem_cons.mp h with rfl | hrest
      · exact ⟨scans, rfl⟩
      · exact ih _ hrest
  | press s request next ih =>
      rcases List.mem_cons.mp h with rfl | hrest
      · exact ⟨scans, rfl⟩
      · exact ih _ hrest
  | unpack s card next ih =>
      rcases List.mem_cons.mp h with rfl | hrest
      · exact ⟨scans, rfl⟩
      · exact ih _ hrest

end Work

/-- Data passes if it is found clean, and not otherwise. -/
theorem passed_cases (said : Scan) :
    said = .ok .clean ∧ passed said = .ok () ∨
      said ≠ .ok .clean ∧ ∃ fault, passed said = .error fault := by
  rcases said with fault | (_ | reply)
  · exact .inr ⟨nofun, _, rfl⟩
  · exact .inl ⟨rfl, rfl⟩
  · exact .inr ⟨nofun, _, rfl⟩

end DocumentCard.Session

namespace DocumentCard.Rpc

open Session (Act Builder BuilderStage Extractor Fault Helpers PartReader Part Work passed)

/-! ## The ways -/

/-- What use of a session brings about: what helpers do, what the session becomes, and what is given. -/
inductive Course : Session → Use → List Act → Session → Except Fault Yield → Prop where
  /-- it fails at once -/
  | failed (s : Session) (u : Use) (fault : Fault) : Course s u [] s (.error fault)
  | appendedDocument (b : Builder) (document part : Bytes) (stage : b.stage = .gathering document) :
      Course (.builder b) (.appendDocument part) []
        (.builder { b with stage := .gathering (document ++ part) }) (.ok .nothing)
  /-- the signature is not clean -/
  | unsigned (b : Builder) (document : Bytes) (signature : Card.Signature) (said : Antivirus.Scan)
      (fault : Fault) (stage : b.stage = .gathering document) (unclean : said ≠ .ok .clean) :
      Course (.builder b) (.appendSignature signature) [.scanned signature.body said] (.builder b)
        (.error fault)
  | signed (b : Builder) (document : Bytes) (signature : Card.Signature)
      (stage : b.stage = .gathering document) :
      Course (.builder b) (.appendSignature signature) [.foundClean signature.body]
        (.builder { b with
          descriptor := { b.descriptor with signatures := b.descriptor.signatures ++ [signature] } })
        (.ok .nothing)
  /-- the document is not clean -/
  | unpressed (b : Builder) (document : Bytes) (options : Card.Options) (said : Antivirus.Scan)
      (fault : Fault) (stage : b.stage = .gathering document) (unclean : said ≠ .ok .clean) :
      Course (.builder b) (.build options) [.scanned document said] (.builder b) (.error fault)
  | pressCrashed (b : Builder) (document : Bytes) (options : Card.Options) (reason : String)
      (fault : Fault) (stage : b.stage = .gathering document) :
      Course (.builder b) (.build options)
        [.foundClean document, .pressed (b.request document options) (.crashed reason)]
        (.builder b.emptied) (.error fault)
  | pressRefused (b : Builder) (document : Bytes) (options : Card.Options) (refusal : Card.Fault)
      (fault : Fault) (stage : b.stage = .gathering document) :
      Course (.builder b) (.build options)
        [.foundClean document, .pressed (b.request document options) (.finished (.error refusal))]
        (.builder b) (.error fault)
  | built (b : Builder) (document : Bytes) (options : Card.Options) (card : Bytes)
      (stage : b.stage = .gathering document) :
      Course (.builder b) (.build options)
        [.foundClean document, .pressed (b.request document options) (.finished (.ok card))]
        (.builder { b with stage := .built (.ofFile card) }) (.ok .nothing)
  | cardPart (b : Builder) (card after : PartReader) (size : Int) (part : Part)
      (stage : b.stage = .built card) (next : card.next size.toNat = .ok (part, after)) :
      Course (.builder b) (.cardPart size) [] (.builder { b with stage := .built after })
        (.ok (.part part))
  | appendedCard (card part : Bytes) :
      Course (.extractor (.gathering card)) (.appendCard part) []
        (.extractor (.gathering (card ++ part))) (.ok .nothing)
  /-- the card is not clean -/
  | unopened (card : Bytes) (said : Antivirus.Scan) (fault : Fault) (unclean : said ≠ .ok .clean) :
      Course (.extractor (.gathering card)) .parse [.scanned card said]
        (.extractor (.gathering card)) (.error fault)
  | unpackCrashed (card : Bytes) (reason : String) (fault : Fault) :
      Course (.extractor (.gathering card)) .parse
        [.foundClean card, .unpacked card (.crashed reason)] (.extractor .start) (.error fault)
  | unpackRefused (card : Bytes) (refusal : Card.Fault) (fault : Fault) :
      Course (.extractor (.gathering card)) .parse
        [.foundClean card, .unpacked card (.finished (.error refusal))]
        (.extractor (.gathering card)) (.error fault)
  /-- too few files are attached to the card -/
  | tooFew (card : Bytes) (files : List Card.Attachment) (fault : Fault) :
      Course (.extractor (.gathering card)) .parse
        [.foundClean card, .unpacked card (.finished (.ok files))]
        (.extractor (.gathering card)) (.error fault)
  /-- a file that is attached to the card is not clean; those before it are -/
  | unread (card : Bytes) (files clean rest : List Card.Attachment) (file : Card.Attachment)
      (said : Antivirus.Scan) (fault : Fault) (all : files = clean ++ file :: rest)
      (unclean : said ≠ .ok .clean) :
      Course (.extractor (.gathering card)) .parse
        (.foundClean card :: .unpacked card (.finished (.ok files)) ::
          (clean.map fun f => .foundClean f.bytes) ++ [.scanned file.bytes said])
        (.extractor (.gathering card)) (.error fault)
  | parsed (card : Bytes) (document : Card.Attachment) (signatures : List Card.Attachment) :
      Course (.extractor (.gathering card)) .parse
        (.foundClean card :: .unpacked card (.finished (.ok (document :: signatures))) ::
          (document :: signatures).map fun f => .foundClean f.bytes)
        (.extractor (.parsed document.name (.ofFile document.bytes) signatures))
        (.ok (.name document.name))
  | documentPart (name : String) (document after : PartReader) (signatures : List Card.Attachment)
      (size : Int) (fromStart : Bool) (part : Part)
      (next : (if fromStart then document.rewind else document).next size.toNat = .ok (part, after)) :
      Course (.extractor (.parsed name document signatures)) (.documentPart size fromStart) []
        (.extractor (.parsed name after signatures)) (.ok (.part part))
  | nextSignature (name : String) (document : PartReader) (signature : Card.Attachment)
      (rest : List Card.Attachment) :
      Course (.extractor (.parsed name document (signature :: rest))) .nextSignature []
        (.extractor (.parsed name document rest)) (.ok (.signature signature rest.isEmpty))

/-- Work that goes in one of the ways. -/
def Goes (helpers : Helpers) (s : Session) (u : Use) (w : Work Session (Except Fault Yield)) : Prop :=
  ∀ scans, Course s u (w.acts helpers scans) (w.run helpers scans).state (w.run helpers scans).result

/-! ## Every use goes in one of the ways -/

section Ways

variable (helpers : Helpers)

/-- Files are scanned up to the first that is not clean. -/
theorem screenAll_cases {σ α : Type} (state : σ) (next : Except Fault Unit → Work σ α)
    (files : List Card.Attachment) (scans : Nat) :
    (∃ later,
      (Extractor.screenAll state next files).run helpers scans = (next (.ok ())).run helpers later ∧
      (Extractor.screenAll state next files).acts helpers scans
        = files.map (fun f => .foundClean f.bytes) ++ (next (.ok ())).acts helpers later) ∨
    ∃ clean file rest said fault later, files = clean ++ file :: rest ∧ said ≠ .ok .clean ∧
      (Extractor.screenAll state next files).run helpers scans
        = (next (.error fault)).run helpers later ∧
      (Extractor.screenAll state next files).acts helpers scans
        = clean.map (fun f => .foundClean f.bytes) ++
          .scanned file.bytes said :: (next (.error fault)).acts helpers later := by
  induction files generalizing scans with
  | nil => exact .inl ⟨scans, rfl, rfl⟩
  | cons file rest ih =>
      simp only [Extractor.screenAll, Work.screen, Work.run, Work.acts]
      rcases Session.passed_cases (helpers.scan scans file.bytes) with
        ⟨hclean, hpassed⟩ | ⟨hunclean, fault, hpassed⟩
      · rw [hpassed, hclean]
        rcases ih (scans + 1) with ⟨later, hrun, hacts⟩ |
            ⟨clean, bad, others, said, fault, later, hfiles, hsaid, hrun, hacts⟩
        · exact .inl ⟨later, hrun, congrArg _ hacts⟩
        · exact .inr ⟨file :: clean, bad, others, said, fault, later, congrArg _ hfiles, hsaid, hrun,
            congrArg _ hacts⟩
      · rw [hpassed]
        exact .inr ⟨[], file, rest, _, fault, scans + 1, rfl, hunclean, rfl, rfl⟩

theorem goes_appendDocument (b : Builder) (part : Bytes) :
    Goes helpers (.builder b) (.appendDocument part) ((Use.appendDocument part).work (.builder b)) := by
  intro scans
  rcases b with ⟨descriptor, fileName, document | card⟩
  · exact .appendedDocument _ document part rfl
  · exact .failed _ _ _

theorem goes_appendSignature (b : Builder) (signature : Card.Signature) :
    Goes helpers (.builder b) (.appendSignature signature)
      ((Use.appendSignature signature).work (.builder b)) := by
  intro scans
  simp only [Use.work, Session.onBuilder, Session.asBuilder, Work.run_map, Work.acts_map, Builder.sign]
  rcases b with ⟨descriptor, fileName, document | card⟩
  · simp only [Work.screen, Work.run, Work.acts]
    rcases Session.passed_cases (helpers.scan scans signature.body) with
      ⟨hclean, hpassed⟩ | ⟨hunclean, fault, hpassed⟩
    · rw [hpassed, hclean]
      exact .signed _ document signature rfl
    · rw [hpassed]
      exact .unsigned _ document signature _ fault rfl hunclean
  · exact .failed _ _ _

theorem goes_build (b : Builder) (options : Card.Options) :
    Goes helpers (.builder b) (.build options) ((Use.build options).work (.builder b)) := by
  intro scans
  simp only [Use.work, Session.onBuilder, Session.asBuilder, Work.run_map, Work.acts_map, Builder.build]
  rcases b with ⟨descriptor, fileName, document | card⟩
  · simp only [Work.screen, Work.run, Work.acts]
    rcases Session.passed_cases (helpers.scan scans document) with
      ⟨hclean, hpassed⟩ | ⟨hunclean, fault, hpassed⟩
    · rw [hpassed, hclean]
      simp only [Work.run, Work.acts]
      rcases helpers.press (scans + 1) _ with (refusal | card) | reason
      · exact .pressRefused _ document options refusal _ rfl
      · exact .built _ document options card rfl
      · exact .pressCrashed _ document options reason _ rfl
    · rw [hpassed]
      exact .unpressed _ document options _ fault rfl hunclean
  · exact .failed _ _ _

theorem goes_cardPart (b : Builder) (size : Int) :
    Goes helpers (.builder b) (.cardPart size) ((Use.cardPart size).work (.builder b)) := by
  intro scans
  simp only [Use.work, Session.onBuilder, Session.asBuilder, Work.run_map, Work.acts_map, Use.atOnce,
    Builder.next]
  rcases b with ⟨descriptor, fileName, document | card⟩
  · exact .failed _ _ _
  · simp only
    cases hnext : card.next size.toNat with
    | error fault => exact .failed _ _ _
    | ok read => exact .cardPart _ card read.2 size read.1 rfl hnext

theorem goes_appendCard (e : Extractor) (part : Bytes) :
    Goes helpers (.extractor e) (.appendCard part) ((Use.appendCard part).work (.extractor e)) := by
  intro scans
  cases e with
  | gathering card => exact .appendedCard card part
  | parsed name document signatures => exact .failed _ _ _

/-- The scans of the files that are attached to a card. -/
theorem course_screenAll (card : Bytes) (document : Card.Attachment)
    (signatures : List Card.Attachment)
    (next : Except Fault Unit → Work Extractor (Except Fault String))
    (onClean : next (.ok ())
      = .done (.parsed document.name (.ofFile document.bytes) signatures) (.ok document.name))
    (onFault : ∀ fault, next (.error fault) = .done (.gathering card) (.error fault)) (scans : Nat) :
    let files := document :: signatures
    let scanning := Extractor.screenAll Extractor.start next files
    let ran := scanning.run helpers scans
    Course (.extractor (.gathering card)) .parse
      (.foundClean card :: .unpacked card (.finished (.ok files)) :: scanning.acts helpers scans)
      (.extractor ran.state) (ran.result.map .name) := by
  intro files scanning ran
  rcases screenAll_cases helpers Extractor.start next files scans with
    ⟨later, hrun, hacts⟩ | ⟨clean, bad, rest, said, fault, later, hfiles, hsaid, hrun, hacts⟩
  · rw [onClean] at hrun hacts
    simp only [ran, scanning, hrun, hacts, Work.acts, List.append_nil]
    exact .parsed card document signatures
  · rw [onFault] at hrun hacts
    simp only [ran, scanning, hrun, hacts, Work.acts]
    exact .unread card files clean rest bad said fault hfiles hsaid

theorem goes_parse (e : Extractor) :
    Goes helpers (.extractor e) .parse (Use.parse.work (.extractor e)) := by
  intro scans
  simp only [Use.work, Session.onExtractor, Session.asExtractor, Work.run_map, Work.acts_map,
    Extractor.parse]
  rcases e with card | ⟨name, document, signatures⟩
  · simp only [Work.screen, Work.run, Work.acts]
    rcases Session.passed_cases (helpers.scan scans card) with
      ⟨hclean, hpassed⟩ | ⟨hunclean, fault, hpassed⟩
    · rw [hpassed, hclean]
      simp only [Work.run, Work.acts]
      rcases helpers.unpack (scans + 1) card with
        (refusal | (_ | ⟨document, _ | ⟨first, others⟩⟩)) | reason
      · exact .unpackRefused card refusal _
      · exact .tooFew card [] _
      · exact .tooFew card [document] _
      · exact course_screenAll helpers card document (first :: others) _ rfl (fun _ => rfl) _
      · exact .unpackCrashed card reason _
    · rw [hpassed]
      exact .unopened card _ fault hunclean
  · exact .failed _ _ _

theorem goes_documentPart (e : Extractor) (size : Int) (fromStart : Bool) :
    Goes helpers (.extractor e) (.documentPart size fromStart)
      ((Use.documentPart size fromStart).work (.extractor e)) := by
  intro scans
  simp only [Use.work, Session.onExtractor, Session.asExtractor, Work.run_map, Work.acts_map,
    Use.atOnce, Extractor.nextPart]
  rcases e with card | ⟨name, document, signatures⟩
  · exact .failed _ _ _
  · simp only
    cases hnext : (if fromStart then document.rewind else document).next size.toNat with
    | error fault => exact .failed _ _ _
    | ok read => exact .documentPart name document read.2 signatures size fromStart read.1 hnext

theorem goes_nextSignature (e : Extractor) :
    Goes helpers (.extractor e) .nextSignature (Use.nextSignature.work (.extractor e)) := by
  intro scans
  rcases e with card | ⟨name, document, _ | ⟨signature, rest⟩⟩
  · exact .failed _ _ _
  · exact .failed _ _ _
  · exact .nextSignature name document signature rest

end Ways

/-- Every use of a session goes in one of the ways. -/
theorem Use.course (helpers : Helpers) (u : Use) (s : Session) (scans : Nat) :
    Course s u ((u.work s).acts helpers scans) ((u.work s).run helpers scans).state
      ((u.work s).run helpers scans).result := by
  cases u with
  | appendDocument part =>
      cases s with
      | builder b => exact goes_appendDocument helpers b part scans
      | extractor e => exact .failed _ _ _
  | appendSignature signature =>
      cases s with
      | builder b => exact goes_appendSignature helpers b signature scans
      | extractor e => exact .failed _ _ _
  | build options =>
      cases s with
      | builder b => exact goes_build helpers b options scans
      | extractor e => exact .failed _ _ _
  | cardPart size =>
      cases s with
      | builder b => exact goes_cardPart helpers b size scans
      | extractor e => exact .failed _ _ _
  | appendCard part =>
      cases s with
      | builder b => exact .failed _ _ _
      | extractor e => exact goes_appendCard helpers e part scans
  | parse =>
      cases s with
      | builder b => exact .failed _ _ _
      | extractor e => exact goes_parse helpers e scans
  | documentPart size fromStart =>
      cases s with
      | builder b => exact .failed _ _ _
      | extractor e => exact goes_documentPart helpers e size fromStart scans
  | nextSignature =>
      cases s with
      | builder b => exact .failed _ _ _
      | extractor e => exact goes_nextSignature helpers e scans

namespace Service

/-- What helpers do for the use of a session. -/
def acts (helpers : Helpers) (s : Service) (now : Int) (id : String) (u : Use) : List Act :=
  match u.fault?, s.registry.live? now id with
  | none, some record => (u.work record.content).acts helpers s.scans
  | _, _ => []

/-- Either there is nothing to be used, or not like that, or a live session is used in one of the
ways. -/
theorem use_cases (helpers : Helpers) (s : Service) (now : Int) (id : String) (u : Use) :
    (∃ fault, s.use helpers now id u = (s, .error fault) ∧ s.acts helpers now id u = []) ∨
    ∃ record after result scans, s.registry.live? now id = some record ∧
      Course record.content u (s.acts helpers now id u) after result ∧
      (∀ a ∈ s.acts helpers now id u, a.From helpers) ∧
      s.use helpers now id u = (⟨s.registry.put id after, scans⟩, result) := by
  unfold use acts
  cases hfault : u.fault? with
  | some fault => exact .inl ⟨fault, rfl, rfl⟩
  | none =>
      cases hlive : s.registry.live? now id with
      | none => exact .inl ⟨.unknownId, rfl, rfl⟩
      | some record =>
          exact .inr ⟨record, _, _, _, rfl, u.course helpers record.content s.scans,
            fun _ => Work.from_of_mem_acts, rfl⟩

end Service

end DocumentCard.Rpc
