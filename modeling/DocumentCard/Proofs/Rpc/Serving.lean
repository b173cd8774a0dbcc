import DocumentCard.Proofs.Rpc.History
import DocumentCard.Proofs.Rpc.RoundTrip
set_option autoImplicit false

/-!
# What an open card serves

An open card has two things to read: its document, again and again, and its signatures, each once.  They
do not get in each other's way, and nothing else that is asked of the session gets in the way of either.

`Episode.reads` tells what has been read of the document since it was last begun; what a reader of the
document has left is the rest (`Opened`), and each use keeps it so (`serves_opened`).

Main statements: those who read the document notice nothing of those who do not
(`documentResults_history`); a card with enough clean files is opened, and from then on serves its document
and its signatures (`open_card_serves`).
-/

namespace DocumentCard.Rpc

open Session (Extractor Fault Helpers Part PartReader Work)

/-! ## What is served -/

/-- Whether a part of the document is asked for. -/
def Use.readsDocument : Use → Bool
  | .documentPart _ _ => true
  | _ => false

namespace Episode

/-- What has been read of the document since it was last begun, the episode included; a part that is not
given does not count. -/
def reads (sofar : Bytes) (e : Episode) : Bytes :=
  match e.use, e.result with
  | .documentPart _ fromStart, .ok (.part part) => (if fromStart then [] else sofar) ++ part.bytes
  | _, _ => sofar

/-- What has been read of the document since it was last begun. -/
def read (past : List Episode) : Bytes := past.foldl reads []

/-- How often the next signature was asked for. -/
def asked (past : List Episode) : Nat := past.countP (·.use = .nextSignature)

/-- What the use of an open card may be, after those before it. -/
structure Serves (document : Card.Attachment) (signatures : List Card.Attachment)
    (past : List Episode) (e : Episode) : Prop where
  /-- the card stays open -/
  stays : ∃ reader files, e.after = .extractor (.parsed document.name reader files)
  /-- signatures are handed out in order, the last one as the last, and then no more -/
  signature : e.use = .nextSignature → e.reply = signatureReply signatures (asked past)
  /-- whoever asks for some bytes gets a part, and a full one if it is not final -/
  part : ∀ size fromStart, e.use = .documentPart size fromStart → 0 < size →
    ∃ part, e.result = .ok (.part part) ∧ (part.final = false → part.bytes.length = size.toNat)
  /-- the parts are the front of the document, and the final one completes it -/
  front : ∀ size fromStart part, e.use = .documentPart size fromStart →
    e.result = .ok (.part part) →
      read (past ++ [e]) <+: document.bytes ∧
        (part.final = true ↔ read (past ++ [e]) = document.bytes)
  /-- whoever asks for no bytes gets none, and nothing moves, even if the start is asked for -/
  refused : ∀ size fromStart, e.use = .documentPart size fromStart → size ≤ 0 →
    e.result = .error .partSize ∧ e.after = e.before

end Episode

/-! ## What one use does -/

section Open

variable {helpers : Helpers} {name : String} {reader : PartReader} {files : List Card.Attachment}

/-- A part of the document is the reader's business alone. -/
theorem work_documentPart (name : String) (reader : PartReader) (files : List Card.Attachment)
    (size : Int) (fromStart : Bool) :
    (Use.documentPart size fromStart).work (.extractor (.parsed name reader files))
      = match (if fromStart then reader.rewind else reader).next size.toNat with
        | .ok (part, next) => .done (.extractor (.parsed name next files)) (.ok (.part part))
        | .error fault => .done (.extractor (.parsed name reader files)) (.error fault) := by
  simp only [Use.work, Session.onExtractor, Session.asExtractor, Use.atOnce, Extractor.nextPart]
  cases (if fromStart then reader.rewind else reader).next size.toNat with
  | error fault => rfl
  | ok given => rfl

/-- What use of an open card can do: hand out a signature, give a part of the document, or fail and
change nothing. -/
theorem episode_open (helpers : Helpers) (scans : Nat) (name : String) (reader : PartReader)
    (files : List Card.Attachment) (u : Use) :
    let e := u.episode helpers scans (.extractor (.parsed name reader files))
    (u = .nextSignature ∧ e.reply = signatureReply files 0 ∧
      e.after = .extractor (.parsed name reader files.tail)) ∨
    (∃ size fromStart part next, u = .documentPart size fromStart ∧ 0 < size ∧
      (if fromStart then reader.rewind else reader).next size.toNat = .ok (part, next) ∧
      e.result = .ok (.part part) ∧ e.after = .extractor (.parsed name next files)) ∨
    (u ≠ .nextSignature ∧ (∃ fault, e.result = .error fault) ∧ e.after = e.before ∧
      ∀ size fromStart, u = .documentPart size fromStart →
        size ≤ 0 ∧ e.result = .error .partSize) := by
  intro e
  cases u with
  | nextSignature =>
      obtain ⟨result, hreply, hrun⟩ := run_nextSignature helpers scans name reader files
      refine .inl ⟨rfl, ?_, ?_⟩
      · simp only [e, Use.episode, Episode.reply, hrun]
        exact hreply
      · simp only [e, Use.episode, hrun]
  | documentPart size fromStart =>
      right
      by_cases pos : 0 < size
      · have hsize : 0 < size.toNat := by omega
        obtain ⟨next, hnext, -⟩ :=
          (if fromStart then reader.rewind else reader).next_of_pos hsize
        refine .inl ⟨size, fromStart, _, next, rfl, pos, hnext, ?_, ?_⟩ <;>
          simp only [e, Use.episode, work_documentPart, hnext, Work.run]
      · have hsize : size.toNat = 0 := by omega
        have hnext : (if fromStart then reader.rewind else reader).next size.toNat
            = .error .partSize := by
          rw [hsize, PartReader.next_zero]
        have hresult : e.result = .error .partSize := by
          simp only [e, Use.episode, work_documentPart, hnext, Work.run]
        have hafter : e.after = e.before := by
          simp only [e, Use.episode, work_documentPart, hnext, Work.run]
        refine .inr ⟨by simp, ⟨_, hresult⟩, hafter, ?_⟩
        rintro size' fromStart' ⟨⟩
        exact ⟨by omega, hresult⟩
  | _ => exact .inr (.inr ⟨by simp, ⟨_, rfl⟩, rfl, by simp⟩)

end Open

/-! ## What the past tells of an open card -/

section Past

variable {document : Card.Attachment} {signatures : List Card.Attachment} {past : List Episode}

namespace Episode

theorem read_append (past : List Episode) (e : Episode) :
    read (past ++ [e]) = reads (read past) e := by
  simp only [read, List.foldl_append, List.foldl_cons, List.foldl_nil]

theorem asked_append (past : List Episode) (e : Episode) :
    asked (past ++ [e]) = asked past + if e.use = .nextSignature then 1 else 0 := by
  simp only [asked, List.countP_append, List.countP_singleton, decide_eq_true_eq]

/-- Nothing counts as read that is not a part. -/
theorem reads_of_error {e : Episode} {fault : Fault} (h : e.result = .error fault)
    (sofar : Bytes) : e.reads sofar = sofar := by
  unfold reads
  split
  · rename_i given
    cases h.symm.trans given
  · rfl

/-- What has been read counts from the start when the start is asked for. -/
theorem reads_of_part {e : Episode} {size : Int} {fromStart : Bool} {part : Part}
    (use : e.use = .documentPart size fromStart) (h : e.result = .ok (.part part))
    (sofar : Bytes) : e.reads sofar = (if fromStart then [] else sofar) ++ part.bytes := by
  simp only [reads, use, h]

end Episode

open Episode (read asked)

/-- An open card after uses that have read so much of the document, and asked so often for a
signature. -/
def Opened (document : Card.Attachment) (signatures : List Card.Attachment) (past : List Episode)
    (s : Session) : Prop :=
  ∃ reader : PartReader, reader.file = document.bytes ∧ read past ++ reader.rest = document.bytes ∧
    s = .extractor (.parsed document.name reader (signatures.drop (asked past)))

/-- The signature of some number is the first of those that are left when so many have been asked for
before. -/
theorem signatureReply_drop (files : List Card.Attachment) (k : Nat) :
    signatureReply (files.drop k) 0 = signatureReply files k := by
  induction k generalizing files with
  | zero => rfl
  | succ k ih => rw [signatureReply_succ, ← ih, List.drop_tail]

/-- An open card serves whatever it is asked for, and stays open. -/
theorem serves_opened (helpers : Helpers) (scans : Nat) {s : Session}
    (opened : Opened document signatures past s) (u : Use) :
    let e := u.episode helpers scans s
    e.Serves document signatures past ∧ Opened document signatures (past ++ [e]) e.after := by
  intro e
  obtain ⟨reader, hfile, hread, rfl⟩ := opened
  have huse : e.use = u := rfl
  rcases episode_open helpers scans document.name reader (signatures.drop (asked past)) u with
    ⟨rfl, hreply, hafter⟩ | ⟨size, fromStart, part, next, rfl, pos, hnext, hresult, hafter⟩ |
    ⟨hother, ⟨fault, hresult⟩, hafter, hpart⟩
  · have hasked : asked (past ++ [e]) = asked past + 1 := by
      rw [Episode.asked_append, huse, if_pos rfl]
    have hsame : read (past ++ [e]) = read past := Episode.read_append past e
    refine ⟨⟨⟨_, _, hafter⟩, fun _ => ?_, nofun, nofun, nofun⟩, reader, hfile, ?_, ?_⟩
    · exact hreply.trans (signatureReply_drop signatures _)
    · rwa [hsame]
    · rw [hasked, ← List.tail_drop]
      exact hafter
  · have hasked : asked (past ++ [e]) = asked past := by
      rw [Episode.asked_append, huse, if_neg nofun, Nat.add_zero]
    have hgrown : read (past ++ [e]) = (if fromStart then [] else read past) ++ part.bytes := by
      rw [Episode.read_append, Episode.reads_of_part huse hresult]
    -- the start of the document if it is asked for, and else what has been read of it
    have hfront : (if fromStart then [] else read past)
        ++ (if fromStart then reader.rewind else reader).rest = document.bytes := by
      cases fromStart with
      | false => exact hread
      | true => exact hfile
    obtain ⟨hwhole, hgrows, hfinal⟩ := PartReader.next_prolongs hnext hfront
    rw [← hgrown] at hwhole hgrows hfinal
    refine ⟨⟨⟨_, _, hafter⟩, nofun, ?_, ?_, ?_⟩, next, ?_, hwhole, ?_⟩
    · rintro _ _ ⟨⟩ -
      exact ⟨part, hresult, PartReader.length_of_not_final hnext⟩
    · intro _ _ handed _ hhanded
      obtain ⟨⟩ := hresult.symm.trans hhanded
      exact ⟨hgrows, hfinal⟩
    · rintro _ _ ⟨⟩ none
      omega
    · rw [PartReader.next_file hnext]
      cases fromStart with
      | false => exact hfile
      | true => exact hfile
    · rw [hasked]
      exact hafter
  · have hasked : asked (past ++ [e]) = asked past := by
      rw [Episode.asked_append, huse, if_neg hother, Nat.add_zero]
    have hsame : read (past ++ [e]) = read past := by
      rw [Episode.read_append, Episode.reads_of_error hresult]
    refine ⟨⟨⟨reader, _, hafter⟩, fun h => absurd h hother, ?_, ?_, ?_⟩, reader, hfile, ?_, ?_⟩
    · intro size fromStart h pos
      have hnone := (hpart size fromStart h).1
      omega
    · intro size fromStart part h hgiven
      cases hresult.symm.trans hgiven
    · intro size fromStart h _
      exact ⟨(hpart size fromStart h).2, hafter⟩
    · rwa [hsame]
    · rw [hasked]
      exact hafter

end Past

/-! ## Two things to read -/

section Apart

/-- What those are given who ask for parts of the document. -/
def documentResults (episodes : List Episode) : List (Except Fault Yield) :=
  (episodes.filter (·.use.readsDocument)).map (·.result)

theorem documentResults_cons (e : Episode) (rest : List Episode) :
    documentResults (e :: rest)
      = if e.use.readsDocument then e.result :: documentResults rest else documentResults rest := by
  simp only [documentResults, List.filter_cons]
  split <;> rfl

/-- A part of the document, and what is left of it, do not depend on the signatures. -/
theorem run_documentPart_apart (name : String) (reader : PartReader) (size : Int)
    (fromStart : Bool) :
    ∃ next result, ∀ (helpers : Helpers) files scans,
      ((Use.documentPart size fromStart).work (.extractor (.parsed name reader files))).run helpers
          scans
        = ⟨.extractor (.parsed name next files), result, scans⟩ := by
  cases hnext : (if fromStart then reader.rewind else reader).next size.toNat with
  | error fault =>
      refine ⟨reader, .error fault, fun helpers files scans => ?_⟩
      simp only [work_documentPart, hnext, Work.run]
  | ok given =>
      refine ⟨given.2, .ok (.part given.1), fun helpers files scans => ?_⟩
      simp only [work_documentPart, hnext, Work.run]

/-- Whatever else is asked for, the reader of the document stays where it is. -/
theorem run_other (helpers : Helpers) (scans : Nat) (name : String) (reader : PartReader)
    (files : List Card.Attachment) {u : Use} (other : u.readsDocument = false) :
    ∃ left, ((u.work (.extractor (.parsed name reader files))).run helpers scans).state
      = .extractor (.parsed name reader left) := by
  rcases episode_open helpers scans name reader files u with
    ⟨-, -, hafter⟩ | ⟨size, fromStart, part, next, rfl, -⟩ | ⟨-, -, hafter, -⟩
  · exact ⟨_, hafter⟩
  · cases other
  · exact ⟨_, hafter⟩

/-- Who asks for parts of the document is given what he would be given if nobody asked for anything
else, whatever signatures there are. -/
theorem documentResults_history (helpers : Helpers) (name : String) (reader : PartReader)
    (files files' : List Card.Attachment) (scans scans' : Nat) (uses : List Use) :
    documentResults (history helpers scans (.extractor (.parsed name reader files)) uses)
      = documentResults (history helpers scans' (.extractor (.parsed name reader files'))
          (uses.filter (·.readsDocument))) := by
  induction uses generalizing reader files scans scans' with
  | nil => rfl
  | cons u uses ih =>
      simp only [history, documentResults_cons]
      cases hreads : u.readsDocument with
      | false =>
          obtain ⟨left, hleft⟩ := run_other helpers scans name reader files hreads
          rw [List.filter_cons_of_neg (by simp [hreads]), hleft]
          simp only [Use.episode, hreads, Bool.false_eq_true, if_false]
          exact ih _ _ _ _
      | true =>
          rw [List.filter_cons_of_pos hreads]
          simp only [history, documentResults_cons]
          cases u with
          | documentPart size fromStart =>
              obtain ⟨next, result, hrun⟩ := run_documentPart_apart name reader size fromStart
              simp only [Use.episode, hrun]
              rw [ih next files scans scans']
          | _ => cases hreads

end Apart

/-! ## From the card to what it serves -/

/-- Clean files are scanned one after another, and then the work goes on. -/
theorem run_screenAll_clean (helpers : Helpers) {σ α : Type} (state : σ)
    (next : Except Fault Unit → Work σ α) (files : List Card.Attachment) (scans : Nat)
    (clean : ∀ k file, files[k]? = some file → helpers.scan (scans + k) file.bytes = .ok .clean) :
    (Extractor.screenAll state next files).run helpers scans
      = (next (.ok ())).run helpers (scans + files.length) := by
  induction files generalizing scans with
  | nil => rfl
  | cons file rest ih =>
      have hfile : helpers.scan scans file.bytes = .ok .clean := clean 0 file rfl
      simp only [Extractor.screenAll, Work.screen, Work.run, hfile, Session.passed]
      rw [ih, List.length_cons, Nat.add_right_comm, Nat.add_assoc]
      intro k other hk
      rw [Nat.add_right_comm, Nat.add_assoc]
      exact clean (k + 1) other hk

/-- A card that is clean, with enough files that are clean, is opened; from then on it serves its document
and its signatures.

The one who wants it opened is told the name of the first file, which is the document.  Then, whatever
the session is asked for, in whatever order and however often, every reply is as it ought to be
(`Episode.Serves`): the card stays open; who asks for a signature gets the files after the first in
order, by the number of times that signatures were asked for before, the last one as the last, and then
no more; who asks for a part of the document, of some bytes, gets one that prolongs what has been read
of it since the start was last asked for, and is final exactly when that is the document; and who asks
for no bytes fails and moves nothing.  Those who ask for the document are given what they would be given
if nobody asked for signatures. -/
theorem open_card_serves (helpers : Helpers) (scans : Nat) (card : Bytes)
    (document first : Card.Attachment) (others : List Card.Attachment)
    (cleanCard : helpers.scan scans card = .ok .clean)
    (opens : helpers.unpack (scans + 1) card
      = .finished (.ok (document :: first :: others)))
    (cleanFiles : ∀ k file, (document :: first :: others)[k]? = some file →
      helpers.scan (scans + 1 + k) file.bytes = .ok .clean)
    (before : Nat) (uses : List Use) :
    let opening := Use.parse.episode helpers scans (.extractor (.gathering card))
    let later := history helpers before opening.after uses
    opening.result = .ok (.name document.name) ∧
      Throughout (Episode.Serves document (first :: others)) later ∧
      documentResults later
        = documentResults (history helpers before opening.after (uses.filter (·.readsDocument))) := by
  intro opening later
  have hrun : (Use.parse.work (.extractor (.gathering card))).run helpers scans
      = ⟨.extractor (.parsed document.name (.ofFile document.bytes) (first :: others)),
          .ok (.name document.name), scans + 1 + (others.length + 2)⟩ := by
    simp only [Use.work, Session.onExtractor, Session.asExtractor, Work.run_map, Extractor.parse,
      Work.screen, Work.run, cleanCard, Session.passed, opens]
    rw [run_screenAll_clean helpers _ _ _ _ cleanFiles]
    rfl
  have hafter : opening.after
      = .extractor (.parsed document.name (.ofFile document.bytes) (first :: others)) :=
    congrArg Session.Ran.state hrun
  refine ⟨congrArg Session.Ran.result hrun, ?_, ?_⟩
  · refine throughout_history (fun past s u n told => serves_opened helpers n told u) ?_ before uses
    exact ⟨.ofFile document.bytes, rfl, rfl, hafter⟩
  · simp only [later, hafter]
    exact documentResults_history helpers _ _ _ _ _ _ uses

namespace Sample

/-- The files of a card with two signatures. -/
def files : List Card.Attachment := [⟨"a.txt", [1, 2, 3]⟩, ⟨"a.sig", [9]⟩, ⟨"b.sig", []⟩]

/-- Helpers that know one card and its files, and nothing else. -/
def openers : Helpers where
  scan _ data :=
    if data = [5, 5] ∨ data ∈ files.map (·.bytes) then .ok .clean else .ok (.infected "unknown")
  press _ _ := .crashed "unknown"
  unpack _ _ := .finished (.ok files)

/-- Document and signatures in turn; once the start is asked for together with no bytes. -/
def readings : List Use :=
  [.documentPart 2 false, .nextSignature, .documentPart 0 true, .documentPart 2 false, .nextSignature,
    .documentPart 3 true, .parse, .nextSignature]

end Sample

/-- A document of three bytes and two signatures, read in turn. -/
theorem open_card_serves_sample :
    let opening := Use.parse.episode Sample.openers 0 (.extractor (.gathering [5, 5]))
    let later := history Sample.openers 0 opening.after Sample.readings
    Throughout (Episode.Serves ⟨"a.txt", [1, 2, 3]⟩ [⟨"a.sig", [9]⟩, ⟨"b.sig", []⟩]) later ∧
      later.map (·.result)
        = [.ok (.part ⟨[1, 2], false⟩), .ok (.signature ⟨"a.sig", [9]⟩ false), .error .partSize,
            .ok (.part ⟨[3], true⟩), .ok (.signature ⟨"b.sig", []⟩ true),
            .ok (.part ⟨[1, 2, 3], true⟩), .error (.stage .alreadyParsed),
            .error .noMoreSignatures] := by
  intro opening later
  obtain ⟨-, hserves, -⟩ := open_card_serves Sample.openers 0 [5, 5] ⟨"a.txt", [1, 2, 3]⟩
    ⟨"a.sig", [9]⟩ [⟨"b.sig", []⟩] (by decide) rfl
    (by
      intro k file hfile
      have hmem := List.mem_map_of_mem (f := Card.Attachment.bytes) (List.mem_of_getElem? hfile)
      exact if_pos (.inr hmem))
    0 Sample.readings
  exact ⟨hserves, rfl⟩

end DocumentCard.Rpc
