import DocumentCard.Card.Attachments
import DocumentCard.Card.Press
import DocumentCard.Proofs.Steps
set_option autoImplicit false

/-!
# Why a card is refused

A card is made in steps, and the first step that fails says why.  Three of them can: the check of what
the request lacks, the reading of a document whose pages are to be shown, and the layout of signatures
that are to get pages.  So a request is refused for what it lacks or for a file that cannot be read
(`Request.failsOnly_card`), and the one who asked is told something in either case
(`Request.message_ne_empty_of_press`).

A card is opened in steps too.  Whichever of them fails, the file is to blame: it cannot be read, or it is
not built as a card is (`Attachments.failsOnly_ofFile`).  That is told as well
(`Attachments.message_ne_empty_of_ofFile`).
-/

namespace DocumentCard

/-- A text that begins with something is not empty. -/
theorem append_ne_empty {first : String} (h : first ≠ "") (second : String) :
    first ++ second ≠ "" := by
  intro e
  exact h (String.append_eq_empty_iff.mp e).1

namespace Card

/-! ## Cards that are not made -/

/-- What is missing is told in words. -/
theorem Flaw.message_ne_empty (flaw : Flaw) : flaw.message ≠ "" := by
  cases flaw with
  | signature number flaw =>
      have hmark : "signature #" ++ decimalText number ≠ "" := append_ne_empty (by decide) _
      exact append_ne_empty (append_ne_empty hmark ": ") flaw.message
  | _ => simp [message]

/-- The fault is that a request lacks something, or that a file cannot be read. -/
def Fault.IsRefusal (fault : Fault) : Prop :=
  (∃ flaw : Flaw, fault = flaw.fault) ∨ ∃ cause, fault = .pdf cause

theorem Fault.isRefusal_flaw (flaw : Flaw) : flaw.fault.IsRefusal := .inl ⟨flaw, rfl⟩

theorem Fault.isRefusal_pdf (cause : Pdf.Fault) : (Fault.pdf cause).IsRefusal := .inr ⟨cause, rfl⟩

/-- A refusal is told in words. -/
theorem Fault.IsRefusal.message_ne_empty {fault : Fault} (h : fault.IsRefusal) :
    fault.message ≠ "" := by
  rcases h with ⟨flaw, rfl⟩ | ⟨cause, rfl⟩
  · exact flaw.message_ne_empty
  · exact append_ne_empty (by decide) cause.message

/-- Signatures that are to get pages get them unless one of them has no details. -/
theorem failsOnly_signaturesFrom (language : Language) (number : Nat) (signatures : List Signature) :
    FailsOnly Fault.IsRefusal (signaturesFrom language number signatures) := by
  induction signatures generalizing number with
  | nil => exact failsOnly_ok []
  | cons s rest ih =>
      unfold signaturesFrom
      cases s.details with
      | none => exact failsOnly_error (Fault.isRefusal_flaw _)
      | some d => exact (ih (number + 1)).bind fun parts => failsOnly_ok _

/-- The pages of a document are taken unless it cannot be read or has none. -/
theorem Draft.failsOnly_import? (d : Draft) (file : Bytes) :
    FailsOnly Fault.IsRefusal (d.import? file) := by
  refine (failsOnly_mapError Fault.isRefusal_pdf (Pdf.load file)).bind fun doc => ?_
  dsimp only
  split
  · exact failsOnly_error (Fault.isRefusal_flaw _)
  · split
    · exact failsOnly_error (Fault.isRefusal_pdf _)
    · exact failsOnly_ok _

namespace Request

theorem failsOnly_layout (r : Request) (boxes : List Box) :
    FailsOnly Fault.IsRefusal (r.layout boxes) := by
  unfold layout
  split
  · have hpages := failsOnly_signaturesFrom r.language 1 r.descriptor.signatures
    exact (hpages.bind fun items => failsOnly_ok _).bind fun pages => failsOnly_ok _
  · exact failsOnly_ok _

/-- A request is refused for what it lacks or for a file that cannot be read. -/
theorem failsOnly_card (r : Request) (created : String) :
    FailsOnly Fault.IsRefusal (r.card created) := by
  unfold card
  cases r.flaw? with
  | some flaw => exact failsOnly_error (Fault.isRefusal_flaw flaw)
  | none =>
      dsimp only
      split
      · refine (Draft.empty.failsOnly_import? r.document).bind fun imported => ?_
        exact (r.failsOnly_layout _).bind fun layout => failsOnly_ok _
      · exact (r.failsOnly_layout _).bind fun layout => failsOnly_ok _

/-- Whoever is refused a card is told something. -/
theorem message_ne_empty_of_press {r : Request} {created : String} {fault : Fault}
    (refused : r.press created = .error fault) : fault.message ≠ "" :=
  ((r.failsOnly_card created).map Pdf.write fault refused).message_ne_empty

end Request

/-! ## Cards that are not opened -/

/-- The fault is that a file cannot be read, or that it is not built as a card is. -/
def Fault.IsOfFile (fault : Fault) : Prop :=
  (∃ cause, fault = .pdf cause) ∨ ∃ text, fault = .malformed text

theorem Fault.isOfFile_pdf (cause : Pdf.Fault) : (Fault.pdf cause).IsOfFile := .inl ⟨cause, rfl⟩

theorem Fault.isOfFile_malformed (text : String) : (Fault.malformed text).IsOfFile := .inr ⟨text, rfl⟩

/-- What is wrong with a file is told in words. -/
theorem Fault.IsOfFile.message_ne_empty {fault : Fault} (h : fault.IsOfFile) : fault.message ≠ "" := by
  rcases h with ⟨cause, rfl⟩ | ⟨text, rfl⟩
  · exact append_ne_empty (by decide) cause.message
  · exact append_ne_empty (by decide) text

namespace Attachments

open Pdf (Document Dict Obj)

/-! Each step of opening a card fails only with faults of a kind that has those which the step itself can
tell of, whatever else is of that kind. -/

section Kinds

variable {P : Fault → Prop}

theorem failsOnly_resolveAs {α : Type} (unread : ∀ cause, P (.pdf cause)) (view : Obj → Option α)
    (doc : Document) (o : Obj) : FailsOnly P (resolveAs view doc o) := by
  unfold resolveAs
  cases hresolve : resolve doc o with
  | error fault => exact failsOnly_error (failsOnly_mapError unread _ fault hresolve)
  | ok target =>
      dsimp only
      cases view target with
      | none => exact failsOnly_error (unread _)
      | some x => exact failsOnly_ok x

theorem failsOnly_pairs (unread : ∀ cause, P (.pdf cause)) (odd : P oddPairs) (doc : Document)
    (objects : List Obj) : FailsOnly P (pairs doc objects) := by
  fun_induction pairs doc objects with
  | case1 => exact failsOnly_ok []
  | case2 => exact failsOnly_error odd
  | case3 key file rest ih =>
      refine (failsOnly_resolveAs unread _ doc key).bind fun key => ?_
      refine (failsOnly_resolveAs unread _ doc file).bind fun file => ?_
      exact ih.bind fun entries => failsOnly_ok _

theorem failsOnly_itemsOf (unread : ∀ cause, P (.pdf cause)) (doc : Document) (node : Dict)
    (key : String) : FailsOnly P (itemsOf doc node key) := by
  unfold itemsOf
  cases node.get? key with
  | none => exact failsOnly_ok []
  | some o => exact failsOnly_resolveAs unread _ doc o

theorem failsOnly_entries (unread : ∀ cause, P (.pdf cause)) (odd : P oddPairs) (deep : P tooDeep)
    (doc : Document) (levels : Nat) (node : Dict) : FailsOnly P (entries doc levels node) := by
  induction levels generalizing node with
  | zero => exact failsOnly_error deep
  | succ levels ih =>
      refine (failsOnly_itemsOf unread doc node "Names").bind fun names => ?_
      refine (failsOnly_pairs unread odd doc names).bind fun own => ?_
      refine (failsOnly_itemsOf unread doc node "Kids").bind fun kids => ?_
      refine (FailsOnly.mapM (fun kid => ?_) kids).bind fun below => failsOnly_ok _
      exact (failsOnly_resolveAs unread _ doc kid).bind ih

theorem failsOnly_attachment (unread : ∀ cause, P (.pdf cause)) (bare : ∀ name, P (noStream name))
    (doc : Document) (file : Dict) : FailsOnly P (attachment doc file) := by
  unfold attachment
  dsimp only
  split
  · refine (failsOnly_resolveAs unread _ doc _).bind fun streams => ?_
    split
    · refine (failsOnly_resolveAs unread _ doc _).bind fun stream => ?_
      split
      · exact (failsOnly_mapError unread _).bind fun bytes => failsOnly_ok _
      · exact failsOnly_ok _
    · exact failsOnly_error (bare _)
  · exact failsOnly_error (bare _)

theorem failsOnly_root? (unread : ∀ cause, P (.pdf cause)) (doc : Document) :
    FailsOnly P (root? doc) := by
  refine (failsOnly_mapError unread _).bind fun catalog => ?_
  split
  · refine (failsOnly_resolveAs unread _ doc _).bind fun names => ?_
    split
    · exact (failsOnly_resolveAs unread _ doc _).bind fun tree => failsOnly_ok _
    · exact failsOnly_ok _
  · exact failsOnly_ok _

end Kinds

theorem failsOnly_ofDocument (doc : Document) : FailsOnly Fault.IsOfFile (ofDocument doc) := by
  refine (failsOnly_root? Fault.isOfFile_pdf doc).bind fun root => ?_
  cases root with
  | none => exact failsOnly_ok []
  | some root =>
      have hentries := failsOnly_entries Fault.isOfFile_pdf (Fault.isOfFile_malformed _)
        (Fault.isOfFile_malformed _) doc levelLimit root
      refine hentries.bind fun found => .mapM (fun entry : Entry => ?_) _
      exact failsOnly_attachment Fault.isOfFile_pdf (fun name => Fault.isOfFile_malformed _) doc entry.file

/-- A card that cannot be opened has its file to blame. -/
theorem failsOnly_ofFile (file : Bytes) : FailsOnly Fault.IsOfFile (ofFile file) :=
  (failsOnly_mapError Fault.isOfFile_pdf (Pdf.load file)).bind failsOnly_ofDocument

/-- Whoever cannot open a card is told something. -/
theorem message_ne_empty_of_ofFile {file : Bytes} {fault : Fault} (failed : ofFile file = .error fault) :
    fault.message ≠ "" := (failsOnly_ofFile file fault failed).message_ne_empty

end Attachments

end Card

end DocumentCard
