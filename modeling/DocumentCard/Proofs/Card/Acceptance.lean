import DocumentCard.Proofs.Card.Pages
import DocumentCard.Proofs.Card.Texts
import DocumentCard.Proofs.Pdf.Renumber
set_option autoImplicit false

/-!
# Which requests get cards

What a request must not lack is checked first and in a fixed order.  Here the checks are listed with what each
of them is about (`Request.checks`), and the first that fails is what the request is refused for.  Behind the
checks nothing of the request itself can fail: what the layout needs has been asked for.  What is left is the
document, if its pages are to be shown.

The pages are looked for after the objects of the document have got numbers behind those of the card.  A
reference that leads nowhere may then lead to some object, and the document can lose its pages to that
(`strayed`).

Main statement: a request that passes its checks gets a card, unless its document cannot be shown under the new
numbers; and this comes to whether it can be shown at all if no reference of it strays
(`Request.valid_requests_have_cards`).
-/

namespace DocumentCard.Card

open Pdf (ObjId Document)

/-! ## Checks -/

/-- A check: what is told if it fails, and when it fails. -/
structure Check where
  flaw : Flaw
  fails : Prop

/-- What checks find in their order: the first that fails is told. -/
inductive Finds : List Check → Option Flaw → Prop
  | nothing : Finds [] none
  | here {check : Check} {rest : List Check} (fails : check.fails) :
      Finds (check :: rest) (some check.flaw)
  | later {check : Check} {rest : List Check} {found : Option Flaw} (passes : ¬ check.fails)
      (finds : Finds rest found) : Finds (check :: rest) found

namespace Finds

theorem check (flaw : Flaw) {p q : Prop} [Decidable q] (same : q ↔ p) {rest : List Check}
    {found : Option Flaw} (finds : Finds rest found) :
    Finds (⟨flaw, p⟩ :: rest) (if q then some flaw else found) := by
  split
  · exact .here (same.mp ‹q›)
  · exact .later (mt same.mpr ‹¬ q›) finds

theorem append {first later : List Check} {found more : Option Flaw} (finds : Finds first found)
    (behind : Finds later more) : Finds (first ++ later) (found <|> more) := by
  induction finds with
  | nothing => exact behind
  | here fails => exact .here fails
  | later passes _ ih => exact .later passes ih

/-- When all checks before it pass, a check that fails is told. -/
theorem eq_of_first {before after : List Check} {check : Check} {found : Option Flaw}
    (finds : Finds (before ++ check :: after) found) (pass : ∀ c ∈ before, ¬ c.fails)
    (fails : check.fails) : found = some check.flaw := by
  induction before with
  | nil =>
      cases finds with
      | here => rfl
      | later passes => exact absurd fails passes
  | cons c before ih =>
      obtain ⟨hc, hbefore⟩ := List.forall_mem_cons.mp pass
      cases finds with
      | here hfails => exact absurd hfails hc
      | later _ finds => exact ih finds hbefore

/-- Nothing is found if and only if all checks pass. -/
theorem eq_none_iff {checks : List Check} {found : Option Flaw} (finds : Finds checks found) :
    found = none ↔ ∀ c ∈ checks, ¬ c.fails := by
  induction finds with
  | nothing => simp
  | here fails => simp [fails]
  | later passes _ ih => simp [passes, ih]

end Finds

/-- There is nothing in the name but blanks. -/
def Blank (name : String) : Prop := ∀ c ∈ name.toList, Text.isBlank c = true

/-- Nothing tells who the signer is: no plain name, and neither name nor personal id in the details. -/
def Signature.Unnamed (s : Signature) : Prop :=
  s.signerName = "" ∧ ∀ d, s.details = some d → d.subjectName = "" ∧ d.subjectId = ""

/-- The checks of one signature; `shown` tells whether it gets pages. -/
def Signature.checks (shown : Bool) (number : Nat) (s : Signature) : List Check :=
  [⟨.signature number .noFileName, Blank s.fileName⟩,
   ⟨.signature number .noSigner, s.Unnamed⟩,
   ⟨.signature number .noDetails, shown = true ∧ s.details = none⟩]

/-- The checks of a request, in their order; the signatures are counted from one. -/
def Request.checks (r : Request) : List Check :=
  [⟨.noFileName, Blank r.fileName⟩, ⟨.noSignatures, r.descriptor.signatures = []⟩]
    ++ ((r.descriptor.signatures.zipIdx 1).flatMap fun (s, number) =>
          s.checks r.options.showSignatures number)
    ++ [⟨.notPdf, r.options.showDocument = true ∧ ¬ Bytes.ascii "%PDF-" <+: r.document⟩]

theorem isBlankName_iff (name : String) : isBlankName name = true ↔ Blank name := List.all_eq_true

theorem isPdf_iff (bytes : Bytes) : isPdf bytes = true ↔ Bytes.ascii "%PDF-" <+: bytes := by
  rw [isPdf, Option.isSome_iff_exists]
  constructor
  · rintro ⟨rest, hrest⟩
    exact ⟨rest, (Bytes.eq_append_of_dropLead? hrest).symm⟩
  · rintro ⟨rest, rfl⟩
    exact ⟨rest, Bytes.dropLead?_append _ rest⟩

theorem Signature.identity?_eq_none_iff (s : Signature) : s.identity?.isNone = true ↔ s.Unnamed := by
  unfold identity? Unnamed
  cases s.details with
  | none => by_cases hplain : s.signerName = "" <;> simp [hplain]
  | some d =>
      by_cases hplain : s.signerName = "" <;> by_cases hname : d.subjectName = "" <;>
        by_cases hid : d.subjectId = "" <;> simp [hplain, hname, hid]

theorem Signature.finds_checks (shown : Bool) (number : Nat) (s : Signature) :
    Finds (s.checks shown number) ((s.flaw? shown).map (.signature number)) := by
  have hdetails : (shown && s.details.isNone) = true ↔ shown = true ∧ s.details = none := by
    rw [Bool.and_eq_true, Option.isNone_iff_eq_none]
  have hfinds : Finds (s.checks shown number)
      (if isBlankName s.fileName then some (.signature number .noFileName)
        else if s.identity?.isNone then some (.signature number .noSigner)
        else if shown && s.details.isNone then some (.signature number .noDetails) else none) :=
    .check _ (isBlankName_iff _) (.check _ s.identity?_eq_none_iff (.check _ hdetails .nothing))
  simpa only [flaw?, apply_ite (Option.map (Flaw.signature number)), Option.map_some, Option.map_none]
    using hfinds

theorem finds_firstFlaw? (shown : Bool) (number : Nat) (signatures : List Signature) :
    Finds ((signatures.zipIdx number).flatMap fun (s, number) => s.checks shown number)
      (firstFlaw? shown number signatures) := by
  induction signatures generalizing number with
  | nil => exact .nothing
  | cons s rest ih =>
      have hfinds := (s.finds_checks shown number).append (ih (number + 1))
      rw [firstFlaw?]
      cases hflaw : s.flaw? shown with
      | none => simpa [hflaw, List.zipIdx_cons] using hfinds
      | some flaw => simpa [hflaw, List.zipIdx_cons] using hfinds

namespace Request

/-- What a request lacks is what its checks find. -/
theorem finds_checks (r : Request) : Finds r.checks r.flaw? := by
  have hpdf : (r.options.showDocument && !isPdf r.document) = true
      ↔ r.options.showDocument = true ∧ ¬ Bytes.ascii "%PDF-" <+: r.document := by
    rw [Bool.and_eq_true, Bool.not_eq_true', ← Bool.not_eq_true, isPdf_iff]
  rw [checks, List.append_assoc, flaw?]
  refine .check _ (isBlankName_iff _) (.check _ List.isEmpty_iff ?_)
  have hrest := (finds_firstFlaw? r.options.showSignatures 1 r.descriptor.signatures).append
    (.check .notPdf hpdf .nothing)
  cases hfirst : firstFlaw? r.options.showSignatures 1 r.descriptor.signatures with
  | none =>
      rw [hfirst] at hrest
      exact hrest
  | some flaw =>
      rw [hfirst] at hrest
      exact hrest

/-- What a request lacks is what it is refused for. -/
theorem press_of_flaw {r : Request} {flaw : Flaw} (flawed : r.flaw? = some flaw) (created : String) :
    r.press created = .error flaw.fault := by
  rw [press, card, flawed]
  rfl

/-- The first check that fails is what a request is refused for. -/
theorem press_of_first {r : Request} {created : String} {before after : List Check} {check : Check}
    (order : r.checks = before ++ check :: after) (pass : ∀ c ∈ before, ¬ c.fails)
    (fails : check.fails) : r.press created = .error check.flaw.fault :=
  press_of_flaw ((order ▸ r.finds_checks).eq_of_first pass fails) created

/-- There is no card without signatures. -/
theorem exists_press_error {r : Request} (unsigned : r.descriptor.signatures = []) (created : String) :
    ∃ flaw : Flaw, r.press created = .error flaw.fault := by
  cases hflaw : r.flaw? with
  | none =>
      have passed := r.finds_checks.eq_none_iff.mp hflaw
      exact absurd unsigned (passed ⟨.noSignatures, _⟩ (by simp [checks]))
  | some flaw => exact ⟨flaw, press_of_flaw hflaw created⟩

/-! ## The pages of a request that passes its checks -/

section Passed

variable {r : Request}

/-- Signatures that are to get pages have passed the check for details. -/
theorem exists_signaturePages (passed : ∀ c ∈ r.checks, ¬ c.fails)
    (shown : r.options.showSignatures = true) :
    ∃ pages, signaturePages r.language r.descriptor.signatures = .ok pages := by
  refine ((sections_show_texts r.language).2 r.descriptor.signatures).1.mpr fun s hs => ?_
  obtain ⟨i, hi⟩ := List.mem_iff_getElem?.mp hs
  have hchecks : ⟨.signature (1 + i) .noDetails, r.options.showSignatures = true ∧ s.details = none⟩
      ∈ r.checks := by
    have hmem : (s, 1 + i) ∈ r.descriptor.signatures.zipIdx 1 :=
      List.mk_mem_zipIdx_iff_le_and_getElem?_sub.mpr ⟨Nat.le_add_right 1 i, by simpa using hi⟩
    refine List.mem_append_left _ (List.mem_append_right _ (List.mem_flatMap.mpr ⟨_, hmem, ?_⟩))
    simp [Signature.checks]
  cases hdetails : s.details with
  | none => exact absurd ⟨shown, hdetails⟩ (passed _ hchecks)
  | some d => rfl

theorem exists_layout (passed : ∀ c ∈ r.checks, ¬ c.fails) (boxes : List Box) :
    ∃ l, r.layout boxes = .ok l := by
  unfold layout
  cases hshown : r.options.showSignatures with
  | false => exact ⟨_, rfl⟩
  | true =>
      obtain ⟨pages, hpages⟩ := exists_signaturePages passed hshown
      rw [if_pos rfl, hpages]
      exact ⟨_, rfl⟩

/-- Whether a card is made depends on nothing but the document, and on this only if its pages are shown. -/
theorem press_of_passed (created : String) (passed : ∀ c ∈ r.checks, ¬ c.fails) :
    (r.options.showDocument = false → ∃ file, r.press created = .ok file) ∧
      (r.options.showDocument = true →
        (∀ fault, Draft.empty.import? r.document = .error fault → r.press created = .error fault) ∧
        ∀ taken, Draft.empty.import? r.document = .ok taken → ∃ file, r.press created = .ok file) := by
  have hflaw : r.flaw? = none := r.finds_checks.eq_none_iff.mpr passed
  unfold press card
  simp only [hflaw]
  refine ⟨fun plain => ?_, fun shown => ⟨fun fault failed => ?_, fun taken htaken => ?_⟩⟩
  · obtain ⟨l, hlayout⟩ := exists_layout passed []
    rw [plain, if_neg Bool.false_ne_true]
    simp only [pure_bind, List.map_nil, hlayout]
    exact ⟨_, rfl⟩
  · rw [shown, if_pos rfl, failed]
    rfl
  · obtain ⟨l, hlayout⟩ := exists_layout passed (taken.2.map (·.box))
    rw [shown, if_pos rfl, htaken]
    simp only [ok_bind, hlayout]
    exact ⟨_, rfl⟩

end Passed

end Request

/-! ## Documents that are shown -/

/-- A document can be shown: it has a page, and the contents of its pages can be read. -/
def Showable (doc : Document) : Prop :=
  doc.pages ≠ [] ∧ ∀ page ∈ doc.pages, doc.contentBreaksDown page = false

theorem showable_renumbered {doc : Document} {start : Nat} (apart : doc.Apart start) :
    ((doc.renumbered start).pages = [] ↔ doc.pages = []) ∧
      (Showable (doc.renumbered start) ↔ Showable doc) := by
  have hpages := Document.pages_renumbered apart
  refine ⟨by rw [hpages, List.map_eq_nil_iff], ?_⟩
  rw [Showable, Showable, hpages, Ne, List.map_eq_nil_iff, List.forall_mem_map]
  refine and_congr_right fun _ => forall₂_congr fun page hpage => ?_
  rw [Document.contentBreaksDown_renumbered apart hpage]

namespace Draft

theorem import_of_unreadable {file : Bytes} {cause : Pdf.Fault} (d : Draft)
    (unreadable : Pdf.load file = .error cause) : d.import? file = .error (.pdf cause) := by
  rw [import?, unreadable]
  rfl

/-- A document that has been loaded is taken in if it can be shown with the numbers that its objects get. -/
theorem import_of_loaded {file : Bytes} {loaded : Document} (d : Draft)
    (readable : Pdf.load file = .ok loaded) :
    let source := loaded.renumbered (d.last + 1)
    (source.pages = [] → d.import? file = .error Flaw.noPages.fault) ∧
      (source.pages ≠ [] → ¬ Showable source → d.import? file = .error (.pdf .rowTooLong)) ∧
      (Showable source → ∃ taken, d.import? file = .ok taken) := by
  intro source
  have himport : d.import? file = do
      if source.pages.isEmpty then throw Flaw.noPages.fault
      if source.pages.any source.contentBreaksDown then throw (.pdf .rowTooLong)
      let last := source.objects.foldl (fun n object => max n object.1.num) d.last
      return addForms source ⟨d.objects ++ source.objects, last⟩ source.pages := by
    rw [import?, readable]
    rfl
  rw [himport]
  refine ⟨fun empty => ?_, fun nonempty unshown => ?_, fun showable => ?_⟩
  · rw [empty]
    rfl
  · have hbroken : source.pages.any source.contentBreaksDown = true := by
      rw [List.any_eq_true]
      by_contra hnone
      refine unshown ⟨nonempty, fun page hpage => ?_⟩
      rw [← Bool.not_eq_true]
      exact fun hpage' => hnone ⟨page, hpage, hpage'⟩
    rw [hbroken, if_neg (by simpa using nonempty), if_pos rfl]
    rfl
  · obtain ⟨nonempty, sound⟩ := showable
    have hsound : source.pages.any source.contentBreaksDown = false := by
      rw [List.any_eq_false]
      exact fun page hpage => by simp [sound page hpage]
    rw [hsound, if_neg (by simpa using nonempty), if_neg Bool.false_ne_true]
    exact ⟨_, rfl⟩

end Draft

/-- A request gets a card if and only if nothing is wrong with it or with the document that it shows.

The first check that fails, in their order, is what the request is refused for.  If all of them pass, the
signatures get the pages that they are to have, and a card without the pages of the document is made in any
case.  With these pages it is made unless the document cannot be loaded or, under the numbers that its objects
get behind those of the card, has no page or a page that cannot be read.  If no reference of the document strays
this comes to whether it has pages, all of which can be read, as it was loaded. -/
theorem Request.valid_requests_have_cards (r : Request) (created : String) :
    (∀ before check after, r.checks = before ++ check :: after → (∀ c ∈ before, ¬ c.fails) →
      check.fails → r.press created = .error (.validation check.flaw.message)) ∧
    ((∀ c ∈ r.checks, ¬ c.fails) →
      (r.options.showSignatures = true →
        ∃ pages, signaturePages r.language r.descriptor.signatures = .ok pages) ∧
      (r.options.showDocument = false → ∃ file, r.press created = .ok file) ∧
      (r.options.showDocument = true →
        (∀ cause, Pdf.load r.document = .error cause → r.press created = .error (.pdf cause)) ∧
        ∀ loaded, Pdf.load r.document = .ok loaded →
          let source := loaded.renumbered (Draft.empty.last + 1)
          (source.pages = [] → r.press created = .error Flaw.noPages.fault) ∧
          (source.pages ≠ [] → ¬ Showable source → r.press created = .error (.pdf .rowTooLong)) ∧
          (Showable source → ∃ file, r.press created = .ok file) ∧
          (loaded.Apart (Draft.empty.last + 1) →
            (source.pages = [] ↔ loaded.pages = []) ∧ (Showable source ↔ Showable loaded)))) := by
  refine ⟨fun before check after order pass fails => press_of_first order pass fails, fun passed => ?_⟩
  obtain ⟨hplain, hshown⟩ := press_of_passed created passed
  refine ⟨exists_signaturePages passed, hplain, fun shown => ?_⟩
  obtain ⟨hfailed, htaken⟩ := hshown shown
  refine ⟨fun cause unreadable => hfailed _ (Draft.empty.import_of_unreadable unreadable), ?_⟩
  intro loaded readable source
  obtain ⟨hnone, hbroken, hsound⟩ := Draft.empty.import_of_loaded readable
  refine ⟨fun empty => hfailed _ (hnone empty),
    fun nonempty unshown => hfailed _ (hbroken nonempty unshown),
    fun showable => ?_, showable_renumbered⟩
  obtain ⟨taken, himport⟩ := hsound showable
  exact htaken taken himport

/-! ## A page that strays -/

/-- A document with one page.  Its page tree refers as well to an object that does not exist, by the number that
the tree itself gets in a card. -/
def strayed : Document where
  version := "1.4"
  trailer := [("Root", .ref ⟨1, 0⟩)]
  objects :=
    [(⟨1, 0⟩, .dict [("Type", .name "Catalog"), ("Pages", .ref ⟨2, 0⟩)]),
     (⟨2, 0⟩, .dict [("Type", .name "Pages"), ("Kids", .arr [.ref ⟨7, 0⟩, .ref ⟨3, 0⟩])]),
     (⟨3, 0⟩, .dict [("Type", .name "Page"), ("Parent", .ref ⟨2, 0⟩)])]

namespace Request

/-- A request that shows this document. -/
def showsStrayed : Request where
  descriptor := { signatures := [{ body := [9], fileName := "a.sig", signerName := "A" }] }
  document := Pdf.write strayed
  fileName := "a.pdf"
  options := { showDocument := true }

/-- The pages of a document as it is loaded, whether one of them cannot be read, and its pages under the new
numbers. -/
def pagesFound (file : Bytes) : Option (List ObjId × Bool × List ObjId) :=
  (Pdf.load file).toOption.map fun loaded =>
    (loaded.pages, loaded.pages.any loaded.contentBreaksDown,
      (loaded.renumbered (Draft.empty.last + 1)).pages)

/-- The request passes all checks, and its document is loaded with a page that can be read.  But under the new
numbers the walk through the page tree goes in a circle until it is given up, and the document counts as
empty. -/
theorem page_is_lost_in_renumbering :
    (∀ c ∈ showsStrayed.checks, ¬ c.fails) ∧
      (∃ loaded, Pdf.load showsStrayed.document = .ok loaded ∧ loaded.pages = [⟨3, 0⟩] ∧
        Showable loaded) ∧
      ∀ created, showsStrayed.press created = .error (.validation "document is empty") := by
  have hflaw : showsStrayed.flaw? = none := by decide +kernel
  have hfound : pagesFound showsStrayed.document = some ([⟨3, 0⟩], false, []) := by decide +kernel
  have passed := showsStrayed.finds_checks.eq_none_iff.mp hflaw
  cases hload : Pdf.load showsStrayed.document with
  | error fault =>
      rw [pagesFound, hload] at hfound
      cases hfound
  | ok loaded =>
      rw [pagesFound, hload] at hfound
      obtain ⟨hpages, hsound, hlost⟩ : loaded.pages = [⟨3, 0⟩] ∧
          loaded.pages.any loaded.contentBreaksDown = false ∧
          (loaded.renumbered (Draft.empty.last + 1)).pages = [] := by
        simpa only [Except.toOption, Option.map_some, Option.some.injEq, Prod.mk.injEq] using hfound
      refine ⟨passed, ⟨loaded, rfl, hpages, ?_, ?_⟩, fun created => ?_⟩
      · rw [hpages]
        exact List.cons_ne_nil _ _
      · intro page hpage
        simpa using List.any_eq_false.mp hsound page hpage
      · have himport := (Draft.empty.import_of_loaded hload).1 hlost
        exact ((press_of_passed created passed).2 rfl).1 _ himport

end Request

end DocumentCard.Card
