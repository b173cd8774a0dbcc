import DocumentCard.Card.Press
import DocumentCard.Proofs.Card.Keys
import DocumentCard.Proofs.Pdf.Reach
import DocumentCard.Proofs.Pdf.Restore
set_option autoImplicit false

/-!
# The files of a card

The one who makes a card and the one who opens it agree on how a document carries files
(`Draft.Carries`): the trailer leads to the catalog, the catalog to a tree of names, and the tree, by
keys in the order of their positions, to a description and a stream for each file.  A finished draft
carries its attachments, whatever else has been added before; dropping what nothing leads to keeps
them, and so does a file from which plain objects are read back as they were written
(`Document.Restores`).  And from a document that carries files these files are read, and no others.

Main statement: the files of a card are those that went into it (`Request.ofFile_of_press`).
-/

namespace DocumentCard

/-- A result is none of the business of those who reword faults. -/
theorem mapError_ok {ε ε' α : Type} (f : ε → ε') (a : α) :
    (Except.ok a : Except ε α).mapError f = .ok a := rfl

theorem mapError_error {ε ε' α : Type} (f : ε → ε') (fault : ε) :
    (Except.error fault : Except ε α).mapError f = .error (f fault) := rfl

/-! ## Following references -/

namespace Pdf.Document

variable {doc : Document} {id : ObjId} {o : Obj}

/-- What is no reference stands for itself. -/
theorem resolve_self (direct : o.ref? = none) : doc.resolve o = .ok o :=
  doc.objects.follow_self referenceLimit direct

/-- A reference stands for the object that it leads to. -/
theorem resolve_ref (found : doc.objects.get? id = some o) (direct : o.ref? = none) :
    doc.resolve (.ref id) = .ok o := by
  have hself : doc.objects.follow (referenceLimit - 1) o = .ok o := doc.objects.follow_self _ direct
  unfold resolve referenceLimit Objects.follow
  rw [found]
  exact hself

end Pdf.Document

namespace Card

open Pdf (Obj ObjId Dict Objects Document)

namespace Draft

/-! ## Documents that carry files -/

/-- Pairs of keys and descriptions list files from a position on: `has` tells which object has which
number. -/
inductive Listed (has : ObjId → Obj → Prop) : Nat → List Obj → List (Attachment × List Char) → Prop
    where
  | nil (position : Nat) : Listed has position [] []
  | cons {position : Nat} {file : Attachment} {title : List Char} {described stored : ObjId}
      {pairs : List Obj} {rest : List (Attachment × List Char)}
      (description : has described (descriptionObj file.name.toList title stored))
      (stream : has stored (fileObj file.bytes)) (later : Listed has (position + 1) pairs rest) :
      Listed has position (.str (key position) .literal :: .ref described :: pairs)
        ((file, title) :: rest)

/-- What lists files by some objects lists them by any that are there as well. -/
theorem Listed.mono {has has' : ObjId → Obj → Prop} {position : Nat} {pairs : List Obj}
    {files : List (Attachment × List Char)}
    (descriptions : ∀ id name title stored, has id (descriptionObj name title stored) →
      has' id (descriptionObj name title stored))
    (streams : ∀ id bytes, has id (fileObj bytes) → has' id (fileObj bytes))
    (listed : Listed has position pairs files) : Listed has' position pairs files := by
  induction listed with
  | nil position => exact .nil position
  | cons description stream later ih =>
      exact .cons (descriptions _ _ _ _ description) (streams _ _ stream) ih

/-- A document carries files: references lead to them from the trailer. -/
structure Carries (doc : Document) (files : List (Attachment × List Char)) (root tree : ObjId)
    (pairs : List Obj) : Prop where
  trailer : doc.trailer.get? "Root" = some (.ref root)
  catalog : doc.objects.get? root = some (catalogObj tree)
  tree : doc.objects.get? tree = some (.dict [("Names", .arr pairs)])
  listed : Listed (fun id o => doc.objects.get? id = some o) 1 pairs files

/-! ## A finished draft -/

theorem get?_add (d : Draft) (o : Obj) (id : ObjId) :
    (d.add o).objects.get? id = if id = d.next then some o else d.objects.get? id :=
  Objects.get?_cons _ _ _ _

/-- What has a number before the next is not touched when an object is added. -/
theorem get?_add_of_le (d : Draft) (o : Obj) {id : ObjId} (old : id.num ≤ d.last) :
    (d.add o).objects.get? id = d.objects.get? id := by
  rw [get?_add, if_neg]
  rintro rfl
  exact Nat.lt_irrefl _ old

/-- Attachments are listed by objects with new numbers, and others are not touched. -/
theorem attach_spec (d : Draft) (position : Nat) (files : List (Attachment × List Char)) :
    d.last ≤ (d.attach position files).1.last ∧
      (∀ id, id.num ≤ d.last →
        (d.attach position files).1.objects.get? id = d.objects.get? id) ∧
      Listed (fun id o => d.last < id.num ∧ id.num ≤ (d.attach position files).1.last ∧
          (d.attach position files).1.objects.get? id = some o)
        position (d.attach position files).2 files := by
  induction files generalizing d position with
  | nil => exact ⟨Nat.le_refl _, fun _ _ => rfl, .nil position⟩
  | cons entry rest ih =>
      obtain ⟨file, title⟩ := entry
      simp only [attach]
      generalize hstored : d.add (fileObj file.bytes) = stored
      generalize hdescribed :
        stored.add (descriptionObj file.name.toList title d.next) = described
      have hlastStored : stored.last = d.last + 1 := by rw [← hstored]; rfl
      have hlast : described.last = d.last + 2 := by rw [← hdescribed, ← hstored]; rfl
      have hnext : stored.next.num = d.last + 2 := by rw [← hstored]; rfl
      obtain ⟨hle, hold, hlisted⟩ := ih described (position + 1)
      have hdescription : described.objects.get? stored.next
          = some (descriptionObj file.name.toList title d.next) := by
        rw [← hdescribed, get?_add, if_pos rfl]
      have hstream : described.objects.get? d.next = some (fileObj file.bytes) := by
        rw [← hdescribed, get?_add_of_le _ _ (by rw [hlastStored]; exact Nat.le_refl _),
          ← hstored, get?_add, if_pos rfl]
      have hnum : d.next.num = d.last + 1 := rfl
      refine ⟨by omega, ?_, ?_⟩
      · intro id hid
        rw [hold id (by omega), ← hdescribed, get?_add_of_le _ _ (by omega), ← hstored,
          get?_add_of_le _ _ hid]
      · apply Listed.cons
        · exact ⟨by omega, by omega, (hold _ (by omega)).trans hdescription⟩
        · exact ⟨by omega, by omega, (hold _ (by omega)).trans hstream⟩
        · apply hlisted.mono
          · intro id _ _ _ h
            exact ⟨by omega, h.2⟩
          · intro id _ h
            exact ⟨by omega, h.2⟩

/-- The document that a draft is finished to, with everything that has been added. -/
def whole (d : Draft) (r : Request) (created : String) (pages : List ObjId) (pairs : List Obj) :
    Document :=
  let listed := (⟨(pagesId, pagesObj pages) :: d.objects, d.last⟩ : Draft)
  let tree := listed.add (.dict [("Names", .arr pairs)])
  let withCatalog := tree.add (catalogObj listed.next)
  { version := "1.7"
    trailer := [("Root", .ref tree.next), ("Info", .ref withCatalog.next)]
    objects := (withCatalog.add (infoObj r created)).objects.ordered }

theorem finish_eq (d : Draft) (r : Request) (created : String) (pages : List ObjId)
    (pairs : List Obj) : d.finish r created pages pairs = (d.whole r created pages pairs).pruned :=
  rfl

/-- What has been added before the page tree's number was taken is there in the end. -/
theorem get?_whole (d : Draft) (r : Request) (created : String) (pages : List ObjId)
    (pairs : List Obj) {id : ObjId} (first : 1 < id.num) (old : id.num ≤ d.last) :
    (d.whole r created pages pairs).objects.get? id = d.objects.get? id := by
  have hpages : id ≠ pagesId := by
    rintro rfl
    exact Nat.lt_irrefl _ first
  simp only [whole]
  rw [Objects.get?_ordered, get?_add_of_le, get?_add_of_le, get?_add_of_le, Objects.get?_cons,
    if_neg hpages]
  · exact old
  · exact Nat.le_succ_of_le old
  · exact Nat.le_succ_of_le (Nat.le_succ_of_le old)

/-- A finished draft carries the attachments that have been added to it. -/
theorem carries_whole (d : Draft) (begun : 1 ≤ d.last) (r : Request) (created : String)
    (pages : List ObjId) (files : List (Attachment × List Char)) :
    ∃ root tree, Carries
      ((d.attach 1 files).1.whole r created pages (d.attach 1 files).2) files root tree
        (d.attach 1 files).2 := by
  obtain ⟨hle, -, hlisted⟩ := attach_spec d 1 files
  generalize (d.attach 1 files).1 = after at hle hlisted
  generalize (d.attach 1 files).2 = pairs at hlisted
  refine ⟨⟨after.last + 2, 0⟩, ⟨after.last + 1, 0⟩, rfl, ?_, ?_, ?_⟩
  · simp only [whole]
    rw [Objects.get?_ordered, get?_add_of_le, get?_add]
    · exact if_pos rfl
    · exact Nat.le_refl _
  · simp only [whole]
    rw [Objects.get?_ordered, get?_add_of_le, get?_add_of_le, get?_add]
    · exact if_pos rfl
    · exact Nat.le_refl _
    · exact Nat.le_succ _
  · apply hlisted.mono
    · rintro id _ _ _ ⟨hnew, hlast, hfound⟩
      rw [get?_whole _ _ _ _ _ (by omega) hlast, hfound]
    · rintro id _ ⟨hnew, hlast, hfound⟩
      rw [get?_whole _ _ _ _ _ (by omega) hlast, hfound]

/-! ## What keeps files -/

namespace Carries

variable {doc after : Document} {files : List (Attachment × List Char)} {root tree : ObjId}
  {pairs : List Obj}

/-- References lead to everything by which pairs list files, if they lead to the pairs. -/
theorem listed_pruned {position : Nat}
    (listed : Listed (fun id o => doc.objects.get? id = some o) position pairs files)
    (leads : ∀ id ∈ Pdf.refsOfItems pairs, doc.Leads id) :
    Listed (fun id o => doc.pruned.objects.get? id = some o) position pairs files := by
  induction listed with
  | nil position => exact .nil position
  | @cons position file title described stored pairs rest description stream later ih =>
      have hdescribed : doc.Leads described := leads described (by simp [Pdf.refsOfItems, Obj.refs])
      have hstored : doc.Leads stored :=
        .step hdescribed description (by
          simp [descriptionObj, Obj.refs, Pdf.refsOfEntries, Pdf.TextString.toObj])
      apply Listed.cons
      · rw [Document.get?_pruned hdescribed]
        exact description
      · rw [Document.get?_pruned hstored]
        exact stream
      · exact ih fun id hid => leads id (by simp [Pdf.refsOfItems, hid])

/-- Dropping what nothing leads to keeps the files. -/
theorem pruned (h : Carries doc files root tree pairs) :
    Carries doc.pruned files root tree pairs := by
  have hroot : doc.Leads root := .start (Pdf.mem_refsOfEntries_of_get? h.trailer List.mem_cons_self)
  have htree : doc.Leads tree :=
    .step hroot h.catalog (by simp [catalogObj, Obj.refs, Pdf.refsOfEntries])
  refine ⟨h.trailer, ?_, ?_, listed_pruned h.listed ?_⟩
  · rw [Document.get?_pruned hroot]
    exact h.catalog
  · rw [Document.get?_pruned htree]
    exact h.tree
  · intro id hid
    exact .step htree h.tree (by simpa [Obj.refs, Pdf.refsOfEntries] using hid)

theorem isPlain_fileObj (bytes : Bytes) : (fileObj bytes).isPlain = true := by
  simp [fileObj, Obj.ofData, Dict.set, Obj.isPlain, Obj.isWhole, Pdf.wholeEntries,
    Pdf.Write.isStructural, Dict.type?, Dict.name?, Dict.get?, Obj.name?]

theorem isPlain_descriptionObj (name title : List Char) (stored : ObjId) :
    (descriptionObj name title stored).isPlain = true := by
  simp [descriptionObj, Pdf.TextString.toObj, Obj.isPlain, Obj.isWhole, Pdf.wholeEntries,
    Pdf.Write.isStructural, Dict.type?, Dict.name?, Dict.get?, Obj.name?]

theorem isPlain_catalogObj (tree : ObjId) : (catalogObj tree).isPlain = true := by
  simp [catalogObj, Obj.isPlain, Obj.isWhole, Pdf.wholeEntries,
    Pdf.Write.isStructural, Dict.type?, Dict.name?, Dict.get?, Obj.name?]

/-- Pairs that list files have no number with a point. -/
theorem wholeItems_of_listed {has : ObjId → Obj → Prop} {position : Nat}
    (listed : Listed has position pairs files) : Pdf.wholeItems pairs = true := by
  induction listed with
  | nil position => rfl
  | cons description stream later ih => simp [Pdf.wholeItems, Obj.isWhole, ih]

/-- A file from which plain objects are read back keeps the files. -/
theorem restored (h : Carries doc files root tree pairs) (restores : doc.Restores after) :
    Carries after files root tree pairs := by
  refine ⟨restores.trailer _ _ h.trailer, ?_, ?_, ?_⟩
  · exact restores.objects _ _ h.catalog (isPlain_catalogObj tree)
  · refine restores.objects _ _ h.tree ?_
    simp [Obj.isPlain, Obj.isWhole, Pdf.wholeEntries, wholeItems_of_listed h.listed,
      Pdf.Write.isStructural, Dict.type?, Dict.name?, Dict.get?, Dict.has]
  · apply h.listed.mono
    · intro id name title stored hfound
      exact restores.objects _ _ hfound (isPlain_descriptionObj name title stored)
    · intro id bytes hfound
      exact restores.objects _ _ hfound (isPlain_fileObj bytes)

end Carries

end Draft

/-! ## Reading the files -/

namespace Attachments

open Draft (Listed Carries key descriptionObj fileObj catalogObj)

variable {doc : Document}

theorem resolveAs_self {α : Type} {view : Obj → Option α} {o : Obj} {x : α}
    (direct : o.ref? = none) (seen : view o = some x) : resolveAs view doc o = .ok x := by
  simp [resolveAs, resolve, Document.resolve_self direct, mapError_ok, seen]

theorem resolveAs_ref {α : Type} {view : Obj → Option α} {id : ObjId} {o : Obj} {x : α}
    (found : doc.objects.get? id = some o) (direct : o.ref? = none) (seen : view o = some x) :
    resolveAs view doc (.ref id) = .ok x := by
  simp [resolveAs, resolve, Document.resolve_ref found direct, mapError_ok, seen]

/-- The entries of a description. -/
def description (name : String) (title : List Char) (stored : ObjId) : Dict :=
  [("Type", .name "Filespec"), ("F", .str (Page.WinAnsi.encode name.toList) .literal),
   ("UF", Pdf.TextString.toObj name.toList), ("Desc", Pdf.TextString.toObj title),
   ("EF", .dict [("F", .ref stored)])]

/-- The name in a description is read back. -/
theorem nameOf_description (name : String) (title : List Char) (stored : ObjId) :
    nameOf doc (description name title stored) = name := by
  have hread : resolveAs Obj.str? doc (Pdf.TextString.toObj name.toList)
      = .ok (Pdf.TextString.encode name.toList) := resolveAs_self rfl rfl
  simp [nameOf, description, firstOf, Dict.get?, hread, Except.toOption, Pdf.TextString.decode_encode]

/-- A described file is read back, name and bytes. -/
theorem attachment_description {name : String} {title : List Char} {stored : ObjId} {bytes : Bytes}
    (stream : doc.objects.get? stored = some (fileObj bytes)) :
    attachment doc (description name title stored) = .ok ⟨name, bytes⟩ := by
  have hstreams : resolveAs Obj.dict? doc (.dict [("F", .ref stored)])
      = .ok [("F", .ref stored)] := resolveAs_self rfl rfl
  have hfile : resolveAs Obj.stream? doc (.ref stored)
      = .ok ([("Type", .name "EmbeddedFile"), ("Params", .dict [("Size", .int bytes.length)]),
        ("Length", .int bytes.length)], bytes) := resolveAs_ref stream rfl rfl
  unfold attachment
  rw [nameOf_description]
  simp [description, firstOf, Dict.get?, Dict.has, hstreams, hfile, Bind.bind, Except.bind, Pure.pure,
    Except.pure]

/-- The pairs that list files are read as entries in the order of positions, and from them the files. -/
theorem pairs_of_listed {position : Nat} {ps : List Obj} {files : List (Attachment × List Char)}
    (listed : Listed (fun id o => doc.objects.get? id = some o) position ps files) :
    ∃ found, pairs doc ps = .ok found ∧
      found.map (·.key) = (List.range' position files.length).map key ∧
      found.mapM (fun e => attachment doc e.file) = .ok (files.map Prod.fst) := by
  induction listed with
  | nil position => exact ⟨[], rfl, rfl, rfl⟩
  | @cons position file title described stored ps rest described_found stream later ih =>
      obtain ⟨found, hpairs, hkeys, hfiles⟩ := ih
      have hkey : resolveAs Obj.str? doc (.str (key position) .literal) = .ok (key position) :=
        resolveAs_self rfl rfl
      have hdescribed : resolveAs Obj.dict? doc (.ref described)
          = .ok (description file.name title stored) := resolveAs_ref described_found rfl rfl
      refine ⟨⟨key position, description file.name title stored⟩ :: found, ?_, ?_, ?_⟩
      · simp only [pairs, hkey, hdescribed, hpairs, Bind.bind, Except.bind, Pure.pure, Except.pure]
      · rw [List.map_cons, hkeys, List.length_cons, List.range'_succ, List.map_cons]
      · rw [List.mapM_cons, attachment_description stream, hfiles]
        rfl

/-- The tree of a document that carries files has an entry for each of them, in order. -/
theorem entries_of_carries {files : List (Attachment × List Char)} {root tree : ObjId}
    {ps : List Obj} (carries : Carries doc files root tree ps) :
    ∃ node found, root? doc = .ok (some node) ∧ entries doc levelLimit node = .ok found ∧
      found.map (·.key) = (List.range' 1 files.length).map key ∧
      found.mapM (fun e => attachment doc e.file) = .ok (files.map Prod.fst) := by
  obtain ⟨found, hpairs, hkeys, hfiles⟩ := pairs_of_listed carries.listed
  have hcatalog : doc.catalog = .ok
      [("Type", .name "Catalog"), ("Pages", .ref Draft.pagesId),
       ("Names", .dict [("EmbeddedFiles", .ref tree)]), ("PageMode", .name "UseAttachments")] := by
    have hobject : doc.object root = .ok (catalogObj tree) := by
      rw [Document.object, carries.catalog]
      exact Document.resolve_self rfl
    simp [Document.catalog, carries.trailer, Document.dictionary, hobject, catalogObj, Obj.dict?,
      Bind.bind, Except.bind, Pure.pure, Except.pure]
  have hroot : root? doc = .ok (some [("Names", .arr ps)]) := by
    have hnames : resolveAs Obj.dict? doc (.dict [("EmbeddedFiles", .ref tree)])
        = .ok [("EmbeddedFiles", .ref tree)] := resolveAs_self rfl rfl
    have htree : resolveAs Obj.dict? doc (.ref tree) = .ok [("Names", .arr ps)] :=
      resolveAs_ref carries.tree rfl rfl
    simp [root?, hcatalog, mapError_ok, Dict.get?, hnames, htree, Bind.bind, Except.bind,
      Pure.pure, Except.pure]
  have hentries : entries doc levelLimit [("Names", .arr ps)] = .ok found := by
    have hown : itemsOf doc [("Names", .arr ps)] "Names" = .ok ps := by
      have harr : resolveAs Obj.arr? doc (.arr ps) = .ok ps := resolveAs_self rfl rfl
      simp [itemsOf, Dict.get?, harr]
    have hkids : itemsOf doc [("Names", .arr ps)] "Kids" = .ok [] := rfl
    have hlevels : levelLimit = 32 + 1 := rfl
    rw [hlevels, entries, hown, hkids]
    simp [hpairs, Bind.bind, Except.bind, Pure.pure, Except.pure]
  exact ⟨_, found, hroot, hentries, hkeys, hfiles⟩

/-- From a document that carries files these files are read, and no others. -/
theorem ofDocument_of_carries {files : List (Attachment × List Char)} {root tree : ObjId}
    {ps : List Obj} (carries : Carries doc files root tree ps) (few : files.length ≤ 9999) :
    ofDocument doc = .ok (files.map Prod.fst) := by
  obtain ⟨node, found, hroot, hentries, hkeys, hfiles⟩ := entries_of_carries carries
  have hsorted : found.Pairwise fun a b => keyLE a.key b.key = true := by
    have hkeysSorted := pairwise_key few
    rw [← hkeys, List.pairwise_map] at hkeysSorted
    exact hkeysSorted.imp fun hlt => (keyLE_iff _ _).mpr (List.le_of_lt hlt)
  simp only [ofDocument, hroot, hentries, Bind.bind, Except.bind]
  rw [List.mergeSort_of_pairwise hsorted]
  exact hfiles

end Attachments

/-! ## From a request to its card -/

namespace Draft

theorem last_add (d : Draft) (o : Obj) : (d.add o).last = d.last + 1 := rfl

theorem last_addForms (doc : Document) (d : Draft) (pages : List ObjId) :
    (addForms doc d pages).1.last = d.last + pages.length := by
  induction pages generalizing d with
  | nil => rfl
  | cons page rest ih =>
      simp only [addForms]
      rw [ih, last_add, List.length_cons]
      omega

theorem last_addPages (d : Draft) (pages : List (List Page.Draw × Option ObjId)) :
    (d.addPages pages).1.last = d.last + 2 * pages.length := by
  induction pages generalizing d with
  | nil => rfl
  | cons page rest ih =>
      simp only [addPages]
      rw [ih, last_add, last_add, List.length_cons]
      omega

/-- The numbers of the objects of a document that is taken in count as used. -/
theorem le_foldl_max (os : Objects) (n : Nat) : n ≤ os.foldl (fun n (id, _) => max n id.num) n := by
  induction os generalizing n with
  | nil => exact Nat.le_refl n
  | cons e rest ih => exact Nat.le_trans (Nat.le_max_left n e.1.num) (ih _)

theorem last_le_import {d after : Draft} {file : Bytes} {forms : List Form}
    (h : d.import? file = .ok (after, forms)) : d.last ≤ after.last := by
  unfold import? at h
  cases hload : Pdf.load file with
  | error fault => simp [hload, mapError_error, Bind.bind, Except.bind] at h
  | ok doc =>
      simp only [hload, mapError_ok, Bind.bind, Except.bind] at h
      split at h
      · cases h
      · split at h
        · cases h
        · obtain ⟨rfl, -⟩ := Prod.mk.inj (Except.ok.inj h)
          rw [last_addForms]
          exact Nat.le_trans (le_foldl_max _ _) (Nat.le_add_right _ _)

end Draft

namespace Request

/-- What each page of a layout shows besides its own content, when the document's pages have these
forms. -/
def shownForms (l : Layout) (forms : List Draft.Form) : List (Option ObjId) :=
  l.info.map (fun _ => none) ++ forms.map (fun f => some f.id) ++ l.signatures.map (fun _ => none)

/-- How a card is made. -/
theorem card_cases {r : Request} {created : String} {doc : Document}
    (made : r.card created = .ok doc) :
    ∃ (d : Draft) (forms : List Draft.Form) (l : Layout),
      1 ≤ d.last ∧
      (r.options.showDocument = true → Draft.empty.import? r.document = .ok (d, forms)) ∧
      r.layout (forms.map (·.box)) = .ok l ∧
      let pages := (l.framed r.language r.descriptor.title.toList).zip (shownForms l forms)
      let added := d.addPages pages
      let attached := added.1.attach 1 r.attachments
      doc = attached.1.finish r created added.2 attached.2 := by
  unfold card at made
  cases hflaw : r.flaw? with
  | some flaw =>
      simp only [hflaw] at made
      cases made
  | none =>
      simp only [hflaw, Bind.bind, Except.bind, Pure.pure, Except.pure] at made
      cases hshown : r.options.showDocument with
      | false =>
          simp only [hshown, Bool.false_eq_true, if_false] at made
          cases hlayout : r.layout ([].map Draft.Form.box) with
          | error fault =>
              rw [hlayout] at made
              cases made
          | ok l =>
              rw [hlayout] at made
              exact ⟨.empty, [], l, by decide, nofun, hlayout, (Except.ok.inj made).symm⟩
      | true =>
          simp only [hshown, if_true] at made
          cases himport : Draft.empty.import? r.document with
          | error fault =>
              rw [himport] at made
              cases made
          | ok taken =>
              obtain ⟨d, forms⟩ := taken
              simp only [himport] at made
              cases hlayout : r.layout (forms.map Draft.Form.box) with
              | error fault =>
                  rw [hlayout] at made
                  cases made
              | ok l =>
                  rw [hlayout] at made
                  have hlast : Draft.empty.last ≤ d.last := Draft.last_le_import himport
                  refine ⟨d, forms, l, Nat.le_trans (by decide) hlast, fun _ => rfl, hlayout, ?_⟩
                  exact (Except.ok.inj made).symm

/-- A card is what a draft with the request's attachments is finished to. -/
theorem card_eq_finish {r : Request} {created : String} {doc : Document}
    (made : r.card created = .ok doc) :
    ∃ (d : Draft) (pages : List ObjId), 1 ≤ d.last ∧
      doc = (d.attach 1 r.attachments).1.finish r created pages (d.attach 1 r.attachments).2 := by
  obtain ⟨d, forms, l, begun, -, -, rfl⟩ := card_cases made
  refine ⟨_, _, ?_, rfl⟩
  rw [Draft.last_addPages]
  exact Nat.le_trans begun (Nat.le_add_right _ _)

/-- The files of a card are those that went into it: the document under its name and the signatures
under theirs, in order and byte for byte, whatever the names are, and nothing from a document whose
pages are shown.  The card is read from its file, in which plain objects are as they were written. -/
theorem ofFile_of_press (r : Request) (created : String) (file : Bytes)
    (pressed : r.press created = .ok file) (few : 1 + r.descriptor.signatures.length ≤ 9999)
    (restored : ∀ doc, r.card created = .ok doc →
      ∃ after, Pdf.load (Pdf.write doc) = .ok after ∧ doc.Restores after) :
    Attachments.ofFile file
      = .ok (⟨r.fileName, r.document⟩ :: r.descriptor.signatures.map fun s => ⟨s.fileName, s.body⟩) := by
  have hattached : r.attachments.map Prod.fst
      = ⟨r.fileName, r.document⟩ :: r.descriptor.signatures.map fun s => ⟨s.fileName, s.body⟩ := by
    simp [attachments, Function.comp_def]
  have hfew : r.attachments.length ≤ 9999 := by
    simp only [attachments, List.length_cons, List.length_map]
    omega
  unfold press at pressed
  cases hcard : r.card created with
  | error fault => simp [hcard, Except.map] at pressed
  | ok doc =>
      rw [hcard] at pressed
      obtain rfl : Pdf.write doc = file := Except.ok.inj pressed
      obtain ⟨after, hload, hrestores⟩ := restored doc hcard
      obtain ⟨d, pages, begun, rfl⟩ := card_eq_finish hcard
      obtain ⟨root, tree, carries⟩ := d.carries_whole begun r created pages r.attachments
      rw [Draft.finish_eq] at hrestores hload
      have hfiles := Attachments.ofDocument_of_carries (carries.pruned.restored hrestores) hfew
      simp only [Attachments.ofFile, Draft.finish_eq, hload, mapError_ok, Bind.bind, Except.bind]
      rw [hfiles, hattached]

/-- A document of three bytes with one signature. -/
def sample : Request :=
  { descriptor := { signatures := [{ body := [9], fileName := "ж.sig", signerName := "A" }] }
    document := [1, 2, 3]
    fileName := "a.txt" }

/-- Both files of the sample's card are read back, whatever letters are in their names. -/
theorem ofFile_of_press_sample :
    ∃ file, sample.press "D:20210131134500Z" = .ok file ∧
      Attachments.ofFile file = .ok [⟨"a.txt", [1, 2, 3]⟩, ⟨"ж.sig", [9]⟩] := by
  have hback : ((sample.card "D:20210131134500Z").map Document.isReadBack).toOption = some true := by
    decide +kernel
  cases hcard : sample.card "D:20210131134500Z" with
  | error fault =>
      rw [hcard] at hback
      cases hback
  | ok doc =>
      rw [hcard] at hback
      have hpress : sample.press "D:20210131134500Z" = .ok (Pdf.write doc) := by
        rw [press, hcard]
        rfl
      refine ⟨Pdf.write doc, hpress, ofFile_of_press sample _ _ hpress (by decide) ?_⟩
      intro other hother
      obtain rfl := Except.ok.inj (hcard.symm.trans hother)
      exact Document.restores_of_isReadBack (Option.some.inj hback)

end Request

end Card

end DocumentCard
