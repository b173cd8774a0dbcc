import DocumentCard.Card.Sections
import DocumentCard.Proofs.Page.Lines
import DocumentCard.Proofs.Steps
set_option autoImplicit false

/-!
# What the sections of text say

The info block and the section of the signatures say something in paragraphs and in a table of contents,
one below the other.  Here the paragraphs of each section are listed by themselves (`infoBlocks`,
`signatureBlocks`), without the gaps between them and without any page.

Main statement: the pages of a section show its paragraphs and its table of contents from the first line
to the last, each line once (`sections_show_texts`).
-/

namespace DocumentCard.Card

open Page (Block Item Font Shows)

/-! ## Paragraphs of the sections -/

/-- A paragraph that is left out when its text is empty. -/
def optionalBlock (font : Font) (size indent : Nat) (text : List Char) : List Block :=
  if text.isEmpty then [] else [.paragraph font size indent text]

/-- A label and a value, both left out when there is no value. -/
def labelledBlocks (language : Language) (label : Phrase) (value : List Char) : List Block :=
  if value.isEmpty then []
  else [.paragraph .bold 10 0 (language.text label), .paragraph .regular 10 10 value]

/-- The paragraphs and the table of contents of the info block. -/
def infoBlocks (language : Language) (r : Request) (contents : Contents) : List Block :=
  let d := r.descriptor
  let o := r.options
  [.paragraph .bold 14 0 (language.text .cardTitle), .paragraph .bold 12 0 d.title.toList]
    ++ optionalBlock .regular 10 0 d.description.toList
    ++ (if d.id.isEmpty then [] else [.paragraph .regular 10 0 ("ID: ".toList ++ d.id.toList)])
    ++ [.paragraph .regular 10 0 (labelled (language.text .creationDate) o.creationDate.toList),
        .paragraph .regular 10 0 (labelled (language.text .builderSystem) o.builderName.toList)]
    ++ optionalBlock .italic 9 0 d.logoText.toList
    ++ .paragraph .bold 11 0 (language.text .contents)
    :: contents.map (fun (title, page) => .entry title page)
    ++ .paragraph .bold 11 0 (language.text .attachmentsList)
    :: (attachmentLines language r).map (.paragraph .regular 10 10)
    ++ [.paragraph .italic 9 0
          (language.format .notice [("how_to_verify".toList, o.howToVerify.toList)])]

/-- The paragraphs about one signature. -/
def signatureBlocks (language : Language) (number : Nat) (s : Signature) (d : SignerDetails) :
    List Block :=
  let number := language.format .signatureNumber [("number".toList, decimal number)]
  let organization := language.format .organization
    [("name".toList, d.organizationName.toList), ("id".toList, d.organizationId.toList)]
  [.paragraph .bold 12 0 (language.text .signatureVisualization), .paragraph .bold 11 0 number]
    ++ labelledBlocks language .signatureDate d.timeStamp.generatedAt.toList
    ++ labelledBlocks language .signedBy (fullSigner language s d)
    ++ (if d.organizationName.isEmpty then []
        else labelledBlocks language .representsOrganization organization)
    ++ labelledBlocks language .template (listing d.policies)
    ++ labelledBlocks language .allowedUsage (listing (d.keyUsage ++ d.extendedKeyUsage))
    ++ [.paragraph .regular 8 0 (certificateText language d)]
    ++ optionalBlock .regular 8 0 d.algorithm.toList
    ++ (if d.timeStamp.generatedAt.isEmpty then []
        else [.paragraph .regular 8 0 (timeStampText language d.timeStamp)])
    ++ (if d.revocation.generatedAt.isEmpty then []
        else [.paragraph .regular 8 0 (revocationText language d.revocation)])

/-- The paragraphs about signatures, one signature after the other; `number` is the number of the first. -/
def blocksFrom (language : Language) (number : Nat) (signatures : List Signature) : List Block :=
  (signatures.zipIdx number).flatMap fun (s, number) =>
    s.details.toList.flatMap (signatureBlocks language number s)

/-! ## What is laid out -/

theorem filter_gap (height : Nat) (below : List Item) :
    (gap height :: below).filter Item.isLine = below.filter Item.isLine := rfl

theorem filter_paragraph (font : Font) (size indent : Nat) (text : List Char) :
    (Page.paragraph font size indent text).filter Item.isLine
      = (Block.paragraph font size indent text).items :=
  List.filter_eq_self.mpr (Block.paragraph font size indent text).isLine_of_mem_items

theorem filter_entry (text : List Char) (page : Nat) :
    (Page.entry text page).filter Item.isLine = (Block.entry text page).items :=
  List.filter_eq_self.mpr (Block.entry text page).isLine_of_mem_items

/-- The info block lays out its paragraphs and its table of contents. -/
theorem filter_infoItems (language : Language) (r : Request) (contents : Contents) :
    (infoItems language r contents).filter Item.isLine
      = (infoBlocks language r contents).flatMap Block.items := by
  simp only [infoItems, infoBlocks, optionalParagraph, optionalBlock,
    apply_ite (List.filter Item.isLine), apply_ite (List.flatMap Block.items),
    List.filter_append, List.filter_nil, List.filter_flatMap, filter_gap, filter_paragraph, filter_entry,
    List.flatMap_append, List.flatMap_cons, List.flatMap_nil, List.flatMap_map, List.append_nil,
    List.append_assoc, List.cons_append, List.nil_append]

/-- The pages of a signature lay out the paragraphs about it. -/
theorem filter_signatureItems (language : Language) (number : Nat) (s : Signature) (d : SignerDetails) :
    (signatureItems language number s d).filter Item.isLine
      = (signatureBlocks language number s d).flatMap Block.items := by
  simp only [signatureItems, signatureBlocks, optionalParagraph, optionalBlock, labelledField,
    labelledBlocks, apply_ite (List.filter Item.isLine), apply_ite (List.flatMap Block.items),
    List.filter_append, List.filter_nil, filter_gap, filter_paragraph, List.flatMap_append,
    List.flatMap_cons, List.flatMap_nil, List.append_nil, List.append_assoc, List.nil_append,
    List.cons_append]

/-- Page ends between the parts of a section add nothing to them. -/
theorem filter_separated (parts : List (List Item)) :
    (separated parts).filter Item.isLine = parts.flatten.filter Item.isLine := by
  induction parts with
  | nil => rfl
  | cons part rest ih =>
      cases rest with
      | nil => rw [separated, List.flatten_singleton]
      | cons next rest =>
          calc (part ++ .pageBreak :: separated (next :: rest)).filter Item.isLine
              = part.filter Item.isLine ++ (separated (next :: rest)).filter Item.isLine :=
                List.filter_append _ _
            _ = part.filter Item.isLine ++ (next :: rest).flatten.filter Item.isLine := by rw [ih]
            _ = (part :: next :: rest).flatten.filter Item.isLine :=
                (List.filter_append _ _).symm

theorem blocksFrom_cons (language : Language) (number : Nat) {s : Signature} {d : SignerDetails}
    (details : s.details = some d) (rest : List Signature) :
    blocksFrom language number (s :: rest)
      = signatureBlocks language number s d ++ blocksFrom language (number + 1) rest := by
  simp [blocksFrom, List.zipIdx_cons, details]

/-- Signatures that get pages have details, all of them, and what is laid out is the paragraphs about
them. -/
theorem of_signaturesFrom {language : Language} {number : Nat} {signatures : List Signature}
    {parts : List (List Item)} (made : signaturesFrom language number signatures = .ok parts) :
    (∀ s ∈ signatures, s.details.isSome = true) ∧
      parts.flatten.filter Item.isLine = (blocksFrom language number signatures).flatMap Block.items := by
  induction signatures generalizing number parts with
  | nil =>
      obtain rfl := Except.ok.inj made
      exact ⟨nofun, rfl⟩
  | cons s rest ih =>
      unfold signaturesFrom at made
      cases hdetails : s.details with
      | none => simp [hdetails] at made
      | some d =>
          simp only [hdetails] at made
          obtain ⟨later, hlater, made⟩ := bind_eq_ok made
          obtain rfl := Except.ok.inj made
          obtain ⟨complete, hitems⟩ := ih hlater
          refine ⟨List.forall_mem_cons.mpr ⟨by simp [hdetails], complete⟩, ?_⟩
          rw [List.flatten_cons, List.filter_append, filter_signatureItems, hitems,
            blocksFrom_cons language number hdetails, List.flatMap_append]

/-- Signatures that all have details get pages. -/
theorem exists_signaturesFrom (language : Language) (number : Nat) {signatures : List Signature}
    (complete : ∀ s ∈ signatures, s.details.isSome = true) :
    ∃ parts, signaturesFrom language number signatures = .ok parts := by
  induction signatures generalizing number with
  | nil => exact ⟨[], rfl⟩
  | cons s rest ih =>
      rw [List.forall_mem_cons] at complete
      obtain ⟨d, hdetails⟩ := Option.isSome_iff_exists.mp complete.1
      obtain ⟨later, hlater⟩ := ih (number + 1) complete.2
      exact ⟨signatureItems language number s d :: later, by
        simp [signaturesFrom, hdetails, hlater, Bind.bind, Except.bind, Pure.pure, Except.pure]⟩

/-! ## What is shown -/

/-- Wherever the pages of a section end, they show its texts, and nothing is lost or repeated.

For the info block this holds with any entries in the table of contents.  Signatures get pages if and only
if each of them has details. -/
theorem sections_show_texts (language : Language) :
    (∀ (r : Request) (contents : Contents),
      Shows (infoPages language r contents) (infoBlocks language r contents)) ∧
    ∀ signatures : List Signature,
      ((∃ pages, signaturePages language signatures = .ok pages)
        ↔ ∀ s ∈ signatures, s.details.isSome = true) ∧
      ∀ pages, signaturePages language signatures = .ok pages →
        Shows pages (blocksFrom language 1 signatures) := by
  refine ⟨fun r contents => Page.shows_placed (filter_infoItems language r contents), ?_⟩
  intro signatures
  have laid {pages : List (List Page.Draw)} (made : signaturePages language signatures = .ok pages) :
      ∃ parts, signaturesFrom language 1 signatures = .ok parts ∧
        pages = Page.placed (separated parts) := by
    obtain ⟨parts, hparts, made⟩ := bind_eq_ok made
    exact ⟨parts, hparts, (Except.ok.inj made).symm⟩
  refine ⟨⟨?_, ?_⟩, ?_⟩
  · rintro ⟨pages, made⟩
    obtain ⟨parts, hparts, -⟩ := laid made
    exact (of_signaturesFrom hparts).1
  · intro complete
    obtain ⟨parts, hparts⟩ := exists_signaturesFrom language 1 complete
    exact ⟨Page.placed (separated parts), by
      rw [signaturePages, hparts]
      rfl⟩
  · intro pages made
    obtain ⟨parts, hparts, rfl⟩ := laid made
    apply Page.shows_placed
    rw [filter_separated]
    exact (of_signaturesFrom hparts).2

end DocumentCard.Card
