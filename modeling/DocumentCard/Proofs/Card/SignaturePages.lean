import DocumentCard.Proofs.Card.Acceptance
set_option autoImplicit false

/-!
# Every signature on pages of its own

All signatures are laid out in one go, from top to bottom.  The height runs on from one signature to the next,
but a page end stands between them, and below it nothing is left of what was above.  So the section is what the
signatures would get one by one (`signaturePagesFrom_eq`), each with its number.

Only without any signature this does not hold: the layout then ends on the page on which it started, and there
is an empty page that belongs to no signature.

Main statement: the section is the pages of the signatures one behind the other; each begins at the top of a
page, no page shows two of them, and another signature in the place of one changes its pages and no others
(`signature_pages_are_independent`).
-/

namespace DocumentCard.Card

open Page (Draw Item Block Shows placed)

/-! ## Parts of a layout -/

/-- Parts with page ends between them are laid out like each of them alone. -/
theorem placed_separated {parts : List (List Item)} (any : parts ≠ []) :
    placed (separated parts) = parts.flatMap placed := by
  induction parts with
  | nil => exact absurd rfl any
  | cons part rest ih =>
      cases rest with
      | nil => rw [separated, List.flatMap_singleton]
      | cons next rest =>
          calc placed (part ++ .pageBreak :: separated (next :: rest))
              = placed part ++ placed (separated (next :: rest)) := Page.placed_append_pageBreak _ _
            _ = (part :: next :: rest).flatMap placed := by
              rw [ih (List.cons_ne_nil next rest)]
              rfl

/-! ## One signature -/

/-- The pages of a section of signatures in which the first has the given number; in the section of a card it
has the number one. -/
def signaturePagesFrom (language : Language) (number : Nat) (signatures : List Signature) :
    Except Fault (List (List Draw)) := do
  return placed (separated (← signaturesFrom language number signatures))

/-- The pages of a section with one signature alone, which has the given number. -/
def pagesAlone (language : Language) (number : Nat) (s : Signature) : Except Fault (List (List Draw)) :=
  signaturePagesFrom language number [s]

section Alone

variable {language : Language} {number : Nat} {s : Signature}

theorem pagesAlone_of_some {d : SignerDetails} (details : s.details = some d) :
    pagesAlone language number s = .ok (placed (signatureItems language number s d)) := by
  simp only [pagesAlone, signaturePagesFrom, signaturesFrom, details]
  rfl

theorem pagesAlone_of_none (details : s.details = none) :
    pagesAlone language number s = .error (Flaw.signature number .noDetails).fault := by
  simp only [pagesAlone, signaturePagesFrom, signaturesFrom, details]
  rfl

end Alone

/-- The items of signatures are laid out, if they are, like those of each signature alone. -/
theorem mapM_pagesAlone (language : Language) (number : Nat) (signatures : List Signature) :
    ((signatures.zipIdx number).mapM fun (s, number) => pagesAlone language number s)
      = (signaturesFrom language number signatures).map (·.map placed) := by
  induction signatures generalizing number with
  | nil => rfl
  | cons s rest ih =>
      rw [List.zipIdx_cons, List.mapM_cons, ih (number + 1), signaturesFrom]
      cases hdetails : s.details with
      | none =>
          simp only [pagesAlone_of_none hdetails]
          rfl
      | some d =>
          simp only [pagesAlone_of_some hdetails, ok_bind]
          cases signaturesFrom language (number + 1) rest <;> rfl

/-- A section of signatures is what each of them gets alone, with its number, one behind the other.  If some
cannot have pages the section fails as the first of them. -/
theorem signaturePagesFrom_eq (language : Language) (number : Nat) {signatures : List Signature}
    (any : signatures ≠ []) :
    signaturePagesFrom language number signatures
      = ((signatures.zipIdx number).mapM fun (s, number) => pagesAlone language number s).map
          List.flatten := by
  rw [mapM_pagesAlone, signaturePagesFrom]
  cases hparts : signaturesFrom language number signatures with
  | error fault => rfl
  | ok parts =>
      have hsome : parts ≠ [] := by
        rintro rfl
        obtain ⟨s, rest, rfl⟩ := List.exists_cons_of_ne_nil any
        rw [signaturesFrom] at hparts
        cases hdetails : s.details with
        | none => simp [hdetails] at hparts
        | some d =>
            rw [hdetails] at hparts
            obtain ⟨later, -, hparts⟩ := bind_eq_ok hparts
            cases hparts
      exact congrArg Except.ok ((placed_separated hsome).trans List.flatMap_def)

/-! ## The top of a page -/

/-- There is room at the top of a page. -/
theorem not_top_lt_bottom : ¬ Page.Sheet.top < Page.Sheet.bottom := by decide +kernel

/-- What begins with a text begins with it at the top of the first page. -/
theorem placed_line (leading : Single) (run : Page.Run) (runs : List Page.Run) (below : List Item) :
    ∃ page later, placed (.line leading (run :: runs) :: below)
      = (run.at Page.Sheet.top :: page) :: later := by
  obtain ⟨first, later, hpages, -⟩ :=
    Page.lines_placeFrom (Page.Sheet.top - leading) ((run :: runs).map (·.at Page.Sheet.top)) below
  refine ⟨runs.map (·.at Page.Sheet.top) ++ first.flatMap Page.Line.draws,
    later.map (·.flatMap Page.Line.draws), ?_⟩
  rw [placed, Page.placeFrom, if_neg not_top_lt_bottom, List.nil_append, hpages]
  rfl

/-- The heading of the pages of a signature. -/
def signatureHeading (language : Language) : Block :=
  .paragraph .bold 12 0 (language.text .signatureVisualization)

/-- The first of the pages begins with a line of the heading, at its top. -/
def BeginsAtTop (language : Language) (pages : List (List Draw)) : Prop :=
  ∃ line page later x, (signatureHeading language).wrapped.head? = some line ∧
    pages = (.text x Page.Sheet.top .bold (Single.ofInt 12) line :: page) :: later

/-- The heading starts with a line that is not empty. -/
theorem head?_signatureHeading (language : Language) :
    ∃ line, (signatureHeading language).wrapped.head? = some line ∧ line ≠ [] := by
  have hfilled : (signatureHeading language).wrapped.head?.any (!·.isEmpty) = true := by
    cases language <;> decide +kernel
  obtain ⟨line, hline, hsome⟩ := (Option.any_eq_true _ _).mp hfilled
  exact ⟨line, hline, by simpa using hsome⟩

/-- A paragraph begins with the first line of its text. -/
theorem paragraph_of_wrapped {font : Page.Font} {size indent : Nat} {text line : List Char}
    {lines : List (List Char)} (wrapped : (Block.paragraph font size indent text).wrapped = line :: lines)
    (filled : line ≠ []) :
    ∃ leading x below, Page.paragraph font size indent text
      = .line leading [⟨x, font, Single.ofInt size, line⟩] :: below := by
  rw [Block.wrapped] at wrapped
  have hfilled : ¬ line.isEmpty = true := by simpa using filled
  simp only [Page.paragraph, wrapped, List.map_cons, if_neg hfilled]
  exact ⟨_, _, _, rfl⟩

/-- The pages of a signature alone begin with their heading, at the top. -/
theorem beginsAtTop_signatureItems (language : Language) (number : Nat) (s : Signature)
    (d : SignerDetails) : BeginsAtTop language (placed (signatureItems language number s d)) := by
  obtain ⟨line, hline, filled⟩ := head?_signatureHeading language
  obtain ⟨lines, hlines⟩ := List.head?_eq_some_iff.mp hline
  obtain ⟨leading, x, more, hheading⟩ := paragraph_of_wrapped hlines filled
  have hitems : ∃ below, signatureItems language number s d
      = .line leading [⟨x, .bold, Single.ofInt 12, line⟩] :: below := by
    unfold signatureItems
    simp only [List.append_assoc, hheading, List.cons_append]
    exact ⟨_, rfl⟩
  obtain ⟨below, hitems⟩ := hitems
  obtain ⟨page, later, hpages⟩ :=
    placed_line leading ⟨x, .bold, Single.ofInt 12, line⟩ [] below
  rw [hitems, hpages]
  exact ⟨line, page, later, x, hline, rfl⟩

/-! ## All signatures -/

/-- The pages of a section, signature by signature. -/
def pagesBySignature (language : Language) (number : Nat) (signatures : List Signature) :
    List (List (List Draw)) :=
  (signatures.zipIdx number).map fun (s, number) =>
    placed (s.details.toList.flatMap (signatureItems language number s))

section Complete

variable {language : Language} {number : Nat} {signatures : List Signature}

theorem mapM_pagesAlone_of_complete (complete : ∀ s ∈ signatures, s.details.isSome = true) :
    ((signatures.zipIdx number).mapM fun (s, number) => pagesAlone language number s)
      = .ok (pagesBySignature language number signatures) := by
  refine mapM_eq_ok_map fun (s, number) hs => ?_
  obtain ⟨d, hdetails⟩ := Option.isSome_iff_exists.mp (complete s (List.fst_mem_of_mem_zipIdx hs))
  simp [pagesAlone_of_some hdetails, hdetails]

/-- Complete signatures, if there are any, have the pages of each, one behind the other. -/
theorem signaturePages_of_complete (complete : ∀ s ∈ signatures, s.details.isSome = true)
    (any : signatures ≠ []) :
    signaturePages language signatures = .ok (pagesBySignature language 1 signatures).flatten := by
  have hfrom : signaturePages language signatures = signaturePagesFrom language 1 signatures := rfl
  rw [hfrom, signaturePagesFrom_eq language 1 any, mapM_pagesAlone_of_complete complete]
  rfl

theorem getElem?_pagesBySignature (language : Language) (number : Nat) (signatures : List Signature)
    (i : Nat) :
    (pagesBySignature language number signatures)[i]?
      = signatures[i]?.map fun s =>
          placed (s.details.toList.flatMap (signatureItems language (number + i) s)) := by
  rw [pagesBySignature, List.getElem?_map, List.getElem?_zipIdx, Option.map_map]
  rfl

/-- Another signature has other pages in the same place. -/
theorem pagesBySignature_set (language : Language) (number : Nat) (signatures : List Signature) (i : Nat)
    (other : Signature) :
    pagesBySignature language number (signatures.set i other)
      = (pagesBySignature language number signatures).set i
          (placed (other.details.toList.flatMap (signatureItems language (number + i) other))) := by
  apply List.ext_getElem?
  intro k
  rw [getElem?_pagesBySignature, List.getElem?_set, List.getElem?_set, getElem?_pagesBySignature]
  by_cases hk : i = k
  · subst hk
    simp [pagesBySignature, apply_ite]
  · simp [hk]

end Complete

/-- Signatures have pages of their own.

Laid out together they get what each of them gets alone with its number, one behind the other (without any
signature there is one empty page instead, but a request without signatures has no card).  The pages of each
begin with the heading at the top of a page, and show the paragraphs about this signature and nothing else.
With another signature in the place of one, all pages but its own are as they were. -/
theorem signature_pages_are_independent (language : Language) (signatures : List Signature)
    (complete : ∀ s ∈ signatures, s.details.isSome = true) :
    ∃ parts : List (List (List Draw)),
      ((signatures.zipIdx 1).mapM fun (s, number) => pagesAlone language number s) = .ok parts ∧
      signaturePages language signatures
        = .ok (if signatures = [] then [[]] else parts.flatten) ∧
      (signatures = [] → ∀ (r : Request) (created : String), r.descriptor.signatures = signatures →
        ∃ flaw : Flaw, r.press created = .error flaw.fault) ∧
      ∀ (i : Nat) (s : Signature) (d : SignerDetails), signatures[i]? = some s → s.details = some d →
        ∃ own, parts[i]? = some own ∧ pagesAlone language (i + 1) s = .ok own ∧
          BeginsAtTop language own ∧ Shows own (signatureBlocks language (i + 1) s d) ∧
          ∀ other : Signature, other.details.isSome = true →
            ∃ others, pagesAlone language (i + 1) other = .ok others ∧
              signaturePages language (signatures.set i other) = .ok (parts.set i others).flatten := by
  refine ⟨pagesBySignature language 1 signatures, mapM_pagesAlone_of_complete complete, ?_,
    fun unsigned r created same => Request.exists_press_error (same.trans unsigned) created, ?_⟩
  · split
    · rename_i hnone
      rw [hnone]
      rfl
    · rename_i any
      exact signaturePages_of_complete complete any
  · intro i s d there hdetails
    have hnumber : 1 + i = i + 1 := Nat.add_comm 1 i
    refine ⟨placed (signatureItems language (i + 1) s d), ?_, pagesAlone_of_some hdetails,
      beginsAtTop_signatureItems .., Page.shows_placed (filter_signatureItems ..), ?_⟩
    · simp [getElem?_pagesBySignature, there, hdetails, hnumber]
    · intro other hother
      obtain ⟨d', hdetails'⟩ := Option.isSome_iff_exists.mp hother
      refine ⟨_, pagesAlone_of_some hdetails', ?_⟩
      have hcomplete : ∀ s ∈ signatures.set i other, s.details.isSome = true := by
        intro s hs
        obtain hs | rfl := List.mem_or_eq_of_mem_set hs
        · exact complete s hs
        · exact hother
      have any : signatures.set i other ≠ [] := by
        rw [Ne, List.set_eq_nil_iff]
        rintro rfl
        cases there
      simp [signaturePages_of_complete hcomplete any, pagesBySignature_set, hdetails', hnumber]

/-- A signature whose algorithm takes more lines than there are on a page. -/
def lengthy : Signature where
  fileName := "a.sig"
  signerName := "A"
  details := some { algorithm := String.ofList (List.replicate 70 '\n') }

/-- A signature of which nothing is known but the name. -/
def brief : Signature where
  fileName := "b.sig"
  signerName := "B"
  details := some {}

/-- The first signature runs over two pages, and the second begins on the third as it would begin alone. -/
theorem signature_pages_are_independent_lengthy :
    ∃ first second, pagesAlone .kazakh 1 lengthy = .ok first ∧ pagesAlone .kazakh 2 brief = .ok second ∧
      first.length = 2 ∧ BeginsAtTop .kazakh second ∧
      signaturePages .kazakh [lengthy, brief] = .ok (first ++ second) := by
  have complete : ∀ s ∈ [lengthy, brief], s.details.isSome = true := by decide
  obtain ⟨parts, hparts, hpages, -, heach⟩ :=
    signature_pages_are_independent .kazakh [lengthy, brief] complete
  obtain ⟨first, -, hfirst, -⟩ := heach 0 lengthy _ rfl rfl
  obtain ⟨second, -, hsecond, htop, -⟩ := heach 1 brief _ rfl rfl
  have hcount : (pagesAlone .kazakh 1 lengthy).toOption.map List.length = some 2 := by decide +kernel
  rw [hfirst] at hcount
  simp only [List.zipIdx_cons, List.zipIdx_nil, List.mapM_cons, List.mapM_nil, hfirst, hsecond] at hparts
  obtain rfl : [first, second] = parts := Except.ok.inj hparts
  refine ⟨first, second, hfirst, hsecond, Option.some.inj hcount, htop, ?_⟩
  rw [hpages, if_neg (List.cons_ne_nil _ _), List.flatten_cons, List.flatten_singleton]

end DocumentCard.Card
