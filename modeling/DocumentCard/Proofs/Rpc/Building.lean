import DocumentCard.Proofs.Rpc.Breakdown
import DocumentCard.Proofs.Rpc.History
import DocumentCard.Proofs.Rpc.RoundTrip
import Mathlib.Data.List.DropRight
set_option autoImplicit false

/-!
# How a card comes to be

A builder takes in what it is brought until its card is made, and from then on hands out the card.  All that
can be told from outside: what was taken in (`Episode.document`, `Episode.signatures`), for what the
renderer was asked and what it made of it (`Episode.Makes`), and what was handed out (`Episode.given`).  A
renderer that breaks down takes what the builder had with it, so only what came later is still there
(`Episode.recent`, `Episode.kept`).

The builder holds what the past tells of these (`Holds`), and each use keeps it so (`keeps`).  There are two
cases, before the card is made (`early_gathering`) and afterwards (`late_built`).

Main statement: whatever is asked of a builder, in whatever order, it keeps to that; and as long as no
renderer breaks down, nothing that was taken in is missing from a card (`builder_follows_course`).
-/

namespace DocumentCard.Rpc

open Session (Act Builder Fault Helpers Part PartReader Pressed Work)

/-! ## What is told from outside -/

namespace Episode

/-- What comes of the use if it succeeds. -/
def gain {α : Type} (e : Episode) (of : Use → Yield → Option α) : Option α :=
  match e.result with
  | .ok result => of e.use result
  | .error _ => none

/-- The part of the document that was taken in. -/
def taken? (e : Episode) : Option Bytes :=
  e.gain fun
    | .appendDocument part, _ => some part
    | _, _ => none

/-- The signature that was taken in. -/
def signed? (e : Episode) : Option Card.Signature :=
  e.gain fun
    | .appendSignature signature, _ => some signature
    | _, _ => none

/-- The part of the card that was handed out. -/
def given? (e : Episode) : Option Bytes :=
  e.gain fun
    | .cardPart _, .part part => some part.bytes
    | _, _ => none

/-- The document that was taken in. -/
def document (past : List Episode) : Bytes := (past.filterMap (·.taken?)).flatten

/-- The signatures that were taken in. -/
def signatures (past : List Episode) : List Card.Signature := past.filterMap (·.signed?)

/-- What was handed out of the card. -/
def given (past : List Episode) : Bytes := (past.filterMap (·.given?)).flatten

/-- Whether the renderer made this card. -/
def Makes (e : Episode) (card : Bytes) : Prop :=
  ∃ request, .pressed request (.finished (.ok card)) ∈ e.acts

/-- The request for the card of what was taken in. -/
def request (d : Card.Descriptor) (name : String) (past : List Episode) (options : Card.Options) :
    Card.Request where
  descriptor := { d with signatures := signatures past }
  document := document past
  fileName := name
  options := options

/-- Whether a task broke down for the use. -/
def brokeDown (e : Episode) : Bool := e.acts.any (·.brokeDown?.isSome)

/-- What has happened since a task last broke down. -/
def recent (past : List Episode) : List Episode := past.rtakeWhile fun e => !e.brokeDown

/-- What is left of a descriptor: nothing, if a task has broken down. -/
def kept (d : Card.Descriptor) (past : List Episode) : Card.Descriptor :=
  if past.any (·.brokeDown) then {} else d

/-- What is told to the one who wants the card when the renderer is through. -/
def pressResult : Pressed → Except Fault Yield
  | .finished (.ok _) => .ok .nothing
  | .finished (.error refusal) => .error (.ofRender refusal)
  | .crashed reason => .error (Builder.crashed reason)

/-- What use of a builder may be before its card is made, if what it has was taken in by `held`. -/
structure Early (d : Card.Descriptor) (name : String) (held : List Episode) (e : Episode) :
    Prop where
  /-- parts of the document are taken in -/
  append : ∀ part, e.use = .appendDocument part → e.result = .ok .nothing
  /-- a signature is taken in if it is found clean, and not otherwise -/
  sign : ∀ signature, e.use = .appendSignature signature →
    ∃ said, e.acts = [.scanned signature.body said] ∧
      if said = .ok .clean then e.result = .ok .nothing else ∃ fault, e.result = .error fault
  /-- the card is made if the document is found clean and the renderer makes it -/
  build : ∀ options, e.use = .build options →
    (∃ said fault, e.acts = [.scanned (document held) said] ∧ said ≠ .ok .clean ∧
      e.result = .error fault) ∨
    ∃ outcome, e.acts
        = [.foundClean (document held), .pressed (request d name held options) outcome] ∧
      e.result = pressResult outcome
  /-- there is nothing to be had -/
  get : ∀ size, e.use = .cardPart size → e.result = .error (.stage .notBuilt)

/-- What use of a builder may be after its card is made. -/
structure Late (card : Bytes) (past : List Episode) (e : Episode) : Prop where
  /-- nothing more is taken in -/
  append : ∀ part, e.use = .appendDocument part → e.result = .error (.stage .alreadyBuilt)
  sign : ∀ signature, e.use = .appendSignature signature →
    e.result = .error (.stage .alreadyBuilt)
  /-- no other card is made -/
  build : ∀ options, e.use = .build options → e.result = .error (.stage .alreadyBuilt)
  /-- who asks for no bytes gets none -/
  refused : ∀ size, e.use = .cardPart size → size ≤ 0 → e.result = .error .partSize
  /-- whoever asks for some bytes gets a part; the parts are the front of the card, and the final one
  completes it -/
  get : ∀ size, e.use = .cardPart size → 0 < size →
    ∃ part, e.result = .ok (.part part) ∧ given past ++ part.bytes <+: card ∧
      (part.final = true ↔ given past ++ part.bytes = card)

/-- What use of a builder may be, after those before it, if what it has was taken in by `held`. -/
structure Follows (d : Card.Descriptor) (name : String) (held past : List Episode) (e : Episode) :
    Prop where
  /-- whatever the renderer is asked for, it is the card of all that the builder has -/
  asked : ∀ r outcome, .pressed r outcome ∈ e.acts →
    ∃ options, e.use = .build options ∧ r = request d name held options
  /-- the one who wants the card made is told that it is when the renderer makes it -/
  told : ∀ options, e.use = .build options →
    ((∃ result, e.result = .ok result) ↔ ∃ card, e.Makes card)
  /-- one card is made at most -/
  once : ∀ card, e.Makes card → ∀ p ∈ past, ∀ other, ¬ p.Makes other
  early : (∀ p ∈ past, ∀ card, ¬ p.Makes card) → e.Early d name held
  late : ∀ p ∈ past, ∀ card, p.Makes card → e.Late card past

section Grow

theorem document_append (past : List Episode) (e : Episode) :
    document (past ++ [e]) = document past ++ (e.taken?).getD [] := by
  cases h : e.taken? <;> simp [document, h]

theorem signatures_append (past : List Episode) (e : Episode) :
    signatures (past ++ [e]) = signatures past ++ (e.signed?).toList := by
  cases h : e.signed? <;> simp [signatures, h]

theorem given_append (past : List Episode) (e : Episode) :
    given (past ++ [e]) = given past ++ (e.given?).getD [] := by
  cases h : e.given? <;> simp [given, h]

variable {e : Episode} {fault : Fault}

theorem gain_of_error {α : Type} (h : e.result = .error fault) (of : Use → Yield → Option α) :
    e.gain of = none := by
  simp only [gain, h]

theorem gain_of_ok {α : Type} {result : Yield} (h : e.result = .ok result)
    (of : Use → Yield → Option α) : e.gain of = of e.use result := by
  simp only [gain, h]

end Grow

section Recent

variable {d : Card.Descriptor} {past : List Episode} {e : Episode}

theorem recent_append (past : List Episode) (sound : e.brokeDown = false) :
    recent (past ++ [e]) = recent past ++ [e] :=
  List.rtakeWhile_concat_pos _ _ _ (by simp [sound])

theorem recent_append_of_brokeDown (past : List Episode) (broken : e.brokeDown = true) :
    recent (past ++ [e]) = [] :=
  List.rtakeWhile_concat_neg _ _ _ (by simp [broken])

theorem kept_append (d : Card.Descriptor) (past : List Episode) (sound : e.brokeDown = false) :
    kept d (past ++ [e]) = kept d past := by
  simp [kept, sound]

theorem kept_append_of_brokeDown (d : Card.Descriptor) (past : List Episode)
    (broken : e.brokeDown = true) : kept d (past ++ [e]) = {} := by
  simp [kept, broken]

/-- What has happened since no task has broken down is all that has happened. -/
theorem recent_eq_self (whole : ∀ p ∈ past, p.brokeDown = false) : recent past = past :=
  List.rtakeWhile_eq_self_iff.mpr fun p hp => by simp [whole p hp]

theorem kept_eq_self (whole : ∀ p ∈ past, p.brokeDown = false) : kept d past = d :=
  if_neg (by simpa using whole)

end Recent

/-- Nothing is done for the use but scans. -/
def OnlyScans (e : Episode) : Prop := ∀ act ∈ e.acts, ∃ data said, act = .scanned data said

namespace OnlyScans

variable {e : Episode}

theorem of_nil (h : e.acts = []) : e.OnlyScans := by
  simp [OnlyScans, h]

theorem of_singleton {data : Bytes} {said : Antivirus.Scan} (h : e.acts = [.scanned data said]) :
    e.OnlyScans := by
  simp [OnlyScans, h]

theorem not_pressed (scans : e.OnlyScans) (r : Card.Request) (outcome : Pressed) :
    .pressed r outcome ∉ e.acts := by
  intro hr
  obtain ⟨data, said, h⟩ := scans _ hr
  cases h

/-- Who asks the renderer for nothing makes no card. -/
theorem not_makes (scans : e.OnlyScans) (card : Bytes) : ¬ e.Makes card :=
  fun ⟨_, hr⟩ => scans.not_pressed _ _ hr

theorem not_brokeDown (scans : e.OnlyScans) : e.brokeDown = false := by
  rw [brokeDown, List.any_eq_false]
  intro act hact
  obtain ⟨data, said, rfl⟩ := scans act hact
  exact Bool.false_ne_true

end OnlyScans

end Episode

/-! ## What a builder holds -/

open Episode (document signatures given recent kept)

/-- The builder that holds what was taken in since a task last broke down. -/
def brought (d : Card.Descriptor) (name : String) (past : List Episode) : Builder :=
  ⟨{ kept d past with signatures := signatures (recent past) }, name,
    .gathering (document (recent past))⟩

/-- The card that was made; there is no other. -/
structure Made (past : List Episode) (card : Bytes) : Prop where
  once : ∃ p ∈ past, p.Makes card
  only : ∀ p ∈ past, ∀ other, p.Makes other → other = card

/-- A session of which the past tells the truth. -/
inductive Holds (d : Card.Descriptor) (name : String) (past : List Episode) : Session → Prop where
  | gathering (unmade : ∀ p ∈ past, ∀ card, ¬ p.Makes card) (untouched : given past = []) :
      Holds d name past (.builder (brought d name past))
  | built (descriptor : Card.Descriptor) (reader : PartReader) (card : Bytes)
      (made : Made past card) (left : given past ++ reader.rest = card) :
      Holds d name past (.builder ⟨descriptor, name, .built reader⟩)

/-- A use keeps to the course, and the past goes on to tell the truth. -/
def Keeps (d : Card.Descriptor) (name : String) (past : List Episode) (e : Episode) : Prop :=
  e.Follows (kept d past) name (recent past) past ∧ Holds d name (past ++ [e]) e.after

section Steps

variable {d : Card.Descriptor} {name : String} {past : List Episode} {s : Session} {e : Episode}
  {fault : Fault}

theorem brought_append (d : Card.Descriptor) (name : String) (past : List Episode)
    (sound : e.brokeDown = false) :
    brought d name (past ++ [e])
      = ⟨{ kept d past with signatures := signatures (recent past) ++ e.signed?.toList }, name,
          .gathering (document (recent past) ++ e.taken?.getD [])⟩ := by
  rw [brought, Episode.recent_append past sound, Episode.kept_append d past sound,
    Episode.signatures_append, Episode.document_append]

/-- A use that fails brings nothing. -/
theorem brought_append_of_error (sound : e.brokeDown = false) (failed : e.result = .error fault) :
    brought d name (past ++ [e]) = brought d name past := by
  rw [brought_append d name past sound, Episode.signed?, Episode.taken?,
    Episode.gain_of_error failed, Episode.gain_of_error failed]
  simp [brought]

/-- A task that breaks down leaves nothing. -/
theorem brought_append_of_brokeDown (d : Card.Descriptor) (name : String) (past : List Episode)
    (broken : e.brokeDown = true) :
    brought d name (past ++ [e]) = (brought d name past).emptied := by
  rw [brought, Episode.recent_append_of_brokeDown past broken,
    Episode.kept_append_of_brokeDown d past broken]
  rfl

theorem given_append_of_none (none : e.given? = .none) : given (past ++ [e]) = given past := by
  rw [Episode.given_append, none]
  exact List.append_nil _

/-- Uses that make no card leave it unmade. -/
theorem unmade_append (unmade : ∀ p ∈ past, ∀ card, ¬ p.Makes card)
    (here : ∀ card, ¬ e.Makes card) : ∀ p ∈ past ++ [e], ∀ card, ¬ p.Makes card := by
  rw [List.forall_mem_append, List.forall_mem_singleton]
  exact ⟨unmade, here⟩

theorem Made.append {card : Bytes} (made : Made past card) (here : ∀ other, ¬ e.Makes other) :
    Made (past ++ [e]) card := by
  obtain ⟨⟨p, hp, hmakes⟩, only⟩ := made
  refine ⟨⟨p, List.mem_append_left _ hp, hmakes⟩, ?_⟩
  rw [List.forall_mem_append, List.forall_mem_singleton]
  exact ⟨only, fun other h => absurd h (here other)⟩

/-- A use that fails without a breakdown, and makes no card, tells of nothing new. -/
theorem Holds.of_error (holds : Holds d name past s) (sound : e.brokeDown = false)
    (failed : e.result = .error fault) (here : ∀ card, ¬ e.Makes card) :
    Holds d name (past ++ [e]) s := by
  have hgiven : given (past ++ [e]) = given past :=
    given_append_of_none (Episode.gain_of_error failed _)
  cases holds with
  | gathering unmade untouched =>
      rw [← brought_append_of_error sound failed]
      exact .gathering (unmade_append unmade here) (hgiven.trans untouched)
  | built descriptor reader card made left =>
      exact .built descriptor reader card (made.append here) (by rwa [hgiven])

/-! ## What one use does before the card is made -/

/-- The builder when the renderer is through: a card that was made is what it hands out from now on, and a
renderer that broke down has taken what the builder had with it. -/
def pressAfter (b : Builder) : Pressed → Builder
  | .finished (.ok card) => { b with stage := .built (.ofFile card) }
  | .finished (.error _) => b
  | .crashed _ => b.emptied

section Gathering

variable {helpers : Helpers} {scans : Nat} {b : Builder} {doc : Bytes}

/-- A signature is scanned, and taken in if it is clean. -/
theorem episode_appendSignature {signature : Card.Signature} (stage : b.stage = .gathering doc)
    (he : e = (Use.appendSignature signature).episode helpers scans (.builder b)) :
    ∃ said, e.acts = [.scanned signature.body said] ∧
      (said = .ok .clean ∧ e.result = .ok .nothing ∧
          e.after = .builder { b with descriptor :=
            { b.descriptor with signatures := b.descriptor.signatures ++ [signature] } } ∨
        said ≠ .ok .clean ∧ (∃ fault, e.result = .error fault) ∧ e.after = .builder b) := by
  subst he
  refine ⟨helpers.scan scans signature.body, ?_⟩
  simp only [Use.episode, Use.work, Session.onBuilder, Session.asBuilder, Work.run_map,
    Work.acts_map, Builder.sign, stage, Work.screen, Work.run, Work.acts]
  rcases Session.passed_cases (helpers.scan scans signature.body) with
    ⟨hclean, hpassed⟩ | ⟨hunclean, fault, hpassed⟩
  · rw [hpassed]
    exact ⟨rfl, .inl ⟨hclean, rfl, rfl⟩⟩
  · rw [hpassed]
    exact ⟨rfl, .inr ⟨hunclean, ⟨fault, rfl⟩, rfl⟩⟩

/-- The document is scanned, and if it is clean the card is asked for. -/
theorem episode_build {options : Card.Options} (stage : b.stage = .gathering doc)
    (he : e = (Use.build options).episode helpers scans (.builder b)) :
    (∃ said fault, e.acts = [.scanned doc said] ∧ said ≠ .ok .clean ∧ e.result = .error fault ∧
      e.after = .builder b) ∨
    ∃ outcome, e.acts = [.foundClean doc, .pressed (b.request doc options) outcome] ∧
      e.result = Episode.pressResult outcome ∧ e.after = .builder (pressAfter b outcome) := by
  subst he
  simp only [Use.episode, Use.work, Session.onBuilder, Session.asBuilder, Work.run_map,
    Work.acts_map, Builder.build, stage, Work.screen, Work.run, Work.acts]
  rcases Session.passed_cases (helpers.scan scans doc) with
    ⟨hclean, hpassed⟩ | ⟨hunclean, fault, hpassed⟩
  · rw [hpassed, hclean]
    simp only [Work.run, Work.acts]
    refine .inr ⟨helpers.press (scans + 1) (b.request doc options), ?_⟩
    rcases helpers.press (scans + 1) (b.request doc options) with (refusal | card) | reason
    · exact ⟨rfl, rfl, rfl⟩
    · exact ⟨rfl, rfl, rfl⟩
    · exact ⟨rfl, rfl, rfl⟩
  · rw [hpassed]
    exact .inl ⟨_, fault, rfl, hunclean, rfl, rfl⟩

end Gathering

/-! ## Before the card is made -/

section Early

variable (unmade : ∀ p ∈ past, ∀ card, ¬ p.Makes card) (untouched : given past = [])
  {helpers : Helpers} {scans : Nat}

include unmade

/-- As long as no card is made there is nothing else to keep to. -/
theorem follows_of_early {held : List Episode} (early : e.Early d name held)
    (asked : ∀ r outcome, .pressed r outcome ∈ e.acts →
      ∃ options, e.use = .build options ∧ r = Episode.request d name held options)
    (told : ∀ options, e.use = .build options →
      ((∃ result, e.result = .ok result) ↔ ∃ card, e.Makes card)) :
    e.Follows d name held past where
  asked := asked
  told := told
  once _ _ p hp other := unmade p hp other
  early _ := early
  late p hp card makes := absurd makes (unmade p hp card)

/-- Where the renderer is asked for nothing, nobody may be told that a card is made. -/
theorem follows_of_onlyScans {held : List Episode} (early : e.Early d name held)
    (scanned : e.OnlyScans)
    (told : ∀ options, e.use = .build options → ∃ fault, e.result = .error fault) :
    e.Follows d name held past := by
  refine follows_of_early unmade early (fun r outcome h => absurd h (scanned.not_pressed r outcome)) ?_
  intro options huse
  obtain ⟨fault, hfault⟩ := told options huse
  rw [hfault]
  constructor
  · rintro ⟨result, ⟨⟩⟩
  · rintro ⟨card, makes⟩
    exact absurd makes (scanned.not_makes card)

include untouched

/-- A builder that has what it was brought. -/
theorem Holds.taken (here : ∀ card, ¬ e.Makes card) (none : e.given? = .none)
    (hafter : e.after = .builder (brought d name (past ++ [e]))) :
    Holds d name (past ++ [e]) e.after := by
  rw [hafter]
  exact .gathering (unmade_append unmade here) ((given_append_of_none none).trans untouched)

theorem early_appendDocument {part : Bytes}
    (he : e = (Use.appendDocument part).episode helpers scans (.builder (brought d name past))) :
    Keeps d name past e := by
  have huse : e.use = .appendDocument part := by rw [he]; rfl
  have scanned : e.OnlyScans := .of_nil (by rw [he]; rfl)
  have hresult : e.result = .ok .nothing := by rw [he]; rfl
  have hafter : e.after = .builder (brought d name (past ++ [e])) := by
    have hsigned : e.signed? = none := by rw [he]; rfl
    have htaken : e.taken? = some part := by rw [he]; rfl
    rw [brought_append d name past scanned.not_brokeDown, hsigned, htaken, Option.toList_none,
      List.append_nil, he]
    rfl
  constructor
  · refine follows_of_onlyScans unmade ⟨fun _ _ => hresult, ?_, ?_, ?_⟩ scanned ?_ <;>
      simp [huse]
  · refine Holds.taken unmade untouched scanned.not_makes ?_ hafter
    rw [he]
    rfl

theorem early_appendSignature {signature : Card.Signature}
    (he : e = (Use.appendSignature signature).episode helpers scans
      (.builder (brought d name past))) :
    Keeps d name past e := by
  have huse : e.use = .appendSignature signature := by rw [he]; rfl
  obtain ⟨said, hacts, hcases⟩ := episode_appendSignature rfl he
  have scanned : e.OnlyScans := .of_singleton hacts
  constructor
  · refine follows_of_onlyScans unmade ⟨?_, ?_, ?_, ?_⟩ scanned ?_ <;> simp only [huse]
    case refine_2 =>
      rintro _ ⟨⟩
      refine ⟨said, hacts, ?_⟩
      rcases hcases with ⟨hclean, hresult, -⟩ | ⟨hunclean, hfault, -⟩
      · rwa [if_pos hclean]
      · rwa [if_neg hunclean]
    all_goals nofun
  · rcases hcases with ⟨-, hresult, hafter⟩ | ⟨-, ⟨fault, hfault⟩, hafter⟩
    · refine Holds.taken unmade untouched scanned.not_makes ?_ ?_
      · rw [Episode.given?, Episode.gain_of_ok hresult, huse]
      · rw [hafter, brought_append d name past scanned.not_brokeDown, Episode.signed?,
          Episode.taken?, Episode.gain_of_ok hresult, Episode.gain_of_ok hresult, huse]
        simp [brought]
    · rw [hafter]
      exact (Holds.gathering unmade untouched).of_error scanned.not_brokeDown hfault
        scanned.not_makes

/-- What a renderer leaves behind when it is through is what the past then tells. -/
theorem holds_of_pressed {doc : Bytes} {r : Card.Request} {outcome : Pressed} {options : Card.Options}
    (huse : e.use = .build options) (hacts : e.acts = [.foundClean doc, .pressed r outcome])
    (hresult : e.result = Episode.pressResult outcome)
    (hafter : e.after = .builder (pressAfter (brought d name past) outcome)) :
    Holds d name (past ++ [e]) e.after := by
  have hmakes (card : Bytes) : e.Makes card ↔ outcome = .finished (.ok card) := by
    simp [Episode.Makes, hacts, eq_comm]
  rw [hafter]
  rcases outcome with (refusal | card) | reason
  · have sound : e.brokeDown = false := by rw [Episode.brokeDown, hacts]; rfl
    exact (Holds.gathering unmade untouched).of_error sound hresult (by simp [hmakes])
  · refine .built _ _ card ⟨⟨e, by simp, (hmakes card).mpr rfl⟩, ?_⟩ ?_
    · rw [List.forall_mem_append, List.forall_mem_singleton]
      refine ⟨fun p hp other h => absurd h (unmade p hp other), fun other h => ?_⟩
      exact (Except.ok.inj (Session.Outcome.finished.inj ((hmakes other).mp h))).symm
    · have hnone : e.given? = none := by rw [Episode.given?, Episode.gain_of_ok hresult, huse]
      rw [given_append_of_none hnone, untouched]
      rfl
  · have broken : e.brokeDown = true := by rw [Episode.brokeDown, hacts]; rfl
    have hnone : e.given? = none := Episode.gain_of_error hresult _
    rw [pressAfter, ← brought_append_of_brokeDown d name past broken]
    exact .gathering (unmade_append unmade (by simp [hmakes]))
      ((given_append_of_none hnone).trans untouched)

theorem early_build {options : Card.Options}
    (he : e = (Use.build options).episode helpers scans (.builder (brought d name past))) :
    Keeps d name past e := by
  have huse : e.use = .build options := by rw [he]; rfl
  have early (h : ∀ options, e.use = .build options → _) :
      e.Early (kept d past) name (recent past) :=
    ⟨by simp [huse], by simp [huse], h, by simp [huse]⟩
  rcases episode_build rfl he with
    ⟨said, fault, hacts, hunclean, hresult, hafter⟩ | ⟨outcome, hacts, hresult, hafter⟩
  · have scanned : e.OnlyScans := .of_singleton hacts
    constructor
    · refine follows_of_onlyScans unmade (early ?_) scanned fun _ _ => ⟨fault, hresult⟩
      intro _ _
      exact .inl ⟨said, fault, hacts, hunclean, hresult⟩
    · rw [hafter]
      exact (Holds.gathering unmade untouched).of_error scanned.not_brokeDown hresult
        scanned.not_makes
  · constructor
    · refine follows_of_early unmade (early fun o h => ?_) (fun r answer hr => ?_) fun _ _ => ?_
      · obtain rfl := Use.build.inj (huse.symm.trans h)
        exact .inr ⟨outcome, hacts, hresult⟩
      · simp only [hacts, List.mem_cons, reduceCtorEq, false_or, Act.pressed.injEq,
          List.not_mem_nil, or_false] at hr
        exact ⟨options, huse, hr.1⟩
      · rcases outcome with (refusal | card) | reason <;>
          simp [hresult, hacts, Episode.Makes, Episode.pressResult]
    · exact holds_of_pressed unmade untouched huse hacts hresult hafter

/-- A use that is of no concern to a builder without a card. -/
theorem early_idle (append : ∀ part, e.use ≠ .appendDocument part)
    (sign : ∀ signature, e.use ≠ .appendSignature signature)
    (build : ∀ options, e.use ≠ .build options)
    (get : ∀ size, e.use = .cardPart size → e.result = .error (.stage .notBuilt))
    (hacts : e.acts = []) (hresult : e.result = .error fault)
    (hafter : e.after = .builder (brought d name past)) :
    Keeps d name past e := by
  have scanned : e.OnlyScans := .of_nil hacts
  constructor
  · refine follows_of_onlyScans unmade ⟨?_, ?_, ?_, get⟩ scanned fun _ _ => ⟨fault, hresult⟩
    · exact fun part h => absurd h (append part)
    · exact fun signature h => absurd h (sign signature)
    · exact fun options h => absurd h (build options)
  · rw [hafter]
    exact (Holds.gathering unmade untouched).of_error scanned.not_brokeDown hresult
      scanned.not_makes

/-- A builder that has made no card keeps to its course, and the past goes on to tell the truth. -/
theorem early_gathering {u : Use}
    (he : e = u.episode helpers scans (.builder (brought d name past))) :
    Keeps d name past e := by
  cases u with
  | appendDocument part => exact early_appendDocument unmade untouched he
  | appendSignature signature => exact early_appendSignature unmade untouched he
  | build options => exact early_build unmade untouched he
  | _ =>
      subst he
      exact early_idle unmade untouched nofun nofun nofun (fun _ h => by cases h <;> rfl) rfl rfl rfl

end Early

/-! ## After the card is made -/

section Late

variable {helpers : Helpers} {scans : Nat} {descriptor : Card.Descriptor} {reader : PartReader}

/-- A part of the card is the reader's business alone. -/
theorem work_cardPart (descriptor : Card.Descriptor) (name : String) (reader : PartReader)
    (size : Int) :
    (Use.cardPart size).work (.builder ⟨descriptor, name, .built reader⟩)
      = match reader.next size.toNat with
        | .ok (part, next) =>
            .done (.builder ⟨descriptor, name, .built next⟩) (.ok (.part part))
        | .error fault =>
            .done (.builder ⟨descriptor, name, .built reader⟩) (.error fault) := by
  simp only [Use.work, Session.onBuilder, Session.asBuilder, Use.atOnce, Builder.next]
  cases reader.next size.toNat with
  | error fault => rfl
  | ok given => rfl

section Card

variable {card : Bytes} (made : Made past card)

include made

/-- After its card is made a builder makes no other, and nothing but the card is to be had. -/
theorem follows_of_late {held : List Episode} (late : e.Late card past) (scanned : e.OnlyScans) :
    e.Follows d name held past := by
  obtain ⟨⟨p, hp, hmakes⟩, only⟩ := made
  refine ⟨fun r outcome h => absurd h (scanned.not_pressed r outcome), fun options huse => ?_,
    ?_, ?_, ?_⟩
  · rw [late.build options huse]
    simp [scanned.not_makes]
  · exact fun other h => absurd h (scanned.not_makes other)
  · exact fun unmade => absurd hmakes (unmade p hp card)
  · intro q hq other h
    rwa [only q hq other h]

variable (left : given past ++ reader.rest = card)

include left

/-- A use that fails leaves the card as it is. -/
theorem late_of_error (late : e.Late card past) (hacts : e.acts = [])
    (hresult : e.result = .error fault)
    (hafter : e.after = .builder ⟨descriptor, name, .built reader⟩) : Keeps d name past e := by
  have scanned : e.OnlyScans := .of_nil hacts
  refine ⟨follows_of_late made late scanned, ?_⟩
  rw [hafter]
  exact (Holds.built descriptor reader card made left).of_error scanned.not_brokeDown hresult
    scanned.not_makes

theorem late_cardPart {size : Int}
    (he : e = (Use.cardPart size).episode helpers scans
      (.builder ⟨descriptor, name, .built reader⟩)) :
    Keeps d name past e := by
  have huse : e.use = .cardPart size := by rw [he]; rfl
  have late (refused : size ≤ 0 → e.result = .error .partSize)
      (get : 0 < size → ∃ part, e.result = .ok (.part part) ∧ given past ++ part.bytes <+: card ∧
        (part.final = true ↔ given past ++ part.bytes = card)) : e.Late card past := by
    refine ⟨by simp [huse], by simp [huse], by simp [huse], fun asked h => ?_, fun asked h => ?_⟩
    · obtain rfl := Use.cardPart.inj (huse.symm.trans h)
      exact refused
    · obtain rfl := Use.cardPart.inj (huse.symm.trans h)
      exact get
  by_cases pos : 0 < size
  · have hsize : 0 < size.toNat := by omega
    obtain ⟨part, next, hnext⟩ : ∃ part next, reader.next size.toNat = .ok (part, next) := by
      obtain ⟨next, hnext, -⟩ := reader.next_of_pos hsize
      exact ⟨_, next, hnext⟩
    obtain ⟨hacts, hresult, hafter⟩ : e.acts = [] ∧ e.result = .ok (.part part) ∧
        e.after = .builder ⟨descriptor, name, .built next⟩ := by
      simp only [he, Use.episode, work_cardPart, hnext, Work.run, Work.acts, and_self]
    obtain ⟨hwhole, hfront, hfinal⟩ := PartReader.next_prolongs hnext left
    have scanned : e.OnlyScans := .of_nil hacts
    constructor
    · refine follows_of_late made (late (by omega) fun _ => ?_) scanned
      exact ⟨part, hresult, hfront, hfinal⟩
    · rw [hafter]
      refine .built descriptor next card (made.append scanned.not_makes) ?_
      have hgiven : e.given? = some part.bytes := by
        rw [Episode.given?, Episode.gain_of_ok hresult, huse]
      rw [Episode.given_append, hgiven]
      exact hwhole
  · have hnext : reader.next size.toNat = .error .partSize := by
      rw [show size.toNat = 0 by omega, PartReader.next_zero]
    obtain ⟨hacts, hresult, hafter⟩ : e.acts = [] ∧ e.result = .error .partSize ∧
        e.after = .builder ⟨descriptor, name, .built reader⟩ := by
      simp only [he, Use.episode, work_cardPart, hnext, Work.run, Work.acts, and_self]
    exact late_of_error made left (late (fun _ => hresult) (by omega)) hacts hresult hafter

/-- A builder that has made its card keeps to its course, and the past goes on to tell the truth. -/
theorem late_built {u : Use}
    (he : e = u.episode helpers scans (.builder ⟨descriptor, name, .built reader⟩)) :
    Keeps d name past e := by
  cases u with
  | cardPart size => exact late_cardPart made left he
  | _ =>
      subst he
      refine late_of_error made left ⟨?_, ?_, ?_, nofun, nofun⟩ rfl rfl rfl <;>
        (intro _ h; cases h <;> rfl)

end Card

end Late

/-- A builder keeps to its course, and the past goes on to tell the truth. -/
theorem keeps (helpers : Helpers) (scans : Nat) (holds : Holds d name past s) (u : Use) :
    Keeps d name past (u.episode helpers scans s) := by
  cases holds with
  | gathering unmade untouched => exact early_gathering unmade untouched rfl
  | built descriptor reader card made left => exact late_built made left rfl

end Steps

/-- A builder keeps to its course, whatever is asked of it, in whatever order and however often.

Every episode is as it ought to be after those before it (`Episode.Follows`).  Whenever the renderer is asked
for a card, it is for the card of all that the builder has, as it came, with the options of the one who
asks.  One card is made at most.  Before it is made, parts of the document and clean signatures are taken
in, and there is nothing to be had; afterwards nothing is taken in and no other card is made, whatever the
outcome of the uses before.  What has been handed out of the card is then its front, and the part that is
final completes it.

Scanner and renderer may change their minds from one time to the next.  What the builder has is all that was
taken in, as long as no renderer breaks down; from then on it has what is taken in afterwards, and of the
descriptor nothing. -/
theorem builder_follows_course (helpers : Helpers) (d : Card.Descriptor) (name : String) (scans : Nat)
    (uses : List Use) :
    let episodes := history helpers scans (.builder (.start d name)) uses
    Throughout (fun past e => e.Follows (kept d past) name (recent past) past) episodes ∧
      Throughout (fun past e => (∀ p ∈ past, p.brokeDown = false) → e.Follows d name past past)
        episodes := by
  intro episodes
  have start : Holds d name [] (.builder (.start d name)) :=
    .gathering (fun _ h => absurd h List.not_mem_nil) rfl
  have course : Throughout (fun past e => e.Follows (kept d past) name (recent past) past) episodes :=
    throughout_history (fun past s u n (holds : Holds d name past s) => keeps helpers n holds u) start
      scans uses
  refine ⟨course, fun past e later h whole => ?_⟩
  have follows : e.Follows (kept d past) name (recent past) past := course past e later h
  rwa [Episode.kept_eq_self whole, Episode.recent_eq_self whole] at follows

namespace Lapse

/-- What is told of a document. -/
def descriptor : Card.Descriptor := { title := "T" }

/-- A signature. -/
def signature : Card.Signature := { body := [9], fileName := "s" }

/-- Helpers whose renderer breaks down once. -/
def helpers : Helpers where
  scan _ _ := .ok .clean
  press before _ := if before = 2 then .crashed "out of memory" else .finished (.ok [5, 5])
  unpack _ _ := .crashed "out of memory"

/-- What happens until the renderer breaks down. -/
def past : List Episode :=
  history helpers 0 (.builder (.start descriptor "a.txt"))
    [.appendDocument [1, 2, 3], .appendSignature signature]

/-- The builder has the document and the signature, and the renderer breaks down. -/
def lapse : Episode :=
  (Use.build {}).episode helpers 1
    (.builder ⟨{ descriptor with signatures := [signature] }, "a.txt", .gathering [1, 2, 3]⟩)

/-- The card is asked for again. -/
def retry : Episode := (Use.build {}).episode helpers 2 (.builder ⟨{}, "a.txt", .gathering []⟩)

/-- The card is taken away. -/
def download : Episode :=
  (Use.cardPart 9).episode helpers 3 (.builder ⟨{}, "a.txt", .built (.ofFile [5, 5])⟩)

/-- A card is asked for twice, and then taken away. -/
def uses : List Use :=
  [.appendDocument [1, 2, 3], .appendSignature signature, .build {}, .build {}, .cardPart 9]

theorem history_uses : history helpers 0 (.builder (.start descriptor "a.txt")) uses
    = past ++ [lapse, retry, download] := rfl

end Lapse

/-- Until the renderer breaks down it is asked for the card of all that was taken in; and the card that it
makes later can be had, whatever it is the card of. -/
theorem builder_follows_course_lapse :
    (∃ options, Episode.request Lapse.descriptor "a.txt" Lapse.past options
      = ⟨{ Lapse.descriptor with signatures := [Lapse.signature] }, [1, 2, 3], "a.txt", {}⟩) ∧
    ∃ part, Lapse.download.result = .ok (.part part) ∧ part.bytes <+: [5, 5] ∧
      (part.final = true ↔ part.bytes = [5, 5]) := by
  obtain ⟨course, whole⟩ :=
    builder_follows_course Lapse.helpers Lapse.descriptor "a.txt" 0 Lapse.uses
  constructor
  · have follows := whole Lapse.past Lapse.lapse _ Lapse.history_uses (by decide)
    obtain ⟨options, -, hr⟩ := follows.asked _ (.crashed "out of memory") (.tail _ (.head _))
    exact ⟨options, hr.symm⟩
  · have follows := course (Lapse.past ++ [Lapse.lapse, Lapse.retry]) Lapse.download [] rfl
    have makes : Lapse.retry.Makes [5, 5] := ⟨_, .tail _ (.head _)⟩
    exact (follows.late Lapse.retry (by simp) [5, 5] makes).get 9 rfl (by decide)

/-- After a renderer has broken down the next one is asked for the card of nothing, though a document, a
signature and a title were brought and taken in. -/
theorem lapse_empties_next_request :
    Lapse.retry.acts = [.foundClean [], .pressed ⟨{}, [], "a.txt", {}⟩ (.finished (.ok [5, 5]))] ∧
      document (Lapse.past ++ [Lapse.lapse]) = [1, 2, 3] ∧
      signatures (Lapse.past ++ [Lapse.lapse]) = [Lapse.signature] ∧
      ¬ Throughout
        (fun past e => ∀ r outcome, .pressed r outcome ∈ e.acts →
          ∃ options, r = Episode.request Lapse.descriptor "a.txt" past options)
        (history Lapse.helpers 0 (.builder (.start Lapse.descriptor "a.txt")) Lapse.uses) := by
  have hacts : Lapse.retry.acts
      = [.foundClean [], .pressed ⟨{}, [], "a.txt", {}⟩ (.finished (.ok [5, 5]))] := rfl
  refine ⟨hacts, rfl, rfl, fun asked => ?_⟩
  have hretry := asked (Lapse.past ++ [Lapse.lapse]) Lapse.retry [Lapse.download] rfl
  obtain ⟨options, hr⟩ := hretry ⟨{}, [], "a.txt", {}⟩ (.finished (.ok [5, 5])) (by simp [hacts])
  have hdocument : [] = document (Lapse.past ++ [Lapse.lapse]) := congrArg Card.Request.document hr
  exact absurd hdocument (by decide)

end DocumentCard.Rpc
