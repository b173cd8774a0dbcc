import DocumentCard.Proofs.Rpc.Course
set_option autoImplicit false

/-!
# Tasks that break down

While a card is made or opened, the session has handed what it gathered to the task, and holds nothing.  When
the task comes back with a fault, and when something turns out not to be clean, everything is put back.  When
the task breaks down the use fails with the reason, but nothing is put back: the session goes on as if it had
gathered nothing, and whoever tries again has an empty document made into a card, or an empty card opened,
without a word about it.

That work ends so is a matter of its shape (`Work.PutsBack`), like that it fails closed: each use of a session
has the shape (`Use.putsBack`), and what it means for a run is said once (`Work.PutsBack.run`).

Main statement: a task that breaks down loses what was handed to it, and nothing else loses anything
(`breakdown_loses_what_was_gathered`).
-/

namespace DocumentCard.Session

open Antivirus (Scan)

/-- The reason for which a task broke down. -/
def Act.brokeDown? : Act → Option String
  | .pressed _ (.crashed reason) | .unpacked _ (.crashed reason) => some reason
  | _ => none

/-- No task is handed anything but an empty document of which nothing is told, or an empty card. -/
def Act.HandsNothing : Act → Prop
  | .scanned _ _ => True
  | .pressed request _ => request.descriptor = {} ∧ request.document = []
  | .unpacked card _ => card = []

/-- What a session is during a task: a builder keeps the name of its document, and an extractor nothing. -/
def emptied : Session → Session
  | .builder b => .builder b.emptied
  | .extractor _ => .extractor .start

/-- The session has gathered nothing, and knows nothing about the document. -/
def IsBlank : Session → Prop
  | .builder b => b.descriptor = {} ∧ b.stage = .gathering []
  | .extractor e => e = .gathering []

/-- That a task of the session broke down. -/
def breakdown : Session → String → Fault
  | .builder _ => Builder.crashed
  | .extractor _ => Extractor.crashed

/-- Only a session that has nothing loses nothing. -/
theorem emptied_eq_self_iff (s : Session) : s.emptied = s ↔ s.IsBlank := by
  rcases s with ⟨descriptor, fileName, stage⟩ | e
  · simp only [emptied, Builder.emptied, IsBlank, builder.injEq, Builder.mk.injEq, true_and,
      eq_comm (a := descriptor), eq_comm (a := stage)]
  · simp only [emptied, Extractor.start, IsBlank, extractor.injEq, eq_comm]

/-! ## Work that puts everything back -/

namespace Work

variable {σ τ α β : Type}

/-- Work that leaves `kept` behind when it fails; but when a task breaks down it ends at once, leaves `lost`
behind, and tells the reason. -/
inductive PutsBack (kept lost : σ) (told : String → Fault) : Work σ (Except Fault α) → Prop where
  | succeeds (after : σ) (result : α) : PutsBack kept lost told (.done after (.ok result))
  | fails (fault : Fault) : PutsBack kept lost told (.done kept (.error fault))
  | scan {state : σ} {data : Bytes} {next : Scan → Work σ (Except Fault α)}
      (goesOn : ∀ said, PutsBack kept lost told (next said)) :
      PutsBack kept lost told (.scan state data next)
  | press {state : σ} {request : Card.Request} {next : Pressed → Work σ (Except Fault α)}
      (ends : ∀ reason, next (.crashed reason) = .done lost (.error (told reason)))
      (goesOn : ∀ result, PutsBack kept lost told (next (.finished result))) :
      PutsBack kept lost told (.press state request next)
  | unpack {state : σ} {card : Bytes} {next : Unpacked → Work σ (Except Fault α)}
      (ends : ∀ reason, next (.crashed reason) = .done lost (.error (told reason)))
      (goesOn : ∀ result, PutsBack kept lost told (next (.finished result))) :
      PutsBack kept lost told (.unpack state card next)

section Shapes

variable {kept lost : σ} {told : String → Fault}

theorem PutsBack.map {w : Work σ (Except Fault α)} (h : w.PutsBack kept lost told) (f : σ → τ)
    (g : α → β) : (w.map f (Except.map g)).PutsBack (f kept) (f lost) told := by
  induction h with
  | succeeds after result => exact .succeeds _ _
  | fails fault => exact .fails fault
  | scan goesOn ih => exact .scan ih
  | press ends goesOn ih => exact .press (fun reason => by rw [ends reason]; rfl) ih
  | unpack ends goesOn ih => exact .unpack (fun reason => by rw [ends reason]; rfl) ih

theorem putsBack_atOnce (state : σ) (outcome : Except Fault (α × σ)) :
    (atOnce state outcome).PutsBack state lost told := by
  cases outcome with
  | ok gained => exact .succeeds gained.2 gained.1
  | error fault => exact .fails fault

theorem putsBack_screen {state : σ} {data : Bytes}
    {next : Except Fault Unit → Work σ (Except Fault α)}
    (goesOn : ∀ result, (next result).PutsBack kept lost told) :
    (screen state data next).PutsBack kept lost told :=
  .scan fun said => goesOn (passed said)

theorem putsBack_screenAll {state : σ} {next : Except Fault Unit → Work σ (Except Fault α)}
    (goesOn : ∀ result, (next result).PutsBack kept lost told) (files : List Card.Attachment) :
    (Extractor.screenAll state next files).PutsBack kept lost told := by
  induction files with
  | nil => exact goesOn (.ok ())
  | cons file rest ih =>
      refine putsBack_screen fun result => ?_
      cases result with
      | ok => exact ih
      | error fault => exact goesOn (.error fault)

/-- What such work leaves behind: `lost` if a task broke down, and `kept` if it failed otherwise. -/
theorem PutsBack.run {w : Work σ (Except Fault α)} (h : w.PutsBack kept lost told)
    (helpers : Helpers) (scans : Nat) :
    (∀ act ∈ w.acts helpers scans, ∀ reason, act.brokeDown? = some reason →
      (w.run helpers scans).result = .error (told reason) ∧
        (w.run helpers scans).state = lost) ∧
    ((∀ act ∈ w.acts helpers scans, act.brokeDown? = none) →
      ∀ fault, (w.run helpers scans).result = .error fault → (w.run helpers scans).state = kept) := by
  induction h generalizing scans with
  | succeeds after result => simp [acts, Work.run]
  | fails fault => simp [acts, Work.run]
  | @scan state data next goesOn ih =>
      simpa [acts, Work.run, Act.brokeDown?] using ih (helpers.scan scans data) (scans + 1)
  | @press state request next ends goesOn ih =>
      cases hpressed : helpers.press scans request with
      | crashed reason => simp [acts, Work.run, Act.brokeDown?, hpressed, ends reason]
      | finished result => simpa [acts, Work.run, Act.brokeDown?, hpressed] using ih result scans
  | @unpack state card next ends goesOn ih =>
      cases hopened : helpers.unpack scans card with
      | crashed reason => simp [acts, Work.run, Act.brokeDown?, hopened, ends reason]
      | finished result => simpa [acts, Work.run, Act.brokeDown?, hopened] using ih result scans

end Shapes

end Work

theorem Builder.putsBack_sign (b : Builder) (signature : Card.Signature) (lost : Builder)
    (told : String → Fault) : (b.sign signature).PutsBack b lost told := by
  unfold sign
  split
  · exact .fails _
  · refine Work.putsBack_screen fun result => ?_
    cases result with
    | ok => exact .succeeds _ _
    | error fault => exact .fails fault

theorem Builder.putsBack_build (b : Builder) (options : Card.Options) :
    (b.build options).PutsBack b b.emptied crashed := by
  unfold build
  split
  · exact .fails _
  · refine Work.putsBack_screen fun result => ?_
    cases result with
    | error fault => exact .fails fault
    | ok =>
        refine .press (fun _ => rfl) fun made => ?_
        cases made with
        | ok card => exact .succeeds _ _
        | error refusal => exact .fails _

theorem Extractor.putsBack_parse (e : Extractor) : e.parse.PutsBack e start crashed := by
  unfold parse
  split
  · exact .fails _
  · refine Work.putsBack_screen fun result => ?_
    cases result with
    | error fault => exact .fails fault
    | ok =>
        refine .unpack (fun _ => rfl) fun opened => ?_
        rcases opened with refusal | (_ | ⟨document, _ | ⟨first, others⟩⟩)
        · exact .fails _
        · exact .fails _
        · exact .fails _
        · refine Work.putsBack_screenAll (fun passed => ?_) _
          cases passed with
          | ok => exact .succeeds _ _
          | error fault => exact .fails fault

/-- What a builder's work puts back is put back as part of the work of a session. -/
theorem putsBack_onBuilder {α : Type} {work : Builder → Work Builder (Except Fault α)}
    (h : ∀ b, (work b).PutsBack b b.emptied Builder.crashed) (s : Session) :
    (s.onBuilder work).PutsBack s s.emptied s.breakdown := by
  cases s with
  | builder b =>
      have hmap := (h b).map builder id
      rwa [Except.map_id] at hmap
  | extractor e => exact .fails _

theorem putsBack_onExtractor {α : Type} {work : Extractor → Work Extractor (Except Fault α)}
    (h : ∀ e, (work e).PutsBack e .start Extractor.crashed) (s : Session) :
    (s.onExtractor work).PutsBack s s.emptied s.breakdown := by
  cases s with
  | builder b => exact .fails _
  | extractor e =>
      have hmap := (h e).map extractor id
      rwa [Except.map_id] at hmap

end DocumentCard.Session

namespace DocumentCard.Rpc

open Session (Act Builder Extractor Fault Helpers Work)

/-- Every use of a session puts back what it took, unless a task breaks down. -/
theorem Use.putsBack (u : Use) (s : Session) :
    (u.work s).PutsBack s s.emptied s.breakdown := by
  cases u with
  | appendDocument part =>
      exact Session.putsBack_onBuilder (fun b => (Work.putsBack_atOnce b _).map id _) s
  | appendSignature signature =>
      exact Session.putsBack_onBuilder (fun b => (b.putsBack_sign signature _ _).map id _) s
  | build options =>
      exact Session.putsBack_onBuilder (fun b => (b.putsBack_build options).map id _) s
  | cardPart size =>
      exact Session.putsBack_onBuilder (fun b => (Work.putsBack_atOnce b _).map id _) s
  | appendCard part =>
      exact Session.putsBack_onExtractor (fun e => (Work.putsBack_atOnce e _).map id _) s
  | parse => exact Session.putsBack_onExtractor (fun e => e.putsBack_parse.map id _) s
  | documentPart size fromStart =>
      exact Session.putsBack_onExtractor (fun e => (Work.putsBack_atOnce e _).map id _) s
  | nextSignature =>
      exact Session.putsBack_onExtractor (fun e => (Work.putsBack_atOnce e _).map id _) s

/-- A builder that was emptied asks for a card of nothing. -/
theorem Course.handsNothing_builder {b : Builder} {u : Use} {acts : List Act} {after : Session}
    {result : Except Fault Yield} (way : Course (.builder b.emptied) u acts after result) :
    ∀ act ∈ acts, act.HandsNothing := by
  have pressed {document : Bytes} (stage : b.emptied.stage = .gathering document)
      (options : Card.Options) (outcome : Session.Pressed) :
      ∀ act ∈ [Act.foundClean document, .pressed (b.emptied.request document options) outcome],
        act.HandsNothing := by
    obtain rfl : [] = document := Session.BuilderStage.gathering.inj stage
    exact List.forall_mem_cons.mpr ⟨trivial, List.forall_mem_singleton.mpr ⟨rfl, rfl⟩⟩
  cases way with
  | failed | appendedDocument | cardPart => exact List.forall_mem_nil _
  | unsigned | signed | unpressed => exact List.forall_mem_singleton.mpr trivial
  | pressCrashed _ _ options _ _ stage | pressRefused _ _ options _ _ stage
  | built _ _ options _ stage => exact pressed stage options _

/-- An extractor that was emptied has an empty card opened. -/
theorem Course.handsNothing_extractor {u : Use} {acts : List Act} {after : Session}
    {result : Except Fault Yield} (way : Course (.extractor (.gathering [])) u acts after result) :
    ∀ act ∈ acts, act.HandsNothing := by
  have scanned (files : List Card.Attachment) :
      ∀ act ∈ files.map fun f => Act.foundClean f.bytes, act.HandsNothing :=
    List.forall_mem_map.mpr fun _ _ => trivial
  cases way with
  | failed | appendedCard => exact List.forall_mem_nil _
  | unopened => exact List.forall_mem_singleton.mpr trivial
  | unpackCrashed | unpackRefused | tooFew =>
      exact List.forall_mem_cons.mpr ⟨trivial, List.forall_mem_singleton.mpr rfl⟩
  | unread _ files clean =>
      refine List.forall_mem_cons.mpr ⟨trivial, List.forall_mem_cons.mpr ⟨rfl, ?_⟩⟩
      exact List.forall_mem_append.mpr ⟨scanned clean, List.forall_mem_singleton.mpr trivial⟩
  | parsed _ document signatures =>
      exact List.forall_mem_cons.mpr
        ⟨trivial, List.forall_mem_cons.mpr ⟨rfl, scanned (document :: signatures)⟩⟩

/-- Whoever goes on with an emptied session has nothing made into a card, or nothing opened. -/
theorem Use.handsNothing (u : Use) (s : Session) (helpers : Helpers) (scans : Nat) :
    ∀ act ∈ (u.work s.emptied).acts helpers scans, act.HandsNothing := by
  have way := u.course helpers s.emptied scans
  cases s with
  | builder b => exact way.handsNothing_builder
  | extractor e => exact way.handsNothing_extractor

/-- A use for which a task breaks down fails with the reason.  What the session had gathered is lost, so that
it is what it was only if that was nothing, and no later use hands it to a task.  In every other case a use
that fails leaves the session as it was. -/
theorem breakdown_loses_what_was_gathered (helpers : Helpers) (s : Session) (u : Use) (scans : Nat) :
    (∀ act ∈ (u.work s).acts helpers scans, ∀ reason, act.brokeDown? = some reason →
      ((u.work s).run helpers scans).result = .error (s.breakdown reason) ∧
        ((u.work s).run helpers scans).state = s.emptied ∧
        (((u.work s).run helpers scans).state = s ↔ s.IsBlank) ∧
        ∀ (others : Helpers) (again : Use) (later : Nat),
          ∀ act ∈ (again.work ((u.work s).run helpers scans).state).acts others later,
            act.HandsNothing) ∧
    ((∀ act ∈ (u.work s).acts helpers scans, act.brokeDown? = none) →
      ∀ fault, ((u.work s).run helpers scans).result = .error fault →
        ((u.work s).run helpers scans).state = s) := by
  obtain ⟨broken, whole⟩ := (u.putsBack s).run helpers scans
  refine ⟨fun act hact reason hreason => ?_, whole⟩
  obtain ⟨hresult, hstate⟩ := broken act hact reason hreason
  refine ⟨hresult, hstate, ?_, fun others again later => ?_⟩
  · rw [hstate]
    exact s.emptied_eq_self_iff
  · rw [hstate]
    exact again.handsNothing s others later

namespace Breaking

/-- Helpers whose tasks break down, whatever they are handed. -/
def helpers : Helpers where
  scan _ _ := .ok .clean
  press _ _ := .crashed "out of memory"
  unpack _ _ := .crashed "out of memory"

/-- A builder with a title, a document and a signature. -/
def builder : Builder :=
  ⟨{ title := "T", signatures := [{ body := [9], fileName := "s" }] }, "a.txt", .gathering [1, 2, 3]⟩

/-- An extractor with a part of a card. -/
def extractor : Extractor := .gathering [1, 2, 3]

end Breaking

/-- Neither a builder nor an extractor is what it was before its task broke down. -/
theorem breakdown_changes_session :
    (Breaking.builder.build {}).run Breaking.helpers 0
        = ⟨⟨{}, "a.txt", .gathering []⟩, .error (Builder.crashed "out of memory"), 1⟩ ∧
      Breaking.builder ≠ ⟨{}, "a.txt", .gathering []⟩ ∧
      Breaking.extractor.parse.run Breaking.helpers 0
        = ⟨.gathering [], .error (Extractor.crashed "out of memory"), 1⟩ ∧
      Breaking.extractor ≠ .gathering [] :=
  ⟨rfl, by decide, rfl, by decide⟩

end DocumentCard.Rpc
