import DocumentCard.Main
import DocumentCard.Proofs.Card.Refusal
import DocumentCard.Proofs.Rpc.Envelope
set_option autoImplicit false

/-!
# Replies tell how a call went

A reply has a field for the text of a fault, and that it is empty means that there was none.  So no
fault may be without words.  Most kinds of faults bring words of their own; a card that is not made and
one that is not opened are told in the words of whoever tried (`Fault.told_ofRender`,
`Fault.told_ofExtract`), and these are never empty.  What a use of a session fails with is therefore told
in words (`Use.tells`).

Main statement: the fault's text is empty if and only if the call has come to something, and when it is
not, nothing else stands in the reply (`replies_tell_outcomes`).
-/

namespace DocumentCard.Session

/-- Helpers who make and open cards as the program does, if they do not break down.  What they say to a
scan is up to them. -/
structure Helpers.Genuine (helpers : Helpers) : Prop where
  press : ∀ before request, (∃ reason, helpers.press before request = .crashed reason) ∨
    ∃ created, helpers.press before request = .finished (request.press created)
  unpack : ∀ before card, (∃ reason, helpers.unpack before card = .crashed reason) ∨
    helpers.unpack before card = .finished (Card.Attachments.ofFile card)

/-! ## Faults are told in words -/

namespace Fault

/-- The fault is told in words. -/
def Told (fault : Fault) : Prop := fault.message ≠ ""

theorem told_stage (fault : StageFault) : (Fault.stage fault).Told := by
  unfold Told
  cases fault <;> decide

theorem told_notClean (detail : String) : (Fault.notClean detail).Told :=
  append_ne_empty (append_ne_empty (by decide) detail) "'"

theorem told_notScanned (detail : String) : (Fault.notScanned detail).Told :=
  append_ne_empty (by decide) detail

theorem told_internal (detail : String) : (Fault.internal detail).Told :=
  append_ne_empty (by decide) detail

theorem told_partSize : partSize.Told := by
  unfold Told
  decide

theorem told_tooFew (count : Nat) : (Extractor.tooFew count).Told := by
  have hstart : "PDF contains less than " ++ decimalText Card.leastAttachments ≠ "" :=
    append_ne_empty (by decide) _
  exact append_ne_empty (append_ne_empty (append_ne_empty hstart _) _) ")"

theorem told_ofRender {fault : Card.Fault} (h : fault.message ≠ "") : (Fault.ofRender fault).Told := by
  cases fault <;> exact h

theorem told_ofExtract {fault : Card.Fault} (h : fault.message ≠ "") : (Fault.ofExtract fault).Told := h

end Fault

theorem failsOnly_passed (said : Antivirus.Scan) : FailsOnly Fault.Told (passed said) := by
  rcases said with fault | (_ | reply)
  · exact failsOnly_error (Fault.told_notScanned _)
  · exact failsOnly_ok ()
  · exact failsOnly_error (Fault.told_notClean reply)

theorem PartReader.failsOnly_next (r : PartReader) (max : Nat) : FailsOnly Fault.Told (r.next max) := by
  unfold next
  split
  · exact failsOnly_error Fault.told_partSize
  · exact failsOnly_ok _

namespace Builder

variable (b : Builder)

theorem failsOnly_append (part : Bytes) : FailsOnly Fault.Told (b.append part) := by
  unfold append
  cases b.stage with
  | gathering document => exact failsOnly_ok _
  | built card => exact failsOnly_error (Fault.told_stage _)

theorem failsOnly_next (max : Nat) : FailsOnly Fault.Told (b.next max) := by
  unfold next
  cases b.stage with
  | gathering document => exact failsOnly_error (Fault.told_stage _)
  | built card => exact (card.failsOnly_next max).bind fun part => failsOnly_ok _

end Builder

namespace Extractor

variable (e : Extractor)

theorem failsOnly_append (part : Bytes) : FailsOnly Fault.Told (e.append part) := by
  cases e with
  | gathering card => exact failsOnly_ok _
  | parsed name document signatures => exact failsOnly_error (Fault.told_stage _)

theorem failsOnly_nextPart (max : Nat) (fromStart : Bool) :
    FailsOnly Fault.Told (e.nextPart max fromStart) := by
  cases e with
  | gathering card => exact failsOnly_error (Fault.told_stage _)
  | parsed name document signatures =>
      exact (PartReader.failsOnly_next _ max).bind fun part => failsOnly_ok _

theorem failsOnly_nextSignature : FailsOnly Fault.Told e.nextSignature := by
  rcases e with card | ⟨name, document, _ | ⟨signature, rest⟩⟩
  · exact failsOnly_error (Fault.told_stage _)
  · exact failsOnly_error (by decide : Fault.noMoreSignatures.message ≠ "")
  · exact failsOnly_ok _

end Extractor

/-! ## Work that fails is told in words -/

namespace Work

variable {σ τ α β : Type} {helpers : Helpers}

/-- However many scans were made before, what the work fails with is told in words. -/
def Tells (helpers : Helpers) (w : Work σ (Except Fault α)) : Prop :=
  ∀ scans, FailsOnly Fault.Told (w.run helpers scans).result

theorem tells_done (state : σ) {result : Except Fault α} (h : FailsOnly Fault.Told result) :
    (done state result).Tells helpers := fun _ => h

theorem tells_atOnce (state : σ) {outcome : Except Fault (α × σ)} (h : FailsOnly Fault.Told outcome) :
    (atOnce state outcome).Tells helpers := by
  cases outcome with
  | error fault => exact tells_done state (failsOnly_error (h fault rfl))
  | ok after => exact tells_done after.2 (failsOnly_ok after.1)

theorem Tells.map {w : Work σ (Except Fault α)} (h : w.Tells helpers) (f : σ → τ)
    {g : Except Fault α → Except Fault β}
    (keeps : ∀ result, FailsOnly Fault.Told result → FailsOnly Fault.Told (g result)) :
    (w.map f g).Tells helpers := by
  intro scans
  rw [run_map]
  exact keeps _ (h scans)

theorem tells_screen (state : σ) (data : Bytes) {next : Except Fault Unit → Work σ (Except Fault α)}
    (h : ∀ result, FailsOnly Fault.Told result → (next result).Tells helpers) :
    (screen state data next).Tells helpers :=
  fun scans => h _ (failsOnly_passed (helpers.scan scans data)) (scans + 1)

theorem tells_screenAll (state : σ) {next : Except Fault Unit → Work σ (Except Fault α)}
    (h : ∀ result, FailsOnly Fault.Told result → (next result).Tells helpers)
    (files : List Card.Attachment) : (Extractor.screenAll state next files).Tells helpers := by
  induction files with
  | nil => exact h _ (failsOnly_ok ())
  | cons file rest ih =>
      refine tells_screen state file.bytes fun result hresult => ?_
      cases result with
      | error fault => exact h _ hresult
      | ok _ => exact ih

theorem tells_press (genuine : helpers.Genuine) (state : σ) (request : Card.Request)
    {next : Pressed → Work σ (Except Fault α)}
    (crashed : ∀ reason, (next (.crashed reason)).Tells helpers)
    (finished : ∀ result, FailsOnly (fun fault => fault.message ≠ "") result →
      (next (.finished result)).Tells helpers) :
    (press state request next).Tells helpers := by
  intro scans
  rcases genuine.press scans request with ⟨reason, hpress⟩ | ⟨created, hpress⟩
  · rw [run, hpress]
    exact crashed reason scans
  · rw [run, hpress]
    exact finished _ (fun fault => Card.Request.message_ne_empty_of_press) scans

theorem tells_unpack (genuine : helpers.Genuine) (state : σ) (card : Bytes)
    {next : Unpacked → Work σ (Except Fault α)}
    (crashed : ∀ reason, (next (.crashed reason)).Tells helpers)
    (finished : ∀ result, FailsOnly (fun fault => fault.message ≠ "") result →
      (next (.finished result)).Tells helpers) :
    (unpack state card next).Tells helpers := by
  intro scans
  rcases genuine.unpack scans card with ⟨reason, hunpack⟩ | hunpack
  · rw [run, hunpack]
    exact crashed reason scans
  · rw [run, hunpack]
    exact finished _ (fun fault => Card.Attachments.message_ne_empty_of_ofFile) scans

end Work

end DocumentCard.Session

namespace DocumentCard.Rpc

open Json (Value)
open Session (Builder Extractor Fault Helpers Work)

section Uses

variable {helpers : Helpers}

theorem Use.told_fault? {u : Use} {fault : Fault} (h : u.fault? = some fault) : fault.Told := by
  unfold fault? at h
  split at h
  · split at h
    · obtain rfl := Option.some.inj h
      exact Fault.told_partSize
    · cases h
  · split at h
    · obtain rfl := Option.some.inj h
      exact Fault.told_partSize
    · cases h
  · cases h

theorem tells_sign (b : Builder) (signature : Card.Signature) : (b.sign signature).Tells helpers := by
  unfold Builder.sign
  cases b.stage with
  | built card => exact Work.tells_done b (failsOnly_error (Fault.told_stage _))
  | gathering document =>
      refine Work.tells_screen b signature.body fun result hresult => ?_
      cases result with
      | error fault => exact Work.tells_done b (failsOnly_error (hresult fault rfl))
      | ok _ => exact Work.tells_done _ (failsOnly_ok ())

theorem tells_build (genuine : helpers.Genuine) (b : Builder) (options : Card.Options) :
    (b.build options).Tells helpers := by
  unfold Builder.build
  cases b.stage with
  | built card => exact Work.tells_done b (failsOnly_error (Fault.told_stage _))
  | gathering document =>
      refine Work.tells_screen b document fun result hresult => ?_
      cases result with
      | error fault => exact Work.tells_done b (failsOnly_error (hresult fault rfl))
      | ok _ =>
          refine Work.tells_press genuine _ _ (fun reason => ?_) (fun made hmade => ?_)
          · exact Work.tells_done _ (failsOnly_error (Fault.told_internal _))
          · cases made with
            | error fault =>
                exact Work.tells_done b (failsOnly_error (Fault.told_ofRender (hmade fault rfl)))
            | ok card => exact Work.tells_done _ (failsOnly_ok card.length)

theorem tells_parse (genuine : helpers.Genuine) (e : Extractor) : e.parse.Tells helpers := by
  unfold Extractor.parse
  cases e with
  | parsed name document signatures => exact Work.tells_done _ (failsOnly_error (Fault.told_stage _))
  | gathering card =>
      refine Work.tells_screen _ card fun result hresult => ?_
      cases result with
      | error fault => exact Work.tells_done _ (failsOnly_error (hresult fault rfl))
      | ok _ =>
          refine Work.tells_unpack genuine _ _ (fun reason => ?_) (fun opened hopened => ?_)
          · exact Work.tells_done _ (failsOnly_error (Fault.told_internal _))
          · rcases opened with fault | (_ | ⟨document, _ | ⟨first, others⟩⟩)
            case error =>
              exact Work.tells_done _ (failsOnly_error (Fault.told_ofExtract (hopened fault rfl)))
            case ok.cons.cons =>
              refine Work.tells_screenAll _ (fun screened hscreened => ?_) _
              cases screened with
              | error fault => exact Work.tells_done _ (failsOnly_error (hscreened fault rfl))
              | ok _ => exact Work.tells_done _ (failsOnly_ok document.name)
            all_goals exact Work.tells_done _ (failsOnly_error (Fault.told_tooFew _))

theorem tells_onBuilder {α : Type} {work : Builder → Work Builder (Except Fault α)}
    (h : ∀ b, (work b).Tells helpers) (s : Session) : (s.onBuilder work).Tells helpers := by
  cases s with
  | builder b => exact (h b).map Session.builder fun result hresult => hresult
  | extractor e => exact Work.tells_done _ (failsOnly_error (Fault.told_internal _))

theorem tells_onExtractor {α : Type} {work : Extractor → Work Extractor (Except Fault α)}
    (h : ∀ e, (work e).Tells helpers) (s : Session) : (s.onExtractor work).Tells helpers := by
  cases s with
  | builder b => exact Work.tells_done _ (failsOnly_error (Fault.told_internal _))
  | extractor e => exact (h e).map Session.extractor fun result hresult => hresult

/-- What a use of a session fails with is told in words. -/
theorem Use.tells (genuine : helpers.Genuine) (u : Use) (s : Session) : (u.work s).Tells helpers := by
  have hmap : ∀ {α β : Type} (f : α → β) (result : Except Fault α), FailsOnly Fault.Told result →
      FailsOnly Fault.Told (result.map f) := fun f result hresult => hresult.map f
  cases u with
  | appendDocument part =>
      refine tells_onBuilder (fun b => ?_) s
      exact (Work.tells_atOnce b (b.failsOnly_append part)).map id (hmap _)
  | appendSignature signature =>
      exact tells_onBuilder (fun b => (tells_sign b signature).map id (hmap _)) s
  | build options => exact tells_onBuilder (fun b => (tells_build genuine b options).map id (hmap _)) s
  | cardPart size =>
      refine tells_onBuilder (fun b => ?_) s
      exact (Work.tells_atOnce b (b.failsOnly_next _)).map id (hmap _)
  | appendCard part =>
      refine tells_onExtractor (fun e => ?_) s
      exact (Work.tells_atOnce e (e.failsOnly_append part)).map id (hmap _)
  | parse => exact tells_onExtractor (fun e => (tells_parse genuine e).map id (hmap _)) s
  | documentPart size fromStart =>
      refine tells_onExtractor (fun e => ?_) s
      exact (Work.tells_atOnce e (e.failsOnly_nextPart _ _)).map id (hmap _)
  | nextSignature =>
      refine tells_onExtractor (fun e => ?_) s
      exact (Work.tells_atOnce e e.failsOnly_nextSignature).map id (hmap _)

end Uses

/-! ## What calls come to -/

namespace Service

/-- What a call comes to. -/
def outcome (s : Service) (helpers : Helpers) (m : Moment) : Call → Except Fault Yield
  | .start session => .ok (.newId (s.registry.create m.now m.ids session).1)
  | .use id u => (s.use helpers m.now id u).2
  | .drop _ => .ok .nothing

theorem reply_call (s : Service) (helpers : Helpers) (m : Moment) (c : Call) :
    (s.call helpers m c).2 = .ofResult c.kind (s.outcome helpers m c) := by
  cases c <;> rfl

/-- What a call fails with is told in words. -/
theorem failsOnly_outcome {helpers : Helpers} (genuine : helpers.Genuine) (s : Service) (m : Moment)
    (c : Call) : FailsOnly Fault.Told (s.outcome helpers m c) := by
  cases c with
  | start session => exact failsOnly_ok _
  | drop id => exact failsOnly_ok _
  | use id u =>
      simp only [outcome, use]
      cases hfault : u.fault? with
      | some fault => exact failsOnly_error (Use.told_fault? hfault)
      | none =>
          dsimp only
          cases s.registry.live? m.now id with
          | none => exact failsOnly_error (by decide : Fault.unknownId.message ≠ "")
          | some record => exact u.tells genuine record.content s.scans

end Service

/-! ## What replies hold -/

/-- Nothing: an empty text, no, or an object with nothing in any field. -/
inductive IsBlank : Value → Prop where
  | text : IsBlank (.string "")
  | no : IsBlank (.bool false)
  | object (fields : List (String × Value))
      (blank : ∀ key v, (Value.object fields).field? key = some v → IsBlank v) : IsBlank (.object fields)

theorem isBlank_attachment : IsBlank (Card.Attachment.toJson {}) := by
  refine .object _ fun key v hfield => ?_
  have hmem := Value.mem_of_field?_ofFields hfield
  simp only [List.mem_cons, Prod.mk.injEq, List.not_mem_nil, or_false] at hmem
  rcases hmem with ⟨-, rfl⟩ | ⟨-, rfl⟩
  · exact .text
  · exact .text

/-- What stands for a result when there is none holds nothing. -/
theorem isBlank_of_mem_blank {kind : YieldKind} {key : String} {v : Value}
    (h : (key, v) ∈ kind.blank.fields) : IsBlank v := by
  cases kind <;>
    simp only [YieldKind.blank, Yield.fields, List.mem_cons, Prod.mk.injEq, List.not_mem_nil,
      or_false] at h
  case newId =>
    obtain ⟨-, rfl⟩ := h
    exact .text
  case part =>
    rcases h with ⟨-, rfl⟩ | ⟨-, rfl⟩
    · exact .text
    · exact .no
  case name =>
    obtain ⟨-, rfl⟩ := h
    exact .text
  case signature =>
    rcases h with ⟨-, rfl⟩ | ⟨-, rfl⟩
    · exact isBlank_attachment
    · exact .no

namespace Reply

variable (r : Reply)

theorem field?_error : r.toJson.field? "Error" = some (.string r.faultText) := by
  rw [toJson, Value.field?_ofFields_concat, if_pos rfl]

theorem field?_of_ne {key : String} (other : key ≠ "Error") :
    r.toJson.field? key = (Value.ofFields r.shown.fields).field? key := by
  rw [toJson, Value.field?_ofFields_concat, if_neg (Ne.symm other)]

end Reply

/-- A call that is made is answered with status 200 and no error of the envelope.  The text of the fault
is empty if and only if the call has come to something.  Then the reply shows what that is; otherwise it
tells the fault in words, and nothing stands in any other field. -/
theorem replies_tell_outcomes (helpers : Helpers) (genuine : helpers.Genuine) (limit : Nat) (m : Moment)
    (s : Service) (r : Http.Request) (posts : r.Posts limit) (c : Call)
    (called : Call.ofText? r.body = some c) :
    ∃ id result text,
      (Http.serve limit helpers m s r).2
        = ⟨200, .json (.ofFields [("id", id), ("result", result), ("error", .null)])⟩ ∧
      result.field? "Error" = some (.string text) ∧
      (text = "" ↔ ∃ given, s.outcome helpers m c = .ok given) ∧
      (∀ given, s.outcome helpers m c = .ok given →
        result = .ofFields (given.fields ++ [("Error", .string "")])) ∧
      (text ≠ "" →
        (∃ fault, s.outcome helpers m c = .error fault ∧ text = fault.message) ∧
        result = .ofFields (c.kind.blank.fields ++ [("Error", .string text)]) ∧
        ∀ key v, result.field? key = some v → key ≠ "Error" → IsBlank v) := by
  obtain ⟨id, hanswer⟩ := Service.answer_of_call called
  have hreply := s.reply_call helpers m c
  refine ⟨id, (s.call helpers m c).2.toJson, (s.call helpers m c).2.faultText, ?_,
    Reply.field?_error _, ?_⟩
  · rw [Http.serve_of_posts posts, hanswer]
    rfl
  rw [hreply]
  cases houtcome : s.outcome helpers m c with
  | ok given =>
      refine ⟨⟨fun _ => ⟨given, rfl⟩, fun _ => rfl⟩, ?_, fun h => absurd rfl h⟩
      intro given' h
      obtain rfl := Except.ok.inj h
      rfl
  | error fault =>
      have told := s.failsOnly_outcome genuine m c fault houtcome
      refine ⟨⟨fun h => absurd h told, fun ⟨_, h⟩ => nomatch h⟩, nofun,
        fun _ => ⟨⟨fault, rfl, rfl⟩, rfl, ?_⟩⟩
      intro key v hfield other
      rw [Reply.field?_of_ne _ other] at hfield
      exact isBlank_of_mem_blank (Value.mem_of_field?_ofFields hfield)

/-- The program's own helpers are genuine, whatever it is configured to scan with. -/
theorem genuine_helpers (config : Config) (seconds : Nat) : (Main.helpers config seconds).Genuine where
  press task _ := (Session.Outcome.ofResult_cases task _).imp_right fun h => ⟨_, h⟩
  unpack task _ := Session.Outcome.ofResult_cases task _

namespace Unreadable

/-- The program's helpers when nothing is configured. -/
def helpers : Helpers := Main.helpers (.ofLookup fun _ => none) 0

/-- A service with one extractor that has gathered nothing. -/
def service : Service where
  registry := (Session.Registry.empty 10).add ⟨"a", 0, .extractor .start⟩ (by decide)

/-- A request to open what the extractor has gathered. -/
def request : Http.Request where
  method := "POST"
  target := "/rpc"
  body := .ascii "[\"Extractor.Parse\",[[\"a\"]],1]"

end Unreadable

/-- Whoever has a card opened that is no PDF file is told so, and gets no name. -/
theorem replies_tell_outcomes_unreadable :
    ∃ id result,
      (Http.serve 40 Unreadable.helpers ⟨1, .numbered 0⟩ Unreadable.service Unreadable.request).2
        = ⟨200, .json (.ofFields [("id", id), ("result", result), ("error", .null)])⟩ ∧
      result = .ofFields
        [("DocumentFileName", .string ""), ("Error", .string "PDF error: Invalid file header")] := by
  have posts : Unreadable.request.Posts 40 := by
    refine ⟨?_, ?_, ?_⟩ <;> decide
  have called : Call.ofText? Unreadable.request.body = some (.use "a" .parse) := by decide +kernel
  have houtcome : Unreadable.service.outcome Unreadable.helpers ⟨1, .numbered 0⟩ (.use "a" .parse)
      = .error (.parse "PDF error: Invalid file header") := by decide +kernel
  obtain ⟨id, result, text, hserve, -, hiff, -, hblank⟩ :=
    replies_tell_outcomes Unreadable.helpers (genuine_helpers _ _) 40 ⟨1, .numbered 0⟩
      Unreadable.service Unreadable.request posts (.use "a" .parse) called
  have htext : text ≠ "" := by
    intro hempty
    obtain ⟨given, hgiven⟩ := hiff.mp hempty
    cases houtcome.symm.trans hgiven
  obtain ⟨⟨fault, hfault, rfl⟩, hresult, -⟩ := hblank htext
  obtain rfl := Except.error.inj (houtcome.symm.trans hfault)
  exact ⟨id, result, hserve, hresult⟩

end DocumentCard.Rpc
