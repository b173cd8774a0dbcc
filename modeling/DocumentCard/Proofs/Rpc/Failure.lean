import DocumentCard.Proofs.Rpc.Course
import DocumentCard.Proofs.Session.Registry
set_option autoImplicit false

/-!
# Calls that fail

A call fails when its reply tells of a fault, or when it is refused and not made at all.  Then nothing has
happened: while work is under way a session may hold less than before, but whichever way it fails it puts
everything back (`Course.unchanged`), and what is put back into a record is what the record held.

The one exception is a task that breaks down: what was handed to it is lost.

Main statement: a call that fails changes no session (`failed_call_changes_nothing`).
-/

namespace DocumentCard.Session.Helpers

/-- Whoever makes or opens a card comes back with a result, if only to say that it cannot be done. -/
structure Complete (helpers : Helpers) : Prop where
  press : ∀ before request, ∃ result, helpers.press before request = .finished result
  unpack : ∀ before card, ∃ result, helpers.unpack before card = .finished result

end DocumentCard.Session.Helpers

namespace DocumentCard.Rpc

open Session (Act Builder Fault Helpers Registry)

/-- Whether the call has failed: a fault is told, or the call is refused. -/
def Answer.failed (a : Answer) : Bool :=
  match a.result with
  | .ok reply => reply.faultText ≠ ""
  | .error _ => true

section

variable {helpers : Helpers}

/-- A use of a session that fails leaves it as it was. -/
theorem Course.unchanged {s after : Session} {u : Use} {acts : List Act} {fault : Fault}
    (way : Course s u acts after (.error fault)) (complete : helpers.Complete)
    (hfrom : ∀ a ∈ acts, a.From helpers) : after = s := by
  cases way with
  | pressCrashed b document options reason fault stage =>
      obtain ⟨before, hpress⟩ := hfrom _ (.tail _ (.head _))
      obtain ⟨result, hresult⟩ := complete.press before (b.request document options)
      cases hpress.symm.trans hresult
  | unpackCrashed card reason fault =>
      obtain ⟨before, hunpack⟩ := hfrom _ (.tail _ (.head _))
      obtain ⟨result, hresult⟩ := complete.unpack before card
      cases hunpack.symm.trans hresult
  | _ => rfl

namespace Service

theorem registry_use_of_error (complete : helpers.Complete) {s : Service} {now : Int} {id : String}
    {u : Use} {fault : Fault} (failed : (s.use helpers now id u).2 = .error fault) :
    (s.use helpers now id u).1.registry = s.registry := by
  rcases s.use_cases helpers now id u with
    ⟨fault, huse, -⟩ | ⟨record, after, result, scans, hlive, way, hfrom, huse⟩
  · rw [huse]
  · rw [huse] at failed ⊢
    obtain rfl : result = .error fault := failed
    obtain rfl := way.unchanged complete hfrom
    exact Registry.put_content (Registry.live?_eq_some_iff.mp hlive).1

theorem registry_call_of_fault (complete : helpers.Complete) {s : Service} {m : Moment} {c : Call}
    (failed : (s.call helpers m c).2.fault ≠ none) :
    (s.call helpers m c).1.registry = s.registry := by
  cases c with
  | start session => exact absurd rfl failed
  | drop id => exact absurd rfl failed
  | use id u =>
      cases hresult : (s.use helpers m.now id u).2 with
      | ok result => simp [call, hresult, Reply.ofResult] at failed
      | error fault => exact registry_use_of_error complete hresult

end Service

end

/-- A call that fails changes no session, and neither adds nor removes one. -/
theorem failed_call_changes_nothing (helpers : Helpers) (complete : helpers.Complete) (s : Service)
    (m : Moment) (text : Bytes) (failed : (s.answer helpers m text).2.failed = true) :
    (s.answer helpers m text).1.registry = s.registry := by
  unfold Service.answer at failed ⊢
  cases henvelope : Envelope.read text with
  | error fault => rfl
  | ok envelope =>
      simp only [henvelope] at failed ⊢
      cases hcall : Call.read envelope.method envelope.params with
      | error refusal => rfl
      | ok c =>
          simp only [hcall] at failed ⊢
          refine Service.registry_call_of_fault complete fun hnone => ?_
          simp [Answer.failed, Reply.faultText, hnone] at failed

namespace Refusing

/-- Helpers who find everything clean and make no card of it. -/
def helpers : Helpers where
  scan _ _ := .ok .clean
  press _ _ := .finished (.error (.validation "no cards here"))
  unpack _ _ := .finished (.error (.validation "no cards here"))

/-- A builder that has a title, a document and a signature. -/
def builder : Builder :=
  ⟨{ title := "T", signatures := [{ body := [9], fileName := "s" }] }, "a.txt",
    .gathering [1, 2, 3]⟩

/-- A service with that builder. -/
def service : Service where
  registry := (Registry.empty 10).add ⟨"a", 0, .builder builder⟩ (by decide)

/-- A text that asks for the card. -/
def build : Bytes := .ascii "[\"Builder.Build\",[[\"a\"]],1]"

end Refusing

/-- A card that cannot be made leaves its builder all that was taken in. -/
theorem failed_call_changes_nothing_sample :
    (Refusing.service.answer Refusing.helpers ⟨1, .numbered 0⟩ Refusing.build).2.failed = true ∧
      (Refusing.service.answer Refusing.helpers ⟨1, .numbered 0⟩ Refusing.build).1.registry
        = Refusing.service.registry := by
  have failed : (Refusing.service.answer Refusing.helpers ⟨1, .numbered 0⟩
      Refusing.build).2.failed = true := by decide +kernel
  exact ⟨failed, failed_call_changes_nothing Refusing.helpers
    ⟨fun _ _ => ⟨_, rfl⟩, fun _ _ => ⟨_, rfl⟩⟩ Refusing.service ⟨1, .numbered 0⟩ Refusing.build failed⟩

end DocumentCard.Rpc
