import DocumentCard.Proofs.Rpc.Concurrent
import DocumentCard.Proofs.Session.Registry
set_option autoImplicit false

/-!
# What reaches a service

Texts reach a service one after another, each at its moment, and in between sessions are swept out.
Most texts stand for a call (`Call.ofText?`); any other is refused, whatever the sessions are, and leaves
them alone.

What a call does to the registry and what it is told depends on one id: the one that it names
(`Service.call_congr`), or the one that is given to the session that it starts.  On all other ids it does
not show (`Service.agreeOn_meet`).
-/

namespace DocumentCard.Rpc

open Session (Helpers Registry Record Fault)

/-! ## Arrivals -/

/-- The call that a text stands for. -/
def Call.ofText? (text : Bytes) : Option Call :=
  match Envelope.read text with
  | .error _ => none
  | .ok envelope => (Call.read envelope.method envelope.params).toOption

/-- The session that a call names, if it names one. -/
def Call.session? : Call → Option String
  | .start _ => none
  | .use id _ | .drop id => some id

/-- What reaches a service. -/
inductive Arrival where
  | post (m : Moment) (text : Bytes)
  /-- sessions are swept out that had outlived their time at a time that was read before -/
  | sweep (read : Int)

namespace Arrival

/-- The time that counts for what arrives. -/
def time : Arrival → Int
  | .post m _ => m.now
  | .sweep read => read

/-- The session that is named, if one is. -/
def session? : Arrival → Option String
  | .post _ text => (Call.ofText? text).bind Call.session?
  | .sweep _ => none

/-- Whether a text arrives. -/
def isPost : Arrival → Bool
  | .post .. => true
  | .sweep _ => false

/-- The clock is not set back: no text comes at an earlier time than what came before it.  A sweep may
go by a time that was read a while ago. -/
def Onward (arrivals : List Arrival) : Prop :=
  arrivals.Pairwise fun a b => b.isPost = true → a.time ≤ b.time

/-- There is a time at or before that of every text. -/
theorem Onward.exists_le {arrivals : List Arrival} (onward : Onward arrivals) :
    ∃ first, ∀ a ∈ arrivals, a.isPost = true → first ≤ a.time := by
  cases arrivals with
  | nil => exact ⟨0, fun a ha => absurd ha List.not_mem_nil⟩
  | cons a rest =>
      refine ⟨a.time, fun b hb hpost => ?_⟩
      rcases List.mem_cons.mp hb with rfl | hmem
      · exact Int.le_refl _
      · exact (List.pairwise_cons.mp onward).1 b hmem hpost

end Arrival

/-- The id that an answer gives to a new session, if it does. -/
def Answer.newId? (a : Answer) : Option String :=
  match a.result with
  | .ok ⟨.newId id, none⟩ => some id
  | _ => none

namespace Service

/-- The service after an arrival. -/
def meet (helpers : Helpers) (s : Service) : Arrival → Service
  | .post m text => (s.answer helpers m text).1
  | .sweep read => s.sweep read

/-- The answer to an arrival, if it is a text. -/
def answer? (helpers : Helpers) (s : Service) : Arrival → Option Answer
  | .post m text => some (s.answer helpers m text).2
  | .sweep _ => none

/-- The service after several arrivals. -/
def meetAll (helpers : Helpers) (s : Service) (arrivals : List Arrival) : Service :=
  arrivals.foldl (meet helpers) s

/-- The answers to those arrivals that pass a test, in the course of all of them. -/
def answersTo (p : Arrival → Bool) (helpers : Helpers) : Service → List Arrival → List Answer
  | _, [] => []
  | s, a :: rest =>
      (if p a then (s.answer? helpers a).toList else []) ++ answersTo p helpers (s.meet helpers a) rest

/-- The answers to all texts. -/
def answers (helpers : Helpers) (s : Service) (arrivals : List Arrival) : List Answer :=
  s.answersTo (fun _ => true) helpers arrivals

/-- The ids that are given to new sessions. -/
def newIds (helpers : Helpers) (s : Service) (arrivals : List Arrival) : List String :=
  (s.answers helpers arrivals).filterMap Answer.newId?

theorem meetAll_append (helpers : Helpers) (s : Service) (first second : List Arrival) :
    s.meetAll helpers (first ++ second) = (s.meetAll helpers first).meetAll helpers second :=
  List.foldl_append

theorem answersTo_append (p : Arrival → Bool) (helpers : Helpers) (s : Service)
    (first second : List Arrival) :
    s.answersTo p helpers (first ++ second)
      = s.answersTo p helpers first ++ (s.meetAll helpers first).answersTo p helpers second := by
  induction first generalizing s with
  | nil => rfl
  | cons a rest ih => simp [answersTo, meetAll, ih]

theorem newIds_append (helpers : Helpers) (s : Service) (first second : List Arrival) :
    s.newIds helpers (first ++ second)
      = s.newIds helpers first ++ (s.meetAll helpers first).newIds helpers second := by
  simp [newIds, answers, answersTo_append]

theorem newIds_cons (helpers : Helpers) (s : Service) (a : Arrival) (rest : List Arrival) :
    s.newIds helpers (a :: rest)
      = ((s.answer? helpers a).bind Answer.newId?).toList
        ++ (s.meet helpers a).newIds helpers rest := by
  cases h : s.answer? helpers a with
  | none => simp [newIds, answers, answersTo, h]
  | some answer => cases hid : answer.newId? <;> simp [newIds, answers, answersTo, h, hid]

/-! ## What a text does -/

/-- A text that stands for a call has the call made, and is answered with the reply. -/
theorem answer_of_call {text : Bytes} {c : Call} (h : Call.ofText? text = some c) :
    ∃ id, ∀ (s : Service) (helpers : Helpers) (m : Moment),
      s.answer helpers m text = ((s.call helpers m c).1, ⟨id, .ok (s.call helpers m c).2⟩) := by
  unfold Call.ofText? at h
  cases henvelope : Envelope.read text with
  | error fault => simp [henvelope] at h
  | ok envelope =>
      simp only [henvelope] at h
      cases hcall : Call.read envelope.method envelope.params with
      | error refusal => simp [hcall, Except.toOption] at h
      | ok c' =>
          rw [hcall] at h
          obtain rfl : c' = c := Option.some.inj h
          exact ⟨envelope.id, fun s helpers m => by simp [answer, henvelope, hcall]⟩

/-- A text that stands for no call is refused, and nothing is done. -/
theorem answer_of_none {text : Bytes} (h : Call.ofText? text = none) :
    ∃ (id : Json.Value) (refusal : Refusal), ∀ (s : Service) (helpers : Helpers) (m : Moment),
      s.answer helpers m text = (s, ⟨id, .error refusal⟩) := by
  unfold Call.ofText? at h
  cases henvelope : Envelope.read text with
  | error fault =>
      exact ⟨.null, .badRequest fault.message, fun s helpers m => by simp [answer, henvelope]⟩
  | ok envelope =>
      simp only [henvelope] at h
      cases hcall : Call.read envelope.method envelope.params with
      | error refusal =>
          exact ⟨envelope.id, refusal, fun s helpers m => by simp [answer, henvelope, hcall]⟩
      | ok c => simp [hcall, Except.toOption] at h

/-! ## On which ids a call shows -/

section Sight

variable {s u : Service} {m : Moment} {c : Call} {id : String} {now : Int}

/-- A call that names a session shows on no other id. -/
theorem agreeOn_call_of_ne (helpers : Helpers) {named : String} (names : c.session? = some named)
    (other : id ≠ named) : (s.call helpers m c).1.registry.AgreeOn now id s.registry := by
  cases c with
  | start session => cases names
  | drop dropped =>
      obtain rfl : dropped = named := Option.some.inj names
      exact Registry.agreeOn_delete _ other now
  | use used u =>
      obtain rfl : used = named := Option.some.inj names
      simp only [call, use]
      cases u.fault? with
      | some fault => exact .refl now id _
      | none =>
          simp only
          cases s.registry.live? m.now used with
          | none => exact .refl now id _
          | some record => exact Registry.agreeOn_put _ other _ now

/-- What reaches a service shows on an id only if it names it, or gives it to a session, or is a sweep
at a later time. -/
theorem agreeOn_meet (helpers : Helpers) {a : Arrival} (unnamed : a.session? ≠ some id)
    (ungiven : (s.answer? helpers a).bind Answer.newId? ≠ some id)
    (hle : a.isPost = false → a.time ≤ now) :
    (s.meet helpers a).registry.AgreeOn now id s.registry := by
  cases a with
  | sweep read => exact (Registry.agreeOn_sweep s.registry read id).mono (hle rfl)
  | post m text =>
      cases hcall : Call.ofText? text with
      | none =>
          obtain ⟨_, _, hanswer⟩ := answer_of_none hcall
          simp only [meet, hanswer]
          exact .refl now id _
      | some c =>
          obtain ⟨_, hanswer⟩ := answer_of_call hcall
          simp only [meet, hanswer]
          simp only [answer?, hanswer] at ungiven
          simp only [Arrival.session?, hcall] at unnamed
          cases hc : c.session? with
          | some named =>
              refine agreeOn_call_of_ne helpers hc ?_
              rintro rfl
              exact unnamed hc
          | none =>
              cases c with
              | start session =>
                  refine Registry.agreeOn_add _ (m.ids.fresh_not_mem s.registry.ids) ?_ now
                  rintro rfl
                  exact ungiven rfl
              | _ => cases hc

/-- With steady helpers, what a call that names a session is told and does to it depends on that session
alone. -/
theorem call_congr (tools : Tools) (h : s.registry.AgreeOn now id u.registry) (hle : now ≤ m.now)
    (names : c.session? = some id) :
    (s.call tools.helpers m c).2 = (u.call tools.helpers m c).2 ∧
      (s.call tools.helpers m c).1.registry.AgreeOn now id (u.call tools.helpers m c).1.registry := by
  cases c with
  | start session => cases names
  | drop dropped =>
      obtain rfl : dropped = id := Option.some.inj names
      exact ⟨rfl, h.delete dropped⟩
  | use used use =>
      obtain rfl : used = id := Option.some.inj names
      simp only [call, Service.use]
      cases use.fault? with
      | some fault => exact ⟨rfl, h⟩
      | none =>
          simp only [h.live m.now hle]
          cases u.registry.live? m.now used with
          | none => exact ⟨rfl, h⟩
          | some record =>
              obtain ⟨hstate, hresult⟩ := tools.run_helpers (use.work record.content) s.scans
              obtain ⟨hstate', hresult'⟩ := tools.run_helpers (use.work record.content) u.scans
              dsimp only
              rw [hstate, hresult, hstate', hresult']
              exact ⟨rfl, h.put used _⟩

end Sight

end Service

end DocumentCard.Rpc
