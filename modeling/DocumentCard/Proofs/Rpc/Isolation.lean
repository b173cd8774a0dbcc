import DocumentCard.Proofs.Rpc.Traffic
set_option autoImplicit false

/-!
# Sessions do not meet

Whoever talks to a session cannot tell whether the service has other sessions.  Two runs are compared:
in the one everything arrives, in the other only what names the session, and its start.  From the start
on, the session's id stands for the same in both (`Registry.AgreeOn`): what is left out does not show on
the id (`Service.agreeOn_meet`), and what is kept depends on nothing else (`Service.call_congr`).

Main statement: the answers to the calls that name a session, and the session itself, are as if nothing
else had arrived (`sessions_are_isolated`).
-/

namespace DocumentCard.Rpc

open Session (Helpers Registry IdSupply)

/-- Whether the session of an id is named. -/
def Arrival.names (id : String) (a : Arrival) : Bool := a.session? = some id

namespace Service

variable {s u : Service} {id : String} {now : Int}

/-- A text that names a session is answered alike where the id stands for the same, and afterwards it
still does. -/
theorem answer_of_names (tools : Tools) {m : Moment} {text : Bytes}
    (h : s.registry.AgreeOn now id u.registry) (hle : now ≤ m.now)
    (names : (Arrival.post m text).names id = true) :
    (s.answer tools.helpers m text).2 = (u.answer tools.helpers m text).2 ∧
      (s.answer tools.helpers m text).1.registry.AgreeOn now id
        (u.answer tools.helpers m text).1.registry := by
  simp only [Arrival.names, Arrival.session?, decide_eq_true_eq, Option.bind_eq_some_iff] at names
  obtain ⟨c, hcall, hc⟩ := names
  obtain ⟨envelope, hanswer⟩ := answer_of_call hcall
  obtain ⟨hreply, hagree⟩ := call_congr tools h hle hc
  rw [hanswer, hanswer]
  exact ⟨congrArg (fun reply => (⟨envelope, .ok reply⟩ : Answer)) hreply, hagree⟩

/-- As long as an id is not given to a session, what names it is answered as if nothing else arrived. -/
theorem answersTo_filter (tools : Tools) {arrivals : List Arrival}
    (h : s.registry.AgreeOn now id u.registry)
    (later : ∀ a ∈ arrivals, a.isPost = true → now ≤ a.time) (onward : Arrival.Onward arrivals)
    (ungiven : id ∉ s.newIds tools.helpers arrivals) :
    s.answersTo (·.names id) tools.helpers arrivals
        = u.answersTo (·.names id) tools.helpers (arrivals.filter (·.names id)) ∧
      ∀ time, now ≤ time → (∀ a ∈ arrivals, a.time ≤ time) →
        (s.meetAll tools.helpers arrivals).registry.AgreeOn time id
          (u.meetAll tools.helpers (arrivals.filter (·.names id))).registry := by
  induction arrivals generalizing s u now with
  | nil => exact ⟨rfl, fun time hle _ => h.mono hle⟩
  | cons a rest ih =>
      rw [List.forall_mem_cons] at later
      obtain ⟨hnow, later⟩ := later
      obtain ⟨hfirst, hrest⟩ := List.pairwise_cons.mp onward
      rw [newIds_cons, List.mem_append, Option.mem_toList, not_or] at ungiven
      cases hnames : a.names id with
      | true =>
          cases a with
          | sweep read => cases hnames
          | post m text =>
              obtain ⟨hanswer, hagree⟩ := answer_of_names tools h (hnow rfl) hnames
              obtain ⟨hanswers, hend⟩ := ih hagree later hrest ungiven.2
              rw [List.filter_cons_of_pos hnames]
              refine ⟨?_, fun time hle hall => hend time hle fun b hb => hall b (.tail _ hb)⟩
              simp only [answersTo, hnames, if_true, answer?, hanswer]
              exact congrArg _ hanswers
      | false =>
          rw [List.filter_cons_of_neg (by simp [hnames])]
          have hunnamed : a.session? ≠ some id := by simpa [Arrival.names] using hnames
          -- a sweep may go by a later time than the last text
          have hmeet : (s.meet tools.helpers a).registry.AgreeOn (max now a.time) id s.registry :=
            agreeOn_meet tools.helpers hunnamed ungiven.1 fun _ => Int.le_max_right _ _
          have hagree := hmeet.trans (h.mono (Int.le_max_left now a.time))
          obtain ⟨hanswers, hend⟩ := ih hagree
            (fun b hb hpost => Int.max_le.mpr ⟨later b hb hpost, hfirst b hb hpost⟩) hrest ungiven.2
          refine ⟨?_, fun time hle hall => ?_⟩
          · simpa [answersTo, hnames] using hanswers
          · rw [List.forall_mem_cons] at hall
            exact hend time (Int.max_le.mpr ⟨hle, hall.1⟩) hall.2

/-- A session that is started at the same time with the same id stands for the same afterwards, whatever
else the services hold. -/
theorem agreeOn_of_start {helpers : Helpers} {m m' : Moment} {text : Bytes} {session : Session}
    (h : s.registry.AgreeOn now id u.registry) (start : Call.ofText? text = some (.start session))
    (same : m'.now = m.now) (given : (s.answer helpers m text).2.newId? = some id)
    (given' : (u.answer helpers m' text).2.newId? = some id) :
    (s.answer helpers m text).1.registry.AgreeOn now id (u.answer helpers m' text).1.registry := by
  obtain ⟨envelope, hanswer⟩ := answer_of_call start
  rw [hanswer] at given given' ⊢
  rw [hanswer]
  have hs : m.ids.fresh s.registry.ids = id := Option.some.inj given
  have hu : m'.ids.fresh u.registry.ids = id := Option.some.inj given'
  simp only [call, Registry.create, same, hs, hu]
  exact h.add ⟨id, m.now, session⟩ _ _

end Service

/-- Sessions do not meet.  Let a session be started between arrivals of all kinds, and let the clock not
be set back, no id be given twice, and helpers answer alike whenever they are asked.  Then all calls that
name the session, from the first to the last, are answered as in the run in which nothing but those calls
and the start arrives, at the same times, with the session given the same id; and from the end of the run
on the id stands for the same session in both. -/
theorem sessions_are_isolated (tools : Tools) (lifetime : Nat) (before after : List Arrival)
    (m m' : Moment) (text : Bytes) (session : Session) (id : String)
    (start : Call.ofText? text = some (.start session)) (same : m'.now = m.now)
    (onward : Arrival.Onward (before ++ .post m text :: after))
    (distinct : ((Service.empty lifetime).newIds tools.helpers
      (before ++ .post m text :: after)).Nodup)
    (given : (((Service.empty lifetime).meetAll tools.helpers before).answer tools.helpers m
      text).2.newId? = some id)
    (given' : (((Service.empty lifetime).meetAll tools.helpers (before.filter (·.names id))).answer
      tools.helpers m' text).2.newId? = some id) :
    let whole := before ++ .post m text :: after
    let alone := before.filter (·.names id) ++ .post m' text :: after.filter (·.names id)
    (Service.empty lifetime).answersTo (·.names id) tools.helpers whole
        = (Service.empty lifetime).answersTo (·.names id) tools.helpers alone ∧
      ∀ time, (∀ a ∈ whole, a.time ≤ time) →
        ((Service.empty lifetime).meetAll tools.helpers whole).registry.live? time id
          = ((Service.empty lifetime).meetAll tools.helpers alone).registry.live? time id := by
  intro whole alone
  have hunnamed : (Arrival.post m text).names id = false := by
    simp [Arrival.names, Arrival.session?, start, Call.session?]
  have hunnamed' : (Arrival.post m' text).names id = false := hunnamed
  obtain ⟨first, hfirst⟩ := onward.exists_le
  have hstart : first ≤ m.now := hfirst (.post m text) (by simp) rfl
  obtain ⟨hbefore, hrest, hacross⟩ := List.pairwise_append.mp onward
  obtain ⟨hsince, hafter⟩ := List.pairwise_cons.mp hrest
  rw [Service.newIds_append, Service.newIds_cons, Service.answer?, Option.bind_some, given,
    Option.toList_some, List.singleton_append] at distinct
  obtain ⟨-, hnodup, hapart⟩ := List.nodup_append.mp distinct
  -- up to the start, the id stands for nothing in either run
  obtain ⟨hanswers, hagree⟩ := Service.answersTo_filter tools
    (Registry.AgreeOn.refl first id (Service.empty lifetime).registry)
    (fun a ha => hfirst a (List.mem_append_left _ ha)) hbefore
    fun hmem => hapart id hmem id (.head _) rfl
  have hstarted := Service.agreeOn_of_start
    (hagree m.now hstart fun a ha => hacross a ha _ (.head _) rfl) start same given given'
  obtain ⟨hanswers', hagree'⟩ := Service.answersTo_filter tools hstarted hsince hafter
    (List.nodup_cons.mp hnodup).1
  refine ⟨?_, fun time hall => ?_⟩
  · simp only [whole, alone, Service.answersTo_append, Service.answersTo, hunnamed, hunnamed',
      Bool.false_eq_true, if_false, List.nil_append, hanswers]
    exact congrArg _ hanswers'
  · have hnow : m.now ≤ time := hall (.post m text) (by simp [whole])
    have hlater : ∀ a ∈ after, a.time ≤ time := fun a ha => hall a (by simp [whole, ha])
    simp only [whole, alone, Service.meetAll_append]
    exact (hagree' time hnow hlater).live time (Int.le_refl time)

namespace Neighbours

/-- The id of the session that is looked at. -/
def own : String := (IdSupply.numbered 7).fresh []

/-- The id of its neighbour. -/
def other : String := (IdSupply.numbered 9).fresh []

/-- A text that starts a session. -/
def register : Bytes := .ascii "[\"Extractor.Register\",[[]],1]"

/-- A text that brings a card to a session. -/
def bring (id : String) : Bytes := .ascii ("[\"Extractor.AppendDDCPart\",[[\"" ++ id ++ "\",\"AAEC\"]],2]")

/-- A text that has the card of a session opened. -/
def openCard (id : String) : Bytes := .ascii ("[\"Extractor.Parse\",[[\"" ++ id ++ "\"]],3]")

/-- What arrives before the session is started. -/
def before : List Arrival := [.post ⟨0, .numbered 9⟩ register, .sweep 3]

/-- What arrives after it has been started, some of it for the other session and some for none. -/
def after : List Arrival :=
  [.post ⟨6, .numbered 0⟩ (bring other), .post ⟨6, .numbered 0⟩ (bring own),
   .post ⟨7, .numbered 0⟩ (.ascii "[1"), .post ⟨8, .numbered 0⟩ (openCard other), .sweep 7,
   .post ⟨9, .numbered 0⟩ (openCard own)]

/-- Tools for which every card is clean and none can be opened. -/
def tools : Tools where
  scan _ := .ok .clean
  press _ := .finished (.error (.validation "no cards here"))
  unpack _ := .finished (.error (.validation "no cards here"))

end Neighbours

open Neighbours in
/-- Two sessions at once, of which one does not notice the other. -/
theorem sessions_are_isolated_sample :
    (Service.empty 10).answersTo (·.names own) tools.helpers
        (before ++ .post ⟨5, .numbered 7⟩ register :: after)
      = (Service.empty 10).answersTo (·.names own) tools.helpers
        (before.filter (·.names own) ++ .post ⟨5, .numbered 7⟩ register :: after.filter (·.names own)) :=
  (sessions_are_isolated tools 10 before after ⟨5, .numbered 7⟩ ⟨5, .numbered 7⟩ register
    (.extractor .start) own (by decide +kernel) rfl
    (by simp [Arrival.Onward, before, after, Arrival.isPost, Arrival.time])
    (by decide +kernel) (by decide +kernel) (by decide +kernel)).1

end DocumentCard.Rpc
