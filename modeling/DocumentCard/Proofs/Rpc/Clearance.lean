import DocumentCard.Proofs.Rpc.Course
import DocumentCard.Proofs.Rpc.Traffic
import Mathlib.Data.List.DropRight
set_option autoImplicit false

/-!
# Nothing passes unless it was found clean

A scanner may say one thing now and another later.  So it does not help to ask whether data is clean; what
counts is what was said when the data came in.  Everything that happens is written down in a journal: each
call with what the helpers did for it and the reply.  A session is cleared when the journal of its life
shows for all that it may hand on that it was found clean, in the very call that brought it in
(`Cleared`); a new entry is lawful when it hands on, to a helper or to a caller, nothing else
(`Entry.Lawful`).

Main statement: in every run all sessions are cleared and the next entry is lawful
(`nothing_passes_unscanned`).  A use keeps its session cleared (`Cleared.course`), whichever way it goes,
and adds a lawful entry (`Cleared.lawful`).
-/

namespace DocumentCard.Rpc

open Session (Act Builder Extractor Fault Helpers Record Registry)

/-! ## The journal -/

/-- A call that was made, what the helpers did for it, and the reply. -/
structure Entry where
  call : Call
  acts : List Act
  reply : Reply

namespace Entry

/-- The id that is given to a new session, if one is started. -/
def newId? (e : Entry) : Option String :=
  match e.call, e.reply.shown with
  | .start _, .newId id => some id
  | _, _ => none

/-- A signature is taken in, and its body was found clean. -/
def Signs (id : String) (signature : Card.Signature) (e : Entry) : Prop :=
  e.call = .use id (.appendSignature signature) ∧ e.acts = [.foundClean signature.body] ∧
    e.reply = .ofResult .nothing (.ok .nothing)

/-- A card is opened.  It was found clean before, and the document and the signatures that came out of
it were found clean afterwards. -/
def Opens (id : String) (document : Card.Attachment) (signatures : List Card.Attachment) (e : Entry) :
    Prop :=
  e.call = .use id .parse ∧
    (∃ card, e.acts = .foundClean card :: .unpacked card (.finished (.ok (document :: signatures))) ::
      (document :: signatures).map fun file => .foundClean file.bytes) ∧
    e.reply = .ofResult .name (.ok (.name document.name))

end Entry

/-- The part of a journal that lies behind the start of the session that has the id. -/
def since (id : String) (journal : List Entry) : List Entry :=
  journal.rtakeWhile fun e => e.newId? ≠ some id

namespace Service

/-- The entry for a call. -/
def entry (helpers : Helpers) (s : Service) (m : Moment) (c : Call) : Entry where
  call := c
  acts :=
    match c with
    | .use id u => s.acts helpers m.now id u
    | .start _ | .drop _ => []
  reply := (s.call helpers m c).2

/-- The entry for an arrival, if it is a text that stands for a call. -/
def entryOf? (helpers : Helpers) (s : Service) : Arrival → Option Entry
  | .post m text => (Call.ofText? text).map (s.entry helpers m)
  | .sweep _ => none

/-- The journal of several arrivals. -/
def journal (helpers : Helpers) : Service → List Arrival → List Entry
  | _, [] => []
  | s, a :: rest => (s.entryOf? helpers a).toList ++ journal helpers (s.meet helpers a) rest

end Service

/-! ## What is clear -/

/-- The journal shows that everything that the session may hand on was found clean in the call that
brought it in. -/
def Cleared (id : String) (past : List Entry) : Session → Prop
  | .builder b => ∀ signature ∈ b.descriptor.signatures, ∃ e ∈ past, e.Signs id signature
  | .extractor (.gathering _) => True
  | .extractor (.parsed name document signatures) =>
      ∃ e ∈ past, ∃ file files, e.Opens id file files ∧
        name = file.name ∧ document.file = file.bytes ∧ signatures <:+ files

/-- A new entry hands on nothing, to a helper or to a caller, that was not found clean. -/
structure Entry.Lawful (past : List Entry) (e : Entry) : Prop where
  /-- a card is made of a document that was found clean just before, and of signatures that were found
  clean when they were taken in -/
  pressed : ∀ request outcome, .pressed request outcome ∈ e.acts →
    ∃ id options, e.call = .use id (.build options) ∧
      e.acts = [.foundClean request.document, .pressed request outcome] ∧
      ∀ signature ∈ request.descriptor.signatures, ∃ p ∈ since id past, p.Signs id signature
  /-- a card is opened that was found clean just before -/
  unpacked : ∀ card outcome, .unpacked card outcome ∈ e.acts →
    ∃ id rest, e.call = .use id .parse ∧
      e.acts = .foundClean card :: .unpacked card outcome :: rest
  /-- parts are given of a document that was found clean when its card was opened -/
  part : ∀ id size fromStart part, e.call = .use id (.documentPart size fromStart) →
    e.reply = .ofResult .part (.ok (.part part)) →
      ∃ p ∈ since id past, ∃ file files, p.Opens id file files ∧ part.bytes <:+: file.bytes
  /-- signatures are given that were found clean when their card was opened -/
  signature : ∀ id signature final, e.call = .use id .nextSignature →
    e.reply = .ofResult .signature (.ok (.signature signature final)) →
      ∃ p ∈ since id past, ∃ file files, p.Opens id file files ∧ signature ∈ files

section Clear

variable {id : String} {past : List Entry} {session after : Session} {e : Entry}

theorem since_concat (id : String) (past : List Entry) (e : Entry) :
    since id (past ++ [e]) = if e.newId? = some id then [] else since id past ++ [e] := by
  rw [since, List.rtakeWhile_concat]
  by_cases h : e.newId? = some id <;> simp [h, since]

/-- A session stays cleared, whatever is written down later. -/
theorem Cleared.mono (h : Cleared id past session) (later : List Entry) :
    Cleared id (past ++ later) session := by
  rcases session with b | (card | ⟨name, document, signatures⟩)
  · intro signature hmem
    obtain ⟨e, he, hsigns⟩ := h signature hmem
    exact ⟨e, List.mem_append_left _ he, hsigns⟩
  · trivial
  · obtain ⟨e, he, hopens⟩ := h
    exact ⟨e, List.mem_append_left _ he, hopens⟩

/-- A use keeps its session cleared, whichever way it goes. -/
theorem Cleared.course {u : Use} {acts : List Act} {result : Except Fault Yield}
    (h : Cleared id past session) (way : Course session u acts after result) :
    Cleared id (past ++ [⟨.use id u, acts, .ofResult u.kind result⟩]) after := by
  cases way with
  | signed b document signature stage =>
      intro old hmem
      rcases List.mem_append.mp hmem with hold | hnew
      · exact h.mono _ old hold
      · obtain rfl := List.mem_singleton.mp hnew
        exact ⟨_, List.mem_concat_self, rfl, rfl, rfl⟩
  | pressCrashed b document options reason fault stage => exact nofun
  | appendedCard card part => trivial
  | parsed card document signatures =>
      exact ⟨_, List.mem_concat_self, document, signatures, ⟨rfl, ⟨card, rfl⟩, rfl⟩, rfl, rfl,
        List.suffix_refl _⟩
  | documentPart name document after signatures size fromStart part next =>
      obtain ⟨e, he, file, files, hopens, hname, hfile, hfiles⟩ := h.mono _
      have hkept : after.file = document.file := by
        rw [Session.PartReader.next_file next]
        split <;> rfl
      exact ⟨e, he, file, files, hopens, hname, hkept.trans hfile, hfiles⟩
  | nextSignature name document signature rest =>
      obtain ⟨e, he, file, files, hopens, hname, hfile, hfiles⟩ := h.mono _
      exact ⟨e, he, file, files, hopens, hname, hfile, (List.suffix_cons _ _).trans hfiles⟩
  | unpackCrashed card reason fault => trivial
  | _ => exact h.mono _

/-- A part of a document is a piece of it. -/
theorem part_infix {document after : Session.PartReader} {fromStart : Bool} {size : Nat}
    {part : Session.Part}
    (next : (if fromStart then document.rewind else document).next size = .ok (part, after)) :
    part.bytes <:+: document.file := by
  have hpiece : part.bytes <+: (if fromStart then document.rewind else document).rest :=
    ⟨_, Session.PartReader.next_rest next⟩
  have hfile : (if fromStart then document.rewind else document).file = document.file := by
    split <;> rfl
  have hrest := (if fromStart then document.rewind else document).suffix
  rw [hfile] at hrest
  exact hpiece.isInfix.trans hrest.isInfix

/-- A card is made only of what the builder holds, and of its document just after that was found clean. -/
theorem Course.of_pressed {u : Use} {acts : List Act} {result : Except Fault Yield}
    {request : Card.Request} {outcome : Session.Pressed} (way : Course session u acts after result)
    (hmem : .pressed request outcome ∈ acts) :
    ∃ b options, session = .builder b ∧ u = .build options ∧ request.descriptor = b.descriptor ∧
      acts = [.foundClean request.document, .pressed request outcome] := by
  cases way with
  | pressCrashed b document options reason fault stage =>
      obtain ⟨rfl, rfl⟩ : request = b.request document options ∧ outcome = _ := by simpa using hmem
      exact ⟨b, options, rfl, rfl, rfl, rfl⟩
  | pressRefused b document options refusal fault stage =>
      obtain ⟨rfl, rfl⟩ : request = b.request document options ∧ outcome = _ := by simpa using hmem
      exact ⟨b, options, rfl, rfl, rfl, rfl⟩
  | built b document options card stage =>
      obtain ⟨rfl, rfl⟩ : request = b.request document options ∧ outcome = _ := by simpa using hmem
      exact ⟨b, options, rfl, rfl, rfl, rfl⟩
  | _ => simp at hmem

/-- A card is opened only just after it was found clean. -/
theorem Course.of_unpacked {u : Use} {acts : List Act} {result : Except Fault Yield} {opened : Bytes}
    {outcome : Session.Unpacked} (way : Course session u acts after result)
    (hmem : .unpacked opened outcome ∈ acts) :
    u = .parse ∧ ∃ rest, acts = .foundClean opened :: .unpacked opened outcome :: rest := by
  cases way with
  | unpackCrashed card reason fault =>
      obtain ⟨rfl, rfl⟩ : opened = card ∧ outcome = .crashed reason := by simpa using hmem
      exact ⟨rfl, _, rfl⟩
  | unpackRefused card refusal fault =>
      obtain ⟨rfl, rfl⟩ : opened = card ∧ outcome = .finished (.error refusal) := by
        simpa using hmem
      exact ⟨rfl, _, rfl⟩
  | tooFew card files fault =>
      obtain ⟨rfl, rfl⟩ : opened = card ∧ outcome = .finished (.ok files) := by simpa using hmem
      exact ⟨rfl, _, rfl⟩
  | unread card files clean rest file said fault all unclean =>
      obtain ⟨rfl, rfl⟩ : opened = card ∧ outcome = .finished (.ok files) := by simpa using hmem
      exact ⟨rfl, _, rfl⟩
  | parsed card document signatures =>
      obtain ⟨rfl, rfl⟩ : opened = card ∧ outcome = .finished (.ok (document :: signatures)) := by
        simpa using hmem
      exact ⟨rfl, _, rfl⟩
  | _ => simp at hmem

/-- A use of a cleared session adds a lawful entry, whichever way it goes. -/
theorem Cleared.lawful {u : Use} {acts : List Act} {result : Except Fault Yield}
    (h : Cleared id (since id past) session) (way : Course session u acts after result) :
    Entry.Lawful past ⟨.use id u, acts, .ofResult u.kind result⟩ := by
  constructor
  case pressed =>
    intro request outcome hmem
    obtain ⟨b, options, rfl, rfl, hdescriptor, hacts⟩ := way.of_pressed hmem
    exact ⟨id, options, rfl, hacts, hdescriptor ▸ h⟩
  case unpacked =>
    intro card outcome hmem
    obtain ⟨rfl, rest, hacts⟩ := way.of_unpacked hmem
    exact ⟨id, rest, rfl, hacts⟩
  case part =>
    intro id' size fromStart part hcall hreply
    obtain ⟨rfl, rfl⟩ := Call.use.inj hcall
    cases way with
    | failed session u fault => cases hreply
    | documentPart name document after signatures size fromStart given next =>
        obtain rfl : given = part := by simpa [Reply.ofResult] using hreply
        obtain ⟨e, he, file, files, hopens, -, hfile, -⟩ := h
        exact ⟨e, he, file, files, hopens, hfile ▸ part_infix next⟩
  case signature =>
    intro id' signature final hcall hreply
    obtain ⟨rfl, rfl⟩ := Call.use.inj hcall
    cases way with
    | failed session u fault => cases hreply
    | nextSignature name document given rest =>
        obtain ⟨rfl, -⟩ : given = signature ∧ _ := by simpa [Reply.ofResult] using hreply
        obtain ⟨e, he, file, files, hopens, -, -, hfiles⟩ := h
        exact ⟨e, he, file, files, hopens, hfiles.subset (.head _)⟩

/-- Nothing is handed on when no helper is asked and no session is used, or not with success. -/
theorem Entry.lawful_of_idle (idle : e.acts = [])
    (h : (∀ id u, e.call ≠ .use id u) ∨ e.reply.fault ≠ none) : e.Lawful past := by
  constructor
  case pressed => simp [idle]
  case unpacked => simp [idle]
  case part =>
    intro id size fromStart part hcall hreply
    rcases h with hno | hfault
    · exact absurd hcall (hno id _)
    · exact absurd (congrArg Reply.fault hreply) hfault
  case signature =>
    intro id signature final hcall hreply
    rcases h with hno | hfault
    · exact absurd hcall (hno id _)
    · exact absurd (congrArg Reply.fault hreply) hfault

/-- A call that starts a session starts one that holds nothing. -/
theorem Call.start_of_decode {method : Method} {argument : Json.Value}
    (h : Call.decode method argument = .ok (.start session)) :
    (∃ descriptor name, session = .builder (.start descriptor name)) ∨
      session = .extractor .start := by
  cases method with
  | startBuilder =>
      simp only [Call.decode] at h
      cases hargument : Arguments.start argument with
      | error mismatch => simp [hargument, Except.map] at h
      | ok start =>
          rw [hargument] at h
          cases h
          exact .inl ⟨start.1, start.2, rfl⟩
  | startExtractor =>
      simp only [Call.decode] at h
      cases hargument : Arguments.none argument with
      | error mismatch => simp [hargument, Except.map] at h
      | ok start =>
          rw [hargument] at h
          cases h
          exact .inr rfl
  | _ =>
      simp only [Call.decode, Except.map] at h
      split at h <;> cases h

theorem Call.start_of_ofText? {text : Bytes} (h : Call.ofText? text = some (.start session)) :
    (∃ descriptor name, session = .builder (.start descriptor name)) ∨
      session = .extractor .start := by
  unfold Call.ofText? at h
  cases henvelope : Envelope.read text with
  | error fault => simp [henvelope] at h
  | ok envelope =>
      simp only [henvelope, Call.read] at h
      cases hmethod : Method.ofName? envelope.method with
      | none => simp [hmethod, throw, throwThe, MonadExceptOf.throw, Except.toOption] at h
      | some method =>
          simp only [hmethod] at h
          cases hargument : Call.argument envelope.params with
          | error refusal => simp [hargument, bind, Except.bind, Except.toOption] at h
          | ok argument =>
              simp only [hargument, bind, Except.bind] at h
              cases hcall : Call.decode method argument with
              | error mismatch =>
                  rw [hcall] at h
                  cases h
              | ok c =>
                  rw [hcall] at h
                  obtain rfl : c = .start session := Option.some.inj h
                  exact start_of_decode hcall

end Clear

/-! ## What a run preserves -/

namespace Service

/-- All sessions are cleared by the parts of the journal behind their starts. -/
def AllCleared (s : Service) (past : List Entry) : Prop :=
  ∀ record ∈ s.registry.records, Cleared record.id (since record.id past) record.content

section Run

variable {s : Service} {past : List Entry}

/-- An entry leaves a session cleared unless it starts one with the same id. -/
theorem cleared_concat {id : String} {e : Entry} {session : Session} (other : e.newId? ≠ some id)
    (h : Cleared id (since id past) session) : Cleared id (since id (past ++ [e])) session := by
  rw [since_concat, if_neg other]
  exact h.mono _

/-- An entry leaves the sessions cleared when all records have been there before it. -/
theorem AllCleared.concat (h : s.AllCleared past) {t : Service} {e : Entry}
    (known : ∀ record ∈ t.registry.records, record ∈ s.registry.records ∧ e.newId? ≠ some record.id) :
    t.AllCleared (past ++ [e]) := fun record hmem =>
  cleared_concat (known record hmem).2 (h record (known record hmem).1)

/-- A use keeps all sessions cleared. -/
theorem allCleared_use (helpers : Helpers) (h : s.AllCleared past) (m : Moment) (id : String)
    (u : Use) :
    (s.call helpers m (.use id u)).1.AllCleared (past ++ [s.entry helpers m (.use id u)]) := by
  have hno : ∀ other, (s.entry helpers m (.use id u)).newId? ≠ some other := fun _ => nofun
  rcases s.use_cases helpers m.now id u with
    ⟨fault, huse, -⟩ | ⟨record, after, result, scans, hlive, way, -, huse⟩
  · refine h.concat fun record hmem => ⟨?_, hno _⟩
    simpa only [call, huse] using hmem
  · obtain ⟨hfind, -⟩ := Registry.live?_eq_some_iff.mp hlive
    have hid := Registry.id_of_find? hfind
    intro changed hmem
    simp only [call, huse] at hmem
    obtain ⟨old, hold, rfl⟩ := List.mem_map.mp hmem
    by_cases hused : old.id = id
    · obtain rfl := Registry.eq_of_id_eq hold (Registry.mem_of_find? hfind) (hused.trans hid.symm)
      rw [if_pos hused, since_concat, if_neg (hno _)]
      subst hused
      simp only [entry, call, huse]
      exact (h old hold).course way
    · rw [if_neg hused]
      exact cleared_concat (hno _) (h old hold)

/-- A call keeps all sessions cleared, if a session that it starts holds nothing. -/
theorem allCleared_call (helpers : Helpers) (h : s.AllCleared past) (m : Moment) {c : Call}
    (starts : ∀ session, c = .start session → ∀ id past, Cleared id past session) :
    (s.call helpers m c).1.AllCleared (past ++ [s.entry helpers m c]) := by
  cases c with
  | drop id => exact h.concat fun record hmem => ⟨(List.mem_filter.mp hmem).1, nofun⟩
  | use id u => exact allCleared_use helpers h m id u
  | start session =>
      intro record hmem
      rcases List.mem_cons.mp hmem with rfl | hold
      · exact starts session rfl _ _
      · refine cleared_concat ?_ (h record hold)
        intro hid
        have hfresh : m.ids.fresh s.registry.ids = record.id := Option.some.inj hid
        exact m.ids.fresh_not_mem s.registry.ids (hfresh ▸ List.mem_map_of_mem hold)

/-- Whatever arrives, all sessions stay cleared. -/
theorem allCleared_meet (helpers : Helpers) (h : s.AllCleared past) (a : Arrival) :
    (s.meet helpers a).AllCleared (past ++ (s.entryOf? helpers a).toList) := by
  cases a with
  | sweep read =>
      intro record hmem
      simpa [entryOf?] using h record (List.mem_filter.mp hmem).1
  | post m text =>
      cases hcall : Call.ofText? text with
      | none =>
          obtain ⟨_, _, hanswer⟩ := answer_of_none hcall
          simpa [meet, hanswer, entryOf?, hcall] using h
      | some c =>
          obtain ⟨_, hanswer⟩ := answer_of_call hcall
          simp only [meet, hanswer, entryOf?, hcall, Option.map_some, Option.toList_some]
          refine allCleared_call helpers h m fun session hstart id past => ?_
          rcases Call.start_of_ofText? (hstart ▸ hcall) with ⟨descriptor, name, rfl⟩ | rfl
          · exact fun signature hmem => absurd hmem List.not_mem_nil
          · trivial

theorem allCleared_meetAll (helpers : Helpers) (h : s.AllCleared past) (arrivals : List Arrival) :
    (s.meetAll helpers arrivals).AllCleared (past ++ s.journal helpers arrivals) := by
  induction arrivals generalizing s past with
  | nil => simpa [meetAll, journal] using h
  | cons a rest ih =>
      rw [journal, ← List.append_assoc]
      exact ih (allCleared_meet helpers h a)

/-- The entry for a use of a cleared session is lawful, and so is any other. -/
theorem lawful_entry (helpers : Helpers) (h : s.AllCleared past) (m : Moment) (c : Call) :
    (s.entry helpers m c).Lawful past := by
  cases c with
  | start session => exact Entry.lawful_of_idle rfl (.inl fun _ _ => nofun)
  | drop id => exact Entry.lawful_of_idle rfl (.inl fun _ _ => nofun)
  | use id u =>
      rcases s.use_cases helpers m.now id u with
        ⟨fault, huse, hidle⟩ | ⟨record, after, result, scans, hlive, way, -, huse⟩
      · refine Entry.lawful_of_idle hidle (.inr ?_)
        simp [entry, call, huse, Reply.ofResult]
      · obtain ⟨hfind, -⟩ := Registry.live?_eq_some_iff.mp hlive
        have hcleared := h record (Registry.mem_of_find? hfind)
        rw [Registry.id_of_find? hfind] at hcleared
        simp only [entry, call, huse]
        exact hcleared.lawful way

end Run

end Service

/-- Nothing passes unless it was found clean.  Whatever the scanner says, and whenever, and whatever
reaches the service: all that sessions may hand on was found clean in the very calls that brought it in;
and when the next text is a call, it hands on nothing else. -/
theorem nothing_passes_unscanned (helpers : Helpers) (lifetime : Nat) (arrivals : List Arrival) :
    let s := (Service.empty lifetime).meetAll helpers arrivals
    let past := (Service.empty lifetime).journal helpers arrivals
    s.AllCleared past ∧ ∀ a e, s.entryOf? helpers a = some e → e.Lawful past := by
  intro s past
  have hempty : (Service.empty lifetime).AllCleared [] := nofun
  have hcleared : s.AllCleared past := Service.allCleared_meetAll helpers hempty arrivals
  refine ⟨hcleared, fun a e hentry => ?_⟩
  cases a with
  | sweep read => cases hentry
  | post m text =>
      obtain ⟨c, -, rfl⟩ := Option.map_eq_some_iff.mp hentry
      exact Service.lawful_entry helpers hcleared m c

end DocumentCard.Rpc
