import DocumentCard.Proofs.Json.Passing
import DocumentCard.Proofs.Rpc.Traffic
import DocumentCard.Rpc.Http
set_option autoImplicit false

/-!
# Answers keep what their envelopes ask for

An envelope is read straight from the text, and fields that it does not know are passed over.  Where the
text is a JSON value, what is read is what the value holds in the fields that count
(`Envelope.eq_ofValue`); that is so since passing over a value and reading it lead to the same place.

An answer carries the id of its envelope and one of two things: the reply to a call, or why there is no
call.  Four things can be unfit about a text (`Unfit`), and a text with none of them stands for a call
(`unfit_of_ofText?_eq_none`).

Main statement: every post of allowed length is answered so, and one that stands for no call does nothing
(`posts_are_answered`).
-/

namespace DocumentCard.Rpc

open Json (Value)
open Session (Helpers)

/-! ## Envelopes and values -/

namespace Envelope

/-- The text that a value is; empty if there is none. -/
def textOf : Option Value → String
  | some (.string s) => s
  | _ => ""

/-- The envelope that a value stands for: an object's fields by their names, or an array's items in
order.  What is missing is null, and a missing method has no name. -/
def ofValue : Value → Envelope
  | .object fields =>
      { method := textOf ((Value.object fields).field? "method")
        params := ((Value.object fields).field? "params").getD .null
        id := ((Value.object fields).field? "id").getD .null }
  | .array items =>
      { method := textOf items[0]?, params := items[1]?.getD .null, id := items[2]?.getD .null }
  | _ => {}

/-- What has been read of an envelope is what the fields tell. -/
structure Draft.Of (d : Draft) (fields : List (String × Value)) : Prop where
  method : (Value.object fields).field? "method" = d.method.map .string
  params : (Value.object fields).field? "params" = d.params
  id : (Value.object fields).field? "id" = d.id

/-- A field that is added to the fields is told as well. -/
theorem Draft.Of.insert {d d' : Draft} {fields : List (String × Value)} (h : d.Of fields) (key : String)
    (w : Value) (method : d'.method.map .string = if key = "method" then some w else d.method.map .string)
    (params : d'.params = if key = "params" then some w else d.params)
    (id : d'.id = if key = "id" then some w else d.id) : d'.Of (Value.insertField key w fields) := by
  constructor
  · rw [Value.field?_insertField, method, h.method]
  · rw [Value.field?_insertField, params, h.params]
  · rw [Value.field?_insertField, id, h.id]

theorem Draft.Of.finish {d : Draft} {fields : List (String × Value)} (h : d.Of fields) :
    d.finish = ofValue (.object fields) := by
  simp only [Draft.finish, ofValue, h.method, h.params, h.id]
  cases d.method <;> rfl

section Reading

variable {limit depth : Nat} {bytes rest after : Bytes}

theorem ofText_eq_ok {α : Type} {r : Except Json.SyntaxFault α} {x : α} (h : ofText r = .ok x) :
    r = .ok x := by
  cases r with
  | error fault => cases h
  | ok y => exact congrArg Except.ok (Except.ok.inj h)

/-- A name is a value that is a text. -/
theorem readName_value {name : String} {w : Value} (h : readName limit bytes = .ok (name, rest))
    (hvalue : Json.value limit depth bytes = .ok (w, after)) : w = .string name ∧ after = rest := by
  unfold readName at h
  split at h
  · rename_i start hstart
    have hread := ofText_eq_ok h
    unfold Json.value at hvalue
    rw [hstart] at hvalue
    simp [hread, Bytes.isDigit] at hvalue
    exact ⟨hvalue.1.symm, hvalue.2.symm⟩
  · unfold refuse at h
    split at h <;> cases h

theorem readValue_value {v w : Value} (h : readValue limit bytes = .ok (v, rest))
    (hvalue : Json.value limit (Json.depthLimit - 1) bytes = .ok (w, after)) : w = v ∧ after = rest := by
  have hread := ofText_eq_ok h
  rw [hvalue] at hread
  exact Prod.mk.inj (Except.ok.inj hread)

/-- What is read behind a key is what the fields tell with that key's value. -/
theorem readField_value {d d' : Draft} {key : String} {place : Bytes} {w : Value}
    {fields : List (String × Value)} (h : readField limit d key bytes = .ok (d', rest))
    (hd : d.Of fields) (hcolon : Json.colon bytes = .ok place) (hlimit : place.length < limit)
    (hvalue : Json.value limit (Json.depthLimit - 1) place = .ok (w, after)) :
    d'.Of (Value.insertField key w fields) ∧ after = rest := by
  have hplace : ∀ {here : Bytes}, ofText (Json.colon bytes) = .ok here → here = place := by
    intro here hhere
    exact (Except.ok.inj (hcolon.symm.trans (ofText_eq_ok hhere))).symm
  revert h
  fun_cases readField limit d key bytes with
  | case2 hkey =>
      intro h
      obtain ⟨here, hhere, h⟩ := bind_eq_ok h
      obtain rfl := hplace hhere
      obtain ⟨⟨name, last⟩, hname, hdone⟩ := bind_eq_ok h
      cases hdone
      obtain ⟨rfl, hafter⟩ := readName_value hname hvalue
      exact ⟨hd.insert key _ (by simp [hkey]) (by simp [hkey]) (by simp [hkey]), hafter⟩
  | case4 _ hkey =>
      intro h
      obtain ⟨here, hhere, h⟩ := bind_eq_ok h
      obtain rfl := hplace hhere
      obtain ⟨⟨params, last⟩, hread, hdone⟩ := bind_eq_ok h
      cases hdone
      obtain ⟨rfl, hafter⟩ := readValue_value hread hvalue
      exact ⟨hd.insert key _ (by simp [hkey]) (by simp [hkey]) (by simp [hkey]), hafter⟩
  | case6 _ _ hkey =>
      intro h
      obtain ⟨here, hhere, h⟩ := bind_eq_ok h
      obtain rfl := hplace hhere
      obtain ⟨⟨id, last⟩, hread, hdone⟩ := bind_eq_ok h
      cases hdone
      obtain ⟨rfl, hafter⟩ := readValue_value hread hvalue
      exact ⟨hd.insert key _ (by simp [hkey]) (by simp [hkey]) (by simp [hkey]), hafter⟩
  | case7 hmethod hparams hid =>
      intro h
      obtain ⟨here, hhere, h⟩ := bind_eq_ok h
      obtain rfl := hplace hhere
      obtain ⟨last, hskip, hdone⟩ := bind_eq_ok h
      cases hdone
      have hafter := Json.skipValue_of_value hvalue hlimit
      rw [ofText_eq_ok hskip] at hafter
      refine ⟨hd.insert key w ?_ ?_ ?_, (Except.ok.inj hafter).symm⟩
      · rw [if_neg hmethod]
      · rw [if_neg hparams]
      · rw [if_neg hid]
  | _ => exact nofun

/-- An object is read as the envelope that it stands for. -/
theorem readFields_fields {fuel : Nat} {first : Bool} {d : Draft} {e : Envelope} {v : Value}
    {seen : List (String × Value)} (h : readFields limit first d fuel bytes = .ok (e, rest))
    (hd : d.Of seen) (hlimit : bytes.length < limit)
    (hvalue : Json.fields limit (Json.value limit (Json.depthLimit - 1)) first seen fuel bytes
      = .ok (v, after)) : e = ofValue v ∧ after = rest := by
  induction fuel generalizing first d seen bytes with
  | zero => cases h
  | succ fuel ih =>
      unfold readFields at h
      rcases Json.fields_cases hvalue with
        ⟨hnext, rfl⟩ | ⟨start, key, behind, place, w, last, hnext, hkey, hcolon, hitem, hrest⟩
      · rw [hnext] at h
        obtain ⟨rfl, rfl⟩ := Prod.mk.inj (Except.ok.inj h)
        exact ⟨hd.finish, rfl⟩
      · rw [hnext] at h
        dsimp only at h
        rw [hkey] at h
        dsimp only at h
        split at h
        · cases h
        · rename_i d' rest' hfield
          have hplace : place.length < limit := by
            rcases Json.nextKey_cases hnext with ⟨_, hclosed, -⟩ | ⟨start', hstart, hstarts⟩
            · cases hclosed
            · obtain rfl := Json.Next.more.inj hstart
              have hle := hstarts.length_le
              rw [List.length_cons] at hle
              have hstart : start.length ≤ limit := by omega
              have hbehind := (Json.skipString_of_stringFrom hkey hstart).2
              have hcolon' := (Json.colon_suffix hcolon).length_le
              omega
          obtain ⟨hd', rfl⟩ := readField_value hfield hd hcolon hplace hitem
          have hlast := (Json.crosses_of_value hitem hplace).1
          exact ih h hd' (by omega) hrest

/-- Behind its last item an array is closed. -/
theorem closeArray_eq_ok (h : closeArray bytes = .ok rest) :
    Json.nextItem false bytes = .ok (.closed rest) := by
  revert h
  fun_cases closeArray bytes with
  | case2 behind hstart =>
      intro h
      obtain rfl := Except.ok.inj h
      simp [Json.nextItem, hstart]
  | _ => exact nofun

theorem items_of_next {seen : List Value} {fuel : Nat} {next : Json.Next} {v : Value}
    {item : Bytes → Except Json.SyntaxFault (Value × Bytes)}
    (hvalue : Json.items item seen fuel bytes = .ok (v, after))
    (hnext : ofText (Json.nextItem seen.isEmpty bytes) = .ok next) :
    next = .closed after ∧ v = .array seen.reverse ∨
      ∃ start w last left, next = .more start ∧ item start = .ok (w, last) ∧
        Json.items item (w :: seen) left last = .ok (v, after) := by
  have hnext := ofText_eq_ok hnext
  obtain ⟨left, -, ⟨hclosed, hv⟩ | ⟨start, w, last, hmore, hitem, hrest⟩⟩ := Json.items_cases hvalue
  · exact .inl ⟨Except.ok.inj (hnext.symm.trans hclosed), hv⟩
  · exact .inr ⟨start, w, last, left, Except.ok.inj (hnext.symm.trans hmore), hitem, hrest⟩

/-- An array is read as the envelope that it stands for. -/
theorem readItems_items {fuel : Nat} {e : Envelope} {v : Value}
    (h : readItems limit bytes = .ok (e, rest))
    (hvalue : Json.items (Json.value limit (Json.depthLimit - 1)) [] fuel bytes = .ok (v, after)) :
    e = ofValue v ∧ after = rest := by
  -- the array may be closed before each of its items
  obtain ⟨next, hnext, h⟩ := bind_eq_ok h
  rcases items_of_next hvalue hnext with ⟨rfl, rfl⟩ | ⟨start, w, last, fuel, rfl, hitem, hvalue⟩
  · cases h
    exact ⟨rfl, rfl⟩
  obtain ⟨⟨method, place⟩, hname, h⟩ := bind_eq_ok h
  obtain ⟨rfl, rfl⟩ := readName_value hname hitem
  obtain ⟨next, hnext, h⟩ := bind_eq_ok h
  rcases items_of_next hvalue hnext with ⟨rfl, rfl⟩ | ⟨start, w, last, fuel, rfl, hitem, hvalue⟩
  · cases h
    exact ⟨rfl, rfl⟩
  obtain ⟨⟨params, place⟩, hread, h⟩ := bind_eq_ok h
  obtain ⟨rfl, rfl⟩ := readValue_value hread hitem
  obtain ⟨next, hnext, h⟩ := bind_eq_ok h
  rcases items_of_next hvalue hnext with ⟨rfl, rfl⟩ | ⟨start, w, last, fuel, rfl, hitem, hvalue⟩
  · cases h
    exact ⟨rfl, rfl⟩
  obtain ⟨⟨id, place⟩, hread, h⟩ := bind_eq_ok h
  obtain ⟨rfl, rfl⟩ := readValue_value hread hitem
  obtain ⟨behind, hclose, hdone⟩ := bind_eq_ok h
  cases hdone
  have hclose := closeArray_eq_ok (ofText_eq_ok hclose)
  obtain ⟨fuel, -, ⟨hclosed, rfl⟩ | ⟨start, w, last, hmore, -⟩⟩ := Json.items_cases hvalue
  · have hrest := Except.ok.inj (hclose.symm.trans hclosed)
    exact ⟨rfl, (Json.Next.closed.inj hrest).symm⟩
  · cases hclose.symm.trans hmore

/-- What is read both as an envelope and as a value is the envelope that the value stands for. -/
theorem eq_ofValue {e : Envelope} {v : Value} (h : read bytes = .ok e)
    (hvalue : Json.parse bytes = .ok v) : e = ofValue v := by
  obtain ⟨⟨e', rest⟩, hread, h⟩ := bind_eq_ok h
  obtain ⟨_, -, hdone⟩ := bind_eq_ok h
  cases hdone
  obtain ⟨⟨v', after⟩, hparse, hvalue⟩ := bind_eq_ok hvalue
  obtain ⟨_, -, hdone⟩ := bind_eq_ok hvalue
  cases hdone
  have hspace := (Json.skipSpace_suffix bytes).length_le
  unfold readFrom at hread
  unfold Json.value at hparse
  split at hread
  · rename_i behind hstart
    rw [hstart] at hparse hspace
    rw [List.length_cons] at hspace
    simp only [Json.depthLimit] at hparse
    have hnew : Draft.Of {} [] := ⟨rfl, rfl, rfl⟩
    exact (readFields_fields hread hnew (by omega) hparse).1
  · rename_i behind hstart
    rw [hstart] at hparse
    exact (readItems_items hread hparse).1
  · unfold refuse at hread
    split at hread <;> cases hread

end Reading

/-- The one argument among the parameters.  A list of one is unwrapped; an empty list is as good as
null, and null as an empty object. -/
def argument (e : Envelope) : Value :=
  let unwrapped : Value :=
    match e.params with
    | .array [v] => v
    | .array [] => .null
    | v => v
  match unwrapped with
  | .null => .object []
  | v => v

end Envelope

/-! ## Texts that stand for no call -/

/-- Why a text stands for no call. -/
inductive Unfit (text : Bytes) : Prop where
  /-- it is no envelope -/
  | unread (fault : EnvelopeFault) (read : Envelope.read text = .error fault)
  /-- there is no such method -/
  | unknown (e : Envelope) (read : Envelope.read text = .ok e)
      (unknown : e.method ∉ Method.names.map Prod.fst)
  /-- there is more than one parameter -/
  | several (e : Envelope) (items : List Value) (read : Envelope.read text = .ok e)
      (params : e.params = .array items) (several : 1 < items.length)
  /-- the method takes no such argument -/
  | unsuited (e : Envelope) (m : Method) (mismatch : Json.Mismatch) (read : Envelope.read text = .ok e)
      (named : (e.method, m) ∈ Method.names) (unsuited : Call.decode m e.argument = .error mismatch)

theorem Method.ofName?_eq_some_iff {name : String} {m : Method} :
    Method.ofName? name = some m ↔ (name, m) ∈ Method.names := by
  constructor
  · intro h
    obtain ⟨⟨name', m'⟩, hfound, rfl⟩ := Option.map_eq_some_iff.mp h
    obtain rfl : name' = name := by simpa using List.find?_some hfound
    exact List.mem_of_find?_eq_some hfound
  · intro h
    have all : ∀ entry ∈ names, ofName? entry.1 = some entry.2 := by decide
    exact all _ h

theorem Method.ofName?_eq_none_iff {name : String} :
    Method.ofName? name = none ↔ name ∉ Method.names.map Prod.fst := by
  constructor
  · intro hnone hmem
    obtain ⟨⟨_, m⟩, hentry, rfl⟩ := List.mem_map.mp hmem
    exact nomatch hnone.symm.trans (ofName?_eq_some_iff.mpr hentry)
  · intro hunknown
    cases h : ofName? name with
    | none => rfl
    | some m => exact absurd (List.mem_map.mpr ⟨_, ofName?_eq_some_iff.mp h, rfl⟩) hunknown

/-- There is one argument, unless there are several parameters. -/
theorem Call.argument_cases (e : Envelope) :
    (∃ items detail, e.params = .array items ∧ 1 < items.length ∧
        Call.argument e.params = .error (.badArguments detail)) ∨
      (∀ items, e.params = .array items → items.length ≤ 1) ∧
        Call.argument e.params = .ok e.argument := by
  rcases e with ⟨method, params, id⟩
  cases params with
  | array items =>
      rcases items with _ | ⟨v, _ | ⟨w, items⟩⟩
      · exact .inr ⟨fun _ h => by cases h; simp, rfl⟩
      · refine .inr ⟨fun _ h => by cases h; simp, ?_⟩
        cases v <;> rfl
      · exact .inl ⟨_, _, rfl, by simp, by cases v <;> rfl⟩
  | _ => exact .inr ⟨nofun, rfl⟩

/-- An unfit text stands for no call. -/
theorem Unfit.ofText?_eq_none {text : Bytes} (h : Unfit text) : Call.ofText? text = none := by
  unfold Call.ofText?
  cases h with
  | unread fault read => rw [read]
  | unknown e read unknown =>
      rw [read]
      dsimp only
      rw [Call.read, Method.ofName?_eq_none_iff.mpr unknown]
      rfl
  | several e items read params several =>
      rw [read]
      dsimp only
      unfold Call.read
      rcases Call.argument_cases e with ⟨_, detail, -, -, hargument⟩ | ⟨hone, -⟩
      · rw [hargument]
        cases Method.ofName? e.method <;> rfl
      · exact absurd several (Nat.not_lt.mpr (hone items params))
  | unsuited e m mismatch read named unsuited =>
      rw [read]
      dsimp only
      rw [Call.read, Method.ofName?_eq_some_iff.mpr named]
      rcases Call.argument_cases e with ⟨_, detail, -, -, hargument⟩ | ⟨-, hargument⟩
      · rw [hargument]
        rfl
      · simp [hargument, bind, Except.bind, unsuited, Except.mapError, Except.toOption]

/-- A text that is not unfit stands for a call. -/
theorem unfit_of_ofText?_eq_none {text : Bytes} (h : Call.ofText? text = none) : Unfit text := by
  unfold Call.ofText? at h
  cases hread : Envelope.read text with
  | error fault => exact .unread fault hread
  | ok e =>
      rw [hread] at h
      dsimp only at h
      unfold Call.read at h
      cases hname : Method.ofName? e.method with
      | none => exact .unknown e hread (Method.ofName?_eq_none_iff.mp hname)
      | some m =>
          rw [hname] at h
          rcases Call.argument_cases e with ⟨items, detail, hparams, hseveral, -⟩ | ⟨-, hargument⟩
          · exact .several e items hread hparams hseveral
          · cases hdecode : Call.decode m e.argument with
            | error mismatch =>
                exact .unsuited e m mismatch hread (Method.ofName?_eq_some_iff.mp hname) hdecode
            | ok c => simp [hargument, bind, Except.bind, hdecode, Except.mapError, Except.toOption] at h

/-! ## Posts -/

namespace Http

/-- The request posts a text that is not too long to where calls are taken. -/
def Request.Posts (limit : Nat) (r : Request) : Prop :=
  path r.target = "/rpc".toList ∧ r.method = "POST" ∧ r.body.length ≤ limit

theorem serve_of_posts {limit : Nat} {r : Request} (posts : r.Posts limit) (helpers : Helpers)
    (m : Moment) (s : Service) :
    serve limit helpers m s r =
      ((s.answer helpers m r.body).1, ⟨200, .json (s.answer helpers m r.body).2.toJson⟩) := by
  obtain ⟨htarget, hmethod, hbody⟩ := posts
  rw [serve, if_pos htarget, if_neg (not_not_intro hmethod), if_neg (Nat.not_lt.mpr hbody)]

end Http

/-- An answer carries the id of its envelope. -/
theorem Service.id_answer {text : Bytes} {e : Envelope} (read : Envelope.read text = .ok e) (s : Service)
    (helpers : Helpers) (m : Moment) : (s.answer helpers m text).2.id = e.id := by
  unfold Service.answer
  rw [read]
  dsimp only
  cases Call.read e.method e.params with
  | error refusal => rfl
  | ok c => rfl

/-- Without an envelope there is no id to carry. -/
theorem Service.id_answer_of_error {text : Bytes} {fault : EnvelopeFault}
    (read : Envelope.read text = .error fault) (s : Service) (helpers : Helpers) (m : Moment) :
    (s.answer helpers m text).2.id = .null := by
  unfold Service.answer
  rw [read]

/-- Every text of allowed length that is posted gets an answer of three fields, of which exactly one of
result and error is null.  The id is that of the envelope, whatever it is.  An error tells that the text
stands for no call; then the service stays as it is, and no helper is asked for anything. -/
theorem posts_are_answered (limit : Nat) (helpers : Helpers) (m : Moment) (s : Service)
    (r : Http.Request) (posts : r.Posts limit) :
    ∃ id result error,
      (Http.serve limit helpers m s r).2
        = ⟨200, .json (.ofFields [("id", id), ("result", result), ("error", error)])⟩ ∧
      (result = .null ↔ error ≠ .null) ∧
      (∀ e, Envelope.read r.body = .ok e → id = e.id) ∧
      (∀ e v, Envelope.read r.body = .ok e → Json.parse r.body = .ok v → id = (Envelope.ofValue v).id) ∧
      (∀ fault, Envelope.read r.body = .error fault → id = .null) ∧
      (error ≠ .null ↔ Unfit r.body) ∧
      (error ≠ .null → (Http.serve limit helpers m s r).1 = s ∧
        ∀ others, Http.serve limit others m s r = Http.serve limit helpers m s r) := by
  have hid : ∀ e, Envelope.read r.body = .ok e → (s.answer helpers m r.body).2.id = e.id :=
    fun e read => s.id_answer read helpers m
  have hvalue : ∀ e v, Envelope.read r.body = .ok e → Json.parse r.body = .ok v →
      (s.answer helpers m r.body).2.id = (Envelope.ofValue v).id :=
    fun e v read parsed => (hid e read).trans (congrArg Envelope.id (Envelope.eq_ofValue read parsed))
  have hnull : ∀ fault, Envelope.read r.body = .error fault → (s.answer helpers m r.body).2.id = .null :=
    fun fault read => s.id_answer_of_error read helpers m
  simp only [Http.serve_of_posts posts]
  cases hcall : Call.ofText? r.body with
  | none =>
      obtain ⟨id, refusal, hanswer⟩ := Service.answer_of_none hcall
      rw [hanswer] at hid hvalue hnull ⊢
      refine ⟨id, .null, .string refusal.message, rfl, ⟨fun _ => nofun, fun _ => rfl⟩, hid, hvalue, hnull,
        ⟨fun _ => unfit_of_ofText?_eq_none hcall, fun _ => nofun⟩, fun _ => ⟨rfl, fun others => ?_⟩⟩
      rw [hanswer]
  | some c =>
      obtain ⟨id, hanswer⟩ := Service.answer_of_call hcall
      rw [hanswer] at hid hvalue hnull ⊢
      refine ⟨id, (s.call helpers m c).2.toJson, .null, rfl, ⟨nofun, fun h => absurd rfl h⟩, hid, hvalue,
        hnull, ⟨fun h => absurd rfl h, fun hunfit => ?_⟩, fun h => absurd rfl h⟩
      cases hcall.symm.trans hunfit.ofText?_eq_none

namespace Unknown

/-- A request for a method that there is not, with a list for its id. -/
def request : Http.Request where
  method := "POST"
  target := "/rpc?x=1"
  body := .ascii "[\"Builder.Sign\",[],[7]]"

/-- Helpers who would find everything clean. -/
def helpers : Helpers where
  scan _ _ := .ok .clean
  press _ _ := .crashed "no press"
  unpack _ _ := .crashed "no press"

end Unknown

/-- Whoever asks for a method that there is not gets an error back, under the id that was sent. -/
theorem posts_are_answered_unknown :
    ∃ id result error,
      (Http.serve 30 Unknown.helpers ⟨0, .numbered 0⟩ (.empty 10) Unknown.request).2
        = ⟨200, .json (.ofFields [("id", id), ("result", result), ("error", error)])⟩ ∧
      id.render = "[7]" ∧ result = .null ∧ error ≠ .null ∧
      (Http.serve 30 Unknown.helpers ⟨0, .numbered 0⟩ (.empty 10) Unknown.request).1 = .empty 10 := by
  have hread : (Envelope.read Unknown.request.body).toOption.map (fun e => (e.method, e.id.render))
      = some ("Builder.Sign", "[7]") := by decide +kernel
  have posts : Unknown.request.Posts 30 := by
    refine ⟨?_, ?_, ?_⟩ <;> decide
  obtain ⟨id, result, error, hserve, hone, hid, -, -, herror, hnothing⟩ :=
    posts_are_answered 30 Unknown.helpers ⟨0, .numbered 0⟩ (.empty 10) Unknown.request posts
  cases henvelope : Envelope.read Unknown.request.body with
  | error fault =>
      rw [henvelope] at hread
      cases hread
  | ok e =>
      rw [henvelope] at hread
      obtain ⟨hmethod, hrender⟩ := Prod.mk.inj (Option.some.inj hread)
      have hunfit : error ≠ .null := by
        refine herror.mpr (.unknown e henvelope ?_)
        rw [show e.method = "Builder.Sign" from hmethod]
        decide
      refine ⟨id, result, error, hserve, ?_, hone.mpr hunfit, hunfit, (hnothing hunfit).1⟩
      rw [hid e henvelope]
      exact hrender

end DocumentCard.Rpc
