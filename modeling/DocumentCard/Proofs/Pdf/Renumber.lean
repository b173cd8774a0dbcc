import DocumentCard.Pdf.PageTree
import DocumentCard.Proofs.Pdf.Reach
import DocumentCard.Proofs.Steps
set_option autoImplicit false

/-!
# A document under new numbers

When the objects of a document get new numbers, the references that lead to them are changed with them, and
nobody who follows references from the trailer sees a difference (`Moved`): each finds what was there, under
its new number.  But a reference that leads nowhere keeps its number, and there may be an object under it
afterwards.

Main statement: as long as no such reference has one of the new numbers (`Document.Apart`), the document
has the same pages after it has been renumbered, and their contents can be read as before
(`Document.pages_renumbered`, `Document.contentBreaksDown_renumbered`).
-/

namespace DocumentCard.Pdf

/-! ## Objects with their references changed -/

section Renamed

variable (f : ObjId → ObjId)

theorem renamedItems_eq_map (items : List Obj) : renamedItems f items = items.map (Obj.renamed f) := by
  induction items with
  | nil => rfl
  | cons o rest ih => rw [renamedItems, ih, List.map_cons]

theorem mem_refsOfItems {items : List Obj} {id : ObjId} :
    id ∈ refsOfItems items ↔ ∃ o ∈ items, id ∈ o.refs := by
  induction items with
  | nil => simp [refsOfItems]
  | cons o rest ih => simp [refsOfItems, ih]

/-- The value of a key with its references changed. -/
theorem get?_renamedEntries (d : Dict) (key : String) :
    Dict.get? (renamedEntries f d) key = (d.get? key).map (Obj.renamed f) := by
  induction d with
  | nil => rfl
  | cons e rest ih =>
      obtain ⟨k, o⟩ := e
      simp only [Dict.get?] at ih
      by_cases hk : k = key
      · simp [renamedEntries, Dict.get?, hk]
      · simpa [renamedEntries, Dict.get?, hk] using ih

theorem has_renamedEntries (d : Dict) (key : String) :
    Dict.has (renamedEntries f d) key = d.has key := by
  induction d with
  | nil => rfl
  | cons e rest ih =>
      obtain ⟨k, o⟩ := e
      simp only [Dict.has] at ih
      simp [renamedEntries, Dict.has, ih]

@[simp] theorem int?_renamed (o : Obj) : (o.renamed f).int? = o.int? := by cases o <;> rfl

@[simp] theorem name?_renamed (o : Obj) : (o.renamed f).name? = o.name? := by cases o <;> rfl

@[simp] theorem dict?_renamed (o : Obj) :
    (o.renamed f).dict? = o.dict?.map (renamedEntries f) := by cases o <;> rfl

@[simp] theorem arr?_renamed (o : Obj) :
    (o.renamed f).arr? = o.arr?.map (List.map (Obj.renamed f)) := by
  cases o <;> first | rfl | exact congrArg some (renamedItems_eq_map f _)

@[simp] theorem ref?_renamed (o : Obj) : (o.renamed f).ref? = o.ref?.map f := by cases o <;> rfl

theorem intOfKey_renamedEntries (d : Dict) (key : String) :
    Dict.int? (renamedEntries f d) key = d.int? key := by
  simp only [Dict.int?, get?_renamedEntries]
  cases d.get? key <;> simp

theorem nameOfKey_renamedEntries (d : Dict) (key : String) :
    Dict.name? (renamedEntries f d) key = d.name? key := by
  simp only [Dict.name?, get?_renamedEntries]
  cases d.get? key <;> simp

theorem type?_renamedEntries (d : Dict) : Dict.type? (renamedEntries f d) = d.type? := by
  rw [Dict.type?, Dict.type?, nameOfKey_renamedEntries, has_renamedEntries]

/-! ## Streams -/

theorem undoAll_renamedEntries (params : Option Dict) :
    Predictor.undoAll (params.map (renamedEntries f)) = Predictor.undoAll params := by
  cases params with
  | none => rfl
  | some params =>
      have hsetting (key : String) (least : Nat) :
          Predictor.setting (renamedEntries f params) key least = Predictor.setting params key least := by
        rw [Predictor.setting, Predictor.setting, intOfKey_renamedEntries]
      funext data
      rw [Option.map_some, Predictor.undoAll, Predictor.undoAll]
      rw [intOfKey_renamedEntries, hsetting "Colors", hsetting "BitsPerComponent", hsetting "Columns"]

theorem undo_renamedEntries (params : Option Dict) :
    Filter.undo (params.map (renamedEntries f)) = Filter.undo params := by
  have hearly : (params.map (renamedEntries f)).bind (Dict.int? · "EarlyChange")
      = params.bind (·.int? "EarlyChange") := by
    cases params with
    | none => rfl
    | some params => exact intOfKey_renamedEntries f params "EarlyChange"
  funext data name
  rw [Filter.undo, Filter.undo, undoAll_renamedEntries, hearly]

theorem names_renamedEntries (d : Dict) : Filter.names (renamedEntries f d) = Filter.names d := by
  rw [Filter.names, Filter.names, get?_renamedEntries]
  cases d.get? "Filter" with
  | none => rfl
  | some value =>
      cases value with
      | arr items =>
          rw [Option.map_some, Obj.renamed, renamedItems_eq_map]
          simp only [List.mapM_map, Function.comp_def, name?_renamed]
      | _ => rfl

/-- The filters of a stream refer to nothing. -/
theorem breaksDown_renamedEntries (d : Dict) (data : Bytes) :
    Filter.breaksDown (renamedEntries f d) data = Filter.breaksDown d data := by
  have hparams : (Dict.get? (renamedEntries f d) "DecodeParms").bind Obj.dict?
      = ((d.get? "DecodeParms").bind Obj.dict?).map (renamedEntries f) := by
    rw [get?_renamedEntries]
    cases d.get? "DecodeParms" <;> simp
  rw [Filter.breaksDown, Filter.breaksDown, Filter.decode, Filter.decode, names_renamedEntries,
    nameOfKey_renamedEntries, hparams, undo_renamedEntries]

end Renamed

/-! ## What is found under the new numbers -/

namespace Objects

/-- Objects that are changed where they are. -/
theorem get?_map (os : Objects) (change : ObjId → Obj → Obj) (id : ObjId) :
    get? (os.map fun (i, o) => (i, change i o)) id = (os.get? id).map (change id) := by
  induction os with
  | nil => rfl
  | cons e rest ih =>
      obtain ⟨i, o⟩ := e
      rw [List.map_cons, get?_cons, get?_cons, ih]
      split
      · rename_i hi
        rw [hi]
        rfl
      · rfl

/-- Objects under the numbers from `start` on, in their order. -/
def moved (start : Nat) (os : Objects) : Objects :=
  os.zipIdx.map fun ((id, o), k) => (⟨start + k, id.gen⟩, o)

/-- Objects have new numbers from the first to the last. -/
theorem num_of_mem_moved {start : Nat} {os : Objects} {e : ObjId × Obj} (mem : e ∈ os.moved start) :
    start ≤ e.1.num ∧ e.1.num < start + os.length := by
  obtain ⟨⟨⟨id, o⟩, k⟩, hmem, rfl⟩ := List.mem_map.mp mem
  have hk := (List.mem_zipIdx hmem).2.1
  exact ⟨Nat.le_add_right _ _, by simpa using hk⟩

theorem get?_moved_of_num {start : Nat} {os : Objects} {id : ObjId}
    (apart : id.num < start ∨ start + os.length ≤ id.num) : (os.moved start).get? id = none := by
  rw [get?, Option.map_eq_none_iff, List.find?_eq_none]
  intro e he heq
  obtain ⟨hfrom, hto⟩ := num_of_mem_moved he
  have hid : e.1 = id := of_decide_eq_true heq
  rw [hid] at hfrom hto
  omega

/-- An object is found under its new number; `first` is the place of the first object. -/
theorem get?_zipIdx {os : Objects} {id : ObjId} {o : Obj} (used : os.get? id = some o)
    (start first : Nat) :
    ∃ k, os.findIdx? (fun (i, _) => i = id) = some k ∧
      get? ((os.zipIdx first).map fun ((id, o), k) => (⟨start + k, id.gen⟩, o))
        ⟨start + (first + k), id.gen⟩ = some o := by
  induction os generalizing first with
  | nil => cases used
  | cons e rest ih =>
      obtain ⟨i, other⟩ := e
      rw [get?_cons] at used
      rw [List.zipIdx_cons, List.map_cons, List.findIdx?_cons]
      by_cases hi : id = i
      · rw [if_pos hi] at used
        refine ⟨0, by simp [hi], ?_⟩
        rw [get?_cons, if_pos (by rw [hi]; rfl)]
        exact used
      · rw [if_neg hi] at used
        obtain ⟨k, hk, hfound⟩ := ih used (first + 1)
        refine ⟨k + 1, by simp [hk, Ne.symm hi], ?_⟩
        have hother : (⟨start + (first + (k + 1)), id.gen⟩ : ObjId) ≠ ⟨start + first, i.gen⟩ := by
          intro h
          have hnum := congrArg ObjId.num h
          simp only at hnum
          omega
        rw [get?_cons, if_neg hother]
        rwa [Nat.add_right_comm first 1 k] at hfound

end Objects

namespace Document

variable {doc other : Document} {f : ObjId → ObjId} {start : Nat}

/-- The document is the other one as well, but for the numbers of its objects. -/
structure Moved (f : ObjId → ObjId) (doc other : Document) : Prop where
  trailer : other.trailer = renamedEntries f doc.trailer
  objects : ∀ id, doc.Leads id → other.objects.get? (f id) = (doc.objects.get? id).map (Obj.renamed f)
  count : other.objects.length = doc.objects.length

/-- References that lead nowhere have none of the numbers that the objects of the document are given from
`start` on. -/
def Apart (doc : Document) (start : Nat) : Prop :=
  ∀ id, doc.Leads id → doc.objects.get? id = none →
    id.num < start ∨ start + doc.objects.length ≤ id.num

/-- Under its new number everything is found that references lead to, and nothing where they lead nowhere. -/
theorem get?_moved_newId {id : ObjId} (leads : doc.Leads id) (apart : doc.Apart start) :
    (doc.objects.moved start).get? (doc.newId start id) = doc.objects.get? id := by
  cases hused : doc.objects.get? id with
  | none =>
      have hnone : doc.objects.findIdx? (fun (i, _) => i = id) = none := by
        rw [Objects.get?, Option.map_eq_none_iff, List.find?_eq_none] at hused
        exact List.findIdx?_eq_none_iff.mpr fun e he => by simpa using hused e he
      rw [newId, hnone]
      exact Objects.get?_moved_of_num (apart id leads hused)
  | some o =>
      obtain ⟨k, hk, hfound⟩ := Objects.get?_zipIdx hused start 0
      rw [newId, hk]
      rwa [Nat.zero_add] at hfound

theorem moved_renumbered (apart : doc.Apart start) :
    Moved (doc.newId start) doc (doc.renumbered start) := by
  refine ⟨rfl, ?_, by simp [renumbered]⟩
  intro id leads
  let reached := (doc.objects.moved start).reach (fun o => o.refs.map (doc.newId start))
    ((refsOfEntries doc.trailer).map (doc.newId start))
  have hreached {id : ObjId} (leads : doc.Leads id) : doc.newId start id ∈ reached := by
    rw [Objects.mem_reach_iff]
    induction leads with
    | start given => exact .start (List.mem_map_of_mem given)
    | step leads found refers ih =>
        exact .step ih ((get?_moved_newId leads apart).trans found) (List.mem_map_of_mem refers)
  calc (doc.renumbered start).objects.get? (doc.newId start id)
      = ((doc.objects.moved start).get? (doc.newId start id)).map fun o =>
          if doc.newId start id ∈ reached then o.renamed (doc.newId start) else o :=
        Objects.get?_map (doc.objects.moved start)
          (fun id o => if id ∈ reached then o.renamed (doc.newId start) else o) (doc.newId start id)
    _ = (doc.objects.get? id).map (Obj.renamed (doc.newId start)) := by
      simp only [get?_moved_newId leads apart, hreached leads, if_true]

/-! ## Following references -/

/-- References lead to all these. -/
def AllLead (doc : Document) (ids : List ObjId) : Prop := ∀ id ∈ ids, doc.Leads id

/-- What an object refers to references lead to if they lead to the object. -/
theorem allLead_refs {id : ObjId} {o : Obj} (leads : doc.Leads id) (found : doc.objects.get? id = some o) :
    doc.AllLead o.refs := fun _ refers => .step leads found refers

theorem allLead_of_follow {steps : Nat} {o target : Obj} (lead : doc.AllLead o.refs)
    (followed : doc.objects.follow steps o = .ok target) : doc.AllLead target.refs := by
  fun_induction Objects.follow doc.objects steps o with
  | case1 steps id missing => cases followed
  | case2 id next found => cases followed
  | case3 id next found left ih => exact ih (allLead_refs (lead id List.mem_cons_self) found) followed
  | case4 steps o direct =>
      obtain rfl := Except.ok.inj followed
      exact lead

namespace Moved

theorem follow (moved : Moved f doc other) (steps : Nat) {o : Obj} (lead : doc.AllLead o.refs) :
    other.objects.follow steps (o.renamed f) = (doc.objects.follow steps o).map (Obj.renamed f) := by
  fun_induction Objects.follow doc.objects steps o with
  | case1 steps id missing =>
      have hmissing := moved.objects id (lead id List.mem_cons_self)
      rw [missing] at hmissing
      unfold Objects.follow
      simp only [Obj.renamed, hmissing]
      rfl
  | case2 id next found =>
      have hfound := moved.objects id (lead id List.mem_cons_self)
      rw [found] at hfound
      unfold Objects.follow
      simp only [Obj.renamed, hfound]
      rfl
  | case3 id next found left ih =>
      have leads : doc.Leads id := lead id List.mem_cons_self
      have hfound := moved.objects id leads
      rw [found] at hfound
      rw [← ih (allLead_refs leads found), Obj.renamed, Objects.follow, hfound]
      rfl
  | case4 steps o direct =>
      have hdirect : o.ref? = none := by
        cases o with
        | ref id => exact absurd rfl (direct id)
        | _ => rfl
      exact Objects.follow_self _ steps (by rw [ref?_renamed, hdirect]; rfl)

section Found

variable {id : ObjId}

theorem object (moved : Moved f doc other) (leads : doc.Leads id) :
    other.object (f id) = (doc.object id).map (Obj.renamed f) := by
  rw [Document.object, Document.object, moved.objects id leads]
  cases hfound : doc.objects.get? id with
  | none => rfl
  | some o => exact moved.follow referenceLimit (allLead_refs leads hfound)

theorem dictionary (moved : Moved f doc other) (leads : doc.Leads id) :
    other.dictionary (f id) = (doc.dictionary id).map (renamedEntries f) := by
  rw [Document.dictionary, Document.dictionary, moved.object leads]
  cases doc.object id with
  | error fault => rfl
  | ok o => cases o <;> rfl

end Found

theorem catalog (moved : Moved f doc other) :
    other.catalog = doc.catalog.map (renamedEntries f) := by
  rw [Document.catalog, Document.catalog, moved.trailer, get?_renamedEntries]
  cases hroot : doc.trailer.get? "Root" with
  | none => rfl
  | some o =>
      cases o with
      | ref root =>
          exact moved.dictionary (.start (mem_refsOfEntries_of_get? hroot List.mem_cons_self))
      | _ => rfl

end Moved

section Leads

variable {id : ObjId}

theorem allLead_of_object {o : Obj} (leads : doc.Leads id) (found : doc.object id = .ok o) :
    doc.AllLead o.refs := by
  unfold object at found
  split at found
  · cases found
  · rename_i first hfirst
    exact allLead_of_follow (allLead_refs leads hfirst) found

theorem allLead_of_dictionary {d : Dict} (leads : doc.Leads id) (found : doc.dictionary id = .ok d) :
    doc.AllLead (refsOfEntries d) := by
  obtain ⟨o, hobject, found⟩ := bind_eq_ok found
  have lead := allLead_of_object leads hobject
  cases o with
  | dict entries =>
      obtain rfl := Except.ok.inj found
      exact lead
  | _ => cases found

theorem allLead_of_catalog {d : Dict} (found : doc.catalog = .ok d) : doc.AllLead (refsOfEntries d) := by
  unfold catalog at found
  split at found
  · cases found
  · rename_i root hroot
    exact allLead_of_dictionary (.start (mem_refsOfEntries_of_get? hroot List.mem_cons_self)) found
  · cases found

theorem allLead_of_get? {d : Dict} {key : String} {o : Obj} (lead : doc.AllLead (refsOfEntries d))
    (value : d.get? key = some o) : doc.AllLead o.refs :=
  fun id refers => lead id (mem_refsOfEntries_of_get? value refers)

end Leads

/-! ## The pages -/

theorem allLead_of_kids {id : ObjId} (leads : doc.Leads id) {o : Obj} (kid : o ∈ doc.kids id) :
    doc.AllLead o.refs := by
  unfold kids at kid
  split at kid
  · rename_i d hd
    cases hkids : d.get? "Kids" with
    | none => simp [hkids] at kid
    | some value =>
        have lead := allLead_of_get? (allLead_of_dictionary leads hd) hkids
        cases value with
        | arr items =>
            rw [hkids] at kid
            exact fun i refers => lead i (mem_refsOfItems.mpr ⟨o, kid, refers⟩)
        | _ => simp [hkids, Obj.arr?] at kid
  · cases kid

/-- References lead to all that stands on some levels of a tree. -/
def StackLeads (doc : Document) (stack : List (List Obj)) : Prop :=
  ∀ level ∈ stack, ∀ o ∈ level, doc.AllLead o.refs

theorem StackLeads.of_dropWhile {stack outer : List (List Obj)} {kid : Obj} {rest : List Obj}
    (lead : doc.StackLeads stack) (hstack : stack.dropWhile List.isEmpty = (kid :: rest) :: outer) :
    doc.AllLead kid.refs ∧ doc.StackLeads (rest :: outer) := by
  have hsub : (kid :: rest) :: outer ⊆ stack := hstack ▸ (List.dropWhile_suffix _).subset
  obtain ⟨hlevel, houter⟩ := List.forall_mem_cons.mp fun level hlevel => lead level (hsub hlevel)
  obtain ⟨hkid, hrest⟩ := List.forall_mem_cons.mp hlevel
  exact ⟨hkid, List.forall_mem_cons.mpr ⟨hrest, houter⟩⟩

/-- Below a node there is a level more. -/
theorem StackLeads.below {outer : List (List Obj)} {id : ObjId} {rest : List Obj} (leads : doc.Leads id)
    (lead : doc.StackLeads (rest :: outer)) :
    doc.StackLeads (doc.kids id :: if rest.isEmpty then outer else rest :: outer) := by
  refine List.forall_mem_cons.mpr ⟨fun o kid => allLead_of_kids leads kid, ?_⟩
  split
  · exact (List.forall_mem_cons.mp lead).2
  · exact lead

theorem stackLeads_kids {id : ObjId} (leads : doc.Leads id) : doc.StackLeads [doc.kids id] :=
  List.forall_mem_singleton.mpr fun _ kid => allLead_of_kids leads kid

/-- References lead to the root of the page tree. -/
theorem leads_of_pagesRoot {root : ObjId}
    (value : doc.catalog.toOption.bind (·.get? "Pages") = some (.ref root)) : doc.Leads root := by
  cases hcatalog : doc.catalog with
  | error fault => simp [hcatalog, Except.toOption] at value
  | ok d =>
      rw [hcatalog] at value
      exact allLead_of_get? (allLead_of_catalog hcatalog) value root List.mem_cons_self

theorem allLead_pagesFrom (visits : Nat) {stack : List (List Obj)} (lead : doc.StackLeads stack) :
    doc.AllLead (doc.pagesFrom visits stack) := by
  fun_induction Document.pagesFrom doc visits stack with
  | case1 stack => nofun
  | case2 visits stack rest outer next id htype hstack ih =>
      obtain ⟨hkid, hrest⟩ := lead.of_dropWhile hstack
      exact List.forall_mem_cons.mpr ⟨hkid id List.mem_cons_self, ih hrest⟩
  | case3 visits stack rest outer next id htype room further hstack ih =>
      obtain ⟨hkid, hrest⟩ := lead.of_dropWhile hstack
      exact ih (hrest.below (hkid id List.mem_cons_self))
  | case4 visits stack rest outer next id htype room hstack ih => exact ih (lead.of_dropWhile hstack).2
  | case5 visits stack rest outer next id noPage noNode hstack ih =>
      exact ih (lead.of_dropWhile hstack).2
  | case6 visits stack kid rest outer hstack next direct ih => exact ih (lead.of_dropWhile hstack).2
  | case7 visits stack none => nofun

/-- References lead to the pages. -/
theorem allLead_pages (doc : Document) : doc.AllLead doc.pages := by
  unfold pages
  split
  · rename_i root hroot
    exact allLead_pagesFrom _ (stackLeads_kids (leads_of_pagesRoot hroot))
  · nofun

namespace Moved

theorem kids (moved : Moved f doc other) {id : ObjId} (leads : doc.Leads id) :
    other.kids (f id) = (doc.kids id).map (Obj.renamed f) := by
  rw [Document.kids, Document.kids, moved.dictionary leads]
  cases doc.dictionary id with
  | error fault => rfl
  | ok d =>
      simp only [Except.map, get?_renamedEntries]
      cases d.get? "Kids" with
      | none => rfl
      | some value =>
          rw [Option.map_some, Option.bind_some, Option.bind_some, arr?_renamed]
          cases value.arr? <;> rfl

/-- A node has the same type. -/
theorem type? (moved : Moved f doc other) {id : ObjId} (leads : doc.Leads id) :
    (other.dictionary (f id)).toOption.bind Dict.type? = (doc.dictionary id).toOption.bind Dict.type? := by
  rw [moved.dictionary leads]
  cases doc.dictionary id with
  | error fault => rfl
  | ok d => exact type?_renamedEntries f d

theorem dropWhile_isEmpty (f : ObjId → ObjId) (stack : List (List Obj)) :
    (stack.map (List.map (Obj.renamed f))).dropWhile List.isEmpty
      = (stack.dropWhile List.isEmpty).map (List.map (Obj.renamed f)) := by
  rw [List.dropWhile_map]
  congr 2
  funext level
  simp

/-- Both walks visit the same nodes, as long as references lead to what is still to be visited. -/
theorem pagesFrom (moved : Moved f doc other) (visits : Nat) {stack : List (List Obj)}
    (lead : doc.StackLeads stack) :
    other.pagesFrom visits (stack.map (List.map (Obj.renamed f))) = (doc.pagesFrom visits stack).map f := by
  fun_induction Document.pagesFrom doc visits stack with
  | case1 stack => rfl
  | case2 visits stack rest outer next id htype hstack ih =>
      obtain ⟨hkid, hrest⟩ := lead.of_dropWhile hstack
      have hother := (moved.type? (hkid id List.mem_cons_self)).trans htype
      rw [Document.pagesFrom, dropWhile_isEmpty, hstack]
      simp only [List.map_cons, Obj.renamed, hother]
      rw [← ih hrest]
      rfl
  | case3 visits stack rest outer next id htype room further hstack ih =>
      obtain ⟨hkid, hrest⟩ := lead.of_dropWhile hstack
      have leads : doc.Leads id := hkid id List.mem_cons_self
      have hother := (moved.type? leads).trans htype
      rw [Document.pagesFrom, dropWhile_isEmpty, hstack]
      simp only [List.map_cons, Obj.renamed, hother, List.length_map, room, if_true, moved.kids leads]
      rw [← ih (hrest.below leads), List.map_cons, List.isEmpty_map]
      simp only [further, next, apply_ite (List.map (List.map (Obj.renamed f))), List.map_cons]
  | case4 visits stack rest outer next id htype room hstack ih =>
      obtain ⟨hkid, hrest⟩ := lead.of_dropWhile hstack
      have hother := (moved.type? (hkid id List.mem_cons_self)).trans htype
      rw [Document.pagesFrom, dropWhile_isEmpty, hstack]
      simp only [List.map_cons, Obj.renamed, hother, List.length_map, room, if_false]
      exact ih hrest
  | case5 visits stack rest outer next id noPage noNode hstack ih =>
      obtain ⟨hkid, hrest⟩ := lead.of_dropWhile hstack
      have hother := moved.type? (hkid id List.mem_cons_self)
      rw [Document.pagesFrom, dropWhile_isEmpty, hstack]
      simp only [List.map_cons, Obj.renamed, hother]
      exact ih hrest
  | case6 visits stack kid rest outer hstack next direct ih =>
      obtain ⟨-, hrest⟩ := lead.of_dropWhile hstack
      rw [Document.pagesFrom, dropWhile_isEmpty, hstack]
      cases kid with
      | ref id => exact absurd rfl (direct id)
      | _ => exact ih hrest
  | case7 visits stack none =>
      rw [Document.pagesFrom, dropWhile_isEmpty]
      cases hstack : stack.dropWhile List.isEmpty with
      | nil => rfl
      | cons level outer =>
          cases level with
          | nil => rfl
          | cons kid rest => exact absurd hstack (none kid rest outer)

/-- The same pages, under their new numbers. -/
theorem pages (moved : Moved f doc other) : other.pages = doc.pages.map f := by
  have hcatalog : other.catalog.toOption.bind (·.get? "Pages")
      = (doc.catalog.toOption.bind (·.get? "Pages")).map (Obj.renamed f) := by
    rw [moved.catalog]
    cases doc.catalog with
    | error fault => rfl
    | ok d => exact get?_renamedEntries f d "Pages"
  rw [Document.pages, Document.pages, hcatalog]
  cases hroot : doc.catalog.toOption.bind (·.get? "Pages") with
  | none => rfl
  | some value =>
      cases value with
      | ref root =>
          have leads : doc.Leads root := leads_of_pagesRoot hroot
          have hfrom := moved.pagesFrom doc.objects.length (stackLeads_kids leads)
          simp only [Option.map_some, Obj.renamed, moved.kids leads, moved.count]
          exact hfrom
      | _ => rfl

end Moved

/-! ## The content of a page -/

theorem allLead_contentIds {steps : Nat} {o : Obj} (lead : doc.AllLead o.refs) :
    doc.AllLead (doc.contentIds steps o) := by
  fun_induction Document.contentIds doc steps o with
  | case1 steps id missing => exact lead
  | case2 steps id entries data found => exact lead
  | case3 id target noStream found => nofun
  | case4 id target noStream found left ih =>
      exact ih (allLead_refs (lead id List.mem_cons_self) found)
  | case5 steps items =>
      intro id hid
      obtain ⟨o, ho, href⟩ := List.mem_filterMap.mp hid
      refine lead id (mem_refsOfItems.mpr ⟨o, ho, ?_⟩)
      cases o <;> simp_all [Obj.ref?, Obj.refs]
  | case6 steps o noRef noArray => nofun

theorem allLead_of_value {id : ObjId} {key : String} {o : Obj} (leads : doc.Leads id)
    (value : (doc.dictionary id).toOption.bind (·.get? key) = some o) : doc.AllLead o.refs := by
  cases hd : doc.dictionary id with
  | error fault => simp [hd, Except.toOption] at value
  | ok d =>
      rw [hd] at value
      exact allLead_of_get? (allLead_of_dictionary leads hd) value

theorem allLead_contentStreams {id : ObjId} (leads : doc.Leads id) :
    doc.AllLead (doc.contentStreams id) := by
  unfold contentStreams
  split
  · rename_i o value
    exact allLead_contentIds (allLead_of_value leads value)
  · nofun

namespace Moved

theorem contentIds (moved : Moved f doc other) (steps : Nat) {o : Obj} (lead : doc.AllLead o.refs) :
    other.contentIds steps (o.renamed f) = (doc.contentIds steps o).map f := by
  fun_induction Document.contentIds doc steps o with
  | case1 steps id missing =>
      have hmissing := moved.objects id (lead id List.mem_cons_self)
      rw [missing] at hmissing
      unfold Document.contentIds
      simp [Obj.renamed, hmissing]
  | case2 steps id entries data found =>
      have hfound := moved.objects id (lead id List.mem_cons_self)
      rw [found] at hfound
      unfold Document.contentIds
      simp [Obj.renamed, hfound]
  | case3 id target noStream found =>
      have hfound := moved.objects id (lead id List.mem_cons_self)
      rw [found] at hfound
      rw [Obj.renamed, Document.contentIds, hfound]
      cases target with
      | stream entries data => exact absurd rfl (noStream entries data)
      | _ => rfl
  | case4 id target noStream found left ih =>
      have leads : doc.Leads id := lead id List.mem_cons_self
      have hfound := moved.objects id leads
      rw [found] at hfound
      have hrest := ih (allLead_refs leads found)
      rw [Obj.renamed, Document.contentIds, hfound]
      cases target with
      | stream entries data => exact absurd rfl (noStream entries data)
      | _ => exact hrest
  | case5 steps items =>
      rw [Obj.renamed, Document.contentIds, renamedItems_eq_map, List.filterMap_map, List.map_filterMap]
      simp only [Function.comp_def, ref?_renamed]
  | case6 steps o noRef noArray =>
      cases o with
      | ref id => exact absurd rfl (noRef id)
      | arr items => exact absurd rfl (noArray items)
      | _ => simp [Obj.renamed, Document.contentIds]

theorem contentStreams (moved : Moved f doc other) {id : ObjId} (leads : doc.Leads id) :
    other.contentStreams (f id) = (doc.contentStreams id).map f := by
  have hvalue : (other.dictionary (f id)).toOption.bind (·.get? "Contents")
      = ((doc.dictionary id).toOption.bind (·.get? "Contents")).map (Obj.renamed f) := by
    rw [moved.dictionary leads]
    cases doc.dictionary id with
    | error fault => rfl
    | ok d => exact get?_renamedEntries f d "Contents"
  rw [Document.contentStreams, Document.contentStreams, hvalue]
  cases hfound : (doc.dictionary id).toOption.bind (·.get? "Contents") with
  | none => rfl
  | some o => exact moved.contentIds _ (allLead_of_value leads hfound)

/-- The content of a page can be read if it could be read. -/
theorem contentBreaksDown (moved : Moved f doc other) {id : ObjId} (leads : doc.Leads id) :
    other.contentBreaksDown (f id) = doc.contentBreaksDown id := by
  rw [Document.contentBreaksDown, Document.contentBreaksDown, moved.contentStreams leads, List.any_map,
    Bool.eq_iff_iff, List.any_eq_true, List.any_eq_true]
  refine exists_congr fun stream => and_congr_right fun hstream => ?_
  rw [Function.comp, moved.object (allLead_contentStreams leads stream hstream)]
  cases doc.object stream with
  | error fault => rfl
  | ok o =>
      cases o with
      | stream d data => simp [Except.map, Obj.renamed, breaksDown_renamedEntries]
      | _ => rfl

end Moved

/-- The pages of a document that has been renumbered are the pages that it had. -/
theorem pages_renumbered (apart : doc.Apart start) :
    (doc.renumbered start).pages = doc.pages.map (doc.newId start) :=
  (moved_renumbered apart).pages

/-- The content of a page can be read after a document has been renumbered if and only if it could be
before. -/
theorem contentBreaksDown_renumbered (apart : doc.Apart start) {page : ObjId} (mem : page ∈ doc.pages) :
    (doc.renumbered start).contentBreaksDown (doc.newId start page) = doc.contentBreaksDown page :=
  (moved_renumbered apart).contentBreaksDown (allLead_pages doc page mem)

end Document

end DocumentCard.Pdf
