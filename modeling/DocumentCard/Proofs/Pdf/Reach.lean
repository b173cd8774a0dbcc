import DocumentCard.Pdf.Reachable
set_option autoImplicit false

/-!
# Following references to the end

What is dropped from a document is exactly what no reference leads to.  The walk along references has
a limit, and the limit is never met: each reference of an object is pending once at most, because an
object is followed once.  So what is still to be followed, together with the references of the objects
that have not been seen (`Objects.unseen`), grows smaller with every step.

Main statements: the walk finds what references lead to and nothing else (`Objects.mem_reach_iff`), and
a document without the rest has the same objects there (`Document.get?_pruned`).
-/

namespace DocumentCard.Pdf

namespace Objects

variable {os : Objects} {targets : Obj → List ObjId} {start : List ObjId}

/-- What references lead to from the given ones. -/
inductive Leads (os : Objects) (targets : Obj → List ObjId) (start : List ObjId) : ObjId → Prop where
  | start {id : ObjId} (given : id ∈ start) : Leads os targets start id
  | step {id target : ObjId} {o : Obj} (leads : Leads os targets start id)
      (found : os.get? id = some o) (refers : target ∈ targets o) : Leads os targets start target

/-- The references of an object, as the walk takes them. -/
def targetsOf (os : Objects) (targets : Obj → List ObjId) (id : ObjId) : List ObjId :=
  ((os.get? id).map targets).getD []

theorem mem_targetsOf {id target : ObjId} :
    target ∈ os.targetsOf targets id ↔ ∃ o, os.get? id = some o ∧ target ∈ targets o := by
  unfold targetsOf
  cases os.get? id with
  | none => simp
  | some o => simp

/-- The number of references that unseen objects hold. -/
def unseen (targets : Obj → List ObjId) (seen : ObjIds) : Objects → Nat
  | [] => 0
  | (id, o) :: rest => (if id ∈ seen then 0 else (targets o).length) + unseen targets seen rest

theorem unseen_insert_le (os : Objects) (targets : Obj → List ObjId) (seen : ObjIds) (id : ObjId) :
    unseen targets (seen.insert id) os ≤ unseen targets seen os := by
  induction os with
  | nil => exact Nat.le_refl 0
  | cons e rest ih =>
      obtain ⟨i, o⟩ := e
      simp only [unseen, ObjIds.mem_insert]
      by_cases hseen : i ∈ seen
      · simp only [hseen, or_true, if_true]
        omega
      · by_cases hi : i = id
        · simp only [hi, true_or, if_true]
          omega
        · simp only [hi, hseen, or_self, if_false]
          omega

/-- The references of an object that is seen for the first time are not counted again. -/
theorem unseen_insert (os : Objects) (targets : Obj → List ObjId) {seen : ObjIds} {id : ObjId}
    (new : id ∉ seen) :
    unseen targets (seen.insert id) os + (os.targetsOf targets id).length
      ≤ unseen targets seen os := by
  induction os with
  | nil => simp [unseen, targetsOf, get?]
  | cons e rest ih =>
      obtain ⟨i, o⟩ := e
      by_cases hi : i = id
      · subst hi
        have hle := unseen_insert_le rest targets seen i
        have hfirst : targetsOf ((i, o) :: rest) targets i = targets o := by
          simp [targetsOf, get?]
        rw [hfirst]
        simp only [unseen, new, ObjIds.mem_insert, true_or, if_true, if_false]
        omega
      · have hlater : targetsOf ((i, o) :: rest) targets id = targetsOf rest targets id := by
          simp [targetsOf, get?, hi]
        rw [hlater]
        simp only [unseen, ObjIds.mem_insert, hi, false_or]
        omega

/-- What a walk has to find: what it has seen and what is pending, and with each thing what that
refers to. -/
structure Closed (targetsOf : ObjId → List ObjId) (seen : ObjIds) (pending : List ObjId)
    (found : ObjIds) : Prop where
  seen : ∀ id ∈ seen, id ∈ found
  pending : ∀ id ∈ pending, id ∈ found
  closed : ∀ id ∈ found, ∀ target ∈ targetsOf id, target ∈ found

/-- A walk with enough steps left finds everything. -/
theorem closed_reachFrom (os : Objects) (targets : Obj → List ObjId) {seen : ObjIds}
    {pending : List ObjId} {fuel : Nat} (enough : pending.length + unseen targets seen os < fuel)
    (followed : ∀ id ∈ seen, ∀ target ∈ os.targetsOf targets id, target ∈ seen ∨ target ∈ pending) :
    Closed (os.targetsOf targets) seen pending
      (reachFrom (os.targetsOf targets) seen fuel pending) := by
  induction fuel generalizing seen pending with
  | zero => omega
  | succ fuel ih =>
      cases pending with
      | nil =>
          refine ⟨fun _ hid => hid, nofun, ?_⟩
          intro id hid target htarget
          exact (followed id hid target htarget).resolve_right List.not_mem_nil
      | cons id pending =>
          rw [List.length_cons] at enough
          by_cases hseen : id ∈ seen
          · simp only [reachFrom, if_pos hseen]
            have hrest : Closed (os.targetsOf targets) seen pending
                (reachFrom (os.targetsOf targets) seen fuel pending) := by
              apply ih (by omega)
              intro i hi target h
              rcases followed i hi target h with hold | hnew
              · exact Or.inl hold
              · rcases List.mem_cons.mp hnew with rfl | hlater
                · exact Or.inl hseen
                · exact Or.inr hlater
            exact ⟨hrest.seen, List.forall_mem_cons.mpr ⟨hrest.seen id hseen, hrest.pending⟩,
              hrest.closed⟩
          · simp only [reachFrom, if_neg hseen]
            have hless := unseen_insert os targets hseen
            have hrest : Closed (os.targetsOf targets) (seen.insert id)
                (os.targetsOf targets id ++ pending)
                (reachFrom (os.targetsOf targets) (seen.insert id) fuel
                  (os.targetsOf targets id ++ pending)) := by
              apply ih (by rw [List.length_append]; omega)
              intro i hi target h
              rcases ObjIds.mem_insert.mp hi with rfl | hold
              · exact Or.inr (List.mem_append_left _ h)
              · rcases followed i hold target h with hseen' | hnew
                · exact Or.inl (ObjIds.mem_insert.mpr (Or.inr hseen'))
                · rcases List.mem_cons.mp hnew with rfl | hlater
                  · exact Or.inl (ObjIds.mem_insert.mpr (Or.inl rfl))
                  · exact Or.inr (List.mem_append_right _ hlater)
            refine ⟨fun i hi => hrest.seen i (ObjIds.mem_insert.mpr (Or.inr hi)), ?_, hrest.closed⟩
            intro i hi
            rcases List.mem_cons.mp hi with rfl | hlater
            · exact hrest.seen _ (ObjIds.mem_insert.mpr (Or.inl rfl))
            · exact hrest.pending i (List.mem_append_right _ hlater)

/-- A walk finds nothing but what references lead to. -/
theorem leads_of_mem_reachFrom {seen : ObjIds} {pending : List ObjId} {fuel : Nat}
    (seen_leads : ∀ id ∈ seen, Leads os targets start id)
    (pending_leads : ∀ id ∈ pending, Leads os targets start id) :
    ∀ id ∈ reachFrom (os.targetsOf targets) seen fuel pending, Leads os targets start id := by
  induction fuel generalizing seen pending with
  | zero => exact seen_leads
  | succ fuel ih =>
      cases pending with
      | nil => exact seen_leads
      | cons id pending =>
          rw [List.forall_mem_cons] at pending_leads
          obtain ⟨leads, later⟩ := pending_leads
          unfold reachFrom
          split
          · exact ih seen_leads later
          · apply ih
            · intro i hi
              rcases ObjIds.mem_insert.mp hi with rfl | hold
              · exact leads
              · exact seen_leads i hold
            intro target htarget
            rcases List.mem_append.mp htarget with hnew | hlater
            · obtain ⟨o, found, refers⟩ := mem_targetsOf.mp hnew
              exact .step leads found refers
            · exact later target hlater

/-- The count that limits the walk is that of all references. -/
theorem foldl_targets (os : Objects) (targets : Obj → List ObjId) (n : Nat) :
    os.foldl (fun n (_, o) => n + (targets o).length) n = n + unseen targets ∅ os := by
  induction os generalizing n with
  | nil => rfl
  | cons e rest ih =>
      rw [List.foldl_cons, ih]
      simp only [unseen, Std.TreeSet.not_mem_emptyc, if_false]
      omega

/-- The walk from the given references finds what they lead to, and nothing else. -/
theorem mem_reach_iff {id : ObjId} :
    id ∈ os.reach targets start ↔ Leads os targets start id := by
  have hreach : os.reach targets start
      = reachFrom (os.targetsOf targets) ∅ (start.length + unseen targets ∅ os + 1) start := by
    unfold reach
    simp only [getElem?_tree, foldl_targets]
    rfl
  rw [hreach]
  constructor
  · exact leads_of_mem_reachFrom (by simp) (fun i hi => .start hi) id
  · intro leads
    have hclosed : Closed (os.targetsOf targets) ∅ start
        (reachFrom (os.targetsOf targets) ∅ (start.length + unseen targets ∅ os + 1) start) :=
      closed_reachFrom os targets (Nat.lt_succ_self _) (by simp)
    induction leads with
    | start given => exact hclosed.pending _ given
    | step leads found refers ih => exact hclosed.closed _ ih _ (mem_targetsOf.mpr ⟨_, found, refers⟩)

/-- Dropping objects by their numbers does not change the others. -/
theorem get?_filter (os : Objects) (p : ObjId → Bool) (id : ObjId) :
    get? (os.filter fun (i, _) => p i) id = if p id then os.get? id else none := by
  unfold get?
  rw [List.find?_filter]
  by_cases hp : p id = true
  · have same : (fun a : ObjId × Obj => decide (p a.1 = true ∧ decide (a.1 = id) = true))
        = fun a => decide (a.1 = id) := by
      funext a
      by_cases h : a.1 = id <;> simp [h, hp]
    rw [if_pos hp]
    exact congrArg (fun q => (os.find? q).map Prod.snd) same
  · rw [if_neg hp, Option.map_eq_none_iff, List.find?_eq_none]
    intro a _ ha
    simp only [decide_eq_true_eq] at ha
    exact hp (ha.2 ▸ ha.1)

/-- What is no reference leads to itself. -/
theorem follow_self (os : Objects) (steps : Nat) {o : Obj} (direct : o.ref? = none) :
    os.follow steps o = .ok o := by
  cases o with
  | ref id => cases direct
  | _ => simp [follow]

end Objects

/-- What the value of a key refers to its dictionary refers to. -/
theorem mem_refsOfEntries_of_get? {d : Dict} {key : String} {o : Obj} {id : ObjId}
    (value : d.get? key = some o) (refers : id ∈ o.refs) : id ∈ refsOfEntries d := by
  induction d with
  | nil => cases value
  | cons e rest ih =>
      obtain ⟨k, v⟩ := e
      rw [refsOfEntries, List.mem_append]
      by_cases hk : k = key
      · left
        simp only [Dict.get?, List.find?_cons, hk, decide_true, Option.map_some,
          Option.some.injEq] at value
        rwa [value]
      · right
        apply ih
        simpa [Dict.get?, hk] using value

namespace Document

/-- What references lead to from the trailer. -/
def Leads (doc : Document) : ObjId → Prop :=
  doc.objects.Leads Obj.refs (refsOfEntries doc.trailer)

/-- Without the objects to which nothing leads the others are the same. -/
theorem get?_pruned {doc : Document} {id : ObjId} (leads : doc.Leads id) :
    doc.pruned.objects.get? id = doc.objects.get? id := by
  have hkept : id ∈ doc.objects.reach Obj.refs (refsOfEntries doc.trailer) :=
    Objects.mem_reach_iff.mpr leads
  have hfilter := Objects.get?_filter doc.objects
    (fun i => decide (i ∈ doc.objects.reach Obj.refs (refsOfEntries doc.trailer))) id
  rw [if_pos (decide_eq_true hkept)] at hfilter
  exact hfilter

end Document

end DocumentCard.Pdf
