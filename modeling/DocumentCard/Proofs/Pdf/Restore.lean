import DocumentCard.Pdf.Load
import DocumentCard.Pdf.Write
set_option autoImplicit false

/-!
# What a file keeps of a document

A document that has been written and read again need not be the same: a whole number with a point comes
back without it, and what only makes sense in a file's own structure is left out.  Everything else is
plain (`Obj.isPlain`), and a file restores a document when it keeps the values of the trailer and the
plain objects (`Document.Restores`).

Whether it does can be computed for a document at hand (`Document.restores_of_isReadBack`).
-/

namespace DocumentCard.Pdf

mutual

/-- Whether there is no number with a point in an object. -/
def Obj.isWhole : Obj → Bool
  | .real _ => false
  | .arr items => wholeItems items
  | .dict d => wholeEntries d
  | .stream d _ => wholeEntries d
  | _ => true

/-- Whether there is no number with a point among items. -/
def wholeItems : List Obj → Bool
  | [] => true
  | o :: rest => o.isWhole && wholeItems rest

/-- Whether there is no number with a point among entries. -/
def wholeEntries : List (String × Obj) → Bool
  | [] => true
  | (_, o) :: rest => o.isWhole && wholeEntries rest

end

/-- Whether an object is one that a file keeps.  A whole number with a point loses it there, and what
only makes sense in a file's own structure is left out. -/
def Obj.isPlain (o : Obj) : Bool := o.isWhole && !Write.isStructural o

/-- A document that has been written, and the one that is read from the file: the trailer has the same
values, and plain objects are the same. -/
structure Document.Restores (doc after : Document) : Prop where
  trailer : ∀ key value, doc.trailer.get? key = some value → after.trailer.get? key = some value
  objects : ∀ id o, doc.objects.get? id = some o → o.isPlain = true →
    after.objects.get? id = some o

/-! ## Reading a document back -/

mutual

/-- Whether two objects are the same; a number with a point is not taken for the same as anything. -/
def Obj.same : Obj → Obj → Bool
  | .null, .null => true
  | .bool a, .bool b => a = b
  | .int a, .int b => a = b
  | .name a, .name b => a = b
  | .str a form, .str b other => a = b && form = other
  | .arr a, .arr b => sameItems a b
  | .dict a, .dict b => sameEntries a b
  | .stream a data, .stream b other => sameEntries a b && data = other
  | .ref a, .ref b => a = b
  | _, _ => false

/-- Whether the items of two arrays are the same. -/
def sameItems : List Obj → List Obj → Bool
  | [], [] => true
  | a :: as, b :: bs => a.same b && sameItems as bs
  | _, _ => false

/-- Whether the entries of two dictionaries are the same, in the same order. -/
def sameEntries : List (String × Obj) → List (String × Obj) → Bool
  | [], [] => true
  | (k, a) :: as, (l, b) :: bs => k = l && a.same b && sameEntries as bs
  | _, _ => false

end

mutual

theorem Obj.eq_of_same (a b : Obj) (h : a.same b = true) : a = b := by
  cases a with
  | arr items =>
      cases b with
      | arr others => exact congrArg Obj.arr (eq_of_sameItems items others h)
      | _ => cases h
  | dict entries =>
      cases b with
      | dict others => exact congrArg Obj.dict (eq_of_sameEntries entries others h)
      | _ => cases h
  | stream entries data =>
      cases b with
      | stream others other =>
          simp only [Obj.same, Bool.and_eq_true, decide_eq_true_eq] at h
          rw [eq_of_sameEntries entries others h.1, h.2]
      | _ => cases h
  | _ => cases b <;> simp_all [Obj.same]

theorem eq_of_sameItems (as bs : List Obj) (h : sameItems as bs = true) : as = bs := by
  cases as with
  | nil =>
      cases bs with
      | nil => rfl
      | cons b bs => cases h
  | cons a as =>
      cases bs with
      | nil => cases h
      | cons b bs =>
          simp only [sameItems, Bool.and_eq_true] at h
          rw [Obj.eq_of_same a b h.1, eq_of_sameItems as bs h.2]

theorem eq_of_sameEntries (as bs : List (String × Obj)) (h : sameEntries as bs = true) :
    as = bs := by
  cases as with
  | nil =>
      cases bs with
      | nil => rfl
      | cons b bs => cases h
  | cons a as =>
      cases bs with
      | nil => cases h
      | cons b bs =>
          obtain ⟨k, a⟩ := a
          obtain ⟨l, b⟩ := b
          simp only [sameEntries, Bool.and_eq_true, decide_eq_true_eq] at h
          rw [h.1.1, Obj.eq_of_same a b h.1.2, eq_of_sameEntries as bs h.2]

end

namespace Document

/-- Whether a document is read back from its file with the same trailer values and objects. -/
def isReadBack (doc : Document) : Bool :=
  match load (write doc) with
  | .error _ => false
  | .ok after =>
      (doc.trailer.all fun (key, value) =>
        match after.trailer.get? key with
        | some other => value.same other
        | none => false) &&
      doc.objects.all fun (id, o) =>
        match after.objects.get? id with
        | some other => o.same other
        | none => false

/-- A document that is read back is restored. -/
theorem restores_of_isReadBack {doc : Document} (h : doc.isReadBack = true) :
    ∃ after, load (write doc) = .ok after ∧ doc.Restores after := by
  unfold isReadBack at h
  cases hload : load (write doc) with
  | error fault => simp [hload] at h
  | ok after =>
      simp only [hload, Bool.and_eq_true, List.all_eq_true] at h
      obtain ⟨htrailer, hobjects⟩ := h
      refine ⟨after, rfl, ?_, ?_⟩
      · intro key value hvalue
        obtain ⟨⟨k, v⟩, hfind, rfl⟩ := Option.map_eq_some_iff.mp hvalue
        obtain rfl : k = key := by simpa using List.find?_some hfind
        have hsame := htrailer _ (List.mem_of_find?_eq_some hfind)
        cases hother : after.trailer.get? k with
        | none => simp [hother] at hsame
        | some other =>
            simp only [hother] at hsame
            rw [Obj.eq_of_same _ _ hsame]
      · intro id o hobject _
        obtain ⟨⟨i, p⟩, hfind, rfl⟩ := Option.map_eq_some_iff.mp hobject
        obtain rfl : i = id := by simpa using List.find?_some hfind
        have hsame := hobjects _ (List.mem_of_find?_eq_some hfind)
        cases hother : after.objects.get? i with
        | none => simp [hother] at hsame
        | some other =>
            simp only [hother] at hsame
            rw [Obj.eq_of_same _ _ hsame]

end Document

end DocumentCard.Pdf
