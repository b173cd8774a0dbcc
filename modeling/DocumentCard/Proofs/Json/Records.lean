import DocumentCard.Json.Decode
import DocumentCard.Proofs.Steps
import Mathlib.Data.List.Perm.Basic
import Mathlib.Data.List.Nodup
import Mathlib.Data.List.Pairwise
set_option autoImplicit false

/-!
# Records are read in any order

An object is written with its keys in ascending order, and a record is declared in another order.  Reading
follows the object: each field enters the part of the record that the key names.  As long as different members
of a record enter different parts (`AreApart`), and each key stands once, the order of the fields does not
matter (`enterFields_perm`).  So an object that has a value for each member is read as if it were the array of
these values in the order of the declaration (`record_ofFields`), and there nothing is looked up.
-/

namespace DocumentCard.Json

namespace Value

/-! ## The fields of an object -/

/-- A field with a new key is one field more. -/
theorem insertField_perm {key : String} (value : Value) {fields : List (String × Value)}
    (new : key ∉ fields.map Prod.fst) : (insertField key value fields).Perm ((key, value) :: fields) := by
  fun_induction insertField key value fields with
  | case1 => exact .refl _
  | case2 => exact .refl _
  | case3 => exact absurd List.mem_cons_self new
  | case4 k v rest _ _ ih =>
      rw [List.map_cons, List.mem_cons, not_or] at new
      exact ((ih new.2).cons (k, v)).trans (.swap ..)

theorem foldl_insertField_perm {fields done : List (String × Value)}
    (distinct : ((done ++ fields).map Prod.fst).Nodup) :
    (fields.foldl (fun done (key, value) => insertField key value done) done).Perm (done ++ fields) := by
  induction fields generalizing done with
  | nil => rw [List.append_nil]; exact .refl _
  | cons field rest ih =>
      obtain ⟨key, value⟩ := field
      have hmoved : (done ++ (key, value) :: rest).Perm (((key, value) :: done) ++ rest) :=
        List.perm_middle
      have hnew : key ∉ done.map Prod.fst := by
        have := (hmoved.map Prod.fst).nodup_iff.mp distinct
        simp only [List.cons_append, List.map_cons, List.nodup_cons, List.map_append] at this
        exact fun h => this.1 (List.mem_append_left _ h)
      have hinsert := insertField_perm value hnew
      have hdistinct : ((insertField key value done ++ rest).map Prod.fst).Nodup :=
        ((((hinsert.append_right rest).trans hmoved.symm).map Prod.fst).nodup_iff).mpr distinct
      exact (ih hdistinct).trans ((hinsert.append_right rest).trans hmoved.symm)

/-- An object of fields with different keys has these fields and no others. -/
theorem ofFields_perm {fields : List (String × Value)} (distinct : (fields.map Prod.fst).Nodup) :
    ∃ found, ofFields fields = .object found ∧ found.Perm fields :=
  ⟨_, rfl, foldl_insertField_perm distinct⟩

end Value

namespace Decode

variable {σ : Type}

/-! ## Members that are apart -/

/-- Of two members it does not matter which one is entered first. -/
def AreApart (first second : Member σ) : Prop :=
  ∀ (r s : σ) (v w : Value),
    (first.2 r v >>= (second.2 · w)) = .ok s ↔ (second.2 r w >>= (first.2 · v)) = .ok s

instance : Std.Symm (AreApart (σ := σ)) := ⟨fun _ _ apart r s v w => (apart r s w v).symm⟩

/-- Fields that enter different parts of a record are apart. -/
theorem areApart_field {α β : Type} {key key' : String} {decode : Decoder α} {decode' : Decoder β}
    {put : σ → α → σ} {put' : σ → β → σ} (commute : ∀ r a b, put' (put r a) b = put (put' r b) a) :
    AreApart (field key decode put) (field key' decode' put') := by
  intro r s v w
  simp only [field]
  cases decode v with
  | error e => cases decode' w <;> simp [Except.map, bind, Except.bind]
  | ok a =>
      cases decode' w with
      | error e => simp [Except.map, bind, Except.bind]
      | ok b => simp [Except.map, bind, Except.bind, commute]

/-! ## Fields in any order -/

/-- Enters one field. -/
def enterField (members : List (Member σ)) (r : σ) (f : String × Value) : Except Mismatch σ :=
  match members.find? fun (k, _) => k = f.1 with
  | none => .ok r
  | some member => member.2 r f.2

section Order

variable {members : List (Member σ)} {r s : σ}

theorem enterFields_cons (f : String × Value) (rest : List (String × Value)) :
    enterFields members r (f :: rest) = enterField members r f >>= (enterFields members · rest) := by
  obtain ⟨key, v⟩ := f
  simp only [enterFields, enterField]
  cases members.find? fun (k, _) => k = key with
  | none => rfl
  | some member =>
      obtain ⟨-, enter⟩ := member
      simp only
      cases enter r v <;> rfl

theorem enterField_of_none {f : String × Value}
    (unknown : members.find? (fun (k, _) => k = f.1) = none) : enterField members r f = .ok r := by
  rw [enterField, unknown]

theorem enterField_of_some {f : String × Value} {member : Member σ}
    (known : members.find? (fun (k, _) => k = f.1) = some member) :
    enterField members r f = member.2 r f.2 := by
  rw [enterField, known]

theorem enterField_comm (apart : members.Pairwise AreApart) {x y : String × Value} (differ : x.1 ≠ y.1) :
    (enterField members r x >>= (enterField members · y)) = .ok s ↔
      (enterField members r y >>= (enterField members · x)) = .ok s := by
  cases hx : members.find? (fun (k, _) => k = x.1) with
  | none =>
      have hlast : (enterField members r y >>= Except.ok) = enterField members r y := bind_pure _
      simp only [enterField_of_none hx, ok_bind, hlast]
  | some first =>
      cases hy : members.find? (fun (k, _) => k = y.1) with
      | none =>
          have hlast : (enterField members r x >>= Except.ok) = enterField members r x := bind_pure _
          simp only [enterField_of_none hy, ok_bind, hlast]
      | some second =>
          have hfirst : first.1 = x.1 := by simpa using List.find?_some hx
          have hsecond : second.1 = y.1 := by simpa using List.find?_some hy
          have hne : first ≠ second := fun h => differ (hfirst.symm.trans (h ▸ hsecond))
          simp only [enterField_of_some hx, enterField_of_some hy]
          exact apart.forall (List.mem_of_find?_eq_some hx) (List.mem_of_find?_eq_some hy) hne r s x.2 y.2

/-- Whether and how a record is read does not depend on the order of the fields, if no key comes twice. -/
theorem enterFields_perm (apart : members.Pairwise AreApart) {xs ys : List (String × Value)}
    (perm : xs.Perm ys) (distinct : (xs.map Prod.fst).Nodup) :
    enterFields members r xs = .ok s → enterFields members r ys = .ok s := by
  induction perm generalizing r with
  | nil => exact id
  | cons f _ ih =>
      rw [List.map_cons, List.nodup_cons] at distinct
      intro entered
      rw [enterFields_cons] at entered ⊢
      obtain ⟨r', hf, hrest⟩ := bind_eq_ok entered
      rw [hf, ok_bind]
      exact ih distinct.2 hrest
  | swap x y rest =>
      intro entered
      simp only [List.map_cons, List.nodup_cons, List.mem_cons, not_or] at distinct
      simp only [enterFields_cons, ← bind_assoc] at entered ⊢
      obtain ⟨r', hboth, hrest⟩ := bind_eq_ok entered
      rw [(enterField_comm apart distinct.1.1).mp hboth, ok_bind]
      exact hrest
  | trans first _ ih ih' =>
      exact fun entered => ih' ((first.map Prod.fst).nodup_iff.mp distinct) (ih distinct entered)

/-! ## Values for all members -/

theorem find?_key (distinct : (members.map Prod.fst).Nodup) {member : Member σ}
    (mem : member ∈ members) : members.find? (fun (k, _) => k = member.1) = some member := by
  induction members with
  | nil => cases mem
  | cons m rest ih =>
      rw [List.map_cons, List.nodup_cons] at distinct
      obtain rfl | hrest := List.mem_cons.mp mem
      · exact List.find?_cons_of_pos (by simp)
      · have hne : m.1 ≠ member.1 := fun h => distinct.1 (h ▸ List.mem_map_of_mem hrest)
        rw [List.find?_cons_of_neg (by simpa using hne)]
        exact ih distinct.2 hrest

/-- Fields in the order of the members are entered like the items of an array. -/
theorem enterFields_zip {all : List (Member σ)} (distinct : (all.map Prod.fst).Nodup) {count : Nat}
    {values : List Value} (mem : ∀ member ∈ members, member ∈ all)
    (entered : enterItems count r members values = .ok s) :
    enterFields all r ((members.map Prod.fst).zip values) = .ok s := by
  induction values generalizing members r with
  | nil => simpa [enterItems, enterFields] using entered
  | cons v rest ih =>
      cases members with
      | nil => cases entered
      | cons member later =>
          obtain ⟨hmember, hlater⟩ := List.forall_mem_cons.mp mem
          rw [List.map_cons, List.zip_cons_cons, enterFields_cons,
            enterField_of_some (f := (member.1, v)) (find?_key distinct hmember)]
          simp only [enterItems] at entered
          cases hv : member.2 r v with
          | error e => rw [hv] at entered; cases entered
          | ok r' =>
              rw [hv] at entered
              exact ih hlater entered

/-- An object with a value for each member is read as the array of these values is. -/
theorem record_ofFields {name : String} {values : List Value} {written : Value}
    (fields : written = .ofFields ((members.map Prod.fst).zip values))
    (apart : members.Pairwise AreApart) (distinct : (members.map Prod.fst).Nodup)
    (complete : members.length = values.length) (read : record name members r (.array values) = .ok s) :
    record name members r written = .ok s := by
  have hkeys : ((members.map Prod.fst).zip values).map Prod.fst = members.map Prod.fst :=
    List.map_fst_zip (by simp [complete])
  obtain ⟨found, hfound, perm⟩ := Value.ofFields_perm (hkeys.symm ▸ distinct)
  rw [fields, hfound]
  exact enterFields_perm apart perm.symm (hkeys.symm ▸ distinct)
    (enterFields_zip distinct (fun _ hmember => hmember) read)

end Order

end Decode

end DocumentCard.Json
