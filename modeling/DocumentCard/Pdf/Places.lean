import DocumentCard.Bytes
set_option autoImplicit false

/-!
# Places of a file

A file is read at many places, and each of them is told by how many bytes stand before it.  So that
it is not walked from its first byte every time, marks are set into it at even distances, and a place
is looked for from the mark before it.

Main statement: behind a place stands what is left of the file without the bytes before the place
(`Places.behind_ofFile`).
-/

namespace DocumentCard.Pdf

/-- How many bytes there are between two marks. -/
def markDistance : Nat := 1024

/-- What is left of bytes at each of so many marks. -/
def marks : Nat → Bytes → List Bytes
  | 0, _ => []
  | count + 1, bytes => bytes :: marks count (bytes.drop markDistance)

theorem getElem?_marks (count k : Nat) (bytes : Bytes) :
    (marks count bytes)[k]? = if k < count then some (bytes.drop (k * markDistance)) else none := by
  induction count generalizing k bytes with
  | zero => simp [marks]
  | succ count ih =>
      cases k with
      | zero => simp [marks]
      | succ k =>
          simp only [marks, List.getElem?_cons_succ, ih, List.drop_drop, Nat.add_lt_add_iff_right,
            Nat.succ_mul, Nat.add_comm]

/-- A file with marks in it: what is left of it at each of them. -/
structure Places where
  marks : Array Bytes

namespace Places

/-- Sets the marks of a file. -/
def ofFile (file : Bytes) : Places := ⟨(Pdf.marks (file.length / markDistance + 1) file).toArray⟩

/-- What stands behind a place. -/
def behind (p : Places) (place : Nat) : Bytes :=
  match p.marks[place / markDistance]? with
  | some bytes => bytes.drop (place % markDistance)
  | none => []

theorem behind_ofFile (file : Bytes) (place : Nat) :
    (ofFile file).behind place = file.drop place := by
  unfold behind ofFile
  simp only [List.getElem?_toArray, getElem?_marks]
  by_cases within : place / markDistance < file.length / markDistance + 1
  · simp only [if_pos within, List.drop_drop]
    rw [Nat.mul_comm, Nat.div_add_mod]
  · have beyond : file.length / markDistance < place / markDistance := by omega
    have outside : file.length ≤ place := Nat.le_of_lt (Nat.lt_of_div_lt_div beyond)
    simp only [if_neg within, List.drop_of_length_le outside]

end Places

end DocumentCard.Pdf
