import DocumentCard.Session.Fault
import DocumentCard.Bytes
set_option autoImplicit false

/-!
# Reading in parts

A file leaves the program in parts whose size the caller chooses.  A part reader holds the whole file
and what of it is still to be read; the latter ends the former, by the type.  A part is final as soon
as nothing follows it, so the last part of a file is known without asking once more, and an empty
file is one empty final part.

Main statements: a part and what is left afterwards are what was left before (`next_rest`), and a
part that is not final is full (`length_of_not_final`).
-/

namespace DocumentCard.Session

/-- A part of a file. -/
structure Part where
  bytes : Bytes := []
  /-- whether nothing follows -/
  final : Bool := false
  deriving DecidableEq, Repr, Inhabited

/-- A file that is read in parts. -/
structure PartReader where
  file : Bytes
  /-- what is still to be read -/
  rest : Bytes
  suffix : rest <:+ file
  deriving DecidableEq, Repr

namespace PartReader

/-- A reader at the start of a file. -/
def ofFile (file : Bytes) : PartReader := ⟨file, file, List.suffix_refl file⟩

instance : Inhabited PartReader := ⟨ofFile []⟩

/-- The number of bytes that are still to be read. -/
def remaining (r : PartReader) : Nat := r.rest.length

/-- The reader back at the start. -/
def rewind (r : PartReader) : PartReader := ofFile r.file

/-- The next part, of at most `max` bytes, and the reader behind it; nothing can be read in parts of
no bytes. -/
def next (r : PartReader) (max : Nat) : Except Fault (Part × PartReader) :=
  if max = 0 then .error .partSize
  else
    let rest := r.rest.drop max
    .ok (⟨r.rest.take max, rest.isEmpty⟩,
      ⟨r.file, rest, (List.drop_suffix max r.rest).trans r.suffix⟩)

theorem next_zero (r : PartReader) : r.next 0 = .error .partSize := rfl

/-- A part of some bytes is the front of what is left to read. -/
theorem next_of_pos (r : PartReader) {size : Nat} (pos : 0 < size) :
    ∃ after, r.next size = .ok (⟨r.rest.take size, (r.rest.drop size).isEmpty⟩, after) ∧
      after.rest = r.rest.drop size :=
  ⟨_, if_neg (Nat.ne_of_gt pos), rfl⟩

/-- A reader keeps its file. -/
theorem next_file {r after : PartReader} {max : Nat} {p : Part}
    (h : r.next max = .ok (p, after)) : after.file = r.file := by
  unfold next at h
  split at h
  · simp at h
  · simp only [Except.ok.injEq, Prod.mk.injEq] at h
    rw [← h.2]

/-- A part and what is left afterwards are what was left before. -/
theorem next_rest {r after : PartReader} {max : Nat} {p : Part}
    (h : r.next max = .ok (p, after)) : p.bytes ++ after.rest = r.rest := by
  unfold next at h
  split at h
  · simp at h
  · simp only [Except.ok.injEq, Prod.mk.injEq] at h
    rw [← h.1, ← h.2]
    exact List.take_append_drop max r.rest

/-- A part is final exactly when nothing is left. -/
theorem final_iff {r after : PartReader} {max : Nat} {p : Part}
    (h : r.next max = .ok (p, after)) : p.final = true ↔ after.rest = [] := by
  unfold next at h
  split at h
  · simp at h
  · simp only [Except.ok.injEq, Prod.mk.injEq] at h
    rw [← h.1, ← h.2]
    exact List.isEmpty_iff

/-- A part prolongs what has been read of a file before; it is final exactly when it completes the
file. -/
theorem next_prolongs {r after : PartReader} {max : Nat} {p : Part} {before file : Bytes}
    (h : r.next max = .ok (p, after)) (read : before ++ r.rest = file) :
    before ++ p.bytes ++ after.rest = file ∧ before ++ p.bytes <+: file ∧
      (p.final = true ↔ before ++ p.bytes = file) := by
  have hall : before ++ p.bytes ++ after.rest = file := by
    rw [List.append_assoc, next_rest h, read]
  refine ⟨hall, ⟨after.rest, hall⟩, ?_⟩
  rw [final_iff h, ← hall, List.self_eq_append_right]

/-- A part that is not final is full. -/
theorem length_of_not_final {r after : PartReader} {max : Nat} {p : Part}
    (h : r.next max = .ok (p, after)) (hp : p.final = false) : p.bytes.length = max := by
  unfold next at h
  split at h
  · simp at h
  · simp only [Except.ok.injEq, Prod.mk.injEq] at h
    rw [← h.1] at hp ⊢
    have : ¬ r.rest.drop max = [] := by
      intro e
      simp [e] at hp
    rw [List.drop_eq_nil_iff] at this
    simp only [List.length_take]
    omega

end PartReader

end DocumentCard.Session
