set_option autoImplicit false

/-!
# Steps that can fail

Reading a text and making a card are done in steps, and the first step that fails ends them.  So if all of
them together succeed, each does (`bind_eq_ok`, `of_mapM_eq_ok`), and the other way round
(`exists_mapM_eq_ok`); and if they fail, they fail as one of them does
(`bind_eq_error`, `exists_of_mapM_eq_error`, `FailsOnly.bind`, `FailsOnly.mapM`).
-/

namespace DocumentCard

/-- Steps succeed when each of them does. -/
theorem bind_eq_ok {ε α β : Type} {first : Except ε α} {next : α → Except ε β} {y : β}
    (done : first >>= next = .ok y) : ∃ x, first = .ok x ∧ next x = .ok y := by
  cases first with
  | error fault => cases done
  | ok x => exact ⟨x, rfl, done⟩

/-- Steps that fail do so at the first of them, or behind it. -/
theorem bind_eq_error {ε α β : Type} {first : Except ε α} {next : α → Except ε β} {fault : ε}
    (failed : first >>= next = .error fault) :
    first = .error fault ∨ ∃ x, first = .ok x ∧ next x = .error fault := by
  cases first with
  | error cause => exact .inl (congrArg Except.error (Except.error.inj failed))
  | ok x => exact .inr ⟨x, rfl, failed⟩

theorem ok_bind {ε α β : Type} (x : α) (next : α → Except ε β) : (Except.ok x >>= next) = next x := rfl

theorem of_mapError_eq_ok {ε ε' α : Type} {step : Except ε α} {f : ε → ε'} {x : α}
    (done : step.mapError f = .ok x) : step = .ok x := by
  cases step with
  | error fault => cases done
  | ok y => exact congrArg Except.ok (Except.ok.inj done)

theorem of_toOption_eq_some {ε α : Type} {step : Except ε α} {x : α} (done : step.toOption = some x) :
    step = .ok x := by
  cases step with
  | error fault => cases done
  | ok y => exact congrArg Except.ok (Option.some.inj done)

/-- If a step succeeds for each member of a list, it does for all of them together. -/
theorem exists_mapM_eq_ok {ε α β : Type} {f : α → Except ε β} {xs : List α}
    (h : ∀ x ∈ xs, ∃ y, f x = .ok y) : ∃ ys, xs.mapM f = .ok ys := by
  induction xs with
  | nil => exact ⟨[], rfl⟩
  | cons x rest ih =>
      obtain ⟨⟨y, hy⟩, hrest⟩ := List.forall_mem_cons.mp h
      obtain ⟨ys, hys⟩ := ih hrest
      exact ⟨y :: ys, by rw [List.mapM_cons, hy, ok_bind, hys]; rfl⟩

theorem of_mapM_eq_ok {ε α β : Type} {f : α → Except ε β} {xs : List α} {ys : List β}
    (done : xs.mapM f = .ok ys) : ∀ x ∈ xs, ∃ y ∈ ys, f x = .ok y := by
  induction xs generalizing ys with
  | nil => nofun
  | cons x rest ih =>
      rw [List.mapM_cons] at done
      obtain ⟨y, hy, done⟩ := bind_eq_ok done
      obtain ⟨later, hlater, done⟩ := bind_eq_ok done
      obtain rfl := Except.ok.inj done
      refine List.forall_mem_cons.mpr ⟨⟨y, List.mem_cons_self, hy⟩, fun x hx => ?_⟩
      obtain ⟨y, hmem, hy⟩ := ih hlater x hx
      exact ⟨y, List.mem_cons_of_mem _ hmem, hy⟩

/-- Steps for the members of a list fail as that for one of them does. -/
theorem exists_of_mapM_eq_error {ε α β : Type} {f : α → Except ε β} {xs : List α} {fault : ε}
    (failed : xs.mapM f = .error fault) : ∃ x ∈ xs, f x = .error fault := by
  induction xs with
  | nil => cases failed
  | cons x rest ih =>
      rw [List.mapM_cons] at failed
      obtain hx | ⟨y, -, failed⟩ := bind_eq_error failed
      · exact ⟨x, List.mem_cons_self, hx⟩
      · obtain hrest | ⟨ys, -, done⟩ := bind_eq_error failed
        · obtain ⟨x', hmem, hx'⟩ := ih hrest
          exact ⟨x', List.mem_cons_of_mem _ hmem, hx'⟩
        · cases done

theorem mapM_eq_ok_map {ε α β : Type} {f : α → Except ε β} {g : α → β} {xs : List α}
    (h : ∀ x ∈ xs, f x = .ok (g x)) : xs.mapM f = .ok (xs.map g) := by
  induction xs with
  | nil => rfl
  | cons x rest ih =>
      obtain ⟨hx, hrest⟩ := List.forall_mem_cons.mp h
      rw [List.mapM_cons, hx, ok_bind, ih hrest]
      rfl

/-- What was written item by item is read back item by item. -/
theorem mapM_map_eq_ok {ε α β : Type} {read : β → Except ε α} {write : α → β} {xs : List α}
    (back : ∀ x ∈ xs, read (write x) = .ok x) : (xs.map write).mapM read = .ok xs := by
  have hread : ∀ x ∈ xs, (read ∘ write) x = .ok (id x) := back
  rw [List.mapM_map, mapM_eq_ok_map hread, List.map_id]

/-- If this fails, it is with a fault of this kind. -/
def FailsOnly {ε α : Type} (P : ε → Prop) (step : Except ε α) : Prop :=
  ∀ fault, step = .error fault → P fault

section Steps

variable {ε α β : Type} {P : ε → Prop}

theorem failsOnly_ok (x : α) : FailsOnly P (.ok x) := nofun

theorem failsOnly_error {fault : ε} (h : P fault) : FailsOnly P (.error fault : Except ε α) := by
  intro fault' failed
  obtain rfl := Except.error.inj failed
  exact h

theorem failsOnly_mapError {ε' : Type} {f : ε' → ε} (h : ∀ cause, P (f cause)) (step : Except ε' α) :
    FailsOnly P (step.mapError f) := by
  cases step with
  | error cause => exact failsOnly_error (h cause)
  | ok x => exact failsOnly_ok x

namespace FailsOnly

/-- Steps fail as the first one does, or as those after it do. -/
theorem bind {first : Except ε α} {next : α → Except ε β} (hfirst : FailsOnly P first)
    (hnext : ∀ x, FailsOnly P (next x)) : FailsOnly P (first >>= next) := by
  cases first with
  | error fault => exact failsOnly_error (hfirst fault rfl)
  | ok x => exact hnext x

theorem map {step : Except ε α} (h : FailsOnly P step) (f : α → β) : FailsOnly P (step.map f) := by
  cases step with
  | error fault => exact failsOnly_error (h fault rfl)
  | ok x => exact failsOnly_ok (f x)

theorem mapM {f : α → Except ε β} (h : ∀ x, FailsOnly P (f x)) (xs : List α) :
    FailsOnly P (xs.mapM f) := by
  induction xs with
  | nil => exact failsOnly_ok []
  | cons x rest ih =>
      rw [List.mapM_cons]
      exact (h x).bind fun y => ih.bind fun ys => failsOnly_ok (y :: ys)

end FailsOnly

end Steps

end DocumentCard
