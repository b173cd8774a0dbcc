set_option autoImplicit false

/-!
# Replacing one text by another

`replaceAll` puts a value in the place of every occurrence of a pattern, from left to right; a
character that was replaced is not looked at again.

Main statements: a text without the first character of the pattern stays as it is
(`replaceAll_append_of_not_mem`), the pattern itself gives way to the value (`replaceAll_append`), and two
texts are treated each on its own unless the pattern lies across them (`replaceFrom_append_of_apart`).
-/

namespace DocumentCard.Text

/-- `cs` without the leading `pattern`, if it starts so. -/
def dropLead? : List Char → List Char → Option (List Char)
  | [], cs => some cs
  | _ :: _, [] => none
  | p :: ps, c :: cs => if p = c then dropLead? ps cs else none

/-- Replaces the occurrences of a non-empty pattern; `skip` characters of the current occurrence
are still to be passed over. -/
def replaceFrom (pattern value : List Char) (skip : Nat) : List Char → List Char
  | [] => []
  | c :: cs =>
      match skip with
      | k + 1 => replaceFrom pattern value k cs
      | 0 =>
          match dropLead? pattern (c :: cs) with
          | some _ => value ++ replaceFrom pattern value (pattern.length - 1) cs
          | none => c :: replaceFrom pattern value 0 cs

/-- `cs` with every occurrence of a non-empty pattern replaced by `value`. -/
def replaceAll (pattern value cs : List Char) : List Char := replaceFrom pattern value 0 cs

theorem dropLead?_append (pattern rest : List Char) :
    dropLead? pattern (pattern ++ rest) = some rest := by
  induction pattern with
  | nil => rfl
  | cons p ps ih => simp [dropLead?, ih]

/-- A text without the first character of the pattern stays as it is. -/
theorem replaceAll_append_of_not_mem {p : Char} {before : List Char} (none : p ∉ before)
    (ps value after : List Char) :
    replaceAll (p :: ps) value (before ++ after) = before ++ replaceAll (p :: ps) value after := by
  induction before with
  | nil => rfl
  | cons c before ih =>
      rw [List.mem_cons, not_or] at none
      have hhere : dropLead? (p :: ps) (c :: (before ++ after)) = .none := by
        simp [dropLead?, none.1]
      have hlater := ih none.2
      simp only [replaceAll] at hlater ⊢
      rw [List.cons_append, replaceFrom, hhere, hlater]
      rfl

theorem replaceFrom_append (pattern value skipped rest : List Char) :
    replaceFrom pattern value skipped.length (skipped ++ rest) = replaceFrom pattern value 0 rest := by
  induction skipped with
  | nil => rfl
  | cons c skipped ih => exact ih

/-- The pattern itself gives way to the value. -/
theorem replaceAll_append (p : Char) (ps value rest : List Char) :
    replaceAll (p :: ps) value (p :: ps ++ rest) = value ++ replaceAll (p :: ps) value rest := by
  have hhere : dropLead? (p :: ps) (p :: (ps ++ rest)) = some rest :=
    dropLead?_append (p :: ps) rest
  simp only [replaceAll]
  rw [List.cons_append, replaceFrom, hhere]
  exact congrArg (value ++ ·) (replaceFrom_append _ _ ps rest)

theorem dropLead?_eq_some_iff {pattern cs rest : List Char} :
    dropLead? pattern cs = some rest ↔ cs = pattern ++ rest := by
  constructor
  · intro h
    induction pattern generalizing cs with
    | nil => exact Option.some.inj h
    | cons p ps ih =>
        cases cs with
        | nil => cases h
        | cons c cs =>
            by_cases hc : p = c
            · rw [dropLead?, if_pos hc] at h
              rw [hc, ih h, List.cons_append]
            · rw [dropLead?, if_neg hc] at h
              cases h
  · rintro rfl
    exact dropLead?_append pattern rest

theorem replaceAll_cons_of_none {pattern cs : List Char} {c : Char} (value : List Char)
    (none : dropLead? pattern (c :: cs) = .none) :
    replaceAll pattern value (c :: cs) = c :: replaceAll pattern value cs := by
  rw [replaceAll, replaceFrom, none]
  rfl

/-- A pattern that leads two texts leads the first of them, unless it lies across them. -/
theorem dropLead?_append_of_apart {pattern before after rest : List Char}
    (apart : ∀ back, pattern = before ++ back → back ≠ [] → ¬ back <+: after)
    (leads : dropLead? pattern (before ++ after) = some rest) :
    ∃ more, before = pattern ++ more := by
  rcases List.append_eq_append_iff.mp (dropLead?_eq_some_iff.mp leads) with
    ⟨back, hpattern, hafter⟩ | ⟨more, hbefore, -⟩
  · cases back with
    | nil => exact ⟨[], by rw [hpattern, List.append_nil, List.append_nil]⟩
    | cons b back => exact absurd ⟨rest, hafter.symm⟩ (apart _ hpattern (List.cons_ne_nil _ _))
  · exact ⟨more, hbefore⟩

/-- Two texts are treated each on its own if no occurrence of the pattern lies across them. -/
theorem replaceFrom_append_of_apart {pattern before after : List Char} (value : List Char)
    (apart : ∀ front back, pattern = front ++ back → front ≠ [] → back ≠ [] → front <:+ before →
      ¬ back <+: after) {skip : Nat} (within : skip ≤ before.length) :
    replaceFrom pattern value skip (before ++ after)
      = replaceFrom pattern value skip before ++ replaceFrom pattern value 0 after := by
  induction before generalizing skip with
  | nil =>
      obtain rfl : skip = 0 := Nat.le_zero.mp within
      rfl
  | cons c cs ih =>
      have later {skip : Nat} := @ih (fun front back h hfront hback hend =>
        apart front back h hfront hback (hend.trans (List.suffix_cons c cs))) skip
      cases skip with
      | succ skip => exact later (Nat.le_of_succ_le_succ within)
      | zero =>
          have across (rest : List Char) (h : dropLead? pattern (c :: cs ++ after) = some rest) :=
            dropLead?_append_of_apart (fun back hpattern hback =>
              apart (c :: cs) back hpattern (List.cons_ne_nil c cs) hback (List.suffix_refl _)) h
          cases hboth : dropLead? pattern (c :: cs ++ after) with
          | some rest =>
              obtain ⟨more, hmore⟩ := across rest hboth
              have hfirst : dropLead? pattern (c :: cs) = some more :=
                dropLead?_eq_some_iff.mpr hmore
              have hlength : pattern.length - 1 ≤ cs.length := by
                have := congrArg List.length hmore
                rw [List.length_cons, List.length_append] at this
                omega
              rw [List.cons_append] at hboth ⊢
              simp only [replaceFrom, hboth, hfirst]
              rw [later hlength, List.append_assoc]
          | none =>
              have hfirst : dropLead? pattern (c :: cs) = none := by
                rw [Option.eq_none_iff_forall_ne_some]
                intro rest hrest
                rw [dropLead?_eq_some_iff] at hrest
                rw [hrest, List.append_assoc, dropLead?_append] at hboth
                cases hboth
              rw [List.cons_append] at hboth ⊢
              simp only [replaceFrom, hboth, hfirst]
              rw [later (Nat.zero_le _), List.cons_append]

/-- Whether `pattern` occurs in `cs`. -/
def occursIn (pattern : List Char) : List Char → Bool
  | [] => pattern.isEmpty
  | c :: cs => (dropLead? pattern (c :: cs)).isSome || occursIn pattern cs

/-- A text in which the pattern does not occur stays as it is. -/
theorem replaceAll_of_not_occursIn {pattern cs : List Char} (value : List Char)
    (none : occursIn pattern cs = false) : replaceAll pattern value cs = cs := by
  induction cs with
  | nil => rfl
  | cons c cs ih =>
      rw [occursIn, Bool.or_eq_false_iff, Option.isSome_eq_false_iff, Option.isNone_iff_eq_none] at none
      rw [replaceAll_cons_of_none value none.1, ih none.2]

example : replaceAll "aa".toList "b".toList "aaaaa".toList = "bba".toList := by decide

end DocumentCard.Text
