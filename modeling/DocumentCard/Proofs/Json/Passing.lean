import DocumentCard.Proofs.Json.Tokens
set_option autoImplicit false

/-!
# Values that are read are passed over

Reading calls itself for each bracket; passing over keeps the open brackets on a stack and does not call
itself.  Both must end at the same place, or what follows a value that nobody looks at would be taken for
something else.

So the machine is seen from inside: behind an item it goes on in the same way whatever the item was
(`skipOn`).  A value is crossed when the machine gets from its start to behind it with the brackets that
were open before (`Crosses`), and a bracket is left when it gets from inside the bracket to behind its end
(`Leaves`).  Crossing the items of a bracket makes leaving it, leaving it makes crossing the bracket, and
the recursion of the reader does the rest.

Main statement: a value that is read is passed over up to the same place (`skipValue_of_value`).
-/

namespace DocumentCard.Json

/-! ## The machine from inside -/

/-- What the machine does first: it passes over an item, or opens a bracket. -/
def skipFirst (limit : Nat) (open_ : List Bracket) (bytes : Bytes) :
    Except SyntaxFault (Bool × List Bracket × Bytes) :=
  match skipSpace bytes with
  | [] => .error .endInValue
  | b :: rest =>
      if b = 0x6E then return (true, open_, ← word (Bytes.ascii "ull") rest)
      else if b = 0x74 then return (true, open_, ← word (Bytes.ascii "rue") rest)
      else if b = 0x66 then return (true, open_, ← word (Bytes.ascii "alse") rest)
      else if b = 0x2D then return (true, open_, ← Number.skip rest)
      else if Bytes.isDigit b then return (true, open_, ← Number.skip (b :: rest))
      else if b = 0x22 then return (true, open_, ← skipString limit rest)
      else if b = 0x5B then .ok (false, .list :: open_, rest)
      else if b = 0x7B then .ok (false, .object :: open_, rest)
      else .error .expectedValue

/-- What the machine does then: it passes over brackets that are closed, and goes on with the next item
if one is left open. -/
def skipOn (limit : Nat) (full : Bool) (open_ : List Bracket) (fuel : Nat) (bytes : Bytes) :
    Except SyntaxFault Bytes :=
  match skipEnds full open_ limit bytes with
  | .error e => .error e
  | .ok ([], rest) => .ok rest
  | .ok (open_, rest) =>
      match skipKey limit open_ rest with
      | .error e => .error e
      | .ok rest => skipFrom limit open_ fuel rest

theorem skipFrom_succ (limit : Nat) (open_ : List Bracket) (fuel : Nat) (bytes : Bytes) :
    skipFrom limit open_ (fuel + 1) bytes =
      match skipFirst limit open_ bytes with
      | .error e => .error e
      | .ok (full, open_, rest) => skipOn limit full open_ fuel rest := rfl

theorem skipFrom_skipSpace (limit : Nat) (open_ : List Bracket) (fuel : Nat) (bytes : Bytes) :
    skipFrom limit open_ fuel (skipSpace bytes) = skipFrom limit open_ fuel bytes := by
  cases fuel with
  | zero => rfl
  | succ fuel => rw [skipFrom_succ, skipFrom_succ, skipFirst, skipFirst, skipSpace_skipSpace]

theorem skipOn_nil (limit fuel : Nat) (bytes : Bytes) : skipOn limit true [] fuel bytes = .ok bytes := by
  unfold skipOn skipEnds
  rfl

/-- Closed brackets are passed over in the same way whatever the limit, if it is beyond the text. -/
theorem skipEnds_of_lt {full : Bool} {open_ : List Bracket} {bytes : Bytes} {n m : Nat}
    (hn : bytes.length < n) (hm : bytes.length < m) :
    skipEnds full open_ n bytes = skipEnds full open_ m bytes := by
  induction n generalizing full open_ bytes m with
  | zero => omega
  | succ n ih =>
      obtain ⟨m, rfl⟩ : ∃ k, m = k + 1 := ⟨m - 1, by omega⟩
      have hspace := (skipSpace_suffix bytes).length_le
      rcases open_ with _ | ⟨_ | _, outer⟩
      case nil => simp only [skipEnds]
      all_goals
        simp only [skipEnds]
        cases hstart : skipSpace bytes with
        | nil => rfl
        | cons b rest =>
            rw [hstart, List.length_cons] at hspace
            dsimp only
            have hn' : rest.length < n := by omega
            have hm' : rest.length < m := by omega
            rw [ih hn' hm']

/-! ## Crossing values and leaving brackets -/

/-- From the start of a value the machine gets behind it, with the brackets open that were open before. -/
def Crosses (limit : Nat) (bytes rest : Bytes) : Prop :=
  rest.length < bytes.length ∧ ∀ open_ fuel, bytes.length ≤ fuel →
    ∃ left, rest.length ≤ left ∧ skipFrom limit open_ fuel bytes = skipOn limit true open_ left rest

/-- From inside a bracket the machine gets behind its end. -/
def Leaves (limit : Nat) (bracket : Bracket) (full : Bool) (bytes rest : Bytes) : Prop :=
  rest.length < bytes.length ∧ ∀ outer fuel, bytes.length ≤ fuel →
    ∃ left, rest.length ≤ left ∧
      skipOn limit full (bracket :: outer) fuel bytes = skipOn limit true outer left rest

/-- The byte that closes a bracket. -/
def Bracket.close : Bracket → UInt8
  | .list => 0x5D
  | .object => 0x7D

/-- The next item starts here, if it is the first one, or behind a comma. -/
def Starts (first : Bool) (bytes item : Bytes) : Prop :=
  first = true ∧ skipSpace bytes = item ∨
    first = false ∧ ∃ behind, skipSpace bytes = 0x2C :: behind ∧ skipSpace behind = item

section Inside

variable {limit : Nat} {bracket : Bracket} {first : Bool} {bytes rest : Bytes}

/-- What the machine passes over at once is crossed. -/
theorem crosses_of_first (hlt : rest.length < bytes.length)
    (passes : ∀ open_, skipFirst limit open_ bytes = .ok (true, open_, rest)) :
    Crosses limit bytes rest := by
  refine ⟨hlt, fun open_ fuel hfuel => ?_⟩
  obtain ⟨fuel, rfl⟩ : ∃ k, fuel = k + 1 := ⟨fuel - 1, by omega⟩
  exact ⟨fuel, by omega, by rw [skipFrom_succ, passes]⟩

/-- A bracket is crossed when what it opens is left. -/
theorem Leaves.crosses {behind : Bytes} (leaves : Leaves limit bracket false behind rest)
    (hle : behind.length < bytes.length)
    (opens : ∀ open_, skipFirst limit open_ bytes = .ok (false, bracket :: open_, behind)) :
    Crosses limit bytes rest := by
  obtain ⟨hlt, hleaves⟩ := leaves
  refine ⟨by omega, fun open_ fuel hfuel => ?_⟩
  obtain ⟨fuel, rfl⟩ : ∃ k, fuel = k + 1 := ⟨fuel - 1, by omega⟩
  rw [skipFrom_succ, opens]
  exact hleaves open_ fuel (by omega)

theorem Starts.length_le {item : Bytes} (h : Starts first bytes item) : item.length ≤ bytes.length := by
  have hbytes := (skipSpace_suffix bytes).length_le
  rcases h with ⟨-, rfl⟩ | ⟨-, behind, hcomma, rfl⟩
  · exact hbytes
  · have hbehind := (skipSpace_suffix behind).length_le
    rw [hcomma, List.length_cons] at hbytes
    omega

/-- At the next item the machine keeps its brackets. -/
theorem Starts.skipEnds {b : UInt8} {behind : Bytes} (h : Starts first bytes (b :: behind))
    (opens : b ≠ bracket.close) (outer : List Bracket) (steps : Nat) :
    ∃ place, Json.skipEnds (!first) (bracket :: outer) (steps + 1) bytes = .ok (bracket :: outer, place) ∧
      skipSpace place = b :: behind := by
  rcases h with ⟨rfl, hstart⟩ | ⟨rfl, place, hcomma, hstart⟩
  · refine ⟨b :: behind, ?_, by rw [← hstart, skipSpace_skipSpace]⟩
    cases bracket <;> simp_all [Json.skipEnds, Bracket.close]
  · refine ⟨place, ?_, hstart⟩
    cases bracket <;> simp [Json.skipEnds, hcomma]

/-- A bracket that is closed is left. -/
theorem leaves_of_close {full : Bool} (hlimit : bytes.length < limit)
    (closes : skipSpace bytes = bracket.close :: rest) : Leaves limit bracket full bytes rest := by
  have hlt : rest.length < bytes.length := by
    have hspace := (skipSpace_suffix bytes).length_le
    rwa [closes] at hspace
  refine ⟨hlt, fun outer fuel hfuel => ⟨fuel, by omega, ?_⟩⟩
  obtain ⟨steps, rfl⟩ : ∃ k, limit = k + 1 := ⟨limit - 1, by omega⟩
  have hends : skipEnds full (bracket :: outer) (steps + 1) bytes
      = skipEnds true outer (steps + 1) rest := by
    have hsteps : rest.length < steps := by omega
    rw [← skipEnds_of_lt hsteps (Nat.lt_succ_of_lt hsteps)]
    cases bracket <;> simp [skipEnds, closes, Bracket.close]
  rw [skipOn, hends]
  rfl

/-- A bracket is left when its next item is crossed and the bracket is left from there. -/
theorem Leaves.of_item {b : UInt8} {behind item after : Bytes} (hlimit : bytes.length < limit)
    (starts : Starts first bytes (b :: behind)) (opens : b ≠ bracket.close)
    (key : ∀ outer place, skipSpace place = b :: behind →
      ∃ start, skipKey limit (bracket :: outer) place = .ok start ∧ skipSpace start = skipSpace item)
    (hle : item.length ≤ (b :: behind).length) (crosses : Crosses limit item after)
    (leaves : Leaves limit bracket true after rest) : Leaves limit bracket (!first) bytes rest := by
  obtain ⟨hlt, hcrosses⟩ := crosses
  obtain ⟨hlt', hleaves⟩ := leaves
  have hstarts := starts.length_le
  refine ⟨by omega, fun outer fuel hfuel => ?_⟩
  obtain ⟨left, hleft, hitem⟩ := hcrosses (bracket :: outer) fuel (by omega)
  obtain ⟨last, hlast, hrest⟩ := hleaves outer left hleft
  refine ⟨last, hlast, ?_⟩
  obtain ⟨steps, hsteps⟩ : ∃ k, limit = k + 1 := ⟨limit - 1, by omega⟩
  obtain ⟨place, hends, hplace⟩ := starts.skipEnds opens outer steps
  obtain ⟨start, hkey, hstart⟩ := key outer place hplace
  have hreaches : skipOn limit (!first) (bracket :: outer) fuel bytes
      = skipFrom limit (bracket :: outer) fuel start := by
    rw [skipOn, hsteps, hends]
    dsimp only
    rw [← hsteps, hkey]
  rw [hreaches, ← skipFrom_skipSpace, hstart, skipFrom_skipSpace, hitem, hrest]

/-! ## What is read inside brackets -/

theorem nextItem_cases {next : Next} (h : nextItem first bytes = .ok next) :
    (∃ rest, next = .closed rest ∧ skipSpace bytes = 0x5D :: rest) ∨
      ∃ b rest, next = .more (b :: rest) ∧ b ≠ 0x5D ∧ Starts first bytes (b :: rest) := by
  revert h
  fun_cases nextItem first bytes with
  | case2 rest hstart =>
      intro h
      exact .inl ⟨rest, (Except.ok.inj h).symm, hstart⟩
  | case3 b rest hstart hopens hfirst =>
      intro h
      exact .inr ⟨b, rest, (Except.ok.inj h).symm, hopens, .inl ⟨hfirst, hstart⟩⟩
  | case6 behind hfirst b rest hstart hopens hcomma =>
      intro h
      rw [Bool.not_eq_true] at hfirst
      exact .inr ⟨b, rest, (Except.ok.inj h).symm, hopens, .inr ⟨hfirst, behind, hcomma, hstart⟩⟩
  | _ => exact nofun

theorem nextKey_cases {next : Next} (h : nextKey first bytes = .ok next) :
    (∃ rest, next = .closed rest ∧ skipSpace bytes = 0x7D :: rest) ∨
      ∃ rest, next = .more rest ∧ Starts first bytes (0x22 :: rest) := by
  have hkey : ∀ {b : UInt8} {rest : Bytes},
      (if b = 0x22 then .ok (.more rest) else .error .keyNotString : Except SyntaxFault Next) = .ok next →
        b = 0x22 ∧ next = .more rest := by
    intro b rest h
    split at h
    · rename_i hquote
      exact ⟨hquote, (Except.ok.inj h).symm⟩
    · cases h
  revert h
  fun_cases nextKey first bytes with
  | case2 rest hstart =>
      intro h
      exact .inl ⟨rest, (Except.ok.inj h).symm, hstart⟩
  | case3 key b rest hstart hopens hfirst =>
      intro h
      obtain ⟨rfl, rfl⟩ := hkey h
      exact .inr ⟨rest, rfl, .inl ⟨hfirst, hstart⟩⟩
  | case6 key behind hfirst b rest hstart hopens hcomma =>
      intro h
      obtain ⟨rfl, rfl⟩ := hkey h
      rw [Bool.not_eq_true] at hfirst
      exact .inr ⟨rest, rfl, .inr ⟨hfirst, behind, hcomma, hstart⟩⟩
  | _ => exact nofun

theorem colon_suffix (h : colon bytes = .ok rest) : rest <:+ bytes := by
  revert h
  fun_cases colon bytes with
  | case2 behind hstart =>
      intro h
      obtain rfl := Except.ok.inj h
      have hbehind : behind <:+ skipSpace bytes := hstart ▸ List.suffix_cons _ behind
      exact hbehind.trans (skipSpace_suffix bytes)
  | _ => exact nofun

variable {item : Bytes → Except SyntaxFault (Value × Bytes)} {fuel : Nat} {v : Value}

/-- An array is closed, or it goes on with an item. -/
theorem items_cases {seen : List Value} (h : items item seen fuel bytes = .ok (v, rest)) :
    ∃ left, fuel = left + 1 ∧
      (nextItem seen.isEmpty bytes = .ok (.closed rest) ∧ v = .array seen.reverse ∨
        ∃ start w after, nextItem seen.isEmpty bytes = .ok (.more start) ∧ item start = .ok (w, after) ∧
          items item (w :: seen) left after = .ok (v, rest)) := by
  revert h
  fun_cases items item seen fuel bytes with
  | case3 left bytes behind hnext =>
      intro h
      obtain ⟨rfl, rfl⟩ := Prod.mk.inj (Except.ok.inj h)
      exact ⟨left, rfl, .inl ⟨hnext, rfl⟩⟩
  | case5 left bytes start hnext w after hitem =>
      intro h
      exact ⟨left, rfl, .inr ⟨start, w, after, hnext, hitem, h⟩⟩
  | _ => exact nofun

/-- An object is closed, or it goes on with a key and a value. -/
theorem fields_cases {seen : List (String × Value)}
    (h : fields limit item first seen (fuel + 1) bytes = .ok (v, rest)) :
    nextKey first bytes = .ok (.closed rest) ∧ v = .object seen ∨
      ∃ start key behind place w after, nextKey first bytes = .ok (.more start) ∧
        stringFrom [] limit start = .ok (key, behind) ∧ colon behind = .ok place ∧
        item place = .ok (w, after) ∧
        fields limit item false (Value.insertField key w seen) fuel after = .ok (v, rest) := by
  unfold fields at h
  split at h
  · cases h
  · rename_i behind hnext
    obtain ⟨rfl, rfl⟩ := Prod.mk.inj (Except.ok.inj h)
    exact .inl ⟨hnext, rfl⟩
  · rename_i start hnext
    dsimp only at h
    split at h
    · cases h
    · rename_i key w after hfield
      obtain ⟨⟨key, behind⟩, hkey, hfield⟩ := bind_eq_ok hfield
      obtain ⟨place, hcolon, hfield⟩ := bind_eq_ok hfield
      obtain ⟨⟨w, after⟩, hitem, hdone⟩ := bind_eq_ok hfield
      cases hdone
      exact .inr ⟨start, key, behind, place, w, after, hnext, hkey, hcolon, hitem, h⟩

/-- The bracket of an array is left if its items are crossed. -/
theorem leaves_of_items
    (crosses : ∀ bytes v rest, item bytes = .ok (v, rest) → bytes.length < limit →
      Crosses limit bytes rest)
    {seen : List Value} (h : items item seen fuel bytes = .ok (v, rest))
    (hlimit : bytes.length < limit) : Leaves limit .list (!seen.isEmpty) bytes rest := by
  induction fuel generalizing seen bytes with
  | zero => cases h
  | succ fuel ih =>
      obtain ⟨left, hleft, hcases⟩ := items_cases h
      obtain rfl := Nat.succ.inj hleft
      rcases hcases with ⟨hnext, -⟩ | ⟨start, w, after, hnext, hitem, hrest⟩
      · rcases nextItem_cases hnext with ⟨behind, hbehind, hclose⟩ | ⟨b, behind, hmore, -⟩
        · obtain rfl := Next.closed.inj hbehind
          exact leaves_of_close hlimit hclose
        · cases hmore
      · rcases nextItem_cases hnext with ⟨behind, hclosed, -⟩ | ⟨b, behind, hbehind, hopens, hstarts⟩
        · cases hclosed
        · obtain rfl := Next.more.inj hbehind
          have hle := hstarts.length_le
          have hcrosses := crosses _ _ _ hitem (by omega)
          have hleaves := ih hrest (Nat.lt_trans hcrosses.1 (by omega))
          refine .of_item hlimit hstarts hopens ?_ (Nat.le_refl _) hcrosses hleaves
          intro outer place hplace
          exact ⟨place, rfl, by rw [← hplace, skipSpace_skipSpace]⟩

/-- The bracket of an object is left if its values are crossed. -/
theorem leaves_of_fields
    (crosses : ∀ bytes v rest, item bytes = .ok (v, rest) → bytes.length < limit →
      Crosses limit bytes rest)
    {seen : List (String × Value)} (h : fields limit item first seen fuel bytes = .ok (v, rest))
    (hlimit : bytes.length < limit) : Leaves limit .object (!first) bytes rest := by
  induction fuel generalizing first seen bytes with
  | zero => cases h
  | succ fuel ih =>
      rcases fields_cases h with
        ⟨hnext, -⟩ | ⟨start, key, behind, place, w, after, hnext, hkey, hcolon, hitem, hrest⟩
      · rcases nextKey_cases hnext with ⟨behind, hbehind, hclose⟩ | ⟨behind, hmore, -⟩
        · obtain rfl := Next.closed.inj hbehind
          exact leaves_of_close hlimit hclose
        · cases hmore
      · rcases nextKey_cases hnext with ⟨behind, hclosed, -⟩ | ⟨start', hstart, hstarts⟩
        · cases hclosed
        · obtain rfl := Next.more.inj hstart
          have hle := hstarts.length_le
          rw [List.length_cons] at hle
          have hstart : start.length ≤ limit := by omega
          obtain ⟨hskip, hlt⟩ := skipString_of_stringFrom hkey hstart
          have hplace := (colon_suffix hcolon).length_le
          have hcrosses := crosses _ _ _ hitem (by omega)
          have hleaves := ih hrest (Nat.lt_trans hcrosses.1 (by omega))
          refine .of_item hlimit hstarts (by decide) ?_ ?_ hcrosses hleaves
          · intro outer here hhere
            refine ⟨place, ?_, rfl⟩
            simp [skipKey, hhere, hskip, hcolon, bind, Except.bind]
          · rw [List.length_cons]
            omega

end Inside

/-! ## Reading and passing over -/

section

variable {limit depth : Nat} {bytes rest : Bytes} {v : Value}

/-- What is read is passed over at once, or it starts with a bracket. -/
theorem value_cases (h : value limit depth bytes = .ok (v, rest)) (hle : bytes.length ≤ limit) :
    (rest.length < bytes.length ∧ ∀ open_, skipFirst limit open_ bytes = .ok (true, open_, rest)) ∨
      ∃ d behind, depth = d + 1 ∧
        (skipSpace bytes = 0x5B :: behind ∧ items (value limit d) [] limit behind = .ok (v, rest) ∨
          skipSpace bytes = 0x7B :: behind ∧
            fields limit (value limit d) true [] limit behind = .ok (v, rest)) := by
  have hspace := (skipSpace_suffix bytes).length_le
  have hword : ∀ {letters behind : Bytes} {w : Value} {b : UInt8},
      skipSpace bytes = b :: behind → (do return (w, ← word letters behind)) = .ok (v, rest) →
        word letters behind = .ok rest ∧ rest.length < bytes.length := by
    intro letters behind w b hstart h
    rw [hstart, List.length_cons] at hspace
    obtain ⟨after, hread, hdone⟩ := bind_eq_ok h
    obtain rfl : after = rest := (Prod.mk.inj (Except.ok.inj hdone)).2
    have hafter := (word_suffix hread).length_le
    exact ⟨hread, by omega⟩
  revert h
  fun_cases value limit depth bytes with
  | case2 depth behind hstart
  | case3 depth behind hstart
  | case4 depth behind hstart =>
      intro h
      obtain ⟨hread, hlt⟩ := hword hstart h
      refine .inl ⟨hlt, fun open_ => ?_⟩
      simp [skipFirst, hstart, hread, bind, Except.bind, pure, Except.pure]
  | case5 depth behind hstart =>
      intro h
      have hread := Number.skip_of_read h
      have hlt := Number.length_lt_of_skip hread
      rw [hstart, List.length_cons] at hspace
      refine .inl ⟨by omega, fun open_ => ?_⟩
      simp [skipFirst, hstart, hread, bind, Except.bind, pure, Except.pure]
  | case6 depth b behind hstart hn ht hf hminus hdigit =>
      intro h
      have hread := Number.skip_of_read h
      have hlt := Number.length_lt_of_skip hread
      rw [hstart] at hspace
      refine .inl ⟨by omega, fun open_ => ?_⟩
      simp [skipFirst, hstart, hn, ht, hf, hminus, hdigit, hread, bind, Except.bind, pure, Except.pure]
  | case8 depth behind s after hread hstart =>
      intro h
      obtain rfl : after = rest := (Prod.mk.inj (Except.ok.inj h)).2
      rw [hstart, List.length_cons] at hspace
      have hbehind : behind.length ≤ limit := by omega
      obtain ⟨hskip, hlt⟩ := skipString_of_stringFrom hread hbehind
      refine .inl ⟨by omega, fun open_ => ?_⟩
      simp [skipFirst, hstart, hskip, Bytes.isDigit, bind, Except.bind, pure, Except.pure]
  | case10 behind d hstart =>
      intro h
      exact .inr ⟨d, behind, rfl, .inl ⟨hstart, h⟩⟩
  | case12 behind d hstart =>
      intro h
      exact .inr ⟨d, behind, rfl, .inr ⟨hstart, h⟩⟩
  | _ => exact nofun

/-- A value that is read is crossed. -/
theorem crosses_of_value (h : value limit depth bytes = .ok (v, rest)) (hlimit : bytes.length < limit) :
    Crosses limit bytes rest := by
  induction depth generalizing bytes rest v with
  | zero =>
      rcases value_cases h (by omega) with ⟨hlt, hpasses⟩ | ⟨d, behind, hd, -⟩
      · exact crosses_of_first hlt hpasses
      · cases hd
  | succ depth ih =>
      have hspace := (skipSpace_suffix bytes).length_le
      rcases value_cases h (by omega) with
        ⟨hlt, hpasses⟩ | ⟨d, behind, hd, ⟨hstart, hitems⟩ | ⟨hstart, hfields⟩⟩
      · exact crosses_of_first hlt hpasses
      · obtain rfl := Nat.succ.inj hd
        rw [hstart, List.length_cons] at hspace
        refine (leaves_of_items (fun _ _ _ => ih) hitems (by omega)).crosses (by omega) fun open_ => ?_
        simp [skipFirst, hstart, Bytes.isDigit]
      · obtain rfl := Nat.succ.inj hd
        rw [hstart, List.length_cons] at hspace
        refine (leaves_of_fields (fun _ _ _ => ih) hfields (by omega)).crosses (by omega) fun open_ => ?_
        simp [skipFirst, hstart, Bytes.isDigit]

/-- A value that is read is passed over up to the same place. -/
theorem skipValue_of_value (h : value limit depth bytes = .ok (v, rest)) (hlimit : bytes.length < limit) :
    skipValue limit bytes = .ok rest := by
  obtain ⟨-, hcrosses⟩ := crosses_of_value h hlimit
  obtain ⟨left, -, hskip⟩ := hcrosses [] limit (by omega)
  rw [skipValue, hskip, skipOn_nil]

end

end DocumentCard.Json
