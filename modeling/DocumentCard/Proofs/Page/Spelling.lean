import DocumentCard.Proofs.Page.Glyphs
set_option autoImplicit false

/-!
# Each character is spelled for itself, with one exception

Text goes to a page in one byte per glyph.  What a character becomes is at most four of these, and a glyph
each time: a control character becomes nothing, and what has no glyph a question mark (`isGlyph_of_mem_encode`).
Characters of ASCII and Latin-1 that have a glyph are that glyph (`encode_of_isPlain`).

Spelling looks one character ahead.  So a text is spelled like its two parts, the first of them in view of the
second (`encode_append`), and of the first part only the last character can tell what comes after it
(`encodeBefore_concat`).  It does if it is a capital of several letters (`encodeChar_eq_iff`): the letters
behind the first are small if a lowercase character follows.

Main statement: what is drawn is made of glyphs, and two texts are spelled one behind the other as they are
spelled alone, unless between them a capital of several letters meets a lowercase character
(`spelling_is_safe_and_local`).
-/

namespace DocumentCard.Page.WinAnsi

/-! ## Glyphs and nothing else -/

/-- A byte that is drawn: ASCII or Latin-1 without the control characters, or a dash. -/
def IsGlyph (b : UInt8) : Prop :=
  (0x20 ≤ b.toNat ∧ b.toNat ≤ 0x7E) ∨ (0xA0 ≤ b.toNat ∧ b.toNat ≤ 0xFF) ∨ b = 0x96 ∨ b = 0x97

instance (b : UInt8) : Decidable (IsGlyph b) := inferInstanceAs (Decidable (_ ∨ _))

/-- A character of ASCII or Latin-1 that is no control character. -/
def IsPlain (c : Char) : Prop :=
  (0x20 ≤ c.toNat ∧ c.toNat ≤ 0x7E) ∨ (0xA0 ≤ c.toNat ∧ c.toNat ≤ 0xFF)

instance (c : Char) : Decidable (IsPlain c) := inferInstanceAs (Decidable (_ ∨ _))

theorem isGlyph_of_mem_encodeOther {c : Char} {b : UInt8} (h : b ∈ encodeOther c) : IsGlyph b := by
  have hnumero : ∀ b ∈ Bytes.ascii "No", IsGlyph b :=
    List.forall_mem_cons.mpr ⟨by decide, List.forall_mem_cons.mpr ⟨by decide, nofun⟩⟩
  unfold encodeOther at h
  simp only at h
  split_ifs at h with hno hen hem htab hcontrol hascii hlatin
  · exact hnumero b h
  · rw [List.mem_singleton.mp h]; decide
  · rw [List.mem_singleton.mp h]; decide
  · rw [List.mem_singleton.mp h]; decide
  · cases h
  · rw [List.mem_singleton.mp h]
    refine .inl ?_
    rw [UInt8.toNat_ofNat']
    omega
  · rw [List.mem_singleton.mp h]
    refine .inr (.inl ?_)
    rw [UInt8.toNat_ofNat']
    omega
  · rw [List.mem_singleton.mp h]; decide

theorem isGlyph_of_mem_encodeChar {small : Bool} {c : Char} {b : UInt8} (h : b ∈ encodeChar small c) :
    IsGlyph b := by
  by_cases hc : c ∈ spelled
  · have all : ∀ c ∈ spelled, ∀ small, (encodeChar small c).all (fun b => IsGlyph b) = true :=
      List.all_iff_forall_prop.mp (by decide +kernel)
    exact of_decide_eq_true (List.all_eq_true.mp (all c hc small) b h)
  · rw [encodeChar, spelling?_eq_none hc] at h
    exact isGlyph_of_mem_encodeOther h

theorem isGlyph_of_mem_encode {text : List Char} : ∀ b ∈ encode text, IsGlyph b := by
  induction text with
  | nil => nofun
  | cons c rest ih =>
      intro b hb
      obtain hc | hrest := List.mem_append.mp hb
      · exact isGlyph_of_mem_encodeChar hc
      · exact ih b hrest

theorem encodeChar_of_isPlain {c : Char} (plain : IsPlain c) (small : Bool) :
    encodeChar small c = [UInt8.ofNat c.toNat] := by
  -- what is spelled, and the signs that are not their own byte, are all elsewhere
  have hfar : ∀ c ∈ '№' :: '–' :: '—' :: '\t' :: spelled, ¬ IsPlain c :=
    List.all_iff_forall_prop.mp (by decide +kernel)
  have hother : c ∉ '№' :: '–' :: '—' :: '\t' :: spelled := fun hc => hfar c hc plain
  simp only [List.mem_cons, not_or] at hother
  obtain ⟨hno, hen, hem, htab, hspelled⟩ := hother
  rw [encodeChar, spelling?_eq_none hspelled]
  simp only [encodeOther, if_neg hno, if_neg hen, if_neg hem, if_neg htab]
  have hlow : ¬ c.toNat < 0x20 := by
    unfold IsPlain at plain
    omega
  rw [if_neg hlow]
  split_ifs with hascii hlatin
  · rfl
  · rfl
  · unfold IsPlain at plain
    omega

/-- A text of plain characters is what it was. -/
theorem encode_of_isPlain {text : List Char} (plain : ∀ c ∈ text, IsPlain c) :
    (encode text).map UInt8.toNat = text.map Char.toNat := by
  induction text with
  | nil => rfl
  | cons c rest ih =>
      obtain ⟨hc, hrest⟩ := List.forall_mem_cons.mp plain
      have hbyte : c.toNat < 256 := by
        unfold IsPlain at hc
        omega
      rw [encode, encodeChar_of_isPlain hc, List.map_append, ih hrest, List.map_singleton,
        UInt8.toNat_ofNat', Nat.mod_eq_of_lt hbyte, List.map_cons, List.singleton_append]

/-! ## One character ahead -/

/-- A text in view of the text that follows it. -/
def encodeBefore (next : List Char) : List Char → Bytes
  | [] => []
  | c :: rest => encodeChar (startsSmall (rest ++ next)) c ++ encodeBefore next rest

/-- A text is spelled part by part, if the first part sees the second. -/
theorem encode_append (text next : List Char) :
    encode (text ++ next) = encodeBefore next text ++ encode next := by
  induction text with
  | nil => rfl
  | cons c rest ih => rw [List.cons_append, encode, ih, encodeBefore, List.append_assoc]

theorem encode_eq_encodeBefore (text : List Char) : encode text = encodeBefore [] text := by
  simpa [encode] using encode_append text []

/-- What comes after a text is seen by its last character and by no other. -/
theorem encodeBefore_concat (next text : List Char) (last : Char) :
    encodeBefore next (text ++ [last])
      = encodeBefore [last] text ++ encodeChar (startsSmall next) last := by
  induction text with
  | nil => exact List.append_nil _
  | cons c rest ih =>
      have hsees : startsSmall (rest ++ [last] ++ next) = startsSmall (rest ++ [last]) := by
        cases rest <;> rfl
      rw [List.cons_append, encodeBefore, encodeBefore, ih, hsees, List.append_assoc]

/-! ## Capitals of several letters -/

/-- Whether a character is a capital that is spelled with several letters. -/
def isBroad (c : Char) : Bool :=
  match spelling? c with
  | some (.capital latin) => 1 < latin.length
  | _ => false

theorem exists_of_isBroad {c : Char} (broad : isBroad c = true) :
    ∃ first others, spelling? c = some (.capital (first :: others)) ∧ others ≠ [] := by
  unfold isBroad at broad
  split at broad
  · rename_i latin hspelling
    match latin with
    | first :: second :: later => exact ⟨first, second :: later, hspelling, List.cons_ne_nil _ _⟩
  · cases broad

theorem encodeChar_of_capital {c first : Char} {others : List Char}
    (capital : spelling? c = some (.capital (first :: others))) (small : Bool) :
    encodeChar small c
      = Bytes.latin1 (first.toUpper :: if small then others else others.map Char.toUpper) := by
  rw [encodeChar, capital]
  rfl

/-- What follows a character shows in its spelling if and only if it is a capital of several letters. -/
theorem encodeChar_eq_iff (c : Char) : encodeChar true c = encodeChar false c ↔ isBroad c = false := by
  by_cases hc : c ∈ spelled
  · have all : ∀ c ∈ spelled, (encodeChar true c = encodeChar false c ↔ isBroad c = false) :=
      List.all_iff_forall_prop.mp (by decide +kernel)
    exact all c hc
  · have hnone := spelling?_eq_none hc
    simp [encodeChar, isBroad, hnone]

/-- Spelling is safe and local.

What is drawn for a text are glyphs and nothing else, at most four for a character, and a text of plain
characters is drawn as it is.  Two texts are spelled one behind the other as they are alone if and only if
there is no capital of several letters at the end of the first with a lowercase character at the start of the
second.  There, the letters of this capital behind the first are small and not capital, and nothing else
differs. -/
theorem spelling_is_safe_and_local :
    (∀ text, (∀ b ∈ encode text, IsGlyph b) ∧ (encode text).length ≤ 4 * text.length ∧
      ((∀ c ∈ text, IsPlain c) → (encode text).map UInt8.toNat = text.map Char.toNat)) ∧
    (∀ text next, encode (text ++ next) = encode text ++ encode next ↔
      ¬ ((∃ c ∈ text.getLast?, isBroad c = true) ∧ startsSmall next = true)) ∧
    ∀ text last next, isBroad last = true → startsSmall next = true →
      ∃ front first others, spelling? last = some (.capital (first :: others)) ∧
        encode (text ++ [last]) = front ++ Bytes.latin1 (first.toUpper :: others.map Char.toUpper) ∧
        encode (text ++ [last] ++ next)
          = front ++ Bytes.latin1 (first.toUpper :: others) ++ encode next := by
  refine ⟨fun text => ⟨isGlyph_of_mem_encode, ?_, encode_of_isPlain⟩, fun text next => ?_,
    fun text last next broad small => ?_⟩
  · rw [length_encode]
    exact sum_glyphs_le 4 fun c _ => glyphs_le_four c
  · rw [encode_append, encode_eq_encodeBefore text, List.append_left_inj]
    obtain rfl | ⟨front, last, rfl⟩ := List.eq_nil_or_concat' text
    · simp [encodeBefore]
    · have hlast : (∃ c ∈ (front ++ [last]).getLast?, isBroad c = true) ↔ isBroad last = true := by
        simp
      rw [encodeBefore_concat, encodeBefore_concat, List.append_right_inj, hlast]
      cases hnext : startsSmall next with
      | false => simp [startsSmall]
      | true => simp [startsSmall, encodeChar_eq_iff]
  · obtain ⟨first, others, capital, -⟩ := exists_of_isBroad broad
    refine ⟨encodeBefore [last] text, first, others, capital, ?_, ?_⟩
    · rw [encode_eq_encodeBefore, encodeBefore_concat, encodeChar_of_capital capital]
      rfl
    · rw [encode_append, encodeBefore_concat, encodeChar_of_capital capital, small, if_pos rfl]

/-- Before a small letter the last capital of `БОРЩ` is spelled `Shch`, and alone `SHCH`. -/
theorem spelling_is_safe_and_local_at_shcha :
    (∀ c ∈ "§ 7".toList, IsPlain c) ∧ (encode "§ 7".toList).map UInt8.toNat = [0xA7, 0x20, 0x37] ∧
      isBroad 'Щ' = true ∧ startsSmall ['и'] = true ∧
      encode ("БОРЩ".toList ++ ['и']) ≠ encode "БОРЩ".toList ++ encode ['и'] ∧
      ∃ front, encode "БОРЩ".toList = front ++ Bytes.ascii "SHCH" ∧
        encode ("БОРЩ".toList ++ ['и']) = front ++ Bytes.ascii "Shch" ++ encode ['и'] := by
  have plain : ∀ c ∈ "§ 7".toList, IsPlain c := by simp [IsPlain]
  have broad : isBroad 'Щ' = true := by decide +kernel
  have small : startsSmall ['и'] = true := by decide +kernel
  obtain ⟨hsafe, hparts, hbroad⟩ := spelling_is_safe_and_local
  refine ⟨plain, ((hsafe _).2.2 plain).trans (by decide), broad, small, ?_, ?_⟩
  · rw [Ne, hparts, not_not]
    exact ⟨⟨'Щ', by decide, broad⟩, small⟩
  · obtain ⟨front, first, others, hspelling, halone, htogether⟩ :=
      hbroad "БОР".toList 'Щ' ['и'] broad small
    have hshcha : spelling? 'Щ' = some (.capital "shch".toList) := by rfl
    rw [hshcha] at hspelling
    cases hspelling
    exact ⟨front, halone, htogether⟩

end DocumentCard.Page.WinAnsi
