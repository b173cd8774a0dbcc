import DocumentCard.Pdf.TextString
import Mathlib.Logic.Function.Basic
set_option autoImplicit false

/-!
# Texts of the two encodings are told apart

The writer looks at the text to choose between ASCII and UTF-16, the reader only at the first two bytes.  They
agree because the mark is not ASCII: bytes of ASCII never begin with it (`not_mark_prefix_of_ascii`), whichever
characters the text begins with, and bytes of UTF-16 always do (`mark_prefix_encode`).

Main statement: a text is read back from its object, the form of which says in which of the two encodings its
bytes are taken; so different texts have different objects (`texts_are_told_apart`).
-/

namespace DocumentCard.Pdf.TextString

/-! ## The reader's choice -/

/-- Without the mark, each byte is a character. -/
theorem decode_of_not_mark_prefix {bytes : Bytes} (unmarked : ¬ mark <+: bytes) :
    decode bytes = Bytes.toLatin1 bytes := by
  unfold decode
  split
  · exact absurd (List.prefix_append mark _) unmarked
  · rfl

theorem not_mark_prefix_of_ascii {bytes : Bytes} (ascii : ∀ b ∈ bytes, b.toNat < 128) :
    ¬ mark <+: bytes := by
  intro marked
  have hfirst : (0xFE : UInt8) ∈ bytes := marked.subset List.mem_cons_self
  exact absurd (ascii 0xFE hfirst) (by decide)

/-! ## The writer's choice -/

theorem lt_of_mem_encode {text : List Char} (ascii : isAscii text = true) :
    ∀ b ∈ encode text, b.toNat < 128 := by
  intro b hb
  rw [encode, if_pos ascii, Bytes.latin1] at hb
  obtain ⟨c, hc, rfl⟩ := List.mem_map.mp hb
  have hsmall : c.toNat < 128 := of_decide_eq_true (List.all_eq_true.mp ascii c hc)
  rw [UInt8.toNat_ofNat', Nat.mod_eq_of_lt (by omega)]
  exact hsmall

/-- The mark is written in front of the texts that are not ASCII, and no others begin with it. -/
theorem mark_prefix_encode (text : List Char) : mark <+: encode text ↔ isAscii text = false := by
  cases h : isAscii text with
  | true => simp [not_mark_prefix_of_ascii (lt_of_mem_encode h)]
  | false =>
      rw [encode, if_neg (by simp [h])]
      simp [List.prefix_append]

theorem encode_injective : Function.Injective encode := Function.LeftInverse.injective decode_encode

theorem toObj_injective : Function.Injective toObj := by
  intro text other same
  obtain ⟨hbytes, -⟩ := Obj.str.inj same
  exact encode_injective hbytes

/-! ## Both together -/

/-- A text's object is a string from whose bytes it is read back.  A literal string stands for ASCII and for
nothing else, a hexadecimal one for what has the mark.  Different texts have different objects, and no bytes of
ASCII are taken for UTF-16. -/
theorem texts_are_told_apart :
    (∀ text, ∃ bytes form, toObj text = .str bytes form ∧ decode bytes = text ∧
        (form = .literal ↔ isAscii text = true) ∧ (form = .hexadecimal ↔ mark <+: bytes)) ∧
      Function.Injective toObj ∧ Function.Injective encode ∧
      ∀ bytes : Bytes, (∀ b ∈ bytes, b.toNat < 128) →
        ¬ mark <+: bytes ∧ decode bytes = Bytes.toLatin1 bytes := by
  refine ⟨fun text => ?_, toObj_injective, encode_injective, fun bytes ascii => ?_⟩
  · refine ⟨encode text, _, rfl, decode_encode text, ?_, ?_⟩
    · cases h : isAscii text <;> simp
    · rw [mark_prefix_encode]
      cases h : isAscii text <;> simp
  · have unmarked := not_mark_prefix_of_ascii ascii
    exact ⟨unmarked, decode_of_not_mark_prefix unmarked⟩

theorem texts_are_told_apart_at_controls :
    (∀ b ∈ ([0x7F, 0x00] : Bytes), b.toNat < 128) ∧ ¬ mark <+: ([0x7F, 0x00] : Bytes) ∧
      decode [0x7F, 0x00] = Bytes.toLatin1 [0x7F, 0x00] :=
  have ascii : ∀ b ∈ ([0x7F, 0x00] : Bytes), b.toNat < 128 := by simp
  ⟨ascii, texts_are_told_apart.2.2.2 [0x7F, 0x00] ascii⟩

/-- The characters U+00FE and U+00FF are no mark: they stand behind one. -/
example : toObj ['\u00FE', '\u00FF'] = .str [0xFE, 0xFF, 0x00, 0xFE, 0x00, 0xFF] .hexadecimal := by rfl

end DocumentCard.Pdf.TextString
