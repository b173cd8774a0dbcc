import DocumentCard.Base64
import DocumentCard.Text.Utf8
set_option autoImplicit false

/-!
# Base64 is read back

Writing takes bytes three by three, reading takes characters four by four, and each puts what is new in front
of what it has put together before.  Between them stand the six-bit numbers (`sextets`) and the padding:
together they are what is written (`encodeFrom_eq`), the characters tell the numbers
(`numbersFrom_map_symbol`), the padding comes where it may (`numbersFrom_padding`), no bit of the last number
is spare (`spareBits_sextets`), and the bytes come out of the numbers again (`bytesFrom_sextets`).

All that is written is ASCII, so as a text it has one byte for each character (`Text.Utf8.encode_toLatin1`).

Main statement: bytes that are written as a text can be read, and are what they were (`decode_encodeText`).
-/

namespace DocumentCard

namespace Text.Utf8

/-- What an array of bytes holds from some place on is put behind what has been seen. -/
theorem toList_loop (bytes : ByteArray) (place : Nat) (seen : Bytes) :
    ByteArray.toList.loop bytes place seen = seen.reverse ++ bytes.data.toList.drop place := by
  fun_induction ByteArray.toList.loop bytes place seen with
  | case1 place seen inside ih =>
      have hplace : place < bytes.data.toList.length := by simpa using inside
      have hget : bytes.get! place = bytes.data.toList[place] := by
        cases bytes
        exact getElem!_pos _ place inside
      rw [ih, List.drop_eq_getElem_cons hplace, hget, List.reverse_cons, List.append_assoc,
        List.singleton_append]
  | case2 place seen outside =>
      rw [List.drop_eq_nil_of_le (by simpa using Nat.le_of_not_lt outside), List.append_nil]

theorem toList_toByteArray (bytes : Bytes) : bytes.toByteArray.toList = bytes := by
  rw [ByteArray.toList, toList_loop, List.reverse_nil, List.nil_append, List.drop_zero,
    List.toList_data_toByteArray]

/-- An ASCII text has one byte for each character. -/
theorem encode_toLatin1 {bytes : Bytes} (ascii : ∀ b ∈ bytes, b.toNat < 128) :
    encode (String.ofList (Bytes.toLatin1 bytes)) = bytes := by
  rw [encode, String.toUTF8, String.toByteArray_ofList, List.utf8Encode, toList_toByteArray]
  induction bytes with
  | nil => rfl
  | cons b rest ih =>
      obtain ⟨hb, hrest⟩ := List.forall_mem_cons.mp ascii
      have hsize : (Char.ofNat b.toNat).utf8Size = 1 := by
        rw [Char.utf8Size_eq_one_iff, UInt32.le_iff_toNat_le]
        change (Char.ofNat b.toNat).toNat ≤ 127
        rw [Bytes.toNat_ofNat_of_byte]
        omega
      have hbyte : (Char.ofNat b.toNat).val.toUInt8 = b := by
        rw [← UInt8.toNat_inj, UInt32.toNat_toUInt8]
        change (Char.ofNat b.toNat).toNat % 256 = b.toNat
        rw [Bytes.toNat_ofNat_of_byte, Nat.mod_eq_of_lt b.toNat_lt]
      rw [Bytes.toLatin1, List.map_cons, List.flatMap_cons, String.utf8EncodeChar_eq_singleton hsize,
        hbyte, List.singleton_append]
      exact congrArg (b :: ·) (ih hrest)

end Text.Utf8

namespace Base64

/-- The six-bit numbers of bytes, four for each three bytes; zeros fill up the last one. -/
def sextets : Bytes → List Nat
  | a :: b :: c :: rest =>
      let n := (a.toNat * 256 + b.toNat) * 256 + c.toNat
      n / 262144 :: n / 4096 % 64 :: n / 64 % 64 :: n % 64 :: sextets rest
  | [a, b] =>
      let n := (a.toNat * 256 + b.toNat) * 4
      [n / 4096, n / 64 % 64, n % 64]
  | [a] =>
      let n := a.toNat * 16
      [n / 64, n % 64]
  | [] => []

/-- What fills up the last four characters. -/
def padding (bytes : Bytes) : Bytes := List.replicate ((3 - bytes.length % 3) % 3) pad

/-! ## Writing -/

theorem padding_cons (a b c : UInt8) (rest : Bytes) : padding (a :: b :: c :: rest) = padding rest := by
  simp only [padding, List.length_cons, Nat.add_assoc, Nat.reduceAdd, Nat.add_mod_right]

/-- The characters of the numbers are written, and then the padding. -/
theorem encodeFrom_eq (seen bytes : Bytes) :
    encodeFrom seen bytes = seen.reverse ++ (sextets bytes).map symbol ++ padding bytes := by
  fun_induction encodeFrom seen bytes with
  | case1 seen a b c rest n ih => rw [ih, padding_cons, sextets]; simp [n]
  | case2 seen a b n => simp [sextets, padding, n]
  | case3 seen a n => simp [sextets, padding, n]
  | case4 seen => simp [sextets, padding]

theorem encode_eq (bytes : Bytes) : encode bytes = (sextets bytes).map symbol ++ padding bytes :=
  encodeFrom_eq [] bytes

theorem lt_of_mem_sextets {bytes : Bytes} : ∀ n ∈ sextets bytes, n < 64 := by
  fun_induction sextets bytes with
  | case1 a b c rest n ih =>
      have ha := a.toNat_lt
      have hb := b.toNat_lt
      have hc := c.toNat_lt
      simp only [List.forall_mem_cons]
      refine ⟨?_, ?_, ?_, ?_, ih⟩ <;> omega
  | case2 a b n =>
      have ha := a.toNat_lt
      have hb := b.toNat_lt
      simp only [List.forall_mem_cons]
      refine ⟨?_, ?_, ?_, nofun⟩ <;> omega
  | case3 a n =>
      have ha := a.toNat_lt
      simp only [List.forall_mem_cons]
      refine ⟨?_, ?_, nofun⟩ <;> omega
  | case4 => nofun

theorem length_sextets (bytes : Bytes) : ((sextets bytes).length + (padding bytes).length) % 4 = 0 := by
  fun_induction sextets bytes with
  | case1 a b c rest n ih =>
      rw [padding_cons]
      simp only [List.length_cons]
      omega
  | case2 a b n => simp [padding]
  | case3 a n => simp [padding]
  | case4 => rfl

theorem length_padding_lt (bytes : Bytes) : (padding bytes).length < 3 := by
  rw [padding, List.length_replicate]
  exact Nat.mod_lt _ (by decide)

/-! ## Reading -/

/-- A character of the alphabet tells its number and is no padding. -/
theorem symbol_spec {n : Nat} (h : n < 64) : symbolValue? (symbol n) = some n ∧ symbol n ≠ pad := by
  have all : ∀ n : Fin 64, symbolValue? (symbol n) = some n.val ∧ symbol n ≠ pad := by decide
  exact all ⟨n, h⟩

/-- Characters of the alphabet are as many numbers more. -/
theorem numbersFrom_map_symbol (seen : List Nat) (offset : Nat) (last : UInt8) (numbers : List Nat)
    (six : ∀ n ∈ numbers, n < 64) (behind : Bytes) :
    ∃ last', numbersFrom seen offset last (numbers.map symbol ++ behind)
      = numbersFrom (numbers.reverse ++ seen) (offset + numbers.length) last' behind := by
  induction numbers generalizing seen offset last with
  | nil => exact ⟨last, rfl⟩
  | cons n rest ih =>
      obtain ⟨hn, hrest⟩ := List.forall_mem_cons.mp six
      obtain ⟨hvalue, hpad⟩ := symbol_spec hn
      obtain ⟨last', hlater⟩ := ih (n :: seen) (offset + 1) (symbol n) hrest
      refine ⟨last', ?_⟩
      rw [List.map_cons, List.cons_append, numbersFrom, if_neg hpad, hvalue]
      simp only [hlater, List.reverse_cons, List.append_assoc, List.singleton_append, List.length_cons,
        Nat.add_assoc, Nat.add_comm 1]

/-- Padding may stand where it fills up four characters. -/
theorem numbersFrom_padding (seen : List Nat) (last : UInt8) {offset count : Nat} (few : count < 3)
    (aligned : (offset + count) % 4 = 0) :
    numbersFrom seen offset last (List.replicate count pad) = .ok (seen, last) := by
  match count with
  | 0 => rfl
  | 1 =>
      have hends : endsWell offset [] = true := by
        simp only [endsWell, decide_eq_true_eq]
        omega
      simp [numbersFrom, hends]
  | 2 =>
      have hends : endsWell offset [pad] = true := by
        simp only [endsWell, Bool.and_eq_true, decide_eq_true_eq, true_and]
        omega
      simp [numbersFrom, hends]

theorem spareBits_sextets (bytes : Bytes) :
    spareBits (sextets bytes).length ((sextets bytes).reverse.headD 0) = false := by
  fun_induction sextets bytes with
  | case1 a b c rest n ih =>
      have hcount : ∀ count last, spareBits (count + 1 + 1 + 1 + 1) last = spareBits count last := by
        intro count last
        simp only [spareBits, Nat.add_assoc, Nat.reduceAdd, Nat.add_mod_right]
      simp only [List.length_cons, hcount]
      -- the last number is that of the bytes behind, if there are any
      cases hrest : (sextets rest).reverse with
      | nil =>
          rw [List.reverse_eq_nil_iff.mp hrest]
          rfl
      | cons last before =>
          rw [hrest] at ih
          simp only [List.reverse_cons, hrest, List.cons_append]
          exact ih
  | case2 a b n => simp [spareBits, n]
  | case3 a n => simp [spareBits, n]
  | case4 => rfl

/-- The bytes come out of their numbers. -/
theorem bytesFrom_sextets (seen bytes : Bytes) :
    bytesFrom seen (sextets bytes) = seen.reverse ++ bytes := by
  fun_induction sextets bytes generalizing seen with
  | case1 a b c rest n ih =>
      have ha := a.toNat_lt
      have hb := b.toNat_lt
      have hc := c.toNat_lt
      have hjoined : ((n / 262144 * 64 + n / 4096 % 64) * 64 + n / 64 % 64) * 64 + n % 64 = n := by omega
      have hthree : [UInt8.ofNat (n / 65536), UInt8.ofNat (n / 256), UInt8.ofNat n] = [a, b, c] := by
        simp only [List.cons.injEq, and_true, ← UInt8.toNat_inj, UInt8.toNat_ofNat']
        omega
      simp only [List.cons.injEq, and_true] at hthree
      simp [bytesFrom, hjoined, hthree, ih]
  | case2 a b n =>
      have ha := a.toNat_lt
      have hb := b.toNat_lt
      have hjoined : ((n / 4096 * 64 + n / 64 % 64) * 64 + n % 64) / 4 = a.toNat * 256 + b.toNat := by
        omega
      have htwo : [UInt8.ofNat ((a.toNat * 256 + b.toNat) / 256), UInt8.ofNat (a.toNat * 256 + b.toNat)]
          = [a, b] := by
        simp only [List.cons.injEq, and_true, ← UInt8.toNat_inj, UInt8.toNat_ofNat']
        omega
      simp only [List.cons.injEq, and_true] at htwo
      simp [bytesFrom, hjoined, htwo]
  | case3 a n =>
      have hjoined : (n / 64 * 64 + n % 64) / 16 = a.toNat := by omega
      simp [bytesFrom, hjoined]
  | case4 => simp [bytesFrom]

/-- Bytes that are written can be read, and are what they were. -/
theorem decode_encode (bytes : Bytes) : decode (encode bytes) = .ok bytes := by
  have hlength : (encode bytes).length % 4 = 0 := by
    rw [encode_eq, List.length_append, List.length_map]
    exact length_sextets bytes
  have hnumbers : ∃ last, numbersFrom [] 0 pad (encode bytes) = .ok ((sextets bytes).reverse, last) := by
    obtain ⟨last, hnumbers⟩ :=
      numbersFrom_map_symbol [] 0 pad (sextets bytes) lt_of_mem_sextets (padding bytes)
    refine ⟨last, ?_⟩
    rw [encode_eq, hnumbers, List.append_nil, Nat.zero_add]
    have haligned := length_sextets bytes
    have hfew := length_padding_lt bytes
    rw [padding, List.length_replicate] at haligned hfew
    exact numbersFrom_padding _ last hfew haligned
  obtain ⟨last, hnumbers⟩ := hnumbers
  rw [decode, if_neg (by omega), hnumbers]
  simp only [hlength, List.length_reverse, spareBits_sextets, List.reverse_reverse, bytesFrom_sextets]
  rfl

theorem lt_of_mem_encode {bytes : Bytes} : ∀ b ∈ encode bytes, b.toNat < 128 := by
  have hsymbol : ∀ n : Fin 64, (symbol n).toNat < 128 := by decide
  intro b hb
  rw [encode_eq, List.mem_append, List.mem_map] at hb
  obtain ⟨n, hn, rfl⟩ | hpad := hb
  · exact hsymbol ⟨n, lt_of_mem_sextets n hn⟩
  · rw [List.eq_of_mem_replicate hpad]
    decide

/-- Bytes that are written as a text can be read, and are what they were. -/
theorem decode_encodeText (bytes : Bytes) : decode (Text.Utf8.encode (encodeText bytes)) = .ok bytes := by
  rw [encodeText, Text.Utf8.encode_toLatin1 lt_of_mem_encode, decode_encode]

end Base64

end DocumentCard
