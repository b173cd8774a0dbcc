import DocumentCard.Session.PartReader
import Mathlib.Algebra.Order.Floor.Div
set_option autoImplicit false

/-!
# Where a reader stands

A reader is asked for parts of any sizes, and sent back to the start at any time.  It then stands at some
place of its file (`cursor`), and the parts that it has given since it was last at the start are what of the
file is in front of this place (`Reached`).  One step keeps this, whatever is asked (`Reached.ask`), and so
does a whole run (`Reached.run`).

A machine keeps the place in a word and adds the size of the next part to it (`wordEnd`).  The part is never
longer than what is left of the file, so the sum is at most the length of the file and fits into the word,
however great the size that is asked for (`toNat_wordEnd`).

Main statement: parts are the slices of the file one behind the other, and the flag is on those behind which
nothing is left and on no others (`parts_are_exact`).
-/

namespace DocumentCard.Session.PartReader

/-- What a reader is asked to do. -/
inductive Ask where
  /-- to give a part of at most so many bytes -/
  | part (max : UInt64)
  | rewind
  deriving DecidableEq, Repr

/-- What a reader answers. -/
inductive Answer where
  | given (part : Part)
  | refused (fault : Fault)
  | rewound
  deriving DecidableEq, Repr

/-- What a reader answers when it is asked, and the reader afterwards. -/
def ask (r : PartReader) : Ask → Answer × PartReader
  | .part max =>
      match r.next max.toNat with
      | .ok (part, after) => (.given part, after)
      | .error fault => (.refused fault, r)
  | .rewind => (.rewound, r.rewind)

/-- The answers to one request after the other. -/
def answers (r : PartReader) : List Ask → List Answer
  | [] => []
  | a :: asks => (r.ask a).1 :: (r.ask a).2.answers asks

/-- The reader after one request after the other. -/
def run (r : PartReader) : List Ask → PartReader
  | [] => r
  | a :: asks => (r.ask a).2.run asks

/-- What the parts since the last rewind make up, if they made up `before` when the answers began. -/
def sinceRewind (before : Bytes) : List Answer → Bytes
  | [] => before
  | .given part :: later => sinceRewind (before ++ part.bytes) later
  | .refused _ :: later => sinceRewind before later
  | .rewound :: later => sinceRewind [] later

/-- The place at which a reader stands: so many bytes of the file are in front of it. -/
def cursor (r : PartReader) : Nat := r.file.length - r.remaining

/-- The place at which the next part ends, in words.  Here a sum that does not fit loses its highest bit. -/
def wordEnd (r : PartReader) (max : UInt64) : UInt64 :=
  let cursor := UInt64.ofNat r.cursor
  cursor + min max (UInt64.ofNat r.file.length - cursor)

/-- The reader is in a file, behind these bytes. -/
def Reached (file before : Bytes) (r : PartReader) : Prop := r.file = file ∧ before ++ r.rest = file

/-! ## Runs -/

theorem ask_zero (r : PartReader) : r.ask (.part 0) = (.refused .partSize, r) := rfl

theorem ask_of_next {r after : PartReader} {max : UInt64} {part : Part}
    (next : r.next max.toNat = .ok (part, after)) : r.ask (.part max) = (.given part, after) := by
  rw [ask, next]

theorem ask_part (r : PartReader) {max : UInt64} (pos : 0 < max) :
    ∃ after, r.ask (.part max)
      = (.given ⟨r.rest.take max.toNat, (r.rest.drop max.toNat).isEmpty⟩, after) ∧
      after.rest = r.rest.drop max.toNat := by
  obtain ⟨after, hnext, hrest⟩ := r.next_of_pos (UInt64.lt_iff_toNat_lt.mp pos)
  exact ⟨after, ask_of_next hnext, hrest⟩

theorem answers_append (r : PartReader) (asks more : List Ask) :
    r.answers (asks ++ more) = r.answers asks ++ (r.run asks).answers more := by
  induction asks generalizing r with
  | nil => rfl
  | cons a asks ih => rw [List.cons_append, answers, answers, run, ih, List.cons_append]

section Reached

variable {file before : Bytes} {r : PartReader}

theorem reached_ofFile (file : Bytes) : Reached file [] (ofFile file) := ⟨rfl, rfl⟩

/-- Whatever is asked, a reader is behind the parts since the last rewind. -/
theorem Reached.ask (reached : Reached file before r) (a : Ask) :
    Reached file (sinceRewind before [(r.ask a).1]) (r.ask a).2 := by
  obtain ⟨hfile, hbefore⟩ := reached
  cases a with
  | rewind => exact ⟨hfile, hfile⟩
  | part max =>
      by_cases hmax : max = 0
      · subst hmax
        exact ⟨hfile, hbefore⟩
      · have pos : 0 < max := UInt64.pos_iff_ne_zero.mpr hmax
        obtain ⟨after, hnext, -⟩ := r.next_of_pos (UInt64.lt_iff_toNat_lt.mp pos)
        rw [ask_of_next hnext]
        refine ⟨(next_file hnext).trans hfile, ?_⟩
        rw [sinceRewind, sinceRewind, List.append_assoc, next_rest hnext, hbefore]

theorem sinceRewind_cons (before : Bytes) (answer : Answer) (later : List Answer) :
    sinceRewind before (answer :: later) = sinceRewind (sinceRewind before [answer]) later := by
  cases answer <;> rfl

/-- After any run a reader is behind the parts since the last rewind. -/
theorem Reached.run (reached : Reached file before r) (asks : List Ask) :
    Reached file (sinceRewind before (r.answers asks)) (r.run asks) := by
  induction asks generalizing before r with
  | nil => exact reached
  | cons a asks ih =>
      rw [answers, sinceRewind_cons]
      exact ih (reached.ask a)

theorem Reached.cursor_eq (reached : Reached file before r) : r.cursor = before.length := by
  obtain ⟨rfl, hbefore⟩ := reached
  have hlength := congrArg List.length hbefore
  rw [List.length_append] at hlength
  rw [cursor, remaining]
  omega

theorem Reached.before_eq (reached : Reached file before r) : before = file.take r.cursor := by
  rw [reached.cursor_eq, ← reached.2, List.take_left]

theorem Reached.rest_eq (reached : Reached file before r) : r.rest = file.drop r.cursor := by
  rw [reached.cursor_eq, ← reached.2, List.drop_left]

end Reached

theorem cursor_le (r : PartReader) : r.cursor ≤ r.file.length := Nat.sub_le _ _

/-- In words the end of the next part is what it is in numbers. -/
theorem toNat_wordEnd (r : PartReader) (max : UInt64) (fits : r.file.length < UInt64.size) :
    (r.wordEnd max).toNat = r.cursor + min max.toNat (r.file.length - r.cursor) := by
  have hcursor := r.cursor_le
  have hword : (UInt64.ofNat r.cursor).toNat = r.cursor :=
    UInt64.toNat_ofNat_of_lt' (Nat.lt_of_le_of_lt hcursor fits)
  have hlength : (UInt64.ofNat r.file.length).toNat = r.file.length := UInt64.toNat_ofNat_of_lt' fits
  have hleft : (UInt64.ofNat r.file.length - UInt64.ofNat r.cursor).toNat
      = r.file.length - r.cursor := by
    rw [UInt64.toNat_sub_of_le _ _ (by rwa [UInt64.le_iff_toNat_le, hword, hlength]), hword, hlength]
  -- the sum is at most the length of the file, so no bit of it is lost
  have hsum : r.cursor + min max.toNat (r.file.length - r.cursor) < 2 ^ 64 := by
    change r.file.length < 2 ^ 64 at fits
    omega
  rw [wordEnd, UInt64.toNat_add, UInt64.toNat_min, hword, hleft, Nat.mod_eq_of_lt hsum]

/-! ## Parts of one size -/

/-- Behind so many parts of one size. -/
theorem rest_run_replicate (r : PartReader) {max : UInt64} (pos : 0 < max) (count : Nat) :
    (r.run (List.replicate count (.part max))).rest = r.rest.drop (count * max.toNat) := by
  induction count generalizing r with
  | zero => simp [run]
  | succ count ih =>
      obtain ⟨after, hask, hrest⟩ := r.ask_part pos
      rw [List.replicate_succ, run, hask, ih, hrest, List.drop_drop, Nat.succ_mul, Nat.add_comm]

/-- The last of some parts of one size is final if and only if together they reach the end. -/
theorem finalAfter_iff (r : PartReader) {max : UInt64} (pos : 0 < max) (count : Nat) :
    (∃ part, part.final = true ∧
        (r.answers (List.replicate count (.part max))).getLast? = some (.given part)) ↔
      1 ≤ count ∧ r.remaining ≤ max.toNat * count := by
  cases count with
  | zero => simp [answers]
  | succ count =>
      obtain ⟨after, hask, -⟩ := (r.run (List.replicate count (.part max))).ask_part pos
      rw [List.replicate_succ', answers_append, answers, hask, answers, List.getLast?_concat,
        rest_run_replicate r pos, List.drop_drop]
      have hend : count * max.toNat + max.toNat = max.toNat * (count + 1) := by
        rw [Nat.mul_succ, Nat.mul_comm]
      simp [remaining, hend]

/-- Parts are exact, whatever is asked for before.

After any requests the reader stands at a place of its file, and the parts since the last rewind are what is
in front of it.  A part of no bytes is refused and nothing moves.  Any other part is the slice from this
place on, as long as it may be; the place behind it is the sum of the two, also in words of 64 bits, into
which the length of a file fits.  It is final if and only if with it the parts make up the whole file, and
full if it is not final.  Back at the start, of parts of one size the first that is final is that with which
the file is used up, and the first part of an empty file. -/
theorem parts_are_exact (file : Bytes) (asks : List Ask) :
    let r := (ofFile file).run asks
    let before := sinceRewind [] ((ofFile file).answers asks)
    r.file = file ∧ r.cursor ≤ file.length ∧ before = file.take r.cursor ∧
      r.ask (.part 0) = (.refused .partSize, r) ∧
      r.ask .rewind = (.rewound, ofFile file) ∧
      (∀ max : UInt64, 0 < max →
        let size := min max.toNat (file.length - r.cursor)
        ∃ part after, r.ask (.part max) = (.given part, after) ∧
          part.bytes = (file.drop r.cursor).take size ∧ part.bytes.length = size ∧
          after.cursor = r.cursor + size ∧
          (file.length < UInt64.size → (r.wordEnd max).toNat = after.cursor) ∧
          before ++ part.bytes <+: file ∧
          (part.final = true ↔ before ++ part.bytes = file) ∧
          (part.final = false → part.bytes.length = max.toNat)) ∧
      ∀ max : UInt64, 0 < max →
        IsLeast {count | ∃ part, part.final = true ∧
            ((ofFile file).answers (List.replicate count (.part max))).getLast? = some (.given part)}
          (Nat.max 1 (file.length ⌈/⌉ max.toNat)) := by
  intro r before
  have reached : Reached file before r := (reached_ofFile file).run asks
  have hfile : r.file = file := reached.1
  refine ⟨hfile, hfile ▸ r.cursor_le, reached.before_eq, r.ask_zero, ?_, fun max pos => ?_,
    fun max pos => ?_⟩
  · rw [ask, rewind, hfile]
  · intro size
    obtain ⟨after, hnext, -⟩ := r.next_of_pos (UInt64.lt_iff_toNat_lt.mp pos)
    obtain ⟨-, hfront, hfinal⟩ := next_prolongs hnext reached.2
    have hask : r.ask (.part max) = (.given _, after) := ask_of_next hnext
    have hlength : (r.rest.take max.toNat).length = size := by
      rw [List.length_take, reached.rest_eq, List.length_drop]
    have hcursor : after.cursor = r.cursor + size := by
      have hafter := reached.ask (.part max)
      rw [hask] at hafter
      rw [hafter.cursor_eq, sinceRewind, sinceRewind, List.length_append, hlength, reached.cursor_eq]
    refine ⟨_, after, hask, ?_, hlength, hcursor, fun fits => ?_, hfront, hfinal,
      length_of_not_final hnext⟩
    · calc r.rest.take max.toNat
          = r.rest.take (r.rest.take max.toNat).length :=
            List.prefix_iff_eq_take.mp (List.take_prefix _ _)
        _ = (file.drop r.cursor).take size := by rw [hlength, reached.rest_eq]
    · rw [r.toNat_wordEnd max (hfile ▸ fits), hcursor, hfile]
  · have hpos : 0 < max.toNat := UInt64.lt_iff_toNat_lt.mp pos
    have hset : ∀ count, (∃ part, part.final = true ∧
          ((ofFile file).answers (List.replicate count (.part max))).getLast? = some (.given part))
        ↔ 1 ≤ count ∧ file.length ⌈/⌉ max.toNat ≤ count := by
      intro count
      rw [ceilDiv_le_iff_le_mul hpos]
      exact finalAfter_iff (ofFile file) pos count
    constructor
    · exact (hset _).mpr ⟨Nat.le_max_left .., Nat.le_max_right ..⟩
    · intro count final
      exact Nat.max_le.mpr ((hset count).mp final)

/-- A file of three bytes of which the greatest part has been read, and after a rewind a part of two bytes.
The greatest part is then the third byte. -/
theorem parts_are_exact_at_limit :
    let file : Bytes := [7, 8, 9]
    let greatest : UInt64 := 0xFFFFFFFFFFFFFFFF
    let r := (ofFile file).run [.part greatest, .rewind, .part 2]
    0 < greatest ∧ file.length < UInt64.size ∧
      ∃ part after, r.ask (.part greatest) = (.given part, after) ∧ part.bytes = [9] ∧
        part.final = true ∧ after.cursor = 3 ∧ (r.wordEnd greatest).toNat = after.cursor := by
  intro file greatest r
  have pos : 0 < greatest := by decide
  have fits : file.length < UInt64.size := by decide
  obtain ⟨-, -, -, -, -, hpart, -⟩ := parts_are_exact file [.part greatest, .rewind, .part 2]
  obtain ⟨part, after, hask, hbytes, -, hcursor, hword, -, hfinal, -⟩ := hpart greatest pos
  have hnine : part.bytes = [9] := hbytes.trans (by decide)
  refine ⟨pos, fits, part, after, hask, hnine, hfinal.mpr ?_, hcursor.trans (by decide), hword fits⟩
  rw [hnine]
  decide

end DocumentCard.Session.PartReader
