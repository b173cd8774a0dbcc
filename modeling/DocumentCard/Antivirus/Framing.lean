import DocumentCard.Antivirus.Verdict
set_option autoImplicit false

/-!
# The stream of a scan

Data to be scanned goes to the daemon behind a command line, in chunks with their length in four
bytes before them, and a length of zero ends it.  `request` writes such a stream and `read` takes
one apart the way the daemon does, so that the two can be held against each other.
-/

namespace DocumentCard.Antivirus.Framing

/-- The line that asks for a scan. -/
def command : Bytes := Bytes.ascii "nINSTREAM\n"

/-- The greatest number of bytes in a chunk. -/
def chunkSize : Nat := 1024 * 1024

theorem chunkSize_pos : 0 < chunkSize := by decide

/-- Data cut into chunks, all full but the last, none empty. -/
def chunks (data : Bytes) : List Bytes :=
  if _h : data = [] then [] else data.take chunkSize :: chunks (data.drop chunkSize)
termination_by data.length
decreasing_by
  have : 0 < data.length := List.length_pos_iff.mpr _h
  have := chunkSize_pos
  simp only [List.length_drop]
  omega

/-- The chunks lose nothing. -/
theorem flatten_chunks (data : Bytes) : (chunks data).flatten = data := by
  induction data using chunks.induct with
  | case1 => simp [chunks]
  | case2 data h ih => rw [chunks, dif_neg h, List.flatten_cons, ih, List.take_append_drop]

/-- A chunk behind its length; the length has to fit four bytes. -/
def framed (chunk : Bytes) : Except Fault Bytes :=
  if chunk.length < 0x100000000 then .ok (Bytes.ofWord chunk.length ++ chunk)
  else .error (.chunkTooLarge chunk.length)

/-- The length that ends a stream. -/
def ending : Bytes := Bytes.ofWord 0

/-- All that is sent to have data scanned. -/
def request (data : Bytes) : Except Fault Bytes := do
  return command ++ (← (chunks data).mapM framed).flatten ++ ending

/-- A stream as the daemon reads it. -/
structure Stream where
  command : Bytes
  chunks : List Bytes
  deriving DecidableEq, Repr

/-- Reads chunks up to the length that ends them, and returns what follows. -/
def readChunks : Nat → Bytes → Option (List Bytes × Bytes)
  | 0, _ => none
  | fuel + 1, bytes =>
      match bytes with
      | a :: b :: c :: d :: rest =>
          let length := Bytes.toNumber [a, b, c, d]
          if length = 0 then some ([], rest)
          else if (rest.take length).length = length then
            (readChunks fuel (rest.drop length)).map fun (more, after) =>
              (rest.take length :: more, after)
          else none
      | _ => none

/-- Reads a stream: a command of ten bytes and its chunks; returns what follows. -/
def read (bytes : Bytes) : Option (Stream × Bytes) :=
  if bytes.length < command.length then none
  else
    (readChunks bytes.length (bytes.drop command.length)).map fun (chunks, rest) =>
      (⟨bytes.take command.length, chunks⟩, rest)

end DocumentCard.Antivirus.Framing
