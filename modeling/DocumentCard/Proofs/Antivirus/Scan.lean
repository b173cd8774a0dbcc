import DocumentCard.Antivirus.Client
import DocumentCard.Proofs.Steps
set_option autoImplicit false

/-!
# What a scan sends, and what comes of it

The daemon reads a stream piece by piece, a length and as many bytes, up to a length of zero, and judges
what it has read by then.  A chunk without bytes, or with a wrong length before it, would have it judge
only the front of the data.  So what is sent is held against what the daemon reads, with anything behind
it (`Framing.read_sent`) and cut off anywhere before its end (`Framing.read_cut`).

A client sends that stream once it is connected, and makes of the exchange what `Exchange.scan` says
(`Client.scan_of_connects`).  So a scan gives a verdict on a reply, or tells that there was none
(`Client.scan_cases`).

Main statement: whatever the data, the daemon reads it whole and in full chunks, and reads no more
(`stream_is_exact`).
-/

namespace DocumentCard.Antivirus

namespace Framing

/-! ## Chunks -/

section Chunks

variable {data chunk : Bytes}

theorem chunks_of_ne_nil (nonempty : data ≠ []) :
    chunks data = data.take chunkSize :: chunks (data.drop chunkSize) := by
  rw [chunks, dif_neg nonempty]

/-- No chunk is empty, and none is longer than a full one. -/
theorem length_of_mem_chunks (h : chunk ∈ chunks data) :
    chunk ≠ [] ∧ chunk.length ≤ chunkSize := by
  induction data using chunks.induct with
  | case1 => simp [chunks] at h
  | case2 data nonempty ih =>
      rw [chunks_of_ne_nil nonempty] at h
      rcases List.mem_cons.mp h with rfl | hlater
      · refine ⟨fun hempty => ?_, List.length_take_le _ _⟩
        rcases List.take_eq_nil_iff.mp hempty with hzero | hnil
        · exact absurd hzero (Nat.ne_of_gt chunkSize_pos)
        · exact nonempty hnil
      · exact ih hlater

/-- A chunk with others behind it is full. -/
theorem length_of_mem_dropLast_chunks (h : chunk ∈ (chunks data).dropLast) :
    chunk.length = chunkSize := by
  induction data using chunks.induct with
  | case1 => simp [chunks] at h
  | case2 data nonempty ih =>
      rw [chunks_of_ne_nil nonempty] at h
      by_cases hlater : data.drop chunkSize = []
      · rw [hlater] at h
        simp [chunks] at h
      · have hmore : chunks (data.drop chunkSize) ≠ [] := by
          rw [chunks_of_ne_nil hlater]
          exact List.cons_ne_nil _ _
        rw [List.dropLast_cons_of_ne_nil hmore] at h
        rcases List.mem_cons.mp h with rfl | hrest
        · have hlong : chunkSize < data.length := by
            simpa [List.drop_eq_nil_iff] using hlater
          rw [List.length_take, Nat.min_eq_left (Nat.le_of_lt hlong)]
        · exact ih hrest

end Chunks

/-! ## The stream -/

/-- A chunk that can be sent: not empty, and of a length that four bytes can tell. -/
def Sendable (chunk : Bytes) : Prop := chunk ≠ [] ∧ chunk.length < 0x100000000

/-- A chunk behind its length. -/
def frame (chunk : Bytes) : Bytes := Bytes.ofWord chunk.length ++ chunk

/-- Chunks and the length that ends them. -/
def frames (cs : List Bytes) : Bytes := (cs.map frame).flatten ++ ending

/-- The chunks of data can be sent. -/
theorem sendable_of_mem_chunks {data chunk : Bytes} (h : chunk ∈ chunks data) : Sendable chunk := by
  obtain ⟨hne, hle⟩ := length_of_mem_chunks h
  exact ⟨hne, Nat.lt_of_le_of_lt hle (by decide)⟩

theorem mapM_framed {cs : List Bytes} (h : ∀ chunk ∈ cs, Sendable chunk) :
    cs.mapM framed = .ok (cs.map frame) :=
  mapM_eq_ok_map fun chunk hchunk => if_pos (h chunk hchunk).2

/-- Any data can be sent. -/
theorem request_eq (data : Bytes) : request data = .ok (command ++ frames (chunks data)) := by
  unfold request
  rw [mapM_framed fun chunk => sendable_of_mem_chunks]
  simp only [frames, ← List.append_assoc]
  rfl

/-! ## Reading a stream -/

section Reading

variable {fuel : Nat} {bytes after chunk : Bytes} {cs : List Bytes}

/-- The daemon stops at a length of zero. -/
theorem readChunks_ending (fuel : Nat) (rest : Bytes) :
    readChunks (fuel + 1) (ending ++ rest) = some ([], rest) := by
  simp [ending, Bytes.ofWord, readChunks, Bytes.toNumber]

/-- The daemon takes a chunk by its length and goes on behind it. -/
theorem readChunks_frame (h : Sendable chunk) (hrest : readChunks fuel bytes = some (cs, after)) :
    readChunks (fuel + 1) (frame chunk ++ bytes) = some (chunk :: cs, after) := by
  have hlength : Bytes.toNumber (Bytes.ofWord chunk.length) = chunk.length :=
    Bytes.toNumber_ofWord _ h.2
  have hpos : chunk.length ≠ 0 := fun hzero => h.1 (List.length_eq_zero_iff.mp hzero)
  simp only [Bytes.ofWord] at hlength
  simp [frame, Bytes.ofWord, readChunks, hlength, hpos, hrest]

/-- The daemon reads the chunks that are sent, whatever follows them. -/
theorem readChunks_frames (h : ∀ chunk ∈ cs, Sendable chunk) (enough : cs.length < fuel)
    (rest : Bytes) : readChunks fuel (frames cs ++ rest) = some (cs, rest) := by
  obtain ⟨fuel, rfl⟩ : ∃ n, fuel = n + 1 := ⟨fuel - 1, by omega⟩
  induction cs generalizing fuel with
  | nil => exact readChunks_ending fuel rest
  | cons chunk cs ih =>
      rw [List.forall_mem_cons] at h
      rw [List.length_cons] at enough
      obtain ⟨fuel, rfl⟩ : ∃ n, fuel = n + 1 := ⟨fuel - 1, by omega⟩
      have hrest := ih h.2 fuel (by omega)
      simpa [frames, List.append_assoc] using readChunks_frame h.1 hrest

/-- What the daemon reads are chunks that have been sent. -/
theorem frames_of_readChunks (h : readChunks fuel bytes = some (cs, after)) :
    bytes = frames cs ++ after ∧ ∀ chunk ∈ cs, Sendable chunk := by
  induction fuel generalizing bytes cs with
  | zero => cases h
  | succ fuel ih =>
      unfold readChunks at h
      split at h
      · rename_i a b c d rest
        have hword := Bytes.ofWord_toNumber a b c d
        have hlt := Bytes.toNumber_lt a b c d
        dsimp only at h
        generalize Bytes.toNumber [a, b, c, d] = length at h hword hlt
        split at h
        · rename_i hzero
          obtain ⟨rfl, rfl⟩ : [] = cs ∧ rest = after := by simpa using h
          refine ⟨?_, by simp⟩
          rw [hzero] at hword
          simp [frames, ending, hword]
        · rename_i hpos
          split at h
          · rename_i hwhole
            obtain ⟨⟨later, after'⟩, hread, heq⟩ := Option.map_eq_some_iff.mp h
            obtain ⟨rfl, rfl⟩ : rest.take length :: later = cs ∧ after' = after := by
              simpa using heq
            obtain ⟨hrest, hlater⟩ := ih hread
            have hne : rest.take length ≠ [] := fun hnil => hpos (by simpa [hnil] using hwhole.symm)
            refine ⟨?_, List.forall_mem_cons.mpr ⟨⟨hne, by omega⟩, hlater⟩⟩
            calc a :: b :: c :: d :: rest
                = Bytes.ofWord length ++ (rest.take length ++ rest.drop length) := by
                  rw [List.take_append_drop, hword]
                  rfl
              _ = frame (rest.take length) ++ rest.drop length := by
                  rw [frame, hwhole, List.append_assoc]
              _ = frames (rest.take length :: later) ++ after' := by
                  rw [hrest]
                  simp [frames, List.append_assoc]
          · cases h
      · cases h

theorem length_le_frames (cs : List Bytes) : cs.length < (frames cs).length := by
  induction cs with
  | nil => decide
  | cons chunk cs ih =>
      simp only [frames, List.map_cons, List.flatten_cons, List.length_append, List.length_cons,
        frame, Bytes.ofWord] at ih ⊢
      omega

/-- The daemon reads the command and the chunks that are sent, and nothing of what follows them. -/
theorem read_sent (h : ∀ chunk ∈ cs, Sendable chunk) (rest : Bytes) :
    read (command ++ frames cs ++ rest) = some (⟨command, cs⟩, rest) := by
  rw [List.append_assoc]
  have hlong : ¬ (command ++ (frames cs ++ rest)).length < command.length := by
    rw [List.length_append]
    omega
  have henough : cs.length < (command ++ (frames cs ++ rest)).length := by
    have hframes := length_le_frames cs
    simp only [List.length_append]
    omega
  unfold read
  rw [if_neg hlong, List.drop_left, List.take_left, readChunks_frames h henough rest]
  rfl

/-- Cut off anywhere, what is sent leaves the daemon waiting for more. -/
theorem read_cut (h : ∀ chunk ∈ cs, Sendable chunk) {part : Bytes}
    (cut : part <+: command ++ frames cs) (short : part ≠ command ++ frames cs) :
    read part = none := by
  obtain ⟨lost, hlost⟩ := cut
  unfold read
  split
  · rfl
  · rename_i hlong
    rw [Option.map_eq_none_iff, Option.eq_none_iff_forall_ne_some]
    rintro ⟨cs', after⟩ hread
    obtain ⟨hpart, hsendable⟩ := frames_of_readChunks hread
    -- What the daemon has read without the lost bytes it reads with them as well, and they are left.
    have hall : frames cs = frames cs' ++ (after ++ lost) := by
      have hdrop := congrArg (List.drop command.length) hlost
      rw [List.drop_left, List.drop_append_of_le_length (by omega), hpart] at hdrop
      rw [← hdrop, List.append_assoc]
    have hwith : readChunks (cs.length + cs'.length + 1) (frames cs ++ []) = some (cs, []) :=
      readChunks_frames h (by omega) []
    rw [List.append_nil, hall, readChunks_frames hsendable (by omega)] at hwith
    obtain ⟨-, hnone⟩ : cs' = cs ∧ after ++ lost = [] := by simpa using hwith
    obtain ⟨-, rfl⟩ := List.append_eq_nil_iff.mp hnone
    exact short (by simpa using hlost)

end Reading

end Framing

/-! ## The client -/

namespace Client

variable {c : Client} {daemon : Daemon}

/-- One of the client's attempts to connect succeeds. -/
def Connects (c : Client) (daemon : Daemon) : Prop :=
  ∃ attempt, 1 ≤ attempt ∧ attempt ≤ c.attempts ∧ daemon.connect attempt = .ok ()

/-- Trying to connect succeeds as soon as one attempt does. -/
theorem connect_eq_ok_iff (daemon : Daemon) (cause : String) (left number : Nat) :
    connect daemon cause left number = .ok () ↔
      ∃ attempt, number ≤ attempt ∧ attempt < number + left ∧ daemon.connect attempt = .ok () := by
  induction left generalizing cause number with
  | zero =>
      constructor
      · exact nofun
      · rintro ⟨attempt, hle, hlt, -⟩
        omega
  | succ left ih =>
      unfold connect
      cases hfirst : daemon.connect number with
      | ok done => exact ⟨fun _ => ⟨number, Nat.le_refl _, by omega, hfirst⟩, fun _ => rfl⟩
      | error met =>
          rw [ih met (number + 1)]
          constructor
          · rintro ⟨attempt, hle, hlt, hok⟩
            exact ⟨attempt, by omega, by omega, hok⟩
          · rintro ⟨attempt, hle, hlt, hok⟩
            have hother : attempt ≠ number := by
              rintro rfl
              exact nomatch hfirst.symm.trans hok
            exact ⟨attempt, by omega, by omega, hok⟩

theorem connects_iff (c : Client) (daemon : Daemon) (cause : String) :
    c.Connects daemon ↔ connect daemon cause c.attempts 1 = .ok () := by
  rw [connect_eq_ok_iff]
  constructor
  · rintro ⟨attempt, hle, hlt, hok⟩
    exact ⟨attempt, hle, by omega, hok⟩
  · rintro ⟨attempt, hle, hlt, hok⟩
    exact ⟨attempt, hle, by omega, hok⟩

end Client

/-- What the end of an exchange says of the data. -/
def Exchange.scan : Exchange → Scan
  | .replied reply => .ok (Client.verdict reply)
  | .broken cause => .error (.io cause)
  | .timedOut => .error (.io "clamd scan timed out")

theorem Exchange.scan_ne_chunkTooLarge (e : Exchange) (length : Nat) :
    e.scan ≠ .error (.chunkTooLarge length) := by
  cases e <;> exact nofun

namespace Client

variable {c : Client} {daemon : Daemon} {endpoint : Endpoint}

/-- Connected, a client sends the stream of the data and goes by the end of the exchange. -/
theorem scan_of_connects (on : c.endpoint = some endpoint) (connects : c.Connects daemon)
    (data : Bytes) :
    c.scan daemon data
      = (daemon.exchange (Framing.command ++ Framing.frames (Framing.chunks data))).scan := by
  have hconnect := (c.connects_iff daemon "no connection attempts").mp connects
  unfold scan
  rw [on]
  dsimp only
  rw [hconnect, Framing.request_eq]
  dsimp only
  cases daemon.exchange _ <;> rfl

/-- A client that cannot connect says so. -/
theorem scan_of_not_connects (on : c.endpoint = some endpoint) (alone : ¬ c.Connects daemon)
    (data : Bytes) :
    ∃ cause, c.scan daemon data = .error (.connect endpoint c.attempts cause) := by
  rw [c.connects_iff daemon "no connection attempts"] at alone
  unfold scan
  rw [on]
  dsimp only
  cases hconnect : connect daemon "no connection attempts" c.attempts 1 with
  | ok done => exact absurd hconnect alone
  | error cause => exact ⟨cause, rfl⟩

/-- No length is ever too great for its field. -/
theorem scan_ne_chunkTooLarge (c : Client) (daemon : Daemon) (data : Bytes) (length : Nat) :
    c.scan daemon data ≠ .error (.chunkTooLarge length) := by
  intro hlarge
  cases on : c.endpoint with
  | none => simp [scan, on] at hlarge
  | some endpoint =>
      by_cases connects : c.Connects daemon
      · rw [scan_of_connects on connects] at hlarge
        exact Exchange.scan_ne_chunkTooLarge _ length hlarge
      · obtain ⟨cause, hcause⟩ := scan_of_not_connects on connects data
        exact nomatch hcause.symm.trans hlarge

/-- The client is connected and sends the stream of the data, and the daemon writes this and closes the
connection in time. -/
def Hears (c : Client) (daemon : Daemon) (data reply : Bytes) : Prop :=
  c.Connects daemon ∧
    ∃ stream, Framing.request data = .ok stream ∧ daemon.exchange stream = .replied reply

/-- A client goes by the reply that it hears; if it hears none there is no verdict. -/
theorem scan_cases (on : c.endpoint = some endpoint) (daemon : Daemon) (data : Bytes) :
    (∃ reply, c.Hears daemon data reply ∧ c.scan daemon data = .ok (verdict reply)) ∨
      (∀ reply, ¬ c.Hears daemon data reply) ∧ ∃ fault, c.scan daemon data = .error fault := by
  by_cases connects : c.Connects daemon
  · have hrequest := Framing.request_eq data
    have hscan := scan_of_connects on connects data
    generalize Framing.command ++ Framing.frames (Framing.chunks data) = stream at hrequest hscan
    have hdeaf : (∀ reply, daemon.exchange stream ≠ .replied reply) →
        ∀ reply, ¬ c.Hears daemon data reply := by
      rintro hother reply ⟨-, sent, hsent, hreply⟩
      obtain rfl := Except.ok.inj (hrequest.symm.trans hsent)
      exact hother reply hreply
    cases hend : daemon.exchange stream with
    | replied reply =>
        rw [hend] at hscan
        exact .inl ⟨reply, ⟨connects, stream, hrequest, hend⟩, hscan⟩
    | broken cause =>
        rw [hend] at hscan
        exact .inr ⟨hdeaf fun reply => by simp [hend], _, hscan⟩
    | timedOut =>
        rw [hend] at hscan
        exact .inr ⟨hdeaf fun reply => by simp [hend], _, hscan⟩
  · obtain ⟨cause, hscan⟩ := scan_of_not_connects on connects data
    exact .inr ⟨fun reply hears => connects hears.1, _, hscan⟩

/-- One exchange has one reply. -/
theorem Hears.unique {data reply reply' : Bytes} (h : c.Hears daemon data reply)
    (h' : c.Hears daemon data reply') : reply = reply' := by
  obtain ⟨-, stream, hstream, hreply⟩ := h
  obtain ⟨-, stream', hstream', hreply'⟩ := h'
  obtain rfl := Except.ok.inj (hstream.symm.trans hstream')
  exact Exchange.replied.inj (hreply.symm.trans hreply')

end Client

/-- What is sent for a scan is exact.  Whatever the data, a client that is connected sends one stream for
it, and the daemon reads that stream as the command and all the data, in full chunks but for the last one
and without an empty one.  The daemon is done with the last byte, whatever follows, and not before.  No
chunk is ever too large. -/
theorem stream_is_exact (data : Bytes) :
    ∃ (stream : Bytes) (chunks : List Bytes),
      (∀ (c : Client) (daemon : Daemon), c.endpoint ≠ none → c.Connects daemon →
        c.scan daemon data = (daemon.exchange stream).scan) ∧
      (∀ rest, Framing.read (stream ++ rest) = some (⟨.ascii "nINSTREAM\n", chunks⟩, rest)) ∧
      (∀ part, part <+: stream → part ≠ stream → Framing.read part = none) ∧
      chunks.flatten = data ∧
      (∀ chunk ∈ chunks, chunk ≠ [] ∧ chunk.length ≤ 1024 * 1024) ∧
      (∀ chunk ∈ chunks.dropLast, chunk.length = 1024 * 1024) ∧
      Framing.request data = .ok stream ∧
      ∀ (c : Client) (daemon : Daemon) (length : Nat),
        c.scan daemon data ≠ .error (.chunkTooLarge length) := by
  have hsendable : ∀ chunk ∈ Framing.chunks data, Framing.Sendable chunk :=
    fun chunk => Framing.sendable_of_mem_chunks
  refine ⟨Framing.command ++ Framing.frames (Framing.chunks data), Framing.chunks data, ?_,
    Framing.read_sent hsendable, fun part => Framing.read_cut hsendable,
    Framing.flatten_chunks data, fun chunk => Framing.length_of_mem_chunks,
    fun chunk => Framing.length_of_mem_dropLast_chunks, Framing.request_eq data,
    fun c daemon length => c.scan_ne_chunkTooLarge daemon data length⟩
  intro c daemon hon connects
  obtain ⟨endpoint, on⟩ := Option.ne_none_iff_exists'.mp hon
  exact Client.scan_of_connects on connects data

end DocumentCard.Antivirus
