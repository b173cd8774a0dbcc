import DocumentCard.Proofs.Antivirus.Scan
import DocumentCard.Proofs.Rpc.Clearance
set_option autoImplicit false

/-!
# The gate

Whether data passes is settled in four places: the variables say whether anything is scanned at all, the
client makes a verdict of what the daemon does, the session lets data pass or not, and the work on a
session goes on or ends.  Each of them could leave the gate open.  None does: when the address of the
daemon is given, everything but one reply of the daemon's ends the work at once, and the session is what
it was.

That work ends so is a matter of its shape, whoever the helpers are (`Work.FailsClosed`): every use of a
session has that shape (`Use.failsClosed`), and what it means for what helpers do is said once
(`Work.FailsClosed.ends`).

Main statement: with an address given, data passes on the reply for clean data and in no other case
(`scanning_fails_closed`).
-/

namespace DocumentCard.Session

open Antivirus (Daemon Scan)

/-- Helpers who have a client do the scans.  Every scan meets the daemon as it is at that time. -/
def Helpers.scannedBy (others : Helpers) (c : Antivirus.Client) (daemons : Nat → Daemon) : Helpers :=
  { others with scan := fun before => c.scan (daemons before) }

/-- Whether a helper has been asked for a scan. -/
def Act.isScan : Act → Bool
  | .scanned _ _ => true
  | .pressed _ _ | .unpacked _ _ => false

/-! ## Work that fails closed -/

namespace Work

variable {σ τ α β : Type}

/-- Work that fails closed: when data does not pass it ends at once, for that reason, and leaves `start`
behind. -/
inductive FailsClosed (start : σ) : Work σ (Except Fault α) → Prop where
  | done (state : σ) (result : Except Fault α) : FailsClosed start (.done state result)
  | scan {state : σ} {data : Bytes} {next : Scan → Work σ (Except Fault α)}
      (ends : ∀ said fault, passed said = .error fault → next said = .done start (.error fault))
      (goesOn : ∀ said, passed said = .ok () → FailsClosed start (next said)) :
      FailsClosed start (.scan state data next)
  | press {state : σ} {request : Card.Request} {next : Pressed → Work σ (Except Fault α)}
      (goesOn : ∀ outcome, FailsClosed start (next outcome)) :
      FailsClosed start (.press state request next)
  | unpack {state : σ} {card : Bytes} {next : Unpacked → Work σ (Except Fault α)}
      (goesOn : ∀ outcome, FailsClosed start (next outcome)) :
      FailsClosed start (.unpack state card next)

section Shapes

variable {start : σ}

/-- Work fails closed as part of something larger if that keeps its faults. -/
theorem FailsClosed.map {w : Work σ (Except Fault α)} (h : w.FailsClosed start) (f : σ → τ)
    {g : Except Fault α → Except Fault β} (keeps : ∀ fault, g (.error fault) = .error fault) :
    (w.map f g).FailsClosed (f start) := by
  induction h with
  | done state result => exact .done _ _
  | scan ends goesOn ih =>
      refine .scan (fun said fault hfault => ?_) ih
      rw [ends said fault hfault, Work.map, keeps]
  | press goesOn ih => exact .press ih
  | unpack goesOn ih => exact .unpack ih

theorem failsClosed_atOnce (state : σ) (outcome : Except Fault (α × σ)) :
    (atOnce state outcome).FailsClosed start := by
  cases outcome <;> exact .done _ _

/-- To have data screened and to end on a fault is to fail closed. -/
theorem failsClosed_screen {state : σ} {data : Bytes}
    {next : Except Fault Unit → Work σ (Except Fault α)}
    (ends : ∀ fault, next (.error fault) = .done start (.error fault))
    (goesOn : (next (.ok ())).FailsClosed start) : (screen state data next).FailsClosed start := by
  refine .scan (fun said fault hfault => ?_) (fun said hpassed => ?_)
  · rw [hfault]
    exact ends fault
  · rw [hpassed]
    exact goesOn

theorem failsClosed_screenAll {state : σ} {next : Except Fault Unit → Work σ (Except Fault α)}
    (ends : ∀ fault, next (.error fault) = .done start (.error fault))
    (goesOn : (next (.ok ())).FailsClosed start) (files : List Card.Attachment) :
    (Extractor.screenAll state next files).FailsClosed start := by
  induction files with
  | nil => exact goesOn
  | cons file rest ih => exact failsClosed_screen ends ih

/-- Work that fails closed has each scan made when those before it have passed; and a scan that does not
pass is the last thing that happens. -/
theorem FailsClosed.ends {w : Work σ (Except Fault α)} (h : w.FailsClosed start) {helpers : Helpers}
    {scans : Nat} {before after : List Act} {data : Bytes} {said : Scan}
    (acts : w.acts helpers scans = before ++ .scanned data said :: after) :
    said = helpers.scan (scans + before.countP Act.isScan) data ∧
      ∀ fault, passed said = .error fault →
        after = [] ∧ (w.run helpers scans).state = start ∧
          (w.run helpers scans).result = .error fault := by
  induction h generalizing scans before with
  | done state result => simp [Work.acts] at acts
  | @scan state asked next ends goesOn ih =>
      cases before with
      | nil =>
          obtain ⟨hact, hafter⟩ := List.cons.inj acts
          obtain ⟨rfl, rfl⟩ := Act.scanned.inj hact
          refine ⟨rfl, fun fault hfault => ?_⟩
          have hnext := ends _ fault hfault
          rw [hnext] at hafter
          refine ⟨hafter.symm, ?_⟩
          rw [Work.run, hnext]
          exact ⟨rfl, rfl⟩
      | cons first before =>
          obtain ⟨rfl, hrest⟩ := List.cons.inj acts
          rcases passed_cases (helpers.scan scans asked) with ⟨-, hpassed⟩ | ⟨-, fault, hfault⟩
          · have hlater := ih _ hpassed hrest
            rw [List.countP_cons_of_pos rfl, Nat.add_comm (before.countP Act.isScan), ← Nat.add_assoc]
            exact hlater
          · rw [ends _ fault hfault] at hrest
            simp [Work.acts] at hrest
  | press goesOn ih =>
      cases before with
      | nil => simp [Work.acts] at acts
      | cons first before =>
          obtain ⟨rfl, hrest⟩ := List.cons.inj acts
          rw [List.countP_cons_of_neg Bool.false_ne_true]
          exact ih _ hrest
  | unpack goesOn ih =>
      cases before with
      | nil => simp [Work.acts] at acts
      | cons first before =>
          obtain ⟨rfl, hrest⟩ := List.cons.inj acts
          rw [List.countP_cons_of_neg Bool.false_ne_true]
          exact ih _ hrest

end Shapes

end Work

end DocumentCard.Session

namespace DocumentCard.Rpc

open Antivirus (Client Daemon)
open Session (Act Builder Extractor Fault Helpers Work passed)

/-! ## Every use fails closed -/

section Uses

variable {α : Type} {s : Session}

theorem failsClosed_onBuilder {work : Builder → Work Builder (Except Fault α)}
    (h : ∀ b, (work b).FailsClosed b) : (s.onBuilder work).FailsClosed s := by
  cases s with
  | builder b => exact (h b).map Session.builder fun _ => rfl
  | extractor e => exact .done _ _

theorem failsClosed_onExtractor {work : Extractor → Work Extractor (Except Fault α)}
    (h : ∀ e, (work e).FailsClosed e) : (s.onExtractor work).FailsClosed s := by
  cases s with
  | builder b => exact .done _ _
  | extractor e => exact (h e).map Session.extractor fun _ => rfl

theorem failsClosed_sign (b : Builder) (signature : Card.Signature) :
    (b.sign signature).FailsClosed b := by
  unfold Builder.sign
  cases b.stage with
  | built card => exact .done _ _
  | gathering document => exact Work.failsClosed_screen (fun _ => rfl) (.done _ _)

theorem failsClosed_build (b : Builder) (options : Card.Options) :
    (b.build options).FailsClosed b := by
  unfold Builder.build
  cases b.stage with
  | built card => exact .done _ _
  | gathering document =>
      refine Work.failsClosed_screen (fun _ => rfl) ?_
      refine .press fun outcome => ?_
      rcases outcome with (refusal | card) | reason
      all_goals exact .done _ _

theorem failsClosed_parse (e : Extractor) : e.parse.FailsClosed e := by
  unfold Extractor.parse
  cases e with
  | parsed name document signatures => exact .done _ _
  | gathering card =>
      refine Work.failsClosed_screen (fun _ => rfl) ?_
      refine .unpack fun outcome => ?_
      rcases outcome with (refusal | (_ | ⟨document, _ | ⟨first, others⟩⟩)) | reason
      case finished.ok.cons.cons =>
        dsimp only
        refine Work.failsClosed_screenAll ?_ ?_ _
        · exact fun _ => rfl
        · exact .done _ _
      all_goals exact .done _ _

/-- Every use of a session fails closed. -/
theorem Use.failsClosed (u : Use) (s : Session) : (u.work s).FailsClosed s := by
  have hsame : ∀ {α β : Type} (f : α → β) (fault : Fault),
      (Except.error fault : Except Fault α).map f = .error fault := fun _ _ => rfl
  cases u with
  | appendDocument part =>
      exact failsClosed_onBuilder fun b => (Work.failsClosed_atOnce b _).map id (hsame _)
  | appendSignature signature =>
      exact failsClosed_onBuilder fun b => (failsClosed_sign b signature).map id (hsame _)
  | build options =>
      exact failsClosed_onBuilder fun b => (failsClosed_build b options).map id (hsame _)
  | cardPart size =>
      exact failsClosed_onBuilder fun b => (Work.failsClosed_atOnce b _).map id (hsame _)
  | appendCard part =>
      exact failsClosed_onExtractor fun e => (Work.failsClosed_atOnce e _).map id (hsame _)
  | parse =>
      exact failsClosed_onExtractor fun e => (failsClosed_parse e).map id (hsame _)
  | documentPart size fromStart =>
      exact failsClosed_onExtractor fun e => (Work.failsClosed_atOnce e _).map id (hsame _)
  | nextSignature =>
      exact failsClosed_onExtractor fun e => (Work.failsClosed_atOnce e _).map id (hsame _)

end Uses

/-! ## Nothing gets round the gate -/

/-- What is handed to a helper, or taken into a session from outside, was found clean before. -/
structure Guarded (u : Use) (acts : List Act) (result : Except Fault Yield) : Prop where
  /-- a card is made of a document that was found clean -/
  pressed : ∀ request outcome, .pressed request outcome ∈ acts → .foundClean request.document ∈ acts
  /-- a card is opened that was found clean -/
  unpacked : ∀ card outcome, .unpacked card outcome ∈ acts → .foundClean card ∈ acts
  /-- a signature is taken in that was found clean -/
  signed : ∀ signature given, u = .appendSignature signature → result = .ok given →
    .foundClean signature.body ∈ acts
  /-- the files of a card are taken over when all of them were found clean -/
  opened : ∀ card files given, .unpacked card (.finished (.ok files)) ∈ acts → result = .ok given →
    ∀ file ∈ files, .foundClean file.bytes ∈ acts

/-- However a use goes, nothing gets round the gate. -/
theorem Course.guarded {s after : Session} {u : Use} {acts : List Act} {result : Except Fault Yield}
    (way : Course s u acts after result) : Guarded u acts result := by
  constructor
  case pressed =>
    intro request outcome hmem
    obtain ⟨_, _, -, -, -, hacts⟩ := way.of_pressed hmem
    exact hacts ▸ List.mem_cons_self
  case unpacked =>
    intro card outcome hmem
    obtain ⟨-, _, hacts⟩ := way.of_unpacked hmem
    exact hacts ▸ List.mem_cons_self
  case signed =>
    rintro signature given rfl rfl
    cases way with
    | signed b document signature stage => exact List.mem_cons_self
  case opened =>
    rintro card files given hmem rfl file hfile
    cases way with
    | parsed card' document signatures =>
        obtain ⟨-, rfl⟩ : card = card' ∧ files = document :: signatures := by simpa using hmem
        exact .tail _ (.tail _ (List.mem_map.mpr ⟨file, hfile, rfl⟩))
    | _ => simp at hmem

/-! ## From the variables to the session -/

/-- Scanning is on when the address of the daemon is given, whatever the other variables hold. -/
theorem endpoint_ofLookup {lookup : String → Option String} {address : String}
    (given : lookup "CLAMD_SOCKET" = some address)
    (notBlank : Text.isAllBlank address.toList = false) :
    ∃ network, (Config.ofLookup lookup).endpoint? = some ⟨network, address⟩ := by
  refine ⟨(Config.ofLookup lookup).network, ?_⟩
  simp [Config.ofLookup, Config.endpoint?, given, notBlank, Option.filter]

/-- With an endpoint, data passes on one reply; on another, or on none, it does not, and the fault says
which of the two it was. -/
theorem passed_scan {c : Client} {endpoint : Antivirus.Endpoint} (on : c.endpoint = some endpoint)
    (daemon : Daemon) (data : Bytes) :
    c.Hears daemon data Client.cleanReply ∧ passed (c.scan daemon data) = .ok () ∨
      ¬ c.Hears daemon data Client.cleanReply ∧
        ((∃ reply, c.Hears daemon data reply ∧
            passed (c.scan daemon data) = .error (.notClean (Text.Utf8.lossy reply))) ∨
          (∀ reply, ¬ c.Hears daemon data reply) ∧
            ∃ detail, passed (c.scan daemon data) = .error (.notScanned detail)) := by
  rcases c.scan_cases on daemon data with ⟨reply, hears, hscan⟩ | ⟨deaf, fault, hscan⟩
  · rw [hscan, Client.verdict]
    by_cases hclean : reply = Client.cleanReply
    · rw [if_pos hclean]
      exact .inl ⟨hclean ▸ hears, rfl⟩
    · rw [if_neg hclean]
      exact .inr ⟨fun heard => hclean (hears.unique heard), .inl ⟨reply, hears, rfl⟩⟩
  · rw [hscan]
    exact .inr ⟨deaf _, .inr ⟨deaf, _, rfl⟩⟩

/-- Scanning fails closed.  When the variables give the address of the daemon there is an endpoint with
that address, whatever else they hold.  With it nothing gets round the gate, whatever the daemon does; and
a scan lets data pass if and only if the client is connected, the exchange ends in time and unbroken, and
the whole reply is the one for clean data.  Otherwise the scan is the last thing that happens, the session
is what it was, and the fault tells the reply or that there was none. -/
theorem scanning_fails_closed (lookup : String → Option String) (address : String)
    (given : lookup "CLAMD_SOCKET" = some address)
    (notBlank : Text.isAllBlank address.toList = false) :
    ∃ network, (Config.ofLookup lookup).endpoint? = some ⟨network, address⟩ ∧
      ∀ (c : Client) (daemons : Nat → Daemon) (others : Helpers) (s : Session) (u : Use) (scans : Nat),
        c.endpoint = some ⟨network, address⟩ →
        let helpers := others.scannedBy c daemons
        let acts := (u.work s).acts helpers scans
        let ran := (u.work s).run helpers scans
        Guarded u acts ran.result ∧
        ∀ before data said after, acts = before ++ .scanned data said :: after →
          let daemon := daemons (scans + before.countP Act.isScan)
          (passed said = .ok () ↔ c.Hears daemon data (.ascii "stream: OK\n")) ∧
          (¬ c.Hears daemon data (.ascii "stream: OK\n") →
            after = [] ∧ ran.state = s ∧
            ((∃ reply, c.Hears daemon data reply ∧
                ran.result = .error (.notClean (Text.Utf8.lossy reply))) ∨
              (∀ reply, ¬ c.Hears daemon data reply) ∧
                ∃ detail, ran.result = .error (.notScanned detail))) := by
  obtain ⟨network, hendpoint⟩ := endpoint_ofLookup given notBlank
  refine ⟨network, hendpoint, ?_⟩
  intro c daemons others s u scans on helpers acts ran
  refine ⟨(u.course helpers s scans).guarded, ?_⟩
  intro before data said after hacts daemon
  obtain ⟨hsaid, hends⟩ := (u.failsClosed s).ends hacts
  obtain rfl : said = c.scan daemon data := hsaid
  rcases passed_scan on daemon data with
    ⟨hears, hpassed⟩ | ⟨deaf, ⟨reply, hears, hpassed⟩ | ⟨silent, detail, hpassed⟩⟩
  · exact ⟨⟨fun _ => hears, fun _ => hpassed⟩, fun deaf => absurd hears deaf⟩
  · refine ⟨⟨fun h => (nomatch hpassed.symm.trans h), fun h => absurd h deaf⟩, fun _ => ?_⟩
    obtain ⟨hlast, hstate, hresult⟩ := hends _ hpassed
    exact ⟨hlast, hstate, .inl ⟨reply, hears, hresult⟩⟩
  · refine ⟨⟨fun h => (nomatch hpassed.symm.trans h), fun h => absurd h deaf⟩, fun _ => ?_⟩
    obtain ⟨hlast, hstate, hresult⟩ := hends _ hpassed
    exact ⟨hlast, hstate, .inr ⟨silent, detail, hresult⟩⟩

namespace Halved

/-- Variables of which only the address of the daemon makes sense. -/
def lookup : String → Option String
  | "SERVER_PORT" => some "80a"
  | "CLAMD_NETWORK" => some "udp"
  | "CLAMD_SOCKET" => some "/run/clamd.sock"
  | "RPC_MAX_BODY_BYTES" => some "0"
  | _ => none

/-- A daemon that takes the second attempt to connect and swallows the end of the line. -/
def daemon : Daemon where
  connect attempt := if attempt = 2 then .ok () else .error "connection refused"
  exchange _ := .replied (.ascii "stream: OK")

/-- Helpers who would make a card of anything. -/
def others : Helpers where
  scan _ _ := .ok .clean
  press _ _ := .finished (.ok [])
  unpack _ _ := .finished (.ok [])

/-- A client as the variables ask for. -/
def client : Client := .ofConfig (.ofLookup lookup)

end Halved

/-- A reply without the end of its line lets no document pass. -/
theorem scanning_fails_closed_halved :
    Halved.lookup "CLAMD_SOCKET" = some "/run/clamd.sock" ∧
      Text.isAllBlank "/run/clamd.sock".toList = false ∧
      (Config.ofLookup Halved.lookup).endpoint? = some ⟨.unix, "/run/clamd.sock"⟩ ∧
      let ran := ((Use.build {}).work (.builder (.start {} "a"))).run
        (Halved.others.scannedBy Halved.client fun _ => Halved.daemon) 0
      ran.state = .builder (.start {} "a") ∧ ran.result = .error (.notClean "stream: OK") := by
  have given : Halved.lookup "CLAMD_SOCKET" = some "/run/clamd.sock" := by decide
  have notBlank : Text.isAllBlank "/run/clamd.sock".toList = false := by decide
  obtain ⟨network, hendpoint, hall⟩ :=
    scanning_fails_closed Halved.lookup "/run/clamd.sock" given notBlank
  have hunix : (Config.ofLookup Halved.lookup).endpoint? = some ⟨.unix, "/run/clamd.sock"⟩ := by decide
  obtain ⟨-, hscans⟩ := hall Halved.client (fun _ => Halved.daemon) Halved.others
    (.builder (.start {} "a")) (.build {}) 0 hendpoint
  have heard : ∀ {data reply}, Halved.client.Hears Halved.daemon data reply →
      reply = .ascii "stream: OK" := by
    rintro data reply ⟨-, stream, -, hreply⟩
    exact (Antivirus.Exchange.replied.inj hreply).symm
  obtain ⟨-, hrefused⟩ := hscans [] [] _ _ rfl
  obtain ⟨-, hstate, hresult⟩ := hrefused fun hears => absurd (heard hears) (by decide)
  refine ⟨given, notBlank, hunix, hstate, ?_⟩
  rcases hresult with ⟨reply, hears, hresult⟩ | ⟨silent, -⟩
  · rw [hresult, heard hears]
    decide
  · exact absurd ⟨⟨2, by decide, by decide, rfl⟩, _, Antivirus.Framing.request_eq [], rfl⟩
      (silent (.ascii "stream: OK"))

end DocumentCard.Rpc
