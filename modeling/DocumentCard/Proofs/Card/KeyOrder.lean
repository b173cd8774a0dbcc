import DocumentCard.Proofs.Card.RoundTrip
import Mathlib.Data.List.Basic
set_option autoImplicit false

/-!
# Where the order of keys ends

Attachments are keyed by their positions so that whoever sorts the keys has the attachments in order.  A key
has four digits, and its leading zeros are there for that.  But nothing keeps a request from having more
signatures than there are such keys: the ten thousandth attachment has a key of five digits, which stands
before most of the others (`not_key_le_key`).  The document stays first in any case, since no other key begins
with so many zeros (`keyLE_key_one`).

Main statement: the keys of a card increase from each attachment to the next, and sorting leaves the
attachments where they are, if and only if keys of four digits are enough (`Request.keys_in_order_iff`).
-/

namespace DocumentCard

theorem length_decimal_of_le {width n : Nat} (h : 10 ^ width ≤ n) : width < (decimal n).length := by
  induction width generalizing n with
  | zero =>
      by_cases hn : n < 10
      · simp [decimal_of_lt n hn]
      · simp [decimal_of_ge n (by omega)]
  | succ width ih =>
      have hpos : 0 < 10 ^ width := Nat.pow_pos (by omega)
      rw [Nat.pow_succ] at h
      rw [decimal_of_ge n (by omega), List.length_append, List.length_singleton]
      exact Nat.succ_lt_succ (ih (by omega))

/-- No number but zero begins with the digit zero. -/
theorem decimal_eq_cons {n : Nat} (h : 0 < n) :
    ∃ d rest, decimal n = digitChar d :: rest ∧ 0 < d ∧ d < 10 := by
  induction n using Nat.strongRecOn with
  | ind n ih =>
      by_cases hn : n < 10
      · exact ⟨n, [], decimal_of_lt n hn, h, hn⟩
      · obtain ⟨d, rest, hrest, hd⟩ := ih (n / 10) (by omega) (by omega)
        exact ⟨d, rest ++ [digitChar (n % 10)], by rw [decimal_of_ge n (by omega), hrest]; rfl, hd⟩

/-- What stands before everything behind it comes first when all of it is sorted. -/
theorem head?_mergeSort {α : Type} {le : α → α → Bool}
    (trans : ∀ a b c, le a b = true → le b c = true → le a c = true)
    (total : ∀ a b, (le a b || le b a) = true) {a : α} {rest : List α}
    (first : ∀ b ∈ rest, le a b = true) : ((a :: rest).mergeSort le).head? = some a := by
  obtain ⟨before, behind, hsorted, hrest, hbefore⟩ := List.mergeSort_cons trans total a rest
  have hnone : before = [] := by
    rw [List.eq_nil_iff_forall_not_mem]
    intro b hb
    have hmem : b ∈ rest := by
      rw [← List.mem_mergeSort, hrest]
      exact List.mem_append_left _ hb
    have hnot := hbefore b hb
    rw [first b hmem] at hnot
    cases hnot
  rw [hsorted, hnone]
  rfl

namespace Card

open Attachments (Entry keyLE levelLimit root? entries attachment)
open Draft (key)
open Pdf (Document)

/-- The key of the ten thousandth position does not stand behind the one before it. -/
theorem not_key_le_key : ¬ key 9999 ≤ key 10000 := by
  rw [← keyLE_iff]
  decide +kernel

/-- The key of the first position stands before all others. -/
theorem keyLE_key_one {position : Nat} (h : 1 ≤ position) : keyLE (key 1) (key position) = true := by
  by_cases few : position ≤ 9999
  · rw [keyLE_key (by omega) few]
    exact decide_eq_true h
  · obtain ⟨d, rest, hdigits, hpos, hdigit⟩ := decimal_eq_cons h
    have hlong : 4 < (decimal position).length := length_decimal_of_le (by omega)
    have hkey : key position = UInt8.ofNat (digitChar d).toNat :: Bytes.latin1 rest := by
      unfold key padZeros
      rw [Nat.sub_eq_zero_of_le (by omega), hdigits]
      rfl
    have hone : key 1 = 48 :: Bytes.ascii "001" := by decide +kernel
    have hbyte : (48 : UInt8) ≠ UInt8.ofNat (digitChar d).toNat := by
      intro e
      have := congrArg UInt8.toNat e
      rw [toNat_digit hdigit] at this
      simp at this
      omega
    rw [hkey, hone, keyLE, if_neg hbyte, toNat_digit hdigit]
    simpa using hpos

/-- The keys of so many positions. -/
def keys (count : Nat) : List Bytes := (List.range' 1 count).map key

/-- When keys are in order, each stands before the next. -/
theorem count_of_pairwise_keys {count : Nat}
    (sorted : (keys count).Pairwise fun a b => keyLE a b = true) : count ≤ 9999 := by
  apply Nat.le_of_not_lt
  intro hmany
  have hlong : 9999 < (keys count).length := by simpa [keys] using hmany
  have hle := List.pairwise_iff_getElem.mp sorted 9998 9999 (by omega) hlong (by omega)
  simp only [keys, List.getElem_map, List.getElem_range'] at hle
  exact not_key_le_key ((keyLE_iff _ _).mp hle)

theorem isChain_keys_iff (count : Nat) : (keys count).IsChain (· < ·) ↔ count ≤ 9999 := by
  constructor
  · intro chain
    have hlt := List.isChain_iff_pairwise.mp chain
    exact count_of_pairwise_keys (hlt.imp fun h => (keyLE_iff _ _).mpr (List.le_of_lt h))
  · intro few
    exact (pairwise_key few).isChain

/-- Sorting leaves entries where they are as long as their keys are in order. -/
theorem mergeSort_eq_self_iff {found : List Entry} {count : Nat} (hkeys : found.map (·.key) = keys count) :
    (found.mergeSort fun a b => keyLE a.key b.key) = found ↔ count ≤ 9999 := by
  have hpairwise (r : Bytes → Bytes → Prop) :
      found.Pairwise (fun a b => r a.key b.key) ↔ (keys count).Pairwise r := by
    rw [← hkeys, List.pairwise_map]
  constructor
  · intro hsame
    have hsorted : (found.mergeSort fun a b => keyLE a.key b.key).Pairwise
        fun a b => keyLE a.key b.key = true :=
      List.pairwise_mergeSort (fun a b c => keyLE_trans a.key b.key c.key)
        (fun a b => keyLE_total a.key b.key) found
    rw [hsame] at hsorted
    exact count_of_pairwise_keys ((hpairwise _).mp hsorted)
  · intro few
    refine List.mergeSort_of_pairwise ((hpairwise fun a b => keyLE a b = true).mpr ?_)
    exact (pairwise_key few).imp fun h => (keyLE_iff _ _).mpr (List.le_of_lt h)

/-- Sorting leaves the first entry where it is. -/
theorem head?_mergeSort_keys {found : List Entry} {count : Nat}
    (hkeys : found.map (·.key) = keys count) :
    (found.mergeSort fun a b => keyLE a.key b.key).head? = found.head? := by
  cases found with
  | nil => rw [List.mergeSort_nil]
  | cons e rest =>
      have hfirst : ∀ other ∈ rest, keyLE e.key other.key = true := by
        intro other hother
        cases count with
        | zero => cases hkeys
        | succ count =>
            rw [keys, List.range'_succ, List.map_cons, List.map_cons, List.cons.injEq] at hkeys
            have hmem : other.key ∈ rest.map (·.key) := List.mem_map_of_mem hother
            rw [hkeys.2] at hmem
            obtain ⟨position, hposition, hkey⟩ := List.mem_map.mp hmem
            rw [hkeys.1, ← hkey]
            exact keyLE_key_one (Nat.le_trans (by omega) (List.mem_range'_1.mp hposition).1)
      show ((e :: rest).mergeSort fun a b => keyLE a.key b.key).head? = some e
      exact head?_mergeSort (fun a b c => keyLE_trans a.key b.key c.key)
        (fun a b => keyLE_total a.key b.key) hfirst

namespace Request

/-- The tree of a card has an entry for each attachment, in order and with the key of its position. -/
theorem entries_of_card {r : Request} {created : String} {doc : Document}
    (made : r.card created = .ok doc) :
    ∃ node found, root? doc = .ok (some node) ∧ entries doc levelLimit node = .ok found ∧
      found.map (·.key) = keys (1 + r.descriptor.signatures.length) ∧
      found.mapM (fun e => attachment doc e.file) = .ok (r.attachments.map Prod.fst) := by
  obtain ⟨d, pages, begun, rfl⟩ := card_eq_finish made
  obtain ⟨root, tree, carries⟩ := d.carries_whole begun r created pages r.attachments
  have hcount : r.attachments.length = 1 + r.descriptor.signatures.length := by
    simp [attachments, Nat.add_comm]
  rw [Draft.finish_eq, keys, ← hcount]
  exact Attachments.entries_of_carries carries.pruned

theorem firstFlaw?_eq_none {shown : Bool} {signatures : List Signature}
    (h : ∀ s ∈ signatures, s.flaw? shown = none) (number : Nat) :
    firstFlaw? shown number signatures = none := by
  induction signatures generalizing number with
  | nil => rfl
  | cons s rest ih =>
      obtain ⟨hfirst, hrest⟩ := List.forall_mem_cons.mp h
      rw [firstFlaw?, hfirst]
      exact ih hrest (number + 1)

/-- A request that lacks nothing and shows nothing has a card. -/
theorem exists_card {r : Request} (unflawed : r.flaw? = none) (plain : r.options.showDocument = false)
    (bare : r.options.showSignatures = false) (created : String) : ∃ doc, r.card created = .ok doc := by
  unfold card layout
  simp only [unflawed, plain, bare]
  exact ⟨_, rfl⟩

/-- The keys of a card increase from each attachment to the next, and whoever sorts the attachments by their
keys has them in order, if and only if keys of four digits are enough for the document and the signatures.
The document is the first in any case. -/
theorem keys_in_order_iff (r : Request) (created : String) (doc : Document)
    (made : r.card created = .ok doc) :
    ∃ node found, root? doc = .ok (some node) ∧ entries doc levelLimit node = .ok found ∧
      found.mapM (fun e => attachment doc e.file) = .ok (r.attachments.map Prod.fst) ∧
      let sorted := found.mergeSort fun a b => keyLE a.key b.key
      ((found.map (·.key)).IsChain (· < ·) ↔ 1 + r.descriptor.signatures.length ≤ 9999) ∧
        (sorted = found ↔ 1 + r.descriptor.signatures.length ≤ 9999) ∧
        sorted.head? = found.head? := by
  obtain ⟨node, found, hnode, hfound, hkeys, hfiles⟩ := entries_of_card made
  refine ⟨node, found, hnode, hfound, hfiles, ?_, mergeSort_eq_self_iff hkeys,
    head?_mergeSort_keys hkeys⟩
  rw [hkeys]
  exact isChain_keys_iff _

/-- The keys of a card with two attachments are in order. -/
theorem keys_in_order_sample :
    ∃ doc node found, sample.card "D:20210131134500Z" = .ok doc ∧ root? doc = .ok (some node) ∧
      entries doc levelLimit node = .ok found ∧ (found.map (·.key)).IsChain (· < ·) ∧
      (found.mergeSort fun a b => keyLE a.key b.key) = found := by
  obtain ⟨doc, made⟩ := exists_card (r := sample) (by decide +kernel) rfl rfl "D:20210131134500Z"
  obtain ⟨node, found, hnode, hfound, -, hchain, hsorted, -⟩ :=
    keys_in_order_iff sample "D:20210131134500Z" doc made
  exact ⟨doc, node, found, made, hnode, hfound, hchain.mpr (by decide), hsorted.mpr (by decide)⟩

/-- A request with so many signatures. -/
def crowded (count : Nat) : Request where
  descriptor := { signatures := List.replicate count { fileName := "s", signerName := "A" } }
  document := []
  fileName := "d"

theorem flaw?_crowded (count : Nat) : (crowded (count + 1)).flaw? = none := by
  have hname : isBlankName "d" = false := by decide +kernel
  have hsome : (crowded (count + 1)).descriptor.signatures.isEmpty = false := rfl
  have hsignatures : firstFlaw? false 1 (crowded (count + 1)).descriptor.signatures = none := by
    refine firstFlaw?_eq_none (fun s hs => ?_) 1
    rw [List.eq_of_mem_replicate hs]
    decide +kernel
  unfold flaw?
  rw [hsome]
  simp only [crowded] at hsignatures ⊢
  simp [hname, hsignatures]

/-- The keys of a card with ten thousand attachments are not in order. -/
theorem keys_out_of_order :
    ∃ doc node found, (crowded 9999).card "" = .ok doc ∧ root? doc = .ok (some node) ∧
      entries doc levelLimit node = .ok found ∧ ¬ (found.map (·.key)).IsChain (· < ·) ∧
      (found.mergeSort fun a b => keyLE a.key b.key) ≠ found := by
  have hcount : 1 + (crowded 9999).descriptor.signatures.length = 10000 := by
    rw [crowded, List.length_replicate]
  have unflawed : (crowded 9999).flaw? = none := flaw?_crowded 9998
  obtain ⟨doc, made⟩ := exists_card unflawed rfl rfl ""
  obtain ⟨node, found, hnode, hfound, hkeys, -⟩ := entries_of_card made
  rw [hcount] at hkeys
  refine ⟨doc, node, found, made, hnode, hfound, ?_, ?_⟩
  · rw [hkeys, isChain_keys_iff]
    decide
  · rw [Ne, mergeSort_eq_self_iff hkeys]
    decide

end Request

end Card

end DocumentCard
