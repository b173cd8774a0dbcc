import DocumentCard.Proofs.Card.Keys
import DocumentCard.Proofs.Card.RoundTrip
import DocumentCard.Proofs.Steps
import Mathlib.Data.List.Sort
set_option autoImplicit false

/-!
# Trees of names

The files of a document are stored in a tree: every node has pairs of a key and a file, and nodes below it.  A
pair has a place in the tree (`Place`), the way from the root to its node and its number there, and places are
in preorder when their ways are in the order of words: a node stands before those below it, and these stand
from left to right.  Which pair stands where is said by following references only (`Holds`), without listing
anything.

A listing of a tree has each of its pairs once, in preorder (`listed_of_entries`); and sorting by keys leaves
those of one key in the order in which they stand (`pairwise_mergeSort`).

Main statement: the files of a document are those of its pairs, each once, in the order of the keys and then of
the places; so how a tree is built does not matter as long as its keys differ (`files_in_key_order`).
-/

namespace DocumentCard

/-- Sorting puts what counts as equal in the order in which it stood. -/
theorem pairwise_mergeSort {α : Type} {le : α → α → Bool}
    (trans : ∀ a b c, le a b = true → le b c = true → le a c = true)
    (total : ∀ a b, (le a b || le b a) = true) {R : α → α → Prop} {xs : List α} (stood : xs.Pairwise R) :
    (xs.mergeSort le).Pairwise fun a b => le a b = true ∧ (le b a = true → R a b) := by
  -- with the numbers of their places added, no two members are equal and the order decides on all of them
  have hsorted : (xs.zipIdx.mergeSort (List.zipIdxLE le)).Pairwise
      fun a b => List.zipIdxLE le a b = true :=
    List.pairwise_mergeSort (List.zipIdxLE_trans trans) (List.zipIdxLE_total total) _
  have hdistinct : (xs.zipIdx.mergeSort (List.zipIdxLE le)).Pairwise fun a b => a.2 ≠ b.2 := by
    refine (List.mergeSort_perm _ _).symm.pairwise ?_ fun h => Ne.symm h
    rw [← List.pairwise_map (R := (· ≠ ·)), List.zipIdx_map_snd]
    exact List.nodup_range'
  rw [← List.mergeSort_zipIdx, List.pairwise_map]
  refine (hsorted.and hdistinct).imp_of_mem ?_
  rintro ⟨a, i⟩ ⟨b, j⟩ ha hb ⟨hle, hne⟩
  simp only [List.mem_mergeSort, List.mem_zipIdx_iff_getElem?] at ha hb
  simp only [List.zipIdxLE] at hle hne
  by_cases hab : le a b = true
  · refine ⟨hab, fun hba => ?_⟩
    rw [if_pos hab, if_pos hba, decide_eq_true_eq] at hle
    obtain ⟨hi, rfl⟩ := List.getElem?_eq_some_iff.mp ha
    obtain ⟨hj, rfl⟩ := List.getElem?_eq_some_iff.mp hb
    exact List.pairwise_iff_getElem.mp stood i j hi hj (by omega)
  · rw [if_neg hab] at hle
    cases hle

namespace Card.Attachments

open Pdf (Document Dict Obj)

/-! ## What stands in a tree -/

/-- The way from a node to itself or to a node below it: the numbers of the kids that it takes. -/
inductive Reaches (doc : Document) : Dict → List Nat → Dict → Prop where
  | here (node : Dict) : Reaches doc node [] node
  | kid {node next last : Dict} {kids : List Obj} {number : Nat} {o : Obj} {path : List Nat}
      (items : itemsOf doc node "Kids" = .ok kids) (taken : kids[number]? = some o)
      (leads : resolveAs Obj.dict? doc o = .ok next) (rest : Reaches doc next path last) :
      Reaches doc node (number :: path) last

/-- A place in a tree: the way to a node and the number of a pair in it. -/
structure Place where
  path : List Nat
  number : Nat

/-- Preorder: a node's pairs stand one after another, before those of the nodes below it, and these nodes stand
one after another. -/
def Place.Before (p q : Place) : Prop := p.path < q.path ∨ p.path = q.path ∧ p.number < q.number

/-- What stands at a number among the items of a node: the key is the first of the two objects, and the file's
description the second. -/
def PairAt (doc : Document) (items : List Obj) (number : Nat) (e : Entry) : Prop :=
  ∃ key file, items[2 * number]? = some key ∧ items[2 * number + 1]? = some file ∧
    resolveAs Obj.str? doc key = .ok e.key ∧ resolveAs Obj.dict? doc file = .ok e.file

/-- A tree has this entry at this place. -/
def EntryAt (doc : Document) (root : Dict) (place : Place) (e : Entry) : Prop :=
  ∃ node items, Reaches doc root place.path node ∧ itemsOf doc node "Names" = .ok items ∧
    PairAt doc items place.number e

/-- A description tells of a file: its streams have one under a name that counts, and the data of the stream are
those of the file, or are after the stream's filters have been undone. -/
structure Describes (doc : Document) (description : Dict) (file : Attachment) : Prop where
  name : file.name = nameOf doc description
  data : ∃ o streams stream d data, description.get? "EF" = some o ∧
    resolveAs Obj.dict? doc o = .ok streams ∧ firstOf streams ["UF", "F"] = some stream ∧
    resolveAs Obj.stream? doc stream = .ok (d, data) ∧
    if d.has "Filter" then Pdf.Filter.decode d data = .ok file.bytes else data = file.bytes

/-- A pair of a tree: where it stands, its key and its file. -/
structure Pair where
  place : Place
  key : Bytes
  file : Attachment

/-- The order of pairs: by their keys, and those of one key by their places. -/
def Pair.Before (a b : Pair) : Prop := a.key < b.key ∨ a.key = b.key ∧ a.place.Before b.place

/-- The pair stands in the tree. -/
def Holds (doc : Document) (root : Dict) (pair : Pair) : Prop :=
  ∃ description, EntryAt doc root pair.place ⟨pair.key, description⟩ ∧ Describes doc description pair.file

/-- A node is well formed: its names are pairs of strings and descriptions of files, and its kids are nodes. -/
structure IsNode (doc : Document) (node : Dict) : Prop where
  names : ∃ items, itemsOf doc node "Names" = .ok items ∧ items.length % 2 = 0 ∧
    ∀ number key file, items[2 * number]? = some key → items[2 * number + 1]? = some file →
      ∃ e : Entry, resolveAs Obj.str? doc key = .ok e.key ∧ resolveAs Obj.dict? doc file = .ok e.file ∧
        ∃ attached, Describes doc e.file attached
  kids : ∃ kids, itemsOf doc node "Kids" = .ok kids ∧
    ∀ kid ∈ kids, ∃ next, resolveAs Obj.dict? doc kid = .ok next

/-- A tree of so many levels, all of whose nodes are well formed. -/
def IsTree (doc : Document) (levels : Nat) (root : Dict) : Prop :=
  ∀ path node, Reaches doc root path node → path.length < levels ∧ IsNode doc node

section Listing

variable {doc : Document}

/-! ## Descriptions -/

/-- The file of a description is the one that it tells of. -/
theorem attachment_eq_ok_iff {description : Dict} {file : Attachment} :
    attachment doc description = .ok file ↔ Describes doc description file := by
  obtain ⟨name, bytes⟩ := file
  constructor
  · intro h
    unfold attachment at h
    cases ho : description.get? "EF" with
    | none => simp [ho, throw, throwThe, MonadExceptOf.throw] at h
    | some o =>
        simp only [ho] at h
        obtain ⟨streams, hstreams, h⟩ := bind_eq_ok h
        cases hstream : firstOf streams ["UF", "F"] with
        | none => simp [hstream, throw, throwThe, MonadExceptOf.throw] at h
        | some stream =>
            simp only [hstream] at h
            obtain ⟨⟨d, data⟩, hdata, h⟩ := bind_eq_ok h
            by_cases hfilter : d.has "Filter" = true
            · simp only [hfilter, if_true] at h
              obtain ⟨plain, hplain, h⟩ := bind_eq_ok h
              obtain ⟨rfl, rfl⟩ := Attachment.mk.inj (Except.ok.inj h)
              refine ⟨rfl, o, streams, stream, d, data, ho, hstreams, hstream, hdata, ?_⟩
              rw [if_pos hfilter]
              exact of_mapError_eq_ok hplain
            · simp only [hfilter] at h
              obtain ⟨rfl, rfl⟩ := Attachment.mk.inj (Except.ok.inj h)
              exact ⟨rfl, o, streams, stream, d, data, ho, hstreams, hstream, hdata, if_neg hfilter ▸ rfl⟩
  · rintro ⟨rfl, o, streams, stream, d, data, ho, hstreams, hstream, hdata, hbytes⟩
    unfold attachment
    simp only [ho, hstream, hstreams, hdata, Bind.bind, Except.bind]
    split at hbytes
    · rename_i hfilter
      simp only [hfilter, hbytes, mapError_ok, if_true]
      rfl
    · rename_i hfilter
      obtain rfl := hbytes
      simp only [hfilter]
      rfl

/-! ## Pairs of a node -/

theorem pairAt_zero {key file : Obj} {rest : List Obj} {e : Entry} :
    PairAt doc (key :: file :: rest) 0 e
      ↔ resolveAs Obj.str? doc key = .ok e.key ∧ resolveAs Obj.dict? doc file = .ok e.file := by
  simp [PairAt]

theorem pairAt_succ {key file : Obj} {rest : List Obj} {number : Nat} {e : Entry} :
    PairAt doc (key :: file :: rest) (number + 1) e ↔ PairAt doc rest number e := by
  simp [PairAt, Nat.mul_succ]

/-- The pairs of a node are those at its numbers. -/
theorem getElem?_pairs {items : List Obj} {found : List Entry} (h : pairs doc items = .ok found)
    (number : Nat) (e : Entry) : found[number]? = some e ↔ PairAt doc items number e := by
  fun_induction pairs doc items generalizing found number with
  | case1 =>
      obtain rfl := Except.ok.inj h
      simp [PairAt]
  | case2 => cases h
  | case3 key file rest ih =>
      obtain ⟨bytes, hkey, h⟩ := bind_eq_ok h
      obtain ⟨description, hfile, h⟩ := bind_eq_ok h
      obtain ⟨later, hlater, h⟩ := bind_eq_ok h
      obtain rfl := Except.ok.inj h
      cases number with
      | zero =>
          obtain ⟨key', file'⟩ := e
          simp [pairAt_zero, hkey, hfile]
      | succ number =>
          rw [pairAt_succ, List.getElem?_cons_succ]
          exact ih hlater number

/-! ## Places -/

/-- A place as the node above sees it. -/
def Place.under (number : Nat) (p : Place) : Place := ⟨number :: p.path, p.number⟩

theorem Place.Before.under {p q : Place} (h : p.Before q) (number : Nat) :
    (p.under number).Before (q.under number) := by
  rcases h with h | ⟨hpath, hnumber⟩
  · exact .inl (List.cons_lt_cons_self.mpr h)
  · exact .inr ⟨congrArg (number :: ·) hpath, hnumber⟩

theorem Place.under_before_under {number next : Nat} (h : number < next) (p q : Place) :
    (p.under number).Before (q.under next) := .inl (List.cons_lt_cons_iff.mpr (.inl h))

theorem Place.before_under (number next : Nat) (p : Place) :
    Place.Before ⟨[], number⟩ (p.under next) := .inl (List.nil_lt_cons ..)

/-- An entry stands in the root itself or in a tree below it. -/
theorem entryAt_iff {node : Dict} {place : Place} {e : Entry} :
    EntryAt doc node place e ↔
      (∃ items, place.path = [] ∧ itemsOf doc node "Names" = .ok items ∧ PairAt doc items place.number e) ∨
      ∃ kids number o next p, itemsOf doc node "Kids" = .ok kids ∧ kids[number]? = some o ∧
        resolveAs Obj.dict? doc o = .ok next ∧ place = p.under number ∧ EntryAt doc next p e := by
  obtain ⟨path, position⟩ := place
  constructor
  · rintro ⟨last, items, reaches, hitems, hpair⟩
    cases reaches with
    | here => exact .inl ⟨items, rfl, hitems, hpair⟩
    | @kid _ next _ kids number o path hkids taken leads rest =>
        exact .inr ⟨kids, number, o, next, ⟨path, position⟩, hkids, taken, leads, rfl, last, items, rest,
          hitems, hpair⟩
  · rintro (⟨items, rfl, hitems, hpair⟩ | ⟨kids, number, o, next, p, hkids, taken, leads, hplace, entry⟩)
    · exact ⟨node, items, .here node, hitems, hpair⟩
    · obtain ⟨rfl, rfl⟩ := Place.mk.inj hplace
      obtain ⟨last, items, rest, hitems, hpair⟩ := entry
      exact ⟨last, items, .kid hkids taken leads rest, hitems, hpair⟩

/-! ## Listings -/

/-- The entries that have been found in a tree, with their places: they are those that stand in it, in
preorder. -/
structure Lists (doc : Document) (root : Dict) (found : List Entry) (listed : List (Place × Entry)) : Prop where
  found_eq : found = listed.map Prod.snd
  stands : ∀ place e, (place, e) ∈ listed ↔ EntryAt doc root place e
  preorder : listed.Pairwise fun a b => a.1.Before b.1

/-- The pairs of a node, with their places. -/
def ownPlaces (own : List Entry) : List (Place × Entry) := own.zipIdx.map fun (e, number) => (⟨[], number⟩, e)

theorem mem_ownPlaces {own : List Entry} {place : Place} {e : Entry} :
    (place, e) ∈ ownPlaces own ↔ place.path = [] ∧ own[place.number]? = some e := by
  obtain ⟨path, position⟩ := place
  simp only [ownPlaces, List.mem_map, Prod.exists, Prod.mk.injEq, Place.mk.injEq,
    List.mem_zipIdx_iff_getElem?]
  constructor
  · rintro ⟨e', number, hown, ⟨rfl, rfl⟩, rfl⟩
    exact ⟨rfl, hown⟩
  · rintro ⟨rfl, hown⟩
    exact ⟨e, position, hown, ⟨rfl, rfl⟩, rfl⟩

theorem pairwise_ownPlaces (own : List Entry) : (ownPlaces own).Pairwise fun a b => a.1.Before b.1 := by
  rw [ownPlaces, List.pairwise_map]
  have hnumbers : (own.zipIdx.map Prod.snd).Pairwise (· < ·) := by
    rw [List.zipIdx_map_snd]
    exact List.pairwise_lt_range'
  rw [List.pairwise_map] at hnumbers
  exact hnumbers.imp fun h => .inr ⟨rfl, h⟩

/-- The trees below a node are listed one after another; `number` is the number of the first. -/
theorem lists_kids {levels : Nat}
    (ih : ∀ node found, entries doc levels node = .ok found → ∃ listed, Lists doc node found listed)
    {kids : List Obj} {below : List (List Entry)} (number : Nat)
    (h : kids.mapM (fun kid => do entries doc levels (← resolveAs Obj.dict? doc kid)) = .ok below) :
    ∃ listed : List (Place × Entry), below.flatten = listed.map Prod.snd ∧
      (∀ place e, (place, e) ∈ listed ↔ ∃ i o next p, kids[i]? = some o ∧
        resolveAs Obj.dict? doc o = .ok next ∧ place = p.under (number + i) ∧ EntryAt doc next p e) ∧
      listed.Pairwise fun a b => a.1.Before b.1 := by
  induction kids generalizing number below with
  | nil =>
      obtain rfl := Except.ok.inj h
      exact ⟨[], rfl, by simp, .nil⟩
  | cons kid rest ihKids =>
      rw [List.mapM_cons] at h
      obtain ⟨found, hfound, h⟩ := bind_eq_ok h
      obtain ⟨later, hlater, h⟩ := bind_eq_ok h
      obtain rfl := Except.ok.inj h
      obtain ⟨next, leads, hfound⟩ := bind_eq_ok hfound
      obtain ⟨first, hfirst⟩ := ih next found hfound
      obtain ⟨others, hothers, stands, preorder⟩ := ihKids (number + 1) hlater
      refine ⟨first.map (fun (p, e) => (p.under number, e)) ++ others, ?_, ?_, ?_⟩
      · rw [List.flatten_cons, hothers, hfirst.found_eq, List.map_append, List.map_map]
        rfl
      · -- the first tree has the places under `number`, and the others have those that follow
        intro place e
        rw [List.mem_append, stands]
        constructor
        · rintro (hmem | ⟨i, o, next, p, taken, leads, rfl, entry⟩)
          · obtain ⟨⟨p, e'⟩, hp, hplace⟩ := List.mem_map.mp hmem
            obtain ⟨rfl, rfl⟩ := Prod.mk.inj hplace
            exact ⟨0, kid, next, p, rfl, leads, rfl, (hfirst.stands p e').mp hp⟩
          · exact ⟨i + 1, o, next, p, taken, leads, by rw [Nat.add_right_comm, Nat.add_assoc], entry⟩
        · rintro ⟨i, o, next', p, taken, leads', rfl, entry⟩
          cases i with
          | zero =>
              obtain rfl : kid = o := Option.some.inj taken
              obtain rfl := Except.ok.inj (leads.symm.trans leads')
              exact .inl (List.mem_map.mpr ⟨(p, e), (hfirst.stands p e).mpr entry, rfl⟩)
          | succ i =>
              exact .inr ⟨i, o, next', p, taken, leads', by rw [Nat.add_right_comm, Nat.add_assoc], entry⟩
      · rw [List.pairwise_append]
        refine ⟨?_, preorder, ?_⟩
        · rw [List.pairwise_map]
          exact hfirst.preorder.imp fun h => h.under number
        · rintro a ha ⟨place, e⟩ hb
          obtain ⟨⟨p, e'⟩, -, rfl⟩ := List.mem_map.mp ha
          obtain ⟨i, o, next, q, -, -, rfl, -⟩ := (stands place e).mp hb
          exact Place.under_before_under (by omega) p q

/-- What has been found in a tree is what stands in it. -/
theorem listed_of_entries {levels : Nat} {node : Dict} {found : List Entry}
    (h : entries doc levels node = .ok found) : ∃ listed, Lists doc node found listed := by
  -- on the levels that are left, with the kids of a node taken one after another (`lists_kids`)
  induction levels generalizing node found with
  | zero => cases h
  | succ levels ih =>
      obtain ⟨items, hitems, h⟩ := bind_eq_ok h
      obtain ⟨own, hown, h⟩ := bind_eq_ok h
      obtain ⟨kids, hkids, h⟩ := bind_eq_ok h
      obtain ⟨below, hbelow, h⟩ := bind_eq_ok h
      obtain rfl := Except.ok.inj h
      obtain ⟨listed, hlisted, stands, preorder⟩ := lists_kids (fun _ _ => ih) 0 hbelow
      refine ⟨ownPlaces own ++ listed, ?_, ?_, ?_⟩
      · rw [List.map_append, ← hlisted, ownPlaces, List.map_map]
        congr 1
        exact (List.zipIdx_map_fst 0 own).symm
      · intro place e
        rw [List.mem_append, mem_ownPlaces, getElem?_pairs hown, stands, entryAt_iff]
        refine or_congr ?_ ?_
        · constructor
          · rintro ⟨hpath, hpair⟩
            exact ⟨items, hpath, hitems, hpair⟩
          · rintro ⟨items', hpath, hitems', hpair⟩
            obtain rfl := Except.ok.inj (hitems.symm.trans hitems')
            exact ⟨hpath, hpair⟩
        · constructor
          · rintro ⟨i, o, next, p, taken, leads, hplace, entry⟩
            exact ⟨kids, i, o, next, p, hkids, taken, leads, by rw [hplace, Nat.zero_add], entry⟩
          · rintro ⟨kids', i, o, next, p, hkids', taken, leads, hplace, entry⟩
            obtain rfl := Except.ok.inj (hkids.symm.trans hkids')
            exact ⟨i, o, next, p, taken, leads, by rw [hplace, Nat.zero_add], entry⟩
      · rw [List.pairwise_append]
        refine ⟨pairwise_ownPlaces own, preorder, ?_⟩
        rintro ⟨⟨path, position⟩, e⟩ ha ⟨place, e'⟩ hb
        obtain ⟨rfl, -⟩ := mem_ownPlaces.mp ha
        obtain ⟨i, o, next, p, -, -, rfl, -⟩ := (stands place e').mp hb
        exact Place.before_under position _ p

/-! ## Well-formed trees -/

theorem exists_pairs {items : List Obj} (even : items.length % 2 = 0)
    (whole : ∀ number key file, items[2 * number]? = some key → items[2 * number + 1]? = some file →
      ∃ e : Entry, resolveAs Obj.str? doc key = .ok e.key ∧ resolveAs Obj.dict? doc file = .ok e.file) :
    ∃ own, pairs doc items = .ok own := by
  fun_induction pairs doc items with
  | case1 => exact ⟨[], rfl⟩
  | case2 => cases even
  | case3 key file rest ih =>
      obtain ⟨e, hkey, hfile⟩ := whole 0 key file rfl rfl
      have hrest : rest.length % 2 = 0 := by
        rw [List.length_cons, List.length_cons] at even
        omega
      obtain ⟨later, hlater⟩ := ih hrest fun number key' file' hkey' hfile' =>
        whole (number + 1) key' file' (by simpa [Nat.mul_succ] using hkey')
          (by simpa [Nat.mul_succ] using hfile')
      exact ⟨e :: later, by rw [hkey, ok_bind, hfile, ok_bind, hlater]; rfl⟩

theorem IsTree.below {levels number : Nat} {node next : Dict} {kids : List Obj} {o : Obj}
    (tree : IsTree doc (levels + 1) node) (items : itemsOf doc node "Kids" = .ok kids)
    (taken : kids[number]? = some o) (leads : resolveAs Obj.dict? doc o = .ok next) :
    IsTree doc levels next := by
  intro path last reaches
  obtain ⟨hlevels, hnode⟩ := tree _ last (.kid items taken leads reaches)
  exact ⟨Nat.lt_of_succ_lt_succ hlevels, hnode⟩

/-- A well-formed tree is read. -/
theorem exists_entries {levels : Nat} {node : Dict} (tree : IsTree doc levels node) :
    ∃ found, entries doc levels node = .ok found := by
  induction levels generalizing node with
  | zero => exact absurd (tree [] node (.here node)).1 (Nat.not_lt_zero _)
  | succ levels ih =>
      obtain ⟨⟨items, hitems, even, whole⟩, kids, hkids, lead⟩ := (tree [] node (.here node)).2
      obtain ⟨own, hown⟩ := exists_pairs even fun number key file hkey hfile => by
        obtain ⟨e, hkey, hfile, -⟩ := whole number key file hkey hfile
        exact ⟨e, hkey, hfile⟩
      obtain ⟨below, hbelow⟩ : ∃ below, kids.mapM
          (fun kid => do entries doc levels (← resolveAs Obj.dict? doc kid)) = .ok below := by
        refine exists_mapM_eq_ok fun kid hkid => ?_
        obtain ⟨next, hnext⟩ := lead kid hkid
        obtain ⟨number, taken⟩ := List.getElem?_of_mem hkid
        obtain ⟨found, hfound⟩ := ih (tree.below hkids taken hnext)
        exact ⟨found, by rw [hnext]; exact hfound⟩
      exact ⟨own ++ below.flatten, by
        rw [entries, hitems, ok_bind, hown, ok_bind, hkids, ok_bind, hbelow, ok_bind]
        rfl⟩

/-- Every entry of a well-formed tree describes a file. -/
theorem IsTree.describes {levels : Nat} {root : Dict} (tree : IsTree doc levels root) {place : Place}
    {e : Entry} (entry : EntryAt doc root place e) : ∃ file, Describes doc e.file file := by
  obtain ⟨node, items, reaches, hitems, key, file, hkey, hfile, hkeyBytes, hdescription⟩ := entry
  obtain ⟨items', hitems', -, whole⟩ := (tree _ node reaches).2.names
  obtain rfl := Except.ok.inj (hitems.symm.trans hitems')
  obtain ⟨e', -, hdescription', attached⟩ := whole _ key file hkey hfile
  rwa [Except.ok.inj (hdescription.symm.trans hdescription')]

theorem length_eq_of_pairs {items : List Obj} {own : List Entry} (h : pairs doc items = .ok own) :
    items.length = 2 * own.length := by
  fun_induction pairs doc items generalizing own with
  | case1 =>
      obtain rfl := Except.ok.inj h
      rfl
  | case2 => cases h
  | case3 key file rest ih =>
      obtain ⟨bytes, hkey, h⟩ := bind_eq_ok h
      obtain ⟨description, hfile, h⟩ := bind_eq_ok h
      obtain ⟨later, hlater, h⟩ := bind_eq_ok h
      obtain rfl := Except.ok.inj h
      have hrest := ih hlater
      simp only [List.length_cons]
      omega

/-- What has been read as pairs are pairs. -/
theorem exists_pair_of_pairs {items : List Obj} {own : List Entry} (h : pairs doc items = .ok own) :
    items.length % 2 = 0 ∧ ∀ number key file, items[2 * number]? = some key →
      items[2 * number + 1]? = some file →
      ∃ e ∈ own, resolveAs Obj.str? doc key = .ok e.key ∧ resolveAs Obj.dict? doc file = .ok e.file := by
  have hlength := length_eq_of_pairs h
  refine ⟨by omega, fun number key file hkey hfile => ?_⟩
  have hnumber : number < own.length := by
    obtain ⟨hlast, -⟩ := List.getElem?_eq_some_iff.mp hfile
    omega
  obtain ⟨key', file', hkey', hfile', hbytes, hdescription⟩ :=
    (getElem?_pairs h number own[number]).mp (List.getElem?_eq_getElem hnumber)
  obtain rfl := Option.some.inj (hkey.symm.trans hkey')
  obtain rfl := Option.some.inj (hfile.symm.trans hfile')
  exact ⟨own[number], List.getElem_mem hnumber, hbytes, hdescription⟩

/-- A tree that is read, and whose entries all describe files, is well formed. -/
theorem isTree_of_entries {levels : Nat} {node : Dict} {found : List Entry}
    (h : entries doc levels node = .ok found) (described : ∀ e ∈ found, ∃ file, Describes doc e.file file) :
    IsTree doc levels node := by
  induction levels generalizing node found with
  | zero => cases h
  | succ levels ih =>
      obtain ⟨items, hitems, h⟩ := bind_eq_ok h
      obtain ⟨own, hown, h⟩ := bind_eq_ok h
      obtain ⟨kids, hkids, h⟩ := bind_eq_ok h
      obtain ⟨below, hbelow, h⟩ := bind_eq_ok h
      obtain rfl := Except.ok.inj h
      rw [List.forall_mem_append] at described
      have read : ∀ kid ∈ kids, ∃ next part, resolveAs Obj.dict? doc kid = .ok next ∧
          entries doc levels next = .ok part ∧ part ∈ below := by
        intro kid hkid
        obtain ⟨part, hmem, hpart⟩ := of_mapM_eq_ok hbelow kid hkid
        obtain ⟨next, leads, hpart⟩ := bind_eq_ok hpart
        exact ⟨next, part, leads, hpart, hmem⟩
      intro path last reaches
      cases reaches with
      | here =>
          obtain ⟨even, whole⟩ := exists_pair_of_pairs hown
          refine ⟨Nat.zero_lt_succ _, ⟨items, hitems, even, ?_⟩, kids, hkids, ?_⟩
          · intro number key file hkey hfile
            obtain ⟨e, he, hkey, hfile⟩ := whole number key file hkey hfile
            exact ⟨e, hkey, hfile, described.1 e he⟩
          · intro kid hkid
            obtain ⟨next, part, leads, -⟩ := read kid hkid
            exact ⟨next, leads⟩
      | kid hkids' taken leads rest =>
          obtain rfl := Except.ok.inj (hkids.symm.trans hkids')
          obtain ⟨next, part, leads', hpart, hmem⟩ := read _ (List.mem_of_getElem? taken)
          obtain rfl := Except.ok.inj (leads.symm.trans leads')
          have tree := ih hpart fun e he => described.2 e (List.mem_flatten.mpr ⟨part, hmem, he⟩)
          obtain ⟨hlevels, hnode⟩ := tree _ last rest
          exact ⟨Nat.succ_lt_succ hlevels, hnode⟩

/-! ## The files of a tree -/

/-- The file that an entry describes. -/
def fileOf (doc : Document) (e : Entry) : Attachment := (attachment doc e.file).toOption.getD default

/-- An entry at its place, as a pair. -/
def pairOf (doc : Document) (entry : Place × Entry) : Pair := ⟨entry.1, entry.2.key, fileOf doc entry.2⟩

theorem attachment_eq_fileOf {e : Entry} {file : Attachment} (h : Describes doc e.file file) :
    attachment doc e.file = .ok (fileOf doc e) ∧ fileOf doc e = file := by
  have hfile := attachment_eq_ok_iff.mpr h
  have hsame : fileOf doc e = file := by rw [fileOf, hfile]; rfl
  exact ⟨by rw [hsame, hfile], hsame⟩

theorem Place.before_irrefl (p : Place) : ¬ p.Before p := by
  rintro (h | ⟨-, h⟩)
  · exact List.lt_irrefl _ h
  · exact Nat.lt_irrefl _ h

/-- The files of a document are those of the pairs of its tree, each of them once and in order. -/
theorem ofDocument_of_isTree {root : Dict} (rooted : root? doc = .ok (some root))
    (tree : IsTree doc levelLimit root) :
    ∃ listed : List Pair, ofDocument doc = .ok (listed.map Pair.file) ∧
      (∀ pair, pair ∈ listed ↔ Holds doc root pair) ∧ listed.Pairwise Pair.Before := by
  obtain ⟨found, hfound⟩ := exists_entries tree
  obtain ⟨listed, hlisted, stands, preorder⟩ := listed_of_entries hfound
  have described : ∀ place e, (place, e) ∈ listed → attachment doc e.file = .ok (fileOf doc e) := by
    intro place e hmem
    obtain ⟨file, hfile⟩ := tree.describes ((stands place e).mp hmem)
    exact (attachment_eq_fileOf hfile).1
  let le (a b : Place × Entry) : Bool := keyLE a.2.key b.2.key
  have hsorted : (found.mergeSort fun a b => keyLE a.key b.key) = (listed.mergeSort le).map Prod.snd := by
    rw [hlisted]
    exact (List.map_mergeSort (r := le) (f := Prod.snd) fun _ _ _ _ => rfl).symm
  refine ⟨(listed.mergeSort le).map (pairOf doc), ?_, ?_, ?_⟩
  · rw [ofDocument, rooted, ok_bind]
    simp only
    rw [hfound, ok_bind, hsorted, mapM_eq_ok_map (g := fileOf doc), List.map_map, List.map_map]
    · rfl
    · intro e he
      obtain ⟨⟨place, e⟩, hmem, rfl⟩ := List.mem_map.mp he
      exact described place e (List.mem_mergeSort.mp hmem)
  · rintro ⟨place, key, file⟩
    simp only [List.mem_map, List.mem_mergeSort]
    constructor
    · rintro ⟨⟨place', e⟩, hmem, hpair⟩
      obtain ⟨rfl, rfl, rfl⟩ := Pair.mk.inj hpair
      have hentry := (stands place' e).mp hmem
      obtain ⟨file, hfile⟩ := tree.describes hentry
      exact ⟨e.file, hentry, by rwa [(attachment_eq_fileOf hfile).2]⟩
    · rintro ⟨description, hentry, hfile⟩
      refine ⟨(place, ⟨key, description⟩), (stands _ _).mpr hentry, ?_⟩
      exact congrArg (Pair.mk place key) (attachment_eq_fileOf (e := ⟨key, description⟩) hfile).2
  · rw [List.pairwise_map]
    refine (pairwise_mergeSort (fun a b c => keyLE_trans a.2.key b.2.key c.2.key)
      (fun a b => keyLE_total a.2.key b.2.key) preorder).imp ?_
    rintro a b ⟨hle, htie⟩
    rw [keyLE_iff] at hle
    by_cases hge : keyLE b.2.key a.2.key = true
    · exact .inr ⟨List.le_antisymm hle ((keyLE_iff _ _).mp hge), htie hge⟩
    · exact .inl (List.not_le.mp fun h => hge ((keyLE_iff _ _).mpr h))

/-- No two pairs of a tree have one key. -/
def DistinctKeys (doc : Document) (root : Dict) : Prop :=
  ∀ a b, Holds doc root a → Holds doc root b → a.key = b.key → a = b

/-- Two trees have the same files under the same keys. -/
def SamePairs (doc : Document) (root : Dict) (other : Document) (otherRoot : Dict) : Prop :=
  ∀ key file,
    (∃ place, Holds doc root ⟨place, key, file⟩) ↔ ∃ place, Holds other otherRoot ⟨place, key, file⟩

/-- Pairs in order whose keys differ are told by their keys alone. -/
theorem pairwise_key_of_distinct {root : Dict} {listed : List Pair}
    (stands : ∀ pair, pair ∈ listed ↔ Holds doc root pair) (ordered : listed.Pairwise Pair.Before)
    (distinct : DistinctKeys doc root) :
    (listed.map fun pair => (pair.key, pair.file)).Pairwise fun a b => a.1 < b.1 := by
  rw [List.pairwise_map]
  refine ordered.imp_of_mem fun {a b} ha hb hbefore => ?_
  rcases hbefore with hlt | ⟨hkey, hplace⟩
  · exact hlt
  · obtain rfl := distinct a b ((stands a).mp ha) ((stands b).mp hb) hkey
    exact absurd hplace a.place.before_irrefl

/-- The keys of a tree differ if those that are found in it do. -/
theorem distinctKeys_of_entries {levels : Nat} {root : Dict} {found : List Entry}
    (h : entries doc levels root = .ok found) (nodup : (found.map Entry.key).Nodup) :
    DistinctKeys doc root := by
  obtain ⟨listed, hfound, stands, -⟩ := listed_of_entries h
  rw [hfound, List.map_map] at nodup
  rintro ⟨place, key, file⟩ ⟨other, key', file'⟩ ⟨description, hentry, hfile⟩
    ⟨description', hentry', hfile'⟩ hkey
  obtain rfl : key = key' := hkey
  have hsame := List.inj_on_of_nodup_map nodup ((stands _ _).mpr hentry) ((stands _ _).mpr hentry') rfl
  simp only [Prod.mk.injEq, Entry.mk.injEq] at hsame
  obtain ⟨rfl, -, rfl⟩ := hsame
  have hboth := (attachment_eq_ok_iff.mpr hfile).symm.trans (attachment_eq_ok_iff.mpr hfile')
  obtain rfl := Except.ok.inj hboth
  rfl

/-- What stands in a tree is what is found in it, wherever it stands. -/
theorem exists_holds_iff {levels : Nat} {root : Dict} {found : List Entry}
    (h : entries doc levels root = .ok found) (key : Bytes) (file : Attachment) :
    (∃ place, Holds doc root ⟨place, key, file⟩)
      ↔ ∃ e ∈ found, e.key = key ∧ attachment doc e.file = .ok file := by
  obtain ⟨listed, hfound, stands, -⟩ := listed_of_entries h
  rw [hfound]
  constructor
  · rintro ⟨place, description, hentry, hfile⟩
    exact ⟨⟨key, description⟩, List.mem_map.mpr ⟨_, (stands _ _).mpr hentry, rfl⟩, rfl,
      attachment_eq_ok_iff.mpr hfile⟩
  · rintro ⟨e, he, rfl, hfile⟩
    obtain ⟨⟨place, e⟩, hmem, rfl⟩ := List.mem_map.mp he
    exact ⟨place, e.file, (stands place e).mp hmem, attachment_eq_ok_iff.mp hfile⟩

end Listing

/-- The files of a document are in the order of their keys, however the tree of its names is built.

The tree may have 33 levels, and its nodes, their names and their kids may be given directly or by references.
From a well-formed tree the files of all pairs are read, each pair's file once: in the order of the keys, byte
by byte, and those of one key in preorder.  A node that several kids lead to stands at several places, and so do
its pairs.  Two documents whose trees hold the same pairs, in whatever nodes, have the same files in the same
order if no key is there twice. -/
theorem files_in_key_order {doc : Document} {root : Dict} (rooted : root? doc = .ok (some root))
    (tree : IsTree doc levelLimit root) :
    (∃ listed : List Pair, ofDocument doc = .ok (listed.map Pair.file) ∧
      (∀ pair, pair ∈ listed ↔ Holds doc root pair) ∧ listed.Nodup ∧ listed.Pairwise Pair.Before) ∧
      (∀ file, Pdf.load file = .ok doc → ofFile file = ofDocument doc) ∧
      ∀ other otherRoot, root? other = .ok (some otherRoot) → IsTree other levelLimit otherRoot →
        DistinctKeys doc root → DistinctKeys other otherRoot → SamePairs doc root other otherRoot →
        ofDocument other = ofDocument doc := by
  obtain ⟨listed, hfiles, stands, ordered⟩ := ofDocument_of_isTree rooted tree
  refine ⟨⟨listed, hfiles, stands, ?_, ordered⟩, ?_, ?_⟩
  · refine ordered.imp fun {a b} hbefore => ?_
    rintro rfl
    rcases hbefore with hlt | ⟨-, hplace⟩
    · exact List.lt_irrefl _ hlt
    · exact a.place.before_irrefl hplace
  · intro file hload
    rw [ofFile, hload, mapError_ok, ok_bind]
  · intro other otherRoot otherRooted otherTree distinct otherDistinct same
    obtain ⟨otherListed, hotherFiles, otherStands, otherOrdered⟩ :=
      ofDocument_of_isTree otherRooted otherTree
    let lower (a b : Bytes × Attachment) : Prop := a.1 < b.1
    have : Std.Irrefl lower := ⟨fun a => List.lt_irrefl a.1⟩
    have : Std.Antisymm lower := ⟨fun a b hab hba => absurd hba (List.lt_asymm hab)⟩
    have hpairs : (otherListed.map fun pair => (pair.key, pair.file))
        = listed.map fun pair => (pair.key, pair.file) := by
      refine List.Pairwise.eq_of_mem_iff (r := lower)
        (pairwise_key_of_distinct otherStands otherOrdered otherDistinct)
        (pairwise_key_of_distinct stands ordered distinct) ?_
      rintro ⟨key, file⟩
      have hmem {doc : Document} {root : Dict} {listed : List Pair}
          (stands : ∀ pair, pair ∈ listed ↔ Holds doc root pair) :
          (key, file) ∈ listed.map (fun pair => (pair.key, pair.file))
            ↔ ∃ place, Holds doc root ⟨place, key, file⟩ := by
        rw [List.mem_map]
        constructor
        · rintro ⟨⟨place, key', file'⟩, hpair, hsame⟩
          obtain ⟨rfl, rfl⟩ := Prod.mk.inj hsame
          exact ⟨place, (stands _).mp hpair⟩
        · rintro ⟨place, hpair⟩
          exact ⟨⟨place, key, file⟩, (stands _).mpr hpair, rfl⟩
      rw [hmem otherStands, hmem stands]
      exact (same key file).symm
    have hsame := congrArg (List.map Prod.snd) hpairs
    rw [List.map_map, List.map_map] at hsame
    rw [hfiles, hotherFiles]
    exact congrArg Except.ok hsame

/-! ## One set of files in two trees -/

/-- The description of a file whose data are in this object. -/
def described (name : String) (data : Nat) : Dict :=
  [("F", .str (Bytes.ascii name) .literal), ("EF", .dict [("F", .ref ⟨data, 0⟩)])]

/-- A document with two files, and a tree for them whose root is object 2. -/
def twoFiles (tree : Pdf.Objects) : Document where
  version := "1.7"
  trailer := [("Root", .ref ⟨1, 0⟩)]
  objects :=
    [(⟨1, 0⟩, .dict [("Names", .dict [("EmbeddedFiles", .ref ⟨2, 0⟩)])]),
     (⟨5, 0⟩, .dict (described "a.txt" 7)), (⟨6, 0⟩, .dict (described "b.txt" 8)),
     (⟨7, 0⟩, .stream [] [1]), (⟨8, 0⟩, .stream [] [2])] ++ tree

def flatRoot : Dict :=
  [("Names", .arr
    [.str (Bytes.ascii "0001") .literal, .ref ⟨5, 0⟩, .str (Bytes.ascii "0002") .literal, .ref ⟨6, 0⟩])]

/-- Both files in the root. -/
def flat : Document := twoFiles [(⟨2, 0⟩, .dict flatRoot)]

def nestedRoot : Dict := [("Names", .ref ⟨3, 0⟩), ("Kids", .arr [.ref ⟨4, 0⟩])]

/-- The second file in the root, through a reference, and the first one in a node below it. -/
def nested : Document :=
  twoFiles
    [(⟨2, 0⟩, .dict nestedRoot),
     (⟨3, 0⟩, .arr [.str (Bytes.ascii "0002") .literal, .ref ⟨6, 0⟩]),
     (⟨4, 0⟩, .dict [("Names", .arr [.str (Bytes.ascii "0001") .literal, .ref ⟨5, 0⟩])])]

def firstEntry : Entry := ⟨Bytes.ascii "0001", described "a.txt" 7⟩

def secondEntry : Entry := ⟨Bytes.ascii "0002", described "b.txt" 8⟩

theorem entries_flat : entries flat levelLimit flatRoot = .ok [firstEntry, secondEntry] := rfl

theorem entries_nested : entries nested levelLimit nestedRoot = .ok [secondEntry, firstEntry] := rfl

theorem attachment_twoFiles : ∀ doc ∈ [flat, nested],
    attachment doc firstEntry.file = .ok ⟨"a.txt", [1]⟩ ∧
      attachment doc secondEntry.file = .ok ⟨"b.txt", [2]⟩ := by
  decide +kernel

theorem ofDocument_flat : ofDocument flat = .ok [⟨"a.txt", [1]⟩, ⟨"b.txt", [2]⟩] := by
  obtain ⟨hfirst, hsecond⟩ := attachment_twoFiles flat (by simp)
  have rooted : root? flat = .ok (some flatRoot) := rfl
  have sorted : [firstEntry, secondEntry].mergeSort (fun a b => keyLE a.key b.key)
      = [firstEntry, secondEntry] := List.mergeSort_of_pairwise (by decide)
  rw [ofDocument, rooted, ok_bind]
  simp only
  rw [entries_flat, ok_bind, sorted]
  simp [hfirst, hsecond, Bind.bind, Except.bind, pure, Except.pure]

/-- The tree of two levels gives the files as the tree of one does. -/
theorem files_in_key_order_nested :
    root? nested = .ok (some nestedRoot) ∧ IsTree nested levelLimit nestedRoot ∧
      DistinctKeys nested nestedRoot ∧ SamePairs nested nestedRoot flat flatRoot ∧
      ofDocument nested = .ok [⟨"a.txt", [1]⟩, ⟨"b.txt", [2]⟩] := by
  obtain ⟨hfirst, hsecond⟩ := attachment_twoFiles nested (by simp)
  obtain ⟨flatFirst, flatSecond⟩ := attachment_twoFiles flat (by simp)
  have tree : IsTree nested levelLimit nestedRoot := isTree_of_entries entries_nested <| by
    simp only [List.forall_mem_cons, List.not_mem_nil, false_imp_iff, implies_true, and_true]
    exact ⟨⟨_, attachment_eq_ok_iff.mp hsecond⟩, ⟨_, attachment_eq_ok_iff.mp hfirst⟩⟩
  have flatTree : IsTree flat levelLimit flatRoot := isTree_of_entries entries_flat <| by
    simp only [List.forall_mem_cons, List.not_mem_nil, false_imp_iff, implies_true, and_true]
    exact ⟨⟨_, attachment_eq_ok_iff.mp flatFirst⟩, ⟨_, attachment_eq_ok_iff.mp flatSecond⟩⟩
  have distinct : DistinctKeys nested nestedRoot := distinctKeys_of_entries entries_nested (by decide)
  have flatDistinct : DistinctKeys flat flatRoot := distinctKeys_of_entries entries_flat (by decide)
  have same : SamePairs nested nestedRoot flat flatRoot := by
    intro key file
    rw [exists_holds_iff entries_nested, exists_holds_iff entries_flat]
    simp only [List.exists_mem_cons_iff, List.not_mem_nil, false_and, exists_false, or_false, hfirst, hsecond,
      flatFirst, flatSecond]
    exact or_comm
  have rooted : root? nested = .ok (some nestedRoot) := rfl
  have hfiles := (files_in_key_order rooted tree).2.2 flat flatRoot rfl flatTree distinct flatDistinct same
  exact ⟨rooted, tree, distinct, same, hfiles.symm.trans ofDocument_flat⟩

end Card.Attachments

end DocumentCard
