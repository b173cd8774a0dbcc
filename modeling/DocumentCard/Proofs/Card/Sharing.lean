import DocumentCard.Proofs.Card.Depth
import Mathlib.Data.Set.Card
set_option autoImplicit false

/-!
# Pairs that are listed more than once

The places of a tree of names are ways through it, and so a pair that is stored once stands at as many places as
there are ways to the array in which it is stored.  Where an array or a node is stored (`Spot`) is followed here
beside the walk over the tree: on its own in the file if a reference leads to it, or else inside what holds it
(`exists_source`).

Main statements: a stored pair is listed once for each way to it, so no more pairs are listed than are stored
if and only if there is only one way to each of them (`pairs_listed_by_ways`); and with every level ways can
double, while one pair is stored (`files_of_knot`).
-/

namespace DocumentCard.Card.Attachments

open Pdf (Document Dict Obj ObjId)

/-! ## Where things are stored -/

/-- Where an array or a node of a tree is stored. -/
inductive Spot where
  /-- the root of the tree -/
  | root
  /-- an object of its own -/
  | object (id : ObjId)
  /-- the array of kids inside a node -/
  | kids (node : Spot)
  /-- the array of names inside a node -/
  | names (node : Spot)
  /-- a kid inside an array -/
  | kid (array : Spot) (number : Nat)
  deriving DecidableEq

/-- What is stored at a spot. -/
def Spot.object? (doc : Document) (root : Dict) : Spot → Option Obj
  | .root => some (.dict root)
  | .object id => doc.objects.get? id
  | .kids node => ((node.object? doc root).bind Obj.dict?).bind (·.get? "Kids")
  | .names node => ((node.object? doc root).bind Obj.dict?).bind (·.get? "Names")
  | .kid array number => ((array.object? doc root).bind Obj.arr?).bind (·[number]?)

/-- Where that is stored which a value stands for, if the value itself is stored `here`; so many references may
be followed. -/
def spotFrom (os : Pdf.Objects) (steps : Nat) (here : Spot) : Obj → Spot
  | .ref id =>
      match os.get? id, steps with
      | some target, left + 1 => spotFrom os left (.object id) target
      | _, _ => .object id
  | _ => here

/-- Where that is stored which a value stands for. -/
def spotOf (doc : Document) (here : Spot) (o : Obj) : Spot := spotFrom doc.objects Pdf.referenceLimit here o

/-- The node to which a way leads from a node, and where it is stored. -/
def nodeAt (doc : Document) (spot : Spot) (node : Dict) : List Nat → Option (Spot × Dict)
  | [] => some (spot, node)
  | number :: path => do
      let value ← node.get? "Kids"
      let kids ← (resolveAs Obj.arr? doc value).toOption
      let kid ← kids[number]?
      let next ← (resolveAs Obj.dict? doc kid).toOption
      let array := spotOf doc (.kids spot) value
      nodeAt doc (spotOf doc (.kid array number) kid) next path

/-- A stored pair: where its array of names is stored, and its number there. -/
structure Source where
  names : Spot
  number : Nat
  deriving DecidableEq

/-- The stored pair that stands at a place of a tree. -/
def sourceOf (doc : Document) (root : Dict) (place : Place) : Option Source := do
  let (spot, node) ← nodeAt doc .root root place.path
  let value ← node.get? "Names"
  return ⟨spotOf doc (.names spot) value, place.number⟩

/-- The entry that is stored as a pair. -/
def Stored (doc : Document) (root : Dict) (s : Source) (e : Entry) : Prop :=
  ∃ items, s.names.object? doc root = some (.arr items) ∧ PairAt doc items s.number e

/-- The places at which a stored pair stands. -/
def waysTo (doc : Document) (root : Dict) (s : Source) : Set Place :=
  {place | (∃ e, EntryAt doc root place e) ∧ sourceOf doc root place = some s}

/-- The pairs that are stored in a tree. -/
def sources (doc : Document) (root : Dict) : Set Source := {s | (waysTo doc root s).Nonempty}

section Spots

variable {doc : Document} {root : Dict}

theorem object?_spotFrom {steps : Nat} {here : Spot} {o target : Obj}
    (stored : here.object? doc root = some o) (leads : doc.objects.follow steps o = .ok target) :
    (spotFrom doc.objects steps here o).object? doc root = some target := by
  induction steps generalizing here o with
  | zero =>
      cases o with
      | ref id =>
          unfold Pdf.Objects.follow at leads
          split at leads <;> cases leads
      | _ =>
          obtain rfl := Except.ok.inj leads
          exact stored
  | succ steps ih =>
      cases o with
      | ref id =>
          unfold Pdf.Objects.follow at leads
          unfold spotFrom
          cases hget : doc.objects.get? id with
          | none => simp [hget] at leads
          | some next =>
              simp only [hget] at leads ⊢
              exact ih hget leads
      | _ =>
          obtain rfl := Except.ok.inj leads
          exact stored

/-- What is seen of a value is seen of what it stands for. -/
theorem resolve_of_resolveAs {α : Type} {view : Obj → Option α} {o : Obj} {x : α}
    (read : resolveAs view doc o = .ok x) : ∃ target, doc.resolve o = .ok target ∧ view target = some x := by
  unfold resolveAs at read
  cases hresolve : resolve doc o with
  | error fault => simp [hresolve] at read
  | ok target =>
      simp only [hresolve] at read
      refine ⟨target, of_mapError_eq_ok hresolve, ?_⟩
      cases hview : view target with
      | none => simp [hview] at read
      | some y =>
          simp only [hview] at read
          exact congrArg some (Except.ok.inj read)

theorem object?_spotOf {α : Type} {view : Obj → Option α} {here : Spot} {o : Obj} {x : α}
    (stored : here.object? doc root = some o) (read : resolveAs view doc o = .ok x) :
    ∃ target, (spotOf doc here o).object? doc root = some target ∧ view target = some x := by
  obtain ⟨target, leads, seen⟩ := resolve_of_resolveAs read
  exact ⟨target, object?_spotFrom stored leads, seen⟩

theorem eq_of_arr? {o : Obj} {items : List Obj} (h : o.arr? = some items) : o = .arr items := by
  cases o <;> cases h
  rfl

theorem eq_of_dict? {o : Obj} {d : Dict} (h : o.dict? = some d) : o = .dict d := by
  cases o <;> cases h
  rfl

/-- If there is something among the items of a node, the node has them. -/
theorem value_of_itemsOf {node : Dict} {key : String} {items : List Obj} {number : Nat} {o : Obj}
    (read : itemsOf doc node key = .ok items) (taken : items[number]? = some o) :
    ∃ value, node.get? key = some value ∧ resolveAs Obj.arr? doc value = .ok items := by
  unfold itemsOf at read
  cases hvalue : node.get? key with
  | none =>
      simp only [hvalue] at read
      obtain rfl := Except.ok.inj read
      cases taken
  | some value =>
      simp only [hvalue] at read
      exact ⟨value, rfl, read⟩

/-- The node to which a way leads is stored where the way says. -/
theorem nodeAt_of_reaches {spot : Spot} {node last : Dict} {path : List Nat}
    (stored : spot.object? doc root = some (.dict node)) (reaches : Reaches doc node path last) :
    ∃ there, nodeAt doc spot node path = some (there, last) ∧ there.object? doc root = some (.dict last) := by
  induction reaches generalizing spot with
  | here node => exact ⟨spot, rfl, stored⟩
  | @kid node next last kids number o path items taken leads _ ih =>
      obtain ⟨value, hvalue, hkids⟩ := value_of_itemsOf items taken
      have hslot : (Spot.kids spot).object? doc root = some value := by
        simp [Spot.object?, stored, Obj.dict?, hvalue]
      obtain ⟨array, harray, hseen⟩ := object?_spotOf hslot hkids
      obtain rfl := eq_of_arr? hseen
      have hkid : (Spot.kid (spotOf doc (.kids spot) value) number).object? doc root = some o := by
        simp [Spot.object?, harray, Obj.arr?, taken]
      obtain ⟨below, hbelow, hnext⟩ := object?_spotOf hkid leads
      obtain rfl := eq_of_dict? hnext
      obtain ⟨there, hthere, hlast⟩ := ih hbelow
      refine ⟨there, ?_, hlast⟩
      simp [nodeAt, hvalue, hkids, taken, leads, Except.toOption, hthere]

theorem nodeAt_root_of_reaches {last : Dict} {path : List Nat} (reaches : Reaches doc root path last) :
    ∃ there, nodeAt doc .root root path = some (there, last) ∧ there.object? doc root = some (.dict last) :=
  nodeAt_of_reaches rfl reaches

/-- Every entry of a tree is stored as some pair. -/
theorem exists_source {place : Place} {e : Entry} (entry : EntryAt doc root place e) :
    ∃ s, sourceOf doc root place = some s ∧ Stored doc root s e := by
  obtain ⟨node, items, reaches, hitems, hpair⟩ := entry
  obtain ⟨spot, hnode, hstored⟩ := nodeAt_root_of_reaches reaches
  obtain ⟨key, file, hkey, hrest⟩ := hpair
  obtain ⟨value, hvalue, hnames⟩ := value_of_itemsOf hitems hkey
  have hslot : (Spot.names spot).object? doc root = some value := by
    simp [Spot.object?, hstored, Obj.dict?, hvalue]
  obtain ⟨array, harray, hseen⟩ := object?_spotOf hslot hnames
  obtain rfl := eq_of_arr? hseen
  refine ⟨⟨spotOf doc (.names spot) value, place.number⟩, ?_, items, harray, key, file, hkey, hrest⟩
  simp [sourceOf, hnode, hvalue]

/-! ## Ways and pairs -/

theorem Reaches.unique {node last other : Dict} {path : List Nat} (first : Reaches doc node path last)
    (second : Reaches doc node path other) : last = other := by
  induction first with
  | here =>
      cases second
      rfl
  | kid items taken leads _ ih =>
      cases second with
      | kid items' taken' leads' rest =>
          obtain rfl := Except.ok.inj (items.symm.trans items')
          obtain rfl := Option.some.inj (taken.symm.trans taken')
          obtain rfl := Except.ok.inj (leads.symm.trans leads')
          exact ih rest

theorem PairAt.unique {items : List Obj} {number : Nat} {e e' : Entry} (first : PairAt doc items number e)
    (second : PairAt doc items number e') : e = e' := by
  obtain ⟨key, file, hkey, hfile, hbytes, hdescription⟩ := first
  obtain ⟨key', file', hkey', hfile', hbytes', hdescription'⟩ := second
  obtain rfl := Option.some.inj (hkey.symm.trans hkey')
  obtain rfl := Option.some.inj (hfile.symm.trans hfile')
  obtain ⟨bytes, description⟩ := e
  obtain rfl := Except.ok.inj (hbytes.symm.trans hbytes')
  obtain rfl := Except.ok.inj (hdescription.symm.trans hdescription')
  rfl

/-- At a place stands one pair. -/
theorem Holds.eq_of_place {a b : Pair} (ha : Holds doc root a) (hb : Holds doc root b)
    (same : a.place = b.place) : a = b := by
  obtain ⟨place, key, file⟩ := a
  obtain ⟨other, key', file'⟩ := b
  obtain rfl : place = other := same
  obtain ⟨description, ⟨node, items, reaches, hitems, hpair⟩, hfile⟩ := ha
  obtain ⟨description', ⟨node', items', reaches', hitems', hpair'⟩, hfile'⟩ := hb
  obtain rfl := reaches.unique reaches'
  obtain rfl := Except.ok.inj (hitems.symm.trans hitems')
  have hentry := hpair.unique hpair'
  simp only [Entry.mk.injEq] at hentry
  obtain ⟨rfl, rfl⟩ := hentry
  have hboth := (attachment_eq_ok_iff.mpr hfile).symm.trans (attachment_eq_ok_iff.mpr hfile')
  obtain rfl := Except.ok.inj hboth
  rfl

theorem Pair.before_irrefl (pair : Pair) : ¬ pair.Before pair := by
  rintro (h | ⟨-, h⟩)
  · exact List.lt_irrefl _ h
  · exact pair.place.before_irrefl h

/-- A tree whose files have been read is well formed. -/
theorem isTree_of_ofDocument {files : List Attachment} (rooted : root? doc = .ok (some root))
    (opened : ofDocument doc = .ok files) : IsTree doc levelLimit root := by
  rw [ofDocument, rooted, ok_bind] at opened
  obtain ⟨found, hfound, opened⟩ := bind_eq_ok opened
  refine isTree_of_entries hfound fun e he => ?_
  obtain ⟨file, -, hfile⟩ := of_mapM_eq_ok opened e (List.mem_mergeSort.mpr he)
  exact ⟨file, attachment_eq_ok_iff.mp hfile⟩

end Spots

/-! ## Counting -/

/-- A list has no more different members than members, and as many if and only if none is there twice. -/
theorem ncard_members {α : Type} (l : List α) :
    {x | x ∈ l}.ncard ≤ l.length ∧ (l.length ≤ {x | x ∈ l}.ncard ↔ l.Nodup) := by
  classical
  have hset : {x | x ∈ l} = (l.toFinset : Set α) := by ext x; simp
  rw [hset, Set.ncard_coe_finset, List.card_toFinset]
  refine ⟨(List.dedup_sublist l).length_le, fun h => ?_, fun h => ?_⟩
  · exact List.dedup_eq_self.mp ((List.dedup_sublist l).eq_of_length_le h)
  · exact (congrArg List.length (List.dedup_eq_self.mpr h)).ge

theorem ncard_eq_length {α : Type} {l : List α} (nodup : l.Nodup) : {x | x ∈ l}.ncard = l.length :=
  le_antisymm (ncard_members l).1 ((ncard_members l).2.mpr nodup)

section Counts

variable {doc : Document} {root : Dict} {listed : List Pair}

theorem nodup_places (stands : ∀ pair, pair ∈ listed ↔ Holds doc root pair) (nodup : listed.Nodup) :
    (listed.map Pair.place).Nodup :=
  nodup.map_on fun a ha b hb => ((stands a).mp ha).eq_of_place ((stands b).mp hb)

theorem mem_waysTo_iff (tree : IsTree doc levelLimit root)
    (stands : ∀ pair, pair ∈ listed ↔ Holds doc root pair) {s : Source} {place : Place} :
    place ∈ waysTo doc root s
      ↔ ∃ pair ∈ listed, sourceOf doc root pair.place = some s ∧ pair.place = place := by
  constructor
  · rintro ⟨⟨e, entry⟩, source⟩
    obtain ⟨file, hfile⟩ := tree.describes entry
    exact ⟨⟨place, e.key, file⟩, (stands _).mpr ⟨e.file, entry, hfile⟩, source, rfl⟩
  · rintro ⟨pair, hpair, source, rfl⟩
    obtain ⟨description, entry, -⟩ := (stands pair).mp hpair
    exact ⟨⟨_, entry⟩, source⟩

/-- A stored pair is listed as often as there are ways to it. -/
theorem length_filter_source (tree : IsTree doc levelLimit root)
    (stands : ∀ pair, pair ∈ listed ↔ Holds doc root pair) (nodup : listed.Nodup) (s : Source) :
    (listed.filter fun pair => sourceOf doc root pair.place = some s).length = (waysTo doc root s).ncard := by
  let taken := listed.filter fun pair => sourceOf doc root pair.place = some s
  have hways : waysTo doc root s = {place | place ∈ taken.map Pair.place} := by
    ext place
    rw [mem_waysTo_iff tree stands]
    simp [taken, and_assoc]
  have hnodup : (taken.map Pair.place).Nodup :=
    (List.filter_sublist.map Pair.place).nodup (nodup_places stands nodup)
  rw [hways, ncard_eq_length hnodup, List.length_map]

/-- The stored pairs are those that are listed, and they are as many only if there is one way to each. -/
theorem ncard_sources (tree : IsTree doc levelLimit root)
    (stands : ∀ pair, pair ∈ listed ↔ Holds doc root pair) (nodup : listed.Nodup) :
    (sources doc root).ncard ≤ listed.length ∧
      (listed.length ≤ (sources doc root).ncard
        ↔ ∀ s ∈ sources doc root, (waysTo doc root s).ncard = 1) := by
  let source (pair : Pair) : Option Source := sourceOf doc root pair.place
  have hsources : some '' sources doc root = {o | o ∈ listed.map source} := by
    ext o
    constructor
    · rintro ⟨s, ⟨place, hplace⟩, rfl⟩
      obtain ⟨pair, hpair, hsource, -⟩ := (mem_waysTo_iff tree stands).mp hplace
      exact List.mem_map.mpr ⟨pair, hpair, hsource⟩
    · intro ho
      obtain ⟨pair, hpair, rfl⟩ := List.mem_map.mp ho
      obtain ⟨description, entry, -⟩ := (stands pair).mp hpair
      obtain ⟨s, hsource, -⟩ := exists_source entry
      exact ⟨s, ⟨pair.place, (mem_waysTo_iff tree stands).mpr ⟨pair, hpair, hsource, rfl⟩⟩, hsource.symm⟩
  have hcount : (sources doc root).ncard = {o | o ∈ listed.map source}.ncard := by
    rw [← hsources, Set.ncard_image_of_injective _ (Option.some_injective Source)]
  obtain ⟨hle, hiff⟩ := ncard_members (listed.map source)
  rw [List.length_map] at hle hiff
  refine ⟨hcount ▸ hle, hcount ▸ hiff.trans ?_⟩
  constructor
  · -- no pair is listed twice, so two ways to one are the same
    rintro distinct s ⟨place, hplace⟩
    refine Set.ncard_eq_one.mpr ⟨place, Set.eq_singleton_iff_unique_mem.mpr ⟨hplace, fun other hother => ?_⟩⟩
    obtain ⟨a, ha, hsource, rfl⟩ := (mem_waysTo_iff tree stands).mp hplace
    obtain ⟨b, hb, hsource', rfl⟩ := (mem_waysTo_iff tree stands).mp hother
    exact congrArg Pair.place (List.inj_on_of_nodup_map distinct hb ha (hsource'.trans hsource.symm))
  · intro single
    refine nodup.map_on fun a ha b hb hsame => ?_
    obtain ⟨description, entry, -⟩ := (stands a).mp ha
    obtain ⟨s, hsource, -⟩ := exists_source entry
    have hway := (mem_waysTo_iff tree stands).mpr ⟨a, ha, hsource, rfl⟩
    have hway' := (mem_waysTo_iff tree stands).mpr ⟨b, hb, hsame.symm.trans hsource, rfl⟩
    obtain ⟨place, hplace⟩ := Set.ncard_eq_one.mp (single s ⟨a.place, hway⟩)
    rw [hplace, Set.mem_singleton_iff] at hway hway'
    exact ((stands a).mp ha).eq_of_place ((stands b).mp hb) (hway.trans hway'.symm)

end Counts

/-! ## A tree whose ways double with every level -/

/-- A node with so many forks from it on, each of which has the next one twice for its kid; below the last is a
node with the array of names in object 4. -/
def knotNode : Nat → Dict
  | 0 => [("Names", .ref ⟨4, 0⟩)]
  | more + 1 => [("Kids", .arr [.ref ⟨5 + more, 0⟩, .ref ⟨5 + more, 0⟩])]

/-- The nodes from which there are no more forks than so many. -/
def knotNodes : Nat → Pdf.Objects
  | 0 => [(⟨5, 0⟩, .dict (knotNode 0))]
  | more + 1 => (⟨5 + (more + 1), 0⟩, .dict (knotNode (more + 1))) :: knotNodes more

/-- A document with one file, and a tree of so many forks in which one pair is stored. -/
def knot (forks : Nat) : Document where
  version := "1.7"
  trailer := [("Root", .ref ⟨1, 0⟩)]
  objects :=
    [(⟨1, 0⟩, .dict [("Names", .dict [("EmbeddedFiles", .ref ⟨5 + forks, 0⟩)])]),
     (⟨2, 0⟩, .dict (description "a.txt" [] ⟨3, 0⟩)), (⟨3, 0⟩, Draft.fileObj [1]),
     (⟨4, 0⟩, .arr [.str (Bytes.ascii "0001") .literal, .ref ⟨2, 0⟩])] ++ knotNodes forks

/-- The entry of the pair. -/
def knotEntry : Entry := ⟨Bytes.ascii "0001", description "a.txt" [] ⟨3, 0⟩⟩

/-- Where the pair is stored. -/
def knotSource : Source := ⟨.object ⟨4, 0⟩, 0⟩

section Knots

variable {forks more : Nat}

theorem get?_knotNodes (h : more ≤ forks) :
    (knotNodes forks).get? ⟨5 + more, 0⟩ = some (.dict (knotNode more)) := by
  induction forks with
  | zero =>
      obtain rfl := Nat.le_zero.mp h
      rfl
  | succ forks ih =>
      rw [knotNodes, Pdf.Objects.get?_cons]
      rcases Nat.le_succ_iff.mp h with hless | rfl
      · rw [if_neg (by simp; omega), ih hless]
      · rw [if_pos rfl]

theorem length_knotNodes (forks : Nat) : (knotNodes forks).length = forks + 1 := by
  induction forks with
  | zero => rfl
  | succ forks ih => rw [knotNodes, List.length_cons, ih]

/-- A reference to a node leads to it. -/
theorem resolve_knotNode (h : more ≤ forks) :
    resolveAs Obj.dict? (knot forks) (.ref ⟨5 + more, 0⟩) = .ok (knotNode more) := by
  refine resolveAs_ref (o := .dict (knotNode more)) ?_ rfl rfl
  have hother (n : Nat) (hn : n < 5) : (⟨5 + more, 0⟩ : ObjId) ≠ ⟨n, 0⟩ := by simp; omega
  simp only [knot, List.cons_append, List.nil_append, Pdf.Objects.get?_cons]
  rw [if_neg (hother 1 (by omega)), if_neg (hother 2 (by omega)), if_neg (hother 3 (by omega)),
    if_neg (hother 4 (by omega)), get?_knotNodes h]

/-- The ways through a fork are twice those from the next one on. -/
theorem entries_knot {levels : Nat} (h : more ≤ forks) (enough : more < levels) :
    entries (knot forks) levels (knotNode more) = .ok (List.replicate (2 ^ more) knotEntry) := by
  induction more generalizing levels with
  | zero =>
      obtain ⟨levels, rfl⟩ := Nat.exists_eq_succ_of_ne_zero (Nat.ne_of_gt enough)
      rfl
  | succ more ih =>
      obtain ⟨levels, rfl⟩ := Nat.exists_eq_succ_of_ne_zero (Nat.ne_of_gt (Nat.zero_lt_of_lt enough))
      have hown : ownEntries (knot forks) (knotNode (more + 1)) = .ok [] := rfl
      have hkids : itemsOf (knot forks) (knotNode (more + 1)) "Kids"
          = .ok [.ref ⟨5 + more, 0⟩, .ref ⟨5 + more, 0⟩] := rfl
      have hkid : kidEntries (knot forks) levels (.ref ⟨5 + more, 0⟩)
          = .ok (List.replicate (2 ^ more) knotEntry) := by
        rw [kidEntries, resolve_knotNode (Nat.le_of_succ_le h), ok_bind,
          ih (Nat.le_of_succ_le h) (Nat.lt_of_succ_lt_succ enough)]
      rw [entries_succ, hown, ok_bind, hkids, ok_bind, List.mapM_cons, List.mapM_cons, hkid]
      show Except.ok
        ([] ++ [List.replicate (2 ^ more) knotEntry, List.replicate (2 ^ more) knotEntry].flatten) = _
      rw [List.nil_append, List.flatten_cons, List.flatten_singleton, ← List.replicate_add, ← Nat.two_mul,
        ← Nat.pow_succ']

theorem root?_knot (forks : Nat) : root? (knot forks) = .ok (some (knotNode forks)) := by
  have hcatalog : (knot forks).catalog
      = .ok [("Names", .dict [("EmbeddedFiles", .ref ⟨5 + forks, 0⟩)])] := rfl
  have hnames : resolveAs Obj.dict? (knot forks) (.dict [("EmbeddedFiles", .ref ⟨5 + forks, 0⟩)])
      = .ok [("EmbeddedFiles", .ref ⟨5 + forks, 0⟩)] := resolveAs_self rfl rfl
  simp [root?, hcatalog, mapError_ok, Dict.get?, hnames, resolve_knotNode (Nat.le_refl forks), Bind.bind,
    Except.bind, Pure.pure, Except.pure]

/-- The file is given once for each way to its pair. -/
theorem ofDocument_knot (few : forks < levelLimit) :
    ofDocument (knot forks) = .ok (List.replicate (2 ^ forks) ⟨"a.txt", [1]⟩) := by
  have hsorted : (List.replicate (2 ^ forks) knotEntry).mergeSort (fun a b => keyLE a.key b.key)
      = List.replicate (2 ^ forks) knotEntry :=
    List.mergeSort_of_pairwise (List.pairwise_replicate.mpr (.inr (by decide)))
  have hfile : attachment (knot forks) knotEntry.file = .ok ⟨"a.txt", [1]⟩ := attachment_description rfl
  rw [ofDocument, root?_knot, ok_bind]
  simp only
  rw [entries_knot (Nat.le_refl forks) few, ok_bind, hsorted, mapM_eq_ok_map (g := fun _ => ⟨"a.txt", [1]⟩),
    List.map_replicate]
  intro e he
  obtain rfl := List.eq_of_mem_replicate he
  exact hfile

/-- The ways of a knot lead to its nodes. -/
theorem eq_knotNode_of_reaches {node last : Dict} {path : List Nat}
    (reaches : Reaches (knot forks) node path last) (h : more ≤ forks) (start : node = knotNode more) :
    ∃ left ≤ more, last = knotNode left := by
  induction reaches generalizing more with
  | here => exact ⟨more, Nat.le_refl more, start⟩
  | @kid node next last kids number o path items taken leads rest ih =>
      subst start
      cases more with
      | zero =>
          obtain rfl := Except.ok.inj items
          cases taken
      | succ more =>
          obtain rfl := Except.ok.inj items
          obtain rfl : o = .ref ⟨5 + more, 0⟩ := by
            have hmem := List.mem_of_getElem? taken
            simpa using hmem
          have hnext := Except.ok.inj (leads.symm.trans (resolve_knotNode (Nat.le_of_succ_le h)))
          obtain ⟨left, hleft, hlast⟩ := ih (Nat.le_of_succ_le h) hnext
          exact ⟨left, Nat.le_succ_of_le hleft, hlast⟩

/-- Whatever way one takes through a knot, the pair at its end is the same. -/
theorem sourceOf_knot {place : Place} {e : Entry} (entry : EntryAt (knot forks) (knotNode forks) place e) :
    sourceOf (knot forks) (knotNode forks) place = some knotSource := by
  obtain ⟨path, number⟩ := place
  obtain ⟨last, items, reaches, hitems, key, file, hkey, hfile, -⟩ := entry
  obtain ⟨left, -, rfl⟩ := eq_knotNode_of_reaches reaches (Nat.le_refl forks) rfl
  obtain ⟨spot, hnode, -⟩ := nodeAt_root_of_reaches reaches
  cases left with
  | succ left =>
      obtain rfl := Except.ok.inj hitems
      cases hkey
  | zero =>
      obtain rfl := Except.ok.inj hitems
      have hnumber : number = 0 := by
        have := (List.getElem?_eq_some_iff.mp hfile).1
        simp only [List.length_cons, List.length_nil] at this
        omega
      subst hnumber
      simp only [sourceOf, hnode]
      rfl

/-- One pair is stored in a knot. -/
theorem sources_knot (few : forks < levelLimit) : sources (knot forks) (knotNode forks) = {knotSource} := by
  obtain ⟨listed, hlisted, stands, -⟩ := listed_of_entries (entries_knot (Nat.le_refl forks) few)
  have hsome : listed ≠ [] := by
    rintro rfl
    have hlength := congrArg List.length hlisted
    rw [List.length_replicate] at hlength
    exact absurd hlength (Nat.pow_pos (by omega)).ne'
  obtain ⟨⟨place, e⟩, hmem⟩ := List.exists_mem_of_ne_nil listed hsome
  have entry := (stands place e).mp hmem
  refine Set.eq_singleton_iff_unique_mem.mpr ⟨⟨place, ⟨e, entry⟩, sourceOf_knot entry⟩, ?_⟩
  rintro s ⟨place, ⟨e, entry⟩, source⟩
  exact Option.some.inj (source.symm.trans (sourceOf_knot entry))

/-- With every level the list can double: 32 forks, one stored pair and no more than 37 objects make 2 ^ 32
files. -/
theorem files_of_knot (few : forks < levelLimit) :
    ∃ root, root? (knot forks) = .ok (some root) ∧ (knot forks).objects.length = forks + 5 ∧
      (sources (knot forks) root).ncard = 1 ∧
      ofDocument (knot forks) = .ok (List.replicate (2 ^ forks) ⟨"a.txt", [1]⟩) := by
  refine ⟨knotNode forks, root?_knot forks, ?_, ?_, ofDocument_knot few⟩
  · simp only [knot, List.length_append, List.length_cons, List.length_nil, length_knotNodes]
    omega
  · rw [sources_knot few, Set.ncard_singleton]

end Knots

/-- The pairs of a tree of names are listed once for each way to them, not once each.

When the files of a document are read, the list of files has one member for each place at which a pair stands;
so a stored pair is there as often as ways lead to the array in which it is stored, and never left out.  There
are no more files than stored pairs if and only if each of these has one way to it, as in a tree; where nodes
are shared there can be very many (`files_of_knot`). -/
theorem pairs_listed_by_ways (doc : Document) (root : Dict) (files : List Attachment)
    (rooted : root? doc = .ok (some root)) (opened : ofDocument doc = .ok files) :
    (∃ listed : List Pair, files = listed.map Pair.file ∧ listed.Nodup ∧
      (∀ pair, pair ∈ listed ↔ Holds doc root pair) ∧
      (∀ pair ∈ listed, ∃ s ∈ sources doc root, sourceOf doc root pair.place = some s ∧
        ∃ about, Stored doc root s ⟨pair.key, about⟩ ∧ Describes doc about pair.file) ∧
      ∀ s, (listed.filter fun pair => sourceOf doc root pair.place = some s).length
        = (waysTo doc root s).ncard) ∧
    (sources doc root).ncard ≤ files.length ∧
    (files.length ≤ (sources doc root).ncard ↔ ∀ s ∈ sources doc root, (waysTo doc root s).ncard = 1) := by
  have tree := isTree_of_ofDocument rooted opened
  obtain ⟨listed, hfiles, stands, ordered⟩ := ofDocument_of_isTree rooted tree
  obtain rfl := Except.ok.inj (opened.symm.trans hfiles)
  have nodup : listed.Nodup := ordered.imp fun {a b} hbefore => by
    rintro rfl
    exact a.before_irrefl hbefore
  rw [List.length_map]
  refine ⟨⟨listed, rfl, nodup, stands, ?_, length_filter_source tree stands nodup⟩,
    ncard_sources tree stands nodup⟩
  intro pair hpair
  obtain ⟨about, entry, hfile⟩ := (stands pair).mp hpair
  obtain ⟨s, hsource, hstored⟩ := exists_source entry
  exact ⟨s, ⟨pair.place, ⟨_, entry⟩, hsource⟩, hsource, about, hstored, hfile⟩

/-- Two ways lead to the one pair under a fork, and it is listed twice. -/
theorem pairs_listed_by_ways_fork :
    ofDocument (knot 1) = .ok [⟨"a.txt", [1]⟩, ⟨"a.txt", [1]⟩] ∧
      (waysTo (knot 1) (knotNode 1) knotSource).ncard = 2 := by
  have few : 1 < levelLimit := by decide
  obtain ⟨⟨listed, hfiles, -, -, hlisted, hcount⟩, -, -⟩ :=
    pairs_listed_by_ways (knot 1) (knotNode 1) _ (root?_knot 1) (ofDocument_knot few)
  have hall : (listed.filter fun pair =>
      sourceOf (knot 1) (knotNode 1) pair.place = some knotSource) = listed := by
    refine List.filter_eq_self.mpr fun pair hpair => ?_
    obtain ⟨s, hs, hsource, -⟩ := hlisted pair hpair
    obtain rfl : s = knotSource := by rwa [sources_knot few] at hs
    exact decide_eq_true hsource
  have hlength := congrArg List.length hfiles
  rw [List.length_map, List.length_replicate] at hlength
  rw [← hcount, hall, ← hlength]
  exact ⟨ofDocument_knot few, rfl⟩

/-- One fork is enough for a file to be listed twice while one pair is stored. -/
theorem shared_pair_is_listed_twice :
    ¬ ∀ doc root files, root? doc = .ok (some root) → ofDocument doc = .ok files →
      files.length ≤ (sources doc root).ncard := by
  intro claim
  have few : 1 < levelLimit := by decide
  have hlength := claim (knot 1) (knotNode 1) _ (root?_knot 1) (ofDocument_knot few)
  rw [sources_knot few, Set.ncard_singleton, List.length_replicate] at hlength
  omega

end DocumentCard.Card.Attachments
