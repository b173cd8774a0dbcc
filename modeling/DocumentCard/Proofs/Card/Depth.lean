import DocumentCard.Proofs.Card.NameTree
import DocumentCard.Proofs.Card.Refusal
set_option autoImplicit false

/-!
# Trees of names that are too deep

What is called a tree of names may be any graph: its nodes are reached by references, and a reference may lead
back to where it was met.  The walk over it does not remember where it has been.  It only counts how deep it is,
and refuses to go deeper than a tree may be.

That this is enough is said here of the walk told step by step (`Walk`): its rules have no bound but that test,
and yet it always comes to an end, the end that `entries` gives (`walk_iff`).

Main statement: every document with a chain of nodes that is too long is refused, whatever else the walk meets,
and a document is refused for its depth only if it has such a chain (`deep_trees_are_refused`).
-/

namespace DocumentCard.Card.Attachments

open Pdf (Document Dict Obj)

/-! ## The walk over a tree -/

/-- The pairs of a node itself. -/
def ownEntries (doc : Document) (node : Dict) : Except Fault (List Entry) := do
  pairs doc (← itemsOf doc node "Names")

mutual

/-- What a walk over a node at some depth ends with, the root being at depth zero: it tests the depth, takes the
pairs of the node, and goes on to the nodes below it. -/
inductive Walk (doc : Document) : Nat → Dict → Except Fault (List Entry) → Prop where
  | tooDeep {depth : Nat} {node : Dict} (deep : levelLimit ≤ depth) :
      Walk doc depth node (.error Attachments.tooDeep)
  | badNames {depth : Nat} {node : Dict} {fault : Fault} (shallow : depth < levelLimit)
      (names : ownEntries doc node = .error fault) : Walk doc depth node (.error fault)
  | badKids {depth : Nat} {node : Dict} {own : List Entry} {fault : Fault} (shallow : depth < levelLimit)
      (names : ownEntries doc node = .ok own) (items : itemsOf doc node "Kids" = .error fault) :
      Walk doc depth node (.error fault)
  | descend {depth : Nat} {node : Dict} {own : List Entry} {kids : List Obj}
      {result : Except Fault (List Entry)} (shallow : depth < levelLimit)
      (names : ownEntries doc node = .ok own) (items : itemsOf doc node "Kids" = .ok kids)
      (walk : WalkKids doc (depth + 1) kids result) : Walk doc depth node (result.map (own ++ ·))

/-- What a walk over the nodes that kids lead to ends with, one node after another: the first failure ends
it. -/
inductive WalkKids (doc : Document) : Nat → List Obj → Except Fault (List Entry) → Prop where
  | done {depth : Nat} : WalkKids doc depth [] (.ok [])
  | badKid {depth : Nat} {kid : Obj} {rest : List Obj} {fault : Fault}
      (leads : resolveAs Obj.dict? doc kid = .error fault) : WalkKids doc depth (kid :: rest) (.error fault)
  | fails {depth : Nat} {kid : Obj} {rest : List Obj} {next : Dict} {fault : Fault}
      (leads : resolveAs Obj.dict? doc kid = .ok next) (walk : Walk doc depth next (.error fault)) :
      WalkKids doc depth (kid :: rest) (.error fault)
  | next {depth : Nat} {kid : Obj} {rest : List Obj} {next : Dict} {found : List Entry}
      {result : Except Fault (List Entry)} (leads : resolveAs Obj.dict? doc kid = .ok next)
      (walk : Walk doc depth next (.ok found)) (later : WalkKids doc depth rest result) :
      WalkKids doc depth (kid :: rest) (result.map (found ++ ·))

end

section Walks

variable {doc : Document}

/-- The entries of the node that a kid leads to, with so many levels. -/
def kidEntries (doc : Document) (levels : Nat) (kid : Obj) : Except Fault (List Entry) := do
  entries doc levels (← resolveAs Obj.dict? doc kid)

/-- The entries of a node, with those of its kids taken apart. -/
theorem entries_succ (doc : Document) (levels : Nat) (node : Dict) :
    entries doc (levels + 1) node = (do
      let own ← ownEntries doc node
      let kids ← itemsOf doc node "Kids"
      ((kids.mapM (kidEntries doc levels)).map List.flatten).map (own ++ ·)) := by
  rw [entries, ownEntries, bind_assoc]
  refine bind_congr fun items => bind_congr fun own => bind_congr fun kids => ?_
  change (kids.mapM (kidEntries doc levels) >>= _) = _
  cases kids.mapM (kidEntries doc levels) <;> rfl

/-- Walks over kids end if those over single nodes do. -/
theorem walkKids_of_walk {depth levels : Nat}
    (walk : ∀ node, Walk doc depth node (entries doc levels node)) (kids : List Obj) :
    WalkKids doc depth kids ((kids.mapM (kidEntries doc levels)).map List.flatten) := by
  induction kids with
  | nil => exact .done
  | cons kid rest ih =>
      rw [List.mapM_cons]
      cases hkid : resolveAs Obj.dict? doc kid with
      | error fault =>
          have hfirst : kidEntries doc levels kid = .error fault := by rw [kidEntries, hkid]; rfl
          rw [hfirst]
          exact .badKid hkid
      | ok next =>
          have hnext := walk next
          have hfirst : kidEntries doc levels kid = entries doc levels next := by rw [kidEntries, hkid]; rfl
          rw [hfirst]
          cases hentries : entries doc levels next with
          | error fault =>
              rw [hentries] at hnext
              exact .fails hkid hnext
          | ok found =>
              rw [hentries] at hnext
              have hboth := WalkKids.next hkid hnext ih
              cases hrest : rest.mapM (kidEntries doc levels) with
              | error fault =>
                  rw [hrest] at hboth
                  exact hboth
              | ok below =>
                  rw [hrest] at hboth
                  exact hboth

theorem levels_of_shallow {depth : Nat} (shallow : depth < levelLimit) :
    levelLimit - depth = levelLimit - (depth + 1) + 1 := by omega

/-- Every walk ends. -/
theorem exists_walk (doc : Document) (depth : Nat) (node : Dict) :
    Walk doc depth node (entries doc (levelLimit - depth) node) := by
  -- on the levels that are left: there is one less for each node below this one
  induction hlevels : levelLimit - depth generalizing depth node with
  | zero => exact .tooDeep (Nat.sub_eq_zero_iff_le.mp hlevels)
  | succ levels ih =>
      have shallow : depth < levelLimit := by omega
      rw [entries_succ]
      cases hown : ownEntries doc node with
      | error fault => exact .badNames shallow hown
      | ok own =>
          cases hkids : itemsOf doc node "Kids" with
          | error fault => exact .badKids shallow hown hkids
          | ok kids =>
              have hbelow := walkKids_of_walk (fun next => ih (depth + 1) next (by omega)) kids
              exact .descend shallow hown hkids hbelow

mutual

/-- A walk ends with the entries of the node. -/
theorem Walk.eq_entries {depth : Nat} {node : Dict} {result : Except Fault (List Entry)} :
    Walk doc depth node result → result = entries doc (levelLimit - depth) node
  | .tooDeep deep => by rw [Nat.sub_eq_zero_of_le deep]; rfl
  | .badNames shallow names => by
      rw [levels_of_shallow shallow, entries_succ, names]
      rfl
  | .badKids shallow names items => by
      rw [levels_of_shallow shallow, entries_succ, names, ok_bind, items]
      rfl
  | .descend shallow names items walk => by
      rw [levels_of_shallow shallow, entries_succ, names, ok_bind, items, ok_bind, walk.eq_entries]

theorem WalkKids.eq_entries {depth : Nat} {kids : List Obj} {result : Except Fault (List Entry)} :
    WalkKids doc depth kids result →
      result = (kids.mapM (kidEntries doc (levelLimit - depth))).map List.flatten
  | .done => rfl
  | .badKid leads => by
      rw [List.mapM_cons, kidEntries, leads]
      rfl
  | .fails leads walk => by
      rw [List.mapM_cons, kidEntries, leads, ok_bind, ← walk.eq_entries]
      rfl
  | .next leads walk later => by
      rw [List.mapM_cons, kidEntries, leads, ok_bind, ← walk.eq_entries, ok_bind, later.eq_entries]
      cases List.mapM (kidEntries doc _) _ <;> rfl

end

/-- A walk ends, and with the entries of the node. -/
theorem walk_iff {depth : Nat} {node : Dict} {result : Except Fault (List Entry)} :
    Walk doc depth node result ↔ entries doc (levelLimit - depth) node = result := by
  constructor
  · exact fun walk => walk.eq_entries.symm
  · rintro rfl
    exact exists_walk doc depth node

/-! ## Chains of nodes -/

theorem Reaches.append {first next last : Dict} {path rest : List Nat} (here : Reaches doc first path next)
    (there : Reaches doc next rest last) : Reaches doc first (path ++ rest) last := by
  induction here with
  | here => exact there
  | kid items taken leads _ ih => exact .kid items taken leads (ih there)

/-- Where a node leads back to itself, chains go round as often as one likes. -/
theorem Reaches.around {node : Dict} {back : List Nat} (cycle : Reaches doc node back node) (rounds : Nat) :
    Reaches doc node (List.replicate rounds back).flatten node := by
  induction rounds with
  | zero => exact .here node
  | succ rounds ih => exact cycle.append ih

theorem le_length_around {back : List Nat} (moves : back ≠ []) (rounds : Nat) :
    rounds ≤ (List.replicate rounds back).flatten.length := by
  rw [List.length_flatten, List.map_replicate, List.sum_replicate_nat]
  exact Nat.le_mul_of_pos_right rounds (List.length_pos_iff.mpr moves)

/-- In a tree that has been read no chain has more nodes than there were levels. -/
theorem length_lt_of_entries {levels : Nat} {node last : Dict} {found : List Entry} {path : List Nat}
    (read : entries doc levels node = .ok found) (reaches : Reaches doc node path last) :
    path.length < levels := by
  induction levels generalizing node found path with
  | zero => cases read
  | succ levels ih =>
      cases reaches with
      | here => exact Nat.zero_lt_succ levels
      | kid items taken leads rest =>
          rw [entries_succ] at read
          obtain ⟨own, -, read⟩ := bind_eq_ok read
          obtain ⟨kids, hkids, read⟩ := bind_eq_ok read
          obtain rfl := Except.ok.inj (hkids.symm.trans items)
          cases hbelow : kids.mapM (kidEntries doc levels) with
          | error fault =>
              rw [hbelow] at read
              cases read
          | ok below =>
              obtain ⟨part, -, hpart⟩ := of_mapM_eq_ok hbelow _ (List.mem_of_getElem? taken)
              obtain ⟨next, hnext, hpart⟩ := bind_eq_ok hpart
              obtain rfl := Except.ok.inj (leads.symm.trans hnext)
              exact Nat.succ_lt_succ (ih hpart rest)

/-! ## What is blamed on the depth -/

/-- The fault is another one than that a tree is too deep. -/
def IsOther (fault : Fault) : Prop := fault ≠ tooDeep

theorem isOther_pdf (cause : Pdf.Fault) : IsOther (.pdf cause) := nofun

theorem isOther_oddPairs : IsOther oddPairs := by
  unfold IsOther
  decide

theorem isOther_noStream (name : String) : IsOther (noStream name) := by
  intro same
  have hstart := congrArg (fun text => text.toList.head?) (Fault.malformed.inj same)
  simp at hstart

/-- What fails only for other reasons does not find a tree too deep. -/
theorem ne_tooDeep {α : Type} {step : Except Fault α} (others : FailsOnly IsOther step) :
    step ≠ .error tooDeep := fun failed => others tooDeep failed rfl

theorem failsOnly_ownEntries (doc : Document) (node : Dict) :
    FailsOnly IsOther (ownEntries doc node) :=
  (failsOnly_itemsOf isOther_pdf doc node "Names").bind
    fun items => failsOnly_pairs isOther_pdf isOther_oddPairs doc items

/-- A walk that finds a tree too deep has gone down as many levels as there were. -/
theorem exists_reaches_of_tooDeep {levels : Nat} {node : Dict}
    (failed : entries doc levels node = .error tooDeep) :
    ∃ path last, Reaches doc node path last ∧ path.length = levels := by
  induction levels generalizing node with
  | zero => exact ⟨[], node, .here node, rfl⟩
  | succ levels ih =>
      rw [entries_succ] at failed
      obtain hown | ⟨own, -, failed⟩ := bind_eq_error failed
      · exact absurd hown (ne_tooDeep (failsOnly_ownEntries doc node))
      obtain hkids | ⟨kids, hkids, failed⟩ := bind_eq_error failed
      · exact absurd hkids (ne_tooDeep (failsOnly_itemsOf isOther_pdf doc node "Kids"))
      cases hbelow : kids.mapM (kidEntries doc levels) with
      | ok below =>
          rw [hbelow] at failed
          cases failed
      | error fault =>
          rw [hbelow] at failed
          obtain rfl := Except.error.inj failed
          obtain ⟨kid, hkid, hentries⟩ := exists_of_mapM_eq_error hbelow
          obtain hleads | ⟨next, leads, hnext⟩ := bind_eq_error hentries
          · exact absurd hleads (ne_tooDeep (failsOnly_resolveAs isOther_pdf Obj.dict? doc kid))
          obtain ⟨number, taken⟩ := List.getElem?_of_mem hkid
          obtain ⟨path, last, rest, hlength⟩ := ih hnext
          exact ⟨number :: path, last, .kid hkids taken leads rest, congrArg Nat.succ hlength⟩

/-- Some chain of kids, from the root on, has more nodes than a tree may have levels. -/
def IsTooDeep (doc : Document) : Prop :=
  ∃ root path last, root? doc = .ok (some root) ∧ Reaches doc root path last ∧ levelLimit < path.length + 1

theorem tooDeep_of_ofDocument (failed : ofDocument doc = .error tooDeep) : IsTooDeep doc := by
  obtain hroot | ⟨root, rooted, failed⟩ := bind_eq_error failed
  · exact absurd hroot (ne_tooDeep (failsOnly_root? isOther_pdf doc))
  cases root with
  | none => cases failed
  | some root =>
      obtain hentries | ⟨found, -, failed⟩ := bind_eq_error failed
      · obtain ⟨path, last, reaches, hlength⟩ := exists_reaches_of_tooDeep hentries
        exact ⟨root, path, last, rooted, reaches, by omega⟩
      · obtain ⟨e, -, hfile⟩ := exists_of_mapM_eq_error failed
        exact absurd hfile (ne_tooDeep (failsOnly_attachment isOther_pdf isOther_noStream doc e.file))

/-- The files of a document are not read if the walk over its tree fails. -/
theorem ofDocument_of_walk {root : Dict} {fault : Fault} (rooted : root? doc = .ok (some root))
    (walk : Walk doc 0 root (.error fault)) : ofDocument doc = .error fault := by
  have hentries : entries doc levelLimit root = .error fault := walk_iff.mp walk
  rw [ofDocument, rooted, ok_bind]
  simp only
  rw [hentries]
  rfl

end Walks

/-- A tree that is too deep is refused, and so is one that is none because its nodes lead round in a circle.

The walk over a tree ends for every document, with one result, and with its failure reading fails.  If a chain
of nodes, each a kid of the one before, has more than 33 of them, the files are not read: whatever is wrong
elsewhere, no list of files is given.  That the tree is too deep is said only if there is such a chain. -/
theorem deep_trees_are_refused :
    (∀ doc depth node, ∃! result, Walk doc depth node result) ∧
    (∀ doc root fault, root? doc = .ok (some root) → Walk doc 0 root (.error fault) →
      ofDocument doc = .error fault) ∧
    (∀ doc, IsTooDeep doc → ∃ fault, ofDocument doc = .error fault) ∧
    (∀ doc root path node back, root? doc = .ok (some root) → Reaches doc root path node →
      Reaches doc node back node → back ≠ [] → IsTooDeep doc) ∧
    (∀ doc, ofDocument doc = .error tooDeep → IsTooDeep doc) ∧
    ∀ file, (∀ doc, Pdf.load file = .ok doc → ofFile file = ofDocument doc) ∧
      (ofFile file = .error tooDeep → ∃ doc, Pdf.load file = .ok doc ∧ IsTooDeep doc) := by
  refine ⟨?_, fun _ _ _ => ofDocument_of_walk, ?_, ?_, fun _ => tooDeep_of_ofDocument, fun file => ⟨?_, ?_⟩⟩
  · exact fun doc depth node => ⟨_, exists_walk doc depth node, fun result walk => walk.eq_entries⟩
  · rintro doc ⟨root, path, last, rooted, reaches, long⟩
    cases hentries : entries doc levelLimit root with
    | ok found =>
        have hlength := length_lt_of_entries hentries reaches
        omega
    | error fault => exact ⟨fault, ofDocument_of_walk rooted (walk_iff.mpr hentries)⟩
  · intro doc root path node back rooted reaches cycle moves
    refine ⟨root, _, node, rooted, reaches.append (cycle.around levelLimit), ?_⟩
    have hrounds := le_length_around moves levelLimit
    rw [List.length_append]
    omega
  · intro doc hload
    rw [ofFile, hload, mapError_ok, ok_bind]
  · intro failed
    obtain hload | ⟨doc, hload, failed⟩ := bind_eq_error failed
    · exact absurd hload (ne_tooDeep (failsOnly_mapError isOther_pdf (Pdf.load file)))
    · exact ⟨doc, of_mapError_eq_ok hload, tooDeep_of_ofDocument failed⟩

/-- A node that is its own kid. -/
def loopedRoot : Dict := [("Kids", .arr [.ref ⟨2, 0⟩])]

/-- A document whose tree has no other node. -/
def looped : Document where
  version := "1.7"
  trailer := [("Root", .ref ⟨1, 0⟩)]
  objects :=
    [(⟨1, 0⟩, .dict [("Names", .dict [("EmbeddedFiles", .ref ⟨2, 0⟩)])]), (⟨2, 0⟩, .dict loopedRoot)]

/-- However many levels there may be, the walk runs out of them. -/
theorem entries_looped (levels : Nat) : entries looped levels loopedRoot = .error tooDeep := by
  induction levels with
  | zero => rfl
  | succ levels ih =>
      have hown : ownEntries looped loopedRoot = .ok [] := rfl
      have hkids : itemsOf looped loopedRoot "Kids" = .ok [.ref ⟨2, 0⟩] := rfl
      have hkid : kidEntries looped levels (.ref ⟨2, 0⟩) = .error tooDeep := ih
      rw [entries_succ, hown, ok_bind, hkids, ok_bind, List.mapM_cons, hkid]
      rfl

/-- The files of that document are refused, and its depth is blamed. -/
theorem deep_trees_are_refused_looped :
    (∃ fault, ofDocument looped = .error fault) ∧ ofDocument looped = .error tooDeep ∧
      ∃ result, Walk looped 0 loopedRoot result := by
  have rooted : root? looped = .ok (some loopedRoot) := rfl
  have cycle : Reaches looped loopedRoot [0] loopedRoot := .kid rfl rfl rfl (.here loopedRoot)
  obtain ⟨ends, failed, refused, circle, -⟩ := deep_trees_are_refused
  have deep := circle looped loopedRoot [] loopedRoot [0] rooted (.here loopedRoot) cycle
    (List.cons_ne_nil 0 [])
  have walk : Walk looped 0 loopedRoot (.error tooDeep) := walk_iff.mpr (entries_looped levelLimit)
  exact ⟨refused looped deep, failed looped loopedRoot tooDeep rooted walk, (ends looped 0 loopedRoot).exists⟩

end DocumentCard.Card.Attachments
