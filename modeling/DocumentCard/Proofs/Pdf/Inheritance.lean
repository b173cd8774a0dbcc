import DocumentCard.Pdf.PageTree
import Mathlib.Logic.ExistsUnique
set_option autoImplicit false

/-!
# What a page inherits

Above a page stands a chain of nodes, each of them named as its parent by the one below (`Document.Above`).
The chain is whatever the references of a file lead to: it may end at any node, it may break, and it may run in
a circle.  Still there is one node at most at each height (`Document.Above.unique`).

One node after the other is asked for an attribute of the page.  That this comes to an end is said of the search
told step by step (`Document.Search`).  It does not remember where it has been, and nothing but the number of
nodes that it has asked stops it where the chain does not; and yet each search ends, as `inherited` does
(`Document.search_inherited`).  At each step the nodes that it has left behind lack the attribute, and so it ends
with what the chain has to give (`Document.Search.inherits`).

Main statement: a page has the attribute of the first of 64 nodes that has it, and none if none of them has it
(`Document.attributes_are_inherited`).
-/

namespace DocumentCard.Pdf.Document

/-! ## The chain above a page -/

/-- A node that stands so many links above a page; no link above it is the page itself.  A node without a parent
ends the chain, and a parent that is no reference to a dictionary breaks it. -/
inductive Above (doc : Document) (page : ObjId) : Nat → Dict → Prop where
  | page {node : Dict} (found : doc.dictionary page = .ok node) : Above doc page 0 node
  | parent {height : Nat} {node above : Dict} {id : ObjId} (below : Above doc page height node)
      (link : node.get? "Parent" = some (.ref id)) (found : doc.dictionary id = .ok above) :
      Above doc page (height + 1) above

/-- Nothing stands above a node: it has no parent, or one that is no reference to a dictionary. -/
def IsLast (doc : Document) (node : Dict) : Prop :=
  ∀ id, node.get? "Parent" = some (.ref id) → ∃ fault, doc.dictionary id = .error fault

/-- No node that stands less than so many links above a page has an attribute. -/
def LacksBelow (doc : Document) (page : ObjId) (key : String) (height : Nat) : Prop :=
  ∀ lower node, lower < height → doc.Above page lower node → node.get? key = none

/-- The first node above a page that has an attribute stands at this height and has this value of it. -/
structure FirstHolder (doc : Document) (page : ObjId) (key : String) (height : Nat) (value : Obj) :
    Prop where
  lower : doc.LacksBelow page key height
  holds : ∃ node, doc.Above page height node ∧ node.get? key = some value

/-- What the chain above a page has to give: the value of the first node that has an attribute, if there is one
among those that may be asked. -/
def Inherits (doc : Document) (page : ObjId) (key : String) : Option Obj → Prop
  | some value => ∃ height, height < chainLimit ∧ doc.FirstHolder page key height value
  | none => doc.LacksBelow page key chainLimit

/-- The chain above a page runs in a circle: after `period` links more it is where it was. -/
structure Circle (doc : Document) (page : ObjId) (first period : Nat) : Prop where
  pos : 0 < period
  again : ∃ node, doc.Above page first node ∧ doc.Above page (first + period) node

/-- A search for an attribute, step by step.  It has followed a reference, to a node or to nothing, and `asked`
nodes have been asked before; the second number counts the nodes that have been asked when it ends. -/
inductive Search (doc : Document) (key : String) : Nat → Except Fault Dict → Nat → Option Obj → Prop where
  | gone {asked : Nat} {fault : Fault} : Search doc key asked (.error fault) asked none
  | limit {asked : Nat} {node : Dict} (reached : chainLimit ≤ asked) :
      Search doc key asked (.ok node) asked none
  | held {asked : Nat} {node : Dict} {value : Obj} (more : asked < chainLimit)
      (has : node.get? key = some value) : Search doc key asked (.ok node) (asked + 1) (some value)
  | top {asked : Nat} {node : Dict} (more : asked < chainLimit) (lacks : node.get? key = none)
      (unlinked : ∀ id, node.get? "Parent" ≠ some (.ref id)) :
      Search doc key asked (.ok node) (asked + 1) none
  | up {asked total : Nat} {node : Dict} {id : ObjId} {result : Option Obj} (more : asked < chainLimit)
      (lacks : node.get? key = none) (link : node.get? "Parent" = some (.ref id))
      (later : Search doc key (asked + 1) (doc.dictionary id) total result) :
      Search doc key asked (.ok node) total result

section Chain

variable {doc : Document} {page : ObjId} {key : String} {height : Nat} {node : Dict}

theorem eq_of_link {id other : ObjId} (link : node.get? "Parent" = some (.ref id))
    (link' : node.get? "Parent" = some (.ref other)) : id = other :=
  Obj.ref.inj (Option.some.inj (link.symm.trans link'))

theorem isLast_of_unlinked (unlinked : ∀ id, node.get? "Parent" ≠ some (.ref id)) : doc.IsLast node :=
  fun id link => absurd link (unlinked id)

theorem above_zero_iff : doc.Above page 0 node ↔ doc.dictionary page = .ok node :=
  ⟨fun | .page found => found, .page⟩

theorem Above.unique {other : Dict} (here : doc.Above page height node)
    (there : doc.Above page height other) : node = other := by
  induction here generalizing other with
  | page found =>
      cases there with
      | page found' => exact Except.ok.inj (found.symm.trans found')
  | parent below link found ih =>
      cases there with
      | parent below' link' found' =>
          obtain rfl := ih below'
          obtain rfl := eq_of_link link link'
          exact Except.ok.inj (found.symm.trans found')

/-- Above a node stands what its parent leads to. -/
theorem Above.succ_iff {above : Dict} {id : ObjId} (here : doc.Above page height node)
    (link : node.get? "Parent" = some (.ref id)) :
    doc.Above page (height + 1) above ↔ doc.dictionary id = .ok above := by
  constructor
  · intro there
    cases there with
    | parent below link' found =>
        obtain rfl := here.unique below
        obtain rfl := eq_of_link link link'
        exact found
  · exact .parent here link

theorem IsLast.not_above {above : Dict} (last : doc.IsLast node) (here : doc.Above page height node) :
    ¬ doc.Above page (height + 1) above := by
  intro there
  cases there with
  | parent below link found =>
      obtain rfl := here.unique below
      obtain ⟨fault, missing⟩ := last _ link
      cases found.symm.trans missing

/-- The chain has no gaps. -/
theorem Above.exists_lower {links : Nat} (here : doc.Above page (height + links) node) :
    ∃ lower, doc.Above page height lower := by
  induction links generalizing node with
  | zero => exact ⟨node, here⟩
  | succ links ih =>
      cases here with
      | parent below link found => exact ih below

theorem LacksBelow.succ (lower : doc.LacksBelow page key height) (here : doc.Above page height node)
    (lacks : node.get? key = none) : doc.LacksBelow page key (height + 1) := by
  intro other below hother there
  rcases Nat.lt_succ_iff_lt_or_eq.mp hother with hlower | rfl
  · exact lower other below hlower there
  · rwa [← here.unique there]

/-- Where the chain has come to its end nothing is left to ask. -/
theorem LacksBelow.of_gone (lower : doc.LacksBelow page key height)
    (gone : ∀ node, ¬ doc.Above page height node) (higher : Nat) : doc.LacksBelow page key higher := by
  intro other below _ there
  rcases Nat.lt_or_ge other height with hlower | hhigher
  · exact lower other below hlower there
  · obtain ⟨links, rfl⟩ := Nat.exists_eq_add_of_le hhigher
    obtain ⟨above, habove⟩ := there.exists_lower
    exact absurd habove (gone above)

theorem FirstHolder.not_lacksBelow {higher : Nat} {value : Obj}
    (first : doc.FirstHolder page key height value) (h : height < higher) :
    ¬ doc.LacksBelow page key higher := by
  intro lacks
  obtain ⟨holder, here, has⟩ := first.holds
  cases has.symm.trans (lacks height holder h here)

theorem FirstHolder.unique {other : Nat} {value value' : Obj}
    (first : doc.FirstHolder page key height value) (first' : doc.FirstHolder page key other value') :
    value = value' := by
  have hle : height ≤ other := Nat.le_of_not_lt fun h => first'.not_lacksBelow h first.lower
  have hge : other ≤ height := Nat.le_of_not_lt fun h => first.not_lacksBelow h first'.lower
  obtain rfl := Nat.le_antisymm hle hge
  obtain ⟨holder, here, has⟩ := first.holds
  obtain ⟨holder', here', has'⟩ := first'.holds
  obtain rfl := here.unique here'
  exact Option.some.inj (has.symm.trans has')

theorem Inherits.unique {result result' : Option Obj} (inherits : doc.Inherits page key result)
    (inherits' : doc.Inherits page key result') : result = result' := by
  cases result with
  | none =>
      cases result' with
      | none => rfl
      | some value' =>
          obtain ⟨height, within, first⟩ := inherits'
          exact absurd inherits (first.not_lacksBelow within)
  | some value =>
      obtain ⟨height, within, first⟩ := inherits
      cases result' with
      | none => exact absurd inherits' (first.not_lacksBelow within)
      | some value' =>
          obtain ⟨height', -, first'⟩ := inherits'
          exact congrArg some (first.unique first')

end Chain

/-! ## Chains that run in a circle -/

namespace Circle

variable {doc : Document} {page : ObjId} {key : String} {first period : Nat}

/-- What stands above the first node stands above it again a round later. -/
theorem around {links : Nat} {node : Dict} (circle : doc.Circle page first period)
    (there : doc.Above page (first + links) node) : doc.Above page (first + period + links) node := by
  obtain ⟨start, here, again⟩ := circle.again
  induction links generalizing node with
  | zero =>
      obtain rfl := here.unique there
      exact again
  | succ links ih =>
      cases there with
      | parent below link found => exact .parent (ih below) link found

/-- The chain does not end. -/
theorem exists_above (circle : doc.Circle page first period) (height : Nat) :
    ∃ node, doc.Above page height node := by
  have pos := circle.pos
  induction height using Nat.strongRecOn with
  | ind height ih =>
      rcases Nat.lt_or_ge height (first + period) with hlower | hhigher
      · obtain ⟨start, -, again⟩ := circle.again
        obtain ⟨links, hlinks⟩ := Nat.exists_eq_add_of_le (Nat.le_of_lt hlower)
        rw [hlinks] at again
        exact again.exists_lower
      · obtain ⟨links, rfl⟩ := Nat.exists_eq_add_of_le hhigher
        obtain ⟨node, there⟩ := ih (first + links) (by omega)
        exact ⟨node, circle.around there⟩

/-- What no node has before the circle is closed no node has at any height. -/
theorem lacksBelow (circle : doc.Circle page first period)
    (lacks : doc.LacksBelow page key (first + period)) (height : Nat) :
    doc.LacksBelow page key height := by
  have pos := circle.pos
  intro lower node _ there
  induction lower using Nat.strongRecOn generalizing node with
  | ind lower ih =>
      rcases Nat.lt_or_ge lower (first + period) with hbefore | hbehind
      · exact lacks lower node hbefore there
      · -- a round below stands a node of the chain, and it is the same one
        obtain ⟨links, rfl⟩ := Nat.exists_eq_add_of_le hbehind
        have hround : first + period + links = first + links + period := Nat.add_right_comm ..
        obtain ⟨twin, below⟩ := (hround ▸ there).exists_lower
        obtain rfl := (circle.around below).unique there
        exact ih (first + links) (by omega) twin (by omega) below

end Circle

/-! ## The search -/

section Search

variable {doc : Document} {page : ObjId} {key : String} {asked total : Nat} {current : Except Fault Dict}
variable {result : Option Obj}

/-- A search goes one way. -/
theorem Search.unique {total' : Nat} {result' : Option Obj}
    (search : Search doc key asked current total result)
    (search' : Search doc key asked current total' result') : total' = total ∧ result' = result := by
  -- the conditions of any two rules exclude each other
  induction search with
  | gone =>
      cases search' with
      | gone => exact ⟨rfl, rfl⟩
  | limit reached =>
      cases search' with
      | limit => exact ⟨rfl, rfl⟩
      | held more => omega
      | top more => omega
      | up more => omega
  | held more has =>
      cases search' with
      | limit reached => omega
      | held _ has' => exact ⟨rfl, has'.symm.trans has⟩
      | top _ lacks => cases has.symm.trans lacks
      | up _ lacks => cases has.symm.trans lacks
  | top more lacks unlinked =>
      cases search' with
      | limit reached => omega
      | held _ has => cases has.symm.trans lacks
      | top => exact ⟨rfl, rfl⟩
      | up _ _ link => exact absurd link (unlinked _)
  | up more lacks link _ ih =>
      cases search' with
      | limit reached => omega
      | held _ has => cases has.symm.trans lacks
      | top _ _ unlinked => exact absurd link (unlinked _)
      | up _ _ link' later' =>
          obtain rfl := eq_of_link link link'
          exact ih later'

theorem Search.total_le (search : Search doc key asked current total result)
    (within : asked ≤ chainLimit) : total ≤ chainLimit := by
  induction search with
  | gone => exact within
  | limit => exact within
  | held more => exact more
  | top more => exact more
  | up more _ _ _ ih => exact ih more

/-- A search that stands on the chain, above nodes that lack the attribute, ends with what the chain has to
give. -/
theorem Search.inherits (search : Search doc key asked current total result)
    (stands : ∀ node, doc.Above page asked node ↔ current = .ok node)
    (lower : doc.LacksBelow page key asked) : doc.Inherits page key result := by
  induction search with
  | gone => exact lower.of_gone (fun node here => nomatch (stands node).mp here) chainLimit
  | limit reached => exact fun other node within => lower other node (Nat.lt_of_lt_of_le within reached)
  | held more has => exact ⟨_, more, lower, _, (stands _).mpr rfl, has⟩
  | top more lacks unlinked =>
      have here := (stands _).mpr rfl
      have last : doc.IsLast _ := isLast_of_unlinked unlinked
      exact (lower.succ here lacks).of_gone (fun above => last.not_above here) chainLimit
  | up more lacks link later ih =>
      have here := (stands _).mpr rfl
      exact ih (fun above => here.succ_iff link) (lower.succ here lacks)

/-- Where the chain does not end and has nothing to give, it is the limit that ends the search. -/
theorem Search.total_eq (search : Search doc key asked current total result)
    (stands : ∀ node, doc.Above page asked node ↔ current = .ok node) (within : asked ≤ chainLimit)
    (endless : ∀ height, ∃ node, doc.Above page height node)
    (lacks : ∀ height, doc.LacksBelow page key height) : total = chainLimit := by
  induction search with
  | @gone asked fault =>
      obtain ⟨node, here⟩ := endless asked
      cases (stands node).mp here
  | limit reached => exact Nat.le_antisymm within reached
  | held more has =>
      cases has.symm.trans (lacks _ _ _ (Nat.lt_succ_self _) ((stands _).mpr rfl))
  | @top asked node more _ unlinked =>
      obtain ⟨above, there⟩ := endless (asked + 1)
      have last : doc.IsLast node := isLast_of_unlinked unlinked
      exact absurd there (last.not_above ((stands node).mpr rfl))
  | up more _ link _ ih => exact ih (fun above => ((stands _).mpr rfl).succ_iff link) more

theorem inheritedFrom_of_link {left : Nat} {node : Dict} {id : ObjId} (lacks : node.get? key = none)
    (link : node.get? "Parent" = some (.ref id)) :
    doc.inheritedFrom key (left + 1) node
      = (doc.dictionary id).toOption.bind (doc.inheritedFrom key left) := by
  simp only [inheritedFrom, lacks, parent?, link]

theorem inheritedFrom_of_unlinked {left : Nat} {node : Dict} (lacks : node.get? key = none)
    (unlinked : ∀ id, node.get? "Parent" ≠ some (.ref id)) :
    doc.inheritedFrom key (left + 1) node = none := by
  have hnone : doc.parent? node = none := by
    unfold parent?
    split
    · exact absurd ‹_› (unlinked _)
    · rfl
  simp only [inheritedFrom, lacks, hnone, Option.bind_none]

/-- A search ends, and as `inheritedFrom` does with the nodes that are left to ask. -/
theorem search_inheritedFrom (doc : Document) (key : String) {left : Nat}
    (count : asked + left = chainLimit) (current : Except Fault Dict) :
    ∃ total, Search doc key asked current total
      (current.toOption.bind (doc.inheritedFrom key left)) := by
  -- on the nodes that are left: nothing else gets less on the way, as the chain may run in a circle
  induction left generalizing asked current with
  | zero =>
      cases current with
      | error fault => exact ⟨asked, .gone⟩
      | ok node => exact ⟨asked, .limit (Nat.le_of_eq count.symm)⟩
  | succ left ih =>
      have more : asked < chainLimit := by omega
      cases current with
      | error fault => exact ⟨asked, .gone⟩
      | ok node =>
          change ∃ total, Search doc key asked (.ok node) total (doc.inheritedFrom key (left + 1) node)
          cases hvalue : node.get? key with
          | some value =>
              have hheld : doc.inheritedFrom key (left + 1) node = some value := by
                simp only [inheritedFrom, hvalue]
              exact ⟨asked + 1, hheld ▸ .held more hvalue⟩
          | none =>
              by_cases linked : ∃ id, node.get? "Parent" = some (.ref id)
              · obtain ⟨id, link⟩ := linked
                have hcount : asked + 1 + left = chainLimit := by omega
                obtain ⟨total, later⟩ := ih hcount (doc.dictionary id)
                exact ⟨total, inheritedFrom_of_link hvalue link ▸ .up more hvalue link later⟩
              · have unlinked := not_exists.mp linked
                exact ⟨asked + 1, inheritedFrom_of_unlinked hvalue unlinked ▸ .top more hvalue unlinked⟩

/-- Every search ends, and as `inherited` does. -/
theorem search_inherited (doc : Document) (page : ObjId) (key : String) :
    ∃ total, Search doc key 0 (doc.dictionary page) total (doc.inherited page key) :=
  search_inheritedFrom doc key (Nat.zero_add chainLimit) (doc.dictionary page)

theorem lacksBelow_zero (doc : Document) (page : ObjId) (key : String) : doc.LacksBelow page key 0 := nofun

theorem inherited_eq_iff : doc.inherited page key = result ↔ doc.Inherits page key result := by
  obtain ⟨total, search⟩ := search_inherited doc page key
  have inherits : doc.Inherits page key (doc.inherited page key) :=
    search.inherits (fun node => above_zero_iff) (lacksBelow_zero doc page key)
  constructor
  · rintro rfl
    exact inherits
  · exact inherits.unique

end Search

/-- A page inherits from the first node that has something to give.

An attribute of a page has a value if and only if a node that is less than 64 links above the page has it with
this value, and no node below that one has it.  It has none if and only if none of the 64 nodes has it, as where
there is no page, or where the chain ends or breaks before a node has it.  The search ends for every document, in
one way, after 64 nodes at most.  On a chain that runs in a circle without the attribute it asks all 64, and the
page has none. -/
theorem attributes_are_inherited :
    (∀ (doc : Document) page key value, doc.inherited page key = some value ↔
      ∃ height, height < 64 ∧ doc.FirstHolder page key height value) ∧
    (∀ (doc : Document) page key, doc.inherited page key = none ↔ doc.LacksBelow page key 64) ∧
    (∀ (doc : Document) page key fault, doc.dictionary page = .error fault → doc.inherited page key = none) ∧
    (∀ (doc : Document) page key height node, doc.Above page height node → doc.IsLast node →
      doc.LacksBelow page key (height + 1) → doc.inherited page key = none) ∧
    (∀ (doc : Document) page key,
      ∃! run : Nat × Option Obj, Search doc key 0 (doc.dictionary page) run.1 run.2) ∧
    (∀ (doc : Document) page key total result, Search doc key 0 (doc.dictionary page) total result →
      total ≤ 64 ∧ doc.inherited page key = result) ∧
    ∀ (doc : Document) page key first period, doc.Circle page first period →
      doc.LacksBelow page key (first + period) →
      doc.inherited page key = none ∧ Search doc key 0 (doc.dictionary page) 64 none := by
  refine ⟨fun _ _ _ _ => inherited_eq_iff, fun _ _ _ => inherited_eq_iff, ?_, ?_, ?_, ?_, ?_⟩
  · intro doc page key fault missing
    have gone : ∀ node, ¬ doc.Above page 0 node := by
      intro node here
      cases missing.symm.trans (above_zero_iff.mp here)
    exact inherited_eq_iff.mpr ((lacksBelow_zero doc page key).of_gone gone chainLimit)
  · intro doc page key height node here last lower
    exact inherited_eq_iff.mpr (lower.of_gone (fun above => last.not_above here) chainLimit)
  · intro doc page key
    obtain ⟨total, search⟩ := search_inherited doc page key
    exact ⟨(total, doc.inherited page key), search,
      fun run other => Prod.ext_iff.mpr (search.unique other)⟩
  · intro doc page key total result search
    obtain ⟨total', search'⟩ := search_inherited doc page key
    exact ⟨search.total_le (Nat.zero_le chainLimit), (search.unique search').2⟩
  · intro doc page key first period circle lower
    have lacks := circle.lacksBelow lower
    have hnone : doc.inherited page key = none := inherited_eq_iff.mpr (lacks chainLimit)
    obtain ⟨total, search⟩ := search_inherited doc page key
    have htotal : total = chainLimit :=
      search.total_eq (fun node => above_zero_iff) (Nat.zero_le chainLimit) circle.exists_above lacks
    rw [htotal, hnone] at search
    exact ⟨hnone, search⟩

/-- A page whose parent is a node of a circle. -/
def circledPage : Dict := [("Type", .name "Page"), ("Parent", .ref ⟨2, 0⟩)]

/-- The first node of the circle. -/
def circledPages : Dict :=
  [("Type", .name "Pages"), ("Parent", .ref ⟨3, 0⟩), ("Kids", .arr [.ref ⟨4, 0⟩, .ref ⟨5, 0⟩])]

/-- A box for pages. -/
def circledBox : Obj := .arr [.int 0, .int 0, .int 200, .int 100]

/-- The second node of the circle, with the box. -/
def circledTop : Dict := [("Type", .name "Pages"), ("Parent", .ref ⟨2, 0⟩), ("MediaBox", circledBox)]

/-- A page whose parent is not there. -/
def strayPage : Dict := [("Type", .name "Page"), ("Parent", .ref ⟨6, 0⟩)]

/-- A document with the circle and both pages. -/
def circling : Document where
  version := "1.7"
  trailer := [("Root", .ref ⟨1, 0⟩)]
  objects :=
    [(⟨1, 0⟩, .dict [("Type", .name "Catalog"), ("Pages", .ref ⟨2, 0⟩)]), (⟨2, 0⟩, .dict circledPages),
      (⟨3, 0⟩, .dict circledTop), (⟨4, 0⟩, .dict circledPage), (⟨5, 0⟩, .dict strayPage)]

/-- The page below the circle has the box of its second node, and a search for what neither node has goes round
up to the limit.  The stray page has no box, and no more has a page that is missing itself. -/
theorem attributes_are_inherited_in_circle :
    circling.FirstHolder ⟨4, 0⟩ "MediaBox" 2 circledBox ∧
      circling.inherited ⟨4, 0⟩ "MediaBox" = some circledBox ∧
      circling.Circle ⟨4, 0⟩ 1 2 ∧ circling.LacksBelow ⟨4, 0⟩ "Resources" 3 ∧
      circling.inherited ⟨4, 0⟩ "Resources" = none ∧
      Search circling "Resources" 0 (circling.dictionary ⟨4, 0⟩) 64 none ∧
      circling.Above ⟨5, 0⟩ 0 strayPage ∧ circling.IsLast strayPage ∧
      circling.inherited ⟨5, 0⟩ "MediaBox" = none ∧
      circling.dictionary ⟨6, 0⟩ = .error .objectMissing ∧
      circling.inherited ⟨6, 0⟩ "MediaBox" = none := by
  have page : circling.Above ⟨4, 0⟩ 0 circledPage := .page rfl
  have pages : circling.Above ⟨4, 0⟩ 1 circledPages := page.parent rfl rfl
  have top : circling.Above ⟨4, 0⟩ 2 circledTop := pages.parent rfl rfl
  have circle : circling.Circle ⟨4, 0⟩ 1 2 := ⟨Nat.two_pos, circledPages, pages, top.parent rfl rfl⟩
  have holder : circling.FirstHolder ⟨4, 0⟩ "MediaBox" 2 circledBox :=
    ⟨((lacksBelow_zero circling ⟨4, 0⟩ "MediaBox").succ page rfl).succ pages rfl, circledTop, top, rfl⟩
  have lacks : circling.LacksBelow ⟨4, 0⟩ "Resources" 3 :=
    (((lacksBelow_zero circling ⟨4, 0⟩ "Resources").succ page rfl).succ pages rfl).succ top rfl
  have stray : circling.Above ⟨5, 0⟩ 0 strayPage := .page rfl
  have missing : circling.dictionary ⟨6, 0⟩ = .error .objectMissing := rfl
  have last : circling.IsLast strayPage := by
    intro id link
    obtain rfl : (⟨6, 0⟩ : ObjId) = id := eq_of_link rfl link
    exact ⟨_, missing⟩
  obtain ⟨given, -, absent, ended, -, -, round⟩ := attributes_are_inherited
  obtain ⟨hnone, search⟩ := round circling ⟨4, 0⟩ "Resources" 1 2 circle lacks
  refine ⟨holder, (given circling ⟨4, 0⟩ "MediaBox" circledBox).mpr ⟨2, by decide, holder⟩, circle, lacks,
    hnone, search, stray, last, ?_, missing, absent circling ⟨6, 0⟩ "MediaBox" _ missing⟩
  exact ended circling ⟨5, 0⟩ "MediaBox" 0 strayPage stray last
    ((lacksBelow_zero circling ⟨5, 0⟩ "MediaBox").succ stray rfl)

end DocumentCard.Pdf.Document
