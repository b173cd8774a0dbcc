import DocumentCard.Card.Phrase
import Mathlib.Data.List.Nodup
set_option autoImplicit false

/-!
# Filling the places of a phrase

A phrase is a template: a text, and places with texts behind them.  Its places are filled name after name, and
each time in the whole text, so that a name in braces that stands in a value is taken for a place when its
turn comes after the value's.  That is the only thing that can go wrong.  No place comes about between a value
and the text around it, since between any two places there is a character that is in no name and is no brace
(`Template.isApart`).

Main statement: what a value becomes depends on the names that come after it, and it is printed as it is if it
holds no other name in braces (`Language.format_fills_in_turn`).
-/

namespace DocumentCard.Card

open DocumentCard.Card.Language (mark)
open Text (replaceAll occursIn)

/-! ## Templates -/

/-- What the names of places are made of. -/
def isNameChar (c : Char) : Bool := ('a' ≤ c && c ≤ 'z') || c = '_'

/-- A name that a place may have. -/
def isName (name : List Char) : Bool := name.all isNameChar

/-- A text without braces. -/
def isPlain (text : List Char) : Bool := text.all fun c => c ≠ '\x7b' && c ≠ '\x7d'

/-- A text with places in it. -/
structure Template where
  lead : List Char
  /-- the name of each place, and the text behind it -/
  places : List (List Char × List Char)
  deriving DecidableEq, Repr

namespace Template

/-- Places with their texts, filled. -/
def fillPlaces (value : List Char → List Char) : List (List Char × List Char) → List Char
  | [] => []
  | (name, behind) :: rest => value name ++ (behind ++ fillPlaces value rest)

/-- The text of a template, with a value for each name. -/
def fill (t : Template) (value : List Char → List Char) : List Char :=
  t.lead ++ fillPlaces value t.places

/-- Places have names, their texts are plain, and each text tells the places around it apart. -/
def areApart : List (List Char × List Char) → Bool
  | [] => true
  | [(name, behind)] => isName name && isPlain behind
  | (name, behind) :: rest =>
      isName name && isPlain behind && behind.any (fun c => !isNameChar c) && areApart rest

/-- The places of a template are told apart by its texts. -/
def isApart (t : Template) : Bool := isPlain t.lead && areApart t.places

/-- Reads one more character in front of what has been read: a closing brace begins a name and an opening one
ends it. -/
def readChar (c : Char) (t : Template) : Template :=
  if c = '\x7d' then ⟨[], ([], t.lead) :: t.places⟩
  else if c = '\x7b' then
    match t.places with
    | (_, behind) :: rest => ⟨[], (t.lead, behind) :: rest⟩
    | [] => t
  else ⟨c :: t.lead, t.places⟩

/-- The template of a text, read from its end. -/
def read (text : List Char) : Template := text.foldr readChar ⟨[], []⟩

/-- Every phrase is a template. -/
theorem read_text (language : Language) (phrase : Phrase) :
    (read (language.text phrase)).isApart = true ∧
      (read (language.text phrase)).fill mark = language.text phrase := by
  cases language <;> cases phrase <;>
    simp only [Language.text, Phrase.russian, Phrase.kazakh, List.flatMap_cons, List.flatMap_nil] <;>
    repeat rw [String.toList_ofList]
  all_goals decide +kernel

end Template

/-! ## Filling one name -/

section OneName

variable {name : List Char}

/-- A name in braces lies across two texts only if the second goes on with the name and closes it. -/
theorem find?_of_mark_across {front back after : List Char} (named : isName name = true)
    (across : mark name = front ++ back) (begun : front ≠ []) (left : back ≠ [])
    (leads : back <+: after) : after.find? (fun c => !isNameChar c) = some '\x7d' := by
  obtain ⟨rest, rfl⟩ := leads
  cases front with
  | nil => exact absurd rfl begun
  | cons c front =>
      have hname : name ++ ['\x7d'] = front ++ back := (List.cons.inj across).2
      obtain ⟨more, rfl, hmore⟩ : ∃ more, back = more ++ ['\x7d'] ∧ ∀ c ∈ more, isNameChar c = true := by
        rcases List.append_eq_append_iff.mp hname with ⟨more, -, hclose⟩ | ⟨more, hbegin, hback⟩
        · cases more with
          | nil => exact ⟨[], hclose.symm, nofun⟩
          | cons _ more =>
              have hnil := (List.append_eq_nil_iff.mp (List.cons.inj hclose).2.symm).2
              exact absurd hnil left
        · refine ⟨more, hback, fun c hc => List.all_eq_true.mp named c ?_⟩
          rw [hbegin]
          exact List.mem_append_right _ hc
      have hnone : more.find? (fun c => !isNameChar c) = none := by
        simpa using hmore
      rw [List.append_assoc, List.find?_append, hnone]
      rfl

/-- Two texts are filled each on its own if the second does not close a name that the first has begun. -/
theorem replaceAll_mark_append (named : isName name = true) (value before : List Char)
    {after : List Char} (closed : after.find? (fun c => !isNameChar c) ≠ some '\x7d') :
    replaceAll (mark name) value (before ++ after)
      = replaceAll (mark name) value before ++ replaceAll (mark name) value after := by
  refine Text.replaceFrom_append_of_apart value ?_ (Nat.zero_le _)
  intro front back across begun left _ leads
  exact closed (find?_of_mark_across named across begun left leads)

theorem replaceAll_mark_plain {text : List Char} (plain : isPlain text = true)
    (value after : List Char) :
    replaceAll (mark name) value (text ++ after) = text ++ replaceAll (mark name) value after := by
  refine Text.replaceAll_append_of_not_mem (fun h => ?_) _ _ _
  have := List.all_eq_true.mp plain _ h
  simp at this

/-- A place is filled if it has the name, and left as it is if it has another one. -/
theorem replaceAll_mark_mark {other : List Char} (named : isName name = true)
    (otherNamed : isName other = true) (value : List Char) :
    replaceAll (mark name) value (mark other) = if name = other then value else mark other := by
  by_cases same : name = other
  · have hfilled := Text.replaceAll_append '\x7b' (name ++ ['\x7d']) value []
    rw [List.append_nil] at hfilled
    rw [if_pos same, ← same]
    exact hfilled.trans (List.append_nil value)
  · have hfirst : Text.dropLead? (mark name) ('\x7b' :: (other ++ ['\x7d'])) = none := by
      rw [Option.eq_none_iff_forall_ne_some]
      intro rest hrest
      have hsplit : other ++ ['\x7d'] = name ++ '\x7d' :: rest := by
        have := (List.cons.inj (Text.dropLead?_eq_some_iff.mp hrest)).2
        simpa using this
      have htaken := congrArg (List.takeWhile isNameChar) hsplit
      rw [List.takeWhile_append_of_pos (List.all_eq_true.mp otherNamed),
        List.takeWhile_append_of_pos (List.all_eq_true.mp named)] at htaken
      exact same (by simpa [isNameChar] using htaken.symm)
    have hrest : '\x7b' ∉ other ++ ['\x7d'] := by
      rw [List.mem_append, not_or]
      refine ⟨fun h => ?_, by decide⟩
      have := List.all_eq_true.mp otherNamed _ h
      revert this
      decide
    have hlater := Text.replaceAll_append_of_not_mem hrest (name ++ ['\x7d']) value []
    rw [List.append_nil] at hlater
    rw [if_neg same]
    exact (Text.replaceAll_cons_of_none value hfirst).trans (congrArg _ (hlater.trans (List.append_nil _)))

end OneName

/-! ## Filling a template -/

namespace Template

theorem areApart_cons {name behind : List Char} {rest : List (List Char × List Char)}
    (apart : areApart ((name, behind) :: rest) = true) :
    isName name = true ∧ isPlain behind = true ∧ areApart rest = true := by
  cases rest with
  | nil =>
      rw [areApart, Bool.and_eq_true] at apart
      exact ⟨apart.1, apart.2, rfl⟩
  | cons next rest =>
      simp only [areApart, Bool.and_eq_true] at apart
      exact ⟨apart.1.1.1, apart.1.1.2, apart.2⟩

/-- No text of a template closes a name that stands before it. -/
theorem find?_fillPlaces {name behind : List Char} {rest : List (List Char × List Char)}
    (apart : areApart ((name, behind) :: rest) = true) (value : List Char → List Char) :
    (behind ++ fillPlaces value rest).find? (fun c => !isNameChar c) ≠ some '\x7d' := by
  obtain ⟨-, plain, -⟩ := areApart_cons apart
  have hopen : behind.find? (fun c => !isNameChar c) ≠ some '\x7d' := by
    intro h
    have := List.all_eq_true.mp plain _ (List.mem_of_find?_eq_some h)
    simp at this
  cases rest with
  | nil =>
      rw [fillPlaces, List.append_nil]
      exact hopen
  | cons next rest =>
      simp only [areApart, Bool.and_eq_true] at apart
      obtain ⟨c, hc⟩ := Option.isSome_iff_exists.mp (List.find?_isSome.mpr (List.any_eq_true.mp apart.1.2))
      rw [List.find?_append, hc]
      rw [hc] at hopen
      exact hopen

/-- To fill a name in a filled template is to fill it in the values. -/
theorem replaceAll_fillPlaces {places : List (List Char × List Char)} {name : List Char}
    (apart : areApart places = true) (named : isName name = true) (value : List Char)
    (values : List Char → List Char) :
    replaceAll (mark name) value (fillPlaces values places)
      = fillPlaces (fun other => replaceAll (mark name) value (values other)) places := by
  induction places with
  | nil => rfl
  | cons place rest ih =>
      obtain ⟨other, behind⟩ := place
      obtain ⟨-, plain, later⟩ := areApart_cons apart
      rw [fillPlaces, replaceAll_mark_append named _ _ (find?_fillPlaces apart values),
        replaceAll_mark_plain plain, ih later, fillPlaces]

theorem replaceAll_fill {t : Template} {name : List Char} (apart : t.isApart = true)
    (named : isName name = true) (value : List Char) (values : List Char → List Char) :
    replaceAll (mark name) value (t.fill values)
      = t.fill fun other => replaceAll (mark name) value (values other) := by
  rw [isApart, Bool.and_eq_true] at apart
  rw [fill, replaceAll_mark_plain apart.1, replaceAll_fillPlaces apart.2 named, fill]

end Template

/-! ## Filling one name after another -/

/-- A text with names filled, one after another. -/
def fillInTurn (values : List (List Char × List Char)) (text : List Char) : List Char :=
  values.foldl (fun text (name, value) => replaceAll (mark name) value text) text

/-- What stands in the place of a name in the end: its value, in which the names behind it have been filled
as well.  A place without a value is left as it is. -/
def filled : List (List Char × List Char) → List Char → List Char
  | [], name => mark name
  | (other, value) :: later, name => if other = name then fillInTurn later value else filled later name

/-- What is to stand in the place of a name: its value. -/
def given : List (List Char × List Char) → List Char → List Char
  | [], name => mark name
  | (other, value) :: later, name => if other = name then value else given later name

section Values

variable {values : List (List Char × List Char)}

theorem Template.fillInTurn_fill {t : Template} (apart : t.isApart = true)
    (named : ∀ e ∈ values, isName e.1 = true) (value : List Char → List Char) :
    fillInTurn values (t.fill value) = t.fill fun name => fillInTurn values (value name) := by
  induction values generalizing value with
  | nil => rfl
  | cons e later ih =>
      obtain ⟨hfirst, hlater⟩ := List.forall_mem_cons.mp named
      show fillInTurn later (replaceAll (mark e.1) e.2 (t.fill value)) = _
      rw [replaceAll_fill apart hfirst, ih hlater]
      rfl

theorem fillInTurn_mark {name : List Char} (named : ∀ e ∈ values, isName e.1 = true)
    (nameNamed : isName name = true) : fillInTurn values (mark name) = filled values name := by
  induction values with
  | nil => rfl
  | cons e later ih =>
      obtain ⟨hfirst, hlater⟩ := List.forall_mem_cons.mp named
      show fillInTurn later (replaceAll (mark e.1) e.2 (mark name)) = _
      rw [replaceAll_mark_mark hfirst nameNamed, filled]
      split
      · rfl
      · exact ih hlater

/-- Names that do not occur in a text change nothing in it. -/
theorem fillInTurn_of_not_occursIn {text : List Char}
    (none : ∀ e ∈ values, occursIn (mark e.1) text = false) : fillInTurn values text = text := by
  induction values with
  | nil => rfl
  | cons e later ih =>
      obtain ⟨hfirst, hlater⟩ := List.forall_mem_cons.mp none
      show fillInTurn later (replaceAll (mark e.1) e.2 text) = text
      rw [Text.replaceAll_of_not_occursIn e.2 hfirst]
      exact ih hlater

/-- Values in which no other name occurs are printed as they are. -/
theorem filled_eq_given (distinct : (values.map Prod.fst).Nodup)
    (clean : ∀ e ∈ values, ∀ other ∈ values, other.1 ≠ e.1 → occursIn (mark other.1) e.2 = false) :
    filled values = given values := by
  funext name
  induction values with
  | nil => rfl
  | cons e later ih =>
      obtain ⟨new, distinct⟩ := List.nodup_cons.mp distinct
      have hlater := ih distinct fun e he other hother =>
        clean e (List.mem_cons_of_mem _ he) other (List.mem_cons_of_mem _ hother)
      have hvalue : fillInTurn later e.2 = e.2 := by
        refine fillInTurn_of_not_occursIn fun other hother => ?_
        refine clean e List.mem_cons_self other (List.mem_cons_of_mem _ hother) fun same => new ?_
        exact same ▸ List.mem_map_of_mem hother
      rw [filled, given, hvalue, hlater]

theorem given_of_mem (distinct : (values.map Prod.fst).Nodup) {e : List Char × List Char}
    (mem : e ∈ values) : given values e.1 = e.2 := by
  induction values with
  | nil => cases mem
  | cons first later ih =>
      obtain ⟨new, distinct⟩ := List.nodup_cons.mp distinct
      rcases List.mem_cons.mp mem with rfl | hlater
      · exact if_pos rfl
      · have hother : first.1 ≠ e.1 := fun same => new (same ▸ List.mem_map_of_mem hlater)
        exact (if_neg hother).trans (ih distinct hlater)

theorem given_of_not_mem {name : List Char} (none : name ∉ values.map Prod.fst) :
    given values name = mark name := by
  induction values with
  | nil => rfl
  | cons first later ih =>
      rw [List.map_cons, List.mem_cons, not_or] at none
      exact (if_neg (Ne.symm none.1)).trans (ih none.2)

/-- The order in which values are given does not matter. -/
theorem given_perm {order : List (List Char × List Char)} (distinct : (values.map Prod.fst).Nodup)
    (perm : order.Perm values) : given order = given values := by
  have hnames := perm.map Prod.fst
  funext name
  by_cases hname : name ∈ values.map Prod.fst
  · obtain ⟨e, he, rfl⟩ := List.mem_map.mp hname
    rw [given_of_mem distinct he, given_of_mem (hnames.nodup_iff.mpr distinct) (perm.mem_iff.mpr he)]
  · rw [given_of_not_mem hname, given_of_not_mem fun h => hname (hnames.mem_iff.mp h)]

end Values

namespace Template

theorem fillPlaces_congr {places : List (List Char × List Char)} (apart : areApart places = true)
    {value value' : List Char → List Char} (same : ∀ name, isName name = true → value name = value' name) :
    fillPlaces value places = fillPlaces value' places := by
  induction places with
  | nil => rfl
  | cons place rest ih =>
      obtain ⟨name, behind⟩ := place
      obtain ⟨named, -, later⟩ := areApart_cons apart
      rw [fillPlaces, fillPlaces, same name named, ih later]

/-- Only what names get matters. -/
theorem fill_congr {t : Template} (apart : t.isApart = true) {value value' : List Char → List Char}
    (same : ∀ name, isName name = true → value name = value' name) : t.fill value = t.fill value' := by
  rw [isApart, Bool.and_eq_true] at apart
  rw [fill, fill, fillPlaces_congr apart.2 same]

end Template

namespace Language

/-- A phrase is a template, whose places are all that stands in braces.  A value is printed with the names
that come after it filled in it; it is printed as it is, whatever the order, if no value holds another name in
braces. -/
theorem format_fills_in_turn (language : Language) (phrase : Phrase) :
    ∃ t : Template, t.isApart = true ∧ t.fill mark = language.text phrase ∧
      ∀ values : List (List Char × List Char), (∀ e ∈ values, isName e.1 = true) →
        language.format phrase values = t.fill (filled values) ∧
        ((values.map Prod.fst).Nodup →
          (∀ e ∈ values, ∀ other ∈ values, other.1 ≠ e.1 → occursIn (mark other.1) e.2 = false) →
          ∀ order : List (List Char × List Char), order.Perm values →
            language.format phrase order = t.fill (given values)) := by
  obtain ⟨t, apart, htext⟩ : ∃ t : Template, t.isApart = true ∧ t.fill mark = language.text phrase :=
    ⟨_, Template.read_text language phrase⟩
  refine ⟨t, apart, htext, fun values named => ?_⟩
  have inTurn {order : List (List Char × List Char)} (named : ∀ e ∈ order, isName e.1 = true) :
      language.format phrase order = t.fill (filled order) := by
    have hformat : language.format phrase order = fillInTurn order (language.text phrase) := rfl
    rw [hformat, ← htext, Template.fillInTurn_fill apart named]
    exact Template.fill_congr apart fun name nameNamed => fillInTurn_mark named nameNamed
  refine ⟨inTurn named, fun distinct clean order perm => ?_⟩
  have hnames := perm.map Prod.fst
  rw [inTurn fun e he => named e (perm.mem_iff.mp he),
    filled_eq_given (hnames.nodup_iff.mpr distinct) fun e he other hother =>
      clean e (perm.mem_iff.mp he) other (perm.mem_iff.mp hother),
    given_perm distinct perm]

/-- The name and the number of an organization are printed as they are, whichever comes first. -/
theorem format_fills_in_turn_organization :
    let name := ("name".toList, "\x7bТОО\x7d".toList)
    let id := ("id".toList, "1".toList)
    Language.russian.format .organization [name, id] = "\x7bТОО\x7d, БИН 1".toList ∧
      Language.russian.format .organization [id, name] = "\x7bТОО\x7d, БИН 1".toList := by
  intro name id
  obtain ⟨t, -, -, fills⟩ := format_fills_in_turn .russian .organization
  have named : ∀ e ∈ [name, id], isName e.1 = true := by decide +kernel
  have distinct : ([name, id].map Prod.fst).Nodup := by decide +kernel
  have clean : ∀ e ∈ [name, id], ∀ other ∈ [name, id],
      other.1 ≠ e.1 → occursIn (mark other.1) e.2 = false := by decide +kernel
  have inOrder := (fills [name, id] named).2 distinct clean
  have first : Language.russian.format .organization [name, id] = "\x7bТОО\x7d, БИН 1".toList := by
    decide +kernel
  refine ⟨first, ?_⟩
  rw [inOrder [id, name] (.swap name id []), ← inOrder [name, id] (.refl _)]
  exact first

/-- A name in braces in a value is taken for a place if its turn comes later, and not if it came before. -/
theorem value_is_filled_again :
    let name := ("name".toList, "\x7bid\x7d".toList)
    let id := ("id".toList, "1".toList)
    Language.russian.format .organization [name, id] = "1, БИН 1".toList ∧
      Language.russian.format .organization [id, name] = "\x7bid\x7d, БИН 1".toList := by
  decide +kernel

end Language

end DocumentCard.Card
