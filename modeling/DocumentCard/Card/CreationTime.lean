import DocumentCard.Bytes
set_option autoImplicit false

/-!
# When a card is made

A card carries the time of its making, in universal time, with year, month, day, hour, minute and
second one after another.  Times are counted in seconds from the beginning of 1970.

The calendar repeats itself every 400 years of 146,097 days.  Counted from the first of March, a leap
day is the last day of its year, so that the months before it always start on the same day of the
year.
-/

namespace DocumentCard.Card.CreationTime

/-- A day of the calendar. -/
structure Date where
  year : Nat
  month : Nat
  day : Nat
  deriving DecidableEq, Repr

/-- The date so many days after 1 March of the year 0. -/
def Date.ofMarchDays (days : Nat) : Date :=
  let ofEra := days % 146097
  let yearOfEra := (ofEra - ofEra / 1460 + ofEra / 36524 - ofEra / 146096) / 365
  let ofYear := ofEra - (365 * yearOfEra + yearOfEra / 4 - yearOfEra / 100)
  let march := (5 * ofYear + 2) / 153
  let month := if march < 10 then march + 3 else march - 9
  { year := days / 146097 * 400 + yearOfEra + (if month ≤ 2 then 1 else 0)
    month
    day := ofYear - (153 * march + 2) / 5 + 1 }

/-- The date so many days after 1 January 1970. -/
def Date.ofDays (days : Nat) : Date := .ofMarchDays (days + 719468)

example : Date.ofDays 0 = ⟨1970, 1, 1⟩ := by decide
example : Date.ofDays 11016 = ⟨2000, 2, 29⟩ := by decide
example : Date.ofDays 11017 = ⟨2000, 3, 1⟩ := by decide
example : Date.ofDays 19723 = ⟨2024, 1, 1⟩ := by decide
example : Date.ofDays 47540 = ⟨2100, 2, 28⟩ := by decide
example : Date.ofDays 47541 = ⟨2100, 3, 1⟩ := by decide

/-- Two digits. -/
def twoDigits (n : Nat) : List Char := padZeros 2 (decimal n)

/-- The time so many seconds after the beginning of 1970, as a card carries it. -/
def text (seconds : Nat) : String :=
  let date := Date.ofDays (seconds / 86400)
  let clock := seconds % 86400
  String.ofList
    ("D:".toList ++ padZeros 4 (decimal date.year) ++ twoDigits date.month ++ twoDigits date.day
      ++ twoDigits (clock / 3600) ++ twoDigits (clock / 60 % 60) ++ twoDigits (clock % 60) ++ ['Z'])

end DocumentCard.Card.CreationTime
