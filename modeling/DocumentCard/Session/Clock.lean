set_option autoImplicit false

/-!
# Moving a clock

Times are milliseconds from a fixed point.  A clock may be set back; it is moved on by whole spans of
time, and a span beyond what a clock can be moved by at once does not move it.
-/

namespace DocumentCard.Session.Clock

/-- The longest time in milliseconds by which a clock is moved on at once. -/
def longestSpan : Nat := 0x7FFFFFFFFFFFFFFF

/-- The time after a clock has been moved on by so many milliseconds. -/
def advance (now : Int) (span : Nat) : Int := if span ≤ longestSpan then now + span else now

end DocumentCard.Session.Clock
