/-
Instants.

An instant is a whole second since the start of 1970 in universal time and a number
of nanoseconds after it.  A leap second has no number of its own: it is the second
before it with a thousand million nanoseconds more.
-/
import Cashbook.Instant.Calendar

namespace Cashbook

/-- A point in time: seconds since the start of 1970, and nanoseconds. -/
structure Instant where
  seconds : Int
  nanos : Nat
deriving DecidableEq

namespace Instant

/-- The instant so many milliseconds after the start of 1970. -/
def ofMillis (ms : Int) : Instant :=
  ⟨ms / 1000, (ms % 1000).toNat * 1000000⟩

/-- Whole milliseconds since the start of 1970. -/
def toMillis (t : Instant) : Int :=
  t.seconds * 1000 + t.nanos / 1000000

/-- Instants are ordered by seconds, then by nanoseconds. -/
instance : Ord Instant := ⟨compareLex (compareOn seconds) (compareOn nanos)⟩

instance : Std.TransOrd Instant :=
  inferInstanceAs (Std.TransCmp (compareLex (compareOn seconds) (compareOn nanos)))

instance : LE Instant := ⟨fun a b => (compare a b).isLE = true⟩

instance : LT Instant := ⟨fun a b => compare a b = .lt⟩

instance (a b : Instant) : Decidable (a ≤ b) := inferInstanceAs (Decidable (_ = true))

instance (a b : Instant) : Decidable (a < b) := inferInstanceAs (Decidable (_ = Ordering.lt))

/-- The first and the last year of the calendar in use. -/
def firstYear : Int := -262143

/-- The last year of the calendar in use. -/
def lastYear : Int := 262142

/-- The day of an instant. -/
def date (t : Instant) : Date :=
  Date.ofDays (t.seconds / 86400)

/-- Whether the calendar in use reaches the instant. -/
def InCalendar (t : Instant) : Prop :=
  firstYear ≤ t.date.year ∧ t.date.year ≤ lastYear

instance (t : Instant) : Decidable t.InCalendar := inferInstanceAs (Decidable (_ ∧ _))

theorem toMillis_ofMillis (ms : Int) : (ofMillis ms).toMillis = ms := by
  simp only [toMillis, ofMillis]
  omega

end Instant

end Cashbook
