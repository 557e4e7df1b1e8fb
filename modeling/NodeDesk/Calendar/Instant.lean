import NodeDesk.Calendar.Date
/-!
# Instant — a point in time

Seconds since 1970-01-01 and nanoseconds within the second.  A leap second has no number of its own: it is held as the
second before it with a full second or more of nanoseconds.  Clocks put one at the end of a minute only, but nothing
keeps an instant from holding one elsewhere.
-/
namespace NodeDesk
namespace Calendar

/-- The first second of the year -262143. -/
def firstSecond : Int := -8334601228800

/-- The last second of the year 262142. -/
def lastSecond : Int := 8210266876799

/-- A point in time of the years -262143 to 262142. -/
structure Instant where
  /-- Seconds since 1970-01-01, leap seconds not counted. -/
  seconds : Int
  /-- Nanoseconds within the second, 1000000000 and more inside a leap second. -/
  nanos : Nat
  firstSecond_le : firstSecond ≤ seconds
  le_lastSecond : seconds ≤ lastSecond
  nanos_lt : nanos < 2000000000
  deriving Repr, DecidableEq

namespace Instant

/-- Whether a leap second, if there is one, closes its minute. -/
def Regular (t : Instant) : Prop := 1000000000 ≤ t.nanos → t.seconds % 60 = 59

instance (t : Instant) : Decidable t.Regular :=
  inferInstanceAs (Decidable (1000000000 ≤ t.nanos → t.seconds % 60 = 59))

/-- The instant that is counted by these parts, if there is one.  A leap second is counted only at the end of a
minute. -/
def of? (seconds : Int) (nanos : Nat) : Option Instant :=
  if h : firstSecond ≤ seconds ∧ seconds ≤ lastSecond ∧ nanos < 2000000000 then
    let t : Instant := ⟨seconds, nanos, h.1, h.2.1, h.2.2⟩
    if t.Regular then some t else none
  else none

def epoch : Instant := ⟨0, 0, by decide, by decide, by decide⟩

def date (t : Instant) : Date := Date.ofDays (t.seconds / 86400)

/-- The seconds since the day began. -/
def secondOfDay (t : Instant) : Nat := (t.seconds % 86400).toNat

def hour (t : Instant) : Nat := t.secondOfDay / 3600

def minute (t : Instant) : Nat := t.secondOfDay / 60 % 60

/-- The second shown within the minute: inside a leap second one more than is counted, so 60 at the end of a minute. -/
def second (t : Instant) : Nat := t.secondOfDay % 60 + t.nanos / 1000000000

/-- The nanoseconds shown within the second. -/
def subsecond (t : Instant) : Nat := t.nanos % 1000000000

/-- The hour on a twelve-hour clock, where midnight and noon are 12. -/
def hour12 (t : Instant) : Nat := if t.hour % 12 = 0 then 12 else t.hour % 12

def isAfternoon (t : Instant) : Bool := 12 ≤ t.hour

/-- The minute of an instant, counted from the beginning of 1970. -/
def minutes (t : Instant) : Int := t.seconds / 60

end Instant
end Calendar
end NodeDesk
