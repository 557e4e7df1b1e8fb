/-!
# Date — days of the proleptic Gregorian calendar

A date and its number of days since 1970-01-01, each computed from the other.  Years are counted from the first of
March, so that the leap day closes the year: four centuries have 146097 days, a century 36524, four years 1461, a year
365, and the last of each group is one day longer, which is why the quotients are capped.
-/
namespace NodeDesk
namespace Calendar

/-- A day by year, month (1 to 12) and day of the month (from 1). -/
structure Date where
  year : Int
  month : Nat
  day : Nat
  deriving Repr, DecidableEq

/-- Every fourth year has a leap day, but of the centuries only every fourth. -/
def isLeapYear (y : Int) : Bool := y % 4 == 0 && (y % 100 != 0 || y % 400 == 0)

/-- The length of a month. -/
def daysInMonth (y : Int) (m : Nat) : Nat :=
  if m = 2 then if isLeapYear y then 29 else 28
  else if m = 4 ∨ m = 6 ∨ m = 9 ∨ m = 11 then 30
  else 31

namespace Date

def Valid (d : Date) : Prop := 1 ≤ d.month ∧ d.month ≤ 12 ∧ 1 ≤ d.day ∧ d.day ≤ daysInMonth d.year d.month

instance (d : Date) : Decidable d.Valid := by unfold Valid; infer_instance

/-- Days from 0000-03-01 to 1970-01-01. -/
def epochShift : Int := 719468

/-- The number of days since 1970-01-01, negative before it. -/
def toDays (d : Date) : Int :=
  let y := if d.month ≤ 2 then d.year - 1 else d.year
  let m := if d.month ≤ 2 then d.month + 9 else d.month - 3
  let dayOfYear : Int := (153 * m + 2) / 5 + d.day - 1
  365 * y + y / 4 - y / 100 + y / 400 + dayOfYear - epochShift

/-- The day that lies `n` days after 1970-01-01. -/
def ofDays (n : Int) : Date :=
  let z := n + epochShift
  let era := z / 146097
  let r := z % 146097
  let century := min (r / 36524) 3
  let r := r - 36524 * century
  let quad := r / 1461
  let r := r % 1461
  let single := min (r / 365) 3
  let dayOfYear := (r - 365 * single).toNat
  let y := 400 * era + 100 * century + 4 * quad + single
  let m := (5 * dayOfYear + 2) / 153
  let day := dayOfYear - (153 * m + 2) / 5 + 1
  if m < 10 then ⟨y, m + 3, day⟩ else ⟨y + 1, m - 9, day⟩

/-- The position of a date in its year, from 1. -/
def ordinal (d : Date) : Nat := (d.toDays - toDays ⟨d.year, 1, 1⟩ + 1).toNat

/-- The day of the week as the number of days since Sunday. -/
def fromSunday (d : Date) : Nat := ((d.toDays + 4) % 7).toNat

/-- The day of the week as the number of days since Monday. -/
def fromMonday (d : Date) : Nat := ((d.toDays + 3) % 7).toNat

/-- The number of weeks begun in the year of `d`, where a week begins on the day that lies `since` days before `d`. -/
def weeksBegun (d : Date) (since : Nat) : Nat := (d.ordinal + 6 - since) / 7

/-- The day that holds the year and number of a date's week: the Thursday of the same Monday-to-Sunday week. -/
def weekThursday (d : Date) : Date := ofDays (d.toDays - d.fromMonday + 3)

/-- The year that a date's week belongs to. -/
def weekYear (d : Date) : Int := d.weekThursday.year

/-- The number of a date's week in the year it belongs to, from 1. -/
def weekNumber (d : Date) : Nat := (d.weekThursday.ordinal + 6) / 7

end Date
end Calendar
end NodeDesk
