import NodeDesk.Calendar.Pattern
/-!
# Style — the conventions for showing a date

Three built-in conventions and patterns of one's own.  A pattern that does not read is as good as none: the instant is
then shown in the ISO convention, so showing a date never fails.
-/
namespace NodeDesk
namespace Calendar

/-- How an instant is shown. -/
inductive DateStyle where
  /-- `2016-12-12 13:52` -/
  | iso
  /-- `Dec. 12, 2016, 1:52 PM` -/
  | enUs
  /-- `12 Dec 2016, 13:52` -/
  | enGb
  /-- By a text of directives. -/
  | custom (pattern : String)
  deriving Repr, DecidableEq

/-- The months as newspapers shorten them: March to July in full, the others by three letters and a point, September
by four. -/
def pressMonth (m : Nat) : String :=
  match m with
  | 1 => "Jan."
  | 2 => "Feb."
  | 3 => "March"
  | 4 => "April"
  | 5 => "May"
  | 6 => "June"
  | 7 => "July"
  | 8 => "Aug."
  | 9 => "Sept."
  | 10 => "Oct."
  | 11 => "Nov."
  | _ => "Dec."

namespace DateStyle

/-- Year, month and day between hyphens, and the clock. -/
def isoPattern : Pattern :=
  [.number .year .zero, .literal '-', .number .month .zero, .literal '-', .number .day .zero, .literal ' ',
    .number .hour .zero, .literal ':', .number .minute .zero]

/-- What follows the month: day, year and a twelve-hour clock. -/
def enUsPattern : Pattern :=
  [.number .day .bare, .literal ',', .literal ' ', .number .year .zero, .literal ',', .literal ' ',
    .number .hour12 .bare, .literal ':', .number .minute .zero, .literal ' ', .meridiem true]

/-- Day, month and year, and the clock. -/
def enGbPattern : Pattern :=
  [.number .day .bare, .literal ' ', .monthAbbreviation, .literal ' ', .number .year .zero, .literal ',',
    .literal ' ', .number .hour .zero, .literal ':', .number .minute .zero]

def formatChars (style : DateStyle) (t : Instant) : List Char :=
  match style with
  | .iso => isoPattern.write t
  | .enUs => (pressMonth t.date.month).toList ++ ' ' :: enUsPattern.write t
  | .enGb => enGbPattern.write t
  | .custom p => ((Pattern.read? p.toList).getD isoPattern).write t

def format (style : DateStyle) (t : Instant) : String := String.ofList (style.formatChars t)

end DateStyle
end Calendar
end NodeDesk
