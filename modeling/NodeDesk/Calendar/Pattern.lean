import NodeDesk.Calendar.Stamp
/-!
# Pattern — dates by a text of directives

A pattern is a text in which `%` opens a directive.  Reading it is one machine over its characters (`step`), so a
pattern is good exactly when every directive in it is known and closed; writing an instant by a good pattern cannot
fail.  Instants are in UTC, so the zone directives are constant.
-/
namespace NodeDesk
namespace Calendar

/-- A directive whose value is a number. -/
inductive Field where
  | year
  | century
  | yearOfCentury
  | weekYear
  | weekYearOfCentury
  | quarter
  | month
  | day
  /-- Weeks of the year that begin on Sunday. -/
  | sundayWeek
  /-- Weeks of the year that begin on Monday. -/
  | mondayWeek
  | week
  | daysSinceSunday
  /-- The day of the week, Monday being 1. -/
  | weekday
  | ordinal
  | hour
  | hour12
  | minute
  | second
  | nanos
  | timestamp
  deriving Repr, DecidableEq

/-- One thing that a pattern writes. -/
inductive Item where
  /-- A character that stands for itself. -/
  | literal (c : Char)
  | number (field : Field) (pad : Decimal.Pad)
  | monthName
  | monthAbbreviation
  | weekdayName
  | weekdayAbbreviation
  /-- `AM` or `PM`, or the same in lower case. -/
  | meridiem (upper : Bool)
  /-- The fraction of a second with its point, in as many groups of three digits as are needed. -/
  | fraction
  /-- The fraction of a second in a fixed number of digits, with or without its point. -/
  | places (point : Bool) (count : Nat)
  /-- The offset from UTC, which is always none, as this text. -/
  | zone (text : List Char)
  /-- The instant as RFC 3339 text with a numeric offset. -/
  | stamp
  deriving Repr, DecidableEq

/-- A pattern whose directives are all known. -/
abbrev Pattern := List Item

def monthNames : List String :=
  ["January", "February", "March", "April", "May", "June", "July", "August", "September", "October", "November",
    "December"]

def weekdayNames : List String :=
  ["Sunday", "Monday", "Tuesday", "Wednesday", "Thursday", "Friday", "Saturday"]

namespace Field

open Decimal (Pad digits padded)

/-- A number written in two characters if need be.  The tens are one character even where they pass nine, which only
a century outside 0 to 99 makes them do. -/
def two (pad : Pad) (v : Nat) : List Char :=
  let ones := Char.ofNat (0x30 + v % 10)
  if v / 10 = 0 then
    match pad with
    | .bare => [ones]
    | .zero => ['0', ones]
    | .space => [' ', ones]
  else [Char.ofNat (0x30 + v / 10), ones]

def write (t : Instant) (pad : Pad) : Field → List Char
  | .year => Stamp.year pad t.date.year
  | .century => two pad (t.date.year / 100 % 256).toNat
  | .yearOfCentury => two pad (t.date.year % 100).toNat
  | .weekYear => Stamp.year pad t.date.weekYear
  | .weekYearOfCentury => two pad (t.date.weekYear % 100).toNat
  | .quarter => digits ((t.date.month + 2) / 3)
  | .month => two pad t.date.month
  | .day => two pad t.date.day
  | .sundayWeek => two pad (t.date.weeksBegun t.date.fromSunday)
  | .mondayWeek => two pad (t.date.weeksBegun t.date.fromMonday)
  | .week => two pad t.date.weekNumber
  | .daysSinceSunday => digits t.date.fromSunday
  | .weekday => digits (t.date.fromMonday + 1)
  | .ordinal => padded pad 3 [] (digits t.date.ordinal)
  | .hour => two pad t.hour
  | .hour12 => two pad t.hour12
  | .minute => two pad t.minute
  | .second => two pad t.second
  | .nanos => padded pad 9 [] (digits t.subsecond)
  | .timestamp => padded pad 9 (if t.seconds < 0 then ['-'] else []) (digits t.seconds.natAbs)

end Field

namespace Item

def nameAt (names : List String) (i : Nat) : List Char := (names.getD i "").toList

def write (t : Instant) : Item → List Char
  | .literal c => [c]
  | .number f pad => f.write t pad
  | .monthName => nameAt monthNames (t.date.month - 1)
  | .monthAbbreviation => (nameAt monthNames (t.date.month - 1)).take 3
  | .weekdayName => nameAt weekdayNames t.date.fromSunday
  | .weekdayAbbreviation => (nameAt weekdayNames t.date.fromSunday).take 3
  | .meridiem upper =>
    match t.isAfternoon, upper with
    | false, true => ['A', 'M']
    | true, true => ['P', 'M']
    | false, false => ['a', 'm']
    | true, false => ['p', 'm']
  | .fraction => Stamp.fraction t.subsecond
  | .places point count =>
    (if point then ['.'] else []) ++ Decimal.fixed count (t.subsecond / Nat.pow 10 (9 - count))
  | .zone text => text
  | .stamp => Stamp.writeIn "+00:00".toList t

end Item

namespace Pattern

def write (p : Pattern) (t : Instant) : List Char := p.flatMap (Item.write t)

/-- The numeric directives and how each is padded when nothing else is said. -/
def field? : Char → Option (Field × Decimal.Pad)
  | 'Y' => some (.year, .zero)
  | 'C' => some (.century, .zero)
  | 'y' => some (.yearOfCentury, .zero)
  | 'G' => some (.weekYear, .zero)
  | 'g' => some (.weekYearOfCentury, .zero)
  | 'q' => some (.quarter, .bare)
  | 'm' => some (.month, .zero)
  | 'd' => some (.day, .zero)
  | 'e' => some (.day, .space)
  | 'U' => some (.sundayWeek, .zero)
  | 'W' => some (.mondayWeek, .zero)
  | 'V' => some (.week, .zero)
  | 'w' => some (.daysSinceSunday, .bare)
  | 'u' => some (.weekday, .bare)
  | 'j' => some (.ordinal, .zero)
  | 'H' => some (.hour, .zero)
  | 'k' => some (.hour, .space)
  | 'I' => some (.hour12, .zero)
  | 'l' => some (.hour12, .space)
  | 'M' => some (.minute, .zero)
  | 'S' => some (.second, .zero)
  | 'f' => some (.nanos, .zero)
  | 's' => some (.timestamp, .bare)
  | _ => none

/-- The hour and minute, or those and the second. -/
def clock (seconds : Bool) : Pattern :=
  [.number .hour .zero, .literal ':', .number .minute .zero]
    ++ if seconds then [.literal ':', .number .second .zero] else []

/-- The month, day and year of the century, between slashes. -/
def slashed : Pattern :=
  [.number .month .zero, .literal '/', .number .day .zero, .literal '/', .number .yearOfCentury .zero]

/-- The items of a directive that is one character and takes no padding. -/
def plain? : Char → Option Pattern
  | 'A' => some [.weekdayName]
  | 'a' => some [.weekdayAbbreviation]
  | 'B' => some [.monthName]
  | 'b' => some [.monthAbbreviation]
  | 'h' => some [.monthAbbreviation]
  | 'P' => some [.meridiem false]
  | 'p' => some [.meridiem true]
  | 'D' => some slashed
  | 'x' => some slashed
  | 'F' => some [.number .year .zero, .literal '-', .number .month .zero, .literal '-', .number .day .zero]
  | 'v' => some [.number .day .space, .literal '-', .monthAbbreviation, .literal '-', .number .year .zero]
  | 'R' => some (clock false)
  | 'T' => some (clock true)
  | 'X' => some (clock true)
  | 'r' => some [.number .hour12 .zero, .literal ':', .number .minute .zero, .literal ':', .number .second .zero,
      .literal ' ', .meridiem true]
  | 'c' => some ([.weekdayAbbreviation, .literal ' ', .monthAbbreviation, .literal ' ', .number .day .space,
      .literal ' '] ++ clock true ++ [.literal ' ', .number .year .zero])
  | 'Z' => some [.zone "UTC".toList]
  | 'z' => some [.zone "+0000".toList]
  | '+' => some [.stamp]
  | 'n' => some [.literal '\n']
  | 't' => some [.literal '\t']
  | '%' => some [.literal '%']
  | _ => none

/-- Where the reader of a pattern stands. -/
inductive State where
  /-- Outside any directive. -/
  | text
  /-- After the percent sign. -/
  | opened
  /-- After a padding mark, where only a numeric directive may follow. -/
  | padding (pad : Decimal.Pad)
  /-- After a point. -/
  | point
  /-- After a number of fraction digits. -/
  | count (point : Bool) (n : Nat)
  /-- After some colons. -/
  | colons (n : Nat)
  deriving Repr, DecidableEq

/-- The offset with the detail that a number of colons asks for. -/
def colonZone? : Nat → Option (List Char)
  | 1 => some "+00:00".toList
  | 2 => some "+00:00:00".toList
  | 3 => some "+00".toList
  | _ => none

/-- Reads one character of a pattern: the items it completes and where the reader stands after it. -/
def step : State → Char → Option (Pattern × State)
  | .text, c => if c = '%' then some ([], .opened) else some ([.literal c], .text)
  | .opened, c =>
    if c = '-' then some ([], .padding .bare)
    else if c = '0' then some ([], .padding .zero)
    else if c = '_' then some ([], .padding .space)
    else if c = '.' then some ([], .point)
    else if c = ':' then some ([], .colons 1)
    else if c = '3' then some ([], .count false 3)
    else if c = '6' then some ([], .count false 6)
    else if c = '9' then some ([], .count false 9)
    else match field? c with
      | some (f, pad) => some ([.number f pad], .text)
      | none => (plain? c).map fun items => (items, .text)
  | .padding pad, c => (field? c).map fun f => ([.number f.1 pad], .text)
  | .point, c =>
    if c = 'f' then some ([.fraction], .text)
    else if c = '3' then some ([], .count true 3)
    else if c = '6' then some ([], .count true 6)
    else if c = '9' then some ([], .count true 9)
    else none
  | .count p n, c => if c = 'f' then some ([.places p n], .text) else none
  | .colons n, c =>
    if c = 'z' then (colonZone? n).map fun zone => ([.zone zone], .text)
    else if c = ':' then some ([], .colons (n + 1))
    else none

def readFrom? : State → List Char → Option Pattern
  | .text, [] => some []
  | _, [] => none
  | s, c :: r =>
    match step s c with
    | none => none
    | some (items, s') => (readFrom? s' r).map (items ++ ·)

/-- Reads a pattern; nothing if a directive is unknown or not closed. -/
def read? (cs : List Char) : Option Pattern := readFrom? .text cs

end Pattern
end Calendar
end NodeDesk
