import NodeDesk.Calendar.Instant
import NodeDesk.Text.Blank
import NodeDesk.Text.Decimal
/-!
# Stamp — an instant in RFC 3339 text

Written in UTC with a closing `Z` and as many fraction digits (0, 3, 6 or 9) as are needed; a year outside 0 to 9999
carries its sign.  The reader takes more than that: blanks before numbers and marks, any number of fraction digits, a
zone offset in several spellings, a leap second.  It reads from the left and reports the first thing that is wrong.
-/
namespace NodeDesk
namespace Calendar
namespace Stamp

open Decimal (digits fixed padded)
open Text (isBlank trimStart)

/-- A year in four digits, or with its sign in at least four where it lies outside 0 to 9999. -/
def year (pad : Decimal.Pad) (y : Int) : List Char :=
  if 0 ≤ y ∧ y ≤ 9999 then padded pad 4 [] (digits y.natAbs)
  else padded pad 5 [if y < 0 then '-' else '+'] (digits y.natAbs)

/-- The fraction of a second in groups of three digits, nothing for none. -/
def fraction (n : Nat) : List Char :=
  if n = 0 then []
  else if n % 1000000 = 0 then '.' :: fixed 3 (n / 1000000)
  else if n % 1000 = 0 then '.' :: fixed 6 (n / 1000)
  else '.' :: fixed 9 n

/-- An instant with the given mark for the zone. -/
def writeIn (zone : List Char) (t : Instant) : List Char :=
  let d := t.date
  year .zero d.year ++ ['-'] ++ fixed 2 d.month ++ ['-'] ++ fixed 2 d.day ++ ['T'] ++ fixed 2 t.hour ++ [':']
    ++ fixed 2 t.minute ++ [':'] ++ fixed 2 t.second ++ fraction t.subsecond ++ zone

/-- An instant as it stands in a document. -/
def write (t : Instant) : List Char := writeIn ['Z'] t

/-- Why a text is not read as an instant. -/
inductive Fault where
  /-- A character that cannot stand where it does. -/
  | invalid
  /-- The text ends before the instant does. -/
  | tooShort
  /-- A part has a value that no instant has. -/
  | outOfRange
  /-- Something follows the instant. -/
  | trailing
  /-- The zone offset leads out of the calendar. -/
  | impossible
  deriving Repr, DecidableEq

def Fault.message : Fault → String
  | .invalid => "input contains invalid characters"
  | .tooShort => "premature end of input"
  | .outOfRange => "input is out of range"
  | .trailing => "trailing input"
  | .impossible => "no possible date and time matching input"

/-- A reader takes a text and yields a value and the rest of the text. -/
abbrev Reader (α : Type) := List Char → Except Fault (α × List Char)

def valueOf (ds : List Char) : Nat := ds.foldl (fun n c => 10 * n + (c.toNat - 0x30)) 0

/-- Splits a text after its leading digits, `width` of them at most. -/
def takeDigits : Nat → List Char → List Char × List Char
  | 0, cs => ([], cs)
  | _ + 1, [] => ([], [])
  | k + 1, c :: cs =>
    if c.isDigit then (c :: (takeDigits k cs).1, (takeDigits k cs).2) else ([], c :: cs)

/-- Reads a number of at least one and at most `width` digits. -/
def number (width : Nat) : Reader Nat
  | [] => .error .tooShort
  | c :: cs =>
    if c.isDigit then
      let (ds, rest) := takeDigits width (c :: cs)
      if valueOf ds ≤ maxSigned then .ok (valueOf ds, rest) else .error .outOfRange
    else .error .invalid

/-- Reads a year: four digits at most, or any number of them after a sign. -/
def readYear : Reader Int
  | '-' :: r => do
    let (n, r') ← number r.length r
    inRange (-(n : Int)) r'
  | '+' :: r => do
    let (n, r') ← number r.length r
    inRange n r'
  | cs => do
    let (n, r) ← number 4 cs
    inRange n r
where
  /-- A year must fit a signed 32-bit word before anything else of the text is looked at. -/
  inRange (y : Int) (r : List Char) : Except Fault (Int × List Char) :=
    if -2147483648 ≤ y ∧ y ≤ 2147483647 then .ok (y, r) else .error .outOfRange

/-- Reads a number of one or two digits that lies between two bounds, after any blanks. -/
def part (low high : Nat) : Reader Nat := fun cs => do
  let (n, r) ← number 2 (trimStart cs)
  if low ≤ n ∧ n ≤ high then .ok (n, r) else .error .outOfRange

/-- Reads one given character, after any blanks. -/
def mark (m : Char) (cs : List Char) : Except Fault (List Char) :=
  match trimStart cs with
  | [] => .error .tooShort
  | c :: r => if c = m then .ok r else .error .invalid

/-- Reads the nanoseconds after the seconds: nine digits count and any more are passed over. -/
def readFraction : Reader Nat
  | '.' :: r => do
    let (_, rest) ← number 9 r
    let ds := (takeDigits 9 r).1
    .ok (valueOf ds * Nat.pow 10 (9 - ds.length), rest.dropWhile Char.isDigit)
  | cs => .ok (0, cs)

/-- Reads exactly two digits; `tens` is the highest first digit that is not out of range. -/
def pair (tens : Nat) : Reader Nat
  | a :: b :: r =>
    if a.isDigit ∧ b.isDigit then
      if valueOf [a] ≤ tens then .ok (valueOf [a, b], r) else .error .outOfRange
    else .error .invalid
  | [a] => if a.toNat < 0x80 then .error .tooShort else .error .invalid
  | [] => .error .tooShort

/-- Reads hours and minutes of an offset as seconds; colons and blanks may stand between them. -/
def readOffset : Reader Nat := fun cs => do
  let (h, r) ← pair 9 cs
  let (m, r) ← pair 5 (r.dropWhile fun c => c == ':' || isBlank c)
  .ok (h * 3600 + m * 60, r)

/-- Whether a text starts with `UTC` in any case. -/
def utc? : List Char → Option (List Char)
  | a :: b :: c :: r =>
    if a.toUpper = 'U' ∧ b.toUpper = 'T' ∧ c.toUpper = 'C' then some r else none
  | _ => none

/-- Reads a zone as seconds east of UTC. -/
def readZone (cs : List Char) : Except Fault (Int × List Char) :=
  match utc? cs with
  | some r => .ok (0, r)
  | none =>
    match cs with
    | [] => .error .tooShort
    | c :: r =>
      if c = 'Z' ∨ c = 'z' then .ok (0, r)
      else if c = '+' then (readOffset r).map fun p => ((p.1 : Int), p.2)
      else if c = '-' ∨ c = '\u2212' then (readOffset r).map fun p => (-(p.1 : Int), p.2)
      else .error .invalid

/-- The instant that a date, a time of day and an offset name. -/
def assemble (d : Date) (hour minute second nanos : Nat) (offset : Int) : Except Fault Instant :=
  if ¬ d.Valid then .error .outOfRange
  else
    let days := d.toDays
    if days * 86400 < firstSecond ∨ lastSecond < days * 86400 then .error .outOfRange
    else if 86400 ≤ offset.natAbs then .error .outOfRange
    else
      let (second, nanos) := if second = 60 then (59, nanos + 1000000000) else (second, nanos)
      match Instant.of? (days * 86400 + hour * 3600 + minute * 60 + second - offset) nanos with
      | some t => .ok t
      | none => .error .impossible

def read (cs : List Char) : Except Fault Instant := do
  let (y, r) ← readYear (trimStart cs)
  let r ← mark '-' r
  let (m, r) ← part 1 12 r
  let r ← mark '-' r
  let (d, r) ← part 1 31 r
  let r ← match r with
    | [] => .error .tooShort
    | c :: r => if c = 'T' ∨ c = 't' ∨ c = ' ' then .ok r else .error .invalid
  let (hour, r) ← part 0 23 r
  let r ← mark ':' r
  let (minute, r) ← part 0 59 r
  let r ← mark ':' r
  let (second, r) ← part 0 60 r
  let (nanos, r) ← readFraction r
  let (offset, r) ← readZone (trimStart r)
  if (trimStart r).isEmpty then assemble ⟨y, m, d⟩ hour minute second nanos offset
  else .error .trailing

end Stamp
end Calendar
end NodeDesk
