import NodeDesk.Json.Fault
import NodeDesk.Text.Utf8
/-!
# Quoted — strings of a document

A string is a run of units: characters, and 16-bit codes written as `\uXXXX`.  `scan` cuts a text into the units and
what ends them; `join` makes characters of the units, where a surrogate must be followed by its other half.  Writing
puts a backslash before what cannot stand in a string, and nothing else.
-/
namespace NodeDesk
namespace Json
namespace Quoted

/-- One unit of a string. -/
inductive Item where
  | char (c : Char)
  /-- A code below 65536. -/
  | code (n : Nat)
  deriving Repr, DecidableEq

/-- What ends the units of a string. -/
inductive Ending where
  /-- The closing quote, and what follows it. -/
  | closed (rest : List Char)
  /-- The end of the text. -/
  | ended
  /-- A character below the space, which must be written as an escape. -/
  | control
  /-- A backslash with a character that makes no escape. -/
  | badEscape
  /-- A code with a character that is no hexadecimal digit. -/
  | badCode

/-- The character that a letter after a backslash stands for. -/
def escape? : Char → Option Char
  | '"' => some '"'
  | '\\' => some '\\'
  | '/' => some '/'
  | 'b' => some '\x08'
  | 'f' => some '\x0C'
  | 'n' => some '\n'
  | 'r' => some '\r'
  | 't' => some '\t'
  | _ => none

/-- The value of a hexadecimal digit of either case. -/
def hexValue? (c : Char) : Option Nat :=
  if '0' ≤ c ∧ c ≤ '9' then some (c.toNat - 0x30)
  else if 'A' ≤ c ∧ c ≤ 'F' then some (c.toNat - 0x37)
  else if 'a' ≤ c ∧ c ≤ 'f' then some (c.toNat - 0x57)
  else none

/-- The code that four hexadecimal digits name. -/
def code? (a b c d : Char) : Option Nat := do
  let a ← hexValue? a
  let b ← hexValue? b
  let c ← hexValue? c
  let d ← hexValue? d
  return 4096 * a + 256 * b + 16 * c + d

/-- Puts a unit before what was scanned. -/
def push (u : Item) (s : List Item × Ending) : List Item × Ending := (u :: s.1, s.2)

/-- Cuts a text, from after the opening quote, into units and what ends them.  A code needs four bytes; fewer are the
end of the text. -/
def scan : List Char → List Item × Ending
  | [] => ([], .ended)
  | c :: r =>
    if c = '"' then ([], .closed r)
    else if c = '\\' then
      match r with
      | [] => ([], .ended)
      | e :: r =>
        if e = 'u' then
          match r with
          | x :: y :: z :: w :: r' =>
            match code? x y z w with
            | some n => push (.code n) (scan r')
            | none => ([], .badCode)
          | r => ([], if Utf8.size r < 4 then .ended else .badCode)
        else
          match escape? e with
          | some x => push (.char x) (scan r)
          | none => ([], .badEscape)
    else if c < ' ' then ([], .control)
    else push (.char c) (scan r)

/-- The first half of a pair. -/
def isHigh (n : Nat) : Bool := 0xD800 ≤ n && n ≤ 0xDBFF

/-- The second half of a pair. -/
def isLow (n : Nat) : Bool := 0xDC00 ≤ n && n ≤ 0xDFFF

/-- The fault of a string that is not closed. -/
def Ending.fault? : Ending → Option Fault
  | .closed _ => none
  | .ended => some (.ended .string)
  | .control => some .controlCharacter
  | .badEscape => some .badEscape
  | .badCode => some .badEscape

/-- The fault of a first half with which the units end.  The other half might have followed where the text ends, and
was meant to follow where a code is ill-formed. -/
def Ending.faultAfterHigh : Ending → Fault
  | .ended => .ended .string
  | .badCode => .badEscape
  | _ => .halfPair

/-- Makes characters of units; the string ends in `e`. -/
def join (e : Ending) : List Item → Except Fault (List Char)
  | [] => match e.fault? with
    | none => .ok []
    | some f => .error f
  | .char c :: us => (join e us).map (c :: ·)
  | .code n :: us =>
    if isLow n then .error .loneSurrogate
    else if isHigh n then
      match us with
      | [] => .error e.faultAfterHigh
      | .char _ :: _ => .error .halfPair
      | .code m :: us =>
        if isLow m then
          (join e us).map (Char.ofNat (0x10000 + (n - 0xD800) * 1024 + (m - 0xDC00)) :: ·)
        else .error .loneSurrogate
    else (join e us).map (Char.ofNat n :: ·)

def read : Reader String := fun cs =>
  let (us, e) := scan cs
  match join e us, e with
  | .error f, _ => .error f
  | .ok s, .closed rest => .ok (String.ofList s, rest)
  | .ok _, _ => .error (.ended .string)

/-- Passes over a string from after its opening quote, whatever its codes are. -/
def skip (cs : List Char) : Except Fault (List Char) :=
  match (scan cs).2 with
  | .closed rest => .ok rest
  | e => .error (e.fault?.getD (.ended .string))

/-- A character as it is written in a string. -/
def writeChar (c : Char) : List Char :=
  match c with
  | '"' => ['\\', '"']
  | '\\' => ['\\', '\\']
  | '\x08' => ['\\', 'b']
  | '\x0C' => ['\\', 'f']
  | '\n' => ['\\', 'n']
  | '\r' => ['\\', 'r']
  | '\t' => ['\\', 't']
  | c =>
    if c < ' ' then
      ['\\', 'u', '0', '0', Text.hexDigit (c.toNat / 16), Text.hexDigit (c.toNat % 16)]
    else [c]

/-- A string between quotes. -/
def write (s : String) : List Char := '"' :: s.toList.flatMap writeChar ++ ['"']

end Quoted
end Json
end NodeDesk
