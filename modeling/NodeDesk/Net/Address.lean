import NodeDesk.Text.Decimal
/-!
# Address — where a desk is served

A host in numbers and the number of a socket on it, as in `127.0.0.1:8000` or `[::1]:8000`.  Names are not looked up.
-/
namespace NodeDesk
namespace Net

/-- A host in numbers. -/
inductive Host where
  /-- Four numbers below 256. -/
  | v4 (octets : List Nat)
  /-- Eight numbers below 65536, and the number of the network that the host is on. -/
  | v6 (groups : List Nat) (scope : Nat)
  deriving Repr, DecidableEq

/-- A host and the number of a socket on it. -/
structure Address where
  host : Host
  socket : Nat
  deriving Repr, DecidableEq

namespace Address

/-- The value of a hexadecimal digit of either case. -/
def digit? (c : Char) : Option Nat :=
  if '0' ≤ c ∧ c ≤ '9' then some (c.toNat - 0x30)
  else if 'a' ≤ c ∧ c ≤ 'f' then some (c.toNat - 0x57)
  else if 'A' ≤ c ∧ c ≤ 'F' then some (c.toNat - 0x37)
  else none

/-- Whether a character is a digit to a base of at most sixteen. -/
def isDigitOf (base : Nat) (c : Char) : Bool := (digit? c).any (· < base)

def valueOf (base : Nat) (ds : List Char) : Nat := ds.foldl (fun n c => base * n + (digit? c).getD 0) 0

/-- Reads a run of digits whose value is at most `bound`; all the digits that stand there are read. -/
def run? (base bound : Nat) (cs : List Char) : Option (List Char × Nat × List Char) :=
  let ds := cs.takeWhile (isDigitOf base)
  if ds.isEmpty ∨ bound < valueOf base ds then none
  else some (ds, valueOf base ds, cs.dropWhile (isDigitOf base))

/-- Reads a decimal number that may have zeros before it. -/
def number? (bound : Nat) (cs : List Char) : Option (Nat × List Char) := (run? 10 bound cs).map Prod.snd

/-- Reads a number below 256 that has no zeros before it. -/
def octet? (cs : List Char) : Option (Nat × List Char) :=
  match run? 10 255 cs with
  | some (ds, n, r) => if ds.head? = some '0' ∧ 1 < ds.length then none else some (n, r)
  | none => none

/-- Reads a group of at most four hexadecimal digits. -/
def group? (cs : List Char) : Option (Nat × List Char) :=
  match run? 16 65535 cs with
  | some (ds, n, r) => if 4 < ds.length then none else some (n, r)
  | none => none

/-- Passes over one character. -/
def mark? (m : Char) : List Char → Option (List Char)
  | [] => none
  | c :: r => if c = m then some r else none

/-- Reads four numbers with points between them. -/
def octets? (cs : List Char) : Option (List Nat × List Char) := do
  let (a, r) ← octet? cs
  let (b, r) ← octet? (← mark? '.' r)
  let (c, r) ← octet? (← mark? '.' r)
  let (d, r) ← octet? (← mark? '.' r)
  return ([a, b, c, d], r)

/-- Passes over the colon before a group that is not the first. -/
def between? (isFirst : Bool) (cs : List Char) : Option (List Char) := if isFirst then some cs else mark? ':' cs

/-- Four numbers below 256 as two groups. -/
def pairUp : List Nat → List Nat
  | a :: b :: r => (256 * a + b) :: pairUp r
  | _ => []

/-- Reads groups with colons between them, `room` at most, as far as there are any.  The last two may be written as
four numbers with points; whether they were is the second part of the answer. -/
def groups : Nat → Bool → List Char → List Nat × Bool × List Char
  | 0, _, cs => ([], false, cs)
  | room + 1, isFirst, cs =>
    match (if room = 0 then none else (between? isFirst cs).bind octets?) with
    | some (os, r) => (pairUp os, true, r)
    | none =>
      match (between? isFirst cs).bind group? with
      | some (g, r) =>
        let (gs, dotted, r) := groups room false r
        (g :: gs, dotted, r)
      | none => ([], false, cs)

/-- Reads eight groups; two colons in a row stand for one group of zero or more. -/
def eight? (cs : List Char) : Option (List Nat × List Char) :=
  let (front, dotted, r) := groups 8 true cs
  if front.length = 8 then some (front, r)
  else if dotted then none
  else do
    let r ← mark? ':' r
    let r ← mark? ':' r
    let (back, _, r) := groups (7 - front.length) true r
    return (front ++ List.replicate (8 - front.length - back.length) 0 ++ back, r)

/-- Reads the number of a network after a percent sign, if there is one. -/
def scope (cs : List Char) : Nat × List Char :=
  match (mark? '%' cs).bind (number? (Nat.pow 2 32 - 1)) with
  | some (n, r) => (n, r)
  | none => (0, cs)

def host? (cs : List Char) : Option (Host × List Char) :=
  match octets? cs with
  | some (os, r) => some (.v4 os, r)
  | none => do
    let (gs, r) ← eight? (← mark? '[' cs)
    let (n, r) := scope r
    return (.v6 gs n, ← mark? ']' r)

def read? (s : String) : Option Address := do
  let (host, r) ← host? s.toList
  let (n, r) ← number? 65535 (← mark? ':' r)
  if r.isEmpty then some ⟨host, n⟩ else none

/-- Numbers with a mark between them. -/
def joined (mark : Char) (write : Nat → List Char) (ns : List Nat) : List Char :=
  ((ns.map write).intersperse [mark]).flatten

/-- The number of zeros that a list begins with. -/
def zeros (gs : List Nat) : Nat := (gs.takeWhile (· == 0)).length

/-- The start and length of the first longest run of zeros from position `i` on. -/
def longestZeros : Nat → List Nat → Nat × Nat
  | i, [] => (i, 0)
  | i, g :: gs =>
    let later := longestZeros (i + 1) gs
    if later.2 ≤ zeros (g :: gs) then (i, zeros (g :: gs)) else later

/-- Eight groups: the last two as four numbers if they hold an address of that kind, else with the longest run of
zeros left out, if it is longer than one. -/
def writeGroups (gs : List Nat) : List Char :=
  let hex := joined ':' (Nat.toDigits 16)
  match gs with
  | [0, 0, 0, 0, 0, 0xFFFF, a, b] =>
    "::ffff:".toList ++ joined '.' Decimal.digits [a / 256, a % 256, b / 256, b % 256]
  | gs =>
    let (start, length) := longestZeros 0 gs
    if 1 < length then hex (gs.take start) ++ [':', ':'] ++ hex (gs.drop (start + length)) else hex gs

/-- A host as it stands in an address. -/
def writeHost : Host → List Char
  | .v4 os => joined '.' Decimal.digits os
  | .v6 gs n => '[' :: writeGroups gs ++ (if n = 0 then [] else '%' :: Decimal.digits n) ++ [']']

def text (a : Address) : String := String.ofList (writeHost a.host ++ ':' :: Decimal.digits a.socket)

end Address
end Net
end NodeDesk
