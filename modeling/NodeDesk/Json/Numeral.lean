import NodeDesk.Json.Double
import NodeDesk.Json.Fault
/-!
# Numeral — numbers of a document

A numeral without a fraction or exponent that fits a 64-bit word, signed if it is negative, is an integer; every other
one is a double.  The digits of a double are gathered into one word for as long as they fit: whole digits past that
only raise the power of ten, digits of the fraction past that are dropped.
-/
namespace NodeDesk
namespace Json

/-- A number of a document. -/
inductive Number where
  | integer (i : Int)
  | double (x : Double)
  deriving Repr, DecidableEq

namespace Number

def text : Number → List Char
  | .integer i => Decimal.signed i
  | .double x => x.text

/-- A number that stands where something else is asked for. -/
def found : Number → Found
  | .integer i => .integer i
  | .double x => .float (String.ofList x.text)

end Number

/-- A numeral by its parts. -/
structure Numeral where
  negative : Bool
  whole : List Char
  /-- The digits after the point, if there is one. -/
  fraction : Option (List Char)
  /-- Whether the exponent is below zero, and its digits. -/
  exponent : Option (Bool × List Char)
  deriving Repr, DecidableEq

namespace Numeral

/-- Where a numeral breaks off. -/
inductive Break where
  /-- At the end of the text. -/
  | ended
  /-- At a character that cannot follow. -/
  | stray
  deriving Repr, DecidableEq

/-- Cuts the digits off a text, of which there must be one. -/
def digits (cs : List Char) : Except Break (List Char × List Char) :=
  match cs.takeWhile Char.isDigit, cs with
  | [], [] => .error .ended
  | [], _ :: _ => .error .stray
  | ds, cs => .ok (ds, cs.dropWhile Char.isDigit)

/-- Reads whole digits: zero alone, or digits that do not begin with zero. -/
def scanWhole (cs : List Char) : Except Break (List Char × List Char) := do
  let (ds, r) ← digits cs
  match ds with
  | '0' :: _ :: _ => .error .stray
  | ds => .ok (ds, r)

/-- Reads a point and the digits after it, if there is one. -/
def scanFraction : List Char → Except Break (Option (List Char) × List Char)
  | '.' :: r => (digits r).map fun p => (some p.1, p.2)
  | cs => .ok (none, cs)

/-- Reads the sign of an exponent: whether it is a minus sign. -/
def scanSign : List Char → Bool × List Char
  | '+' :: r => (false, r)
  | '-' :: r => (true, r)
  | cs => (false, cs)

/-- Reads an exponent, if there is one. -/
def scanExponent : List Char → Except Break (Option (Bool × List Char) × List Char)
  | [] => .ok (none, [])
  | c :: r =>
    if c = 'e' ∨ c = 'E' then
      let (negative, r) := scanSign r
      (digits r).map fun p => (some (negative, p.1), p.2)
    else .ok (none, c :: r)

/-- Reads a numeral from after its minus sign, if it has one. -/
def scan (negative : Bool) (cs : List Char) : Except Break (Numeral × List Char) := do
  let (whole, r) ← scanWhole cs
  let (fraction, r) ← scanFraction r
  let (exponent, r) ← scanExponent r
  .ok (⟨negative, whole, fraction, exponent⟩, r)

/-- Gathers whole digits: the significand and the power of ten it is to be multiplied by. -/
def gatherWhole : Nat × Nat → List Char → Nat × Nat
  | (n, p), [] => (n, p)
  | (n, p), c :: cs =>
    let n' := 10 * n + (c.toNat - 0x30)
    if p = 0 ∧ n' ≤ maxWord then gatherWhole (n', 0) cs else gatherWhole (n, p + 1) cs

/-- Gathers digits of a fraction: the significand, and how many were gathered. -/
def gatherFraction : Nat → List Char → Nat × Nat
  | n, [] => (n, 0)
  | n, c :: cs =>
    let n' := 10 * n + (c.toNat - 0x30)
    if n' ≤ maxWord then ((gatherFraction n' cs).1, (gatherFraction n' cs).2 + 1) else (n, 0)

def valueOf (ds : List Char) : Nat := ds.foldl (fun n c => 10 * n + (c.toNat - 0x30)) 0

/-- The largest exponent that is added to the power of ten. -/
def maxExponent : Nat := Nat.pow 2 31 - 1

/-- The double that a numeral stands for.  An exponent past `maxExponent` makes it zero or too large by itself. -/
def double? (x : Numeral) : Except Fault Double :=
  let (n, p) := gatherWhole (0, 0) x.whole
  let (n, q) := gatherFraction n (x.fraction.getD [])
  let (below, ds) := x.exponent.getD (false, [])
  let e := valueOf ds
  if maxExponent < e then
    if n = 0 ∨ below then .ok ⟨x.negative, .zero⟩ else .error .numberTooLarge
  else
    match Size.ofDecimal? n ((p : Int) - q + if below then -(e : Int) else e) with
    | some s => .ok ⟨x.negative, s⟩
    | none => .error .numberTooLarge

/-- The number that a numeral stands for. -/
def value? (x : Numeral) : Except Fault Number :=
  let n := valueOf x.whole
  if x.fraction.isNone ∧ x.exponent.isNone ∧ ¬ x.negative ∧ n ≤ maxWord then .ok (.integer n)
  else if x.fraction.isNone ∧ x.exponent.isNone ∧ x.negative ∧ 0 < n ∧ n ≤ maxSigned + 1 then
    .ok (.integer (-(n : Int)))
  else x.double?.map .double

/-- The fault of a numeral that breaks off. -/
def Break.fault : Break → Fault
  | .ended => .ended .value
  | .stray => .badNumber

def read (negative : Bool) : Reader Number := fun cs =>
  match scan negative cs with
  | .error b => .error b.fault
  | .ok (x, r) => x.value?.map fun n => (n, r)

/-- Passes over a number, whatever its value is. -/
def skip (cs : List Char) : Except Fault (List Char) :=
  match scan false cs with
  | .error _ => .error .badNumber
  | .ok (_, r) => .ok r

end Numeral
end Json
end NodeDesk
