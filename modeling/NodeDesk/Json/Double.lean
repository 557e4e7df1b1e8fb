import NodeDesk.Text.Decimal
/-!
# Double — numbers of double precision, exactly

A finite double is `mantissa * 2 ^ exponent` with at most 53 bits of mantissa and an exponent of at least -1074.
Products and quotients are exact ratios of natural numbers brought to the nearest double (`ofRatio?`), of two equally
near ones to the even one.  The text of a double has the fewest digits that read back as it.
-/
namespace NodeDesk
namespace Json

/-- The size of a finite double: `mantissa * 2 ^ exponent`. -/
structure Size where
  mantissa : Nat
  exponent : Int
  deriving Repr, DecidableEq

/-- A finite double; zero has a sign of its own. -/
structure Double where
  negative : Bool
  size : Size
  deriving Repr, DecidableEq

namespace Size

def zero : Size := ⟨0, -1074⟩

/-- The quotient of two numbers, a half going to the even neighbour. -/
def roundDiv (n d : Nat) : Nat :=
  let q := n / d
  let r := n % d
  if 2 * r < d then q else if d < 2 * r then q + 1 else q + q % 2

/-- A ratio in units of `2 ^ e`, as a fraction. -/
def inUnits (n d : Nat) (e : Int) : Nat × Nat :=
  if 0 ≤ e then (n, d * Nat.pow 2 e.toNat) else (n * Nat.pow 2 (-e).toNat, d)

/-- The exponent for which a ratio has 53 bits before its point, or the least exponent there is. -/
def unitOf (n d : Nat) : Int :=
  let e : Int := (Nat.log2 n : Int) - Nat.log2 d - 52
  let (a, b) := inUnits n d e
  max (if a / b < Nat.pow 2 52 then e - 1 else e) (-1074)

/-- The size nearest to a ratio; nothing where that is past the largest double. -/
def ofRatio? (n d : Nat) : Option Size :=
  if n = 0 then some zero
  else
    let e := unitOf n d
    let (a, b) := inUnits n d e
    let m := roundDiv a b
    let (m, e) := if m = Nat.pow 2 53 then (Nat.pow 2 52, e + 1) else (m, e)
    if 971 < e then none else some ⟨m, e⟩

def ratio (s : Size) : Nat × Nat := inUnits s.mantissa 1 (-s.exponent)

/-- The double nearest to a power of ten. -/
def tenTo (k : Nat) : Size := (ofRatio? (Nat.pow 10 k) 1).getD zero

/-- The product of two sizes, to the nearest double. -/
def mul? (s t : Size) : Option Size :=
  ofRatio? (s.ratio.1 * t.ratio.1) (s.ratio.2 * t.ratio.2)

/-- The quotient of two sizes, to the nearest double. -/
def div? (s t : Size) : Option Size :=
  ofRatio? (s.ratio.1 * t.ratio.2) (s.ratio.2 * t.ratio.1)

/-- The size of `significand * 10 ^ power`.  The significand and the power of ten are brought to doubles first and
then multiplied or divided, in two steps where the power is below -308; nothing where the result is too large. -/
def ofDecimal? (significand : Nat) (power : Int) : Option Size :=
  match ofRatio? significand 1 with
  | none => none
  | some s =>
    if s.mantissa = 0 then some zero
    else if 308 < power then none
    else if 0 ≤ power then s.mul? (tenTo power.toNat)
    else if -308 ≤ power then s.div? (tenTo power.natAbs)
    else if -616 ≤ power then (s.div? (tenTo 308)).bind fun t => t.div? (tenTo (power + 308).natAbs)
    else some zero

/-- `digits * 10 ^ power` as a fraction. -/
def decimalRatio (digits : Nat) (power : Int) : Nat × Nat :=
  if 0 ≤ power then (digits * Nat.pow 10 power.toNat, 1) else (digits, Nat.pow 10 power.natAbs)

/-- How far a fraction lies from a size, as a fraction. -/
def distance (s : Size) (r : Nat × Nat) : Nat × Nat :=
  let (a, b) := s.ratio
  let (c, d) := r
  (a * d - c * b + (c * b - a * d), b * d)

/-- The one of the two neighbours of a size among the multiples of `10 ^ power` that reads back as the size, and of
two such the nearer. -/
def onGrid? (s : Size) (power : Int) : Option Nat :=
  let (a, b) := s.ratio
  let (u, v) := decimalRatio 1 power
  let low := a * v / (b * u)
  let good := [low, low + 1].filter fun d =>
    d != 0 && ofRatio? (decimalRatio d power).1 (decimalRatio d power).2 == some s
  match good with
  | [] => none
  | [d] => some d
  | d :: d' :: _ =>
    let (x, y) := s.distance (decimalRatio d power)
    let (x', y') := s.distance (decimalRatio d' power)
    if x * y' < x' * y then some d
    else if x' * y < x * y' then some d'
    else if d % 2 = 0 then some d else some d'

/-- The position of the first digit of a size: the largest power of ten that is not above it. -/
def firstPlace (s : Size) : Int :=
  let (a, b) := s.ratio
  if b ≤ a then ((Decimal.digits (a / b)).length : Int) - 1
  else -((Decimal.digits ((b - 1) / a)).length : Int)

/-- The fewest digits that read back as the size, and the power of ten of their last. -/
def shortest (s : Size) : Nat × Int :=
  let hit := (List.range 17).findSome? fun (k : Nat) =>
    (s.onGrid? (s.firstPlace - k)).map fun d => (d, s.firstPlace - k)
  hit.getD (0, 0)

end Size

namespace Double

/-- Digits without the zeros at their end, and how many those were. -/
def stripZeros (ds : List Char) : List Char × Nat :=
  let kept := (ds.reverse.dropWhile (· == '0')).reverse
  (kept, ds.length - kept.length)

/-- The text of a double: positional from 0.00001 up to 10 ^ 16, with a fraction in any case, and beyond that with an
exponent, which always has its sign. -/
def text (x : Double) : List Char :=
  let sign := if x.negative then ['-'] else []
  if x.size.mantissa = 0 then sign ++ ['0', '.', '0']
  else
    let (n, power) := x.size.shortest
    let (ds, zeros) := stripZeros (Decimal.digits n)
    let power := power + zeros
    let place := power + ds.length - 1
    if place < -5 ∨ 15 < place then
      let mark := if place < 0 then '-' else '+'
      let more := ds.drop 1
      sign ++ ds.take 1 ++ (if more.isEmpty then [] else '.' :: more) ++ ['e', mark] ++ Decimal.digits place.natAbs
    else if 0 ≤ power then sign ++ ds ++ List.replicate power.toNat '0' ++ ['.', '0']
    else if 0 ≤ place then
      sign ++ ds.take (place.toNat + 1) ++ '.' :: ds.drop (place.toNat + 1)
    else sign ++ ['0', '.'] ++ List.replicate (place.natAbs - 1) '0' ++ ds

end Double
end Json
end NodeDesk
