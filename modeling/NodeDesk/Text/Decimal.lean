/-!
# Decimal — whole numbers as text

Writing (`digits`, `signed`, `padded`) and reading (`read?`).  A reader takes the largest value that its caller can
hold and says which of three things is wrong with a text: nothing to read, a character that is no digit, or a value
past that bound, whichever comes first from the left.
-/
namespace NodeDesk
namespace Decimal

/-- The decimal digits of a number, without leading zeros. -/
def digits (n : Nat) : List Char := Nat.toDigits 10 n

/-- A whole number, with a minus sign if it is below zero. -/
def signed (i : Int) : List Char :=
  if i < 0 then '-' :: digits i.natAbs else digits i.natAbs

def text (n : Nat) : String := String.ofList (digits n)

def signedText (i : Int) : String := String.ofList (signed i)

@[simp] theorem toList_text (n : Nat) : (text n).toList = digits n := by simp [text]

@[simp] theorem toList_signedText (i : Int) : (signedText i).toList = signed i := by simp [signedText]

/-- How a number is brought to a width: not at all, with zeros after its sign, or with spaces before it. -/
inductive Pad where
  | bare
  | zero
  | space
  deriving Repr, DecidableEq

/-- A sign and digits brought to at least `width` characters. -/
def padded (pad : Pad) (width : Nat) (sign ds : List Char) : List Char :=
  let missing := width - (sign.length + ds.length)
  match pad with
  | .bare => sign ++ ds
  | .zero => sign ++ List.replicate missing '0' ++ ds
  | .space => List.replicate missing ' ' ++ sign ++ ds

/-- A number in exactly `width` digits, if it has no more than that. -/
def fixed (width n : Nat) : List Char := padded .zero width [] (digits n)

/-- Why a text is not read as a number. -/
inductive Fault where
  | empty
  | notDigit
  | tooLarge
  | tooSmall
  deriving Repr, DecidableEq

def Fault.message : Fault → String
  | .empty => "cannot parse integer from empty string"
  | .notDigit => "invalid digit found in string"
  | .tooLarge => "number too large to fit in target type"
  | .tooSmall => "number too small to fit in target type"

/-- The value of a decimal digit. -/
def digit? (c : Char) : Option Nat :=
  if '0' ≤ c ∧ c ≤ '9' then some (c.toNat - 0x30) else none

/-- Reads digits onto a value; `past` is what a value above `bound` is refused with. -/
def readDigits (bound : Nat) (past : Fault) : Nat → List Char → Except Fault Nat
  | n, [] => .ok n
  | n, c :: r =>
    match digit? c with
    | none => .error .notDigit
    | some d => if 10 * n + d ≤ bound then readDigits bound past (10 * n + d) r else .error past

/-- Reads a number of at most `bound`, with an optional plus sign. -/
def read? (bound : Nat) : List Char → Except Fault Nat
  | [] => .error .empty
  | '+' :: [] => .error .notDigit
  | '+' :: r => readDigits bound .tooLarge 0 r
  | cs => readDigits bound .tooLarge 0 cs

/-- Reads a number from `-(bound + 1)` to `bound`, with an optional sign. -/
def readSigned? (bound : Nat) : List Char → Except Fault Int
  | [] => .error .empty
  | '-' :: [] => .error .notDigit
  | '-' :: r => (readDigits (bound + 1) .tooSmall 0 r).map fun n => -(n : Int)
  | cs => (read? bound cs).map fun n => (n : Int)

end Decimal

/-- The largest number that a 64-bit word holds. -/
def maxWord : Nat := Nat.pow 2 64 - 1

/-- The largest number that a signed 64-bit word holds. -/
def maxSigned : Nat := Nat.pow 2 63 - 1

end NodeDesk
