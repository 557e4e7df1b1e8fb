import NodeDesk.Text.Utf8
/-!
# Percent — any text as one path segment

Every byte that is not an unreserved character of RFC 3986 is written as `%XX`, so the encoded text holds no `/`, `?`
or `#` and stays in the segment it is put into.
-/
namespace NodeDesk
namespace Url

/-- The letters, digits and four marks that stand for themselves in any part of a URL. -/
def isUnreserved (c : Char) : Bool :=
  c.isAlphanum || c = '-' || c = '.' || c = '_' || c = '~'

namespace Percent

/-- The upper-case hexadecimal digit of a number below sixteen. -/
def hexDigit (n : Nat) : Char :=
  if n < 10 then Char.ofNat (0x30 + n) else Char.ofNat (0x37 + n)

/-- The number of a hexadecimal digit of either case. -/
def hexValue? (b : UInt8) : Option Nat :=
  let n := b.toNat
  if 0x30 ≤ n ∧ n ≤ 0x39 then some (n - 0x30)
  else if 0x41 ≤ n ∧ n ≤ 0x46 then some (n - 0x37)
  else if 0x61 ≤ n ∧ n ≤ 0x66 then some (n - 0x57)
  else none

/-- A byte as `%XX`. -/
def triple (b : UInt8) : List Char := ['%', hexDigit (b.toNat / 16), hexDigit (b.toNat % 16)]

/-- A character as it stands in a segment: itself if unreserved, else a triple for each of its bytes. -/
def encodeChar (c : Char) : List Char :=
  if isUnreserved c then [c] else (Utf8.encodeChar c).flatMap triple

def encodeChars (cs : List Char) : List Char := cs.flatMap encodeChar

def encode (s : String) : String := String.ofList (encodeChars s.toList)

/-- Reads each `%` that two hexadecimal digits follow as the byte they name; every other byte stands for itself. -/
def decode : Bytes → Bytes
  | [] => []
  | b :: r =>
    if b = 0x25 then
      match r with
      | h :: l :: r' =>
        match hexValue? h, hexValue? l with
        | some x, some y => UInt8.ofNat (16 * x + y) :: decode r'
        | _, _ => b :: decode (h :: l :: r')
      | r => b :: decode r
    else b :: decode r

/-- The text that a segment stands for, if its bytes are text. -/
def decodeText? (cs : List Char) : Option (List Char) := Utf8.decode? (decode (Utf8.encode cs))

end Percent
end Url
end NodeDesk
