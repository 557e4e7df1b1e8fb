/-!
# Utf8 — text as bytes and back

`encode` writes each character in one to four bytes.  Reading is one machine, `units`: it yields a character for each
well-formed sequence and `none` for each maximal ill-formed run, so the strict reader (`decode?`) and the lossy reader
(`decodeLossy`) differ only in what they do with a `none`.
-/
namespace NodeDesk

/-- A sequence of bytes: a request body, a secret, the content of a file. -/
abbrev Bytes := List UInt8

namespace Utf8

def encodeChar (c : Char) : Bytes :=
  let n := c.toNat
  if n < 0x80 then [UInt8.ofNat n]
  else if n < 0x800 then [UInt8.ofNat (0xC0 + n / 64), UInt8.ofNat (0x80 + n % 64)]
  else if n < 0x10000 then
    [UInt8.ofNat (0xE0 + n / 4096), UInt8.ofNat (0x80 + n / 64 % 64), UInt8.ofNat (0x80 + n % 64)]
  else
    [UInt8.ofNat (0xF0 + n / 262144), UInt8.ofNat (0x80 + n / 4096 % 64), UInt8.ofNat (0x80 + n / 64 % 64),
      UInt8.ofNat (0x80 + n % 64)]

def encode (cs : List Char) : Bytes := cs.flatMap encodeChar

@[simp] theorem encode_nil : encode [] = [] := rfl

@[simp] theorem encode_cons (c : Char) (cs : List Char) : encode (c :: cs) = encodeChar c ++ encode cs := rfl

@[simp] theorem encode_append (cs ds : List Char) : encode (cs ++ ds) = encode cs ++ encode ds := by
  simp [encode]

/-- Where the reader stands: between characters, or inside one. -/
inductive State where
  /-- Between two characters. -/
  | idle
  /-- Inside a character: its bits so far, how many bytes it still needs, and the bounds of the next one. -/
  | within (code more low high : Nat)

/-- Reads a byte that opens a character: what it yields by itself, and where the reader stands after it.  The bounds
of the second byte keep overlong forms, surrogates and values above the last character out. -/
def lead (b : UInt8) : List (Option Char) × State :=
  let n := b.toNat
  if n < 0x80 then ([some (Char.ofNat n)], .idle)
  else if n < 0xC2 then ([none], .idle)
  else if n < 0xE0 then ([], .within (n - 0xC0) 1 0x80 0xBF)
  else if n = 0xE0 then ([], .within 0 2 0xA0 0xBF)
  else if n = 0xED then ([], .within 0xD 2 0x80 0x9F)
  else if n < 0xF0 then ([], .within (n - 0xE0) 2 0x80 0xBF)
  else if n = 0xF0 then ([], .within 0 3 0x90 0xBF)
  else if n < 0xF4 then ([], .within (n - 0xF0) 3 0x80 0xBF)
  else if n = 0xF4 then ([], .within 4 3 0x80 0x8F)
  else ([none], .idle)

/-- Reads bytes as characters; `none` stands for each maximal run that is the start of no character.  A byte that
does not continue the open character closes the run and is read again as an opening byte. -/
def units : State → Bytes → List (Option Char)
  | .idle, [] => []
  | .within .., [] => [none]
  | .idle, b :: r => (lead b).1 ++ units (lead b).2 r
  | .within code more low high, b :: r =>
    if low ≤ b.toNat ∧ b.toNat ≤ high then
      let code := code * 64 + (b.toNat - 0x80)
      if more ≤ 1 then some (Char.ofNat code) :: units .idle r
      else units (.within code (more - 1) 0x80 0xBF) r
    else none :: ((lead b).1 ++ units (lead b).2 r)

/-- The text of well-formed bytes, nothing for any others. -/
def decode? (bs : Bytes) : Option (List Char) := (units .idle bs).mapM id

/-- The text of any bytes: each ill-formed run becomes one replacement character. -/
def decodeLossy (bs : Bytes) : List Char := (units .idle bs).map (·.getD '\uFFFD')

/-- The number of bytes that a text takes. -/
def size (cs : List Char) : Nat := (encode cs).length

end Utf8
end NodeDesk
