import NodeDesk.Text.Cut
import NodeDesk.Url.Percent
/-!
# Form — pairs of texts in a query or in the body of a form

Pairs are separated by ampersands, and a key from its value by the first equals sign; an empty pair is none.  A plus
sign is a space, and bytes that are no text become replacement characters.
-/
namespace NodeDesk
namespace Url
namespace Form

/-- The bytes of one side of a pair. -/
def spaced (bs : Bytes) : Bytes := bs.map fun b => if b = 0x2B then 0x20 else b

/-- One side of a pair. -/
def decodeSide (bs : Bytes) : String := String.ofList (Utf8.decodeLossy (Percent.decode (spaced bs)))

/-- A pair; without an equals sign its value is empty. -/
def decodePair (bs : Bytes) : String × String :=
  match Text.cut? 0x3D bs with
  | some (k, v) => (decodeSide k, decodeSide v)
  | none => (decodeSide bs, "")

def decode (bs : Bytes) : List (String × String) :=
  ((Text.parts 0x26 bs).filter fun p => !p.isEmpty).map decodePair

/-- A character as it stands in a pair. -/
def encodeChar (c : Char) : List Char :=
  if c.isAlphanum || c = '*' || c = '-' || c = '.' || c = '_' then [c]
  else if c = ' ' then ['+']
  else (Utf8.encodeChar c).flatMap Percent.triple

/-- One side of a pair, written. -/
def encodeSide (s : String) : List Char := s.toList.flatMap encodeChar

/-- A pair, written. -/
def encodePair (p : String × String) : List Char := encodeSide p.1 ++ '=' :: encodeSide p.2

/-- The pairs of a form, written as a browser sends them. -/
def encode (ps : List (String × String)) : List Char := ((ps.map encodePair).intersperse ['&']).flatten

end Form
end Url
end NodeDesk
