import NodeDesk.Html.Piece
import NodeDesk.Json.Value
import NodeDesk.Url.Target
/-!
# Message — requests and replies

The value of a header is bytes; where text is asked for, a value that is not plain ASCII is as good as none.
-/
namespace NodeDesk
namespace Http

structure Request where
  method : String
  target : Url.Target
  headers : List (String × Bytes)
  body : Bytes
  deriving Repr, DecidableEq

structure Reply where
  status : Nat
  headers : List (String × String)
  body : String
  deriving Repr, DecidableEq

namespace Request

/-- The value of the first header of a name, whatever the case of its letters. -/
def header? (r : Request) (name : String) : Option Bytes :=
  (r.headers.find? fun h => h.1.toLower == name).map Prod.snd

/-- A byte that stands for a visible ASCII character, a space or a tab. -/
def isPlain (b : UInt8) : Bool := b = 0x09 || (0x20 ≤ b && b < 0x7F)

theorem isPlain_iff {b : UInt8} : isPlain b = true ↔ b = 0x09 ∨ 0x20 ≤ b.toNat ∧ b.toNat < 0x7F := by
  simp [isPlain, UInt8.le_iff_toNat_le, UInt8.lt_iff_toNat_lt]

/-- The text of bytes that are plain ASCII. -/
def plainText? (bs : Bytes) : Option String :=
  if bs.all isPlain then some (String.ofList (bs.map fun b => Char.ofNat b.toNat)) else none

def headerText? (r : Request) (name : String) : Option String := (r.header? name).bind plainText?

end Request

namespace Reply

def empty (status : Nat) : Reply := ⟨status, [], ""⟩

def html (ps : List Html.Piece) : Reply := ⟨200, [("content-type", "text/html; charset=utf-8")], Html.render ps⟩

def json (status : Nat) (v : Json.Value) : Reply := ⟨status, [("content-type", "application/json")], v.text⟩

def plain (status : Nat) (s : String) : Reply := ⟨status, [("content-type", "text/plain; charset=utf-8")], s⟩

/-- Leads to another page. -/
def redirect (location : String) : Reply := ⟨303, [("location", location)], ""⟩

def withHeader (r : Reply) (name value : String) : Reply := { r with headers := r.headers ++ [(name, value)] }

def bodiless (r : Reply) : Reply := { r with body := "" }

end Reply
end Http
end NodeDesk
