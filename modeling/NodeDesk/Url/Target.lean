import NodeDesk.Text.Utf8
/-!
# Target — what a request asks for

A path and a query, from a line such as `/a/b?c=d`.  The whole must not be longer than 65534 bytes.  A fragment is no
part of the target, and a scheme and a host before the path are passed over.
-/
namespace NodeDesk
namespace Url

/-- What a request asks for. -/
structure Target where
  path : List Char
  /-- What stands after the question mark, if there is one. -/
  query : Option (List Char)
  deriving Repr, DecidableEq

namespace Target

/-- The most bytes that a target may have. -/
def maxSize : Nat := 65534

/-- The characters that a path may hold. -/
def isPathChar (c : Char) : Bool :=
  let n := c.toNat
  n == 0x21 || n == 0x22 || (0x24 ≤ n && n ≤ 0x3B) || n == 0x3D || (0x40 ≤ n && n ≤ 0x5F) || (0x61 ≤ n && n ≤ 0x7E)
    || 0x7F ≤ n

/-- The characters that a query may hold. -/
def isQueryChar (c : Char) : Bool :=
  let n := c.toNat
  n == 0x21 || (0x24 ≤ n && n ≤ 0x3B) || n == 0x3D || 0x3F ≤ n

/-- The text up to a fragment. -/
def dropFragment (cs : List Char) : List Char := cs.takeWhile (· != '#')

/-- The characters of a scheme. -/
def isSchemeChar (c : Char) : Bool := c.isAlphanum || c == '+' || c == '-' || c == '.' || c == '~'

/-- The characters that a host may hold, with what may stand beside it. -/
def isHostChar (c : Char) : Bool :=
  c.isAlphanum || "-._~!$&'()*+,;=:@[]%".toList.contains c

/-- What follows a scheme, which may be empty, and the colon and two slashes after it, if they are there. -/
def afterScheme? (cs : List Char) : Option (List Char) :=
  match cs.dropWhile isSchemeChar with
  | ':' :: '/' :: '/' :: r => some r
  | _ => none

/-- Passes over a scheme and a host, if there are any.  The path after a host starts at the root, even if it is not
written. -/
def afterHost (cs : List Char) : List Char :=
  match afterScheme? cs with
  | some r =>
    let rest := r.dropWhile isHostChar
    if rest.head? = some '/' then rest else '/' :: rest
  | none => cs

def split (cs : List Char) : Target :=
  match cs.dropWhile (· != '?') with
  | [] => ⟨cs.takeWhile (· != '?'), none⟩
  | _ :: q => ⟨cs.takeWhile (· != '?'), some q⟩

/-- Whether a target starts at the root and holds only what may stand in it. -/
def isLegal (t : Target) : Bool :=
  t.path.head? == some '/' && t.path.all isPathChar && (t.query.getD []).all isQueryChar

/-- Reads a target; nothing if it is empty, too long or not legal.  A star asks for the server as a whole, and a host
alone for nothing on it. -/
def read? (cs : List Char) : Option Target :=
  let line := dropFragment cs
  if line = [] ∨ maxSize < Utf8.size cs then none
  else if line = ['*'] then some ⟨line, none⟩
  else if line.all isHostChar then some ⟨[], none⟩
  else
    let t := split (afterHost line)
    if t.isLegal then some t else none

end Target
end Url
end NodeDesk
