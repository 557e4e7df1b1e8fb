import NodeDesk.Json.Value
/-!
# Embedded — documents that hold documents as text

A key is agreed on as a mark.  An object whose first key is the mark stands for the document whose text is the string
after that key.  The text is read as a document by itself, with all the depth that a document may have, and may hold
others in turn.  An object that has the mark at a later place is an object like any other.
-/
namespace NodeDesk
namespace Json
namespace Embedded

/-- Passes over the first key of an object, from after the opening brace, if it is the mark. -/
def afterMark? (mark : String) (cs : List Char) : Option (List Char) :=
  match skipSpace cs with
  | [] => none
  | c :: r =>
    if c = '"' then
      match Quoted.read r with
      | .ok (key, r) => if key = mark then some r else none
      | .error _ => none
    else none

/-- Passes over the closing brace after a held text, which is the only member of its object. -/
def endOfObject (cs : List Char) : Except Fault (List Char) :=
  match skipSpace cs with
  | [] => .error (.ended .object)
  | c :: r =>
    if c = '}' then .ok r
    else .error (if c = ',' then .trailingComma else .trailingCharacters)

/-- Reads an object from after its opening brace; `held` reads a text that it may hold. -/
def object (mark : String) (held : List Char → Except Fault Value) (inner : Reader Value) : Reader Value := fun cs =>
  match afterMark? mark cs with
  | none => Value.objectOf inner cs
  | some r => do
    let (text, r) ← stringAs "raw value" (← colon r)
    let v ← held text.toList
    .ok (v, ← endOfObject r)

/-- Reads a document that holds others less than so deep in one another. -/
def documentWithin (mark : String) : Nat → List Char → Except Fault Value
  | 0, _ => .error .tooDeep
  | fuel + 1, cs => Json.document (Value.readObjectsBy (object mark (documentWithin mark fuel)) maxDepth) cs

/-- Reads a document of any shape.  A text that is held is shorter than the one that holds it, so the length of the
text is fuel enough. -/
def document (mark : String) (cs : List Char) : Except Fault Value := documentWithin mark (cs.length + 1) cs

end Embedded
end Json
end NodeDesk
