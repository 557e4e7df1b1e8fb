import NodeDesk.Json.Skip
/-!
# Record — objects with known fields, and named alternatives

A record is read from an object, whose unknown members are passed over, or from a list of its fields in order.  The
value that is built up starts from `blank`; a field that the document does not give keeps what it has there, unless
it is required.  A choice is a name alone, or a name with the content it asks for.
-/
namespace NodeDesk
namespace Json

/-- A field of a record. -/
structure Field (σ : Type) where
  name : String
  required : Bool
  read : σ → Reader σ

/-- A field with the reader of its value and what it changes in the record. -/
def field {α σ : Type} (name : String) (required : Bool) (value : Reader α) (put : α → σ → σ) : Field σ :=
  ⟨name, required, fun s cs => (value cs).map fun p => (put p.1 s, p.2)⟩

/-- A record with its fields in order. -/
structure Shape (σ : Type) where
  name : String
  fields : List (Field σ)
  /-- The record before any field is read. -/
  blank : σ

namespace Shape

variable {σ : Type}

/-- What a list that is too short should have been. -/
def inFull (shape : Shape σ) : String :=
  let n := shape.fields.length
  shape.name ++ " with " ++ Decimal.text n ++ (if n = 1 then " element" else " elements")

/-- Reads the member of a key, next to the names of the fields that were already given. -/
def entry (shape : Shape σ) (key : String) (s : List String × σ) : Reader (List String × σ) := fun cs =>
  match shape.fields.find? (·.name == key) with
  | none => do
    let r ← Skip.value (← colon cs)
    .ok (s, r)
  | some f =>
    if s.1.contains key then .error (.repeatedField key)
    else do
      let (v, r) ← f.read s.2 (← colon cs)
      .ok ((key :: s.1, v), r)

/-- Reads a record from after the opening brace of an object. -/
def ofObject (shape : Shape σ) : Reader σ := fun cs => do
  let ((given, s), r) ← objectBody shape.entry ([], shape.blank) cs
  match shape.fields.find? fun f => f.required && !given.contains f.name with
  | some f => .error (.missingField f.name)
  | none => .ok (s, r)

/-- Passes over what stands before the next item of a list: nothing before the first, a comma before any other one.
Yields nothing at the end of the list. -/
def nextItem? (isFirst : Bool) (cs : List Char) : Except Fault (Option (List Char)) :=
  match skipSpace cs with
  | [] => .error (.ended .list)
  | c :: r =>
    if c = ']' then .ok none
    else if isFirst then .ok (some (c :: r))
    else if c = ',' then
      match skipSpace r with
      | [] => .error (.ended .value)
      | d :: r => if d = ']' then .error .trailingComma else .ok (some (d :: r))
    else .error .noListComma

/-- Passes over the closing bracket of a list after its last field. -/
def endOfList (cs : List Char) : Except Fault (List Char) :=
  match skipSpace cs with
  | [] => .error (.ended .list)
  | c :: r =>
    if c = ']' then .ok r
    else if c = ',' then
      match skipSpace r with
      | d :: _ => .error (if d = ']' then .trailingComma else .trailingCharacters)
      | [] => .error .trailingCharacters
    else .error .trailingCharacters

/-- Reads fields in order from a list, the next of which is the `i`th. -/
def ofItems (shape : Shape σ) : List (Field σ) → Nat → σ → Reader σ
  | [], _, s, cs => (endOfList cs).map fun r => (s, r)
  | f :: fs, i, s, cs => do
    match ← nextItem? (i == 0) cs with
    | some r =>
      let (s, r) ← f.read s r
      shape.ofItems fs (i + 1) s r
    | none =>
      match (f :: fs).findIdx? (·.required) with
      | some k => .error (.wrongLength (i + k) shape.inFull)
      | none => (endOfList cs).map fun r => (s, r)

def read (shape : Shape σ) : Reader σ := fun cs =>
  match skipSpace cs with
  | [] => .error (.ended .value)
  | c :: r =>
    if c = '{' then shape.ofObject r
    else if c = '[' then shape.ofItems shape.fields 0 shape.blank r
    else .error (refuse shape.name (c :: r))

end Shape

/-- One of several named alternatives. -/
inductive Alternative (α : Type) where
  /-- The name alone is the value. -/
  | bare (name : String) (a : α)
  /-- The name stands before the content. -/
  | holding (name : String) (content : Reader α)

namespace Alternative

variable {α : Type}

def name : Alternative α → String
  | .bare n _ => n
  | .holding n _ => n

def find (alternatives : List (Alternative α)) (name : String) : Except Fault (Alternative α) :=
  match alternatives.find? (·.name == name) with
  | some a => .ok a
  | none => .error (.unknownName name (alternatives.map Alternative.name))

/-- Reads what stands after the name and its colon. -/
def content : Alternative α → Reader α
  | .holding _ r => r
  | .bare _ a => fun cs =>
    match skipSpace cs with
    | [] => .error (.ended .value)
    | c :: r =>
      if c = 'n' then (word ['u', 'l', 'l'] r).map fun r => (a, r) else .error (refuse "unit" (c :: r))

end Alternative

/-- Reads the name of an alternative from after the opening brace of its object. -/
def choiceName : Reader String := fun cs =>
  match skipSpace cs with
  | [] => .error (.ended .object)
  | c :: r =>
    if c = '"' then Quoted.read r
    else if c = '}' then .error .noValue
    else .error .badKey

/-- Reads one of several alternatives: a name as a string, or an object of one member. -/
def choice {α : Type} (alternatives : List (Alternative α)) : Reader α := fun cs =>
  match skipSpace cs with
  | [] => .error (.ended .value)
  | c :: r =>
    if c = '"' then do
      let (name, r) ← Quoted.read r
      match ← Alternative.find alternatives name with
      | .bare _ a => .ok (a, r)
      | .holding .. => .error (.wrongKind .bareName "newtype variant")
    else if c = '{' then do
      let (name, r) ← choiceName r
      let alternative ← Alternative.find alternatives name
      let (a, r) ← alternative.content (← colon r)
      match skipSpace r with
      | [] => .error (.ended .object)
      | c :: r => if c = '}' then .ok (a, r) else .error .noValue
    else .error .noValue

end Json
end NodeDesk
