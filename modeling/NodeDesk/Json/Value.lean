import NodeDesk.Json.Reader
/-!
# Value — documents of any shape

A value is written compactly, its members in order.  It is read with a bound on how deep its lists and objects may
lie in one another.
-/
namespace NodeDesk
namespace Json

/-- Any value of a document. -/
inductive Value where
  | null
  | boolean (b : Bool)
  | number (n : Number)
  | string (s : String)
  | list (items : List Value)
  | object (members : List (String × Value))
  deriving Repr

namespace Value

/-- A natural number as a value. -/
def natural (n : Nat) : Value := .number (.integer n)

/-- A string or nothing. -/
def optional (s : Option String) : Value :=
  match s with
  | none => .null
  | some s => .string s

mutual

def write : Value → List Char
  | .null => ['n', 'u', 'l', 'l']
  | .boolean true => ['t', 'r', 'u', 'e']
  | .boolean false => ['f', 'a', 'l', 's', 'e']
  | .number n => n.text
  | .string s => Quoted.write s
  | .list items => '[' :: writeItems items ++ [']']
  | .object members => '{' :: writeMembers members ++ ['}']

/-- The texts of the items of a list, with commas between them. -/
def writeItems : List Value → List Char
  | [] => []
  | [v] => v.write
  | v :: vs => v.write ++ ',' :: writeItems vs

/-- The texts of the members of an object, with commas between them. -/
def writeMembers : List (String × Value) → List Char
  | [] => []
  | [(k, v)] => Quoted.write k ++ ':' :: v.write
  | (k, v) :: ms => Quoted.write k ++ ':' :: v.write ++ ',' :: writeMembers ms

end

def text (v : Value) : String := String.ofList v.write

/-- Reads an object from after its opening brace; `inner` reads its values. -/
def objectOf (inner : Reader Value) : Reader Value := fun cs =>
  let entry := fun key ms cs => do
    let r ← colon cs
    (inner r).map fun p => ((key, p.1) :: ms, p.2)
  (objectBody entry [] cs).map fun p => (.object p.1.reverse, p.2)

/-- Reads one value; `inner` reads those inside it, if there may be any, and `object` the objects that they make. -/
def readWith (object : Reader Value → Reader Value) (inner : Option (Reader Value)) : Reader Value := fun cs =>
  match skipSpace cs with
  | [] => .error (.ended .value)
  | c :: r =>
    if c = 'n' then (word ['u', 'l', 'l'] r).map fun r => (.null, r)
    else if c = 't' then (word ['r', 'u', 'e'] r).map fun r => (.boolean true, r)
    else if c = 'f' then (word ['a', 'l', 's', 'e'] r).map fun r => (.boolean false, r)
    else if c = '-' then (Numeral.read true r).map fun p => (.number p.1, p.2)
    else if c.isDigit then (Numeral.read false (c :: r)).map fun p => (.number p.1, p.2)
    else if c = '"' then (Quoted.read r).map fun p => (.string p.1, p.2)
    else if c = '[' then
      match inner with
      | none => .error .tooDeep
      | some inner => (listBody inner r).map fun p => (.list p.1, p.2)
    else if c = '{' then
      match inner with
      | none => .error .tooDeep
      | some inner => object inner r
    else .error .noValue

/-- Reads a value whose lists and objects lie at most so deep in one another, and its objects by a reader of their
own. -/
def readObjectsBy (object : Reader Value → Reader Value) : Nat → Reader Value
  | 0 => readWith object none
  | room + 1 => readWith object (some (readObjectsBy object room))

/-- Reads a value whose lists and objects lie at most `room` deep in one another. -/
def read (room : Nat) : Reader Value := readObjectsBy objectOf room

end Value

/-- How deep the lists and objects of a document may lie in one another. -/
def maxDepth : Nat := 127

end Json
end NodeDesk
