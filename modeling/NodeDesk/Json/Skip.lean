import NodeDesk.Json.Reader
/-!
# Skip — passing over a value that nobody asks for

The value must be JSON, but its strings and numbers are not turned into any, and its lists and objects may lie as deep
as they like.
-/
namespace NodeDesk
namespace Json
namespace Skip

/-- Passes over the items of a list up to its end. -/
def items (element : List Char → Except Fault (List Char)) : Nat → List Char → Except Fault (List Char)
  | 0, _ => .error (.ended .list)
  | fuel + 1, cs => do
    let r ← element cs
    match skipSpace r with
    | [] => .error (.ended .list)
    | c :: r =>
      if c = ']' then .ok r
      else if c = ',' then items element fuel r
      else .error .noListComma

/-- Passes over a list from after its opening bracket. -/
def list (element : List Char → Except Fault (List Char)) (cs : List Char) : Except Fault (List Char) :=
  match skipSpace cs with
  | [] => .error (.ended .list)
  | c :: r => if c = ']' then .ok r else items element (r.length + 1) (c :: r)

/-- Passes over the members of an object up to its end. -/
def members (element : List Char → Except Fault (List Char)) : Nat → List Char → Except Fault (List Char)
  | 0, _ => .error (.ended .object)
  | fuel + 1, cs =>
    match skipSpace cs with
    | [] => .error (.ended .object)
    | c :: r =>
      if c = '"' then do
        let r ← Quoted.skip r
        let r ← colon r
        let r ← element r
        match skipSpace r with
        | [] => .error (.ended .object)
        | c :: r =>
          if c = '}' then .ok r
          else if c = ',' then members element fuel r
          else .error .noObjectComma
      else .error .badKey

/-- Passes over an object from after its opening brace. -/
def object (element : List Char → Except Fault (List Char)) (cs : List Char) : Except Fault (List Char) :=
  match skipSpace cs with
  | [] => .error (.ended .object)
  | c :: r => if c = '}' then .ok r else members element (r.length + 1) (c :: r)

/-- Passes over a value whose lists and objects lie less than `depth` deep in one another. -/
def valueWithin : Nat → List Char → Except Fault (List Char)
  | 0, _ => .error .tooDeep
  | depth + 1, cs =>
    match skipSpace cs with
    | [] => .error (.ended .value)
    | c :: r =>
      if c = 'n' then word ['u', 'l', 'l'] r
      else if c = 't' then word ['r', 'u', 'e'] r
      else if c = 'f' then word ['a', 'l', 's', 'e'] r
      else if c = '-' then Numeral.skip r
      else if c.isDigit then Numeral.skip (c :: r)
      else if c = '"' then Quoted.skip r
      else if c = '[' then list (valueWithin depth) r
      else if c = '{' then object (valueWithin depth) r
      else .error .noValue

/-- Passes over a value.  A text cannot nest deeper than it is long. -/
def value (cs : List Char) : Except Fault (List Char) := valueWithin (cs.length + 1) cs

end Skip
end Json
end NodeDesk
