import NodeDesk.Json.Numeral
import NodeDesk.Json.Quoted
/-!
# Reader — the parts of a document, one kind at a time

Each reader asks for one kind of value and names what it asks for when another kind stands there (`refuse`).  Lists
and objects are read by loops over their items (`items`, `members`), which serve typed records and free values alike.
-/
namespace NodeDesk
namespace Json

/-- The fault of a value that is not of the expected kind; a value that is itself ill-formed is the fault then. -/
def refuse (expected : String) (cs : List Char) : Fault :=
  match skipSpace cs with
  | [] => .ended .value
  | c :: r =>
    if c = 'n' then after (word ['u', 'l', 'l'] r) .null
    else if c = 't' then after (word ['r', 'u', 'e'] r) (.boolean true)
    else if c = 'f' then after (word ['a', 'l', 's', 'e'] r) (.boolean false)
    else if c = '-' then number (Numeral.read true r)
    else if c.isDigit then number (Numeral.read false (c :: r))
    else if c = '"' then
      match Quoted.read r with
      | .error f => f
      | .ok (s, _) => .wrongKind (.string s) expected
    else if c = '[' then .wrongKind .list expected
    else if c = '{' then .wrongKind .object expected
    else .noValue
where
  /-- The fault after a word. -/
  after (w : Except Fault (List Char)) (found : Found) : Fault :=
    match w with
    | .error f => f
    | .ok _ => .wrongKind found expected
  /-- The fault after a number. -/
  number (n : Except Fault (Number × List Char)) : Fault :=
    match n with
    | .error f => f
    | .ok (n, _) => .wrongKind n.found expected

/-- Reads `true` or `false`. -/
def boolean : Reader Bool := fun cs =>
  match skipSpace cs with
  | [] => .error (.ended .value)
  | c :: r =>
    if c = 't' then (word ['r', 'u', 'e'] r).map fun r => (true, r)
    else if c = 'f' then (word ['a', 'l', 's', 'e'] r).map fun r => (false, r)
    else .error (refuse "a boolean" (c :: r))

/-- Reads a string; `expected` says what kind of string. -/
def stringAs (expected : String) : Reader String := fun cs =>
  match skipSpace cs with
  | [] => .error (.ended .value)
  | c :: r => if c = '"' then Quoted.read r else .error (refuse expected (c :: r))

def string : Reader String := stringAs "a string"

/-- Reads an integer between two bounds; `expected` names its type. -/
def integer (low high : Int) (expected : String) : Reader Int := fun cs =>
  match skipSpace cs with
  | [] => .error (.ended .value)
  | c :: r =>
    if c = '-' then check (Numeral.read true r)
    else if c.isDigit then check (Numeral.read false (c :: r))
    else .error (refuse expected (c :: r))
where
  /-- Accepts an integer within the bounds. -/
  check (n : Except Fault (Number × List Char)) : Except Fault (Int × List Char) :=
    match n with
    | .error f => .error f
    | .ok (.integer i, r) => if low ≤ i ∧ i ≤ high then .ok (i, r) else .error (.wrongValue (.integer i) expected)
    | .ok (n, _) => .error (.wrongKind n.found expected)

/-- Reads a number from zero to a bound. -/
def natural (high : Nat) (expected : String) : Reader Nat := fun cs =>
  (integer 0 high expected cs).map fun p => (p.1.toNat, p.2)

/-- Reads `null` as nothing, and anything else by another reader. -/
def optional {α : Type} (inner : Reader α) : Reader (Option α) := fun cs =>
  match skipSpace cs with
  | [] => .error (.ended .value)
  | c :: r =>
    if c = 'n' then (word ['u', 'l', 'l'] r).map fun r => (none, r)
    else (inner (c :: r)).map fun p => (some p.1, p.2)

/-- Reads the items of a list up to its end.  Each round passes over a comma at least, so the length of the text is
fuel enough. -/
def items {α : Type} (element : Reader α) : Nat → Reader (List α)
  | 0, _ => .error (.ended .list)
  | fuel + 1, cs => do
    let (a, r) ← element cs
    match skipSpace r with
    | [] => .error (.ended .list)
    | c :: r =>
      if c = ']' then .ok ([a], r)
      else if c = ',' then
        match skipSpace r with
        | [] => .error (.ended .value)
        | d :: r =>
          if d = ']' then .error .trailingComma
          else (items element fuel (d :: r)).map fun p => (a :: p.1, p.2)
      else .error .noListComma

/-- Reads a list from after its opening bracket. -/
def listBody {α : Type} (element : Reader α) : Reader (List α) := fun cs =>
  match skipSpace cs with
  | [] => .error (.ended .list)
  | c :: r => if c = ']' then .ok ([], r) else items element (r.length + 1) (c :: r)

def list {α : Type} (element : Reader α) : Reader (List α) := fun cs =>
  match skipSpace cs with
  | [] => .error (.ended .value)
  | c :: r => if c = '[' then listBody element r else .error (refuse "a sequence" (c :: r))

/-- Reads the members of an object, from after the opening quote of a key, up to its end.  `entry` reads what follows
a key into what was gathered so far. -/
def members {σ : Type} (entry : String → σ → Reader σ) : Nat → σ → Reader σ
  | 0, _, _ => .error (.ended .object)
  | fuel + 1, s, cs => do
    let (key, r) ← Quoted.read cs
    let (s, r) ← entry key s r
    match skipSpace r with
    | [] => .error (.ended .object)
    | c :: r =>
      if c = '}' then .ok (s, r)
      else if c = ',' then
        match skipSpace r with
        | [] => .error (.ended .value)
        | d :: r =>
          if d = '"' then members entry fuel s r
          else if d = '}' then .error .trailingComma
          else .error .badKey
      else .error .noObjectComma

/-- Reads an object from after its opening brace. -/
def objectBody {σ : Type} (entry : String → σ → Reader σ) (s : σ) : Reader σ := fun cs =>
  match skipSpace cs with
  | [] => .error (.ended .object)
  | c :: r =>
    if c = '}' then .ok (s, r)
    else if c = '"' then members entry (r.length + 1) s r
    else .error .badKey

/-- Reads a document that is one value and nothing else. -/
def document {α : Type} (r : Reader α) (cs : List Char) : Except Fault α :=
  match r cs with
  | .error f => .error f
  | .ok (a, rest) => if (skipSpace rest).isEmpty then .ok a else .error .trailingCharacters

end Json
end NodeDesk
