import NodeDesk.Calendar.Stamp
import NodeDesk.Text.Shown
/-!
# Fault — why a document is not read

Either the text is no JSON, or a value of it is not what is asked for.  A reader goes from left to right and reports
the first fault that it meets.
-/
namespace NodeDesk
namespace Json

/-- What the text ends in the middle of. -/
inductive Part where
  | value
  | string
  | list
  | object
  deriving Repr, DecidableEq

def Part.name : Part → String
  | .value => "a value"
  | .string => "a string"
  | .list => "a list"
  | .object => "an object"

/-- A value that stands where another kind of value is asked for. -/
inductive Found where
  | null
  | boolean (b : Bool)
  | integer (i : Int)
  /-- A number that is no integer, by its text. -/
  | float (text : String)
  | string (s : String)
  | list
  | object
  /-- The name of an alternative that stands for itself. -/
  | bareName
  deriving Repr, DecidableEq

/-- A value in a message. -/
def Found.describe : Found → String
  | .null => "null"
  | .boolean b => "boolean `" ++ (if b then "true" else "false") ++ "`"
  | .integer i => "integer `" ++ Decimal.signedText i ++ "`"
  | .float text => "floating point `" ++ text ++ "`"
  | .string s => "string " ++ Text.shown s
  | .list => "sequence"
  | .object => "map"
  | .bareName => "unit variant"

/-- Why a document is not read. -/
inductive Fault where
  | ended (within : Part)
  | noValue
  | badWord
  | noColon
  | noListComma
  | noObjectComma
  | trailingComma
  | trailingCharacters
  | badKey
  | badEscape
  | controlCharacter
  /-- A surrogate that no other one goes before. -/
  | loneSurrogate
  /-- A surrogate that no other one follows. -/
  | halfPair
  | badNumber
  | numberTooLarge
  | tooDeep
  /-- A value of another kind than is asked for. -/
  | wrongKind (found : Found) (expected : String)
  /-- A value of the kind that is asked for, but out of its range. -/
  | wrongValue (found : Found) (expected : String)
  /-- A list with too few values. -/
  | wrongLength (length : Nat) (expected : String)
  | unknownName (name : String) (known : List String)
  | missingField (name : String)
  | repeatedField (name : String)
  /-- A value that is none of the kinds that a type admits. -/
  | noAlternative (type : String)
  /-- A text that is no instant. -/
  | badInstant (fault : Calendar.Stamp.Fault)
  deriving Repr, DecidableEq

/-- Names between back quotes, with commas. -/
def quotedNames (names : List String) : String :=
  String.intercalate ", " (names.map fun n => "`" ++ n ++ "`")

/-- What is said of a document that is not read. -/
def Fault.message : Fault → String
  | .ended within => "EOF while parsing " ++ within.name
  | .noValue => "expected value"
  | .badWord => "expected ident"
  | .noColon => "expected `:`"
  | .noListComma => "expected `,` or `]`"
  | .noObjectComma => "expected `,` or `\x7d`"
  | .trailingComma => "trailing comma"
  | .trailingCharacters => "trailing characters"
  | .badKey => "key must be a string"
  | .badEscape => "invalid escape"
  | .controlCharacter => "control character (\\u0000-\\u001F) found while parsing a string"
  | .loneSurrogate => "lone leading surrogate in hex escape"
  | .halfPair => "unexpected end of hex escape"
  | .badNumber => "invalid number"
  | .numberTooLarge => "number out of range"
  | .tooDeep => "recursion limit exceeded"
  | .wrongKind found expected => "invalid type: " ++ found.describe ++ ", expected " ++ expected
  | .wrongValue found expected => "invalid value: " ++ found.describe ++ ", expected " ++ expected
  | .wrongLength n expected => "invalid length " ++ Decimal.text n ++ ", expected " ++ expected
  | .unknownName name known => "unknown variant `" ++ name ++ "`, expected one of " ++ quotedNames known
  | .missingField name => "missing field `" ++ name ++ "`"
  | .repeatedField name => "duplicate field `" ++ name ++ "`"
  | .noAlternative type => "data did not match any variant of untagged enum " ++ type
  | .badInstant fault => fault.message

/-- A reader takes a text and yields a value and the rest of the text. -/
abbrev Reader (α : Type) := List Char → Except Fault (α × List Char)

/-- The four characters that may stand between the parts of a document. -/
def isSpace (c : Char) : Bool := c == ' ' || c == '\n' || c == '\t' || c == '\r'

/-- The text from its first character that is not a space. -/
def skipSpace (cs : List Char) : List Char := cs.dropWhile isSpace

/-- Passes over the rest of a word. -/
def word : List Char → List Char → Except Fault (List Char)
  | [], cs => .ok cs
  | _ :: _, [] => .error (.ended .value)
  | w :: ws, c :: cs => if c = w then word ws cs else .error .badWord

/-- Passes over the colon after a key. -/
def colon (cs : List Char) : Except Fault (List Char) :=
  match skipSpace cs with
  | [] => .error (.ended .object)
  | c :: r => if c = ':' then .ok r else .error .noColon

end Json
end NodeDesk
