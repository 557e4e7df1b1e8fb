import NodeDesk.Json.Value
/-!
# Record — one line of the log

A line is a JSON object: the event, the severity, and then the other fields in the order of their keys.  Fields with
the same key keep their order.
-/
namespace NodeDesk
namespace Log

/-- How grave an event is. -/
inductive Severity where
  | info
  | warn
  | error
  /-- The program is about to end. -/
  | fatal
  deriving Repr, DecidableEq

def Severity.name : Severity → String
  | .info => "INFO"
  | .warn => "WARN"
  | .error => "ERROR"
  | .fatal => "FATAL"

/-- Whether events of a severity go to the error output. -/
def Severity.isError : Severity → Bool
  | .info => false
  | .warn => false
  | .error => true
  | .fatal => true

/-- An event with its fields. -/
structure Record where
  severity : Severity
  event : String
  fields : List (String × String)
  deriving Repr, DecidableEq

namespace Record

/-- The order of fields: by their keys. -/
def keyLe (a b : String × String) : Bool := !decide (b.1 < a.1)

def members (r : Record) : List (String × String) :=
  ("event", r.event) :: ("severity", r.severity.name) :: r.fields.mergeSort keyLe

/-- The line of a record, with the line break that ends it. -/
def lineChars (r : Record) : List Char :=
  (Json.Value.object (r.members.map fun m => (m.1, .string m.2))).write ++ ['\n']

def line (r : Record) : String := String.ofList r.lineChars

end Record
end Log
end NodeDesk
