import NodeDesk.Json.Value
/-!
# Problem — why the desk does not do what it is asked

Each cause has a message and the HTTP status that it is answered with.
-/
namespace NodeDesk

/-- Why a request, a configuration or a list of nodes is refused. -/
inductive Problem where
  /-- There is no page of this number. -/
  | invalidPage (number : Nat)
  | nodeNotFound (id : String)
  /-- No node has this contributor. -/
  | userNotFound (id : String)
  /-- A confirmation without a valid token. -/
  | tokenRejected
  | invalidSubmission (why : String)
  | configuration (why : String)
  | fixture (why : String)
  deriving Repr, DecidableEq

namespace Problem

def message : Problem → String
  | .invalidPage n => "Invalid page: " ++ Decimal.text n
  | .nodeNotFound id => "Node not found: " ++ id
  | .userNotFound id => "User not found: " ++ id
  | .tokenRejected => "CSRF verification failed"
  | .invalidSubmission why => "Invalid submission: " ++ why
  | .configuration why => "Configuration error: " ++ why
  | .fixture why => "Fixture error: " ++ why

def status : Problem → Nat
  | .invalidPage _ => 404
  | .nodeNotFound _ => 404
  | .userNotFound _ => 404
  | .tokenRejected => 403
  | .invalidSubmission _ => 400
  | .configuration _ => 500
  | .fixture _ => 500

def toJson (p : Problem) : Json.Value := .object [("error", .string p.message), ("code", .natural p.status)]

end Problem
end NodeDesk
