import NodeDesk.Http.Message
import NodeDesk.Text.Cut
/-!
# Route — which page a path leads to

Paths are compared segment by segment as they are written; the segment that holds an id may be any, even empty.
-/
namespace NodeDesk
namespace Http

/-- The listing. -/
def nodesPath : String := "/admin/nodes/"

/-- The listing with the form. -/
def spamPath : String := "/admin/spam/"

/-- Where the form is submitted to. -/
def confirmPath : String := "/admin/spam/confirm/"

/-- The pages of the desk. -/
inductive Route where
  | health
  | nodes
  /-- A node, by the segment that holds its id. -/
  | node (id : List Char)
  /-- A user, by the segment that holds their id. -/
  | user (id : List Char)
  | spam
  | confirm
  deriving Repr, DecidableEq

namespace Route

/-- The page of a path. -/
def ofPath? (path : List Char) : Option Route :=
  match (Text.parts '/' path).map String.ofList with
  | ["", "health"] => some .health
  | ["", "admin", "nodes", ""] => some .nodes
  | ["", "admin", "nodes", id, ""] => some (.node id.toList)
  | ["", "admin", "users", id, ""] => some (.user id.toList)
  | ["", "admin", "spam", ""] => some .spam
  | ["", "admin", "spam", "confirm", ""] => some .confirm
  | _ => none

/-- The methods of a page, as they are listed to a client that used another. -/
def allowed : Route → String
  | .confirm => "POST"
  | _ => "GET,HEAD"

/-- Whether a page answers a method. -/
def answers (r : Route) (method : String) : Bool :=
  match r with
  | .confirm => method == "POST"
  | _ => method == "GET" || method == "HEAD"

end Route
end Http
end NodeDesk
