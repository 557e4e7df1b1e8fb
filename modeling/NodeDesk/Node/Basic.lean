import NodeDesk.Calendar.Instant
/-!
# Node — what is listed

A node is a project or a part of one.  Its three status columns hold a flag, a text or nothing, and show it as it is
held; the only thing about a node that ever changes is its spam mark.
-/
namespace NodeDesk

/-- A person who works on nodes. -/
structure User where
  id : String
  deriving Repr, DecidableEq

/-- What a status column holds. -/
inductive Status where
  | flag (b : Bool)
  | named (s : String)
  | absent
  deriving Repr, DecidableEq

def Status.shown : Status → String
  | .flag true => "true"
  | .flag false => "false"
  | .named s => s
  | .absent => "None"

/-- A node as it is listed. -/
structure Node where
  id : String
  title : Option String := none
  parent : Option String := none
  root : Option String := none
  created : Calendar.Instant
  isPublic : Status := .absent
  retraction : Status := .absent
  embargo : Status := .absent
  contributors : List User := []
  /-- Set when an administrator confirms that the node is spam. -/
  spam : Bool := false
  deriving Repr, DecidableEq

/-- Whether a user is among the contributors of a node. -/
def Node.hasContributor (n : Node) (user : String) : Bool := n.contributors.any (·.id == user)

end NodeDesk
