import NodeDesk.Catalogue
import NodeDesk.Files
import NodeDesk.Node.Codec
import NodeDesk.Problem
/-!
# Fixture — the catalogue in a file

The file holds a list of nodes, which are admitted in their order.
-/
namespace NodeDesk
namespace Fixture

def ofNodes (nodes : List Node) : Except Problem Catalogue :=
  match Catalogue.ofList nodes with
  | .ok c => .ok c
  | .error f => .error (.fixture f.message)

def ofText (cs : List Char) : Except Problem Catalogue :=
  match Json.document Node.listReader cs with
  | .error f => .error (.fixture ("Invalid node JSON: " ++ f.message))
  | .ok nodes => ofNodes nodes

def load (path : String) : Reading (Except Problem Catalogue) := do
  match ← readText path with
  | .error f => return .error (.fixture ("Failed to read " ++ path ++ ": " ++ f.message))
  | .ok cs => return ofText cs

end Fixture
end NodeDesk
