import NodeDesk.Calendar.Codec
import NodeDesk.Node.Basic
/-!
# Codec — nodes and users in documents

A node is written with all of its fields in order; to be read it needs its id and its date only.
-/
namespace NodeDesk

namespace Status

def toJson : Status → Json.Value
  | .flag b => .boolean b
  | .named s => .string s
  | .absent => .null

/-- Reads a status column, which lies in a document so that `room` more levels may open inside it.  Any value is read
through before it is looked at. -/
def reader (room : Nat) : Json.Reader Status := fun cs => do
  let (v, r) ← Json.Value.read room cs
  match v with
  | .boolean b => .ok (.flag b, r)
  | .string s => .ok (.named s, r)
  | .null => .ok (.absent, r)
  | _ => .error (.noAlternative "FieldValue")

end Status

namespace User

def toJson (u : User) : Json.Value := .object [("id", .string u.id)]

def shape : Json.Shape User :=
  ⟨"struct User", [Json.field "id" true Json.string fun s u => { u with id := s }], ⟨""⟩⟩

def reader : Json.Reader User := shape.read

end User

namespace Node

def toJson (n : Node) : Json.Value :=
  .object [("id", .string n.id), ("title", .optional n.title), ("parent", .optional n.parent),
    ("root", .optional n.root), ("date_created", n.created.toJson), ("public", n.isPublic.toJson),
    ("retraction", n.retraction.toJson), ("embargo", n.embargo.toJson),
    ("contributors", .list (n.contributors.map User.toJson)), ("spam", .boolean n.spam)]

def text (n : Node) : String := n.toJson.text

/-- A node before any of it is read. -/
def blank : Node := { id := "", created := Calendar.Instant.epoch }

/-- The fields of a node in a document with room for `room` more levels inside the node. -/
def shape (room : Nat) : Json.Shape Node where
  name := "struct Node"
  blank := blank
  fields :=
    [Json.field "id" true Json.string fun s n => { n with id := s },
      Json.field "title" false (Json.optional Json.string) fun s n => { n with title := s },
      Json.field "parent" false (Json.optional Json.string) fun s n => { n with parent := s },
      Json.field "root" false (Json.optional Json.string) fun s n => { n with root := s },
      Json.field "date_created" true Calendar.Instant.reader fun t n => { n with created := t },
      Json.field "public" false (Status.reader room) fun v n => { n with isPublic := v },
      Json.field "retraction" false (Status.reader room) fun v n => { n with retraction := v },
      Json.field "embargo" false (Status.reader room) fun v n => { n with embargo := v },
      Json.field "contributors" false (Json.list User.reader) fun us n => { n with contributors := us },
      Json.field "spam" false Json.boolean fun b n => { n with spam := b }]

def reader : Json.Reader Node := (shape (Json.maxDepth - 1)).read

def listReader : Json.Reader (List Node) := Json.list (shape (Json.maxDepth - 2)).read

end Node
end NodeDesk
