import NodeDesk.Page
/-!
# Catalogue — all nodes, in the order in which they came

No id is empty and no two nodes have the same id.  Nodes are only ever added at the end, and all that changes about a
node is its spam mark, which is set once and stays.
-/
namespace NodeDesk

/-- All nodes in their order. -/
structure Catalogue where
  nodes : List Node
  id_ne_empty : ∀ n ∈ nodes, n.id ≠ ""
  nodup_ids : (nodes.map Node.id).Nodup
  deriving DecidableEq

def Node.markSpam (n : Node) : Node := { n with spam := true }

namespace Catalogue

def empty : Catalogue := ⟨[], by simp, by simp⟩

/-- Why a node is not admitted. -/
inductive Refusal where
  | emptyId
  | repeatedId (id : String)
  deriving Repr, DecidableEq

def Refusal.message : Refusal → String
  | .emptyId => "Node id must not be empty"
  | .repeatedId id => "Duplicate node id: " ++ id

/-- Whether a node has the id. -/
def contains (c : Catalogue) (id : String) : Bool := c.nodes.any (·.id == id)

/-- Adds a node at the end. -/
def insert (c : Catalogue) (n : Node) : Except Refusal Catalogue :=
  if he : n.id = "" then .error .emptyId
  else if hd : c.contains n.id then .error (.repeatedId n.id)
  else .ok {
    nodes := c.nodes ++ [n]
    id_ne_empty := by
      intro m hm
      rcases List.mem_append.1 hm with hm | hm
      · exact c.id_ne_empty m hm
      · rw [List.mem_singleton.1 hm]; exact he
    nodup_ids := by
      have hc : ∀ m ∈ c.nodes, m.id ≠ n.id := by simpa [contains] using hd
      rw [List.map_append, List.nodup_append]
      refine ⟨c.nodup_ids, by simp, fun a ha b hb => ?_⟩
      obtain ⟨m, hm, rfl⟩ := List.mem_map.1 ha
      simp only [List.map_cons, List.map_nil, List.mem_singleton] at hb
      exact hb ▸ hc m hm }

/-- The catalogue of a list of nodes, admitted one after the other. -/
def ofList (nodes : List Node) : Except Refusal Catalogue := nodes.foldlM insert empty

def size (c : Catalogue) : Nat := c.nodes.length

def get? (c : Catalogue) (id : String) : Option Node := c.nodes.find? (·.id == id)

/-- The nodes that a user works on. -/
def ofUser (c : Catalogue) (user : String) : List Node := c.nodes.filter (·.hasContributor user)

def page? (c : Catalogue) (number perPage : Nat) : Option Page :=
  let status : PageStatus := ⟨number, perPage, c.size⟩
  if perPage = 0 ∨ number = 0 ∨ status.pages < number then none
  else some ⟨(c.nodes.drop status.offset).take perPage, status⟩

/-- Sets the spam mark of a node if its id is among `ids`. -/
def markAmong (ids : List String) (n : Node) : Node := if ids.contains n.id then n.markSpam else n

theorem id_markAmong (ids : List String) (n : Node) : (markAmong ids n).id = n.id := by
  unfold markAmong; split <;> rfl

/-- The catalogue with the spam marks of all nodes set whose ids are among `ids`. -/
def markAll (c : Catalogue) (ids : List String) : Catalogue where
  nodes := c.nodes.map (markAmong ids)
  id_ne_empty := by
    intro m hm
    obtain ⟨n, hn, rfl⟩ := List.mem_map.1 hm
    rw [id_markAmong]; exact c.id_ne_empty n hn
  nodup_ids := by
    have h : Node.id ∘ markAmong ids = Node.id := funext (id_markAmong ids)
    rw [List.map_map, h]; exact c.nodup_ids

/-- How many nodes `markAll` would newly mark. -/
def unmarked (c : Catalogue) (ids : List String) : Nat :=
  c.nodes.countP fun n => ids.contains n.id && !n.spam

/-- Sets the spam marks of the nodes with these ids and counts those that were not set before.  If an id is not in the
catalogue, the first such is named and nothing is marked. -/
def mark (c : Catalogue) (ids : List String) : Except String (Nat × Catalogue) :=
  match ids.find? fun id => !c.contains id with
  | some id => .error id
  | none => .ok (c.unmarked ids, c.markAll ids)

end Catalogue
end NodeDesk
