import NodeDesk.Node.Codec
import NodeDesk.Proofs.Calendar.Stamp
import NodeDesk.Proofs.Json.Keeps
import NodeDesk.Proofs.Json.Reads
/-!
# Codec — nodes come back from their texts

Each part of a node is read from its text (`reads_instant`, `reads_status`, `reads_user`), so a node is the record that
its text fills (`reads_node`), whatever the room for it in a document.  Its instant alone may come back as another: the
text carries a leap second within a minute on to the second after it (`Node.carried_eq_iff`).  No node that was read from
a document has such an instant (`regular_of_document`).
-/
namespace NodeDesk

open Json (Reads Value)

namespace Calendar

theorem reads_instant (t : Instant) : Reads Instant.reader t.toJson.write t.carried := by
  intro rest hrest
  show Instant.reader (Json.Quoted.write (String.ofList (Stamp.write t)) ++ rest) = _
  unfold Instant.reader
  rw [Json.reads_stringAs _ _ rest hrest]
  simp only [bind, Except.bind, String.toList_ofList, Stamp.read_write]

theorem yields_instant : Json.Yields Instant.reader Instant.Regular := by
  intro cs t rest h
  unfold Instant.reader at h
  obtain ⟨⟨s, r⟩, -, h⟩ := bind_eq_ok_iff.1 h
  dsimp only at h
  split at h
  · cases h
    exact Stamp.regular_of_read ‹_›
  · cases h

end Calendar

/-- A text in a status column is never taken for a flag or for nothing. -/
theorem reads_status (room : Nat) (s : Status) : Reads (Status.reader room) s.toJson.write s := by
  intro rest hrest
  unfold Status.reader
  cases s with
  | flag b => rw [Status.toJson, Value.reads_boolean room b rest hrest]; rfl
  | named s => rw [Status.toJson, Value.reads_string room s rest hrest]; rfl
  | absent => rw [Status.toJson, Value.reads_null room rest hrest]; rfl

theorem reads_user (u : User) : Reads User.reader u.toJson.write u :=
  have hfills : Json.Fills User.shape.fields User.shape.blank [.string u.id] u :=
    .cons (Json.reads_field (Json.reads_string u.id) _ _ _ _) (.nil _)
  Json.Shape.reads_record hfills (by decide)

namespace Node

/-- The node that the text of a node tells. -/
def carried (n : Node) : Node := { n with created := n.created.carried }

theorem carried_eq_iff {n : Node} : n.carried = n ↔ n.created.Regular := by
  rw [← Calendar.Instant.carried_eq_iff]
  refine ⟨congrArg Node.created, fun h => ?_⟩
  unfold carried
  rw [h]

theorem map_carried_eq_iff {ns : List Node} : ns.map carried = ns ↔ ∀ n ∈ ns, n.created.Regular := by
  have h := @List.map_inj_left _ _ ns carried fun n => n
  rw [List.map_id'] at h
  exact h.trans (forall₂_congr fun _ _ => carried_eq_iff)

/-- The values of the fields of a node in their order. -/
def values (n : Node) : List Value :=
  [.string n.id, .optional n.title, .optional n.parent, .optional n.root, n.created.toJson, n.isPublic.toJson,
    n.retraction.toJson, n.embargo.toJson, .list (n.contributors.map User.toJson), .boolean n.spam]

/-- **A node fills its fields**, its instant carried on. -/
theorem fills (n : Node) (room : Nat) : Json.Fills (shape room).fields blank n.values n.carried := by
  have husers : Reads (Json.list User.reader) (Value.list (n.contributors.map User.toJson)).write n.contributors :=
    Json.reads_list (List.forall₂_map_left_iff.2 (List.forall₂_same.2 fun u _ => ⟨Json.opens_object _, reads_user u⟩))
  refine .cons (Json.reads_field (Json.reads_string n.id) _ _ _ _) ?_
  refine .cons (Json.reads_field (Json.reads_optional_string n.title) _ _ _ _) ?_
  refine .cons (Json.reads_field (Json.reads_optional_string n.parent) _ _ _ _) ?_
  refine .cons (Json.reads_field (Json.reads_optional_string n.root) _ _ _ _) ?_
  refine .cons (Json.reads_field (Calendar.reads_instant n.created) _ _ _ _) ?_
  refine .cons (Json.reads_field (reads_status room n.isPublic) _ _ _ _) ?_
  refine .cons (Json.reads_field (reads_status room n.retraction) _ _ _ _) ?_
  refine .cons (Json.reads_field (reads_status room n.embargo) _ _ _ _) ?_
  refine .cons (Json.reads_field husers _ _ _ _) ?_
  exact .cons (Json.reads_field (Json.reads_boolean n.spam) _ _ _ _) (.nil _)

/-- **A node is read from its text**, its instant carried on. -/
theorem reads_node (n : Node) (room : Nat) : Reads (shape room).read n.toJson.write n.carried :=
  have hnames : ((shape room).fields.map Json.Field.name).Nodup := by
    show ["id", "title", "parent", "root", "date_created", "public", "retraction", "embargo", "contributors",
      "spam"].Nodup
    decide
  Json.Shape.reads_record (n.fills room) hnames

theorem text_carried (n : Node) : n.carried.text = n.text := by
  have hdate : n.carried.created.toJson = n.created.toJson := by
    unfold carried Calendar.Instant.toJson
    rw [Calendar.Stamp.write_carried]
  unfold text toJson
  rw [hdate]
  rfl

theorem document_text (n : Node) : Json.document reader n.text.toList = .ok n.carried := by
  unfold text Value.text
  rw [String.toList_ofList]
  exact Json.document_of_reads (n.reads_node _)

/-- **Nodes are read from the list of their texts.** -/
theorem document_list (ns : List Node) :
    Json.document listReader (Value.list (ns.map toJson)).write = .ok (ns.map carried) := by
  refine Json.document_of_reads (Json.reads_list ?_)
  rw [List.forall₂_map_left_iff, List.forall₂_map_right_iff, List.forall₂_same]
  exact fun n _ => ⟨Json.opens_object _, n.reads_node _⟩

theorem keeps_created {α : Type} {r : Json.Reader α} {put : α → Node → Node} (h : ∀ a n, (put a n).created = n.created)
    (name : String) (required : Bool) :
    (Json.field name required r put).Keeps fun n => n.created.Regular :=
  Json.keeps_field (fun _ _ _ _ => trivial) (fun a n _ hn => (h a n).symm ▸ hn) name required

theorem yields_node (room : Nat) : Json.Yields (shape room).read fun n => n.created.Regular := by
  refine Json.Shape.yields_read (show Calendar.Instant.epoch.Regular by decide) ?_
  unfold shape
  simp only [List.forall_mem_cons, List.not_mem_nil, false_imp_iff, implies_true, and_true]
  -- Only the date sets the instant, and it is read by a reader of regular ones; the other fields leave it as it is.
  refine ⟨?_, ?_, ?_, ?_, ?date, ?_, ?_, ?_, ?_, ?_⟩
  case date =>
    exact Json.keeps_field (P := fun n : Node => n.created.Regular) Calendar.yields_instant (fun _ _ ht _ => ht) _ _
  all_goals
    refine keeps_created ?_ _ _
    exact fun _ _ => rfl

/-- **Nodes that are read from a document have regular instants.** -/
theorem regular_of_document {cs : List Char} {ns : List Node} (h : Json.document listReader cs = .ok ns) :
    ∀ n ∈ ns, n.created.Regular :=
  (yields_node _).list.document h

end Node
end NodeDesk
