import NodeDesk.Proofs.Catalogue.Admission
import NodeDesk.Proofs.Http.DoubleSubmit
import NodeDesk.Proofs.Http.Lookup
/-!
# Export — a catalogue that is told over HTTP can be loaded

A client that asks for each node of a catalogue in turn and puts the answers into one list has a file that is loaded
as that catalogue (`catalogue_reloads`), spam marks included.  Only a leap second within a minute is not kept: it is told
as the second after it.  No catalogue that was loaded from a file has one (`regular_after_load`).
-/
namespace NodeDesk

/-- The catalogue that the texts of its nodes tell. -/
def Catalogue.carried (c : Catalogue) : Catalogue where
  nodes := c.nodes.map Node.carried
  id_ne_empty := fun n hn => by
    obtain ⟨m, hm, rfl⟩ := List.mem_map.1 hn
    exact c.id_ne_empty m hm
  nodup_ids := by
    rw [List.map_map]
    exact c.nodup_ids

theorem Catalogue.carried_eq_iff {c : Catalogue} : c.carried = c ↔ ∀ n ∈ c.nodes, n.created.Regular := by
  rw [← Node.map_carried_eq_iff]
  exact ⟨congrArg Catalogue.nodes, fun h => Catalogue.eq_of_nodes (show c.carried.nodes = c.nodes from h)⟩

namespace Http
namespace Desk

/-- Texts as the items of one list. -/
def listed (texts : List String) : String := "[" ++ String.intercalate "," texts ++ "]"

theorem toList_listed (vs : List Json.Value) : (listed (vs.map Json.Value.text)).toList = (Json.Value.list vs).write := by
  unfold listed
  rw [String.toList_append, String.toList_append, String.toList_intercalate, Json.Value.write, Json.writeItems_eq,
    List.map_map]
  have htext : String.toList ∘ Json.Value.text = Json.Value.write := funext fun v => String.toList_ofList
  rw [htext]
  rfl

/-- **What is answered when nodes are asked for one after the other**, each by any desk at any moment. -/
def Told (c : Catalogue) (ns : List Node) (bodies : List String) : Prop :=
  List.Forall₂ (fun n body => ∃ (d : Desk) (m : Moment) (r : Request), IsLookup .node n.id r ∧
    (d.handle m c r).reply.body = body) ns bodies

theorem body_of_lookup {c : Catalogue} {n : Node} (hn : n ∈ c.nodes) {r : Request} (h : IsLookup .node n.id r) (d : Desk)
    (m : Moment) : (d.handle m c r).reply.body = n.text := by
  have hget : c.get? n.id = some n := Catalogue.get?_eq_some_iff.2 ⟨hn, rfl⟩
  rw [d.handle_node m c h]
  show (nodeReply c n.id).body = _
  unfold nodeReply
  rw [hget]
  rfl

theorem bodies_of_told {c : Catalogue} {ns : List Node} {bodies : List String} (h : Told c ns bodies)
    (hns : ∀ n ∈ ns, n ∈ c.nodes) : bodies = (ns.map Node.toJson).map Json.Value.text := by
  induction h with
  | nil => rfl
  | @cons n body ns bodies hn _ ih =>
    obtain ⟨d, m, r, hr, rfl⟩ := hn
    rw [body_of_lookup (hns n List.mem_cons_self) hr, ih fun n' hn' => hns n' (List.mem_cons_of_mem n hn')]
    rfl

theorem load_of_told {c : Catalogue} {bodies : List String} {files : Files} {path : String}
    (htold : Told c c.nodes bodies) (hfile : files path = .ok (Utf8.encode (listed bodies).toList)) :
    (Fixture.load path).run files = .ok c.carried := by
  rw [bodies_of_told htold fun n hn => hn, toList_listed] at hfile
  exact Fixture.load_ok_iff.2 (Fixture.holds_written hfile)

/-- A catalogue that was loaded has regular instants, whatever requests came since: they only set marks. -/
theorem regular_after_load {files : Files} {path : String} {c : Catalogue} (h : (Fixture.load path).run files = .ok c)
    (d : Desk) (rs : List (Moment × Request)) : ∀ n ∈ (d.after c rs).nodes, n.created.Regular := by
  have hloaded := Fixture.regular_of_holds (Fixture.load_ok_iff.1 h)
  obtain ⟨ids, hids⟩ := d.after_eq_markAll c rs
  rw [hids, Catalogue.nodes_markAll]
  intro n hn
  obtain ⟨m, hm, rfl⟩ := List.mem_map.1 hn
  split <;> exact hloaded m hm

/-- **A catalogue that is told over HTTP can be loaded.**  What is read from the text of a node is the node, but for a leap
second within a minute, which is told as the second after it.  If each node of a catalogue is asked for in turn and a
file holds the list of what is answered, the file is loaded as what the nodes tell.  That is the catalogue itself if no
node has such an instant, and so it is if the catalogue was loaded from a file, whatever requests came since. -/
theorem catalogue_reloads :
    (∀ n : Node, Json.document Node.reader n.text.toList = .ok n.carried ∧ (n.carried = n ↔ n.created.Regular)) ∧
    (∀ (c : Catalogue) (bodies : List String) (files : Files) (path : String), Told c c.nodes bodies →
      files path = .ok (Utf8.encode (listed bodies).toList) →
        (Fixture.load path).run files = .ok c.carried ∧ (c.carried = c ↔ ∀ n ∈ c.nodes, n.created.Regular)) ∧
    ∀ (c : Catalogue) (files : Files) (path : String), (Fixture.load path).run files = .ok c →
      ∀ (d : Desk) (rs : List (Moment × Request)), (d.after c rs).carried = d.after c rs := by
  refine ⟨fun n => ⟨n.document_text, Node.carried_eq_iff⟩, fun c bodies files path htold hfile => ?_, ?_⟩
  · exact ⟨load_of_told htold hfile, Catalogue.carried_eq_iff⟩
  · exact fun c files path hload d rs => Catalogue.carried_eq_iff.2 (regular_after_load hload d rs)

/-- A catalogue of two nodes, one with text for a flag, no title and a leap second before the year 0, the other marked. -/
theorem catalogue_reloads_of_two_nodes :
    let leap : Calendar.Instant := ⟨-62200000021, 1500000000, by decide, by decide, by decide⟩
    let a : Node := { id := "a", created := leap, isPublic := .named "true", contributors := [⟨"u"⟩] }
    let b : Node := { id := "b", title := some "\"\n\u2028", created := .epoch, spam := true }
    let c : Catalogue := ⟨[a, b], by decide, by decide⟩
    let path := "nodes.json"
    let d : Desk := ⟨{}, ⟨[], 3600⟩, 10, false, none⟩
    let m : Moment := ⟨.epoch, [], "", 0⟩
    let ask := fun (path : String) => (d.handle m c ⟨"GET", ⟨path.toList, none⟩, [], []⟩).reply.body
    let files : Files := fun _ => .ok (Utf8.encode (listed [ask "/admin/nodes/a/", ask "/admin/nodes/%62/"]).toList)
    (Fixture.load path).run files = .ok c ∧ ∀ rs, (d.after c rs).carried = d.after c rs := by
  intro leap a b c path d m ask files
  have ha : IsLookup .node "a" ⟨"GET", ⟨"/admin/nodes/a/".toList, none⟩, [], []⟩ := ⟨rfl, "a".toList, by decide, by decide⟩
  have hb : IsLookup .node "b" ⟨"GET", ⟨"/admin/nodes/%62/".toList, none⟩, [], []⟩ :=
    ⟨rfl, "%62".toList, by decide, by decide⟩
  obtain ⟨-, htold, hkept⟩ := catalogue_reloads
  obtain ⟨hload, hsame⟩ := htold c _ files path (.cons ⟨d, m, _, ha, rfl⟩ (.cons ⟨d, m, _, hb, rfl⟩ .nil)) rfl
  rw [hsame.2 (by decide)] at hload
  exact ⟨hload, hkept c files path hload d⟩

/-- A leap second after the first second of 1970 is told as the second after it.  So it comes back as that, and so does a
catalogue with it. -/
theorem leap_second_moves :
    let leap : Calendar.Instant := ⟨0, 1500000000, by decide, by decide, by decide⟩
    let next : Calendar.Instant := ⟨1, 500000000, by decide, by decide, by decide⟩
    let n : Node := { id := "a", created := leap }
    let n' : Node := { id := "a", created := next }
    let c : Catalogue := ⟨[n], by decide, by decide⟩
    let c' : Catalogue := ⟨[n'], by decide, by decide⟩
    let d : Desk := ⟨{}, ⟨[], 3600⟩, 10, false, none⟩
    let m : Moment := ⟨.epoch, [], "", 0⟩
    let told := (d.handle m c ⟨"GET", ⟨"/admin/nodes/a/".toList, none⟩, [], []⟩).reply.body
    let files : Files := fun _ => .ok (Utf8.encode (listed [told]).toList)
    n.text = n'.text ∧ Json.document Node.reader n.text.toList = .ok n' ∧ n' ≠ n ∧
      told = n.text ∧ (Fixture.load "nodes.json").run files = .ok c' ∧ c' ≠ c := by
  intro leap next n n' c c' d m told files
  have hnode : n.carried = n' := by decide +kernel
  have hcatalogue : c.carried = c' := Catalogue.eq_of_nodes (congrArg ([·]) hnode)
  have hlookup : IsLookup .node "a" ⟨"GET", ⟨"/admin/nodes/a/".toList, none⟩, [], []⟩ :=
    ⟨rfl, "a".toList, by decide, by decide⟩
  have htold : Told c c.nodes [told] := .cons ⟨d, m, _, hlookup, rfl⟩ .nil
  refine ⟨?_, ?_, by decide, body_of_lookup List.mem_cons_self hlookup d m, ?_, by decide⟩
  · rw [← hnode, n.text_carried]
  · rw [← hnode]
    exact n.document_text
  · rw [← hcatalogue]
    exact load_of_told htold rfl

end Desk
end Http
end NodeDesk
