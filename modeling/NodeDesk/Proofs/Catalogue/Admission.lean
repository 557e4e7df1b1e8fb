import Mathlib.Data.List.Induction
import Mathlib.Order.Bounds.Basic
import NodeDesk.Fixture
import NodeDesk.Proofs.Catalogue.Calls
import NodeDesk.Proofs.Node.Codec
import NodeDesk.Proofs.Text.Utf8
/-!
# Admission — which lists of nodes make a catalogue

Nodes are admitted one after the other, so a list is refused at the first place that offends: one whose id is empty or
stands before it already (`ofList_error_iff`).  No place of a catalogue offends, and a list without such a place is the
catalogue that it makes.  A file is loaded as the catalogue of the nodes that it holds (`load_ok_iff`).
-/
namespace NodeDesk
namespace Catalogue

variable {c : Catalogue} {nodes : List Node} {n : Node} {f : Refusal} {i : Nat}

/-- **A place that offends**: its id is empty, or that of an earlier node. -/
def Offends (nodes : List Node) (i : Nat) : Prop :=
  ∃ n, nodes[i]? = some n ∧ (n.id = "" ∨ ∃ m ∈ nodes.take i, m.id = n.id)

/-- What is said of a node that is not admitted. -/
def refusalOf (n : Node) : Refusal := if n.id = "" then .emptyId else .repeatedId n.id

theorem message_refusalOf (n : Node) :
    (refusalOf n).message = if n.id = "" then "Node id must not be empty" else "Duplicate node id: " ++ n.id := by
  unfold refusalOf
  split <;> rfl

theorem insert_error_iff :
    c.insert n = .error f ↔ (n.id = "" ∨ ∃ m ∈ c.nodes, m.id = n.id) ∧ f = refusalOf n := by
  unfold refusalOf
  by_cases he : n.id = ""
  · rw [insert_emptyId he, if_pos he, Except.error.injEq]
    exact ⟨fun h => ⟨.inl he, h.symm⟩, fun h => h.2.symm⟩
  · rw [if_neg he]
    cases hd : c.contains n.id with
    | true =>
      rw [insert_repeatedId he hd, Except.error.injEq]
      exact ⟨fun h => ⟨.inr (contains_iff.1 hd), h.symm⟩, fun h => h.2.symm⟩
    | false =>
      obtain ⟨c', hc, -⟩ := insert_added he hd
      rw [hc]
      refine iff_of_false (fun h => nomatch h) ?_
      rintro ⟨he' | ⟨m, hm, hid⟩, -⟩
      · exact he he'
      · exact not_contains_iff.1 hd m hm hid

/-- **No place of a catalogue offends.** -/
theorem not_offends (c : Catalogue) (i : Nat) : ¬ Offends c.nodes i := by
  rintro ⟨n, hn, he | ⟨m, hm, hid⟩⟩
  · exact c.id_ne_empty n (List.mem_of_getElem? hn) he
  · have hdrop : n ∈ c.nodes.drop i := List.mem_of_getElem? (i := 0) (by rwa [List.getElem?_drop, Nat.add_zero])
    have hnodup := c.nodup_ids
    rw [← List.take_append_drop i c.nodes, List.map_append, List.nodup_append] at hnodup
    exact hnodup.2.2 m.id (List.mem_map_of_mem hm) n.id (List.mem_map_of_mem hdrop) hid

theorem offends_concat_iff :
    Offends (nodes ++ [n]) i ↔
      Offends nodes i ∨ i = nodes.length ∧ (n.id = "" ∨ ∃ m ∈ nodes, m.id = n.id) := by
  unfold Offends
  rcases Nat.lt_trichotomy i nodes.length with hi | rfl | hi
  · rw [List.getElem?_append_left hi, List.take_append_of_le_length (Nat.le_of_lt hi)]
    exact (or_iff_left fun h => absurd h.1 (Nat.ne_of_lt hi)).symm
  · have hnone : nodes[nodes.length]? = none := List.getElem?_eq_none (Nat.le_refl _)
    rw [List.getElem?_concat_length, List.take_left, hnone]
    simp
  · have hnone : nodes[i]? = none := List.getElem?_eq_none (Nat.le_of_lt hi)
    have hbehind : (nodes ++ [n])[i]? = none := List.getElem?_eq_none (by rw [List.length_append]; exact hi)
    rw [hnone, hbehind]
    simp [Nat.ne_of_gt hi]

theorem lt_length_of_offends (h : Offends nodes i) : i < nodes.length := by
  obtain ⟨n, hn, -⟩ := h
  exact (List.getElem?_eq_some_iff.1 hn).1

theorem ofList_concat (nodes : List Node) (n : Node) :
    ofList (nodes ++ [n]) = ofList nodes >>= fun c => c.insert n := by
  unfold ofList
  rw [List.foldlM_append]
  simp only [List.foldlM_cons, List.foldlM_nil, bind_pure]

/-- A list that is refused has a first place that offends, and is refused for the node there. -/
theorem exists_first_of_error (h : ofList nodes = .error f) :
    ∃ i n, IsLeast {i | Offends nodes i} i ∧ nodes[i]? = some n ∧ f = refusalOf n := by
  induction nodes using List.reverseRecOn with
  | nil => cases h
  | append_singleton nodes n ih =>
    rw [ofList_concat] at h
    cases hs : ofList nodes with
    | error g =>
      -- the list is refused before its last node is reached
      rw [hs] at h
      cases h
      obtain ⟨i, m, ⟨hi, hleast⟩, hm, rfl⟩ := ih hs
      have hlt := lt_length_of_offends hi
      refine ⟨i, m, ⟨offends_concat_iff.2 (.inl hi), fun j hj => ?_⟩, ?_, rfl⟩
      · rcases offends_concat_iff.1 hj with hj | ⟨rfl, -⟩
        · exact hleast hj
        · exact Nat.le_of_lt hlt
      · rwa [List.getElem?_append_left hlt]
    | ok c =>
      rw [hs] at h
      obtain rfl := nodes_ofList hs
      obtain ⟨hlast, rfl⟩ := insert_error_iff.1 h
      refine ⟨c.nodes.length, n, ⟨offends_concat_iff.2 (.inr ⟨rfl, hlast⟩), fun j hj => ?_⟩,
        List.getElem?_concat_length, rfl⟩
      rcases offends_concat_iff.1 hj with hj | ⟨rfl, -⟩
      · exact absurd hj (c.not_offends j)
      · exact Nat.le_refl _

/-- **Why a list is refused**: for the node at the first place that offends. -/
theorem ofList_error_iff :
    ofList nodes = .error f ↔
      ∃ i n, IsLeast {i | Offends nodes i} i ∧ nodes[i]? = some n ∧ f = refusalOf n := by
  refine ⟨exists_first_of_error, ?_⟩
  rintro ⟨i, n, hleast, hn, rfl⟩
  cases hs : ofList nodes with
  | ok c => exact absurd (nodes_ofList hs ▸ hleast.1) (c.not_offends i)
  | error g =>
    obtain ⟨j, m, hj, hm, rfl⟩ := exists_first_of_error hs
    rw [hj.unique hleast, hn] at hm
    rw [Option.some.inj hm]

end Catalogue

namespace Fixture

open Catalogue (Offends)

variable {files : Files} {path : String} {nodes : List Node}

/-- **A file that holds nodes**: its bytes are a text, and the text is read as these nodes. -/
def Holds (files : Files) (path : String) (nodes : List Node) : Prop :=
  ∃ cs, textOf (files path) = .ok cs ∧ Json.document Node.listReader cs = .ok nodes

theorem holds_written (h : files path = .ok (Utf8.encode (Json.Value.list (nodes.map Node.toJson)).write)) :
    Holds files path (nodes.map Node.carried) := by
  refine ⟨_, ?_, Node.document_list nodes⟩
  unfold textOf
  rw [h]
  simp only [Utf8.decode?_encode]

theorem holds_regular (hregular : ∀ n ∈ nodes, n.created.Regular)
    (h : files path = .ok (Utf8.encode (Json.Value.list (nodes.map Node.toJson)).write)) : Holds files path nodes := by
  have hholds := holds_written h
  rwa [Node.map_carried_eq_iff.2 hregular] at hholds

theorem regular_of_holds (h : Holds files path nodes) : ∀ n ∈ nodes, n.created.Regular := by
  obtain ⟨_, -, hread⟩ := h
  exact Node.regular_of_document hread

theorem ofNodes_ok_iff {c : Catalogue} : ofNodes nodes = .ok c ↔ c.nodes = nodes := by
  unfold ofNodes
  constructor
  · intro h
    split at h
    · cases h
      exact Catalogue.nodes_ofList ‹_›
    · cases h
  · rintro rfl
    rw [Catalogue.ofList_nodes]

theorem ofNodes_error_iff {p : Problem} :
    ofNodes nodes = .error p ↔ ∃ f, Catalogue.ofList nodes = .error f ∧ p = .fixture f.message := by
  unfold ofNodes
  cases Catalogue.ofList nodes with
  | ok c => exact iff_of_false (fun h => nomatch h) fun ⟨_, h, _⟩ => nomatch h
  | error f => simp [eq_comm]

theorem load_of_holds (h : Holds files path nodes) : (load path).run files = ofNodes nodes := by
  obtain ⟨cs, hcs, hnodes⟩ := h
  have hrun : (load path).run files = ofText cs := by
    unfold load readText
    simp only [bind, Reading.bind, Reading.run, hcs]
    rfl
  rw [hrun, ofText, hnodes]

/-- **A file is loaded as a catalogue** exactly if it holds the nodes of that. -/
theorem load_ok_iff {c : Catalogue} : (load path).run files = .ok c ↔ Holds files path c.nodes := by
  constructor
  · intro h
    unfold load readText at h
    simp only [bind, Reading.bind, Reading.run] at h
    cases hcs : textOf (files path) with
    | error f => rw [hcs] at h; cases h
    | ok cs =>
      rw [hcs] at h
      change ofText cs = .ok c at h
      unfold ofText at h
      split at h
      · cases h
      · rename_i nodes hnodes
        rw [ofNodes_ok_iff.1 h]
        exact ⟨cs, hcs, hnodes⟩
  · intro h
    rw [load_of_holds h, ofNodes_ok_iff]

/-- **A list is admitted exactly if its ids are distinct and none is empty.**  Then the catalogue is the list as it
stands.  Otherwise the first place that offends decides what is said: that its id is empty, or which id is repeated.
And a file that holds the list is loaded as the list is admitted, while no other file is loaded at all. -/
theorem admits_well_formed (nodes : List Node) :
    ((∃ c, ofNodes nodes = .ok c) ↔ (∀ n ∈ nodes, n.id ≠ "") ∧ (nodes.map Node.id).Nodup) ∧
    (∀ c, ofNodes nodes = .ok c → c.nodes = nodes) ∧
    (∀ p, ofNodes nodes = .error p ↔ ∃ i n, IsLeast {i | Offends nodes i} i ∧ nodes[i]? = some n ∧
      p = .fixture (if n.id = "" then "Node id must not be empty" else "Duplicate node id: " ++ n.id)) ∧
    ∀ (files : Files) (path : String),
      (Holds files path nodes → (load path).run files = ofNodes nodes) ∧
      ∀ c, (load path).run files = .ok c → Holds files path c.nodes := by
  refine ⟨?_, fun c => ofNodes_ok_iff.1, fun p => ?_, fun files path => ⟨load_of_holds, fun c => load_ok_iff.1⟩⟩
  · constructor
    · rintro ⟨c, hc⟩
      obtain rfl := ofNodes_ok_iff.1 hc
      exact ⟨c.id_ne_empty, c.nodup_ids⟩
    · rintro ⟨he, hd⟩
      exact ⟨⟨nodes, he, hd⟩, ofNodes_ok_iff.2 rfl⟩
  · rw [ofNodes_error_iff]
    simp only [Catalogue.ofList_error_iff, ← Catalogue.message_refusalOf]
    constructor
    · rintro ⟨f, ⟨i, n, hleast, hn, rfl⟩, rfl⟩
      exact ⟨i, n, hleast, hn, rfl⟩
    · rintro ⟨i, n, hleast, hn, rfl⟩
      exact ⟨_, ⟨i, n, hleast, hn, rfl⟩, rfl⟩

/-- A list that offends at its second place and at all behind: the repeated id at the second is what is told of. -/
theorem refused_at_second_place :
    let node (id : String) : Node := { id := id, created := .epoch }
    let nodes := [node "a", node "a", node "", node "a"]
    let files : Files := fun _ => .ok (Utf8.encode (Json.Value.list (nodes.map Node.toJson)).write)
    Holds files "nodes.json" nodes ∧
      (load "nodes.json").run files = .error (.fixture "Duplicate node id: a") := by
  intro node nodes files
  obtain ⟨-, -, herror, hfile⟩ := admits_well_formed nodes
  have hholds : Holds files "nodes.json" nodes := holds_regular (by decide) rfl
  have hleast : IsLeast {i | Offends nodes i} 1 := by
    refine ⟨⟨node "a", rfl, .inr ⟨node "a", List.mem_cons_self, rfl⟩⟩, fun i hi => Nat.one_le_iff_ne_zero.2 ?_⟩
    rintro rfl
    obtain ⟨n, hn, hid | ⟨m, hm, -⟩⟩ := hi
    · cases hn
      exact absurd hid (by decide)
    · cases hm
  refine ⟨hholds, ((hfile files "nodes.json").1 hholds).trans ((herror _).2 ⟨1, node "a", hleast, rfl, ?_⟩)⟩
  rfl

end Fixture
end NodeDesk
