import Mathlib.Data.List.Forall2
import NodeDesk.Catalogue
/-!
# Marks — what setting spam marks does to a catalogue

Marking twice is marking once with both lists of ids (`markAll_markAll`), so whatever is marked in a row is one
marking.  It leaves the ids and their order, and about a node it changes nothing but an unset mark (`marked_markAll`).
-/
namespace NodeDesk
namespace Catalogue

variable (c : Catalogue) (ids more : List String)

theorem eq_of_nodes {c c' : Catalogue} (h : c.nodes = c'.nodes) : c = c' := by
  cases c; cases c'; cases h; rfl

theorem contains_iff {c : Catalogue} {id : String} : c.contains id = true ↔ ∃ n ∈ c.nodes, n.id = id := by
  simp [contains]

/-- **A node after some marking**: as it was, or with its mark set, if it was not set and its id may be marked. -/
def Marked (may : String → Prop) (n n' : Node) : Prop := n' = n ∨ (n.spam = false ∧ may n.id ∧ n' = n.markSpam)

theorem Marked.imp {p q : String → Prop} (hpq : ∀ id, p id → q id) {n n' : Node} (h : Marked p n n') :
    Marked q n n' := by
  rcases h with h | ⟨hs, hp, h⟩
  · exact .inl h
  · exact .inr ⟨hs, hpq _ hp, h⟩

theorem Marked.trans {p : String → Prop} {n n' n'' : Node} (h : Marked p n n') (h' : Marked p n' n'') :
    Marked p n n'' := by
  rcases h with rfl | ⟨hs, hp, rfl⟩
  · exact h'
  · rcases h' with rfl | ⟨hs', -, -⟩
    · exact .inr ⟨hs, hp, rfl⟩
    · cases hs'

theorem forall₂_marked_trans {p : String → Prop} : ∀ {l m k : List Node},
    List.Forall₂ (Marked p) l m → List.Forall₂ (Marked p) m k → List.Forall₂ (Marked p) l k
  | _, _, _, .nil, .nil => .nil
  | _, _, _, .cons h hs, .cons h' hs' => .cons (h.trans h') (forall₂_marked_trans hs hs')

theorem forall₂_marked_refl (p : String → Prop) (l : List Node) : List.Forall₂ (Marked p) l l :=
  List.forall₂_same.2 fun _ _ => .inl rfl

theorem marked_markSpam {p : String → Prop} {n : Node} (h : p n.id) : Marked p n n.markSpam := by
  cases hs : n.spam with
  | false => exact .inr ⟨hs, h, rfl⟩
  | true => exact .inl (by unfold Node.markSpam; rw [← hs])

theorem markAmong_eq (n : Node) : markAmong ids n = if n.id ∈ ids then { n with spam := true } else n := by
  by_cases h : n.id ∈ ids <;> simp [markAmong, Node.markSpam, h]

theorem nodes_markAll :
    (c.markAll ids).nodes = c.nodes.map fun n => if n.id ∈ ids then { n with spam := true } else n :=
  List.map_congr_left fun n _ => markAmong_eq ids n

theorem marked_markAmong (n : Node) : Marked (· ∈ ids) n (markAmong ids n) := by
  unfold markAmong
  split
  · rename_i h
    exact marked_markSpam (List.contains_iff_mem.1 h)
  · exact .inl rfl

/-- **About a node, marking changes nothing but an unset mark**, and no node comes, goes or moves. -/
theorem marked_markAll : List.Forall₂ (Marked (· ∈ ids)) c.nodes (c.markAll ids).nodes := by
  refine List.forall₂_map_right_iff.2 (List.forall₂_same.2 fun n _ => ?_)
  exact marked_markAmong ids n

theorem markAmong_markAmong (n : Node) : markAmong more (markAmong ids n) = markAmong (ids ++ more) n := by
  by_cases hi : n.id ∈ ids
  · by_cases hm : n.id ∈ more <;> simp [markAmong, Node.markSpam, hi, hm]
  · simp [markAmong, hi]

/-- **Marking twice is marking once**, with both lists of ids. -/
theorem markAll_markAll : (c.markAll ids).markAll more = c.markAll (ids ++ more) := by
  refine eq_of_nodes ?_
  show (c.nodes.map (markAmong ids)).map (markAmong more) = c.nodes.map (markAmong (ids ++ more))
  rw [List.map_map]
  exact List.map_congr_left fun n _ => markAmong_markAmong ids more n

/-- Only which ids are given matters, not in which order or how often. -/
theorem markAll_congr {ids more : List String} (h : ∀ id, id ∈ ids ↔ id ∈ more) : c.markAll ids = c.markAll more := by
  refine eq_of_nodes (List.map_congr_left fun n _ => ?_)
  unfold markAmong
  have hc : ids.contains n.id = more.contains n.id := by
    rw [Bool.eq_iff_iff, List.contains_iff_mem, List.contains_iff_mem]
    exact h n.id
  rw [hc]

theorem unmarked_congr {ids more : List String} (h : ∀ id, id ∈ ids ↔ id ∈ more) : c.unmarked ids = c.unmarked more := by
  unfold unmarked
  refine List.countP_congr fun n _ => ?_
  simp [h]

theorem markAll_nil : c.markAll [] = c := eq_of_nodes (List.map_id' c.nodes)

theorem map_id_markAll : (c.markAll ids).nodes.map Node.id = c.nodes.map Node.id := by
  show (c.nodes.map (markAmong ids)).map Node.id = _
  rw [List.map_map]
  exact List.map_congr_left fun n _ => id_markAmong ids n

theorem size_markAll : (c.markAll ids).size = c.size := List.length_map ..

theorem contains_markAll (id : String) : (c.markAll ids).contains id = c.contains id := by
  have h : ∀ c : Catalogue, c.contains id = (c.nodes.map Node.id).any (· == id) := fun c => by
    simp [contains, List.any_map, Function.comp_def]
  rw [h, h, map_id_markAll]

/-! ## What is read off a marked catalogue -/

theorem get?_markAll (id : String) : (c.markAll ids).get? id = (c.get? id).map (markAmong ids) := by
  have hid : (fun n : Node => n.id == id) ∘ markAmong ids = fun n => n.id == id := by
    funext n
    rw [Function.comp_apply, id_markAmong]
  show (c.nodes.map (markAmong ids)).find? _ = _
  rw [List.find?_map, hid]
  rfl

theorem ofUser_markAll (user : String) : (c.markAll ids).ofUser user = (c.ofUser user).map (markAmong ids) := by
  have huser : (fun n : Node => n.hasContributor user) ∘ markAmong ids = fun n => n.hasContributor user := by
    funext n
    unfold Function.comp markAmong
    split <;> rfl
  show (c.nodes.map (markAmong ids)).filter _ = _
  rw [List.filter_map, huser]
  rfl

theorem page?_markAll (number perPage : Nat) :
    (c.markAll ids).page? number perPage =
      (c.page? number perPage).map fun p => ⟨p.nodes.map (markAmong ids), p.status⟩ := by
  unfold page?
  dsimp only
  rw [c.size_markAll]
  split
  · rfl
  · show some (Page.mk (((c.nodes.map (markAmong ids)).drop _).take perPage) _) = _
    rw [← List.map_drop, ← List.map_take]
    rfl

/-! ## When a marking goes through -/

/-- **When a marking is refused**: the named id is the first of its list that no node has. -/
theorem mark_error_iff {c : Catalogue} {ids : List String} {id : String} :
    c.mark ids = .error id ↔
      ∃ pre post, ids = pre ++ id :: post ∧ (∀ i ∈ pre, c.contains i = true) ∧ c.contains id = false := by
  have hfind : c.mark ids = .error id ↔ ids.find? (fun i => !c.contains i) = some id := by
    unfold mark
    cases ids.find? (fun i => !c.contains i) <;> simp
  rw [hfind, List.find?_eq_some_iff_append]
  simp only [Bool.not_eq_true', Bool.not_eq_false']
  constructor
  · rintro ⟨hid, pre, post, hs, hpre⟩
    exact ⟨pre, post, hs, hpre, hid⟩
  · rintro ⟨pre, post, hs, hpre, hid⟩
    exact ⟨hid, pre, post, hs, hpre⟩

/-- **When a marking goes through**: every id of its list is that of a node. -/
theorem mark_ok_iff {c c' : Catalogue} {ids : List String} {k : Nat} :
    c.mark ids = .ok (k, c') ↔ (∀ i ∈ ids, c.contains i = true) ∧ k = c.unmarked ids ∧ c' = c.markAll ids := by
  unfold mark
  cases hf : ids.find? (fun i => !c.contains i) with
  | some i =>
    have hi := List.find?_some hf
    have hm := List.mem_of_find?_eq_some hf
    simp only [Bool.not_eq_true'] at hi
    simp only [reduceCtorEq, false_iff, not_and]
    intro h
    rw [h i hm] at hi
    cases hi
  | none =>
    have hall : ∀ i ∈ ids, c.contains i = true := fun i hi => by
      simpa using List.find?_eq_none.1 hf i hi
    simp only [Except.ok.injEq, Prod.mk.injEq]
    constructor
    · rintro ⟨rfl, rfl⟩
      exact ⟨hall, rfl, rfl⟩
    · rintro ⟨-, rfl, rfl⟩
      exact ⟨rfl, rfl⟩

/-- **The count of a marking** is by how much the number of marked nodes grows. -/
theorem countP_spam_markAll :
    (c.markAll ids).nodes.countP (·.spam) = c.nodes.countP (·.spam) + c.unmarked ids := by
  show (c.nodes.map (markAmong ids)).countP (·.spam) = _
  unfold unmarked
  induction c.nodes with
  | nil => rfl
  | cons n ns ih =>
    rw [List.map_cons, List.countP_cons, List.countP_cons, List.countP_cons, ih]
    by_cases hi : n.id ∈ ids
    · cases n.spam with
      | false => simp [markAmong, Node.markSpam, hi]; omega
      | true => simp [markAmong, Node.markSpam, hi]; omega
    · simp [markAmong, hi]; omega

end Catalogue
end NodeDesk
