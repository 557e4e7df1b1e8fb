import Mathlib.Data.List.Nodup
import Mathlib.Data.List.Perm.Subperm
import NodeDesk.Fixture
import NodeDesk.Proofs.Catalogue.Marks
import NodeDesk.Proofs.Catalogue.Pages
/-!
# Calls — a catalogue is an ordered map whose marks only grow

`Rule` says on the bare list of nodes what a call may be answered with and what it leaves behind; it reads membership
and places and runs nothing.  A catalogue answers every sequence of calls by it and in no other way (`rules_iff`), ids
stay distinct and in the order of their insertion, and between any two states only spam marks differ, which are never
taken back (`grown_calls`).
-/
namespace NodeDesk
namespace Catalogue

/-- What a catalogue can be asked. -/
inductive Call where
  | insert (n : Node)
  | page (number perPage : Nat)
  | get (id : String)
  | ofUser (user : String)
  | mark (ids : List String)
  | size

/-- What a call is answered with. -/
inductive Answer where
  | added
  | page (p : Page)
  | node (n : Option Node)
  | nodes (ns : List Node)
  /-- How many nodes a marking newly marked. -/
  | marked (count : Nat)
  | size (count : Nat)
  | refused (why : Problem)

/-- Answers a call. -/
def call (c : Catalogue) : Call → Answer × Catalogue
  | .insert n =>
    match c.insert n with
    | .ok c' => (.added, c')
    | .error f => (.refused (.fixture f.message), c)
  | .page number perPage =>
    match c.page? number perPage with
    | some p => (.page p, c)
    | none => (.refused (.invalidPage number), c)
  | .get id => (.node (c.get? id), c)
  | .ofUser user => (.nodes (c.ofUser user), c)
  | .mark ids =>
    match c.mark ids with
    | .ok (count, c') => (.marked count, c')
    | .error id => (.refused (.nodeNotFound id), c)
  | .size => (.size c.size, c)

/-- Answers calls one after the other. -/
def calls (c : Catalogue) : List Call → List Answer × Catalogue
  | [] => ([], c)
  | k :: ks => ((c.call k).1 :: ((c.call k).2.calls ks).1, ((c.call k).2.calls ks).2)

/-- **The rules of a list of nodes with distinct ids**: what a call is answered with, and the list it leaves. -/
inductive Rule (ns : List Node) : Call → Answer → List Node → Prop where
  | added {n : Node} : n.id ≠ "" → (∀ m ∈ ns, m.id ≠ n.id) → Rule ns (.insert n) .added (ns ++ [n])
  | emptyId {n : Node} : n.id = "" → Rule ns (.insert n) (.refused (.fixture "Node id must not be empty")) ns
  | repeatedId {n m : Node} : n.id ≠ "" → m ∈ ns → m.id = n.id →
      Rule ns (.insert n) (.refused (.fixture ("Duplicate node id: " ++ n.id))) ns
  | page {number perPage : Nat} {p : Page} : HasPage ns.length number perPage →
      p.status = ⟨number, perPage, ns.length⟩ →
      (∀ i, p.nodes[i]? = if i < perPage then ns[(number - 1) * perPage + i]? else none) →
      Rule ns (.page number perPage) (.page p) ns
  | noPage {number perPage : Nat} : ¬ HasPage ns.length number perPage →
      Rule ns (.page number perPage) (.refused (.invalidPage number)) ns
  | found {n : Node} : n ∈ ns → Rule ns (.get n.id) (.node (some n)) ns
  | missing {id : String} : (∀ n ∈ ns, n.id ≠ id) → Rule ns (.get id) (.node none) ns
  | ofUser {user : String} {us : List Node} : us.Sublist ns →
      (∀ n ∈ ns, n ∈ us ↔ ∃ u ∈ n.contributors, u.id = user) → Rule ns (.ofUser user) (.nodes us) ns
  | marked {ids : List String} {ns' : List Node} {count : Nat} : (∀ id ∈ ids, ∃ n ∈ ns, n.id = id) →
      List.Forall₂ (fun n n' => n' = { n with spam := n.spam || decide (n.id ∈ ids) }) ns ns' →
      ns'.countP (·.spam) = ns.countP (·.spam) + count → Rule ns (.mark ids) (.marked count) ns'
  | unknownId {pre post : List String} {id : String} : (∀ i ∈ pre, ∃ n ∈ ns, n.id = i) → (∀ n ∈ ns, n.id ≠ id) →
      Rule ns (.mark (pre ++ id :: post)) (.refused (.nodeNotFound id)) ns
  | size : Rule ns .size (.size ns.length) ns

/-- Calls answered by the rules one after the other. -/
inductive Rules : List Node → List Call → List Answer → List Node → Prop where
  | nil {ns : List Node} : Rules ns [] [] ns
  | cons {ns mid ns' : List Node} {k : Call} {ks : List Call} {a : Answer} {as : List Answer} :
      Rule ns k a mid → Rules mid ks as ns' → Rules ns (k :: ks) (a :: as) ns'

/-! ## Each operation by its rules -/

section Operations

variable {c : Catalogue} {n : Node} {id user : String} {ids : List String}

theorem not_contains_iff : c.contains id = false ↔ ∀ n ∈ c.nodes, n.id ≠ id := by
  rw [← Bool.not_eq_true, contains_iff]
  simp

theorem insert_added (he : n.id ≠ "") (hd : c.contains n.id = false) :
    ∃ c', c.insert n = .ok c' ∧ c'.nodes = c.nodes ++ [n] := by
  unfold insert
  rw [dif_neg he, dif_neg (by simp [hd])]
  exact ⟨_, rfl, rfl⟩

theorem insert_emptyId (he : n.id = "") : c.insert n = .error .emptyId := by
  unfold insert
  rw [dif_pos he]

theorem insert_repeatedId (he : n.id ≠ "") (hd : c.contains n.id = true) :
    c.insert n = .error (.repeatedId n.id) := by
  unfold insert
  rw [dif_neg he, dif_pos hd]

theorem nodes_of_insert {c' : Catalogue} (h : c.insert n = .ok c') : c'.nodes = c.nodes ++ [n] := by
  unfold insert at h
  split at h
  · cases h
  split at h
  · cases h
  · cases h; rfl

/-- **An id that is admitted**: some catalogue takes a node with it. -/
def Admits (id : String) : Prop := ∃ (c c' : Catalogue) (n : Node), n.id = id ∧ c.insert n = .ok c'

theorem admits_iff : Admits id ↔ id ≠ "" := by
  constructor
  · rintro ⟨c, c', n, rfl, h⟩ he
    rw [insert_emptyId he] at h
    cases h
  · intro he
    obtain ⟨c', hc, -⟩ := insert_added (c := empty) (n := { id := id, created := .epoch }) he rfl
    exact ⟨empty, c', _, rfl, hc⟩

/-- **The node of an id**, of which there is no other. -/
theorem get?_eq_some_iff : c.get? id = some n ↔ n ∈ c.nodes ∧ n.id = id := by
  unfold get?
  constructor
  · intro h
    exact ⟨List.mem_of_find?_eq_some h, by simpa using List.find?_some h⟩
  · rintro ⟨hn, rfl⟩
    cases hf : c.nodes.find? (·.id == n.id) with
    | none =>
      have := List.find?_eq_none.1 hf n hn
      simp at this
    | some m =>
      have hm : m.id = n.id := by simpa using List.find?_some hf
      rw [List.inj_on_of_nodup_map c.nodup_ids (List.mem_of_find?_eq_some hf) hn hm]

theorem get?_eq_none_iff : c.get? id = none ↔ ∀ n ∈ c.nodes, n.id ≠ id := by
  unfold get?
  rw [List.find?_eq_none]
  simp

theorem nodup_nodes (c : Catalogue) : c.nodes.Nodup := List.Nodup.of_map Node.id c.nodup_ids

theorem mem_ofUser_iff : n ∈ c.ofUser user ↔ n ∈ c.nodes ∧ ∃ u ∈ n.contributors, u.id = user := by
  simp [ofUser, Node.hasContributor]

/-- **The nodes of a user**: the only part of the list, in its order, that has them all and no others. -/
theorem eq_ofUser_iff {us : List Node} :
    us = c.ofUser user ↔ us.Sublist c.nodes ∧ ∀ n ∈ c.nodes, n ∈ us ↔ ∃ u ∈ n.contributors, u.id = user := by
  constructor
  · rintro rfl
    exact ⟨List.filter_sublist, fun n hn => by rw [mem_ofUser_iff]; exact and_iff_right hn⟩
  · rintro ⟨hu, hm⟩
    have hf : (c.ofUser user).Sublist c.nodes := List.filter_sublist
    refine (List.Nodup.perm_iff_eq_of_sublist c.nodup_nodes hu hf).1 ?_
    rw [List.perm_ext_iff_of_nodup (c.nodup_nodes.sublist hu) (c.nodup_nodes.sublist hf)]
    intro n
    rw [mem_ofUser_iff]
    constructor
    · intro hn
      exact ⟨hu.subset hn, (hm n (hu.subset hn)).1 hn⟩
    · rintro ⟨hn, h⟩
      exact (hm n hn).2 h

/-- **The nodes of a page** are told by their places. -/
theorem eq_pageAt_iff {number perPage : Nat} {p : Page} :
    p = c.pageAt number perPage ↔ p.status = ⟨number, perPage, c.nodes.length⟩ ∧
      ∀ i, p.nodes[i]? = if i < perPage then c.nodes[(number - 1) * perPage + i]? else none := by
  constructor
  · rintro rfl
    exact ⟨rfl, getElem?_pageAt⟩
  · rintro ⟨hs, hn⟩
    have : p.nodes = (c.pageAt number perPage).nodes := List.ext_getElem? fun i => by rw [hn, getElem?_pageAt]
    cases p
    cases hs
    cases this
    rfl

theorem eq_markAll_iff {ns : List Node} :
    List.Forall₂ (fun n n' => n' = { n with spam := n.spam || decide (n.id ∈ ids) }) c.nodes ns ↔
      ns = (c.markAll ids).nodes := by
  have hone : ∀ n : Node, { n with spam := n.spam || decide (n.id ∈ ids) } = markAmong ids n := fun n => by
    rw [markAmong_eq]
    by_cases h : n.id ∈ ids <;> simp [h]
  simp only [hone]
  constructor
  · intro h
    refine List.forall₂_eq_eq_eq ▸ ?_
    exact List.forall₂_map_right_iff.2 (h.flip.imp fun _ _ h => h)
  · rintro rfl
    exact List.forall₂_map_right_iff.2 (List.forall₂_same.2 fun n _ => rfl)

end Operations

/-! ## Calls and runs of calls -/

theorem rule_call (c : Catalogue) (k : Call) : Rule c.nodes k (c.call k).1 (c.call k).2.nodes := by
  cases k with
  | insert n =>
    by_cases he : n.id = ""
    · simp only [call, insert_emptyId he]
      exact .emptyId he
    · cases hd : c.contains n.id with
      | true =>
        obtain ⟨m, hm, hid⟩ := contains_iff.1 hd
        simp only [call, insert_repeatedId he hd]
        exact .repeatedId he hm hid
      | false =>
        obtain ⟨c', hc, hn⟩ := insert_added he hd
        simp only [call, hc, hn]
        exact .added he (not_contains_iff.1 hd)
  | page number perPage =>
    by_cases hp : HasPage c.size number perPage
    · simp only [call, page?_of_hasPage hp]
      exact .page hp rfl getElem?_pageAt
    · simp only [call, page?_eq_none_iff.2 hp]
      exact .noPage hp
  | get id =>
    cases hg : c.get? id with
    | none =>
      simp only [call, hg]
      exact .missing (get?_eq_none_iff.1 hg)
    | some n =>
      obtain ⟨hn, rfl⟩ := get?_eq_some_iff.1 hg
      simp only [call, hg]
      exact .found hn
  | ofUser user =>
    obtain ⟨hs, hm⟩ := eq_ofUser_iff.1 (rfl : c.ofUser user = c.ofUser user)
    exact .ofUser hs hm
  | mark ids =>
    cases hm : c.mark ids with
    | error id =>
      obtain ⟨pre, post, rfl, hpre, hid⟩ := mark_error_iff.1 hm
      simp only [call, hm]
      exact .unknownId (fun i hi => contains_iff.1 (hpre i hi)) (not_contains_iff.1 hid)
    | ok r =>
      obtain ⟨count, c'⟩ := r
      obtain ⟨hall, rfl, rfl⟩ := mark_ok_iff.1 hm
      simp only [call, hm]
      exact .marked (fun i hi => contains_iff.1 (hall i hi)) (eq_markAll_iff.2 rfl) (countP_spam_markAll c ids)
  | size => exact .size

theorem call_of_rule {c : Catalogue} {k : Call} {a : Answer} {ns : List Node} (h : Rule c.nodes k a ns) :
    a = (c.call k).1 ∧ ns = (c.call k).2.nodes := by
  cases h with
  | added he hd =>
    obtain ⟨c', hc, hn⟩ := insert_added he (not_contains_iff.2 hd)
    simp [call, hc, hn]
  | emptyId he =>
    simp only [call, insert_emptyId he]
    exact ⟨rfl, trivial⟩
  | repeatedId he hm hid =>
    simp only [call, insert_repeatedId he (contains_iff.2 ⟨_, hm, hid⟩)]
    exact ⟨rfl, trivial⟩
  | page hp hs hn => simp [call, page?_of_hasPage hp, eq_pageAt_iff.2 ⟨hs, hn⟩]
  | noPage hp => simp [call, page?_eq_none_iff.2 hp]
  | found hn => simp [call, get?_eq_some_iff.2 ⟨hn, rfl⟩]
  | missing hn => simp [call, get?_eq_none_iff.2 hn]
  | ofUser hs hm => simp [call, eq_ofUser_iff.2 ⟨hs, hm⟩]
  | @marked ids ns count hall hns hk =>
    have hc := eq_markAll_iff.1 hns
    have hall' : ∀ i ∈ ids, c.contains i = true := fun i hi => contains_iff.2 (hall i hi)
    rw [hc, countP_spam_markAll] at hk
    have hm := mark_ok_iff.2 ⟨hall', rfl, rfl⟩
    simp only [call, hm, hc, Answer.marked.injEq, and_true]
    omega
  | @unknownId pre post id hpre hid =>
    have hm : c.mark (pre ++ id :: post) = .error id :=
      mark_error_iff.2 ⟨pre, post, rfl, fun i hi => contains_iff.2 (hpre i hi), not_contains_iff.2 hid⟩
    simp [call, hm]
  | size => exact ⟨rfl, rfl⟩

/-- **A catalogue answers a run of calls by the rules, and in no other way.** -/
theorem rules_iff {c : Catalogue} {ks : List Call} {as : List Answer} {ns : List Node} :
    Rules c.nodes ks as ns ↔ as = (c.calls ks).1 ∧ ns = (c.calls ks).2.nodes := by
  -- A rule for the first call is the call's own answer, so both runs go on from the same list.
  induction ks generalizing c as with
  | nil =>
    constructor
    · intro h; cases h; exact ⟨rfl, rfl⟩
    · rintro ⟨rfl, rfl⟩; exact .nil
  | cons k ks ih =>
    constructor
    · intro h
      cases h with
      | cons hk hks =>
        obtain ⟨rfl, rfl⟩ := call_of_rule hk
        obtain ⟨rfl, rfl⟩ := ih.1 hks
        exact ⟨rfl, rfl⟩
    · rintro ⟨rfl, rfl⟩
      exact .cons (rule_call c k) (ih.2 ⟨rfl, rfl⟩)

/-! ## What runs keep -/

/-- The nodes that a run added, in the order of their insertion. -/
def added : List Call → List Answer → List Node
  | .insert n :: ks, .added :: as => n :: added ks as
  | _ :: ks, _ :: as => added ks as
  | _, _ => []

/-- Whether a run asked for the mark of an id. -/
def Asked (ks : List Call) (id : String) : Prop := ∃ ids, Call.mark ids ∈ ks ∧ id ∈ ids

/-- **All that a call can leave behind**: one node more, some marks more, or the catalogue as it was. -/
theorem call_cases (c : Catalogue) (k : Call) :
    (∃ n, k = .insert n ∧ (c.call k).1 = .added ∧ (c.call k).2.nodes = c.nodes ++ [n]) ∨
    (∃ ids, k = .mark ids ∧ (c.call k).1 = .marked (c.unmarked ids) ∧ (c.call k).2 = c.markAll ids) ∨
    ((c.call k).2 = c ∧ added [k] [(c.call k).1] = []) := by
  cases k with
  | insert n =>
    cases hi : c.insert n with
    | ok c' => exact .inl ⟨n, rfl, by simp only [call, hi], by simp only [call, hi, nodes_of_insert hi]⟩
    | error f => exact .inr (.inr ⟨by simp only [call, hi], by simp [call, hi, added]⟩)
  | page number perPage =>
    refine .inr (.inr ⟨?_, rfl⟩)
    cases hp : c.page? number perPage <;> simp only [call, hp]
  | mark ids =>
    cases hm : c.mark ids with
    | ok r =>
      obtain ⟨count, c'⟩ := r
      obtain ⟨-, rfl, rfl⟩ := mark_ok_iff.1 hm
      exact .inr (.inl ⟨ids, rfl, by simp only [call, hm], by simp only [call, hm]⟩)
    | error id => exact .inr (.inr ⟨by simp only [call, hm], rfl⟩)
  | get id => exact .inr (.inr ⟨rfl, rfl⟩)
  | ofUser user => exact .inr (.inr ⟨rfl, rfl⟩)
  | size => exact .inr (.inr ⟨rfl, rfl⟩)

theorem call_refused {c : Catalogue} {k : Call} {why : Problem} (h : (c.call k).1 = .refused why) :
    (c.call k).2 = c := by
  rcases call_cases c k with ⟨n, -, ha, -⟩ | ⟨ids, -, ha, -⟩ | ⟨hc, -⟩
  · rw [ha] at h; cases h
  · rw [ha] at h; cases h
  · exact hc

theorem added_cons (k : Call) (ks : List Call) (a : Answer) (as : List Answer) :
    added (k :: ks) (a :: as) = added [k] [a] ++ added ks as := by
  cases k with
  | insert n => cases a <;> rfl
  | _ => rfl

theorem grown_call (c : Catalogue) (k : Call) :
    List.Forall₂ (Marked (Asked [k])) (c.nodes ++ added [k] [(c.call k).1]) (c.call k).2.nodes := by
  rcases call_cases c k with ⟨n, rfl, ha, hn⟩ | ⟨ids, rfl, -, hc⟩ | ⟨hc, ha⟩
  · rw [ha, hn]
    exact forall₂_marked_refl _ _
  · have hnone : added [.mark ids] [(c.call (.mark ids)).1] = [] := rfl
    rw [hc, hnone, List.append_nil]
    exact (marked_markAll c ids).imp fun _ _ => Marked.imp fun _ hi => ⟨ids, List.mem_singleton_self _, hi⟩
  · rw [hc, ha, List.append_nil]
    exact forall₂_marked_refl _ _

/-- **Between two states only marks differ**: the later nodes are the earlier ones and those added since, in order,
and a node differs at most by a mark that was asked for and was not set. -/
theorem grown_calls (c : Catalogue) (ks : List Call) :
    List.Forall₂ (Marked (Asked ks)) (c.nodes ++ added ks (c.calls ks).1) (c.calls ks).2.nodes := by
  induction ks generalizing c with
  | nil =>
    show List.Forall₂ (Marked (Asked [])) (c.nodes ++ []) c.nodes
    rw [List.append_nil]
    exact forall₂_marked_refl _ _
  | cons k ks ih =>
    have hstep := (grown_call c k).imp fun _ _ => Marked.imp fun id (h : Asked [k] id) =>
      show Asked (k :: ks) id from h.imp fun ids hi => ⟨List.mem_cons.2 (.inl (List.mem_singleton.1 hi.1)), hi.2⟩
    have hrest := (ih (c.call k).2).imp fun _ _ => Marked.imp fun id (h : Asked ks id) =>
      show Asked (k :: ks) id from h.imp fun ids hi => ⟨List.mem_cons_of_mem _ hi.1, hi.2⟩
    show List.Forall₂ _ (c.nodes ++ added (k :: ks) ((c.call k).1 :: _)) ((c.call k).2.calls ks).2.nodes
    rw [added_cons, ← List.append_assoc]
    refine forall₂_marked_trans ?_ hrest
    exact List.rel_append hstep (forall₂_marked_refl _ _)

theorem map_id_of_forall₂_marked {p : String → Prop} : ∀ {l m : List Node},
    List.Forall₂ (Marked p) l m → m.map Node.id = l.map Node.id
  | _, _, .nil => rfl
  | _, _, .cons h hs => by
    rw [List.map_cons, List.map_cons, map_id_of_forall₂_marked hs]
    rcases h with rfl | ⟨-, -, rfl⟩ <;> rfl

theorem nodes_ofList {nodes : List Node} {c : Catalogue} (h : ofList nodes = .ok c) : c.nodes = nodes := by
  have hfold : ∀ (ns : List Node) (c₀ : Catalogue), ns.foldlM insert c₀ = .ok c → c.nodes = c₀.nodes ++ ns := by
    intro ns
    induction ns with
    | nil => intro c₀ h; cases h; simp
    | cons n ns ih =>
      intro c₀ h
      rw [List.foldlM_cons] at h
      cases hi : c₀.insert n with
      | error f => rw [hi] at h; cases h
      | ok c₁ =>
        rw [hi] at h
        rw [ih c₁ h, nodes_of_insert hi, List.append_assoc]
        rfl
  exact hfold nodes empty h

/-- **Nodes with distinct ids, none of them empty, are admitted.** -/
theorem exists_ofList {nodes : List Node} (he : ∀ n ∈ nodes, n.id ≠ "") (hd : (nodes.map Node.id).Nodup) :
    ∃ c, ofList nodes = .ok c := by
  have hfold : ∀ (ns : List Node) (c₀ : Catalogue), (∀ n ∈ ns, n.id ≠ "") → ((c₀.nodes ++ ns).map Node.id).Nodup →
      ∃ c, ns.foldlM insert c₀ = .ok c := by
    intro ns
    induction ns with
    | nil => exact fun c₀ _ _ => ⟨c₀, rfl⟩
    | cons n ns ih =>
      intro c₀ he hd
      have hnew : c₀.contains n.id = false := not_contains_iff.2 fun m hm hid => by
        rw [List.map_append, List.map_cons] at hd
        exact (List.nodup_append.1 hd).2.2 m.id (List.mem_map_of_mem hm) n.id List.mem_cons_self hid
      obtain ⟨c₁, hi, hnodes⟩ := insert_added (he n List.mem_cons_self) hnew
      obtain ⟨c, hc⟩ := ih c₁ (fun m hm => he m (List.mem_cons_of_mem n hm)) (by simpa [hnodes] using hd)
      exact ⟨c, by rw [List.foldlM_cons, hi]; exact hc⟩
  exact hfold nodes empty he hd

/-- A catalogue is that of its nodes. -/
theorem ofList_nodes (c : Catalogue) : ofList c.nodes = .ok c := by
  obtain ⟨c', h⟩ := exists_ofList c.id_ne_empty c.nodup_ids
  rw [h, eq_of_nodes (nodes_ofList h)]

/-- **A catalogue is an ordered map whose marks only grow.**  From a list that is admitted, and after any calls:
every run is answered by the rules and in no other way; ids are not empty and distinct; ids stand in the order of
their insertion; a refusal changes nothing; and whatever calls follow, the nodes stay as they are, except that marks
which are asked for are set. -/
theorem calls_ordered_map {nodes : List Node} {c : Catalogue} (h : ofList nodes = .ok c) (ks : List Call) :
    (∀ as ns, Rules nodes ks as ns ↔ as = (c.calls ks).1 ∧ ns = (c.calls ks).2.nodes) ∧
    let s := (c.calls ks).2
    (∀ n ∈ s.nodes, n.id ≠ "") ∧ (s.nodes.map Node.id).Nodup ∧
    s.nodes.map Node.id = (nodes ++ added ks (c.calls ks).1).map Node.id ∧
    (∀ id n, s.get? id = some n ↔ n ∈ s.nodes ∧ n.id = id) ∧
    (∀ user, (s.ofUser user).Sublist s.nodes ∧ (s.ofUser user).Nodup ∧
      ∀ n, n ∈ s.ofUser user ↔ n ∈ s.nodes ∧ ∃ u ∈ n.contributors, u.id = user) ∧
    (∀ k why, (s.call k).1 = .refused why → (s.call k).2 = s) ∧
    ∀ more, List.Forall₂ (Marked (Asked more)) (s.nodes ++ added more (s.calls more).1) (s.calls more).2.nodes := by
  have hn := nodes_ofList h
  refine ⟨fun as ns => ?_, (c.calls ks).2.id_ne_empty, (c.calls ks).2.nodup_ids, ?_, fun id n => get?_eq_some_iff,
    fun user => ⟨List.filter_sublist, ?_, fun n => mem_ofUser_iff⟩, fun k why => call_refused, grown_calls _⟩
  · rw [← hn]
    exact rules_iff
  · rw [← hn]
    exact map_id_of_forall₂_marked (grown_calls c ks)
  · exact (c.calls ks).2.nodup_nodes.sublist List.filter_sublist

/-- Two nodes, one of them marked: a repeated id counts once, an unknown id anywhere refuses the whole marking. -/
theorem calls_of_two_nodes :
    let a : Node := { id := "a", created := .epoch }
    let b : Node := { id := "b", created := .epoch, spam := true }
    ofList [a, b] = .ok ⟨[a, b], by decide, by decide⟩ ∧
      Rules [a, b] [.mark ["a", "c", "b"], .mark ["b", "a", "a"], .insert a, .get "a"]
        [.refused (.nodeNotFound "c"), .marked 1, .refused (.fixture "Duplicate node id: a"), .node (some a.markSpam)]
        [a.markSpam, b] :=
  ⟨rfl, ((calls_ordered_map rfl _).1 _ _).2 ⟨rfl, rfl⟩⟩

end Catalogue
end NodeDesk
