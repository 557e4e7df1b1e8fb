import NodeDesk.Proofs.Submission
/-!
# Normal — the one reading of a form

Every form has one outcome, which four conditions on its pairs tell apart (`ofPairs_eq_ite`).  A confirmation that was
read is normal: written out again, with any values and with the token anywhere among the ids, it is read as itself
(`ofPairs_written`).  The order of the pairs decides no more than the order of the ids, unless there are several tokens
of which the last one counts (`sameChoice_of_perm`).
-/
namespace NodeDesk
namespace Submission

variable {pairs qs pre post : List (String × String)} {s : Submission} {f : Fault}

/-! ## The outcome -/

/-- **A form by its names and its last token.** -/
theorem ofPairs_eq_ite (pairs : List (String × String)) :
    ofPairs pairs =
      if "" ∈ pairs.map Prod.fst then .error .emptyId
      else if (lastToken? pairs).getD "" = "" then .error .noToken
      else if ∀ name ∈ pairs.map Prod.fst, name = View.tokenField then .error .nothingChosen
      else .ok ⟨(lastToken? pairs).getD "", (named pairs).eraseDups⟩ := by
  have hempty : (∃ p ∈ pairs, p.1 = "") ↔ "" ∈ pairs.map Prod.fst := by simp
  have hnamed : named pairs = [] ↔ ∀ name ∈ pairs.map Prod.fst, name = View.tokenField := by
    unfold named
    rw [List.filter_eq_nil_iff]
    simp
  rw [ofPairs_eq]
  simp only [hempty, ← hnamed]
  cases lastToken? pairs with
  | none => simp
  | some token => rfl

theorem ofPairs_ok_iff :
    ofPairs pairs = .ok s ↔
      "" ∉ pairs.map Prod.fst ∧ lastToken? pairs = some s.token ∧ s.token ≠ "" ∧
        (∃ name ∈ pairs.map Prod.fst, name ≠ View.tokenField) ∧ s.ids = (named pairs).eraseDups := by
  have hsome : (∃ name ∈ pairs.map Prod.fst, name ≠ View.tokenField) ↔
      ¬ ∀ name ∈ pairs.map Prod.fst, name = View.tokenField := by simp
  obtain ⟨token, ids⟩ := s
  rw [ofPairs_eq_ite, hsome]
  constructor
  · intro h
    split_ifs at h with hempty htoken hnone
    cases h
    refine ⟨hempty, ?_, htoken, hnone, rfl⟩
    cases hlast : lastToken? pairs with
    | none => rw [hlast] at htoken; exact absurd rfl htoken
    | some token => rfl
  · rintro ⟨hempty, hlast, htoken, hnone, rfl⟩
    rw [if_neg hempty, hlast, Option.getD_some, if_neg htoken, if_neg hnone]

theorem ofPairs_error_iff :
    ofPairs pairs = .error f ↔
      match f with
      | .emptyId => "" ∈ pairs.map Prod.fst
      | .noToken => "" ∉ pairs.map Prod.fst ∧ (lastToken? pairs).getD "" = ""
      | .nothingChosen => "" ∉ pairs.map Prod.fst ∧ (lastToken? pairs).getD "" ≠ "" ∧
          ∀ name ∈ pairs.map Prod.fst, name = View.tokenField := by
  rw [ofPairs_eq_ite]
  cases f with
  | emptyId =>
    split_ifs with hempty
    · exact iff_of_true rfl hempty
    all_goals exact iff_of_false (fun h => nomatch h) hempty
  | noToken =>
    split_ifs with hempty htoken
    · exact iff_of_false (fun h => nomatch h) fun h => h.1 hempty
    · exact iff_of_true rfl ⟨hempty, htoken⟩
    all_goals exact iff_of_false (fun h => nomatch h) fun h => htoken h.2
  | nothingChosen =>
    split_ifs with hempty htoken hnone
    · exact iff_of_false (fun h => nomatch h) fun h => h.1 hempty
    · exact iff_of_false (fun h => nomatch h) fun h => h.2.1 htoken
    · exact iff_of_true rfl ⟨hempty, htoken, hnone⟩
    · exact iff_of_false (fun h => nomatch h) fun h => hnone h.2.2

/-! ## Written out again -/

theorem lastToken?_of_one {token : String} (h : View.tokenField ∉ post.map Prod.fst) :
    lastToken? (pre ++ (View.tokenField, token) :: post) = some token := by
  have hpost : post.reverse.find? (·.1 == View.tokenField) = none := List.find?_eq_none.2 fun p hp => by
    have hne : p.1 ≠ View.tokenField := fun e => h (List.mem_map.2 ⟨p, List.mem_reverse.1 hp, e⟩)
    simpa using hne
  unfold lastToken?
  rw [List.reverse_append, List.reverse_cons, List.append_assoc, List.find?_append, hpost]
  rfl

theorem named_of_one {token : String} (h : View.tokenField ∉ (pre ++ post).map Prod.fst) :
    named (pre ++ (View.tokenField, token) :: post) = (pre ++ post).map Prod.fst := by
  have hnone : named (pre ++ post) = (pre ++ post).map Prod.fst := named_of_not_mem h
  rw [← hnone]
  simp [named]

/-- **A confirmation is read as itself**, whatever the values are and wherever the token stands. -/
theorem ofPairs_written (hs : ofPairs qs = .ok s) (h : (pre ++ post).map Prod.fst = s.ids) :
    ofPairs (pre ++ (View.tokenField, s.token) :: post) = .ok s := by
  obtain ⟨hempty, -, htoken, ⟨name, hname, hne⟩, hids⟩ := ofPairs_ok_iff.1 hs
  have hmem : ∀ id, id ∈ s.ids ↔ id ∈ qs.map Prod.fst ∧ id ≠ View.tokenField := fun id => by
    rw [hids, List.mem_eraseDups, mem_named_iff]
  have hfield : View.tokenField ∉ (pre ++ post).map Prod.fst := by
    rw [h, hmem]
    exact fun hf => hf.2 rfl
  have hpost : View.tokenField ∉ post.map Prod.fst := fun hp => hfield (by
    rw [List.map_append]
    exact List.mem_append_right _ hp)
  have hnames : ∀ id, id ∈ (pre ++ (View.tokenField, s.token) :: post).map Prod.fst ↔
      id = View.tokenField ∨ id ∈ s.ids := fun id => by
    rw [← h]
    simp [or_left_comm]
  refine ofPairs_ok_iff.2 ⟨?_, lastToken?_of_one hpost, htoken, ⟨name, ?_, hne⟩, ?_⟩
  · rw [hnames]
    rintro (he | he)
    · exact tokenField_ne_empty he.symm
    · exact hempty ((hmem "").1 he).1
  · exact (hnames name).2 (.inr ((hmem name).2 ⟨hname, hne⟩))
  · rw [named_of_one hfield, h, hids]
    exact (eraseDups_of_nodup (nodup_eraseDups _)).symm

/-! ## In another order -/

theorem lastToken?_eq (pairs : List (String × String)) :
    lastToken? pairs = ((pairs.filter (·.1 == View.tokenField)).getLast?).map Prod.snd := by
  unfold lastToken?
  rw [← List.head?_filter, List.filter_reverse, List.head?_reverse]

theorem eq_of_perm_of_length_le {α : Type} : ∀ {l m : List α}, l.Perm m → l.length ≤ 1 → l = m
  | [], _, h, _ => h.nil_eq
  | [_], _, h, _ => List.singleton_perm.1 h
  | _ :: _ :: _, _, _, hl => absurd (Nat.le_of_succ_le_succ hl) (Nat.not_succ_le_zero _)

/-- One token at most is the same in every order. -/
theorem lastToken?_perm (h : pairs.Perm qs) (hone : (pairs.map Prod.fst).count View.tokenField ≤ 1) :
    lastToken? pairs = lastToken? qs := by
  have hlength : (pairs.filter (·.1 == View.tokenField)).length ≤ 1 := by
    rw [← List.countP_eq_length_filter]
    rwa [List.count, List.countP_map] at hone
  rw [lastToken?_eq, lastToken?_eq, eq_of_perm_of_length_le (h.filter _) hlength]

/-- **Outcomes that differ by the order of the ids alone.** -/
def SameChoice : Except Problem Submission → Except Problem Submission → Prop
  | .ok s, .ok t => s.token = t.token ∧ ∀ id, id ∈ s.ids ↔ id ∈ t.ids
  | .error p, .error q => p = q
  | _, _ => False

/-- What is told of a form. -/
def told (pairs : List (String × String)) : Except Problem Submission := (ofPairs pairs).mapError Fault.problem

theorem told_ok_iff : told pairs = .ok s ↔ ofPairs pairs = .ok s := by
  unfold told
  cases ofPairs pairs <;> simp [Except.mapError]

theorem told_error_iff : told pairs = .error f.problem ↔ ofPairs pairs = .error f := by
  have hinj : ∀ g : Fault, g.problem = f.problem ↔ g = f := by
    cases f <;> intro g <;> cases g <;> decide
  unfold told
  cases ofPairs pairs <;> simp [Except.mapError, hinj]

/-- **The order of the pairs** decides no more than the order of the ids. -/
theorem sameChoice_of_perm (h : pairs.Perm qs) (hone : (pairs.map Prod.fst).count View.tokenField ≤ 1) :
    SameChoice (told pairs) (told qs) := by
  have hnames : ∀ name, name ∈ pairs.map Prod.fst ↔ name ∈ qs.map Prod.fst := fun name =>
    (h.map Prod.fst).mem_iff
  have hids : ∀ id, id ∈ (named pairs).eraseDups ↔ id ∈ (named qs).eraseDups := fun id => by
    rw [List.mem_eraseDups, List.mem_eraseDups, mem_named_iff, mem_named_iff, hnames]
  unfold told
  rw [ofPairs_eq_ite, ofPairs_eq_ite, lastToken?_perm h hone]
  simp only [hnames]
  split_ifs
  · rfl
  · rfl
  · rfl
  · exact ⟨rfl, hids⟩

/-! ## All of it -/

/-- **A form has one outcome.**  An empty name is refused, then a last token that is missing or empty, then a form with
no other name than that of the token; every other form is a confirmation with its last token and with the other names,
each at its first place.  So its ids are distinct, there is one at least, and none is empty or the name of the token;
written out again it is read as itself; and in another order, with one token at most, a form comes to the same. -/
theorem outcome_of_form (pairs : List (String × String)) :
    let names := pairs.map Prod.fst
    let token := (lastToken? pairs).getD ""
    (told pairs = .error (.invalidSubmission "Empty node id") ↔ "" ∈ names) ∧
    (told pairs = .error .tokenRejected ↔ "" ∉ names ∧ token = "") ∧
    (told pairs = .error (.invalidSubmission "No nodes selected") ↔
      "" ∉ names ∧ token ≠ "" ∧ ∀ name ∈ names, name = View.tokenField) ∧
    ("" ∉ names ∧ token ≠ "" ∧ (∃ name ∈ names, name ≠ View.tokenField) →
      told pairs = .ok ⟨token, (names.filter (· ≠ View.tokenField)).eraseDups⟩) ∧
    (∀ s, told pairs = .ok s →
      s.ids ≠ [] ∧ s.ids.Nodup ∧ "" ∉ s.ids ∧ View.tokenField ∉ s.ids ∧
      ∀ pre post, (pre ++ post).map Prod.fst = s.ids → told (pre ++ (View.tokenField, s.token) :: post) = .ok s) ∧
    ∀ qs, pairs.Perm qs → names.count View.tokenField ≤ 1 → SameChoice (told pairs) (told qs) := by
  intro names token
  refine ⟨(told_error_iff (f := .emptyId)).trans ofPairs_error_iff,
    (told_error_iff (f := .noToken)).trans ofPairs_error_iff,
    (told_error_iff (f := .nothingChosen)).trans ofPairs_error_iff, ?_, fun s hs => ?_,
    fun qs => sameChoice_of_perm⟩
  · rintro ⟨hempty, htoken, name, hname, hne⟩
    have hnamed : names.filter (· ≠ View.tokenField) = named pairs := List.filter_congr fun k _ => by
      by_cases hk : k = View.tokenField <;> simp [hk]
    rw [told_ok_iff, ofPairs_eq_ite, if_neg hempty, if_neg htoken, if_neg fun h => hne (h name hname), hnamed]
  · rw [told_ok_iff] at hs
    obtain ⟨hempty, -, -, ⟨name, hname, hne⟩, hids⟩ := ofPairs_ok_iff.1 hs
    have hmem : ∀ id, id ∈ s.ids ↔ id ∈ names ∧ id ≠ View.tokenField := fun id => by
      rw [hids, List.mem_eraseDups, mem_named_iff]
    refine ⟨List.ne_nil_of_mem ((hmem name).2 ⟨hname, hne⟩), ?_, fun h => hempty ((hmem "").1 h).1,
      fun h => ((hmem _).1 h).2 rfl, fun pre post h => told_ok_iff.2 (ofPairs_written hs h)⟩
    rw [hids]
    exact nodup_eraseDups _

/-- A repeated id and a token between ids: the confirmation is read again with the token in front, and the same is
chosen when the pairs come the other way round. -/
theorem outcome_of_repeated_id :
    let pairs := [("b", "on"), (View.tokenField, "t"), ("a", ""), ("b", "x")]
    told pairs = .ok ⟨"t", ["b", "a"]⟩ ∧ told [(View.tokenField, "t"), ("b", ""), ("a", "")] = .ok ⟨"t", ["b", "a"]⟩ ∧
      SameChoice (told pairs) (told pairs.reverse) := by
  intro pairs
  obtain ⟨-, -, -, hok, hread, hperm⟩ := outcome_of_form pairs
  have htold : told pairs = .ok ⟨"t", ["b", "a"]⟩ := hok ⟨by decide, by decide, "b", by decide, by decide⟩
  exact ⟨htold, (hread _ htold).2.2.2.2 [] [("b", ""), ("a", "")] rfl,
    hperm _ pairs.reverse_perm.symm (by decide)⟩

end Submission
end NodeDesk
