import Mathlib.Data.List.Induction
import NodeDesk.Proofs.Catalogue.Calls
import NodeDesk.Submission
/-!
# Submission — what a form comes to

A form is read pair by pair, and its outcome is told by the whole: whether some name is empty, the last value of the
token field, and the names besides it, each at its first place (`ofPairs_eq`).  So the ids that a catalogue admits come
back from a form as they were offered, all but one: the name of the token field is an id like any other to a catalogue,
and is never one to a form (`chosen_come_back`).
-/
namespace NodeDesk
namespace Submission

variable {p : String × String} {ps : List (String × String)}

/-- The last value of the token field. -/
def lastToken? (pairs : List (String × String)) : Option String :=
  (pairs.reverse.find? (·.1 == View.tokenField)).map Prod.snd

/-- The names of a form besides the token field, as often as they are given. -/
def named (pairs : List (String × String)) : List String := (pairs.map Prod.fst).filter (· != View.tokenField)

theorem tokenField_ne_empty : View.tokenField ≠ "" := by decide

theorem lastToken?_cons :
    lastToken? (p :: ps) = (lastToken? ps).or (if p.1 = View.tokenField then some p.2 else none) := by
  unfold lastToken?
  rw [List.reverse_cons, List.find?_append, Option.map_or]
  by_cases h : p.1 = View.tokenField <;> simp [h]

theorem named_cons :
    named (p :: ps) = if p.1 = View.tokenField then named ps else p.1 :: named ps := by
  unfold named
  by_cases h : p.1 = View.tokenField <;> simp [h]

theorem lastToken?_concat (ps : List (String × String)) (token : String) :
    lastToken? (ps ++ [(View.tokenField, token)]) = some token := by
  unfold lastToken?
  rw [List.reverse_append]
  rfl

theorem named_concat (ps : List (String × String)) (token : String) :
    named (ps ++ [(View.tokenField, token)]) = named ps := by
  unfold named
  rw [List.map_append, List.filter_append]
  exact List.append_nil _

theorem named_of_not_mem (h : View.tokenField ∉ ps.map Prod.fst) : named ps = ps.map Prod.fst := by
  unfold named
  refine List.filter_eq_self.2 fun name hname => bne_iff_ne.2 ?_
  rintro rfl
  exact h hname

/-- Of names that are given once, the token field is the one that is left out. -/
theorem named_of_nodup (h : (ps.map Prod.fst).Nodup) : named ps = (ps.map Prod.fst).erase View.tokenField :=
  (h.erase_eq_filter View.tokenField).symm

theorem mem_named_iff {id : String} : id ∈ named ps ↔ id ∈ ps.map Prod.fst ∧ id ≠ View.tokenField := by
  simp [named]

/-- Names are noted once, each at its first place. -/
theorem eraseDups_concat (seen : List String) (k : String) :
    (if seen.eraseDups.contains k then seen.eraseDups else seen.eraseDups ++ [k]) = (seen ++ [k]).eraseDups := by
  rw [List.eraseDups_append]
  by_cases h : k ∈ seen
  · have hr : [k].removeAll seen = [] := by simp [List.removeAll, h]
    simp [h, hr]
  · have hr : [k].removeAll seen = [k] := by simp [List.removeAll, h]
    simp [h, hr, List.eraseDups_cons]

theorem eraseDups_eq_nil_iff {ids : List String} : ids.eraseDups = [] ↔ ids = [] := by
  cases ids <;> simp [List.eraseDups_cons]

theorem eraseDups_of_nodup {ids : List String} (h : ids.Nodup) : ids.eraseDups = ids := by
  induction ids with
  | nil => rfl
  | cons id ids ih =>
    obtain ⟨hid, hids⟩ := List.nodup_cons.1 h
    have hrest : ids.filter (fun b => !b == id) = ids := List.filter_eq_self.2 fun b hb => by
      have hne : b ≠ id := fun e => hid (e ▸ hb)
      simpa using hne
    rw [List.eraseDups_cons, hrest, ih hids]

theorem nodup_eraseDups (ids : List String) : ids.eraseDups.Nodup := by
  induction ids using List.reverseRecOn with
  | nil => exact List.nodup_nil
  | append_singleton ids id ih =>
    rw [← eraseDups_concat]
    by_cases h : ids.eraseDups.contains id = true
    · rwa [if_pos h]
    · rw [if_neg h]
      refine List.Nodup.append ih (List.nodup_singleton id) ?_
      simpa using h

theorem find?_eraseDups (p : String → Bool) (ids : List String) : ids.eraseDups.find? p = ids.find? p := by
  induction ids using List.reverseRecOn with
  | nil => rfl
  | append_singleton ids id ih =>
    rw [← eraseDups_concat, List.find?_append, ← ih]
    by_cases h : ids.eraseDups.contains id = true
    · rw [if_pos h]
      cases hf : ids.eraseDups.find? p with
      | some i => rfl
      | none =>
        have hid : ¬ p id = true := List.find?_eq_none.1 hf id (List.contains_iff_mem.1 h)
        simp [hid]
    · rw [if_neg h, List.find?_append]

/-- **What the pairs of a form leave**, read onto a token and the names seen before. -/
theorem foldlM_step (token : Option String) (seen : List String) (pairs : List (String × String)) :
    pairs.foldlM step (token, seen.eraseDups) =
      if ∃ p ∈ pairs, p.1 = "" then .error .emptyId
      else .ok ((lastToken? pairs).or token, (seen ++ named pairs).eraseDups) := by
  -- What was seen before keeps its repetitions, so that a name is appended to it whether it is new or not.
  induction pairs generalizing token seen with
  | nil => simp [lastToken?, named]; rfl
  | cons p ps ih =>
    rw [List.foldlM_cons]
    have hex : (∃ q ∈ p :: ps, q.1 = "") ↔ p.1 = "" ∨ ∃ q ∈ ps, q.1 = "" := by
      simp only [List.mem_cons, exists_eq_or_imp]
    by_cases ht : p.1 = View.tokenField
    · have hstep : step (token, seen.eraseDups) p = .ok (some p.2, seen.eraseDups) := by simp [step, ht]
      have hne : p.1 ≠ "" := ht ▸ tokenField_ne_empty
      rw [hstep]
      show ps.foldlM step (some p.2, seen.eraseDups) = _
      rw [ih, lastToken?_cons, named_cons, if_pos ht, if_pos ht, Option.or_assoc]
      simp only [hex, hne, false_or]
      rfl
    · by_cases he : p.1 = ""
      · have hstep : step (token, seen.eraseDups) p = .error .emptyId := by
          simp [step, he, Ne.symm tokenField_ne_empty]
        rw [hstep, if_pos ⟨p, List.mem_cons_self, he⟩]
        rfl
      · have hstep : step (token, seen.eraseDups) p = .ok (token, (seen ++ [p.1]).eraseDups) := by
          rw [← eraseDups_concat]
          simp [step, ht, he]
        rw [hstep]
        show ps.foldlM step (token, (seen ++ [p.1]).eraseDups) = _
        rw [ih, lastToken?_cons, named_cons, if_neg ht, if_neg ht, Option.or_none, List.append_assoc]
        simp only [hex, he, false_or]
        rfl

/-- **What a form comes to**: an empty name is refused first, then a missing or empty token, then an empty choice. -/
theorem ofPairs_eq (pairs : List (String × String)) :
    ofPairs pairs =
      if ∃ p ∈ pairs, p.1 = "" then .error .emptyId
      else match lastToken? pairs with
        | none => .error .noToken
        | some token =>
          if token = "" then .error .noToken
          else if named pairs = [] then .error .nothingChosen
          else .ok ⟨token, (named pairs).eraseDups⟩ := by
  unfold ofPairs
  have hfold := foldlM_step none [] pairs
  simp only [List.eraseDups_nil, List.nil_append, Option.or_none] at hfold
  rw [hfold]
  split
  · rfl
  · cases ht : lastToken? pairs with
    | none => rfl
    | some token =>
      show (if token = "" then _ else if (named pairs).eraseDups.isEmpty = true then _ else _) = _
      simp only [List.isEmpty_iff, eraseDups_eq_nil_iff]

/-! ## Ids that come back -/

/-- The choice that a form brings back, of pairs that are named after distinct ids and of a token behind them. -/
theorem ofPairs_concat {token : String} (hd : (ps.map Prod.fst).Nodup) (he : ∀ id ∈ ps.map Prod.fst, id ≠ "")
    (ht : token ≠ "") :
    ofPairs (ps ++ [(View.tokenField, token)]) =
      if (ps.map Prod.fst).erase View.tokenField = [] then .error .nothingChosen
      else .ok ⟨token, (ps.map Prod.fst).erase View.tokenField⟩ := by
  have hempty : ¬ ∃ p ∈ ps ++ [(View.tokenField, token)], p.1 = "" := by
    rintro ⟨p, hp, hid⟩
    rcases List.mem_append.1 hp with hp | hp
    · exact he p.1 (List.mem_map.2 ⟨p, hp, rfl⟩) hid
    · rw [List.mem_singleton.1 hp] at hid
      exact tokenField_ne_empty hid
  rw [ofPairs_eq, if_neg hempty, lastToken?_concat, named_concat, named_of_nodup hd]
  dsimp only
  rw [if_neg ht, eraseDups_of_nodup (hd.erase View.tokenField)]

/-- **What is chosen comes back.**  If pairs are named after distinct ids that a catalogue admits, and a token stands
behind them, then the form is read as this token and these ids in their order, unless one of them is the name of the
token field; that one is left out, and if there is no other the form is refused. -/
theorem chosen_come_back {token : String} (hd : (ps.map Prod.fst).Nodup)
    (ha : ∀ id ∈ ps.map Prod.fst, Catalogue.Admits id) (ht : token ≠ "") :
    let ids := ps.map Prod.fst
    let form := ps ++ [(View.tokenField, token)]
    (View.tokenField ∉ ids → ids ≠ [] → ofPairs form = .ok ⟨token, ids⟩) ∧
    (View.tokenField ∈ ids → ofPairs form =
      if ids = [View.tokenField] then .error .nothingChosen else .ok ⟨token, ids.erase View.tokenField⟩) := by
  intro ids form
  have hform : ofPairs form = _ := ofPairs_concat hd (fun id hid => Catalogue.admits_iff.1 (ha id hid)) ht
  constructor
  · intro hfield hne
    rw [hform, List.erase_of_not_mem hfield, if_neg hne]
  · intro hfield
    have hone : ids.erase View.tokenField = [] ↔ ids = [View.tokenField] := by
      rw [List.erase_eq_nil_iff]
      exact or_iff_right (List.ne_nil_of_mem hfield)
    rw [hform]
    simp only [ids, hone]

/-- Two ids that mean something in an address and in markup, with values that mean nothing. -/
theorem two_chosen_come_back :
    let ps := [("a/b?c", "on"), ("<é>", "")]
    (ps.map Prod.fst).Nodup ∧ (∀ id ∈ ps.map Prod.fst, Catalogue.Admits id) ∧
      ofPairs (ps ++ [(View.tokenField, "t")]) = .ok ⟨"t", ["a/b?c", "<é>"]⟩ := by
  intro ps
  have hd : (ps.map Prod.fst).Nodup := by decide
  have ha : ∀ id ∈ ps.map Prod.fst, Catalogue.Admits id := fun id hid => by
    refine Catalogue.admits_iff.2 ?_
    rintro rfl
    exact absurd hid (by decide)
  exact ⟨hd, ha, (chosen_come_back hd ha (by decide)).1 (by decide) (by decide)⟩

/-- **An id that is admitted and does not come back**: alone it leaves nothing chosen, and beside others it is passed
over. -/
theorem tokenField_not_chosen :
    Catalogue.Admits View.tokenField ∧
      ofPairs [(View.tokenField, "on"), (View.tokenField, "t")] = .error .nothingChosen ∧
      ofPairs [("a", "on"), (View.tokenField, "on"), (View.tokenField, "t")] = .ok ⟨"t", ["a"]⟩ :=
  ⟨Catalogue.admits_iff.2 tokenField_ne_empty, rfl, rfl⟩

end Submission
end NodeDesk
