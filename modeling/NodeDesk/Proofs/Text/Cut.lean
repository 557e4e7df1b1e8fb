import NodeDesk.Text.Cut
/-!
# Cut — taking a text apart at a mark and putting it together

The parts of a text, put together with the mark between them, are the text again (`intercalate_parts`), and texts
without the mark are the parts of what they are put together to (`parts_intercalate`).
-/
namespace NodeDesk
namespace Text

variable {α : Type} [DecidableEq α] {mark : α}

/-- **Nothing is lost when a text is taken apart.** -/
theorem intercalate_parts (mark : α) : ∀ as : List α, [mark].intercalate (parts mark as) = as
  | [] => rfl
  | a :: r => by
    have ih := intercalate_parts mark r
    obtain ⟨p, ps, hp⟩ := List.exists_cons_of_ne_nil (parts_ne_nil mark r)
    unfold parts
    rw [hp] at ih ⊢
    by_cases h : a = mark
    · rw [if_pos h, List.intercalate_cons_cons, ih, h]
      rfl
    · rw [if_neg h]
      cases ps with
      | nil =>
        simp only [List.intercalate_singleton] at ih ⊢
        rw [ih]
      | cons p' ps =>
        simp only [List.intercalate_cons_cons] at ih ⊢
        rw [List.cons_append, List.cons_append, ih]

theorem parts_of_not_mem : ∀ {as : List α}, mark ∉ as → parts mark as = [as]
  | [], _ => rfl
  | a :: as, h => by
    have ha : a ≠ mark := fun e => h (e ▸ List.mem_cons_self)
    rw [parts, if_neg ha, parts_of_not_mem fun hm => h (List.mem_cons_of_mem a hm)]

theorem parts_append : ∀ {as : List α} {r : List α}, mark ∉ as → parts mark (as ++ mark :: r) = as :: parts mark r
  | [], r, _ => by rw [List.nil_append, parts, if_pos rfl]
  | a :: as, r, h => by
    have ha : a ≠ mark := fun e => h (e ▸ List.mem_cons_self)
    rw [List.cons_append, parts, if_neg ha, parts_append fun hm => h (List.mem_cons_of_mem a hm)]

/-- **Texts without the mark are told apart by it.** -/
theorem parts_intercalate : ∀ {ps : List (List α)}, ps ≠ [] → (∀ p ∈ ps, mark ∉ p) →
    parts mark ([mark].intercalate ps) = ps
  | [], h, _ => absurd rfl h
  | [p], _, h => by
    rw [List.intercalate_singleton]
    exact parts_of_not_mem (h p List.mem_cons_self)
  | p :: p' :: ps, _, h => by
    have ih := parts_intercalate (List.cons_ne_nil p' ps) fun x hx => h x (List.mem_cons_of_mem p hx)
    rw [List.intercalate_cons_cons, List.append_assoc, List.singleton_append,
      parts_append (h p List.mem_cons_self), ih]

theorem count_intercalate : ∀ {ps : List (List α)}, ps ≠ [] →
    ([mark].intercalate ps).count mark + 1 = ps.flatten.count mark + ps.length
  | [], h => absurd rfl h
  | [p], _ => by rw [List.intercalate_singleton, List.flatten_singleton, List.length_singleton]
  | p :: p' :: ps, _ => by
    have ih := count_intercalate (List.cons_ne_nil p' ps)
    rw [List.intercalate_cons_cons, List.count_append, List.count_append, List.count_singleton_self, List.flatten_cons,
      List.count_append, List.length_cons]
    omega

theorem count_flatten_eq_zero_iff {ps : List (List α)} : ps.flatten.count mark = 0 ↔ ∀ p ∈ ps, mark ∉ p := by
  simp [List.count_eq_zero]

/-- **Texts are told from what they are put together to** if their number is known and the mark is in none of them. -/
theorem intercalate_inj {ps qs : List (List α)} (hm : ∀ p ∈ ps, mark ∉ p) (hl : ps.length = qs.length)
    (h : [mark].intercalate ps = [mark].intercalate qs) : ps = qs := by
  by_cases hne : ps = []
  · subst hne
    exact (List.eq_nil_of_length_eq_zero hl.symm).symm
  have hne' : qs ≠ [] := fun e => hne (List.eq_nil_of_length_eq_zero (by rw [hl, e, List.length_nil]))
  -- As many marks are between the others as between these, so none is left to be in them.
  have hnone : qs.flatten.count mark = 0 := by
    have hzero := count_flatten_eq_zero_iff.2 hm
    have hcount := @count_intercalate _ _ mark _ hne
    have hcount' := @count_intercalate _ _ mark _ hne'
    rw [← h] at hcount'
    omega
  rw [← parts_intercalate hne hm, h, parts_intercalate hne' (count_flatten_eq_zero_iff.1 hnone)]

theorem mem_of_mem_parts {a : α} : ∀ {as p : List α}, p ∈ parts mark as → a ∈ p → a ∈ as
  | [], p, hp, ha => by
    rw [parts, List.mem_singleton] at hp
    exact absurd ha (hp ▸ List.not_mem_nil)
  | b :: r, p, hp, ha => by
    obtain ⟨q, qs, hq⟩ := List.exists_cons_of_ne_nil (parts_ne_nil mark r)
    have ih : ∀ p ∈ q :: qs, a ∈ p → a ∈ r := fun p hp => mem_of_mem_parts (hq ▸ hp)
    rw [parts, hq] at hp
    by_cases hb : b = mark
    · rw [if_pos hb] at hp
      rcases List.mem_cons.1 hp with rfl | hp
      · cases ha
      · exact List.mem_cons_of_mem b (ih p hp ha)
    · rw [if_neg hb] at hp
      rcases List.mem_cons.1 hp with rfl | hp
      · rcases List.mem_cons.1 ha with rfl | ha
        · exact List.mem_cons_self
        · exact List.mem_cons_of_mem b (ih q List.mem_cons_self ha)
      · exact List.mem_cons_of_mem b (ih p (List.mem_cons_of_mem q hp) ha)

/-- **A text is taken apart alike in other elements**, if no two of them become one. -/
theorem parts_map {β : Type} [DecidableEq β] {f : α → β} (hf : ∀ a b, f a = f b → a = b) :
    ∀ as : List α, parts (f mark) (as.map f) = (parts mark as).map (List.map f)
  | [] => rfl
  | a :: r => by
    obtain ⟨p, ps, hp⟩ := List.exists_cons_of_ne_nil (parts_ne_nil mark r)
    rw [List.map_cons, parts, parts, parts_map hf r, hp]
    by_cases h : a = mark
    · rw [if_pos h, if_pos (congrArg f h)]
      rfl
    · rw [if_neg h, if_neg fun he => h (hf a mark he)]
      rfl

theorem cut?_map {β : Type} [DecidableEq β] {f : α → β} (hf : ∀ a b, f a = f b → a = b) :
    ∀ as : List α, cut? (f mark) (as.map f) = (cut? mark as).map fun p => (p.1.map f, p.2.map f)
  | [] => rfl
  | a :: r => by
    rw [List.map_cons, cut?, cut?, cut?_map hf r]
    by_cases h : a = mark
    · rw [if_pos h, if_pos (congrArg f h)]
      rfl
    · rw [if_neg h, if_neg fun he => h (hf a mark he)]
      cases cut? mark r <;> rfl

theorem cut?_append : ∀ {as : List α} {r : List α}, mark ∉ as → cut? mark (as ++ mark :: r) = some (as, r)
  | [], r, _ => by rw [List.nil_append, cut?, if_pos rfl]
  | a :: as, r, h => by
    have ha : a ≠ mark := fun e => h (e ▸ List.mem_cons_self)
    rw [List.cons_append, cut?, if_neg ha, cut?_append fun hm => h (List.mem_cons_of_mem a hm)]
    rfl

theorem cut?_of_not_mem {as : List α} (h : mark ∉ as) : cut? mark as = none := by
  induction as with
  | nil => rfl
  | cons a as ih =>
    have ha : a ≠ mark := fun e => h (e ▸ List.mem_cons_self)
    rw [cut?, if_neg ha, ih fun hm => h (List.mem_cons_of_mem a hm)]
    rfl

/-- **What a cut yields**: the text without the mark that stands before its first one, and all that follows. -/
theorem cut?_eq_some_iff {as cs r : List α} : cut? mark cs = some (as, r) ↔ mark ∉ as ∧ cs = as ++ mark :: r := by
  constructor
  · intro h
    induction cs generalizing as with
    | nil => cases h
    | cons c cs ih =>
      rw [cut?] at h
      by_cases hc : c = mark
      · rw [if_pos hc] at h
        cases h
        exact ⟨List.not_mem_nil, by rw [hc, List.nil_append]⟩
      · rw [if_neg hc] at h
        obtain ⟨p, hp, he⟩ := Option.map_eq_some_iff.1 h
        cases he
        obtain ⟨hm, hcs⟩ := ih hp
        exact ⟨fun hmem => (List.mem_cons.1 hmem).elim (fun e => hc e.symm) hm, by rw [hcs, List.cons_append]⟩
  · rintro ⟨hm, rfl⟩
    exact cut?_append hm

end Text
end NodeDesk
