import NodeDesk.Catalogue
/-!
# Pages — which pages a catalogue has

A page past the first exists exactly if the pages before it do not hold all nodes (`le_pages_iff`).  So whether there is a
page can be told without a quotient (`HasPage`): it is found if there is (`page?_of_hasPage`), and otherwise nothing is
(`page?_eq_none_iff`).
-/
namespace NodeDesk

/-- **There is a page of a number** exactly if it is the first, or the pages before it leave some item over. -/
theorem PageStatus.le_pages_iff {s : PageStatus} {number : Nat} (hp : 0 < s.perPage) :
    number ≤ s.pages ↔ number ≤ 1 ∨ (number - 1) * s.perPage < s.total := by
  unfold PageStatus.pages
  by_cases ht : s.total = 0
  · rw [if_pos (.inl ht), ht]
    omega
  · rw [if_neg (by omega), Nat.le_div_iff_mul_le hp]
    cases number with
    | zero => simp
    | succ n =>
      rw [Nat.succ_mul, Nat.add_sub_cancel]
      cases n with
      | zero => omega
      | succ n => omega

namespace Catalogue

variable {c : Catalogue} {number perPage : Nat}

/-- Which pages there are: a page holds something, pages count from 1, and each but the first has an item to show. -/
def HasPage (count number perPage : Nat) : Prop :=
  0 < perPage ∧ 0 < number ∧ (number = 1 ∨ (number - 1) * perPage < count)

theorem not_hasPage_iff (count : Nat) :
    ¬ HasPage count number perPage ↔
      perPage = 0 ∨ number = 0 ∨ (PageStatus.mk number perPage count).pages < number := by
  unfold HasPage
  by_cases hp : 0 < perPage
  · have hle : number ≤ (PageStatus.mk number perPage count).pages ↔ number ≤ 1 ∨ (number - 1) * perPage < count :=
      PageStatus.le_pages_iff hp
    omega
  · simp [Nat.eq_zero_of_not_pos hp]

/-- The nodes of a page and its status, if the page exists. -/
def pageAt (c : Catalogue) (number perPage : Nat) : Page :=
  ⟨(c.nodes.drop ((number - 1) * perPage)).take perPage, ⟨number, perPage, c.size⟩⟩

theorem page?_eq_none_iff : c.page? number perPage = none ↔ ¬ HasPage c.size number perPage := by
  rw [not_hasPage_iff]
  unfold page?
  dsimp only
  split
  · rename_i h
    exact iff_of_true rfl h
  · rename_i h
    exact iff_of_false (fun hs => nomatch hs) h

theorem page?_of_hasPage (h : HasPage c.size number perPage) :
    c.page? number perPage = some (c.pageAt number perPage) := by
  have hn := mt (not_hasPage_iff c.size).2 (not_not_intro h)
  unfold page?
  rw [if_neg hn]
  rfl

/-- **The nodes of a page by their places**: as many as a page holds, after those of the pages before it. -/
theorem getElem?_pageAt (i : Nat) :
    (c.pageAt number perPage).nodes[i]? = if i < perPage then c.nodes[(number - 1) * perPage + i]? else none := by
  show ((c.nodes.drop _).take perPage)[i]? = _
  rw [List.getElem?_take, List.getElem?_drop]

end Catalogue
end NodeDesk
