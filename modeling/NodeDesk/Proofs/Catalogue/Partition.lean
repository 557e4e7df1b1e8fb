import Mathlib.Algebra.Order.Floor.Div
import NodeDesk.Proofs.Catalogue.Calls
/-!
# Partition — the pages of a catalogue, put end to end, are the catalogue

The nodes of a page are a window of the list: all pages but the last are full (`length_pageAt_of_lt`), and windows that
follow one another put the list together again (`flatMap_windows`).  No number on the way is greater than the number of
nodes, so none outgrows the word that counts them (`pages_partition`).
-/
namespace NodeDesk

/-- **The number of pages** is the quotient rounded up, and at least one. -/
theorem PageStatus.pages_eq (s : PageStatus) : s.pages = max 1 (s.total ⌈/⌉ s.perPage) := by
  unfold PageStatus.pages
  by_cases h : s.total = 0 ∨ s.perPage = 0
  · rw [if_pos h]
    rcases h with h | h
    · rw [h, zero_ceilDiv, Nat.max_eq_left (Nat.zero_le 1)]
    · rw [h, ceilDiv_zero, Nat.max_eq_left (Nat.zero_le 1)]
  · rw [if_neg h, Nat.ceilDiv_eq_add_pred_div]
    have hp : 0 < s.perPage := by omega
    have hone : 1 ≤ (s.total + s.perPage - 1) / s.perPage := by
      rw [Nat.le_div_iff_mul_le hp]
      omega
    exact (Nat.max_eq_right hone).symm

/-- **Windows that follow one another** are the beginning of a list. -/
theorem flatMap_windows {α : Type} (l : List α) (width count : Nat) :
    (List.range count).flatMap (fun i => (l.drop (i * width)).take width) = l.take (count * width) := by
  induction count with
  | zero => simp
  | succ count ih => rw [List.range_succ, List.flatMap_append, ih, Nat.succ_mul, List.take_add]; simp

namespace Catalogue

variable {c : Catalogue} {number perPage : Nat}

theorem hasPage_iff : HasPage c.size number perPage ↔
    0 < perPage ∧ 1 ≤ number ∧ number ≤ max 1 (c.size ⌈/⌉ perPage) := by
  have hpages : (PageStatus.mk number perPage c.size).pages = max 1 (c.size ⌈/⌉ perPage) := PageStatus.pages_eq _
  have hnot := not_iff_not.2 (@not_hasPage_iff number perPage c.size)
  rw [not_not, hpages] at hnot
  rw [hnot]
  omega

theorem length_pageAt : (c.pageAt number perPage).nodes.length = min perPage (c.size - (number - 1) * perPage) := by
  show ((c.nodes.drop _).take perPage).length = _
  rw [List.length_take, List.length_drop]
  rfl

section

variable (hp : 0 < perPage)
include hp

/-- The pages up to one that is not the last leave some node over. -/
theorem mul_lt_size (h : number < max 1 (c.size ⌈/⌉ perPage)) (hn : 0 < number) : number * perPage < c.size := by
  have hle : number + 1 ≤ (PageStatus.mk number perPage c.size).pages ↔
      number + 1 ≤ 1 ∨ (number + 1 - 1) * perPage < c.size := PageStatus.le_pages_iff hp
  rw [PageStatus.pages_eq, Nat.add_sub_cancel] at hle
  dsimp only at hle
  omega

theorem size_le_mul : c.size ≤ max 1 (c.size ⌈/⌉ perPage) * perPage := by
  have hle : c.size ⌈/⌉ perPage ≤ max 1 (c.size ⌈/⌉ perPage) := Nat.le_max_right _ _
  rw [ceilDiv_le_iff_le_smul hp, smul_eq_mul, Nat.mul_comm] at hle
  exact hle

theorem length_pageAt_of_lt (h : number < max 1 (c.size ⌈/⌉ perPage)) (hn : 0 < number) :
    (c.pageAt number perPage).nodes.length = perPage := by
  have hlt := mul_lt_size hp h hn
  have hsub : (number - 1) * perPage = number * perPage - perPage := Nat.sub_one_mul ..
  have hle : perPage ≤ number * perPage := Nat.le_mul_of_pos_left perPage hn
  rw [length_pageAt]
  omega

theorem length_pageAt_pos (h : HasPage c.size number perPage) (hc : c.nodes ≠ []) :
    0 < (c.pageAt number perPage).nodes.length := by
  have hsize : 0 < c.size := List.length_pos_of_ne_nil hc
  rw [length_pageAt]
  obtain ⟨-, -, rfl | hlt⟩ := h
  · simp only [Nat.sub_self, Nat.zero_mul]
    omega
  · omega

end

/-- **All pages put end to end are all nodes.** -/
theorem flatMap_pageAt (hp : 0 < perPage) :
    (List.range' 1 (max 1 (c.size ⌈/⌉ perPage))).flatMap (fun n => (c.pageAt n perPage).nodes) = c.nodes := by
  have hwindows : (List.range' 1 (max 1 (c.size ⌈/⌉ perPage))).flatMap (fun n => (c.pageAt n perPage).nodes) =
      (List.range (max 1 (c.size ⌈/⌉ perPage))).flatMap fun i => (c.nodes.drop (i * perPage)).take perPage := by
    rw [List.range'_eq_map_range, List.flatMap_map]
    simp only [pageAt, Nat.add_sub_cancel_left]
  rw [hwindows, flatMap_windows, List.take_of_length_le (size_le_mul hp)]

theorem calls_pages (perPage : Nat) : ∀ numbers : List Nat, (∀ n ∈ numbers, HasPage c.size n perPage) →
    c.calls (numbers.map fun n => .page n perPage) = (numbers.map fun n => .page (c.pageAt n perPage), c)
  | [], _ => rfl
  | n :: ns, h => by
    have hn : c.call (.page n perPage) = (.page (c.pageAt n perPage), c) := by
      simp only [call, page?_of_hasPage (h n List.mem_cons_self)]
    have ih := calls_pages perPage ns fun k hk => h k (List.mem_cons_of_mem n hk)
    rw [List.map_cons, calls, hn, ih]
    rfl

/-- **What the page of a number holds** in a catalogue of which there are so many pages. -/
structure IsPageOf (c : Catalogue) (number perPage pages : Nat) (p : Page) : Prop where
  status : p.status = ⟨number, perPage, c.size⟩
  pages_eq : p.status.pages = pages
  full : number < pages → p.nodes.length = perPage
  last : number = pages → p.nodes.length ≤ perPage
  nonempty : c.nodes ≠ [] → 0 < p.nodes.length
  /-- What is skipped and what is taken are words. -/
  offset_le : p.status.offset ≤ maxWord
  end_le : p.status.offset + p.nodes.length ≤ maxWord
  pages_le : p.status.pages ≤ maxWord

theorem pages_le_maxWord (hc : c.size ≤ maxWord) (hp : 0 < perPage) : max 1 (c.size ⌈/⌉ perPage) ≤ maxWord := by
  have hceil : c.size ⌈/⌉ perPage ≤ c.size := by
    rw [ceilDiv_le_iff_le_smul hp, smul_eq_mul]
    exact Nat.le_mul_of_pos_left c.size hp
  have hword : 1 ≤ maxWord := by decide
  omega

theorem isPageOf_pageAt (hc : c.size ≤ maxWord) (h : HasPage c.size number perPage) :
    IsPageOf c number perPage (max 1 (c.size ⌈/⌉ perPage)) (c.pageAt number perPage) := by
  obtain ⟨hp, hn, hle⟩ := hasPage_iff.1 h
  have hlen := @length_pageAt c number perPage
  have hoffset : (c.pageAt number perPage).status.offset = (number - 1) * perPage := rfl
  have hpages : (c.pageAt number perPage).status.pages = max 1 (c.size ⌈/⌉ perPage) := PageStatus.pages_eq _
  have hword := pages_le_maxWord hc hp
  -- The nodes before a page are no more than there are, since one of them stands on it or there are none.
  have hskip : (number - 1) * perPage ≤ c.size := by
    obtain ⟨-, -, rfl | hlt⟩ := h
    · simp
    · exact Nat.le_of_lt hlt
  exact {
    status := rfl
    pages_eq := hpages
    full := fun hlt => length_pageAt_of_lt hp hlt hn
    last := fun _ => by rw [hlen]; exact Nat.min_le_left _ _
    nonempty := length_pageAt_pos hp h
    offset_le := by omega
    end_le := by omega
    pages_le := by omega }

/-- **The pages of a catalogue, put end to end, are the catalogue.**  A page is there exactly if pages hold something
and its number is one from 1 to the quotient rounded up; all but the last are full; and every number that is reckoned
with on the way to a page is a word, as the size of the catalogue is. -/
theorem pages_partition (c : Catalogue) (hc : c.size ≤ maxWord) (perPage : Nat) :
    let pages := max 1 (c.size ⌈/⌉ perPage)
    (∀ number, if 0 < perPage ∧ 1 ≤ number ∧ number ≤ pages
      then ∃ p, (c.call (.page number perPage)).1 = .page p ∧ IsPageOf c number perPage pages p
      else (c.call (.page number perPage)).1 = .refused (.invalidPage number)) ∧
    (0 < perPage → ∃ ps : List Page,
      (c.calls ((List.range' 1 pages).map fun number => .page number perPage)).1 = ps.map .page ∧
      ps.length = pages ∧ ps.flatMap Page.nodes = c.nodes) := by
  intro pages
  constructor
  · intro number
    by_cases h : HasPage c.size number perPage
    · rw [if_pos (hasPage_iff.1 h)]
      exact ⟨_, by simp only [call, page?_of_hasPage h], isPageOf_pageAt hc h⟩
    · rw [if_neg fun hr => h (hasPage_iff.2 hr)]
      simp only [call, page?_eq_none_iff.2 h]
  · intro hp
    have hall : ∀ n ∈ List.range' 1 pages, HasPage c.size n perPage := fun n hn => by
      rw [List.mem_range'_1] at hn
      exact hasPage_iff.2 ⟨hp, hn.1, by omega⟩
    refine ⟨(List.range' 1 pages).map fun n => c.pageAt n perPage, ?_, ?_, ?_⟩
    · rw [calls_pages perPage _ hall, List.map_map]
      rfl
    · rw [List.length_map, List.length_range']
    · rw [List.flatMap_map]
      exact flatMap_pageAt hp

/-- Three nodes on pages of two: the second page holds the one that is left over, and there is no third. -/
theorem pages_of_three_nodes :
    let node (id : String) : Node := { id := id, created := .epoch }
    let c : Catalogue := ⟨[node "a", node "b", node "c"], by decide, by decide⟩
    c.size ≤ maxWord ∧ (∃ p, (c.call (.page 2 2)).1 = .page p ∧ c.IsPageOf 2 2 2 p) ∧
      (c.call (.page 3 2)).1 = .refused (.invalidPage 3) ∧
      ∃ ps : List Page, (c.calls [.page 1 2, .page 2 2]).1 = ps.map .page ∧ ps.flatMap Page.nodes = c.nodes := by
  intro node c
  have hc : c.size ≤ maxWord := by decide
  have htwo : max 1 (c.size ⌈/⌉ 2) = 2 := by decide
  obtain ⟨hpages, hall⟩ := c.pages_partition hc 2
  rw [htwo] at hpages hall
  have hsecond := hpages 2
  have hthird := hpages 3
  rw [if_pos (by decide)] at hsecond
  rw [if_neg (by decide)] at hthird
  obtain ⟨ps, hps, -, hnodes⟩ := hall (by decide)
  exact ⟨hc, hsecond, hthird, ps, hps, hnodes⟩

end Catalogue
end NodeDesk
