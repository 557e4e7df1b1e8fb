import Mathlib.Order.Bounds.Defs
import NodeDesk.Proofs.Catalogue.Pages
/-!
# Page — the numbers of a page in machine words

A machine reckons in words of 64 bits and loses what does not fit into one.  `Words` is a status in such words, with
each number reckoned as a machine does it.  Nothing is lost: the number of pages and the neighbours of a page are exact
for any words at all (`Words.toNat_pages`, `Words.map_next?`), and the items before a page are, if there is that page
(`Words.toNat_offset`).
-/
namespace NodeDesk

namespace PageStatus

variable {s : PageStatus}

theorem pages_of_perPage_zero (hp : s.perPage = 0) : s.pages = 1 := if_pos (.inr hp)

/-- **The number of pages is the least** that has room for all items. -/
theorem isLeast_pages (hp : 0 < s.perPage) : IsLeast {k | 1 ≤ k ∧ s.total ≤ k * s.perPage} s.pages := by
  have hfirst : 1 ≤ s.pages := (le_pages_iff hp).2 (.inl (Nat.le_refl 1))
  refine ⟨⟨hfirst, ?_⟩, ?_⟩
  · -- if the pages left some item over, there would be one page more
    refine Nat.not_lt.1 fun hlt => ?_
    have hmore : s.pages + 1 ≤ s.pages := (le_pages_iff hp).2 (.inr (by rwa [Nat.add_sub_cancel]))
    omega
  · rintro k ⟨hk, hroom⟩
    rcases (le_pages_iff hp).1 (Nat.le_refl s.pages) with hone | hlast
    · omega
    · have hlt : s.pages - 1 < k := Nat.lt_of_mul_lt_mul_right (Nat.lt_of_lt_of_le hlast hroom)
      omega

/-- Each page but one has an item of its own. -/
theorem pages_le (s : PageStatus) : s.pages ≤ max 1 s.total := by
  rcases Nat.eq_zero_or_pos s.perPage with hp | hp
  · rw [pages_of_perPage_zero hp]
    exact Nat.le_max_left 1 s.total
  · refine (isLeast_pages hp).2 ⟨Nat.le_max_left 1 s.total, ?_⟩
    exact Nat.le_trans (Nat.le_max_right 1 s.total) (Nat.le_mul_of_pos_right _ hp)

/-- The number of full pages, and one more for what they leave over. -/
theorem pages_eq_div (ht : s.total ≠ 0) (hp : 0 < s.perPage) :
    s.pages = s.total / s.perPage + if 0 < s.total % s.perPage then 1 else 0 := by
  obtain ⟨number, p, t⟩ := s
  have hsum : p * (t / p) + t % p = t := Nat.div_add_mod t p
  unfold pages
  dsimp only at ht hp ⊢
  rw [if_neg (by omega)]
  split
  · have hover : t + p - 1 = p * (t / p) + ((t % p - 1) + p) := by omega
    have hless : t % p - 1 < p := Nat.lt_of_le_of_lt (Nat.sub_le _ 1) (Nat.mod_lt t hp)
    rw [hover, Nat.mul_add_div hp, Nat.add_div_right _ hp, Nat.div_eq_of_lt hless]
  · have hfull : t + p - 1 = p * (t / p) + (p - 1) := by omega
    have hless : p - 1 < p := Nat.sub_lt hp Nat.one_pos
    rw [hfull, Nat.mul_add_div hp, Nat.div_eq_of_lt hless]

theorem previous?_eq_some_iff {m : Nat} : s.previous? = some m ↔ 1 ≤ m ∧ m + 1 = s.number := by
  unfold previous? hasPrevious
  rw [Option.ite_none_right_eq_some, decide_eq_true_eq, Option.some.injEq]
  omega

theorem next?_eq_some_iff {m : Nat} : s.next? = some m ↔ s.number < s.pages ∧ m = s.number + 1 := by
  unfold next? hasNext
  rw [Option.ite_none_right_eq_some, decide_eq_true_eq, Option.some.injEq]
  exact and_congr_right fun _ => eq_comm

section

variable (hp : 0 < s.perPage)
include hp

/-- A page that there is begins at the front of the list or before an item. -/
theorem offset_eq_zero_or_lt (h : s.number ≤ s.pages) : s.offset = 0 ∨ s.offset < s.total := by
  refine ((le_pages_iff hp).1 h).imp_left fun hone => ?_
  rw [offset, Nat.sub_eq_zero_of_le hone, Nat.zero_mul]

/-- **The last page** is the one that has room for what is left. -/
theorem total_le_iff_last (hn : 1 ≤ s.number) (h : s.number ≤ s.pages) :
    s.total ≤ s.offset + s.perPage ↔ s.number = s.pages := by
  have hend : s.offset + s.perPage = s.number * s.perPage := by
    rw [offset, ← Nat.succ_mul, Nat.succ_eq_add_one, Nat.sub_add_cancel hn]
  rw [hend]
  constructor
  · intro hroom
    exact Nat.le_antisymm h ((isLeast_pages hp).2 ⟨hn, hroom⟩)
  · intro hlast
    rw [hlast]
    exact (isLeast_pages hp).1.2

end

/-! ## Words -/

/-- A status in machine words, which lose what does not fit into them. -/
structure Words where
  number : UInt64
  perPage : UInt64
  total : UInt64
  deriving Repr, DecidableEq

namespace Words

/-- The quotient, and one more if it leaves something over: a sum of both operands might not fit. -/
def pages (w : Words) : UInt64 :=
  if w.total = 0 ∨ w.perPage = 0 then 1
  else if 0 < w.total % w.perPage then w.total / w.perPage + 1
  else w.total / w.perPage

def previous? (w : Words) : Option UInt64 := if 1 < w.number then some (w.number - 1) else none

def next? (w : Words) : Option UInt64 := if w.number < w.pages then some (w.number + 1) else none

def offset (w : Words) : UInt64 := (if w.number = 0 then 0 else w.number - 1) * w.perPage

/-- The numbers that the words stand for. -/
def status (w : Words) : PageStatus := ⟨w.number.toNat, w.perPage.toNat, w.total.toNat⟩

variable (w : Words)

theorem toNat_add_one {a b : UInt64} (h : a < b) : (a + 1).toNat = a.toNat + 1 := by
  have hlt : a.toNat < b.toNat := UInt64.lt_iff_toNat_lt.1 h
  have hb : b.toNat < 2 ^ 64 := b.toNat_lt
  rw [UInt64.toNat_add]
  exact Nat.mod_eq_of_lt (show a.toNat + 1 < 2 ^ 64 by omega)

/-- **The number of pages is exact.** -/
theorem toNat_pages : w.pages.toNat = w.status.pages := by
  have hzero : ∀ {a : UInt64}, a = 0 ↔ a.toNat = 0 := fun {a} => (@UInt64.toNat_inj a 0).symm
  unfold pages
  by_cases h : w.total = 0 ∨ w.perPage = 0
  · rw [if_pos h, PageStatus.pages]
    exact (if_pos (h.imp hzero.1 hzero.1)).symm
  obtain ⟨ht, hp⟩ := not_or.1 h
  have hexact := @pages_eq_div w.status (mt hzero.2 ht) (Nat.pos_of_ne_zero (mt hzero.2 hp))
  have hquotient : (w.total / w.perPage).toNat = w.status.total / w.status.perPage := UInt64.toNat_div ..
  have hover : 0 < w.total % w.perPage ↔ 0 < w.status.total % w.status.perPage := by
    rw [UInt64.lt_iff_toNat_lt, UInt64.toNat_mod]
    rfl
  rw [if_neg h]
  by_cases hr : 0 < w.total % w.perPage
  · -- the number of pages is a word, so the sum that makes it is one
    have hlt : w.status.pages < 2 ^ 64 := by
      have hle : w.status.pages ≤ max 1 w.status.total := pages_le w.status
      have htotal : w.status.total < 2 ^ 64 := w.total.toNat_lt
      omega
    rw [if_pos (hover.1 hr)] at hexact
    rw [if_pos hr, UInt64.toNat_add, hquotient, hexact]
    exact Nat.mod_eq_of_lt (hexact ▸ hlt)
  · rw [if_neg (mt hover.2 hr)] at hexact
    rw [if_neg hr, hquotient, hexact, Nat.add_zero]

/-- **The page before is exact.** -/
theorem map_previous? : w.previous?.map UInt64.toNat = w.status.previous? := by
  have hlt : 1 < w.number ↔ 1 < w.status.number := UInt64.lt_iff_toNat_lt
  unfold previous? PageStatus.previous? hasPrevious
  simp only [decide_eq_true_eq, ← hlt]
  split
  · rename_i h
    have hle : 1 ≤ w.number := UInt64.le_iff_toNat_le.2 (Nat.le_of_lt (hlt.1 h))
    rw [Option.map_some, UInt64.toNat_sub_of_le _ _ hle]
    rfl
  · rfl

/-- **The page after is exact.** -/
theorem map_next? : w.next?.map UInt64.toNat = w.status.next? := by
  have hlt : w.number < w.pages ↔ w.status.number < w.status.pages := by
    rw [UInt64.lt_iff_toNat_lt, toNat_pages]
    rfl
  unfold next? PageStatus.next? hasNext
  simp only [decide_eq_true_eq, ← hlt]
  split
  · rename_i h
    rw [Option.map_some, toNat_add_one h]
    rfl
  · rfl

/-- **The page before the next one** is the page itself. -/
theorem previous?_of_next (hn : 1 ≤ w.status.number) {m : UInt64} (h : m ∈ w.next?) :
    ({ w with number := m } : Words).previous? = some w.number := by
  unfold next? at h
  split at h
  · rename_i hlt
    obtain rfl : w.number + 1 = m := Option.some.inj h
    have hone : 1 < w.number + 1 := by
      rw [UInt64.lt_iff_toNat_lt, toNat_add_one hlt]
      exact Nat.lt_succ_of_le hn
    rw [previous?, if_pos hone, UInt64.add_sub_cancel]
  · cases h

/-- **The items before a page are counted exactly**, if there is that page. -/
theorem toNat_offset (hp : 0 < w.status.perPage) (hn : 1 ≤ w.status.number) (h : w.status.number ≤ w.status.pages) :
    w.offset.toNat = w.status.offset := by
  have hfits : w.status.offset < 2 ^ 64 := by
    have htotal : w.status.total < 2 ^ 64 := w.total.toNat_lt
    have hbegins := offset_eq_zero_or_lt hp h
    omega
  have hle : 1 ≤ w.number := UInt64.le_iff_toNat_le.2 hn
  have hne : w.number ≠ 0 := fun he => absurd (he ▸ hle) (by decide)
  rw [offset, if_neg hne, UInt64.toNat_mul, UInt64.toNat_sub_of_le _ _ hle]
  exact Nat.mod_eq_of_lt hfits

/-- A page that there is not may stand behind more items than a word can count. -/
example : (Words.mk 0x8000000000000001 2 3).offset = 0 := by decide

/-- **Pages are reckoned exactly in machine words.**  The number of pages is the least that has room for all items, and
one if a page holds nothing.  The pages before and after are the numbers next to that of the page, where there are such
pages, and the page after has the page itself before it.  If there is the page, the items before it are counted
exactly and are fewer than all, and what is left has room on it exactly if it is the last. -/
theorem reckoned_exactly (w : Words) :
    let s := w.status
    (w.pages.toNat = s.pages ∧ if s.perPage = 0 then s.pages = 1
      else IsLeast {k | 1 ≤ k ∧ s.total ≤ k * s.perPage} s.pages) ∧
    (w.previous?.map UInt64.toNat = s.previous? ∧ ∀ m, s.previous? = some m ↔ 1 ≤ m ∧ m + 1 = s.number) ∧
    (w.next?.map UInt64.toNat = s.next? ∧ ∀ m, s.next? = some m ↔ s.number < s.pages ∧ m = s.number + 1) ∧
    (1 ≤ s.number ∧ s.number ≤ s.pages →
      (∀ m ∈ w.next?, ({ w with number := m } : Words).previous? = some w.number) ∧
      (0 < s.perPage → w.offset.toNat = s.offset ∧ (s.total ≠ 0 → s.offset < s.total) ∧
        (s.total ≤ s.offset + s.perPage ↔ s.number = s.pages))) := by
  intro s
  refine ⟨⟨w.toNat_pages, ?_⟩, ⟨w.map_previous?, fun m => previous?_eq_some_iff⟩,
    ⟨w.map_next?, fun m => next?_eq_some_iff⟩, ?_⟩
  · split
    · exact pages_of_perPage_zero ‹_›
    · exact isLeast_pages (Nat.pos_of_ne_zero ‹_›)
  rintro ⟨hn, h⟩
  refine ⟨fun m => w.previous?_of_next hn, fun hp => ⟨w.toNat_offset hp hn h, fun ht => ?_, total_le_iff_last hp hn h⟩⟩
  have hbegins := offset_eq_zero_or_lt hp h
  omega

/-- A list as long as a word can count, on pages of two items: its last page but one. -/
theorem reckoned_before_the_end :
    let w : Words := ⟨0x7FFFFFFFFFFFFFFF, 2, 0xFFFFFFFFFFFFFFFF⟩
    (1 ≤ w.status.number ∧ w.status.number ≤ w.status.pages ∧ 0 < w.status.perPage) ∧
      w.next? = some 0x8000000000000000 ∧
      ({ w with number := 0x8000000000000000 } : Words).previous? = some 0x7FFFFFFFFFFFFFFF ∧
      w.offset.toNat = w.status.offset ∧ ¬ w.status.total ≤ w.status.offset + w.status.perPage := by
  intro w
  have hnumber : w.status.number = 0x7FFFFFFFFFFFFFFF := rfl
  have hpages : w.status.pages = 0x8000000000000000 := by decide
  have hperPage : w.status.perPage = 2 := rfl
  have hn : 1 ≤ w.status.number ∧ w.status.number ≤ w.status.pages := by omega
  have hp : 0 < w.status.perPage := by omega
  have hnext : w.next? = some 0x8000000000000000 := by decide
  obtain ⟨-, -, -, hpage⟩ := w.reckoned_exactly
  obtain ⟨hback, hitems⟩ := hpage hn
  obtain ⟨hoffset, -, hlast⟩ := hitems hp
  exact ⟨⟨hn.1, hn.2, hp⟩, hnext, hback _ hnext, hoffset, mt hlast.1 (by omega)⟩

end Words

end PageStatus

end NodeDesk
