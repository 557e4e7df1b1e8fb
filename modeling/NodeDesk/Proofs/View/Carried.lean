import NodeDesk.Proofs.Text.Decimal
import NodeDesk.Proofs.Url.Raw
import NodeDesk.Proofs.View.Survey
/-!
# Carried — what the links to other pages carry

Above a listing stand links to the pages that there are (`links_pieces`), and each asks for its page and for the pairs
that all links carry.  A link writes these pairs as they stand, so it asks for just them exactly if each of them is
plain (`links_carry`).
-/
namespace NodeDesk
namespace View

open Url (Target)
open Url.Form (Kept raw readRaw)

namespace PageLinks

variable (l : PageLinks) (s : PageStatus)

/-- **The pages that links lead to**, with the classes of the links. -/
def linked (s : PageStatus) : List (String × Nat) :=
  (if 1 < s.number then [("first", 1), ("previous", s.number - 1)] else [])
    ++ if s.number < s.pages then [("next", s.number + 1), ("last", s.pages)] else []

theorem shown_eq : l.shown s = (linked s).map fun p => (p.1, l.href p.2) := by
  unfold shown linked PageStatus.previous? PageStatus.next? PageStatus.hasPrevious PageStatus.hasNext
  by_cases hp : 1 < s.number <;> by_cases hn : s.number < s.pages <;> simp [hp, hn]

theorem links_pieces : (Survey.read (Html.render (l.pieces s))).links = (linked s).map fun p => (p.1, l.href p.2) := by
  unfold Survey.read
  dsimp only
  rw [Html.tokens_of_reads (l.reads_pieces s), Html.filterMap_settle fun _ => rfl, Survey.links_pages, shown_eq]

/-- **What an address asks for**: a path, and the pairs of the query that stands behind it and before a fragment. -/
def Asks (address path : String) (pairs : List (String × String)) : Prop :=
  ∃ query, Target.split (Target.dropFragment address.toList) = ⟨path.toList, some query⟩ ∧
    Url.Form.decode (Utf8.encode query) = pairs

def pagePair (page : Nat) : String × String := ("page", Decimal.text page)

theorem kept_pagePair (page : Nat) : Kept (pagePair page) := by
  have hdigits : ∀ c, c.isDigit = false → c ∉ (Decimal.text page).toList := fun c hc => by
    rw [Decimal.toList_text]
    exact Decimal.not_mem_digits hc page
  have hkey : '=' ∉ "page".toList ∧ Url.Form.Plain "page" := by decide
  exact ⟨hkey.1, hkey.2, hdigits _ (by decide), hdigits _ (by decide), hdigits _ (by decide),
    Url.Percent.holdsTriple_of_not_mem (hdigits _ (by decide))⟩

theorem toList_href (page : Nat) :
    (l.href page).toList = l.base.toList ++ '?' :: (raw (pagePair page) ++ l.query.flatMap fun q => '&' :: raw q) := by
  unfold href
  rw [String.toList_append, String.toList_append, String.toList_append, String.toList_ofList]
  simp [raw, pagePair, more]

variable {l}

theorem asks_href (hquery : '?' ∉ l.base.toList) (hfragment : '#' ∉ l.base.toList) (page : Nat) :
    Asks (l.href page) l.base (pagePair page :: readRaw (l.query.flatMap fun q => '&' :: raw q)) := by
  refine ⟨Target.dropFragment (raw (pagePair page) ++ l.query.flatMap fun q => '&' :: raw q), ?_, ?_⟩
  · rw [toList_href, Target.dropFragment, List.takeWhile_append_of_pos (Text.bne_of_not_mem hfragment),
      List.takeWhile_cons_of_pos (by decide), Target.split, List.dropWhile_append_of_pos (Text.bne_of_not_mem hquery),
      List.takeWhile_append_of_pos (Text.bne_of_not_mem hquery), List.dropWhile_cons_of_neg (by decide),
      List.takeWhile_cons_of_neg (by decide), List.append_nil]
    rfl
  · exact Url.Form.readRaw_of_kept (kept_pagePair page) (Url.Form.ends_flatMap l.query)

/-- **What the links of a listing carry.**  Links lead to the first and the previous page if there are pages before,
and to the next and the last if there are pages after.  Each asks the listing for its page first, and besides that for
just the pairs that it carries exactly if all of these are plain. -/
theorem links_carry (l : PageLinks) (s : PageStatus) (hquery : '?' ∉ l.base.toList) (hfragment : '#' ∉ l.base.toList) :
    List.Forall₂ (fun page link => link.1 = page.1 ∧ ∃ more,
        Asks link.2 l.base (("page", Decimal.text page.2) :: more) ∧ (more = l.query ↔ ∀ q ∈ l.query, Kept q))
      (linked s) (Survey.read (Html.render (l.pieces s))).links := by
  rw [links_pieces]
  refine List.forall₂_map_right_iff.2 (List.forall₂_same.2 fun page _ => ⟨rfl, _, asks_href hquery hfragment page.2, ?_⟩)
  exact Url.Form.readRaw_flatMap_iff l.query

/-- Pairs with a space, an accent and empty sides are plain: the links that lead on from the first of three pages ask
for just them. -/
theorem links_carry_plain :
    let l : PageLinks := ⟨"/a/", [("show_title", "false"), ("q", "é x"), ("", "")]⟩
    ∃ next last, (Survey.read (Html.render (l.pieces ⟨1, 10, 30⟩))).links = [("next", next), ("last", last)] ∧
      Asks next "/a/" (("page", "2") :: l.query) ∧ Asks last "/a/" (("page", "3") :: l.query) := by
  intro l
  have hkept : ∀ q ∈ l.query, Kept q := by decide
  have hlinked : linked ⟨1, 10, 30⟩ = [("next", 2), ("last", 3)] := by decide
  have hcarry := l.links_carry ⟨1, 10, 30⟩ (by decide) (by decide)
  rw [hlinked] at hcarry
  obtain ⟨⟨_, next⟩, _, ⟨rfl, more, hnext, hmore⟩, hrest, hlinks⟩ := List.forall₂_cons_left_iff.1 hcarry
  obtain ⟨⟨_, last⟩, _, ⟨rfl, more', hlast, hmore'⟩, hnone, rfl⟩ := List.forall₂_cons_left_iff.1 hrest
  cases hnone
  obtain rfl := hmore.2 hkept
  obtain rfl := hmore'.2 hkept
  exact ⟨next, last, hlinks, hnext, hlast⟩

/-- **An ampersand in a value cuts it**: the link to the next page asks for two pairs in the place of one. -/
theorem link_of_ampersand :
    let l : PageLinks := ⟨"/admin/nodes/", [("q", "a&b")]⟩
    ('?' ∉ l.base.toList ∧ '#' ∉ l.base.toList) ∧
      (Survey.read (Html.render (l.pieces ⟨1, 10, 30⟩))).links =
        [("next", "/admin/nodes/?page=2&q=a&b"), ("last", "/admin/nodes/?page=3&q=a&b")] ∧
      Asks "/admin/nodes/?page=2&q=a&b" l.base [("page", "2"), ("q", "a"), ("b", "")] ∧
      ¬ Asks "/admin/nodes/?page=2&q=a&b" l.base (("page", "2") :: l.query) := by
  intro l
  have hsplit : Target.split (Target.dropFragment "/admin/nodes/?page=2&q=a&b".toList) =
      ⟨l.base.toList, some "page=2&q=a&b".toList⟩ := by decide +kernel
  have hread : Url.Form.decode (Utf8.encode "page=2&q=a&b".toList) = [("page", "2"), ("q", "a"), ("b", "")] := by
    decide +kernel
  refine ⟨by decide, ?_, ⟨_, hsplit, hread⟩, ?_⟩
  · rw [links_pieces]
    decide +kernel
  · rintro ⟨query, hquery, hpairs⟩
    rw [hsplit] at hquery
    cases hquery
    exact absurd (hread.symm.trans hpairs) (by decide)

end PageLinks
end View
end NodeDesk
