import Mathlib.Data.List.TakeWhile
import NodeDesk.Url.Target
/-!
# Target — a target comes back from its text

A target that holds only what may stand in it, and is not too long, is read from its path, a question mark and its
query (`read?_text`): there is no fragment to be cut off, no scheme or host before the path, and no other question
mark in the path.
-/
namespace NodeDesk
namespace Url
namespace Target

/-- The text of a target. -/
def text (t : Target) : List Char :=
  match t.query with
  | none => t.path
  | some q => t.path ++ '?' :: q

variable {t : Target}

theorem isLegal_iff :
    t.isLegal = true ↔
      t.path.head? = some '/' ∧ (∀ c ∈ t.path, isPathChar c = true) ∧ ∀ c ∈ t.query.getD [], isQueryChar c = true := by
  simp [isLegal, and_assoc]

theorem ne_of_isPathChar {c : Char} (h : isPathChar c = true) : c ≠ '#' ∧ c ≠ '?' := by
  constructor <;> rintro rfl <;> exact absurd h (by decide)

theorem ne_of_isQueryChar {c : Char} (h : isQueryChar c = true) : c ≠ '#' := by
  rintro rfl
  exact absurd h (by decide)

theorem dropFragment_text (h : t.isLegal = true) : dropFragment t.text = t.text := by
  obtain ⟨-, hp, hq⟩ := isLegal_iff.1 h
  have hpath : ∀ c ∈ t.path, (c != '#') = true := fun c hc => by simpa using (ne_of_isPathChar (hp c hc)).1
  refine List.takeWhile_eq_self_iff.2 fun c hc => ?_
  unfold text at hc
  cases hquery : t.query with
  | none =>
    rw [hquery] at hc
    exact hpath c hc
  | some q =>
    rw [hquery] at hc hq
    rcases List.mem_append.1 hc with hc | hc
    · exact hpath c hc
    · rcases List.mem_cons.1 hc with rfl | hc
      · decide
      · simpa using ne_of_isQueryChar (hq c hc)

theorem split_text (h : t.isLegal = true) : split t.text = t := by
  obtain ⟨-, hp, -⟩ := isLegal_iff.1 h
  have hpath : ∀ c ∈ t.path, (c != '?') = true := fun c hc => by simpa using (ne_of_isPathChar (hp c hc)).2
  obtain ⟨path, query⟩ := t
  unfold split text
  cases query with
  | none =>
    dsimp only at hpath ⊢
    rw [List.dropWhile_eq_nil_iff.2 hpath, List.takeWhile_eq_self_iff.2 hpath]
  | some q =>
    dsimp only at hpath ⊢
    rw [List.dropWhile_append_of_pos hpath, List.takeWhile_append_of_pos hpath,
      List.dropWhile_cons_of_neg (by decide), List.takeWhile_cons_of_neg (by decide), List.append_nil]

/-- A text that starts at the root has no scheme and no host. -/
theorem afterHost_root (r : List Char) : afterHost ('/' :: r) = '/' :: r := by
  have hs : ('/' :: r).dropWhile isSchemeChar = '/' :: r := List.dropWhile_cons_of_neg (by decide)
  have ha : afterScheme? ('/' :: r) = none := by
    unfold afterScheme?
    rw [hs]
    rfl
  unfold afterHost
  rw [ha]

/-- **A legal target is read from its text.** -/
theorem read?_text (h : t.isLegal = true) (hs : Utf8.size t.text ≤ maxSize) : read? t.text = some t := by
  have hroot : ∃ r, t.text = '/' :: r := by
    obtain ⟨p, hp⟩ := List.head?_eq_some_iff.1 (isLegal_iff.1 h).1
    unfold text
    rw [hp]
    cases t.query with
    | none => exact ⟨p, rfl⟩
    | some q => exact ⟨p ++ '?' :: q, rfl⟩
  obtain ⟨r, hr⟩ := hroot
  have hhost : ('/' :: r).all isHostChar = false := by
    rw [List.all_cons]
    have : isHostChar '/' = false := by decide
    rw [this, Bool.false_and]
  have hline : ¬ ('/' :: r = [] ∨ maxSize < Utf8.size ('/' :: r)) := by
    rw [← hr]
    rintro (hn | hl)
    · rw [hr] at hn
      cases hn
    · omega
  have hstar : ¬ '/' :: r = ['*'] := fun e => absurd (List.cons.inj e).1 (by decide)
  unfold read?
  rw [dropFragment_text h, hr]
  dsimp only
  rw [if_neg hline, if_neg hstar, if_neg (by rw [hhost]; decide), afterHost_root, ← hr, split_text h, if_pos h]

/-- **What is read is not too long.** -/
theorem size_le_of_read? {cs : List Char} (h : read? cs = some t) : Utf8.size cs ≤ maxSize := by
  unfold read? at h
  dsimp only at h
  split at h
  · cases h
  · rename_i hline
    exact Nat.le_of_not_lt fun hl => hline (.inr hl)

end Target
end Url
end NodeDesk
