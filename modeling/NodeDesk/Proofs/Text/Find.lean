import Mathlib.Data.List.Infix
/-!
# Find — taking a text apart at a mark of several characters

A mark is found where it first occurs.  In a text that is put together it may occur across a joint, so what has to be
known of each part is that no occurrence begins in it, whatever stands behind it (`isClear`).  That is kept when parts
are joined (`isClear_append`), and so a text is taken apart just where it was put together (`partsAt_ended`,
`insides_flatMap`).
-/
namespace NodeDesk
namespace Text

variable {α : Type} [DecidableEq α] {mark opening closing : List α}

/-- What stands before the first occurrence of a mark, and behind it. -/
def cutAt? (mark : List α) : List α → Option (List α × List α)
  | [] => none
  | a :: r =>
    if mark.isPrefixOf (a :: r) then some ([], (a :: r).drop mark.length)
    else (cutAt? mark r).map fun p => (a :: p.1, p.2)

/-- The parts between the occurrences of a mark, behind the first elements, which are passed over. -/
def partsFrom (mark : List α) : Nat → List α → List (List α)
  | _, [] => [[]]
  | k + 1, _ :: r => partsFrom mark k r
  | 0, a :: r =>
    if mark.isPrefixOf (a :: r) then [] :: partsFrom mark (mark.length - 1) r
    else match partsFrom mark 0 r with
      | [] => [[a]]
      | p :: ps => (a :: p) :: ps

def partsAt (mark text : List α) : List (List α) := partsFrom mark 0 text

/-- What stands between the first opening mark and the next closing one. -/
def between? (opening closing text : List α) : Option (List α) := do
  let (_, behind) ← cutAt? opening text
  let (inside, _) ← cutAt? closing behind
  return inside

/-- What stands behind each opening mark up to the next closing one. -/
def insides (opening closing text : List α) : List (List α) :=
  (partsAt opening text).tail.filterMap fun p => (cutAt? closing p).map Prod.fst

/-! ## Texts in which no mark begins -/

/-- Whether no occurrence of a mark begins in a text, whatever stands behind it. -/
def isClear (mark : List α) : List α → Bool
  | [] => true
  | a :: r => !(mark.isPrefixOf (a :: r) || (a :: r).isPrefixOf mark) && isClear mark r

theorem isClear_cons {a : α} {r : List α} :
    isClear mark (a :: r) = true ↔ (¬ mark <+: a :: r ∧ ¬ a :: r <+: mark) ∧ isClear mark r = true := by
  simp [isClear, ← List.isPrefixOf_iff_prefix]

omit [DecidableEq α] in
theorem not_prefix_append {text : List α} (h : ¬ mark <+: text ∧ ¬ text <+: mark) (behind : List α) :
    ¬ mark <+: text ++ behind := fun hp =>
  (List.prefix_or_prefix_of_prefix hp (List.prefix_append text behind)).elim h.1 h.2

/-- **Where no mark begins in two texts, none begins in both together.** -/
theorem isClear_append {s t : List α} (hs : isClear mark s = true) (ht : isClear mark t = true) :
    isClear mark (s ++ t) = true := by
  induction s with
  | nil => exact ht
  | cons a r ih =>
    obtain ⟨hhere, hrest⟩ := isClear_cons.1 hs
    refine isClear_cons.2 ⟨⟨not_prefix_append hhere t, fun hp => hhere.2 ?_⟩, ih hrest⟩
    exact (List.prefix_append (a :: r) t).trans hp

theorem isClear_flatMap {β : Type} {f : β → List α} (bs : List β) (h : ∀ b ∈ bs, isClear mark (f b) = true) :
    isClear mark (bs.flatMap f) = true := by
  induction bs with
  | nil => rfl
  | cons b bs ih =>
    rw [List.flatMap_cons]
    exact isClear_append (h b List.mem_cons_self) (ih fun c hc => h c (List.mem_cons_of_mem b hc))

/-- A mark begins nowhere where its first element is not. -/
theorem isClear_of_not_mem {m : α} {s : List α} (hm : mark.head? = some m) (h : m ∉ s) : isClear mark s = true := by
  obtain ⟨ms, rfl⟩ := List.head?_eq_some_iff.1 hm
  induction s with
  | nil => rfl
  | cons a r ih =>
    have ha : a ≠ m := fun e => h (e ▸ List.mem_cons_self)
    refine isClear_cons.2 ⟨⟨fun hp => ha ?_, fun hp => ha ?_⟩, ih fun hm => h (List.mem_cons_of_mem a hm)⟩
    · exact (List.cons_prefix_cons.1 hp).1.symm
    · exact (List.cons_prefix_cons.1 hp).1

/-! ## Taking apart -/

section

variable (hm : mark ≠ [])
include hm

omit [DecidableEq α] in
theorem exists_append_of_ne_nil (rest : List α) : ∃ a r, mark ++ rest = a :: r ∧ r = mark.tail ++ rest := by
  obtain ⟨a, r, rfl⟩ := List.exists_cons_of_ne_nil hm
  exact ⟨a, r ++ rest, rfl, rfl⟩

/-- **A text is cut at a mark** behind a part in which none begins. -/
theorem cutAt?_append {pre : List α} (h : isClear mark pre = true) (rest : List α) :
    cutAt? mark (pre ++ (mark ++ rest)) = some (pre, rest) := by
  induction pre with
  | nil =>
    obtain ⟨a, r, he, -⟩ := exists_append_of_ne_nil hm rest
    have hp : mark.isPrefixOf (a :: r) = true := List.isPrefixOf_iff_prefix.2 (he ▸ List.prefix_append mark rest)
    rw [List.nil_append, he, cutAt?, if_pos hp, ← he, List.drop_left]
  | cons a pre ih =>
    obtain ⟨hhere, hrest⟩ := isClear_cons.1 h
    have hp : ¬ mark.isPrefixOf (a :: (pre ++ (mark ++ rest))) = true := fun hp =>
      not_prefix_append hhere _ (List.isPrefixOf_iff_prefix.1 hp)
    rw [List.cons_append, cutAt?, if_neg hp, ih hrest]
    rfl

omit hm in
theorem partsFrom_length (s rest : List α) : partsFrom mark s.length (s ++ rest) = partsFrom mark 0 rest := by
  induction s with
  | nil => rfl
  | cons a s ih => rw [List.length_cons, List.cons_append, partsFrom, ih]

theorem partsAt_append {pre : List α} (h : isClear mark pre = true) (rest : List α) :
    partsAt mark (pre ++ (mark ++ rest)) = pre :: partsAt mark rest := by
  unfold partsAt
  induction pre with
  | nil =>
    obtain ⟨a, r, he, hr⟩ := exists_append_of_ne_nil hm rest
    have hp : mark.isPrefixOf (a :: r) = true := List.isPrefixOf_iff_prefix.2 (he ▸ List.prefix_append mark rest)
    rw [List.nil_append, he, partsFrom, if_pos hp, hr, ← List.length_tail, partsFrom_length]
  | cons a pre ih =>
    obtain ⟨hhere, hrest⟩ := isClear_cons.1 h
    have hp : ¬ mark.isPrefixOf (a :: (pre ++ (mark ++ rest))) = true := fun hp =>
      not_prefix_append hhere _ (List.isPrefixOf_iff_prefix.1 hp)
    rw [List.cons_append, partsFrom, if_neg hp, ih hrest]

omit hm in
theorem partsAt_of_isClear {s : List α} (h : isClear mark s = true) : partsAt mark s = [s] := by
  unfold partsAt
  induction s with
  | nil => rfl
  | cons a s ih =>
    obtain ⟨hhere, hrest⟩ := isClear_cons.1 h
    rw [partsFrom, if_neg (mt List.isPrefixOf_iff_prefix.1 hhere.1), ih hrest]

/-- **Parts that each end with a mark**, and what stands before each of them and behind the last. -/
theorem partsAt_ended {lead : List α} (hlead : isClear mark lead = true) (bodies : List (List α))
    (h : ∀ b ∈ bodies, isClear mark b = true) :
    partsAt mark (lead ++ bodies.flatMap fun b => b ++ (mark ++ lead)) = bodies.map (lead ++ ·) ++ [lead] := by
  induction bodies with
  | nil =>
    rw [List.flatMap_nil, List.append_nil]
    exact partsAt_of_isClear hlead
  | cons b bodies ih =>
    have hfirst : lead ++ (b ++ (mark ++ lead) ++ bodies.flatMap fun b => b ++ (mark ++ lead)) =
        (lead ++ b) ++ (mark ++ (lead ++ bodies.flatMap fun b => b ++ (mark ++ lead))) := by
      simp only [List.append_assoc]
    rw [List.flatMap_cons, hfirst, partsAt_append hm (isClear_append hlead (h b List.mem_cons_self)),
      ih fun c hc => h c (List.mem_cons_of_mem b hc)]
    rfl

/-- Parts that each begin with a mark, and what stands before the first. -/
theorem partsAt_begun {lead : List α} (hlead : isClear mark lead = true) (bodies : List (List α))
    (h : ∀ b ∈ bodies, isClear mark b = true) :
    partsAt mark (lead ++ bodies.flatMap (mark ++ ·)) = lead :: bodies := by
  induction bodies generalizing lead with
  | nil =>
    rw [List.flatMap_nil, List.append_nil]
    exact partsAt_of_isClear hlead
  | cons b bodies ih =>
    rw [List.flatMap_cons, List.append_assoc, partsAt_append hm hlead,
      ih (h b List.mem_cons_self) fun c hc => h c (List.mem_cons_of_mem b hc)]

end

theorem between?_append (ho : opening ≠ []) (hc : closing ≠ []) {pre inside : List α}
    (hpre : isClear opening pre = true) (hinside : isClear closing inside = true) (post : List α) :
    between? opening closing (pre ++ (opening ++ (inside ++ (closing ++ post)))) = some inside := by
  unfold between?
  rw [cutAt?_append ho hpre]
  show (cutAt? closing (inside ++ (closing ++ post))).bind _ = _
  rw [cutAt?_append hc hinside]
  rfl

/-- **What was put between pairs of marks is found there.** -/
theorem insides_flatMap (ho : opening ≠ []) (hc : closing ≠ []) {lead : List α} (hlead : isClear opening lead = true)
    (hclosing : isClear opening closing = true) (contents : List (List α))
    (h : ∀ s ∈ contents, isClear opening s = true ∧ isClear closing s = true) :
    insides opening closing (lead ++ contents.flatMap fun s => opening ++ (s ++ closing)) = contents := by
  have hbodies : (contents.flatMap fun s => opening ++ (s ++ closing)) =
      (contents.map (· ++ closing)).flatMap (opening ++ ·) := by rw [List.flatMap_map]
  have hclear : ∀ b ∈ contents.map (· ++ closing), isClear opening b = true := fun b hb => by
    obtain ⟨s, hs, rfl⟩ := List.mem_map.1 hb
    exact isClear_append (h s hs).1 hclosing
  have hcut : ∀ s ∈ contents, (cutAt? closing (s ++ closing)).map Prod.fst = some s := fun s hs => by
    have hs' := cutAt?_append hc (h s hs).2 []
    rw [List.append_nil] at hs'
    rw [hs']
    rfl
  unfold insides
  rw [hbodies, partsAt_begun ho hlead _ hclear, List.tail_cons, List.filterMap_map]
  exact (List.filterMap_congr hcut).trans List.filterMap_some

end Text
end NodeDesk
