import NodeDesk.Proofs.Url.Resolver
/-!
# Dots — what a browser makes of the address of an id

A browser takes the segments `.` and `..` out of a path before it asks for it (RFC 3986, section 5.2.4: `removeDots`).
On a path that starts at the root this is one walk over its segments (`removeDots_join`), which keeps every segment
that is none of these two.  The points of an id are not encoded, so the address of every other id is asked for as it
stands, and those of `.` and `..` are asked for at the prefix and above it (`removeDots_urls`).
-/
namespace NodeDesk
namespace Url
namespace Dots

/-- The segment that stays. -/
def here : List Char := ['.']

/-- The segment that goes back. -/
def up : List Char := ['.', '.']

/-- A text without its last segment and the slash before that, if there is one. -/
def back (out : List Char) : List Char := ((out.reverse.dropWhile (· != '/')).drop 1).reverse

/-- A rest that begins at a slash, which is there even if the text ends. -/
def atSlash (rest : List Char) : List Char := if rest = [] then ['/'] else rest

/-- One round, by what the text begins with: what has been put out so far, and the text that is left.  The rules are
those of the section, from A to E. -/
def step (out : List Char) : List Char → List Char × List Char
  | '/' :: r =>
    let s := r.takeWhile (· != '/')
    let rest := r.dropWhile (· != '/')
    -- B and C: `/./` and `/../`, or the same at the end of the text
    if s = here then (out, atSlash rest)
    else if s = up then (back out, atSlash rest)
    -- E
    else (out ++ '/' :: s, rest)
  | cs =>
    let s := cs.takeWhile (· != '/')
    let rest := cs.dropWhile (· != '/')
    -- A and D: `./` and `../` at the beginning, or nothing but these points
    if s = here ∨ s = up then (out, rest.drop 1)
    -- E
    else (out ++ s, rest)

theorem length_atSlash_lt {r s : List Char} (hs : s ≠ []) (h : r.takeWhile (· != '/') = s) :
    (atSlash (r.dropWhile (· != '/'))).length < r.length + 1 := by
  have hr : r = s ++ r.dropWhile (· != '/') := by rw [← h, List.takeWhile_append_dropWhile]
  have hl := congrArg List.length hr
  have hpos := List.length_pos_iff.2 hs
  rw [List.length_append] at hl
  unfold atSlash
  split
  · simp only [List.length_singleton]
    omega
  · omega

theorem length_step_lt (out : List Char) {cs : List Char} (h : cs ≠ []) : (step out cs).2.length < cs.length := by
  unfold step
  split
  · rename_i r
    dsimp only
    split
    · rename_i hs
      exact length_atSlash_lt (by decide) hs
    split
    · rename_i hs
      exact length_atSlash_lt (by decide) hs
    · exact Nat.lt_succ_of_le (List.length_dropWhile_le _ r)
  · rename_i cs' hne
    obtain ⟨c, r, rfl⟩ := List.exists_cons_of_ne_nil h
    have hc : c ≠ '/' := fun hc => hne r (hc ▸ rfl)
    have hl := List.length_dropWhile_le (· != '/') r
    dsimp only
    rw [List.dropWhile_cons_of_pos (by simpa using hc)]
    split
    · simp only [List.length_drop, List.length_cons]
      omega
    · simp only [List.length_cons]
      omega

/-- Takes the segments of points out of a text, behind what has been put out so far. -/
def remove (out cs : List Char) : List Char :=
  if h : cs = [] then out
  else
    have := length_step_lt out h
    remove (step out cs).1 (step out cs).2
termination_by cs.length

/-- **A path as a browser asks for it.** -/
def removeDots (cs : List Char) : List Char := remove [] cs

theorem remove_nil (out : List Char) : remove out [] = out := by
  rw [remove]
  exact dif_pos rfl

theorem remove_of_step {out cs out' rest : List Char} (hne : cs ≠ []) (h : step out cs = (out', rest)) :
    remove out cs = remove out' rest := by
  rw [remove, dif_neg hne]
  simp only [h]

/-! ## Paths as segments -/

/-- A path with its segments, each behind a slash. -/
def join (ss : List (List Char)) : List Char := ss.flatMap ('/' :: ·)

/-- **A walk over segments**: a point stays, two points go back, and every other segment goes on. -/
def walk : List (List Char) → List (List Char) → List (List Char)
  | out, [] => out
  | out, s :: ss =>
    if s = here then (if ss = [] then out ++ [[]] else walk out ss)
    else if s = up then (if ss = [] then out.dropLast ++ [[]] else walk out.dropLast ss)
    else walk (out ++ [s]) ss

variable {out ss bs : List (List Char)} {s : List Char}

theorem join_append : join (out ++ ss) = join out ++ join ss := List.flatMap_append

theorem join_cons : join (s :: ss) = '/' :: (s ++ join ss) := rfl

theorem back_join (h : ∀ s ∈ out, '/' ∉ s) : back (join out) = join out.dropLast := by
  rcases List.eq_nil_or_concat out with rfl | ⟨before, s, rfl⟩
  · rfl
  · have hs : ∀ c ∈ s.reverse, (c != '/') = true := fun c hc => by
      have hmem : '/' ∉ s := h s (by simp)
      simp only [bne_iff_ne, ne_eq]
      rintro rfl
      exact hmem (List.mem_reverse.1 hc)
    rw [List.concat_eq_append, List.dropLast_concat, join_append, back]
    simp only [join, List.flatMap_cons, List.flatMap_nil, List.append_nil, List.reverse_append, List.reverse_cons,
      List.append_assoc]
    rw [List.dropWhile_append_of_pos hs]
    simp

/-- A segment ends where the next one begins. -/
theorem span_join (h : '/' ∉ s) :
    (s ++ join ss).takeWhile (· != '/') = s ∧ (s ++ join ss).dropWhile (· != '/') = join ss := by
  have hs : ∀ c ∈ s, (c != '/') = true := fun c hc => by
    simp only [bne_iff_ne, ne_eq]
    rintro rfl
    exact h hc
  rw [List.takeWhile_append_of_pos hs, List.dropWhile_append_of_pos hs]
  cases ss with
  | nil => simp [join]
  | cons t ss => simp [join_cons]

theorem join_eq_nil_iff : join ss = [] ↔ ss = [] := by
  cases ss <;> simp [join]

/-- **One round takes one segment.** -/
theorem step_join (h : '/' ∉ s) (o : List Char) :
    step o (join (s :: ss)) =
      if s = here then (o, atSlash (join ss)) else if s = up then (back o, atSlash (join ss))
      else (o ++ '/' :: s, join ss) := by
  obtain ⟨htake, hdrop⟩ := @span_join ss s h
  rw [join_cons, step]
  simp only [htake, hdrop]

theorem remove_atSlash (o : List Char) : remove o (atSlash []) = o ++ ['/'] := by
  have h : step o ['/'] = (o ++ ['/'], []) := rfl
  exact (remove_of_step (by decide) h).trans (remove_nil _)

/-- The induction is on the segments that are left. -/
theorem remove_join (hss : ∀ s ∈ ss, '/' ∉ s) (hout : ∀ s ∈ out, '/' ∉ s) :
    remove (join out) (join ss) = join (walk out ss) := by
  have hlast : ∀ o : List (List Char), remove (join o) (atSlash []) = join (o ++ [[]]) := fun o => by
    rw [remove_atSlash, join_append]
    rfl
  induction ss generalizing out with
  | nil => exact remove_nil _
  | cons s ss ih =>
    have hs := hss s List.mem_cons_self
    have hmore := fun t ht => hss t (List.mem_cons_of_mem s ht)
    have hdrop : ∀ t ∈ out.dropLast, '/' ∉ t := fun t ht => hout t (List.dropLast_subset out ht)
    have hstep := @step_join ss s hs (join out)
    have hne : join (s :: ss) ≠ [] := List.cons_ne_nil _ _
    rw [walk]
    by_cases hhere : s = here
    · rw [if_pos hhere] at hstep ⊢
      rw [remove_of_step hne hstep]
      by_cases hss : ss = []
      · rw [if_pos hss, hss]
        exact hlast out
      · rw [if_neg hss, atSlash, if_neg (mt join_eq_nil_iff.1 hss)]
        exact ih hmore hout
    rw [if_neg hhere] at hstep ⊢
    by_cases hup : s = up
    · rw [if_pos hup, back_join hout] at hstep
      rw [if_pos hup, remove_of_step hne hstep]
      by_cases hss : ss = []
      · rw [if_pos hss, hss]
        exact hlast out.dropLast
      · rw [if_neg hss, atSlash, if_neg (mt join_eq_nil_iff.1 hss)]
        exact ih hmore hdrop
    · rw [if_neg hup] at hstep ⊢
      have hone : join out ++ '/' :: s = join (out ++ [s]) := by simp [join]
      rw [remove_of_step hne hstep, hone]
      refine ih hmore fun t ht => ?_
      rcases List.mem_append.1 ht with ht | ht
      · exact hout t ht
      · rw [List.mem_singleton.1 ht]
        exact hs

/-- **A path loses its points segment by segment.** -/
theorem removeDots_join (h : ∀ s ∈ ss, '/' ∉ s) : removeDots (join ss) = join (walk [] ss) :=
  remove_join h fun _ hs => absurd hs List.not_mem_nil

/-- What the section itself shows. -/
example : removeDots "/a/b/c/./../../g".toList = "/a/g".toList :=
  @removeDots_join ["a".toList, "b".toList, "c".toList, here, up, up, "g".toList] (by decide)

end Dots

/-! ## Addresses of ids -/

namespace Resolver

open Dots (here up join walk removeDots removeDots_join)

/-- An id is encoded as points only if it is these points. -/
theorem toList_encode_eq_iff {id s : String} (h : Percent.encode s = s) :
    (Percent.encode id).toList = s.toList ↔ id = s := by
  rw [String.toList_inj]
  constructor
  · intro he
    exact Percent.encode_inj (he.trans h.symm)
  · rintro rfl
    exact h

/-- **An address below two segments as it is asked for.** -/
theorem removeDots_prefixed {a b : List Char} (ha : '/' ∉ a ∧ a ≠ here ∧ a ≠ up) (hb : '/' ∉ b ∧ b ≠ here ∧ b ≠ up)
    (id : String) :
    removeDots (prefixed (join [a, b, []]) id) =
      if id = "." then join [a, b, []] else if id = ".." then join [a, []]
      else prefixed (join [a, b, []]) id := by
  have hpath : prefixed (join [a, b, []]) id = join [a, b, (Percent.encode id).toList, []] := by
    simp [prefixed, join]
  have hslash : ∀ s ∈ [a, b, (Percent.encode id).toList, []], '/' ∉ s := by
    simp [ha.1, hb.1, slash_not_mem_encode]
  have hhere : (Percent.encode id).toList = here ↔ id = "." := toList_encode_eq_iff (s := ".") (by decide)
  have hup : (Percent.encode id).toList = up ↔ id = ".." := toList_encode_eq_iff (s := "..") (by decide)
  rw [hpath, removeDots_join hslash]
  simp only [walk, ha.2.1, ha.2.2, hb.2.1, hb.2.2, hhere, hup, if_false]
  split
  · rfl
  split
  · rfl
  · rfl

/-- **Where the links of an id lead.**  With the usual prefixes the addresses of a node and of a user are the prefix, one
segment that is not empty and stands for the id, and a slash.  A browser asks for them as they stand, unless the id is
a point, which leads to the prefix, or two points, which lead above it. -/
theorem removeDots_urls {id : String} (h : id ≠ "") :
    let r : Resolver := {}
    (∃ s : List Char, (r.nodeUrl id).toList = "/admin/nodes/".toList ++ s ++ ['/'] ∧
      (r.userUrl id).toList = "/admin/users/".toList ++ s ++ ['/'] ∧ s ≠ [] ∧
      (∀ c ∈ s, c = '%' ∨ isUnreserved c = true) ∧ '/' ∉ s ∧ Percent.decodeText? s = some id.toList) ∧
    removeDots (r.nodeUrl id).toList =
      (if id = "." then "/admin/nodes/" else if id = ".." then "/admin/" else r.nodeUrl id).toList ∧
    removeDots (r.userUrl id).toList =
      (if id = "." then "/admin/users/" else if id = ".." then "/admin/" else r.userUrl id).toList := by
  intro r
  have hne : (Percent.encode id).toList ≠ [] := fun he =>
    h ((toList_encode_eq_iff (s := "") (by decide)).1 he)
  refine ⟨⟨(Percent.encode id).toList, r.toList_nodeUrl id, r.toList_userUrl id, hne, fun c => Percent.mem_encode,
    slash_not_mem_encode id, Percent.decodeText?_encode id⟩, ?_, ?_⟩
  · have hbase : r.nodeBase.toList = join ["admin".toList, "nodes".toList, []] := by decide
    have habove : "/admin/".toList = join ["admin".toList, []] := by decide
    rw [apply_ite String.toList, apply_ite String.toList, toList_nodeUrl, habove, hbase]
    exact removeDots_prefixed (by decide) (by decide) id
  · have hbase : r.userBase.toList = join ["admin".toList, "users".toList, []] := by decide
    have habove : "/admin/".toList = join ["admin".toList, []] := by decide
    rw [apply_ite String.toList, apply_ite String.toList, toList_userUrl, habove, hbase]
    exact removeDots_prefixed (by decide) (by decide) id

/-- An id of more than points, with a slash and a percent sign in it. -/
theorem removeDots_urls_of_odd_id :
    let r : Resolver := {}
    "../%2E" ≠ "" ∧ (r.nodeUrl "../%2E") = "/admin/nodes/..%2F%252E/" ∧
      removeDots (r.nodeUrl "../%2E").toList = (r.nodeUrl "../%2E").toList ∧
      removeDots (r.userUrl "../%2E").toList = (r.userUrl "../%2E").toList := by
  intro r
  obtain ⟨-, hnode, husers⟩ := @removeDots_urls "../%2E" (by decide)
  exact ⟨by decide, by decide, hnode, husers⟩

/-- **Two points leave the segment**: the links of this id lead above the prefix. -/
theorem removeDots_two_points :
    let r : Resolver := {}
    ".." ≠ "" ∧ (r.nodeUrl "..") = "/admin/nodes/../" ∧ removeDots (r.nodeUrl "..").toList = "/admin/".toList ∧
      removeDots (r.nodeUrl "..").toList ≠ (r.nodeUrl "..").toList ∧
      removeDots (r.userUrl "..").toList ≠ (r.userUrl "..").toList := by
  intro r
  have hnode : removeDots (r.nodeUrl "..").toList = "/admin/".toList := by
    have hurl : (r.nodeUrl "..").toList = join ["admin".toList, "nodes".toList, up, []] := by decide
    rw [hurl, removeDots_join (by decide)]
    decide
  have huser : removeDots (r.userUrl "..").toList = "/admin/".toList := by
    have hurl : (r.userUrl "..").toList = join ["admin".toList, "users".toList, up, []] := by decide
    rw [hurl, removeDots_join (by decide)]
    decide
  refine ⟨by decide, by decide, hnode, ?_, ?_⟩
  · rw [hnode]
    decide
  · rw [huser]
    decide

end Resolver
end Url
end NodeDesk
