import NodeDesk.Proofs.Text.Utf8
/-!
# Order — texts in the order of their bytes

Texts are compared character by character, which is the order of their bytes as well (`encode_lt_iff`): of two
characters the lesser one has the lesser byte at the first place where their bytes differ, and there is such a place
whatever follows them (`encodeChar_append_lt`).
-/
namespace NodeDesk
namespace Utf8

theorem cons_lt_of_lt {n m : Nat} (h : n < m) (hm : m < 256) (x y : Bytes) :
    UInt8.ofNat n :: x < UInt8.ofNat m :: y := by
  refine List.cons_lt_cons_iff.2 (.inl (UInt8.lt_iff_toNat_lt.2 ?_))
  rw [toNat_byte hm, toNat_byte (by omega)]
  exact h

theorem cons_lt_of_le {n m : Nat} {x y : Bytes} (h : n ≤ m) (hm : m < 256) (hxy : n = m → x < y) :
    UInt8.ofNat n :: x < UInt8.ofNat m :: y := by
  rcases Nat.lt_or_eq_of_le h with hlt | heq
  · exact cons_lt_of_lt hlt hm x y
  · exact List.cons_lt_cons_iff.2 (.inr ⟨congrArg UInt8.ofNat heq, hxy heq⟩)

/-- **The bytes of a lesser character come first**, whatever follows.  A character of fewer bytes has the lesser first
one; of as many, the first digit to differ decides. -/
theorem encodeChar_append_lt {c d : Char} (h : c < d) (x y : Bytes) : encodeChar c ++ x < encodeChar d ++ y := by
  have hn : c.toNat < d.toNat := h
  have hd := toNat_valid d
  unfold encodeChar
  dsimp only
  by_cases c1 : c.toNat < 0x80
  · rw [if_pos c1]
    repeat' split
    all_goals exact cons_lt_of_lt (by omega) (by omega) _ _
  rw [if_neg c1, if_neg (show ¬ d.toNat < 0x80 by omega)]
  by_cases c2 : c.toNat < 0x800
  · rw [if_pos c2]
    by_cases d2 : d.toNat < 0x800
    · rw [if_pos d2]
      refine cons_lt_of_le (by omega) (by omega) fun h1 => ?_
      exact cons_lt_of_lt (by omega) (by omega) _ _
    · rw [if_neg d2]
      split <;> exact cons_lt_of_lt (by omega) (by omega) _ _
  rw [if_neg c2, if_neg (show ¬ d.toNat < 0x800 by omega)]
  by_cases c3 : c.toNat < 0x10000
  · rw [if_pos c3]
    by_cases d3 : d.toNat < 0x10000
    · rw [if_pos d3]
      refine cons_lt_of_le (by omega) (by omega) fun h1 => ?_
      refine cons_lt_of_le (by omega) (by omega) fun h2 => ?_
      exact cons_lt_of_lt (by omega) (by omega) _ _
    · rw [if_neg d3]
      exact cons_lt_of_lt (by omega) (by omega) _ _
  · rw [if_neg c3, if_neg (show ¬ d.toNat < 0x10000 by omega)]
    refine cons_lt_of_le (by omega) (by omega) fun h1 => ?_
    refine cons_lt_of_le (by omega) (by omega) fun h2 => ?_
    refine cons_lt_of_le (by omega) (by omega) fun h3 => ?_
    exact cons_lt_of_lt (by omega) (by omega) _ _

theorem encode_lt {cs ds : List Char} (h : cs < ds) : encode cs < encode ds := by
  induction cs generalizing ds with
  | nil =>
    cases ds with
    | nil => exact absurd h (List.lt_irrefl [])
    | cons d ds =>
      obtain ⟨b, bs, hb, -⟩ := exists_encodeChar_cons d
      rw [encode_nil, encode_cons, hb]
      exact List.nil_lt_cons b _
  | cons c cs ih =>
    cases ds with
    | nil => exact absurd h (List.not_lt_nil _)
    | cons d ds =>
      rw [encode_cons, encode_cons]
      rcases List.cons_lt_cons_iff.1 h with hcd | ⟨rfl, htail⟩
      · exact encodeChar_append_lt hcd _ _
      · exact List.append_left_lt (ih htail)

/-- **The order of texts is the order of their bytes.** -/
theorem encode_lt_iff {cs ds : List Char} : encode cs < encode ds ↔ cs < ds := by
  refine ⟨fun h => ?_, encode_lt⟩
  by_cases hlt : cs < ds
  · exact hlt
  · rcases List.le_iff_lt_or_eq.1 (List.not_lt.1 hlt) with hgt | rfl
    · exact absurd (encode_lt hgt) (List.lt_asymm h)
    · exact absurd h (List.lt_irrefl _)

end Utf8
end NodeDesk
