import Mathlib.Data.List.Nodup
import NodeDesk.Text.Base64
/-!
# Base64 — letters that tell their bytes

Bytes are written in letters that are safe in a URL (`mem_encode`), four for every three of them (`length_encode`), and
no two sequences of bytes are written in the same letters (`encode_inj`).
-/
namespace NodeDesk
namespace Base64

/-! ## Letters -/

theorem letter_spec {n : Nat} (h : n < 64) : (letter n).isAlphanum = true ∨ letter n = '-' ∨ letter n = '_' := by
  have hall : ∀ n : Fin 64, (letter n.val).isAlphanum = true ∨ letter n.val = '-' ∨ letter n.val = '_' := by decide
  exact hall ⟨n, h⟩

theorem letter_inj {m n : Nat} (hm : m < 64) (hn : n < 64) (h : letter m = letter n) : m = n := by
  have hnodup : ((List.range 64).map letter).Nodup := by decide +kernel
  exact List.inj_on_of_nodup_map hnodup (List.mem_range.2 hm) (List.mem_range.2 hn) h

/-! ## Texts -/

/-- **What bytes are written in**: letters, digits, minus signs and underscores. -/
theorem mem_encode {c : Char} : ∀ {bs : Bytes}, c ∈ encode bs → c.isAlphanum = true ∨ c = '-' ∨ c = '_'
  | [], h => nomatch h
  | [a], h => by
    have ha : a.toNat < 256 := a.toNat_lt
    simp only [encode, List.mem_cons, List.not_mem_nil, or_false] at h
    rcases h with rfl | rfl <;> exact letter_spec (by omega)
  | [a, b], h => by
    have ha : a.toNat < 256 := a.toNat_lt
    have hb : b.toNat < 256 := b.toNat_lt
    simp only [encode, List.mem_cons, List.not_mem_nil, or_false] at h
    rcases h with rfl | rfl | rfl <;> exact letter_spec (by omega)
  | a :: b :: x :: r, h => by
    have ha : a.toNat < 256 := a.toNat_lt
    have hb : b.toNat < 256 := b.toNat_lt
    have hx : x.toNat < 256 := x.toNat_lt
    simp only [encode, List.mem_cons] at h
    rcases h with rfl | rfl | rfl | rfl | h
    · exact letter_spec (by omega)
    · exact letter_spec (by omega)
    · exact letter_spec (by omega)
    · exact letter_spec (by omega)
    · exact mem_encode h

theorem encode_ne_nil {bs : Bytes} (h : bs ≠ []) : encode bs ≠ [] := by
  match bs, h with
  | [_], _ => exact List.cons_ne_nil _ _
  | [_, _], _ => exact List.cons_ne_nil _ _
  | _ :: _ :: _ :: _, _ => exact List.cons_ne_nil _ _

/-- **Three bytes make four letters**, and one or two at the end make one letter more than they are. -/
theorem length_encode : ∀ bs : Bytes, (encode bs).length = (4 * bs.length + 2) / 3
  | [] => rfl
  | [_] => by simp [encode]
  | [_, _] => by simp [encode]
  | _ :: _ :: _ :: r => by
    have ih := length_encode r
    simp only [encode, List.length_cons]
    omega

theorem length_eq_of_encode_eq {as bs : Bytes} (h : encode as = encode bs) : as.length = bs.length := by
  have hl := congrArg List.length h
  rw [length_encode, length_encode] at hl
  omega

theorem bits_lt (a : UInt8) : a.toNat / 16 < 16 ∧ a.toNat / 64 < 4 ∧ a.toNat % 64 < 64 := by
  have ha : a.toNat < 256 := a.toNat_lt
  omega

/-- The first byte is told by two letters, of which the second also holds the high bits of the next byte. -/
theorem first_inj {a b : UInt8} {m n : Nat} (hm : m < 16) (hn : n < 16)
    (hfirst : letter (a.toNat / 4) = letter (b.toNat / 4))
    (hsecond : letter (a.toNat % 4 * 16 + m) = letter (b.toNat % 4 * 16 + n)) : a = b ∧ m = n := by
  have ha : a.toNat < 256 := a.toNat_lt
  have hb : b.toNat < 256 := b.toNat_lt
  have hhigh := letter_inj (by omega) (by omega) hfirst
  have hlow := letter_inj (by omega) (by omega) hsecond
  exact ⟨UInt8.toNat_inj.1 (by omega), by omega⟩

/-- The second byte is told by its high bits and a letter, which also holds the high bits of the next byte. -/
theorem second_inj {a b : UInt8} {m n : Nat} (hm : m < 4) (hn : n < 4) (hhigh : a.toNat / 16 = b.toNat / 16)
    (hthird : letter (a.toNat % 16 * 4 + m) = letter (b.toNat % 16 * 4 + n)) : a = b ∧ m = n := by
  have hlow := letter_inj (by omega) (by omega) hthird
  exact ⟨UInt8.toNat_inj.1 (by omega), by omega⟩

/-- **Bytes are told by their letters.** -/
theorem encode_inj {as bs : Bytes} (h : encode as = encode bs) : as = bs := by
  have hl := length_eq_of_encode_eq h
  match as, bs with
  | [], [] => rfl
  | [a], [b] =>
    simp only [encode, List.cons.injEq, and_true] at h
    obtain ⟨rfl, -⟩ := first_inj (m := 0) (n := 0) (by omega) (by omega) h.1 h.2
    rfl
  | [a, a'], [b, b'] =>
    simp only [encode, List.cons.injEq, and_true] at h
    obtain ⟨rfl, hhigh⟩ := first_inj (bits_lt a').1 (bits_lt b').1 h.1 h.2.1
    obtain ⟨rfl, -⟩ := second_inj (m := 0) (n := 0) (by omega) (by omega) hhigh h.2.2
    rfl
  | a :: a' :: a'' :: r, b :: b' :: b'' :: s =>
    simp only [encode, List.cons.injEq] at h
    obtain ⟨rfl, hhigh⟩ := first_inj (bits_lt a').1 (bits_lt b').1 h.1 h.2.1
    obtain ⟨rfl, hhigh⟩ := second_inj (bits_lt a'').2.1 (bits_lt b'').2.1 hhigh h.2.2.1
    have hlow := letter_inj (bits_lt a'').2.2 (bits_lt b'').2.2 h.2.2.2.1
    have hab : a'' = b'' := UInt8.toNat_inj.1 (by omega)
    rw [hab, encode_inj h.2.2.2.2]

end Base64
end NodeDesk
