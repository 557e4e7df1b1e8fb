import Mathlib.Data.Nat.Digits.Defs
import NodeDesk.Text.Decimal
/-!
# Decimal — numbers come back from their digits

A number that its reader can hold is read from its digits (`read?_digits`), with its sign if it has one
(`readSigned?_signed`), and no reader yields a number that its caller cannot hold (`read?_le`).
-/
namespace NodeDesk
namespace Decimal

/-! ## Digits -/

theorem digits_of_lt {n : Nat} (h : n < 10) : digits n = [n.digitChar] := Nat.toDigits_of_lt_base h

theorem digits_of_le {n : Nat} (h : 10 ≤ n) : digits n = digits (n / 10) ++ [(n % 10).digitChar] :=
  Nat.toDigits_of_base_le (by omega) h

theorem digits_ne_nil (n : Nat) : digits n ≠ [] := by
  by_cases h : n < 10
  · rw [digits_of_lt h]
    exact List.cons_ne_nil _ _
  · rw [digits_of_le (by omega)]
    exact List.append_ne_nil_of_right_ne_nil _ (List.cons_ne_nil _ _)

theorem isDigit_of_mem_digits {n : Nat} {c : Char} (h : c ∈ digits n) : c.isDigit = true :=
  Nat.isDigit_of_mem_toDigits (by omega) (by omega) h

theorem not_mem_digits {c : Char} (h : c.isDigit = false) (n : Nat) : c ∉ digits n := fun hc => by
  rw [isDigit_of_mem_digits hc] at h
  cases h

theorem length_digits_le {n e : Nat} (he : 0 < e) (h : n < 10 ^ e) : (digits n).length ≤ e :=
  Nat.toDigits_length 10 n e he h

theorem digit?_digitChar {d : Nat} (h : d < 10) : digit? d.digitChar = some d := by
  have hall : ∀ d : Fin 10, digit? d.val.digitChar = some d.val := by decide
  exact hall ⟨d, h⟩

/-! ## Reading digits -/

theorem readDigits_append (bound : Nat) (past : Fault) : ∀ (n : Nat) (cs ds : List Char),
    readDigits bound past n (cs ++ ds) = (readDigits bound past n cs).bind fun k => readDigits bound past k ds
  | n, [], ds => rfl
  | n, c :: cs, ds => by
    rw [List.cons_append, readDigits, readDigits]
    cases digit? c with
    | none => rfl
    | some d =>
      dsimp only
      by_cases h : 10 * n + d ≤ bound
      · rw [if_pos h, if_pos h, readDigits_append bound past _ cs ds]
      · rw [if_neg h, if_neg h]
        rfl

/-- **A number that the bound allows is read from its digits.** -/
theorem readDigits_digits {bound n : Nat} (past : Fault) (h : n ≤ bound) :
    readDigits bound past 0 (digits n) = .ok n := by
  induction n using Nat.strongRecOn with
  | ind n ih =>
    by_cases hn : n < 10
    · rw [digits_of_lt hn, readDigits, digit?_digitChar hn]
      dsimp only
      rw [Nat.mul_zero, Nat.zero_add, if_pos h]
      rfl
    · have hq : readDigits bound past 0 (digits (n / 10)) = .ok (n / 10) := ih (n / 10) (by omega) (by omega)
      have hsum : 10 * (n / 10) + n % 10 = n := Nat.div_add_mod n 10
      rw [digits_of_le (by omega), readDigits_append, hq]
      show readDigits bound past (n / 10) [(n % 10).digitChar] = _
      rw [readDigits, digit?_digitChar (Nat.mod_lt n (by omega))]
      dsimp only
      rw [hsum, if_pos h]
      rfl

theorem readDigits_le {bound : Nat} {past : Fault} : ∀ {n k : Nat} {cs : List Char}, n ≤ bound →
    readDigits bound past n cs = .ok k → k ≤ bound
  | n, k, [], hn, h => by
    cases h
    exact hn
  | n, k, c :: cs, hn, h => by
    rw [readDigits] at h
    cases hd : digit? c with
    | none => rw [hd] at h; cases h
    | some d =>
      rw [hd] at h
      dsimp only at h
      by_cases hb : 10 * n + d ≤ bound
      · rw [if_pos hb] at h
        exact readDigits_le hb h
      · rw [if_neg hb] at h
        cases h

theorem read?_of_ne_plus {bound : Nat} {cs : List Char} (hn : cs ≠ []) (hp : cs.head? ≠ some '+') :
    read? bound cs = readDigits bound .tooLarge 0 cs := by
  unfold read?
  split
  · exact absurd rfl hn
  · exact absurd rfl hp
  · exact absurd rfl hp
  · rfl

theorem head?_digits_ne {n : Nat} {c : Char} (h : c.isDigit = false) : (digits n).head? ≠ some c := fun hc =>
  not_mem_digits h n (List.mem_of_mem_head? hc)

/-- **A number is read from its digits.** -/
theorem read?_digits {bound n : Nat} (h : n ≤ bound) : read? bound (digits n) = .ok n := by
  rw [read?_of_ne_plus (digits_ne_nil n) (head?_digits_ne (by decide)), readDigits_digits _ h]

/-- **A number is told by its digits.** -/
theorem digits_inj {n k : Nat} (h : digits n = digits k) : n = k := by
  have hn := read?_digits (Nat.le_max_left n k)
  rw [h, read?_digits (Nat.le_max_right n k)] at hn
  exact (Except.ok.inj hn).symm

theorem text_inj {n k : Nat} : text n = text k ↔ n = k :=
  ⟨fun h => digits_inj (by rw [← toList_text n, h, toList_text]), congrArg text⟩

/-- **No reader yields what its caller cannot hold.** -/
theorem read?_le {bound n : Nat} {cs : List Char} (h : read? bound cs = .ok n) : n ≤ bound := by
  unfold read? at h
  split at h
  · cases h
  · cases h
  · exact readDigits_le (Nat.zero_le _) h
  · exact readDigits_le (Nat.zero_le _) h

theorem isDigit_of_digit? {c : Char} {d : Nat} (h : digit? c = some d) : c.isDigit = true := by
  unfold digit? at h
  split at h
  · rename_i hc
    exact Bool.and_eq_true_iff.2 ⟨decide_eq_true hc.1, decide_eq_true hc.2⟩
  · cases h

/-- **What is read as digits is digits.** -/
theorem isDigit_of_readDigits {bound : Nat} {past : Fault} : ∀ {n k : Nat} {cs : List Char},
    readDigits bound past n cs = .ok k → ∀ c ∈ cs, c.isDigit = true
  | _, _, [], _ => fun _ hc => nomatch hc
  | n, k, x :: cs, h => by
    rw [readDigits] at h
    cases hd : digit? x with
    | none => rw [hd] at h; cases h
    | some d =>
      rw [hd] at h
      dsimp only at h
      by_cases hb : 10 * n + d ≤ bound
      · rw [if_pos hb] at h
        intro c hc
        rcases List.mem_cons.1 hc with rfl | hc
        · exact isDigit_of_digit? hd
        · exact isDigit_of_readDigits h c hc
      · rw [if_neg hb] at h
        cases h

theorem mem_of_read? {bound n : Nat} {cs : List Char} (h : read? bound cs = .ok n) :
    ∀ c ∈ cs, c.isDigit = true ∨ c = '+' := by
  intro c hc
  unfold read? at h
  split at h
  · cases h
  · cases h
  · rcases List.mem_cons.1 hc with rfl | hc
    · exact .inr rfl
    · exact .inl (isDigit_of_readDigits h c hc)
  · exact .inl (isDigit_of_readDigits h c hc)

/-! ## Signs -/

theorem signed_natCast (n : Nat) : signed n = digits n := by
  unfold signed
  rw [if_neg (by omega), Int.natAbs_natCast]

theorem signed_neg {i : Int} (h : i < 0) : signed i = '-' :: digits i.natAbs := by
  unfold signed
  rw [if_pos h]

theorem mem_signed {i : Int} {c : Char} (h : c ∈ signed i) : c.isDigit = true ∨ c = '-' := by
  unfold signed at h
  split at h
  · rcases List.mem_cons.1 h with h | h
    · exact .inr h
    · exact .inl (isDigit_of_mem_digits h)
  · exact .inl (isDigit_of_mem_digits h)

theorem head?_signed {i : Int} : (signed i).head? = some '-' ↔ i < 0 := by
  constructor
  · intro h
    by_contra hi
    obtain ⟨n, rfl⟩ := Int.eq_ofNat_of_zero_le (Int.not_lt.1 hi)
    rw [signed_natCast] at h
    exact head?_digits_ne (by decide) h
  · intro h
    rw [signed_neg h]
    rfl

/-- **A whole number is read from its digits and its sign.** -/
theorem readSigned?_signed {bound : Nat} {i : Int} (hl : -(bound + 1 : Int) ≤ i) (hu : i ≤ bound) :
    readSigned? bound (signed i) = .ok i := by
  by_cases hi : i < 0
  · obtain ⟨c, cs, hc⟩ := List.exists_cons_of_ne_nil (digits_ne_nil i.natAbs)
    have hread := readDigits_digits .tooSmall (show i.natAbs ≤ bound + 1 by omega)
    rw [signed_neg hi]
    rw [hc] at hread ⊢
    simp only [readSigned?]
    rw [hread]
    show Except.ok (-(i.natAbs : Int)) = .ok i
    congr 1
    omega
  · obtain ⟨n, rfl⟩ := Int.eq_ofNat_of_zero_le (Int.not_lt.1 hi)
    have hn : read? bound (digits n) = .ok n := read?_digits (by omega)
    rw [signed_natCast]
    unfold readSigned?
    split
    · rename_i h
      exact absurd h (digits_ne_nil n)
    · rename_i h
      exact absurd (h ▸ List.mem_cons_self) (not_mem_digits (c := '-') (by decide) n)
    · rename_i h
      exact absurd (h ▸ List.mem_cons_self) (not_mem_digits (c := '-') (by decide) n)
    · rw [hn]
      rfl

/-- A whole number is written as is usual: in digits without leading zeros, after a minus sign below zero. -/
theorem signed_eq_toList (i : Int) : signed i = (toString i).toList := by
  cases i with
  | ofNat n =>
    show signed (n : Int) = (String.ofList (Nat.toDigits 10 n)).toList
    rw [signed_natCast, String.toList_ofList]
    rfl
  | negSucc n =>
    show signed (Int.negSucc n) = ("-" ++ String.ofList (Nat.toDigits 10 (n + 1))).toList
    rw [signed_neg (Int.negSucc_lt_zero n), String.toList_append, String.toList_ofList, String.toList_ofList]
    rfl

/-- **What is read as a whole number** holds digits and signs only. -/
theorem mem_of_readSigned? {bound : Nat} {i : Int} {cs : List Char} (h : readSigned? bound cs = .ok i) :
    ∀ c ∈ cs, c.isDigit = true ∨ c = '+' ∨ c = '-' := by
  intro c hc
  unfold readSigned? at h
  split at h
  · cases h
  · cases h
  · rename_i r _
    rcases List.mem_cons.1 hc with rfl | hc
    · exact .inr (.inr rfl)
    · cases hr : readDigits (bound + 1) .tooSmall 0 r with
      | error f => rw [hr] at h; cases h
      | ok n => exact .inl (isDigit_of_readDigits hr c hc)
  · cases hr : read? bound cs with
    | error f => rw [hr] at h; cases h
    | ok n => exact (mem_of_read? hr c hc).imp id .inl

end Decimal
end NodeDesk
