import NodeDesk.Text.Utf8
/-!
# Utf8 — text comes back from its bytes

The reader yields each character from its bytes, whatever follows (`units_encodeChar`).  So both readers give back
what was written.
-/
namespace NodeDesk
namespace Utf8

theorem toNat_byte {n : Nat} (h : n < 256) : (UInt8.ofNat n).toNat = n := UInt8.toNat_ofNat_of_lt' h

/-- A character's number is that of no surrogate and not past the last. -/
theorem toNat_valid (c : Char) : c.toNat < 0xD800 ∨ 0xDFFF < c.toNat ∧ c.toNat < 0x110000 := c.valid

/-! ## The first byte of a character -/

theorem lead_one {b : UInt8} (h : b.toNat < 0x80) : lead b = ([some (Char.ofNat b.toNat)], .idle) := by
  unfold lead
  rw [if_pos h]

theorem lead_two {b : UInt8} {x : Nat} (hb : b.toNat = 0xC0 + x) (h : 2 ≤ x) (h' : x < 32) :
    lead b = ([], .within x 1 0x80 0xBF) := by
  unfold lead
  simp only [hb]
  rw [if_neg (by omega), if_neg (by omega), if_pos (by omega), Nat.add_sub_cancel_left]

/-- The second of three bytes is bounded below after the least first byte, and above before the surrogates. -/
theorem lead_three {b : UInt8} {x : Nat} (hb : b.toNat = 0xE0 + x) (h : x < 16) :
    lead b = ([], .within x 2 (if x = 0 then 0xA0 else 0x80) (if x = 13 then 0x9F else 0xBF)) := by
  unfold lead
  simp only [hb]
  rw [if_neg (by omega), if_neg (by omega), if_neg (by omega)]
  by_cases h0 : x = 0
  · subst h0; rfl
  rw [if_neg (by omega), if_neg h0]
  by_cases hd : x = 13
  · subst hd; rfl
  rw [if_neg (by omega), if_pos (by omega), if_neg hd, Nat.add_sub_cancel_left]

/-- The second of four bytes is bounded below after the least first byte, and above after the greatest. -/
theorem lead_four {b : UInt8} {x : Nat} (hb : b.toNat = 0xF0 + x) (h : x ≤ 4) :
    lead b = ([], .within x 3 (if x = 0 then 0x90 else 0x80) (if x = 4 then 0x8F else 0xBF)) := by
  unfold lead
  simp only [hb]
  rw [if_neg (by omega), if_neg (by omega), if_neg (by omega), if_neg (by omega), if_neg (by omega),
    if_neg (by omega)]
  by_cases h0 : x = 0
  · subst h0; rfl
  rw [if_neg (by omega), if_neg h0]
  by_cases h4 : x = 4
  · subst h4; rfl
  rw [if_pos (by omega), if_neg h4, Nat.add_sub_cancel_left]

/-! ## The reader -/

theorem units_cons_idle {b : UInt8} {ts : List (Option Char)} {s : State} {bs : Bytes} (h : lead b = (ts, s)) :
    units .idle (b :: bs) = ts ++ units s bs := by
  rw [units, h]

theorem units_cons_more {code more low high x : Nat} {bs : Bytes} (hm : 1 < more) (hx : x < 64)
    (hl : low ≤ 0x80 + x) (hh : 0x80 + x ≤ high) :
    units (.within code more low high) (UInt8.ofNat (0x80 + x) :: bs) =
      units (.within (code * 64 + x) (more - 1) 0x80 0xBF) bs := by
  have hb : (UInt8.ofNat (0x80 + x)).toNat = 0x80 + x := toNat_byte (by omega)
  rw [units, if_pos (by rw [hb]; exact ⟨hl, hh⟩), hb, Nat.add_sub_cancel_left]
  exact if_neg (by omega)

theorem units_cons_last {code low high x : Nat} {bs : Bytes} (hx : x < 64) (hl : low ≤ 0x80 + x)
    (hh : 0x80 + x ≤ high) :
    units (.within code 1 low high) (UInt8.ofNat (0x80 + x) :: bs) =
      some (Char.ofNat (code * 64 + x)) :: units .idle bs := by
  have hb : (UInt8.ofNat (0x80 + x)).toNat = 0x80 + x := toNat_byte (by omega)
  rw [units, if_pos (by rw [hb]; exact ⟨hl, hh⟩), hb, Nat.add_sub_cancel_left]
  exact if_pos (Nat.le_refl 1)

/-- **A character is read from its bytes**, whatever follows them. -/
theorem units_encodeChar (c : Char) (bs : Bytes) :
    units .idle (encodeChar c ++ bs) = some c :: units .idle bs := by
  have hv := toNat_valid c
  have hc : Char.ofNat c.toNat = c := Char.ofNat_toNat c
  unfold encodeChar
  dsimp only
  by_cases h1 : c.toNat < 0x80
  · have hb : (UInt8.ofNat c.toNat).toNat = c.toNat := toNat_byte (by omega)
    rw [if_pos h1, List.singleton_append, units_cons_idle (lead_one (by omega)), hb, hc]
    rfl
  rw [if_neg h1]
  by_cases h2 : c.toNat < 0x800
  · rw [if_pos h2, List.cons_append, List.singleton_append,
      units_cons_idle (lead_two (x := c.toNat / 64) (toNat_byte (by omega)) (by omega) (by omega)), List.nil_append,
      units_cons_last (by omega) (by omega) (by omega)]
    have hn : c.toNat / 64 * 64 + c.toNat % 64 = c.toNat := by omega
    rw [hn, hc]
  rw [if_neg h2]
  by_cases h3 : c.toNat < 0x10000
  · rw [if_pos h3, List.cons_append, List.cons_append, List.singleton_append,
      units_cons_idle (lead_three (x := c.toNat / 4096) (toNat_byte (by omega)) (by omega)), List.nil_append,
      units_cons_more (by omega) (by omega) (by split <;> omega) (by split <;> omega),
      units_cons_last (by omega) (by omega) (by omega)]
    have hn : (c.toNat / 4096 * 64 + c.toNat / 64 % 64) * 64 + c.toNat % 64 = c.toNat := by omega
    rw [hn, hc]
  · rw [if_neg h3, List.cons_append, List.cons_append, List.cons_append, List.singleton_append,
      units_cons_idle (lead_four (x := c.toNat / 262144) (toNat_byte (by omega)) (by omega)), List.nil_append,
      units_cons_more (by omega) (by omega) (by split <;> omega) (by split <;> omega),
      units_cons_more (by omega) (by omega) (by omega) (by omega),
      units_cons_last (by omega) (by omega) (by omega)]
    have hn : ((c.toNat / 262144 * 64 + c.toNat / 4096 % 64) * 64 + c.toNat / 64 % 64) * 64 + c.toNat % 64 =
        c.toNat := by omega
    rw [hn, hc]

theorem units_encode : ∀ cs : List Char, units .idle (encode cs) = cs.map some
  | [] => rfl
  | c :: cs => by rw [encode_cons, units_encodeChar, units_encode cs, List.map_cons]

/-- **The lossy reader loses nothing of a text.** -/
theorem decodeLossy_encode (cs : List Char) : decodeLossy (encode cs) = cs := by
  unfold decodeLossy
  rw [units_encode, List.map_map]
  exact List.map_id' cs

/-- **The strict reader accepts the bytes of a text.** -/
theorem decode?_encode (cs : List Char) : decode? (encode cs) = some cs := by
  unfold decode?
  rw [units_encode]
  induction cs with
  | nil => rfl
  | cons c cs ih => simp [List.mapM_cons, ih]

/-- **A text is told by its bytes.** -/
theorem encode_inj {cs ds : List Char} (h : encode cs = encode ds) : cs = ds := by
  rw [← decodeLossy_encode cs, h, decodeLossy_encode]

theorem units_encode_append (cs : List Char) (bs : Bytes) :
    units .idle (encode cs ++ bs) = cs.map some ++ units .idle bs := by
  induction cs with
  | nil => rfl
  | cons c cs ih => rw [encode_cons, List.append_assoc, units_encodeChar, ih, List.map_cons, List.cons_append]

/-- **No text goes on behind another one with a byte that only continues a character.** -/
theorem encode_append_ne {cs ds : List Char} {b : UInt8} (hb : 0x80 ≤ b.toNat ∧ b.toNat < 0xC0) (r : Bytes) :
    encode cs ++ b :: r ≠ encode ds := by
  intro h
  have hlead : lead b = ([none], .idle) := by
    unfold lead
    dsimp only
    rw [if_neg (by omega), if_pos (by omega)]
  have hunits := units_encode_append cs (b :: r)
  rw [h, units_encode, units, hlead] at hunits
  have hnone : none ∈ ds.map some := by
    rw [hunits]
    simp
  simp at hnone

/-! ## Characters of one byte -/

theorem encodeChar_of_lt {c : Char} (h : c.toNat < 0x80) : encodeChar c = [UInt8.ofNat c.toNat] := by
  unfold encodeChar
  exact if_pos h

theorem encode_of_lt {cs : List Char} (h : ∀ c ∈ cs, c.toNat < 0x80) :
    encode cs = cs.map fun c => UInt8.ofNat c.toNat := by
  induction cs with
  | nil => rfl
  | cons c cs ih =>
    rw [encode_cons, encodeChar_of_lt (h c List.mem_cons_self), ih fun x hx => h x (List.mem_cons_of_mem c hx)]
    rfl

/-- Bytes before a text that make such characters with it are a text themselves. -/
theorem exists_encode_prefix {cs ds : List Char} {bs : Bytes} (h : ∀ c ∈ cs, c.toNat < 0x80)
    (hb : encode cs = bs ++ encode ds) : ∃ es, cs = es ++ ds ∧ bs = encode es := by
  have hlength : bs.length ≤ cs.length := by
    have hl := congrArg List.length hb
    rw [encode_of_lt h, List.length_map, List.length_append] at hl
    omega
  have htake : (encode (cs.take bs.length)).length = bs.length := by
    rw [encode_of_lt fun c hc => h c (List.mem_of_mem_take hc), List.length_map, List.length_take]
    omega
  rw [← List.take_append_drop bs.length cs, encode_append] at hb
  obtain ⟨hes, hds⟩ := List.append_inj hb htake
  exact ⟨cs.take bs.length, by rw [← encode_inj hds, List.take_append_drop], hes.symm⟩

theorem mem_encode_of_lt {cs : List Char} {b : UInt8} (h : ∀ c ∈ cs, c.toNat < 0x80) (hb : b ∈ encode cs) :
    ∃ c ∈ cs, b.toNat = c.toNat := by
  rw [encode_of_lt h] at hb
  obtain ⟨c, hc, rfl⟩ := List.mem_map.1 hb
  have hlt := h c hc
  exact ⟨c, hc, toNat_byte (by omega)⟩

/-- A byte below 128 is a character by itself, in whatever text it stands. -/
theorem mem_encodeChar_of_lt {c : Char} {b : UInt8} (hb : b.toNat < 0x80) (h : b ∈ encodeChar c) :
    c.toNat = b.toNat := by
  have hv := toNat_valid c
  unfold encodeChar at h
  dsimp only at h
  -- Every byte of a longer character is 128 at least.
  have hlong : ∀ n, 0x80 ≤ n → n < 256 → b ≠ UInt8.ofNat n := fun n hn hlt e => by
    rw [e, toNat_byte hlt] at hb
    omega
  split at h
  · rw [List.mem_singleton.1 h, toNat_byte (by omega)]
  split at h
  · simp only [List.mem_cons, List.not_mem_nil, or_false] at h
    rcases h with h | h <;> exact absurd h (hlong _ (by omega) (by omega))
  split at h
  · simp only [List.mem_cons, List.not_mem_nil, or_false] at h
    rcases h with h | h | h <;> exact absurd h (hlong _ (by omega) (by omega))
  · simp only [List.mem_cons, List.not_mem_nil, or_false] at h
    rcases h with h | h | h | h <;> exact absurd h (hlong _ (by omega) (by omega))

theorem exists_mem_of_mem_encode {cs : List Char} {b : UInt8} (hb : b.toNat < 0x80) (h : b ∈ encode cs) :
    ∃ c ∈ cs, c.toNat = b.toNat := by
  obtain ⟨c, hc, hbc⟩ := List.mem_flatMap.1 h
  exact ⟨c, hc, mem_encodeChar_of_lt hb hbc⟩

theorem not_mem_encode {cs : List Char} {c : Char} (hc : c.toNat < 0x80) (h : c ∉ cs) :
    UInt8.ofNat c.toNat ∉ encode cs := fun hb => by
  have hbyte : (UInt8.ofNat c.toNat).toNat = c.toNat := toNat_byte (by omega)
  obtain ⟨d, hd, hn⟩ := exists_mem_of_mem_encode (by omega) hb
  rw [hbyte] at hn
  exact h (Char.toNat_inj.1 hn ▸ hd)

/-! ## The bytes of a string -/

theorem encodeChar_eq (c : Char) : encodeChar c = String.utf8EncodeChar c := by
  have hn : c.toNat < 0x110000 := by
    have hvalid := toNat_valid c
    omega
  have hval : c.val.toNat = c.toNat := rfl
  unfold encodeChar String.utf8EncodeChar
  dsimp only
  rw [hval]
  generalize c.toNat = n at hn
  have hone : n ≤ 127 ↔ n < 0x80 := Nat.lt_succ_iff.symm
  have htwo : n ≤ 2047 ↔ n < 0x800 := Nat.lt_succ_iff.symm
  have hthree : n ≤ 65535 ↔ n < 0x10000 := Nat.lt_succ_iff.symm
  simp only [hone, htwo, hthree]
  -- the bits of a first byte are few enough for their places, so nothing is cut off them
  split
  · rfl
  split
  · rw [Nat.mod_eq_of_lt (show n / 64 < 32 by omega), Nat.add_comm 0xC0, Nat.add_comm 0x80]
  split
  · rw [Nat.mod_eq_of_lt (show n / 4096 < 16 by omega), Nat.add_comm 0xE0, Nat.add_comm 0x80 (n / 64 % 64),
      Nat.add_comm 0x80 (n % 64)]
  · rw [Nat.mod_eq_of_lt (show n / 262144 < 8 by omega), Nat.add_comm 0xF0, Nat.add_comm 0x80 (n / 4096 % 64),
      Nat.add_comm 0x80 (n / 64 % 64), Nat.add_comm 0x80 (n % 64)]

/-- **The bytes of a text are those of its string.** -/
theorem encode_toList (s : String) : encode s.toList = s.toUTF8.data.toList := by
  show s.toList.flatMap encodeChar = s.toByteArray.data.toList
  rw [← String.utf8Encode_toList, List.utf8Encode, List.data_toByteArray, funext encodeChar_eq]

/-! ## How much is read -/

def State.pending : State → Nat
  | .idle => 0
  | .within .. => 1

/-- A state in which the next byte continues a character only if it is no first byte of one. -/
def State.Sound : State → Prop
  | .idle => True
  | .within _ _ low high => 0x80 ≤ low ∧ high ≤ 0xBF

theorem lead_spec (b : UInt8) : (lead b).1.length + (lead b).2.pending ≤ 1 ∧ (lead b).2.Sound := by
  unfold lead
  dsimp only
  repeat' split
  all_goals simp [State.pending, State.Sound]

theorem exists_units_cons {s : State} (hs : s.Sound) (b : UInt8) (bs : Bytes) :
    ∃ us t, t.Sound ∧ units s (b :: bs) = us ++ units t bs ∧ us.length + t.pending ≤ s.pending + 1 := by
  obtain ⟨hlead, hsound⟩ := lead_spec b
  cases s with
  | idle => exact ⟨_, _, hsound, rfl, by rw [State.pending]; omega⟩
  | within code more low high =>
    rw [units]
    dsimp only
    split
    · split
      · exact ⟨[_], .idle, trivial, rfl, by simp [State.pending]⟩
      · exact ⟨[], .within _ _ 0x80 0xBF, ⟨Nat.le_refl _, Nat.le_refl _⟩, rfl, by simp [State.pending]⟩
    · refine ⟨none :: (lead b).1, _, hsound, rfl, ?_⟩
      rw [State.pending, List.length_cons]
      omega

theorem exists_encodeChar_cons (c : Char) :
    ∃ b bs, encodeChar c = b :: bs ∧ ¬ (0x80 ≤ b.toNat ∧ b.toNat ≤ 0xBF) := by
  have hv := toNat_valid c
  unfold encodeChar
  dsimp only
  repeat' split
  all_goals
    refine ⟨_, _, rfl, ?_⟩
    rw [toNat_byte (by omega)]
    omega

theorem exists_cons_of_encode {cs : List Char} {b : UInt8} {r : Bytes} (he : encode cs = b :: r)
    (hb : b.toNat < 0x80) : ∃ c cs', cs = c :: cs' ∧ c.toNat = b.toNat ∧ encode cs' = r := by
  cases cs with
  | nil => cases he
  | cons c cs =>
    obtain ⟨b', r', hc, -⟩ := exists_encodeChar_cons c
    rw [encode_cons, hc, List.cons_append] at he
    obtain rfl : b' = b := (List.cons.inj he).1
    have hn : c.toNat = b'.toNat := mem_encodeChar_of_lt hb (hc ▸ List.mem_cons_self)
    rw [encodeChar_of_lt (by omega)] at hc
    obtain rfl : [] = r' := (List.cons.inj hc).2
    exact ⟨c, cs, rfl, hn, (List.cons.inj he).2⟩

/-- **The bytes of a character close an open run** and are read as that character. -/
theorem length_units_encodeChar {s : State} (hs : s.Sound) (c : Char) (bs : Bytes) :
    (units s (encodeChar c ++ bs)).length = s.pending + 1 + (units .idle bs).length := by
  have hidle := units_encodeChar c bs
  cases s with
  | idle => rw [hidle, List.length_cons, State.pending]; omega
  | within code more low high =>
    obtain ⟨b, r, hb, hrange⟩ := exists_encodeChar_cons c
    have hclose : ¬ (low ≤ b.toNat ∧ b.toNat ≤ high) := fun h => hrange ⟨by have := hs.1; omega, by have := hs.2; omega⟩
    have hunits : units (.within code more low high) (b :: (r ++ bs)) = none :: units .idle (b :: (r ++ bs)) := by
      show units (.within code more low high) (b :: (r ++ bs)) = none :: ((lead b).1 ++ units (lead b).2 (r ++ bs))
      rw [units, if_neg hclose]
    rw [hb, List.cons_append] at hidle ⊢
    rw [hunits, hidle, List.length_cons, List.length_cons, State.pending]
    omega

theorem toNat_of_isAlphanum {c : Char} (h : c.isAlphanum = true) :
    0x30 ≤ c.toNat ∧ c.toNat ≤ 0x39 ∨ 0x41 ≤ c.toNat ∧ c.toNat ≤ 0x5A ∨ 0x61 ≤ c.toNat ∧ c.toNat ≤ 0x7A := by
  have hn : c.toNat = c.val.toNat := rfl
  have hranges : (decide (65 ≤ c.val ∧ c.val ≤ 90) || (decide (97 ≤ c.val) && decide (c.val ≤ 122)) ||
      (decide (48 ≤ c.val) && decide (c.val ≤ 57))) = true := h
  simp only [Bool.or_eq_true, Bool.and_eq_true, decide_eq_true_eq, UInt32.le_iff_toNat_le,
    UInt32.reduceToNat] at hranges
  omega

end Utf8
end NodeDesk
