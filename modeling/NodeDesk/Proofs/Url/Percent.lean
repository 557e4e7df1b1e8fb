import NodeDesk.Proofs.Text.Utf8
import NodeDesk.Url.Percent
/-!
# Percent — bytes come back from their triples

A byte written as `%XX` is read as that byte, whatever follows (`decode_triples`); every byte that is no percent sign
stands for itself.  So a segment is read as the text that was encoded into it (`decodeText?_encode`), of which nothing
but unreserved characters and percent signs is left (`mem_encode`).
-/
namespace NodeDesk
namespace Url
namespace Percent

theorem hexDigit_spec {n : Nat} (h : n < 16) :
    (hexDigit n).isAlphanum = true ∧ hexValue? (UInt8.ofNat (hexDigit n).toNat) = some n := by
  have hall : ∀ n : Fin 16, (hexDigit n.val).isAlphanum = true ∧
      hexValue? (UInt8.ofNat (hexDigit n.val).toNat) = some n.val := by decide
  exact hall ⟨n, h⟩

theorem mem_triple {b : UInt8} {c : Char} (h : c ∈ triple b) : c = '%' ∨ c.isAlphanum = true := by
  have hb : b.toNat < 256 := b.toNat_lt
  simp only [triple, List.mem_cons, List.not_mem_nil, or_false] at h
  rcases h with rfl | rfl | rfl
  · exact .inl rfl
  · exact .inr (hexDigit_spec (by omega)).1
  · exact .inr (hexDigit_spec (by omega)).1

theorem toNat_lt_of_mem_triple {b : UInt8} {c : Char} (h : c ∈ triple b) : c.toNat < 0x80 := by
  rcases mem_triple h with rfl | h
  · decide
  · have := Utf8.toNat_of_isAlphanum h
    omega

theorem encode_triple (b : UInt8) :
    Utf8.encode (triple b) =
      [0x25, UInt8.ofNat (hexDigit (b.toNat / 16)).toNat, UInt8.ofNat (hexDigit (b.toNat % 16)).toNat] := by
  rw [Utf8.encode_of_lt fun c => toNat_lt_of_mem_triple]
  rfl

theorem decode_of_ne {b : UInt8} (h : b ≠ 0x25) (r : Bytes) : decode (b :: r) = b :: decode r := by
  cases r with
  | nil => exact if_neg h
  | cons x r =>
    cases r with
    | nil => exact if_neg h
    | cons y r => exact if_neg h

theorem decode_triple (b : UInt8) (r : Bytes) : decode (Utf8.encode (triple b) ++ r) = b :: decode r := by
  have hb : b.toNat < 256 := b.toNat_lt
  have hhigh := (hexDigit_spec (show b.toNat / 16 < 16 by omega)).2
  have hlow := (hexDigit_spec (show b.toNat % 16 < 16 by omega)).2
  have hsum : 16 * (b.toNat / 16) + b.toNat % 16 = b.toNat := Nat.div_add_mod b.toNat 16
  rw [encode_triple]
  simp only [List.cons_append, List.nil_append]
  rw [decode]
  simp only [if_true, hhigh, hlow]
  rw [hsum, UInt8.ofNat_toNat]

/-- **Bytes are read from their triples.** -/
theorem decode_triples : ∀ (bs r : Bytes), decode (Utf8.encode (bs.flatMap triple) ++ r) = bs ++ decode r
  | [], r => rfl
  | b :: bs, r => by
    rw [List.flatMap_cons, Utf8.encode_append, List.append_assoc, decode_triple, decode_triples bs r]
    rfl

/-! ## Whole segments -/

theorem mem_encodeChars {c : Char} {cs : List Char} (h : c ∈ encodeChars cs) : c = '%' ∨ isUnreserved c = true := by
  obtain ⟨x, -, hx⟩ := List.mem_flatMap.1 h
  unfold encodeChar at hx
  split at hx
  · rename_i hunreserved
    rw [List.mem_singleton.1 hx]
    exact .inr hunreserved
  · obtain ⟨b, -, hb⟩ := List.mem_flatMap.1 hx
    exact (mem_triple hb).imp_right fun ha => by simp [isUnreserved, ha]

theorem toNat_of_isUnreserved {c : Char} (h : isUnreserved c = true) :
    0x2D ≤ c.toNat ∧ c.toNat ≤ 0x2E ∨ 0x30 ≤ c.toNat ∧ c.toNat ≤ 0x39 ∨ 0x41 ≤ c.toNat ∧ c.toNat ≤ 0x5A ∨
      c.toNat = 0x5F ∨ 0x61 ≤ c.toNat ∧ c.toNat ≤ 0x7A ∨ c.toNat = 0x7E := by
  simp only [isUnreserved, Bool.or_eq_true, decide_eq_true_eq] at h
  rcases h with (((h | rfl) | rfl) | rfl) | rfl
  · have := Utf8.toNat_of_isAlphanum h
    omega
  all_goals decide

theorem decode_encodeChar (c : Char) (r : Bytes) :
    decode (Utf8.encode (encodeChar c) ++ r) = Utf8.encodeChar c ++ decode r := by
  unfold encodeChar
  by_cases h : isUnreserved c = true
  · have hn := toNat_of_isUnreserved h
    have hb : UInt8.ofNat c.toNat ≠ 0x25 := fun e => by
      have he := congrArg UInt8.toNat e
      rw [Utf8.toNat_byte (by omega)] at he
      have h25 : (0x25 : UInt8).toNat = 37 := rfl
      omega
    rw [if_pos h, Utf8.encode_cons, Utf8.encode_nil, List.append_nil, Utf8.encodeChar_of_lt (by omega)]
    exact decode_of_ne hb r
  · rw [if_neg h, decode_triples]

/-- **A segment is read as the text that was encoded into it.** -/
theorem decodeText?_encodeChars (cs : List Char) : decodeText? (encodeChars cs) = some cs := by
  have hbytes : ∀ cs, decode (Utf8.encode (encodeChars cs)) = Utf8.encode cs := by
    intro cs
    induction cs with
    | nil => rfl
    | cons c cs ih =>
      show decode (Utf8.encode (encodeChar c ++ encodeChars cs)) = _
      rw [Utf8.encode_append, decode_encodeChar, ih, Utf8.encode_cons]
  unfold decodeText?
  rw [hbytes, Utf8.decode?_encode]

theorem decodeText?_encode (s : String) : decodeText? (encode s).toList = some s.toList := by
  unfold encode
  rw [String.toList_ofList, decodeText?_encodeChars]

theorem mem_encode {c : Char} {s : String} (h : c ∈ (encode s).toList) : c = '%' ∨ isUnreserved c = true := by
  unfold encode at h
  rw [String.toList_ofList] at h
  exact mem_encodeChars h

/-- **A text is told by its segment.** -/
theorem encode_inj {s t : String} (h : encode s = encode t) : s = t := by
  have hs := decodeText?_encode s
  rw [h, decodeText?_encode t] at hs
  exact String.toList_inj.1 (Option.some.inj hs).symm

end Percent
end Url
end NodeDesk
