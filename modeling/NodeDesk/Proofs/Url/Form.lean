import NodeDesk.Proofs.Text.Cut
import NodeDesk.Proofs.Url.Percent
import NodeDesk.Url.Form
/-!
# Form — pairs come back from a form

What a browser writes of some pairs is read as these pairs, whatever characters they hold (`decode_encode`): a written
side holds neither of the two marks, and each of its characters is read from what was written for it.
-/
namespace NodeDesk
namespace Url
namespace Form

/-! ## One character -/

theorem spaced_append (as bs : Bytes) : spaced (as ++ bs) = spaced as ++ spaced bs := List.map_append

theorem spaced_of_ne {bs : Bytes} (h : ∀ b ∈ bs, b ≠ 0x2B) : spaced bs = bs := by
  unfold spaced
  refine (List.map_congr_left fun b hb => ?_).trans (List.map_id' bs)
  exact if_neg (h b hb)

theorem spaced_triples (bs : Bytes) :
    spaced (Utf8.encode (bs.flatMap Percent.triple)) = Utf8.encode (bs.flatMap Percent.triple) := by
  refine spaced_of_ne fun b hb => ?_
  have hlt : ∀ c ∈ bs.flatMap Percent.triple, c.toNat < 0x80 := fun c hc => by
    obtain ⟨x, -, hx⟩ := List.mem_flatMap.1 hc
    exact Percent.toNat_lt_of_mem_triple hx
  obtain ⟨c, hc, hbc⟩ := Utf8.mem_encode_of_lt hlt hb
  obtain ⟨x, -, hx⟩ := List.mem_flatMap.1 hc
  rintro rfl
  rcases Percent.mem_triple hx with rfl | hc
  · exact absurd hbc (by decide)
  · have := Utf8.toNat_of_isAlphanum hc
    rw [← hbc] at this
    exact absurd this (by decide)

theorem encodeChar_cases (c : Char) :
    (encodeChar c = [c] ∧ (c.isAlphanum = true ∨ c = '*' ∨ c = '-' ∨ c = '.' ∨ c = '_')) ∨
      (encodeChar c = ['+'] ∧ c = ' ') ∨ encodeChar c = (Utf8.encodeChar c).flatMap Percent.triple := by
  unfold encodeChar
  split
  · rename_i h
    simp only [Bool.or_eq_true, decide_eq_true_eq, or_assoc] at h
    exact .inl ⟨rfl, h⟩
  · split
    · rename_i h
      exact .inr (.inl ⟨rfl, h⟩)
    · exact .inr (.inr rfl)

/-- **A character is read from what is written for it**, whatever follows. -/
theorem decode_encodeChar (c : Char) (r : Bytes) :
    Percent.decode (spaced (Utf8.encode (encodeChar c)) ++ r) = Utf8.encodeChar c ++ Percent.decode r := by
  rcases encodeChar_cases c with ⟨he, hc⟩ | ⟨he, rfl⟩ | he
  · have hlt : c.toNat < 0x80 ∧ c.toNat ≠ 0x25 ∧ c.toNat ≠ 0x2B := by
      rcases hc with hc | rfl | rfl | rfl | rfl
      · have := Utf8.toNat_of_isAlphanum hc
        omega
      all_goals decide
    have hb : (UInt8.ofNat c.toNat).toNat = c.toNat := Utf8.toNat_byte (by omega)
    have hne : ∀ n : UInt8, c.toNat ≠ n.toNat → UInt8.ofNat c.toNat ≠ n := fun n hn e => hn (by rw [← hb, e])
    have hspaced : spaced [UInt8.ofNat c.toNat] = [UInt8.ofNat c.toNat] := spaced_of_ne fun b hm => by
      rw [List.mem_singleton.1 hm]
      exact hne 0x2B hlt.2.2
    rw [he, Utf8.encode_cons, Utf8.encode_nil, List.append_nil, Utf8.encodeChar_of_lt hlt.1, hspaced,
      List.singleton_append, Percent.decode_of_ne (hne 0x25 hlt.2.1)]
    rfl
  · rw [he]
    show Percent.decode (0x20 :: r) = _
    rw [Percent.decode_of_ne (by decide)]
    rfl
  · rw [he, spaced_triples, Percent.decode_triples]

theorem decode_encodeChars : ∀ cs : List Char,
    Percent.decode (spaced (Utf8.encode (cs.flatMap encodeChar))) = Utf8.encode cs
  | [] => rfl
  | c :: cs => by
    rw [List.flatMap_cons, Utf8.encode_append, spaced_append, decode_encodeChar, decode_encodeChars cs]
    rfl

/-! ## One pair -/

/-- **A side is read from what is written for it.** -/
theorem decodeSide_encodeSide (s : String) : decodeSide (Utf8.encode (encodeSide s)) = s := by
  unfold decodeSide encodeSide
  rw [decode_encodeChars, Utf8.decodeLossy_encode, String.ofList_toList]

theorem mem_encodeSide {s : String} {c : Char} (h : c ∈ encodeSide s) :
    c.toNat < 0x80 ∧ c ≠ '&' ∧ c ≠ '=' := by
  obtain ⟨x, -, hx⟩ := List.mem_flatMap.1 h
  have halnum : ∀ c : Char, c.isAlphanum = true → c.toNat < 0x80 ∧ c ≠ '&' ∧ c ≠ '=' := fun c hc => by
    have := Utf8.toNat_of_isAlphanum hc
    refine ⟨by omega, ?_, ?_⟩ <;> rintro rfl <;> exact absurd hc (by decide)
  rcases encodeChar_cases x with ⟨he, hc⟩ | ⟨he, -⟩ | he
  · rw [he] at hx
    rw [List.mem_singleton.1 hx]
    rcases hc with hc | rfl | rfl | rfl | rfl
    · exact halnum x hc
    all_goals decide
  · rw [he] at hx
    rw [List.mem_singleton.1 hx]
    decide
  · rw [he] at hx
    obtain ⟨b, -, hb⟩ := List.mem_flatMap.1 hx
    rcases Percent.mem_triple hb with rfl | hc
    · decide
    · exact halnum c hc

theorem not_mem_encodeSide (s : String) :
    (0x26 : UInt8) ∉ Utf8.encode (encodeSide s) ∧ (0x3D : UInt8) ∉ Utf8.encode (encodeSide s) := by
  have hbyte : ∀ b ∈ Utf8.encode (encodeSide s), b.toNat ≠ '&'.toNat ∧ b.toNat ≠ '='.toNat := fun b hb => by
    obtain ⟨c, hc, hbc⟩ := Utf8.mem_encode_of_lt (fun c h => (mem_encodeSide h).1) hb
    obtain ⟨-, hamp, heq⟩ := mem_encodeSide hc
    rw [hbc]
    exact ⟨fun e => hamp (Char.toNat_inj.1 e), fun e => heq (Char.toNat_inj.1 e)⟩
  exact ⟨fun h => (hbyte _ h).1 rfl, fun h => (hbyte _ h).2 rfl⟩

theorem encode_encodePair (p : String × String) :
    Utf8.encode (encodePair p) = Utf8.encode (encodeSide p.1) ++ 0x3D :: Utf8.encode (encodeSide p.2) := by
  unfold encodePair
  rw [Utf8.encode_append, Utf8.encode_cons]
  rfl

theorem decodePair_encodePair (p : String × String) : decodePair (Utf8.encode (encodePair p)) = p := by
  unfold decodePair
  rw [encode_encodePair, Text.cut?_append (not_mem_encodeSide p.1).2]
  dsimp only
  rw [decodeSide_encodeSide, decodeSide_encodeSide]

theorem not_mem_encodePair (p : String × String) : (0x26 : UInt8) ∉ Utf8.encode (encodePair p) := fun h => by
  rw [encode_encodePair] at h
  rcases List.mem_append.1 h with h | h
  · exact (not_mem_encodeSide p.1).1 h
  · rcases List.mem_cons.1 h with h | h
    · exact absurd h (by decide)
    · exact (not_mem_encodeSide p.2).1 h

/-! ## All pairs -/

theorem encode_intercalate : ∀ ls : List (List Char),
    Utf8.encode (['&'].intercalate ls) = [0x26].intercalate (ls.map Utf8.encode)
  | [] => rfl
  | [l] => by rw [List.map_singleton, List.intercalate_singleton, List.intercalate_singleton]
  | l :: l' :: ls => by
    have ih := encode_intercalate (l' :: ls)
    rw [List.map_cons] at ih
    rw [List.map_cons, List.map_cons, List.intercalate_cons_cons, List.intercalate_cons_cons, Utf8.encode_append,
      Utf8.encode_append, ih]
    rfl

/-- **Pairs are read from what a browser writes for them.** -/
theorem decode_encode (ps : List (String × String)) : decode (Utf8.encode (encode ps)) = ps := by
  cases ps with
  | nil => rfl
  | cons p ps =>
    show decode (Utf8.encode (['&'].intercalate ((p :: ps).map encodePair))) = p :: ps
    unfold decode
    have hmarks : ∀ bs ∈ ((p :: ps).map encodePair).map Utf8.encode, (0x26 : UInt8) ∉ bs := fun bs hbs => by
      rw [List.map_map] at hbs
      obtain ⟨q, -, rfl⟩ := List.mem_map.1 hbs
      exact not_mem_encodePair q
    rw [encode_intercalate, Text.parts_intercalate (by simp) hmarks, List.map_map, List.filter_eq_self.2, List.map_map]
    · refine (List.map_congr_left fun q _ => ?_).trans (List.map_id' (p :: ps))
      exact decodePair_encodePair q
    · intro bs hbs
      obtain ⟨q, -, rfl⟩ := List.mem_map.1 hbs
      rw [Function.comp_apply, encode_encodePair]
      simp

end Form
end Url
end NodeDesk
