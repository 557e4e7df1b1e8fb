import Mathlib.Logic.Function.Basic
import NodeDesk.Proofs.Url.Resolver
/-!
# Spelling — how the bytes of an id are written

RFC 3986 leaves sixty-six characters unreserved (section 2.3), and writes any other byte as a percent sign and two
upper-case digits (section 2.1).  `Spells` says this of a whole text, without the encoder, and leaves bytes only one
spelling (`Spells.unique`).  An id is spelt so in its address, whatever that begins with (`urls_spelt`).
-/
namespace NodeDesk
namespace Url

/-- The unreserved characters of RFC 3986. -/
def unreserved : List Char :=
  "ABCDEFGHIJKLMNOPQRSTUVWXYZabcdefghijklmnopqrstuvwxyz0123456789-._~".toList

theorem mem_unreserved_iff {c : Char} : c ∈ unreserved ↔ isUnreserved c = true := by
  constructor
  · have hall : unreserved.all isUnreserved = true := by decide
    exact List.all_eq_true.1 hall c
  · intro h
    have hall : ∀ n : Fin 128,
        isUnreserved (Char.ofNat n.val) = true → unreserved.contains (Char.ofNat n.val) = true := by
      decide +kernel
    have hn := Percent.toNat_of_isUnreserved h
    have hc := hall ⟨c.toNat, by omega⟩
    rw [Char.ofNat_toNat] at hc
    exact List.contains_iff_mem.1 (hc h)

theorem byte_inj {c d : Char} (hc : c ∈ unreserved) (hd : d ∈ unreserved)
    (h : UInt8.ofNat c.toNat = UInt8.ofNat d.toNat) : c = d := by
  have hcn := Percent.toNat_of_isUnreserved (mem_unreserved_iff.1 hc)
  have hdn := Percent.toNat_of_isUnreserved (mem_unreserved_iff.1 hd)
  have hbyte := congrArg UInt8.toNat h
  rw [Utf8.toNat_byte (by omega), Utf8.toNat_byte (by omega)] at hbyte
  exact Char.toNat_inj.1 hbyte

/-- The upper-case hexadecimal digits. -/
def hexDigits : List Char := "0123456789ABCDEF".toList

/-- **A text that spells bytes**: an unreserved character stands for itself, and every other byte is a triple. -/
inductive Spells : List Char → Bytes → Prop
  | nil : Spells [] []
  | plain {c : Char} {cs : List Char} {bs : Bytes} (hc : c ∈ unreserved) (h : Spells cs bs) :
      Spells (c :: cs) (UInt8.ofNat c.toNat :: bs)
  | triple {b : UInt8} {x y : Char} {cs : List Char} {bs : Bytes} (hb : ∀ c ∈ unreserved, UInt8.ofNat c.toNat ≠ b)
      (hx : hexDigits[b.toNat / 16]? = some x) (hy : hexDigits[b.toNat % 16]? = some y) (h : Spells cs bs) :
      Spells ('%' :: x :: y :: cs) (b :: bs)

/-- **Bytes have one spelling.** -/
theorem Spells.unique {cs ds : List Char} {bs : Bytes} (h : Spells cs bs) (h' : Spells ds bs) : cs = ds := by
  -- the induction is on one spelling, and its first byte tells by which rule the other begins
  induction h generalizing ds with
  | nil =>
    cases h'
    rfl
  | @plain c cs bs hc h ih =>
    generalize hb : UInt8.ofNat c.toNat = b at h'
    cases h' with
    | plain hc' h' => rw [byte_inj hc hc' hb, ih h']
    | triple hne => exact absurd hb (hne c hc)
  | @triple b x y cs bs hne hx hy h ih =>
    cases h' with
    | @plain c' ds _ hc' h' => exact absurd rfl (hne c' hc')
    | triple _ hx' hy' h' =>
      rw [Option.some.inj (hx.symm.trans hx'), Option.some.inj (hy.symm.trans hy'), ih h']

namespace Percent

theorem getElem?_hexDigits {n : Nat} (h : n < 16) : hexDigits[n]? = some (hexDigit n) := by
  have hall : ∀ n : Fin 16, hexDigits[n.val]? = some (hexDigit n.val) := by decide
  exact hall ⟨n, h⟩

theorem spells_triples {bs : Bytes} (hbs : ∀ b ∈ bs, ∀ c ∈ unreserved, UInt8.ofNat c.toNat ≠ b) {cs : List Char}
    {bs' : Bytes} (h : Spells cs bs') : Spells (bs.flatMap triple ++ cs) (bs ++ bs') := by
  induction bs with
  | nil => exact h
  | cons b bs ih =>
    have hb : b.toNat < 256 := b.toNat_lt
    exact .triple (hbs b List.mem_cons_self) (getElem?_hexDigits (by omega)) (getElem?_hexDigits (by omega))
      (ih fun b' hb' => hbs b' (List.mem_cons_of_mem b hb'))

/-- A character that is not unreserved has no byte of one that is. -/
theorem ne_of_mem_encodeChar {c : Char} (hc : isUnreserved c = false) {b : UInt8} (hb : b ∈ Utf8.encodeChar c) :
    ∀ u ∈ unreserved, UInt8.ofNat u.toNat ≠ b := by
  rintro u hu rfl
  have hu' := mem_unreserved_iff.1 hu
  have hn := toNat_of_isUnreserved hu'
  have hbyte : (UInt8.ofNat u.toNat).toNat = u.toNat := Utf8.toNat_byte (by omega)
  have hcu : c.toNat = u.toNat := (Utf8.mem_encodeChar_of_lt (by omega) hb).trans hbyte
  rw [Char.toNat_inj.1 hcu, hu'] at hc
  cases hc

theorem spells_encodeChar (c : Char) {cs : List Char} {bs : Bytes} (h : Spells cs bs) :
    Spells (encodeChar c ++ cs) (Utf8.encodeChar c ++ bs) := by
  unfold encodeChar
  cases hc : isUnreserved c with
  | true =>
    have hn := toNat_of_isUnreserved hc
    rw [if_pos rfl, Utf8.encodeChar_of_lt (by omega)]
    exact .plain (mem_unreserved_iff.2 hc) h
  | false => exact spells_triples (fun b => ne_of_mem_encodeChar hc) h

/-- **A segment spells the bytes of its text.** -/
theorem spells_encodeChars (cs : List Char) : Spells (encodeChars cs) (Utf8.encode cs) := by
  induction cs with
  | nil => exact .nil
  | cons c cs ih => exact spells_encodeChar c ih

/-! ## Texts that are their own segments -/

theorem encodeChars_cons (c : Char) (cs : List Char) : encodeChars (c :: cs) = encodeChar c ++ encodeChars cs := rfl

theorem encodeChar_of_unreserved {c : Char} (h : isUnreserved c = true) : encodeChar c = [c] := if_pos h

theorem length_encodeChar_of_reserved {c : Char} (h : isUnreserved c = false) : 3 ≤ (encodeChar c).length := by
  obtain ⟨b, r, hbytes, -⟩ := Utf8.exists_encodeChar_cons c
  have hc : encodeChar c = triple b ++ r.flatMap triple := by
    rw [encodeChar, h, hbytes]
    rfl
  rw [hc, List.length_append]
  exact Nat.le_add_right 3 _

theorem length_le_encodeChars (cs : List Char) : cs.length ≤ (encodeChars cs).length := by
  induction cs with
  | nil => exact Nat.le_refl 0
  | cons c cs ih =>
    have hpos : 1 ≤ (encodeChar c).length := by
      cases h : isUnreserved c with
      | true => rw [encodeChar_of_unreserved h]; rfl
      | false => exact Nat.le_trans (by decide) (length_encodeChar_of_reserved h)
    rw [encodeChars_cons, List.length_append, List.length_cons]
    omega

/-- **A text is its own segment** exactly if all of it is unreserved: a triple is longer than what it stands for. -/
theorem encodeChars_eq_self_iff {cs : List Char} : encodeChars cs = cs ↔ ∀ c ∈ cs, isUnreserved c = true := by
  induction cs with
  | nil => simp [encodeChars]
  | cons c cs ih =>
    rw [List.forall_mem_cons, ← ih, encodeChars_cons]
    cases h : isUnreserved c with
    | true => rw [encodeChar_of_unreserved h]; simp
    | false =>
      have hlen := length_le_encodeChars cs
      have hthree := length_encodeChar_of_reserved h
      refine iff_of_false (fun he => ?_) (fun he => Bool.noConfusion he.1)
      have hsame := congrArg List.length he
      rw [List.length_append, List.length_cons] at hsame
      omega

theorem encode_eq_self_iff {s : String} : encode s = s ↔ ∀ c ∈ s.toList, c ∈ unreserved := by
  have hmem : (∀ c ∈ s.toList, c ∈ unreserved) ↔ ∀ c ∈ s.toList, isUnreserved c = true :=
    forall₂_congr fun c _ => mem_unreserved_iff
  rw [hmem, ← encodeChars_eq_self_iff, encode, ← String.toList_inj, String.toList_ofList]

end Percent

namespace Resolver

/-- **Addresses are faithful, whatever they begin with.**  An id stands in the addresses of its node and its user as
the text that spells its bytes, between the prefix and a slash.  Percent-decoding gives the id back, and the text is
the id itself exactly if all of that is unreserved.  So different ids have different addresses. -/
theorem urls_spelt (r : Resolver) :
    (∀ id : String, ∃ s : String,
      (r.nodeUrl id = r.nodeBase ++ s ++ "/" ∧ r.userUrl id = r.userBase ++ s ++ "/") ∧
      (∀ t, Spells t id.toUTF8.data.toList ↔ t = s.toList) ∧ Percent.decodeText? s.toList = some id.toList ∧
      (s = id ↔ ∀ c ∈ id.toList, c ∈ unreserved)) ∧
    Function.Injective r.nodeUrl ∧ Function.Injective r.userUrl := by
  refine ⟨fun id => ⟨Percent.encode id, ⟨rfl, rfl⟩, ?_, Percent.decodeText?_encode id, Percent.encode_eq_self_iff⟩,
    fun _ _ => r.nodeUrl_inj, fun _ _ => r.userUrl_inj⟩
  intro t
  have hspells := Percent.spells_encodeChars id.toList
  rw [← Utf8.encode_toList, Percent.encode, String.toList_ofList]
  constructor
  · intro ht
    exact ht.unique hspells
  · rintro rfl
    exact hspells

/-- A percent sign is spelt like any other reserved character, and a letter with an accent as its two bytes. -/
example : ({ nodeBase := "https://a.example/" } : Resolver).nodeUrl "é%2F~" = "https://a.example/%C3%A9%252F~/" := by
  decide

end Resolver
end Url
end NodeDesk
