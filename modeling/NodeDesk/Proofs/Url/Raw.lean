import Mathlib.Data.List.TakeWhile
import NodeDesk.Proofs.Url.Form
import NodeDesk.Url.Target
/-!
# Raw — pairs that are written as they stand

A side of a pair that is written as it stands is read as itself exactly if nothing in it has another meaning: no mark
that ends it, no plus sign, and no percent sign with two hexadecimal digits (`decodeSide_eq_self_iff`).  Each of these
makes what is read shorter than what was written, or puts a space for the plus sign, so pairs come back exactly if each
of them is free of these (`readRaw_flatMap_iff`).
-/
namespace NodeDesk
namespace Text

theorem takeWhile_append_stop {α : Type} {p : α → Bool} {as bs : List α} (h : ∀ b ∈ bs.head?, p b = false) :
    (as ++ bs).takeWhile p = as.takeWhile p := by
  have hstop : bs.takeWhile p = [] := by
    cases bs with
    | nil => rfl
    | cons b bs => exact List.takeWhile_cons_of_neg (by simp [h b rfl])
  rw [List.takeWhile_append, hstop, List.append_nil]
  split
  · rename_i hall
    exact ((List.takeWhile_prefix p).eq_of_length hall).symm
  · rfl

theorem bne_of_not_mem {cs : List Char} {mark : Char} (h : mark ∉ cs) : ∀ c ∈ cs, (c != mark) = true := by
  intro c hc
  have hne : c ≠ mark := fun e => h (e ▸ hc)
  simpa using hne

end Text

namespace Url

namespace Percent

/-- Whether a text begins with a percent sign and two hexadecimal digits. -/
def isTriple : List Char → Bool
  | '%' :: x :: y :: _ => x.isHexDigit && y.isHexDigit
  | _ => false

/-- Whether such three characters stand anywhere in a text. -/
def holdsTriple : List Char → Bool
  | [] => false
  | c :: r => isTriple (c :: r) || holdsTriple r

theorem isTriple_iff {cs : List Char} :
    isTriple cs = true ↔ ∃ x y r, cs = '%' :: x :: y :: r ∧ x.isHexDigit = true ∧ y.isHexDigit = true := by
  constructor
  · intro h
    unfold isTriple at h
    split at h
    · obtain ⟨hx, hy⟩ := Bool.and_eq_true_iff.1 h
      exact ⟨_, _, _, rfl, hx, hy⟩
    · cases h
  · rintro ⟨x, y, r, rfl, hx, hy⟩
    exact Bool.and_eq_true_iff.2 ⟨hx, hy⟩

theorem holdsTriple_of_not_mem {cs : List Char} (h : '%' ∉ cs) : holdsTriple cs = false := by
  induction cs with
  | nil => rfl
  | cons c cs ih =>
    refine Bool.or_eq_false_iff.2 ⟨Bool.eq_false_iff.2 fun ht => ?_, ih fun hm => h (List.mem_cons_of_mem c hm)⟩
    obtain ⟨x, y, r, he, -⟩ := isTriple_iff.1 ht
    exact h (he ▸ List.mem_cons_self)

theorem isHexDigit_iff {c : Char} :
    c.isHexDigit = true ↔ 0x30 ≤ c.toNat ∧ c.toNat ≤ 0x39 ∨ 0x41 ≤ c.toNat ∧ c.toNat ≤ 0x46 ∨
      0x61 ≤ c.toNat ∧ c.toNat ≤ 0x66 := by
  have hn : c.toNat = c.val.toNat := rfl
  simp only [Char.isHexDigit, Char.isDigit, Bool.or_eq_true, Bool.and_eq_true, decide_eq_true_eq, ge_iff_le,
    UInt32.le_iff_toNat_le, UInt32.reduceToNat, Char.reduceVal]
  omega

theorem isSome_hexValue? {b : UInt8} :
    (hexValue? b).isSome = true ↔ 0x30 ≤ b.toNat ∧ b.toNat ≤ 0x39 ∨ 0x41 ≤ b.toNat ∧ b.toNat ≤ 0x46 ∨
      0x61 ≤ b.toNat ∧ b.toNat ≤ 0x66 := by
  unfold hexValue?
  dsimp only
  repeat' split
  all_goals simp only [Option.isSome_some, Option.isSome_none, Bool.false_eq_true, true_iff, false_iff]
  all_goals omega

/-! ## Reading a text as it stands -/

theorem decode_append_of_not_mem {bs : Bytes} (h : 0x25 ∉ bs) (r : Bytes) : decode (bs ++ r) = bs ++ decode r := by
  induction bs with
  | nil => rfl
  | cons b bs ih =>
    have hb : b ≠ 0x25 := fun e => h (e ▸ List.mem_cons_self)
    rw [List.cons_append, decode_of_ne hb, ih fun hm => h (List.mem_cons_of_mem b hm), List.cons_append]

theorem decode_cons {c : Char} {cs : List Char} (h : isTriple (c :: cs) = false) :
    decode (Utf8.encode (c :: cs)) = Utf8.encodeChar c ++ decode (Utf8.encode cs) := by
  rw [Utf8.encode_cons]
  by_cases hc : c = '%'
  · subst hc
    show decode (0x25 :: Utf8.encode cs) = 0x25 :: decode (Utf8.encode cs)
    match he : Utf8.encode cs with
    | [] => rfl
    | [_] => rfl
    | b :: b' :: r =>
      rw [decode]
      simp only [if_true]
      split
      · rename_i x y hx hy
        -- Two bytes that are digits are two characters that are digits.
        have hb := isSome_hexValue?.1 (Option.isSome_of_eq_some hx)
        have hb' := isSome_hexValue?.1 (Option.isSome_of_eq_some hy)
        obtain ⟨d, ds, rfl, hd, hds⟩ := Utf8.exists_cons_of_encode he (by omega)
        obtain ⟨d', ds', rfl, hd', -⟩ := Utf8.exists_cons_of_encode hds (by omega)
        rw [← hd] at hb
        rw [← hd'] at hb'
        have htriple : isTriple ('%' :: d :: d' :: ds') = true :=
          isTriple_iff.2 ⟨d, d', ds', rfl, isHexDigit_iff.2 hb, isHexDigit_iff.2 hb'⟩
        exact absurd (h.symm.trans htriple) (by decide)
      · rfl
  · refine decode_append_of_not_mem (fun hm => hc ?_) _
    exact Char.toNat_inj.1 (Utf8.mem_encodeChar_of_lt (by decide) hm)

theorem exists_decode_triple {x y : Char} (hx : x.isHexDigit = true) (hy : y.isHexDigit = true) (cs : List Char) :
    ∃ b, decode (Utf8.encode ('%' :: x :: y :: cs)) = b :: decode (Utf8.encode cs) := by
  have hx := isHexDigit_iff.1 hx
  have hy := isHexDigit_iff.1 hy
  have hbyte : ∀ c : Char, c.toNat < 0x80 → (UInt8.ofNat c.toNat).toNat = c.toNat := fun c hc =>
    Utf8.toNat_byte (by omega)
  obtain ⟨n, hn⟩ := Option.isSome_iff_exists.1 (isSome_hexValue?.2 ((hbyte x (by omega)).symm ▸ hx))
  obtain ⟨k, hk⟩ := Option.isSome_iff_exists.1 (isSome_hexValue?.2 ((hbyte y (by omega)).symm ▸ hy))
  rw [Utf8.encode_cons, Utf8.encode_cons, Utf8.encode_cons, Utf8.encodeChar_of_lt (show x.toNat < 0x80 by omega),
    Utf8.encodeChar_of_lt (show y.toNat < 0x80 by omega)]
  show ∃ b, decode (0x25 :: UInt8.ofNat x.toNat :: UInt8.ofNat y.toNat :: Utf8.encode cs) = _
  rw [decode]
  simp only [if_true, hn, hk]
  exact ⟨_, rfl⟩

theorem decode_encode_of_not_holds {cs : List Char} (h : holdsTriple cs = false) :
    decode (Utf8.encode cs) = Utf8.encode cs := by
  induction cs with
  | nil => rfl
  | cons c cs ih =>
    obtain ⟨hc, hcs⟩ := Bool.or_eq_false_iff.1 h
    rw [decode_cons hc, ih hcs, Utf8.encode_cons]

/-- **What is read is no longer than what was written**, and shorter if there was a triple.  The three characters of a
triple are one byte, and a byte is one character at most. -/
theorem length_units_le (cs : List Char) {s : Utf8.State} (hs : s.Sound) :
    (Utf8.units s (decode (Utf8.encode cs))).length + (holdsTriple cs).toNat ≤ cs.length + s.pending := by
  -- A triple is passed over at once, so the induction is on the length of the text.
  match cs with
  | [] => cases s <;> simp [decode, Utf8.units, holdsTriple, Utf8.State.pending]
  | c :: r =>
    by_cases h : isTriple (c :: r) = true
    · obtain ⟨x, y, r', he, hx, hy⟩ := isTriple_iff.1 h
      obtain ⟨b, hb⟩ := exists_decode_triple hx hy r'
      obtain ⟨us, t, ht, hunits, hlength⟩ := Utf8.exists_units_cons hs b (decode (Utf8.encode r'))
      have ih := length_units_le r' ht
      have hone := Bool.toNat_le (holdsTriple (c :: r))
      have hr : (c :: r).length = r'.length + 3 := by rw [he]; rfl
      rw [hr, he, hb, hunits, List.length_append, ← he]
      omega
    · have hc := Bool.eq_false_iff.2 h
      have ih := length_units_le r (s := .idle) trivial
      have hholds : holdsTriple (c :: r) = holdsTriple r := by rw [holdsTriple, hc, Bool.false_or]
      rw [decode_cons hc, Utf8.length_units_encodeChar hs, hholds, List.length_cons]
      rw [Utf8.State.pending] at ih
      omega
termination_by cs.length
decreasing_by
  · rw [he]
    simp only [List.length_cons]
    omega
  · exact Nat.lt_succ_self _

end Percent

namespace Form

/-! ## One side -/

def unplus (c : Char) : Char := if c = '+' then ' ' else c

theorem spaced_encode (cs : List Char) : spaced (Utf8.encode cs) = Utf8.encode (cs.map unplus) := by
  induction cs with
  | nil => rfl
  | cons c cs ih =>
    rw [Utf8.encode_cons, spaced_append, ih, List.map_cons, Utf8.encode_cons]
    congr 1
    by_cases hc : c = '+'
    · subst hc
      rfl
    · rw [unplus, if_neg hc]
      refine spaced_of_ne fun b hb he => hc (Char.toNat_inj.1 ?_)
      subst he
      exact Utf8.mem_encodeChar_of_lt (by decide) hb

theorem length_decodeSide (cs : List Char) :
    (decodeSide (Utf8.encode cs)).toList.length + (Percent.holdsTriple (cs.map unplus)).toNat ≤ cs.length := by
  have hlength := Percent.length_units_le (cs.map unplus) (s := .idle) trivial
  rw [List.length_map, Utf8.State.pending] at hlength
  unfold decodeSide Utf8.decodeLossy
  rw [spaced_encode, String.toList_ofList, List.length_map]
  exact hlength

theorem length_decodeSide_le (cs : List Char) : (decodeSide (Utf8.encode cs)).toList.length ≤ cs.length := by
  have := length_decodeSide cs
  omega

theorem map_unplus_eq_self_iff {cs : List Char} : cs.map unplus = cs ↔ '+' ∉ cs := by
  constructor
  · intro h hm
    rw [← h] at hm
    obtain ⟨c, -, hc⟩ := List.mem_map.1 hm
    unfold unplus at hc
    split at hc
    · exact absurd hc (by decide)
    · rename_i hne
      exact hne hc
  · intro h
    refine (List.map_congr_left fun c hc => ?_).trans (List.map_id' cs)
    exact if_neg (by simpa using Text.bne_of_not_mem h c hc)

theorem decodeSide_of_not_holds {cs : List Char} (h : Percent.holdsTriple (cs.map unplus) = false) :
    decodeSide (Utf8.encode cs) = String.ofList (cs.map unplus) := by
  unfold decodeSide
  rw [spaced_encode, Percent.decode_encode_of_not_holds h, Utf8.decodeLossy_encode]

/-- **When a side that is written as it stands is read as itself**: it holds no triple, or what is read is shorter, and
no plus sign, as a space is read for it. -/
theorem decodeSide_eq_self_iff {s : String} :
    decodeSide (Utf8.encode s.toList) = s ↔ '+' ∉ s.toList ∧ Percent.holdsTriple s.toList = false := by
  rw [← map_unplus_eq_self_iff]
  constructor
  · intro h
    have hnone : Percent.holdsTriple (s.toList.map unplus) = false := by
      have hlength := length_decodeSide s.toList
      rw [h] at hlength
      exact Bool.toNat_eq_zero.1 (by omega)
    have hs : s.toList.map unplus = s.toList := by
      rw [decodeSide_of_not_holds hnone] at h
      have hchars := congrArg String.toList h
      rwa [String.toList_ofList] at hchars
    exact ⟨hs, by rwa [hs] at hnone⟩
  · rintro ⟨hs, hnone⟩
    rw [decodeSide_of_not_holds (by rwa [hs]), hs, String.ofList_toList]

/-! ## One pair -/

/-- A pair as it stands. -/
def raw (q : String × String) : List Char := q.1.toList ++ '=' :: q.2.toList

/-- A side in which nothing has another meaning. -/
def Plain (s : String) : Prop :=
  '&' ∉ s.toList ∧ '#' ∉ s.toList ∧ '+' ∉ s.toList ∧ Percent.holdsTriple s.toList = false

/-- **A pair that comes back as it stands**: both of its sides are plain, and its key holds no equals sign. -/
def Kept (q : String × String) : Prop := '=' ∉ q.1.toList ∧ Plain q.1 ∧ Plain q.2

instance (s : String) : Decidable (Plain s) := by
  unfold Plain
  infer_instance

instance (q : String × String) : Decidable (Kept q) := by
  unfold Kept
  infer_instance

/-- The pairs of a query as a client asks for it: without the fragment. -/
def readRaw (cs : List Char) : List (String × String) := decode (Utf8.encode (Target.dropFragment cs))

/-- Whether a character belongs to a pair: it neither ends it nor begins a fragment. -/
def isInner (c : Char) : Bool := c != '&' && c != '#'

/-- What may follow a pair: nothing or another one. -/
def Ends (m : List Char) : Prop := ∀ c ∈ m.head?, c = '&'

theorem decode_cons_mark (bs : Bytes) : decode (0x26 :: bs) = decode bs := by
  unfold decode
  rw [Text.parts, if_pos rfl]
  rfl

theorem decode_append {p m : List Char} (hp : p ≠ []) (hmark : '&' ∉ p) (hm : Ends m) :
    decode (Utf8.encode (p ++ m)) = decodePair (Utf8.encode p) :: decode (Utf8.encode m) := by
  have hbyte : (0x26 : UInt8) ∉ Utf8.encode p := Utf8.not_mem_encode (c := '&') (by decide) hmark
  have hne : (Utf8.encode p).isEmpty = false := by
    obtain ⟨c, cs, rfl⟩ := List.exists_cons_of_ne_nil hp
    obtain ⟨b, bs, hb, -⟩ := Utf8.exists_encodeChar_cons c
    rw [Utf8.encode_cons, hb]
    rfl
  cases m with
  | nil =>
    rw [List.append_nil]
    unfold decode
    rw [Text.parts_of_not_mem hbyte, List.filter_cons_of_pos (by rw [hne]; rfl)]
    rfl
  | cons c m =>
    obtain rfl : c = '&' := hm c rfl
    rw [Utf8.encode_append, Utf8.encode_cons]
    show decode (Utf8.encode p ++ 0x26 :: Utf8.encode m) = _ :: decode (0x26 :: Utf8.encode m)
    rw [decode_cons_mark]
    unfold decode
    rw [Text.parts_append hbyte, List.filter_cons_of_pos (by rw [hne]; rfl), List.map_cons]

theorem readRaw_cons_mark (m : List Char) : readRaw ('&' :: m) = readRaw m := by
  have hcut : Target.dropFragment ('&' :: m) = '&' :: Target.dropFragment m := List.takeWhile_cons_of_pos (by decide)
  unfold readRaw
  rw [hcut, Utf8.encode_cons]
  exact decode_cons_mark _

theorem readRaw_cons_fragment (m : List Char) : readRaw ('#' :: m) = [] := by
  have hcut : Target.dropFragment ('#' :: m) = [] := List.takeWhile_cons_of_neg (by decide)
  unfold readRaw
  rw [hcut]
  rfl

theorem readRaw_append {p r : List Char} (hp : p ≠ []) (hinner : ∀ c ∈ p, isInner c = true)
    (hr : ∀ c ∈ r.head?, isInner c = false) : readRaw (p ++ r) = decodePair (Utf8.encode p) :: readRaw r := by
  have hcut : Target.dropFragment (p ++ r) = p ++ Target.dropFragment r :=
    List.takeWhile_append_of_pos fun c hc => (Bool.and_eq_true_iff.1 (hinner c hc)).2
  have hmark : '&' ∉ p := fun hm => absurd (hinner '&' hm) (by decide)
  have hends : Ends (Target.dropFragment r) := by
    cases r with
    | nil => exact fun c hc => nomatch hc
    | cons c r =>
      have hc := hr c rfl
      by_cases hf : c = '#'
      · subst hf
        exact fun c hc => nomatch hc
      · intro d hd
        rw [Target.dropFragment, List.takeWhile_cons_of_pos (by simpa using hf)] at hd
        obtain rfl : c = d := Option.some.inj hd
        simpa [isInner, hf] using hc
  unfold readRaw
  rw [hcut, decode_append hp hmark hends]

theorem readRaw_of_part {t : List Char} (h : t.takeWhile isInner ≠ []) :
    readRaw t = decodePair (Utf8.encode (t.takeWhile isInner)) :: readRaw (t.dropWhile isInner) := by
  have hr : ∀ c ∈ (t.dropWhile isInner).head?, isInner c = false := fun c hc => by
    have := List.head?_dropWhile_not isInner t
    rw [Option.mem_def.1 hc] at this
    exact this
  conv => lhs; rw [← List.takeWhile_append_dropWhile (p := isInner) (l := t)]
  exact readRaw_append h (fun c hc => List.mem_takeWhile_imp hc) hr

theorem decodePair_append {k : List Char} (h : '=' ∉ k) (w : List Char) :
    decodePair (Utf8.encode (k ++ '=' :: w)) = (decodeSide (Utf8.encode k), decodeSide (Utf8.encode w)) := by
  have hcut : Text.cut? 0x3D (Utf8.encode (k ++ '=' :: w)) = some (Utf8.encode k, Utf8.encode w) := by
    rw [Utf8.encode_append, Utf8.encode_cons]
    exact Text.cut?_append (Utf8.not_mem_encode (c := '=') (by decide) h)
  unfold decodePair
  rw [hcut]

theorem key_decodePair (p : List Char) :
    (decodePair (Utf8.encode p)).1 = decodeSide (Utf8.encode (p.takeWhile (· != '='))) := by
  by_cases hp : '=' ∈ p
  · obtain ⟨k, w, rfl, hk⟩ := List.eq_append_cons_of_mem hp
    rw [decodePair_append hk, List.takeWhile_append_of_pos (Text.bne_of_not_mem hk),
      List.takeWhile_cons_of_neg (by decide), List.append_nil]
  · have hcut : Text.cut? 0x3D (Utf8.encode p) = none :=
      Text.cut?_of_not_mem (Utf8.not_mem_encode (c := '=') (by decide) hp)
    rw [List.takeWhile_eq_self_iff.2 (Text.bne_of_not_mem hp), decodePair, hcut]

/-- A key that is read from a text before an equals sign is no longer than the text, and as long only if it is read
from the whole of it. -/
def KeyOf (k : List Char) (key : String) : Prop :=
  key.toList.length ≤ k.length ∧
    (key.toList.length = k.length → (∀ c ∈ k, isInner c = true) ∧ '=' ∉ k ∧ key = decodeSide (Utf8.encode k))

theorem keyOf_first {k s : List Char} {q : String × String} {rest : List (String × String)}
    (hne : (k ++ '=' :: s).takeWhile isInner ≠ []) (h : readRaw (k ++ '=' :: s) = q :: rest) : KeyOf k q.1 := by
  have hkey : ((k ++ '=' :: s).takeWhile isInner).takeWhile (· != '=') =
      k.takeWhile fun c => c != '=' && isInner c := by
    rw [List.takeWhile_takeWhile]
    simp only [Bool.decide_and, Bool.decide_eq_true]
    exact Text.takeWhile_append_stop fun c hc => by
      obtain rfl : '=' = c := Option.some.inj hc
      decide
  -- So what is read comes from the start of the text up to its first mark of any kind.
  have hshort := length_decodeSide_le (k.takeWhile fun c => c != '=' && isInner c)
  have hprefix : k.takeWhile (fun c => c != '=' && isInner c) <+: k := List.takeWhile_prefix _
  rw [readRaw_of_part hne] at h
  rw [← (List.cons.inj h).1, key_decodePair, hkey]
  refine ⟨hshort.trans hprefix.length_le, fun hlength => ?_⟩
  have hall := hprefix.eq_of_length (Nat.le_antisymm hprefix.length_le (hlength ▸ hshort))
  have hchars := List.takeWhile_eq_self_iff.1 hall
  refine ⟨fun c hc => (Bool.and_eq_true_iff.1 (hchars c hc)).2, fun hm => ?_, by rw [hall]⟩
  exact absurd (hchars '=' hm) (by decide)

theorem keyOf_readRaw {k s : List Char} {q : String × String} {rest : List (String × String)}
    (h : readRaw (k ++ '=' :: s) = q :: rest) : KeyOf k q.1 := by
  induction k with
  | nil => exact keyOf_first (by simp [isInner]) h
  | cons c k ih =>
    by_cases hmark : c = '&'
    · -- Nothing stands before this mark, so the first pair begins behind it.
      subst hmark
      rw [List.cons_append, readRaw_cons_mark] at h
      have hshort := (ih h).1
      refine ⟨hshort.trans (Nat.le_succ _), fun hlength => ?_⟩
      rw [List.length_cons] at hlength
      omega
    by_cases hfragment : c = '#'
    · subst hfragment
      rw [List.cons_append, readRaw_cons_fragment] at h
      cases h
    have hinner : isInner c = true := by simp [isInner, hmark, hfragment]
    refine keyOf_first ?_ h
    rw [List.cons_append, List.takeWhile_cons_of_pos hinner]
    exact List.cons_ne_nil _ _

/-! ## All pairs -/

theorem plain_iff {s : String} :
    Plain s ↔ (∀ c ∈ s.toList, isInner c = true) ∧ decodeSide (Utf8.encode s.toList) = s := by
  have hinner : (∀ c ∈ s.toList, isInner c = true) ↔ '&' ∉ s.toList ∧ '#' ∉ s.toList := by
    simp only [isInner, Bool.and_eq_true, bne_iff_ne]
    exact ⟨fun h => ⟨fun hm => (h _ hm).1 rfl, fun hm => (h _ hm).2 rfl⟩,
      fun h c hc => ⟨fun e => h.1 (e ▸ hc), fun e => h.2 (e ▸ hc)⟩⟩
  rw [hinner, decodeSide_eq_self_iff, Plain, and_assoc]

theorem isInner_of_mem_raw {q : String × String} (h : Kept q) : ∀ c ∈ raw q, isInner c = true := fun c hc => by
  obtain ⟨-, hk, hv⟩ := h
  rcases List.mem_append.1 hc with hc | hc
  · exact (plain_iff.1 hk).1 c hc
  · rcases List.mem_cons.1 hc with rfl | hc
    · decide
    · exact (plain_iff.1 hv).1 c hc

theorem readRaw_of_kept {q : String × String} (h : Kept q) {m : List Char} (hm : Ends m) :
    readRaw (raw q ++ m) = q :: readRaw m := by
  have hend : ∀ c ∈ m.head?, isInner c = false := fun c hc => by rw [hm c hc]; decide
  have hne : raw q ≠ [] := by simp [raw]
  rw [readRaw_append hne (isInner_of_mem_raw h) hend, raw, decodePair_append h.1, (plain_iff.1 h.2.1).2,
    (plain_iff.1 h.2.2).2]

/-- **Only a plain pair comes back.**  Its key is as long as what was written, so it was read from the whole of it, and
then so is its value. -/
theorem kept_of_readRaw {q : String × String} {m : List Char} {rest : List (String × String)} (hm : Ends m)
    (h : readRaw (raw q ++ m) = q :: rest) : Kept q := by
  have htext : raw q ++ m = q.1.toList ++ '=' :: (q.2.toList ++ m) := by simp [raw]
  rw [htext] at h
  obtain ⟨hinner, hequals, hkey⟩ := (keyOf_readRaw h).2 rfl
  have hend : (q.2.toList ++ m).takeWhile isInner = q.2.toList.takeWhile isInner :=
    Text.takeWhile_append_stop fun c hc => by rw [hm c hc]; decide
  have hpart : (q.1.toList ++ '=' :: (q.2.toList ++ m)).takeWhile isInner =
      q.1.toList ++ '=' :: q.2.toList.takeWhile isInner := by
    rw [List.takeWhile_append_of_pos hinner, List.takeWhile_cons_of_pos (by decide), hend]
  rw [readRaw_of_part (by rw [hpart]; simp), hpart, decodePair_append hequals] at h
  -- The value is read from what stands before its first mark, which is all of it or too short.
  have hvalue : decodeSide (Utf8.encode (q.2.toList.takeWhile isInner)) = q.2 :=
    congrArg Prod.snd (List.cons.inj h).1
  have hprefix : q.2.toList.takeWhile isInner <+: q.2.toList := List.takeWhile_prefix _
  have hall : q.2.toList.takeWhile isInner = q.2.toList := by
    have hshort := length_decodeSide_le (q.2.toList.takeWhile isInner)
    rw [hvalue] at hshort
    exact hprefix.eq_of_length (Nat.le_antisymm hprefix.length_le hshort)
  rw [hall] at hvalue
  exact ⟨hequals, plain_iff.2 ⟨hinner, hkey.symm⟩, plain_iff.2 ⟨List.takeWhile_eq_self_iff.1 hall, hvalue⟩⟩

theorem ends_flatMap (qs : List (String × String)) : Ends (qs.flatMap fun q => '&' :: raw q) := by
  cases qs with
  | nil => exact fun c hc => nomatch hc
  | cons q qs => exact fun c hc => (Option.some.inj hc).symm

/-- **Pairs that are written as they stand come back exactly if all of them are plain.** -/
theorem readRaw_flatMap_iff (qs : List (String × String)) :
    readRaw (qs.flatMap fun q => '&' :: raw q) = qs ↔ ∀ q ∈ qs, Kept q := by
  induction qs with
  | nil => exact iff_of_true rfl fun _ hq => nomatch hq
  | cons q qs ih =>
    have hends := ends_flatMap qs
    rw [List.flatMap_cons, List.cons_append, readRaw_cons_mark, List.forall_mem_cons, ← ih]
    constructor
    · intro h
      have hkept := kept_of_readRaw hends h
      rw [readRaw_of_kept hkept hends] at h
      exact ⟨hkept, (List.cons.inj h).2⟩
    · rintro ⟨hkept, hmore⟩
      rw [readRaw_of_kept hkept hends, hmore]

end Form

end Url
end NodeDesk
