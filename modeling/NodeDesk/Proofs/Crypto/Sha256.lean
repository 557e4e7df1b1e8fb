import Mathlib.Data.List.Basic
import NodeDesk.Crypto.Sha256
/-!
# Sha256 — a digest goes on

The digest of a message is the state that its padded blocks leave behind, and nothing of that state is kept back
(`ofBytes_bytes`).  So whoever knows a digest and the length of its message also knows the digest of every message that
goes on behind the padding (`digest_extended`), without knowing how the message begins.
-/
namespace NodeDesk
namespace Sha256

/-! ## Bytes and words -/

theorem length_bigEndian (count n : Nat) : (bigEndian count n).length = count := by
  induction count with
  | zero => rfl
  | succ count ih => rw [bigEndian, List.length_cons, ih]

theorem digest_ne_nil (message : Bytes) : digest message ≠ [] := List.cons_ne_nil _ _

theorem length_digest (message : Bytes) : (digest message).length = 32 := by
  unfold digest State.bytes
  simp [length_bigEndian]

theorem words_append : ∀ {bs : Bytes} (cs : Bytes), bs.length % 4 = 0 → words (bs ++ cs) = words bs ++ words cs
  | [], _, _ => rfl
  | _ :: _ :: _ :: _ :: bs, cs, h => by
    have hmore : bs.length % 4 = 0 := by
      simp only [List.length_cons] at h
      omega
    simp only [List.cons_append, words, words_append cs hmore]
  | [_], _, h => nomatch h
  | [_, _], _, h => nomatch h
  | [_, _, _], _, h => nomatch h

theorem length_words : ∀ bs : Bytes, (words bs).length = bs.length / 4
  | [] => rfl
  | [_] => by simp [words]
  | [_, _] => by simp [words]
  | [_, _, _] => by simp [words]
  | _ :: _ :: _ :: _ :: bs => by
    rw [words, List.length_cons, length_words bs]
    simp only [List.length_cons]
    omega

/-- **A word is read from its four bytes.** -/
theorem words_bigEndian (w : UInt32) (r : Bytes) : words (bigEndian 4 w.toNat ++ r) = w :: words r := by
  have hlt : w.toNat < 4294967296 := w.toNat_lt
  show UInt32.ofNat _ :: words r = _
  congr 1
  rw [← UInt32.toNat_inj]
  simp only [UInt8.toNat_ofNat', UInt32.toNat_ofNat', Nat.pow_eq]
  omega

/-- The state that a digest was written from. -/
def State.ofBytes (d : Bytes) : State :=
  let word := (words d).getD
  ⟨word 0 0, word 1 0, word 2 0, word 3 0, word 4 0, word 5 0, word 6 0, word 7 0⟩

/-- **A digest is all of its state.** -/
theorem ofBytes_bytes (s : State) : State.ofBytes s.bytes = s := by
  have hbytes : words s.bytes = [s.a, s.b, s.c, s.d, s.e, s.f, s.g, s.h] := by
    unfold State.bytes
    simp only [List.flatMap_cons, List.flatMap_nil, words_bigEndian]
    rfl
  unfold State.ofBytes
  rw [hbytes]
  rfl

/-! ## Blocks -/

/-- Blocks are stirred in one after the other. -/
theorem blocks_append {n : Nat} {s : State} {ws : List UInt32} (h : ws.length = 16 * n) (k : Nat) (vs : List UInt32) :
    blocks (n + k) s (ws ++ vs) = blocks k (blocks n s ws) vs := by
  induction n generalizing s ws with
  | zero =>
    have hws : ws = [] := List.eq_nil_of_length_eq_zero h
    rw [hws, Nat.zero_add, List.nil_append, blocks]
  | succ n ih =>
    have hlong : 16 ≤ ws.length := by omega
    have hrest : (ws.drop 16).length = 16 * n := by
      rw [List.length_drop]
      omega
    rw [Nat.succ_add, blocks, blocks, List.take_append_of_le_length hlong, List.drop_append_of_le_length hlong, ih hrest]

/-- **A padded message is whole blocks.** -/
theorem length_padded (length : Nat) : (length + (padding length).length) % 64 = 0 := by
  unfold padding
  simp only [List.length_append, List.length_cons, List.length_replicate, length_bigEndian]
  omega

/-- **The digest of a message that goes on**, from the digest of the message as it was and its length: what stands
behind the padding is stirred into the state that the digest was written from. -/
def extend (d : Bytes) (length : Nat) (more : Bytes) : Bytes :=
  let ws := words (more ++ padding (length + (padding length).length + more.length))
  (blocks (ws.length / 16) (State.ofBytes d) ws).bytes

/-- **Nobody needs a message to go on with it.** -/
theorem digest_extended (message more : Bytes) :
    digest (message ++ padding message.length ++ more) = extend (digest message) message.length more := by
  let whole := message ++ padding message.length
  let tail := more ++ padding (whole ++ more).length
  have hlength : whole.length = message.length + (padding message.length).length := List.length_append
  have hwhole : whole.length % 64 = 0 := hlength ▸ length_padded message.length
  have hwords : (words whole).length = 16 * (whole.length / 64) := by
    rw [length_words]
    omega
  have hdigest : digest message = (blocks (whole.length / 64) initial (words whole)).bytes := by
    show (blocks ((words whole).length / 16) initial (words whole)).bytes = _
    rw [hwords, Nat.mul_div_cancel_left _ (by decide)]
  have htail : tail = more ++ padding (message.length + (padding message.length).length + more.length) := by
    show more ++ padding (whole ++ more).length = _
    rw [List.length_append, hlength]
  have hcount : (words whole ++ words tail).length / 16 = whole.length / 64 + (words tail).length / 16 := by
    rw [List.length_append, hwords, Nat.mul_add_div (by decide)]
  calc digest (whole ++ more)
      = (blocks ((words (whole ++ tail)).length / 16) initial (words (whole ++ tail))).bytes := by
        unfold digest
        rw [List.append_assoc]
    _ = (blocks ((words tail).length / 16) (blocks (whole.length / 64) initial (words whole)) (words tail)).bytes := by
        rw [words_append tail (by omega), hcount, blocks_append hwords]
    _ = extend (digest message) message.length more := by
        rw [extend, hdigest, ofBytes_bytes, ← htail]

end Sha256
end NodeDesk
