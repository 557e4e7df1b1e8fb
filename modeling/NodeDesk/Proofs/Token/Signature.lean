import Mathlib.Data.List.Basic
import NodeDesk.Proofs.Token.Guard
/-!
# Signature — what a signature is bound to

A signature is the digest of one message, the secret with the time stamp and the nonce behind it.  As long as no two of
these messages collide, it tells the message, and under one secret the message tells the fields (`fields_of_message`):
so accepted tokens can be neither altered nor carried to another secret (`accepted_inj`).  What a message does not tell
is where its secret ends.  A signature made under one secret can therefore be accepted under another, but only if the
longer of the two goes on with what the shorter one's time stamp begins with (`foreign_signature_rejected`).
-/
namespace NodeDesk

namespace Sha256

/-- **Two messages that collide**: they differ, and their digests do not. -/
def Collide (m m' : Bytes) : Prop := m ≠ m' ∧ digest m = digest m'

instance (m m' : Bytes) : Decidable (Collide m m') := inferInstanceAs (Decidable (m ≠ m' ∧ digest m = digest m'))

theorem eq_of_digest_eq {m m' : Bytes} (hc : ¬ Collide m m') (h : digest m = digest m') : m = m' := by
  by_contra hne
  exact hc ⟨hne, h⟩

end Sha256

namespace Token
namespace Guard

/-- What stands behind the secret in a message that is signed. -/
def stamped (issued nonce : List Char) : Bytes := Utf8.encode (issued ++ '.' :: nonce)

/-- The message whose digest signs a time stamp and a nonce. -/
def message (g : Guard) (issued nonce : List Char) : Bytes := g.secret ++ stamped issued nonce

variable {A B g : Guard} {i n i' n' : List Char}

theorem signature_eq : g.signature i n = Base64.encode (Sha256.digest (g.message i n)) := rfl

/-- **A signature tells its message**, unless there is a collision. -/
theorem message_eq_of_signature_eq (hc : ¬ Sha256.Collide (A.message i n) (B.message i' n'))
    (h : A.signature i n = B.signature i' n') : A.message i n = B.message i' n' := by
  rw [signature_eq, signature_eq] at h
  exact Sha256.eq_of_digest_eq hc (Base64.encode_inj h)

/-- **Under one secret a message tells its fields**, of which the first has no point. -/
theorem fields_of_message (hi : '.' ∉ i) (hi' : '.' ∉ i') (h : g.message i n = g.message i' n') :
    i = i' ∧ n = n' := by
  have htext : i ++ '.' :: n = i' ++ '.' :: n' := Utf8.encode_inj (List.append_cancel_left h)
  have hcut := Text.cut?_append (r := n) hi
  rw [htext, Text.cut?_append hi'] at hcut
  cases hcut
  exact ⟨rfl, rfl⟩

/-! ## Accepted tokens -/

theorem signature_of_accepts {token : String} {s : List Char} {now : Calendar.Instant}
    (hf : fields? token.toList = some (i, n, s)) (h : g.accepts token now = true) :
    s = g.signature i n ∧ ∃ seconds, Decimal.readSigned? maxSigned i = .ok seconds := by
  obtain ⟨j, k, seconds, -, hg, hread, -⟩ := (g.accepts_iff now).1 h
  rw [hf] at hg
  cases hg
  exact ⟨rfl, seconds, hread⟩

/-- **An accepted token cannot be altered or carried over.**  Two tokens that a guard accepts are one and the same if
they agree in their time stamp and nonce, or if they agree in their signature, unless two messages collide; and a guard
with another secret does not accept what is accepted here, unless two messages collide. -/
theorem accepted_inj {t t' : String} {now now' : Calendar.Instant} (h : g.accepts t now = true)
    (h' : g.accepts t' now' = true) :
    ∃ i n s i' n' s', fields? t.toList = some (i, n, s) ∧ fields? t'.toList = some (i', n', s') ∧
      (i = i' → n = n' → t = t') ∧
      (¬ Sha256.Collide (g.message i n) (g.message i' n') → s = s' → t = t') ∧
      ∀ other : Guard, other.secret ≠ g.secret → ¬ Sha256.Collide (g.message i n) (other.message i n) →
        ∀ clock, other.accepts t clock = false := by
  obtain ⟨i, n, -, -, hf, -, -⟩ := (g.accepts_iff now).1 h
  obtain ⟨i', n', -, -, hf', -, -⟩ := (g.accepts_iff now').1 h'
  obtain ⟨hi, -, ht⟩ := fields?_eq_some_iff.1 hf
  obtain ⟨hi', -, ht'⟩ := fields?_eq_some_iff.1 hf'
  have hsame : i = i' → n = n' → t = t' := by
    rintro rfl rfl
    exact String.toList_inj.1 (ht.trans ht'.symm)
  refine ⟨i, n, _, i', n', _, hf, hf', hsame, ?_, ?_⟩
  · intro hc hs
    obtain ⟨hii, hnn⟩ := fields_of_message hi hi' (message_eq_of_signature_eq hc hs)
    exact hsame hii hnn
  · intro other hne hc clock
    apply Bool.eq_false_iff.2
    intro hother
    -- The token has its fields once, so what stands behind both secrets is the same.
    have hs := (signature_of_accepts hf hother).1
    exact hne (List.append_cancel_right (message_eq_of_signature_eq hc hs)).symm

/-- Two tokens of one second: their signatures differ, and a guard whose secret is one digit longer rejects the first. -/
theorem accepted_of_two_nonces :
    let g : Guard := ⟨Utf8.encode "key".toList, 3600⟩
    let other : Guard := ⟨Utf8.encode "key0".toList, 3600⟩
    let nonce := fun b => List.replicate 16 b
    let token := fun b => g.issue .epoch (nonce b)
    let signature := fun b => g.signature ['0'] (Base64.encode (nonce b))
    g.accepts (token 0) .epoch = true ∧ g.accepts (token 1) .epoch = true ∧ token 0 ≠ token 1 ∧
      signature 0 ≠ signature 1 ∧ ∀ clock, other.accepts (token 0) clock = false := by
  intro g other nonce token signature
  have haccepts : ∀ b, g.accepts (token b) .epoch = true := fun b =>
    (g.accepts_issue .epoch (show nonce b ≠ [] from List.cons_ne_nil _ _) .epoch).trans (by decide)
  have hfields : ∀ b, fields? (token b).toList = some (['0'], Base64.encode (nonce b), signature b) := fun b =>
    g.fields?_issue .epoch (nonce b)
  have hne : token 0 ≠ token 1 := fun h => by
    have hf := hfields 0
    rw [h, hfields 1] at hf
    simp only [Option.some.injEq, Prod.mk.injEq] at hf
    exact absurd (Base64.encode_inj hf.2.1) (by decide)
  obtain ⟨i, n, s, i', n', s', hf, hf', -, hsignature, hother⟩ := accepted_inj (haccepts 0) (haccepts 1)
  rw [hfields] at hf hf'
  cases hf
  cases hf'
  refine ⟨haccepts 0, haccepts 1, hne, fun hs => hne (hsignature ?_ hs), hother other (by decide) ?_⟩
  · decide +kernel
  · decide +kernel

/-! ## Signatures of another secret -/

/-- **One message under two secrets**: the second secret is the first and some bytes, and the fields under the first are
these bytes and the fields under the second. -/
def Shifted (A B : Guard) (x : Bytes) (i n i' n' : List Char) : Prop :=
  x ≠ [] ∧ B.secret = A.secret ++ x ∧ stamped i n = x ++ stamped i' n'

theorem exists_shifted (hne : A.secret ≠ B.secret) (h : A.message i n = B.message i' n') :
    ∃ x, Shifted A B x i n i' n' ∨ Shifted B A x i' n' i n := by
  have hx : ∀ {a b x : Bytes}, a ≠ b → b = a ++ x → x ≠ [] := by
    rintro a b x hab hb rfl
    exact hab (by rw [hb, List.append_nil])
  rcases List.append_eq_append_iff.1 h with ⟨x, hB, hm⟩ | ⟨x, hA, hm⟩
  · exact ⟨x, .inl ⟨hx hne hB, hB, hm⟩⟩
  · exact ⟨x, .inr ⟨hx hne.symm hA, hA, hm⟩⟩

/-- What a time stamp is written in: digits and signs. -/
def IsStamp (cs : List Char) : Prop := ∀ c ∈ cs, c.isDigit = true ∨ c = '+' ∨ c = '-'

/-- **One time stamp in front of another**: the second secret is the first and some digits and signs, and the time stamp
under the first is these and the time stamp under the second. -/
def Borrows (A B : Guard) (i i' : List Char) : Prop :=
  ∃ cs, cs ≠ [] ∧ IsStamp cs ∧ B.secret = A.secret ++ Utf8.encode cs ∧ i = cs ++ i'

theorem IsStamp.toNat_lt (h : IsStamp i) : ∀ c ∈ i, c.toNat < 0x80 := by
  intro c hc
  rcases h c hc with hd | rfl | rfl
  · have := Utf8.toNat_of_isAlphanum (show c.isAlphanum = true by simp [Char.isAlphanum, hd])
    omega
  · decide
  · decide

theorem IsStamp.point_not_mem (h : IsStamp i) : '.' ∉ i := by
  intro hm
  rcases h '.' hm with h | h | h <;> exact absurd h (by decide)

theorem point_not_mem_utf8 {cs : List Char} (h : '.' ∉ cs) : (0x2E : UInt8) ∉ Utf8.encode cs := by
  intro hb
  obtain ⟨c, hc, hn⟩ := Utf8.exists_mem_of_mem_encode (by decide) hb
  have hpoint : c = '.' := Char.toNat_inj.1 hn
  exact h (hpoint ▸ hc)

/-- **Where the points stand**: fields that are others with some bytes before them have these bytes before the time
stamp, and the nonce is the same. -/
theorem nonce_eq_of_stamped {x : Bytes} (hi : '.' ∉ i) (hn : '.' ∉ n) (h : stamped i n = x ++ stamped i' n') :
    n = n' ∧ Utf8.encode i = x ++ Utf8.encode i' := by
  have hsplit : ∀ j k, stamped j k = Utf8.encode j ++ 0x2E :: Utf8.encode k := fun j k => by
    rw [stamped, Utf8.encode_append, Utf8.encode_cons]
    rfl
  rw [hsplit, hsplit, ← List.append_assoc] at h
  obtain ⟨hstamp, -, hnonce⟩ :=
    (List.append_cons_inj_of_notMem (point_not_mem_utf8 hi) (point_not_mem_utf8 hn)).1 h
  exact ⟨Utf8.encode_inj hnonce, hstamp⟩

theorem borrows_of_shifted {x : Bytes} (h : Shifted A B x i n i' n') (hi : IsStamp i) (hn : '.' ∉ n) :
    n = n' ∧ Borrows A B i i' := by
  obtain ⟨hx, hsecret, hstamped⟩ := h
  obtain ⟨hnonce, hbytes⟩ := nonce_eq_of_stamped hi.point_not_mem hn hstamped
  obtain ⟨cs, rfl, rfl⟩ := Utf8.exists_encode_prefix hi.toNat_lt hbytes
  refine ⟨hnonce, cs, ?_, fun c hc => hi c (List.mem_append_left _ hc), hsecret, rfl⟩
  rintro rfl
  exact hx rfl

/-- **A signature is rejected under another secret.**  Whatever the other fields of a token are, with the signature that
`A` makes of two fields it is rejected by `B` at all times, as long as the two messages do not collide, unless one of
the two secrets is the other and some bytes, and the fields under the shorter one are these bytes and the fields under
the longer one.  If what `A` signs is a time stamp and a nonce, the bytes then are digits and signs which the one time
stamp has in front of the other, and the nonce is the same. -/
theorem foreign_signature_rejected (hne : A.secret ≠ B.secret) {token : String}
    (hf : fields? token.toList = some (i', n', A.signature i n))
    (hc : ¬ Sha256.Collide (A.message i n) (B.message i' n')) :
    (∀ now, B.accepts token now = false) ∨
      (∃ x, Shifted A B x i n i' n' ∨ Shifted B A x i' n' i n) ∧
        (IsStamp i → '.' ∉ n → n' = n ∧ (Borrows A B i i' ∨ Borrows B A i' i)) := by
  by_cases h : ∀ now, B.accepts token now = false
  · exact .inl h
  obtain ⟨now, hnow⟩ := not_forall.1 h
  obtain ⟨hs, seconds, hread⟩ := signature_of_accepts hf (Bool.ne_false_iff.1 hnow)
  obtain ⟨x, hx⟩ := exists_shifted hne (message_eq_of_signature_eq hc hs)
  refine .inr ⟨⟨x, hx⟩, ?_⟩
  intro hi hn
  -- Either time stamp is one: what `A` signs by assumption, what `B` accepts because it has been read.
  rcases hx with hx | hx
  · obtain ⟨hnonce, hb⟩ := borrows_of_shifted hx hi hn
    exact ⟨hnonce.symm, .inl hb⟩
  · obtain ⟨-, hn', -⟩ := fields?_eq_some_iff.1 hf
    obtain ⟨hnonce, hb⟩ := borrows_of_shifted hx (Decimal.mem_of_readSigned? hread) hn'
    exact ⟨hnonce, .inr hb⟩

/-- A foreign token as it is: the guard's own secret is one digit longer, but the time stamp would have to be shorter. -/
theorem foreign_token_rejected :
    let A : Guard := ⟨Utf8.encode "key".toList, 3600⟩
    let B : Guard := ⟨Utf8.encode "key0".toList, 3600⟩
    let nonce := Base64.encode (List.replicate 16 0)
    A.secret ≠ B.secret ∧
      fields? (A.issue .epoch (List.replicate 16 0)).toList = some (['0'], nonce, A.signature ['0'] nonce) ∧
      ¬ Sha256.Collide (A.message ['0'] nonce) (B.message ['0'] nonce) ∧
      ∀ now, B.accepts (A.issue .epoch (List.replicate 16 0)) now = false := by
  intro A B nonce
  have hne : A.secret ≠ B.secret := by decide
  have hf : fields? (A.issue .epoch (List.replicate 16 0)).toList =
      some (['0'], nonce, A.signature ['0'] nonce) := A.fields?_issue .epoch _
  have hc : ¬ Sha256.Collide (A.message ['0'] nonce) (B.message ['0'] nonce) := by decide +kernel
  refine ⟨hne, hf, hc, ?_⟩
  rcases foreign_signature_rejected hne hf hc with h | ⟨-, h⟩
  · exact h
  have hsame : ∀ cs : List Char, cs ≠ [] → ['0'] ≠ cs ++ ['0'] := fun cs hcs h => hcs (List.self_eq_append_left.1 h)
  rcases (h (by simp [IsStamp]) (point_not_mem_encode _)).2 with ⟨cs, hcs, -, -, h⟩ | ⟨cs, hcs, -, -, h⟩
  · exact absurd h (hsame cs hcs)
  · exact absurd h (hsame cs hcs)

/-- **A token is carried over to another secret.**  A token issued under the secret `key0` is accepted under the secret
`key` in the same second, once a zero is put in front of its time stamp: the two messages are the same. -/
theorem token_carried_over :
    let A : Guard := ⟨Utf8.encode "key0".toList, 3600⟩
    let B : Guard := ⟨Utf8.encode "key".toList, 3600⟩
    let now : Calendar.Instant := ⟨1700000000, 0, by decide, by decide, by decide⟩
    let nonce := Base64.encode (List.replicate 16 0)
    let token := A.issue now (List.replicate 16 0)
    A.secret ≠ [] ∧ B.secret ≠ [] ∧ A.secret ≠ B.secret ∧
      A.message "1700000000".toList nonce = B.message "01700000000".toList nonce ∧
      fields? ("0" ++ token).toList =
        some ("01700000000".toList, nonce, A.signature "1700000000".toList nonce) ∧
      B.accepts ("0" ++ token) now = true := by
  intro A B now nonce token
  have hmessage : A.message "1700000000".toList nonce = B.message "01700000000".toList nonce := by decide +kernel
  have hsignature : A.signature "1700000000".toList nonce = B.signature "01700000000".toList nonce := by
    rw [signature_eq, signature_eq, hmessage]
  have hstamp : Decimal.signed 1700000000 = "1700000000".toList := by decide +kernel
  have htoken : token.toList =
      "1700000000".toList ++ '.' :: (nonce ++ '.' :: A.signature "1700000000".toList nonce) := by
    rw [← hstamp]
    exact (fields?_eq_some_iff.1 (A.fields?_issue now _)).2.2
  have hf : fields? ("0" ++ token).toList =
      some ("01700000000".toList, nonce, A.signature "1700000000".toList nonce) := by
    refine fields?_eq_some_iff.2 ⟨by decide +kernel, point_not_mem_encode _, ?_⟩
    rw [String.toList_append, htoken]
    rfl
  refine ⟨by decide, by decide, by decide, hmessage, hf, (B.accepts_iff now).2 ?_⟩
  rw [hf, hsignature]
  exact ⟨_, _, 1700000000, by decide, rfl, by decide +kernel, by decide⟩

end Guard
end Token
end NodeDesk
