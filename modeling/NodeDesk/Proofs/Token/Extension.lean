import NodeDesk.Proofs.Token.Signature
/-!
# Extension — no token goes on behind another one

The message of a signature begins with the secret, so the digest of every longer message that goes on behind the padding
is known to whoever sees the signature and knows how long the secret is.  None of these messages is that of a token: the
padding begins with a byte that no character begins with, and the fields of a token are text.
-/
namespace NodeDesk
namespace Token
namespace Guard

/-- What a message goes on to behind the secret: its fields, its padding and whatever follows. -/
def extended (g : Guard) (i n : List Char) (more : Bytes) : Bytes :=
  stamped i n ++ Sha256.padding (g.message i n).length ++ more

variable {g : Guard} {i n i' n' : List Char} {more : Bytes}

/-- The digest of a message that goes on needs no secret. -/
theorem extend_digest_message :
    Sha256.extend (Sha256.digest (g.message i n)) (g.message i n).length more =
      Sha256.digest (g.secret ++ g.extended i n more) := by
  have hmessage : g.secret ++ g.extended i n more =
      g.message i n ++ Sha256.padding (g.message i n).length ++ more := by
    simp [extended, message]
  rw [hmessage, Sha256.digest_extended]

/-- **The fields of no token go on behind the padding of others.** -/
theorem stamped_ne_extended : stamped i' n' ≠ g.extended i n more := by
  intro h
  have hpadding : g.extended i n more = stamped i n ++ 0x80 :: ((Sha256.padding (g.message i n).length).tail ++ more) := by
    simp [extended, Sha256.padding]
  rw [hpadding] at h
  exact Utf8.encode_append_ne (by decide) _ h.symm

theorem collide_of_signature_eq
    (h : g.signature i' n' = Base64.encode (Sha256.digest (g.secret ++ g.extended i n more))) :
    Sha256.Collide (g.message i' n') (g.secret ++ g.extended i n more) :=
  ⟨fun hm => stamped_ne_extended (List.append_cancel_left hm), Base64.encode_inj h⟩

/-- **A seen signature forges none.**  Whatever the secret is, the signature of an issued token gives the digest of its
message, and this gives the digest of the message that goes on behind the padding with any bytes.  But the fields of no
text that is brought as a token are what that message has behind the secret; so that digest is the signature of a token
only if the two messages collide, and else every token that carries it is rejected. -/
theorem extension_of_issue (g : Guard) (now : Calendar.Instant) (nonce more : Bytes) :
    ∃ i n s, fields? (g.issue now nonce).toList = some (i, n, s) ∧
      s = Base64.encode (Sha256.digest (g.message i n)) ∧
      let forged := Sha256.extend (Sha256.digest (g.message i n)) (g.message i n).length more
      forged = Sha256.digest (g.secret ++ g.extended i n more) ∧
      ∀ (token : String) (i' n' s' : List Char), fields? token.toList = some (i', n', s') →
        stamped i' n' ≠ g.extended i n more ∧
        (g.signature i' n' = Base64.encode forged →
          Sha256.Collide (g.message i' n') (g.secret ++ g.extended i n more)) ∧
        (¬ Sha256.Collide (g.message i' n') (g.secret ++ g.extended i n more) → s' = Base64.encode forged →
          ∀ clock, g.accepts token clock = false) := by
  refine ⟨_, _, _, g.fields?_issue now nonce, rfl, ?_⟩
  intro forged
  have hforged : forged = _ := extend_digest_message
  refine ⟨hforged, fun token i' n' s' hf => ⟨stamped_ne_extended, fun hs => ?_, fun hc hs clock => ?_⟩⟩
  · rw [hforged] at hs
    exact collide_of_signature_eq hs
  · apply Bool.eq_false_iff.2
    intro haccepts
    have hsignature := (signature_of_accepts hf haccepts).1
    rw [hs, hforged] at hsignature
    exact hc (collide_of_signature_eq hsignature.symm)

/-- A token that carries the digest of a message gone on with: it is another second's, with a short nonce. -/
theorem extension_rejected :
    let g : Guard := ⟨Utf8.encode "key".toList, 3600⟩
    let message := g.message ['0'] (Base64.encode (List.replicate 16 0))
    let forged := Base64.encode (Sha256.extend (Sha256.digest message) message.length [0x2E, 0x78])
    fields? (String.ofList ('1' :: '.' :: 'x' :: '.' :: forged)).toList = some (['1'], ['x'], forged) ∧
      ¬ Sha256.Collide (g.message ['1'] ['x'])
        (g.secret ++ g.extended ['0'] (Base64.encode (List.replicate 16 0)) [0x2E, 0x78]) ∧
      ∀ clock, g.accepts (String.ofList ('1' :: '.' :: 'x' :: '.' :: forged)) clock = false := by
  intro g message forged
  have hf : fields? (String.ofList ('1' :: '.' :: 'x' :: '.' :: forged)).toList = some (['1'], ['x'], forged) := by
    rw [String.toList_ofList]
    exact fields?_eq_some_iff.2 ⟨by decide, by decide, rfl⟩
  have hc : ¬ Sha256.Collide (g.message ['1'] ['x'])
      (g.secret ++ g.extended ['0'] (Base64.encode (List.replicate 16 0)) [0x2E, 0x78]) := by
    decide +kernel
  obtain ⟨i, n, s, hissue, -, -, h⟩ :=
    g.extension_of_issue .epoch (List.replicate 16 0) [0x2E, 0x78]
  rw [fields?_issue] at hissue
  cases hissue
  exact ⟨hf, hc, (h _ _ _ _ hf).2.2 hc rfl⟩

end Guard
end Token
end NodeDesk
