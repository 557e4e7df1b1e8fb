import NodeDesk.Proofs.Crypto.Sha256
import NodeDesk.Proofs.Text.Base64
import NodeDesk.Proofs.Text.Cut
import NodeDesk.Proofs.Text.Decimal
import NodeDesk.Proofs.Text.Utf8
import NodeDesk.Token.Guard
/-!
# Guard — when a token is accepted

A token is accepted if its signature is the one of its other two fields and its time stamp is fresh (`accepts_iff`).
The three fields of a token that was issued are read from it as they were put in, since none of them holds a point, and
its signature is the one that is looked for.  So whether it is accepted is decided by its age alone (`accepts_issue`,
`lifetime_of_issue`), and that never wraps around (`age_seconds`), as the age of a forged time stamp may.
-/
namespace NodeDesk

namespace Token
namespace Guard

variable (g : Guard) (now : Calendar.Instant) (nonce : Bytes)

theorem signature_ne_nil (issued nonce : List Char) : g.signature issued nonce ≠ [] :=
  Base64.encode_ne_nil (Sha256.digest_ne_nil _)

theorem point_not_mem_encode (bs : Bytes) : '.' ∉ Base64.encode bs := fun h => by
  rcases Base64.mem_encode h with h | h | h
  · exact absurd h (by decide)
  · exact absurd h (by decide)
  · exact absurd h (by decide)

theorem point_not_mem_signed (i : Int) : '.' ∉ Decimal.signed i := fun h => by
  rcases Decimal.mem_signed h with h | h
  · exact absurd h (by decide)
  · exact absurd h (by decide)

/-! ## Tokens that are accepted -/

/-- **The fields of a token** are all there is in it: two without a point, and what follows the second point. -/
theorem fields?_eq_some_iff {token issued nonce signature : List Char} :
    fields? token = some (issued, nonce, signature) ↔
      '.' ∉ issued ∧ '.' ∉ nonce ∧ token = issued ++ '.' :: (nonce ++ '.' :: signature) := by
  unfold fields?
  constructor
  · intro h
    obtain ⟨⟨i, rest⟩, hi, h⟩ := Option.bind_eq_some_iff.1 h
    obtain ⟨⟨n, s⟩, hn, h⟩ := Option.bind_eq_some_iff.1 h
    cases h
    obtain ⟨hissued, rfl⟩ := Text.cut?_eq_some_iff.1 hi
    obtain ⟨hnonce, rfl⟩ := Text.cut?_eq_some_iff.1 hn
    exact ⟨hissued, hnonce, rfl⟩
  · rintro ⟨hissued, hnonce, rfl⟩
    refine Option.bind_eq_some_iff.2 ⟨_, Text.cut?_append hissued, ?_⟩
    exact Option.bind_eq_some_iff.2 ⟨_, Text.cut?_append hnonce, rfl⟩

theorem fresh_iff {age : Int} : g.fresh age = true ↔ -60 ≤ age ∧ age ≤ g.maxAge := by
  unfold fresh
  rw [Bool.and_eq_true, decide_eq_true_iff, decide_eq_true_iff]
  rfl

/-- **When a token is accepted**: its signature is that of its time stamp and its nonce, and the time stamp is a number
that is fresh. -/
theorem accepts_iff {token : String} :
    g.accepts token now = true ↔
      ∃ issued nonce seconds, nonce ≠ [] ∧
        fields? token.toList = some (issued, nonce, g.signature issued nonce) ∧
        Decimal.readSigned? maxSigned issued = .ok seconds ∧ g.fresh (age now seconds) = true := by
  unfold accepts
  constructor
  · intro h
    cases hf : fields? token.toList with
    | none => rw [hf] at h; cases h
    | some f =>
      obtain ⟨issued, nonce, signature⟩ := f
      rw [hf] at h
      simp only [Bool.and_eq_true, Bool.not_eq_true', List.isEmpty_eq_false_iff, beq_iff_eq] at h
      obtain ⟨⟨⟨⟨-, hnonce⟩, -⟩, rfl⟩, h⟩ := h
      cases hr : Decimal.readSigned? maxSigned issued with
      | error f => rw [hr] at h; cases h
      | ok seconds =>
        rw [hr] at h
        exact ⟨issued, nonce, seconds, hnonce, rfl, hr, h⟩
  · rintro ⟨issued, nonce, seconds, hnonce, hf, hr, hfresh⟩
    have hissued : issued ≠ [] := by
      rintro rfl
      cases hr
    have hsignature := g.signature_ne_nil issued nonce
    simp [hf, hr, hfresh, hissued, hnonce, hsignature]

/-! ## Tokens that were issued -/

/-- **The fields of a token are read as they were put in.** -/
theorem fields?_issue :
    fields? (g.issue now nonce).toList =
      some (Decimal.signed now.seconds, Base64.encode nonce,
        g.signature (Decimal.signed now.seconds) (Base64.encode nonce)) := by
  refine fields?_eq_some_iff.2 ⟨point_not_mem_signed now.seconds, point_not_mem_encode nonce, ?_⟩
  rw [issue, String.toList_ofList]
  simp [issueChars]

theorem seconds_bounds : -8334601228800 ≤ now.seconds ∧ now.seconds ≤ 8210266876799 :=
  ⟨now.firstSecond_le, now.le_lastSecond⟩

theorem readSigned?_seconds : Decimal.readSigned? maxSigned (Decimal.signed now.seconds) = .ok now.seconds := by
  have hnow := seconds_bounds now
  have hmax : maxSigned = 9223372036854775807 := rfl
  exact Decimal.readSigned?_signed (by omega) (by omega)

/-- **The age of a time stamp that fits a word** is the difference to the clock, with a turn of the word more or less
where that does not fit. -/
theorem age_eq {issued : Int} (hlow : -9223372036854775808 ≤ issued) (hhigh : issued ≤ 9223372036854775807) :
    age now issued =
      if now.seconds - issued < -9223372036854775808 then now.seconds - issued + 18446744073709551616
      else if 9223372036854775807 < now.seconds - issued then now.seconds - issued - 18446744073709551616
      else now.seconds - issued := by
  have hnow := seconds_bounds now
  unfold age
  rw [Int.bmod_def]
  split_ifs <;> omega

/-- A time stamp that is far ahead of the clock may so count as old. -/
example : age ⟨-2, 0, by decide, by decide, by decide⟩ 9223372036854775807 = 9223372036854775807 := by decide

/-- No two instants are so far apart that the age of a token wraps around. -/
theorem age_seconds (later : Calendar.Instant) : age later now.seconds = later.seconds - now.seconds := by
  have hnow := seconds_bounds now
  have hlater := seconds_bounds later
  rw [age_eq later (by omega) (by omega), if_neg (by omega), if_neg (by omega)]

/-- **A token that was issued is accepted by its age**, whatever the secret and the nonce are. -/
theorem accepts_issue {nonce : Bytes} (h : nonce ≠ []) (later : Calendar.Instant) :
    g.accepts (g.issue now nonce) later = g.fresh (later.seconds - now.seconds) := by
  rw [Bool.eq_iff_iff, accepts_iff, ← age_seconds]
  constructor
  · rintro ⟨issued, n, seconds, -, hf, hr, hfresh⟩
    rw [fields?_issue] at hf
    cases hf
    rw [readSigned?_seconds] at hr
    cases hr
    exact hfresh
  · intro hfresh
    exact ⟨_, _, _, Base64.encode_ne_nil h, g.fields?_issue now nonce, readSigned?_seconds now, hfresh⟩

/-- **What a token is written in**: letters, digits, minus signs, underscores and points. -/
theorem mem_issueChars {c : Char} (h : c ∈ g.issueChars now nonce) :
    c.isAlphanum = true ∨ c = '-' ∨ c = '_' ∨ c = '.' := by
  have hcode : ∀ bs, c ∈ Base64.encode bs → c.isAlphanum = true ∨ c = '-' ∨ c = '_' ∨ c = '.' := fun bs hc =>
    (Base64.mem_encode hc).imp id fun h => h.imp id .inl
  unfold issueChars at h
  simp only [List.mem_append, List.mem_cons, or_assoc] at h
  rcases h with h | h | h | h | h
  · rcases Decimal.mem_signed h with h | h
    · exact .inl (by simp [Char.isAlphanum, h])
    · exact .inr (.inl h)
  · exact .inr (.inr (.inr h))
  · exact hcode _ h
  · exact .inr (.inr (.inr h))
  · exact hcode _ h

theorem issue_ne_empty : g.issue now nonce ≠ "" := fun h => by
  have hl : g.issueChars now nonce = [] := by simpa [issue] using congrArg String.toList h
  unfold issueChars at hl
  simp at hl

/-- **A token lives in its window.**  It is the second of its issue as a decimal number, a nonce of 22 letters and a
signature of 43, with two points between them and no others; and it is accepted from a minute before that second up to
the end of its lifetime and at no other time, whatever the secret and its sixteen random bytes are. -/
theorem lifetime_of_issue (h : nonce.length = 16) :
    (∃ n s, (g.issue now nonce).toList = (toString now.seconds).toList ++ '.' :: (n ++ '.' :: s) ∧
      n.length = 22 ∧ s.length = 43 ∧ (∀ c ∈ n ++ s, c.isAlphanum = true ∨ c = '-' ∨ c = '_')) ∧
    ((toString now.seconds).toList.head? = some '-' ↔ now.seconds < 0) ∧
    (g.issue now nonce).toList.count '.' = 2 ∧
    ∀ later : Calendar.Instant, g.accepts (g.issue now nonce) later = true ↔
      -60 ≤ later.seconds - now.seconds ∧ later.seconds - now.seconds ≤ g.maxAge := by
  have hissue : (g.issue now nonce).toList = Decimal.signed now.seconds ++ '.' :: (Base64.encode nonce ++
      '.' :: g.signature (Decimal.signed now.seconds) (Base64.encode nonce)) :=
    (fields?_eq_some_iff.1 (g.fields?_issue now nonce)).2.2
  have hne : nonce ≠ [] := by
    rintro rfl
    cases h
  rw [← Decimal.signed_eq_toList, hissue]
  refine ⟨⟨_, _, rfl, ?_, ?_, ?_⟩, Decimal.head?_signed, ?_, fun later => ?_⟩
  · rw [Base64.length_encode, h]
  · rw [signature, Base64.length_encode, Sha256.length_digest]
  · intro c hc
    exact (List.mem_append.1 hc).elim Base64.mem_encode Base64.mem_encode
  · have hstamp := List.count_eq_zero.2 (point_not_mem_signed now.seconds)
    have hnonce := List.count_eq_zero.2 (point_not_mem_encode nonce)
    have hsignature : (g.signature (Decimal.signed now.seconds) (Base64.encode nonce)).count '.' = 0 :=
      List.count_eq_zero.2 (point_not_mem_encode _)
    simp only [List.count_append, List.count_cons_self, hstamp, hnonce, hsignature]
  · rw [g.accepts_issue now hne, fresh_iff]

/-- A token from before 1970 that lives ten seconds, at both ends of its window and just outside. -/
theorem lifetime_before_epoch :
    let g : Guard := ⟨Utf8.encode "secret".toList, 10⟩
    let moment (seconds : Int) (h : -99 ≤ seconds ∧ seconds ≤ 99) : Calendar.Instant :=
      ⟨seconds, 500000000, Int.le_trans (by decide) h.1, Int.le_trans h.2 (by decide), by decide⟩
    let token := g.issue (moment (-5) (by decide)) (List.replicate 16 0)
    (∃ n s, token.toList = '-' :: '5' :: '.' :: (n ++ '.' :: s) ∧ n.length = 22 ∧ s.length = 43) ∧
      g.accepts token (moment (-65) (by decide)) = true ∧ g.accepts token (moment (-66) (by decide)) = false ∧
      g.accepts token (moment 5 (by decide)) = true ∧ g.accepts token (moment 6 (by decide)) = false := by
  intro g moment token
  obtain ⟨⟨n, s, htoken, hn, hs, -⟩, -, -, hwindow⟩ :=
    g.lifetime_of_issue (moment (-5) (by decide)) (List.replicate 16 0) rfl
  have hstamp : (toString (-5 : Int)).toList = ['-', '5'] := by decide +kernel
  refine ⟨⟨n, s, htoken.trans (congrArg (· ++ _) hstamp), hn, hs⟩, (hwindow _).2 (by decide), ?_,
    (hwindow _).2 (by decide), ?_⟩
  · exact Bool.eq_false_iff.2 fun h => absurd ((hwindow _).1 h) (by decide)
  · exact Bool.eq_false_iff.2 fun h => absurd ((hwindow _).1 h) (by decide)

end Guard
end Token
end NodeDesk
