import NodeDesk.Json.Quoted
/-!
# Quoted — strings come back from their quotes

A text between quotes spells units (`Spells`), and the units mean a string (`Means`), which is read from any of its
spellings, whatever follows (`read_spelling`).  A character is written as one unit that means it (`exists_unit`), so a
string is read from what is written of it (`read_written`).
-/
namespace NodeDesk
namespace Json
namespace Quoted

theorem scan_quote (r : List Char) : scan ('"' :: r) = ([], .closed r) := by
  rw [scan.eq_def]
  exact if_pos rfl

theorem scan_escape {e c : Char} (h : escape? e = some c) (r : List Char) :
    scan ('\\' :: e :: r) = push (.char c) (scan r) := by
  have hu : e ≠ 'u' := by
    rintro rfl
    cases h
  rw [scan.eq_def]
  dsimp only
  rw [if_neg (by decide), if_pos rfl, if_neg hu, h]

theorem scan_code {a b c d : Char} {n : Nat} (h : code? a b c d = some n) (r : List Char) :
    scan ('\\' :: 'u' :: a :: b :: c :: d :: r) = push (.code n) (scan r) := by
  rw [scan.eq_def]
  dsimp only
  rw [if_neg (by decide), if_pos rfl, if_pos rfl, h]

theorem scan_char {c : Char} (hq : c ≠ '"') (hs : c ≠ '\\') (hc : ¬c < ' ') (r : List Char) :
    scan (c :: r) = push (.char c) (scan r) := by
  rw [scan.eq_def]
  dsimp only
  rw [if_neg hq, if_neg hs, if_neg hc]

/-- Two digits are enough for a code below the space. -/
theorem code?_hexDigit {n : Nat} (h : n < 32) :
    code? '0' '0' (Text.hexDigit (n / 16)) (Text.hexDigit (n % 16)) = some n := by
  have hall : ∀ n : Fin 32, code? '0' '0' (Text.hexDigit (n.val / 16)) (Text.hexDigit (n.val % 16)) = some n.val := by
    decide
  exact hall ⟨n, h⟩

/-! ## Spelling -/

/-- **A text between quotes is spelled in units**: characters that stand for themselves, letters behind a backslash, and
codes of four digits. -/
inductive Spells : List Char → List Item → Prop
  | nil : Spells [] []
  | plain {c : Char} {cs : List Char} {us : List Item} (quote : c ≠ '"') (slash : c ≠ '\\') (above : ¬c < ' ')
      (more : Spells cs us) : Spells (c :: cs) (.char c :: us)
  | letter {e c : Char} {cs : List Char} {us : List Item} (names : escape? e = some c) (more : Spells cs us) :
      Spells ('\\' :: e :: cs) (.char c :: us)
  | code {x y z w : Char} {n : Nat} {cs : List Char} {us : List Item} (names : code? x y z w = some n)
      (more : Spells cs us) : Spells ('\\' :: 'u' :: x :: y :: z :: w :: cs) (.code n :: us)

/-- **What units stand for.**  A code that is one half of a pair stands for nothing without the other. -/
inductive Means : List Item → List Char → Prop
  | nil : Means [] []
  | char (c : Char) {us : List Item} {s : List Char} (more : Means us s) : Means (.char c :: us) (c :: s)
  | code {n : Nat} {us : List Item} {s : List Char} (low : isLow n = false) (high : isHigh n = false)
      (more : Means us s) : Means (.code n :: us) (Char.ofNat n :: s)
  | pair {n m : Nat} {us : List Item} {s : List Char} (low : isLow n = false) (high : isHigh n = true)
      (other : isLow m = true) (more : Means us s) :
      Means (.code n :: .code m :: us) (Char.ofNat (0x10000 + (n - 0xD800) * 1024 + (m - 0xDC00)) :: s)

/-- **A text between quotes says a string.** -/
def Says (cs : List Char) (s : String) : Prop := ∃ us, Spells cs us ∧ Means us s.toList

theorem scan_of_spells {cs : List Char} {us : List Item} (h : Spells cs us) (rest : List Char) :
    scan (cs ++ '"' :: rest) = (us, .closed rest) := by
  induction h with
  | nil => exact scan_quote rest
  | plain quote slash above more ih =>
    rw [List.cons_append, scan_char quote slash above, ih]
    rfl
  | letter names more ih =>
    rw [List.cons_append, List.cons_append, scan_escape names, ih]
    rfl
  | code names more ih =>
    simp only [List.cons_append]
    rw [scan_code names, ih]
    rfl

theorem join_of_means {us : List Item} {s : List Char} (h : Means us s) (rest : List Char) :
    join (.closed rest) us = .ok s := by
  induction h with
  | nil => rfl
  | char c more ih =>
    rw [join, ih]
    rfl
  | code low high more ih =>
    rw [join.eq_def]
    simp only [low, high, Bool.false_eq_true, if_false, ih]
    rfl
  | pair low high other more ih =>
    rw [join.eq_def]
    simp only [low, high, other, Bool.false_eq_true, if_false, if_true, ih]
    rfl

/-- **A string is read from its spelling**, after the opening quote. -/
theorem read_spelling {cs : List Char} {s : String} (h : Says cs s) (rest : List Char) :
    read (cs ++ '"' :: rest) = .ok (s, rest) := by
  obtain ⟨us, hspells, hmeans⟩ := h
  unfold read
  rw [scan_of_spells hspells]
  simp only [join_of_means hmeans, String.ofList_toList]

/-- Who passes over a string asks for its spelling alone. -/
theorem skip_of_spells {cs : List Char} {us : List Item} (h : Spells cs us) (rest : List Char) :
    skip (cs ++ '"' :: rest) = .ok rest := by
  unfold skip
  rw [scan_of_spells h]

/-- **A character is written as one unit**, whatever follows it. -/
theorem exists_unit (c : Char) : ∃ u : Item, (∀ {cs us}, Spells cs us → Spells (writeChar c ++ cs) (u :: us)) ∧
    ∀ {us s}, Means us s → Means (u :: us) (c :: s) := by
  unfold writeChar
  split
  · exact ⟨_, .letter rfl, .char '"'⟩
  · exact ⟨_, .letter rfl, .char '\\'⟩
  · exact ⟨_, .letter rfl, .char '\x08'⟩
  · exact ⟨_, .letter rfl, .char '\x0C'⟩
  · exact ⟨_, .letter rfl, .char '\n'⟩
  · exact ⟨_, .letter rfl, .char '\r'⟩
  · exact ⟨_, .letter rfl, .char '\t'⟩
  · rename_i hquote hslash _ _ _ _ _
    by_cases hc : c < ' '
    · have hn : c.toNat < 32 := hc
      have hlow : isLow c.toNat = false := by
        simp [isLow]
        omega
      have hhigh : isHigh c.toNat = false := by
        simp [isHigh]
        omega
      have hcode := fun {us s} => @Means.code c.toNat us s hlow hhigh
      rw [Char.ofNat_toNat] at hcode
      rw [if_pos hc]
      exact ⟨.code c.toNat, .code (code?_hexDigit hn), hcode⟩
    · rw [if_neg hc]
      exact ⟨_, .plain hquote hslash hc, .char c⟩

/-- **A written string says that string.** -/
theorem says_written (s : String) : Says (s.toList.flatMap writeChar) s := by
  unfold Says
  induction s.toList with
  | nil => exact ⟨[], .nil, .nil⟩
  | cons c cs ih =>
    obtain ⟨us, hspells, hmeans⟩ := ih
    obtain ⟨u, hu, hc⟩ := exists_unit c
    exact ⟨u :: us, hu hspells, hc hmeans⟩

/-- **A string is read from its text**, after the opening quote. -/
theorem read_written (s : String) (rest : List Char) :
    read (s.toList.flatMap writeChar ++ '"' :: rest) = .ok (s, rest) :=
  read_spelling (says_written s) rest

/-! ## What is written -/

theorem le_of_mem_writeChar {c x : Char} (h : x ∈ writeChar c) : ¬ x < ' ' := by
  have hhex : ∀ n : Fin 16, ¬ Text.hexDigit n.val < ' ' := by decide
  unfold writeChar at h
  split at h
  case h_8 =>
    split at h
    · rename_i hc
      have hn : c.toNat < 32 := hc
      simp only [List.mem_cons, List.not_mem_nil, or_false] at h
      rcases h with rfl | rfl | rfl | rfl | rfl | rfl
      · decide
      · decide
      · decide
      · decide
      · exact hhex ⟨c.toNat / 16, by omega⟩
      · exact hhex ⟨c.toNat % 16, by omega⟩
    · rw [List.mem_singleton.1 h]
      assumption
  -- Every other case is a backslash and the letter that names a character.
  all_goals
    simp only [List.mem_cons, List.not_mem_nil, or_false] at h
    rcases h with rfl | rfl <;> decide

/-- **Nothing below the space stands in a written string**, so no line ends in it. -/
theorem le_of_mem_write {s : String} {c : Char} (h : c ∈ write s) : ¬ c < ' ' := by
  unfold write at h
  rcases List.mem_append.1 h with h | h
  · rcases List.mem_cons.1 h with rfl | h
    · decide
    · obtain ⟨x, -, hx⟩ := List.mem_flatMap.1 h
      exact le_of_mem_writeChar hx
  · rw [List.mem_singleton.1 h]
    decide

end Quoted
end Json
end NodeDesk
