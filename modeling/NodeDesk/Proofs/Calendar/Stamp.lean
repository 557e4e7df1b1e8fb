import NodeDesk.Calendar.Stamp
import NodeDesk.Proofs.Calendar.Date
import NodeDesk.Proofs.Except
import NodeDesk.Proofs.Text.Decimal
/-!
# Stamp — an instant comes back from its text

Each part of the text is read as what was written, whatever follows it: a number in its digits (`number_append`), the
year with its sign, the fraction with its zeros.  Then the parts of an instant make that instant again
(`assemble_parts`), a leap second that closes its minute included.  A leap second within a minute has the text of the
second after it (`write_carried`), so what is read from the text of an instant is the instant so carried on
(`read_write`), and just the regular instants come back as they were (`Instant.carried_eq_iff`).
-/
namespace NodeDesk
namespace Calendar
namespace Stamp

open Decimal (digits fixed padded)
open Text (isBlank trimStart)

/-! ## Digits -/

theorem valueOf_eq (ds : List Char) : valueOf ds = Nat.ofDigitChars 10 ds 0 := rfl

theorem valueOf_digits (n : Nat) : valueOf (digits n) = n := by
  rw [valueOf_eq]
  exact Nat.ofDigitChars_ten_toDigits

theorem valueOf_zeros_append (k : Nat) (ds : List Char) : valueOf (List.replicate k '0' ++ ds) = valueOf ds := by
  rw [valueOf_eq, Nat.ofDigitChars_append, Nat.ofDigitChars_replicate_zero, Nat.mul_zero, valueOf_eq]

/-- Digits with zeros before them to a width. -/
theorem padded_zero (width : Nat) (sign ds : List Char) :
    padded .zero width sign ds = sign ++ (List.replicate (width - (sign.length + ds.length)) '0' ++ ds) :=
  List.append_assoc _ _ _

theorem fixed_eq (width n : Nat) : fixed width n = List.replicate (width - (digits n).length) '0' ++ digits n := by
  unfold fixed
  rw [padded_zero, List.nil_append, List.length_nil, Nat.zero_add]

theorem valueOf_fixed (width n : Nat) : valueOf (fixed width n) = n := by
  rw [fixed_eq, valueOf_zeros_append, valueOf_digits]

theorem length_fixed {width n : Nat} (hw : 0 < width) (h : n < 10 ^ width) : (fixed width n).length = width := by
  have hl := Decimal.length_digits_le hw h
  rw [fixed_eq, List.length_append, List.length_replicate]
  omega

theorem isDigit_of_mem_zeros_append {k n : Nat} {c : Char} (h : c ∈ List.replicate k '0' ++ digits n) :
    c.isDigit = true := by
  rcases List.mem_append.1 h with h | h
  · rw [List.eq_of_mem_replicate h]
    rfl
  · exact Decimal.isDigit_of_mem_digits h

theorem isDigit_of_mem_fixed {width n : Nat} {c : Char} (h : c ∈ fixed width n) : c.isDigit = true :=
  isDigit_of_mem_zeros_append (fixed_eq width n ▸ h)

theorem isBlank_of_isDigit {c : Char} (h : c.isDigit = true) : isBlank c = false := by
  have hn : 48 ≤ c.toNat ∧ c.toNat ≤ 57 := by
    simpa [Char.isDigit, UInt32.le_iff_toNat_le] using h
  simp [isBlank]
  omega

/-! ## The parts of a text -/

variable {ds rest : List Char} {width n : Nat}

theorem takeDigits_append (hd : ∀ c ∈ ds, c.isDigit = true) (hw : ds.length ≤ width)
    (hr : ds.length = width ∨ ∀ c ∈ rest.head?, c.isDigit = false) : takeDigits width (ds ++ rest) = (ds, rest) := by
  induction ds generalizing width with
  | nil =>
    cases width with
    | zero => rfl
    | succ k =>
      cases rest with
      | nil => rfl
      | cons c cs =>
        have hc : c.isDigit = false := hr.elim (fun h => nomatch h) fun h => h c rfl
        rw [List.nil_append, takeDigits, if_neg (by simp [hc])]
  | cons d ds ih =>
    cases width with
    | zero => exact absurd hw (Nat.not_succ_le_zero _)
    | succ k =>
      rw [List.cons_append, takeDigits, if_pos (hd d List.mem_cons_self),
        ih (fun c hc => hd c (List.mem_cons_of_mem d hc)) (Nat.le_of_succ_le_succ hw) (hr.imp_left Nat.succ.inj)]

/-- **A number is read from its digits**, if it fills the width or something else follows. -/
theorem number_append (hne : ds ≠ []) (hd : ∀ c ∈ ds, c.isDigit = true) (hw : ds.length ≤ width)
    (hr : ds.length = width ∨ ∀ c ∈ rest.head?, c.isDigit = false) (hv : valueOf ds ≤ maxSigned) :
    number width (ds ++ rest) = .ok (valueOf ds, rest) := by
  obtain ⟨d, ds', rfl⟩ := List.exists_cons_of_ne_nil hne
  have htake := takeDigits_append hd hw hr
  rw [List.cons_append] at htake ⊢
  rw [number, if_pos (hd d List.mem_cons_self), htake]
  exact if_pos hv

theorem number_fixed (hw : 0 < width) (h : n < 10 ^ width) (hv : n ≤ maxSigned) (rest : List Char) :
    number width (fixed width n ++ rest) = .ok (n, rest) := by
  have hl := length_fixed hw h
  have hne : fixed width n ≠ [] := List.ne_nil_of_length_pos (by omega)
  have hread : number width (fixed width n ++ rest) = .ok (valueOf (fixed width n), rest) :=
    number_append hne (fun _ => isDigit_of_mem_fixed) (Nat.le_of_eq hl) (.inl hl) (by rwa [valueOf_fixed])
  rwa [valueOf_fixed] at hread

/-- A text that begins with a character that is not blank has nothing to trim. -/
theorem trimStart_of_head {cs : List Char} (h : ∀ c ∈ cs.head?, isBlank c = false) : trimStart cs = cs := by
  cases cs with
  | nil => rfl
  | cons c cs =>
    unfold trimStart
    rw [List.dropWhile_cons_of_neg (by simp [h c rfl])]

theorem trimStart_fixed (hw : 0 < width) (h : n < 10 ^ width) (rest : List Char) :
    trimStart (fixed width n ++ rest) = fixed width n ++ rest := by
  apply trimStart_of_head
  intro c hc
  have hl := length_fixed hw h
  have hne : fixed width n ≠ [] := List.ne_nil_of_length_pos (by omega)
  obtain ⟨d, ds, hds⟩ := List.exists_cons_of_ne_nil hne
  rw [hds] at hc
  cases hc
  exact isBlank_of_isDigit (isDigit_of_mem_fixed (hds ▸ List.mem_cons_self))

/-- **A part of a date or a time of day is read from its two digits.** -/
theorem part_fixed {low high : Nat} (hl : low ≤ n) (hh : n ≤ high) (h : high < 100) (rest : List Char) :
    part low high (fixed 2 n ++ rest) = .ok (n, rest) := by
  have hn : n < 10 ^ 2 := by omega
  have hm : n ≤ maxSigned := Nat.le_trans (show n ≤ 99 by omega) (by decide)
  unfold part
  rw [trimStart_fixed (by omega) hn, number_fixed (by omega) hn hm]
  exact if_pos ⟨hl, hh⟩

theorem mark_cons {m : Char} (h : isBlank m = false) (rest : List Char) : mark m (m :: rest) = .ok rest := by
  unfold mark
  rw [trimStart_of_head (by simpa using h)]
  exact if_pos rfl

theorem trimStart_year (y : Int) (rest : List Char) : trimStart (year .zero y ++ rest) = year .zero y ++ rest := by
  unfold year
  by_cases hy : 0 ≤ y ∧ y ≤ 9999
  · rw [if_pos hy]
    exact trimStart_fixed (by omega) (show y.natAbs < 10 ^ 4 by omega) rest
  · rw [if_neg hy, padded_zero]
    apply trimStart_of_head
    by_cases hneg : y < 0 <;> simp [hneg, isBlank]

theorem readYear_of_isDigit {d : Char} (h : d.isDigit = true) (cs : List Char) :
    readYear (d :: cs) = (number 4 (d :: cs)).bind fun p => readYear.inRange p.1 p.2 := by
  rw [readYear]
  · rfl
  · intro r hr
    rw [(List.cons.inj hr).1] at h
    cases h
  · intro r hr
    rw [(List.cons.inj hr).1] at h
    cases h

/-- **A year is read from its text**: four digits, or a sign and as many as there are. -/
theorem readYear_year {y : Int} (h : y.natAbs ≤ 2147483647) {c : Char} (hc : c.isDigit = false) (rest : List Char) :
    readYear (year .zero y ++ c :: rest) = .ok (y, c :: rest) := by
  have hmax : y.natAbs ≤ maxSigned := Nat.le_trans h (by decide)
  have hrange : -2147483648 ≤ y ∧ y ≤ 2147483647 := by omega
  unfold year
  by_cases hy : 0 ≤ y ∧ y ≤ 9999
  · -- No sign: the first character is a digit.
    have hn : y.natAbs < 10 ^ 4 := by omega
    have hread := number_fixed (by omega) hn hmax (c :: rest)
    have hyear : padded .zero 4 [] (digits y.natAbs) = fixed 4 y.natAbs := rfl
    rw [if_pos hy, hyear]
    obtain ⟨d, ds, hds⟩ : ∃ d ds, fixed 4 y.natAbs = d :: ds :=
      List.exists_cons_of_ne_nil (List.ne_nil_of_length_pos (by rw [length_fixed (by omega) hn]; omega))
    have hd : d.isDigit = true := isDigit_of_mem_fixed (hds ▸ List.mem_cons_self)
    rw [hds] at hread ⊢
    rw [List.cons_append] at hread ⊢
    rw [readYear_of_isDigit hd, hread]
    show readYear.inRange (y.natAbs : Int) (c :: rest) = _
    rw [Int.natAbs_of_nonneg hy.1]
    exact if_pos hrange
  · rw [if_neg hy, padded_zero]
    generalize hk : 5 - ([if y < 0 then '-' else '+'].length + (digits y.natAbs).length) = k
    have hread : number (List.replicate k '0' ++ digits y.natAbs ++ c :: rest).length
        (List.replicate k '0' ++ digits y.natAbs ++ c :: rest) = .ok (y.natAbs, c :: rest) := by
      have hv : valueOf (List.replicate k '0' ++ digits y.natAbs) = y.natAbs := by
        rw [valueOf_zeros_append, valueOf_digits]
      rw [number_append (List.append_ne_nil_of_right_ne_nil _ (Decimal.digits_ne_nil _))
        (fun _ => isDigit_of_mem_zeros_append) (by simp) (.inr (by simpa using hc)) (by rwa [hv]), hv]
    by_cases hneg : y < 0
    · rw [if_pos hneg, List.append_assoc, List.singleton_append, readYear, hread]
      show readYear.inRange (-(y.natAbs : Int)) (c :: rest) = _
      rw [Int.ofNat_natAbs_of_nonpos (by omega), Int.neg_neg]
      exact if_pos hrange
    · rw [if_neg hneg, List.append_assoc, List.singleton_append, readYear, hread]
      show readYear.inRange (y.natAbs : Int) (c :: rest) = _
      rw [Int.natAbs_of_nonneg (by omega)]
      exact if_pos hrange

/-- Digits after a point, which count from the left. -/
theorem readFraction_fixed (hw : 0 < width) (hw9 : width ≤ 9) (h : n < 10 ^ width) {c : Char}
    (hc : c.isDigit = false) (rest : List Char) :
    readFraction ('.' :: fixed width n ++ c :: rest) = .ok (n * 10 ^ (9 - width), c :: rest) := by
  have hl := length_fixed hw h
  have hr : (fixed width n).length = 9 ∨ ∀ x ∈ (c :: rest).head?, x.isDigit = false := .inr (by simpa using hc)
  have hmax : valueOf (fixed width n) ≤ maxSigned := by
    rw [valueOf_fixed]
    calc n ≤ 10 ^ width := Nat.le_of_lt h
      _ ≤ 10 ^ 9 := Nat.pow_le_pow_right (by omega) hw9
      _ ≤ maxSigned := by decide
  have hnumber := number_append (List.ne_nil_of_length_pos (by omega)) (fun _ => isDigit_of_mem_fixed)
    (by rw [hl]; exact hw9) hr hmax
  have htake := takeDigits_append (fun _ => isDigit_of_mem_fixed) (by rw [hl]; exact hw9) hr
  rw [List.cons_append, readFraction, hnumber, htake]
  show Except.ok (valueOf (fixed width n) * 10 ^ (9 - (fixed width n).length), (c :: rest).dropWhile Char.isDigit) = _
  rw [valueOf_fixed, hl, List.dropWhile_cons_of_neg (by simp [hc])]

/-- **The fraction of a second is read from its text**, however many groups of digits it takes. -/
theorem readFraction_fraction (h : n < 1000000000) {c : Char} (hc : c.isDigit = false) (hp : c ≠ '.')
    (rest : List Char) : readFraction (fraction n ++ c :: rest) = .ok (n, c :: rest) := by
  unfold fraction
  by_cases h0 : n = 0
  · rw [if_pos h0, h0, List.nil_append, readFraction]
    exact fun r hr => hp (List.cons.inj hr).1
  rw [if_neg h0]
  by_cases h6 : n % 1000000 = 0
  · rw [if_pos h6, readFraction_fixed (by omega) (by omega) (by omega) hc]
    congr 2
    omega
  rw [if_neg h6]
  by_cases h3 : n % 1000 = 0
  · rw [if_pos h3, readFraction_fixed (by omega) (by omega) (by omega) hc]
    congr 2
    omega
  · rw [if_neg h3, readFraction_fixed (by omega) (by omega) (by omega) hc]
    congr 2
    omega

/-! ## The instant -/

variable {t : Instant}

theorem of?_self (h : t.Regular) : Instant.of? t.seconds t.nanos = some t := by
  unfold Instant.of?
  rw [dif_pos ⟨t.firstSecond_le, t.le_lastSecond, t.nanos_lt⟩]
  exact if_pos h

/-- A leap second at the end of a minute is written as a sixtieth second, and stands for the second before it with a full
second more. -/
theorem second_eq (h : t.Regular) : (if t.second = 60 then (59, t.subsecond + 1000000000) else (t.second, t.subsecond)) =
    (t.secondOfDay % 60, t.nanos) := by
  have hlt := t.nanos_lt
  have hsecond : t.second = t.secondOfDay % 60 + t.nanos / 1000000000 := rfl
  have hsub : t.subsecond = t.nanos % 1000000000 := rfl
  by_cases hn : 1000000000 ≤ t.nanos
  · have h59 : t.secondOfDay % 60 = 59 := by
      have := h hn
      unfold Instant.secondOfDay
      omega
    rw [if_pos (by omega), h59, hsub]
    congr 1
    omega
  · rw [if_neg (by omega), hsecond, hsub, Nat.div_eq_of_lt (by omega), Nat.add_zero,
      Nat.mod_eq_of_lt (show t.nanos < 1000000000 by omega)]

/-- The seconds of an instant by its day and its time of day. -/
theorem seconds_eq : t.seconds / 86400 * 86400 + (t.hour : Int) * 3600 + (t.minute : Int) * 60 +
    (t.secondOfDay % 60 : Nat) - 0 = t.seconds := by
  simp only [Instant.hour, Instant.minute, Instant.secondOfDay]
  omega

/-- **The parts of an instant make that instant**, a leap second at the end of a minute included. -/
theorem assemble_parts (h : t.Regular) : assemble t.date t.hour t.minute t.second t.subsecond 0 = .ok t := by
  have hdays : t.date.toDays = t.seconds / 86400 := Date.toDays_ofDays _
  have hbounds : ¬(t.seconds / 86400 * 86400 < firstSecond ∨ lastSecond < t.seconds / 86400 * 86400) := by
    have hfirst := t.firstSecond_le
    have hlast := t.le_lastSecond
    unfold firstSecond lastSecond at *
    omega
  unfold assemble
  simp only [hdays]
  rw [if_neg (not_not_intro (show t.date.Valid from Date.valid_ofDays _)), if_neg hbounds, if_neg (by decide), second_eq h]
  dsimp only
  rw [seconds_eq, of?_self h]

theorem natAbs_year_le : t.date.year.natAbs ≤ 2147483647 := by
  have hfirst := t.firstSecond_le
  have hlast := t.le_lastSecond
  unfold firstSecond at hfirst
  unfold lastSecond at hlast
  have hy := Date.year_ofDays (n := t.seconds / 86400) (k := 1000000) (by omega)
  show (Date.ofDays (t.seconds / 86400)).year.natAbs ≤ _
  omega

theorem day_le : t.date.day ≤ 31 := by
  obtain ⟨-, -, -, hday⟩ : t.date.Valid := Date.valid_ofDays _
  unfold daysInMonth at hday
  split at hday <;> split at hday <;> omega

theorem second_le : t.second ≤ 60 := by
  have hlt := t.nanos_lt
  unfold Instant.second Instant.secondOfDay
  omega

/-- **A regular instant is read from its text.** -/
theorem read_write_of_regular (h : t.Regular) : read (write t) = .ok t := by
  obtain ⟨hmonth, hmonth', hday, -⟩ : t.date.Valid := Date.valid_ofDays _
  have hhour : t.hour ≤ 23 := by
    unfold Instant.hour Instant.secondOfDay
    omega
  have hminute : t.minute ≤ 59 := Nat.le_of_lt_succ (Nat.mod_lt _ (by decide))
  have hsub : t.subsecond < 1000000000 := Nat.mod_lt _ (by decide)
  have hT : (∀ r, mark '-' ('-' :: r) = .ok r) ∧ ∀ r, mark ':' (':' :: r) = .ok r :=
    ⟨mark_cons (by decide), mark_cons (by decide)⟩
  have hzone : readZone (trimStart ['Z']) = .ok (0, []) := by decide
  unfold read write writeIn
  simp only [List.append_assoc, List.cons_append, List.nil_append, bind, Except.bind, trimStart_year,
    readYear_year natAbs_year_le (show '-'.isDigit = false by decide), hT.1, hT.2,
    part_fixed hmonth hmonth' (by decide), part_fixed hday day_le (by decide),
    part_fixed (Nat.zero_le _) hhour (by decide), part_fixed (Nat.zero_le _) hminute (by decide),
    part_fixed (Nat.zero_le _) second_le (by decide),
    readFraction_fraction hsub (show 'Z'.isDigit = false by decide) (by decide), hzone, true_or, if_true]
  exact assemble_parts h

end Stamp

/-! ## Leap seconds within a minute -/

namespace Instant

variable {t : Instant}

theorem regular_of_of? {seconds : Int} {nanos : Nat} (h : of? seconds nanos = some t) : t.Regular := by
  unfold of? at h
  split at h
  · dsimp only at h
    split at h
    · rename_i hregular
      cases h
      exact hregular
    · cases h
  · cases h

/-- The calendar ends with a minute, so a leap second within a minute has a second after it. -/
theorem succ_le_lastSecond (h : ¬ t.Regular) : t.seconds + 1 ≤ lastSecond := by
  have hlast := t.le_lastSecond
  unfold Regular at h
  unfold lastSecond at *
  omega

/-- The instant that the text of an instant tells: a leap second within a minute is told as the second after it. -/
def carried (t : Instant) : Instant :=
  if h : t.Regular then t
  else ⟨t.seconds + 1, t.nanos - 1000000000, Int.le_trans t.firstSecond_le (Int.le_add_of_nonneg_right (by decide)),
    succ_le_lastSecond h, Nat.lt_of_le_of_lt (Nat.sub_le _ _) t.nanos_lt⟩

theorem carried_of_regular (h : t.Regular) : t.carried = t := dif_pos h

theorem seconds_carried (h : ¬ t.Regular) : t.carried.seconds = t.seconds + 1 := by
  unfold carried
  rw [dif_neg h]

theorem nanos_carried (h : ¬ t.Regular) : t.carried.nanos = t.nanos - 1000000000 := by
  unfold carried
  rw [dif_neg h]

theorem carried_eq_iff : t.carried = t ↔ t.Regular := by
  refine ⟨fun he => ?_, carried_of_regular⟩
  by_contra h
  have hs := seconds_carried h
  rw [he] at hs
  omega

theorem regular_carried : t.carried.Regular := by
  by_cases h : t.Regular
  · rwa [carried_of_regular h]
  · intro hn
    have hlt := t.nanos_lt
    rw [nanos_carried h] at hn
    omega

end Instant

namespace Stamp

/-- **A leap second within a minute has the text of the second after it.** -/
theorem write_carried (t : Instant) : write t.carried = write t := by
  by_cases h : t.Regular
  · rw [Instant.carried_of_regular h]
  have hs := Instant.seconds_carried h
  have hn := Instant.nanos_carried h
  have hlt := t.nanos_lt
  unfold Instant.Regular at h
  have hleap : 1000000000 ≤ t.nanos := by omega
  have hday : t.carried.secondOfDay = t.secondOfDay + 1 := by
    unfold Instant.secondOfDay
    omega
  have hwithin : t.secondOfDay % 60 ≠ 59 := by
    unfold Instant.secondOfDay
    omega
  have hdate : t.carried.date = t.date := by
    unfold Instant.date
    rw [hs, show (t.seconds + 1) / 86400 = t.seconds / 86400 by omega]
  have hhour : t.carried.hour = t.hour := by
    unfold Instant.hour
    omega
  have hminute : t.carried.minute = t.minute := by
    unfold Instant.minute
    omega
  have hsecond : t.carried.second = t.second := by
    unfold Instant.second
    omega
  have hsub : t.carried.subsecond = t.subsecond := by
    unfold Instant.subsecond
    omega
  unfold write writeIn
  rw [hdate, hhour, hminute, hsecond, hsub]

/-- **What is read from the text of an instant** is the instant, a leap second within a minute carried on. -/
theorem read_write (t : Instant) : read (write t) = .ok t.carried := by
  rw [← write_carried]
  exact read_write_of_regular Instant.regular_carried

theorem regular_of_assemble {d : Date} {hour minute second nanos : Nat} {offset : Int} {t : Instant}
    (h : assemble d hour minute second nanos offset = .ok t) : t.Regular := by
  unfold assemble at h
  dsimp only at h
  split_ifs at h
  all_goals
    split at h
    · cases h
      exact Instant.regular_of_of? ‹_›
    · cases h

/-- **No text tells a leap second within a minute.** -/
theorem regular_of_read {cs : List Char} {t : Instant} (h : read cs = .ok t) : t.Regular := by
  unfold read at h
  simp only [bind_eq_ok_iff] at h
  obtain ⟨_, -, _, -, _, -, _, -, _, -, h⟩ := h
  split at h
  · obtain ⟨_, ⟨⟩, -⟩ := bind_eq_ok_iff.1 h
  split at h
  · simp only [bind_eq_ok_iff] at h
    obtain ⟨_, -, _, -, _, -, _, -, _, -, _, -, _, -, _, -, h⟩ := h
    split at h
    · exact regular_of_assemble h
    · cases h
  · obtain ⟨_, ⟨⟩, -⟩ := bind_eq_ok_iff.1 h

end Stamp
end Calendar
end NodeDesk
