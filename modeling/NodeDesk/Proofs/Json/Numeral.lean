import NodeDesk.Json.Reader
import NodeDesk.Proofs.Calendar.Stamp
/-!
# Numeral — numbers by their texts

The text of a number is a sign, whole digits, a fraction and an exponent, of which all but the whole digits may be
missing (`IsText`).  Each part ends where nothing that follows could belong to it, so a number is passed over
whatever its value is (`skip_of_isText`), and an integer is read from its digits (`read_digits`, `read_negative`).
-/
namespace NodeDesk
namespace Json
namespace Numeral

/-- Digits, of which there is one at least. -/
def Digits (ds : List Char) : Prop := ds ≠ [] ∧ ∀ c ∈ ds, c.isDigit = true

/-- Zero alone, or digits that do not begin with zero. -/
def Whole (ds : List Char) : Prop := Digits ds ∧ ∀ r, ds = '0' :: r → r = []

/-- A point and digits, or nothing. -/
inductive Fraction : List Char → Prop
  | absent : Fraction []
  | digits {ds : List Char} (h : Digits ds) : Fraction ('.' :: ds)

/-- A letter `e` with a sign, or none, and digits, or nothing. -/
inductive Exponent : List Char → Prop
  | absent : Exponent []
  | digits {e : Char} {sign ds : List Char} (letter : e = 'e' ∨ e = 'E') (signs : sign = [] ∨ sign = ['+'] ∨ sign = ['-'])
      (h : Digits ds) : Exponent (e :: (sign ++ ds))

/-- **The text of a number**, after its minus sign if it has one. -/
def IsText (cs : List Char) : Prop := ∃ w f e, Whole w ∧ Fraction f ∧ Exponent e ∧ cs = w ++ (f ++ e)

theorem IsText.exists_digit {cs : List Char} (h : IsText cs) : ∃ d ds, cs = d :: ds ∧ d.isDigit = true := by
  obtain ⟨w, f, e, ⟨⟨hne, hdigits⟩, -⟩, -, -, rfl⟩ := h
  obtain ⟨d, ds, rfl⟩ := List.exists_cons_of_ne_nil hne
  exact ⟨d, _, rfl, hdigits d List.mem_cons_self⟩

/-- What cannot go on with a number. -/
def Ends (rest : List Char) : Prop :=
  ∀ c ∈ rest.head?, c.isDigit = false ∧ c ≠ '.' ∧ c ≠ 'e' ∧ c ≠ 'E'

variable {ds rest : List Char}

theorem digits_append (h : Digits ds) (hrest : ∀ c ∈ rest.head?, c.isDigit = false) :
    digits (ds ++ rest) = .ok (ds, rest) := by
  have htake : (ds ++ rest).takeWhile Char.isDigit = ds := by
    rw [List.takeWhile_append_of_pos h.2]
    cases rest with
    | nil => simp
    | cons c r => rw [List.takeWhile_cons_of_neg (by simp [hrest c rfl]), List.append_nil]
  have hdrop : (ds ++ rest).dropWhile Char.isDigit = rest := by
    rw [List.dropWhile_append_of_pos h.2]
    cases rest with
    | nil => rfl
    | cons c r => rw [List.dropWhile_cons_of_neg (by simp [hrest c rfl])]
  unfold digits
  rw [htake]
  split
  · exact absurd rfl h.1
  · exact absurd rfl h.1
  · rw [hdrop]

theorem scanWhole_append (h : Whole ds) (hrest : ∀ c ∈ rest.head?, c.isDigit = false) :
    scanWhole (ds ++ rest) = .ok (ds, rest) := by
  unfold scanWhole
  rw [digits_append h.1 hrest]
  simp only [bind, Except.bind]
  split
  · cases h.2 _ rfl
  · rfl

theorem scanFraction_of_ne (h : ∀ c ∈ rest.head?, c ≠ '.') : scanFraction rest = .ok (none, rest) := by
  unfold scanFraction
  split
  · exact absurd rfl (h '.' rfl)
  · rfl

/-- **A fraction ends where no digit follows.** -/
theorem scanFraction_append {f : List Char} (h : Fraction f)
    (hrest : ∀ c ∈ rest.head?, c.isDigit = false ∧ c ≠ '.') : ∃ x, scanFraction (f ++ rest) = .ok (x, rest) := by
  cases h with
  | absent => exact ⟨none, scanFraction_of_ne fun c hc => (hrest c hc).2⟩
  | @digits ds hds =>
    refine ⟨some ds, ?_⟩
    rw [List.cons_append, scanFraction, digits_append hds fun c hc => (hrest c hc).1]
    rfl

theorem scanSign_append {sign : List Char} (h : sign = [] ∨ sign = ['+'] ∨ sign = ['-']) (hds : Digits ds)
    (rest : List Char) : ∃ negative, scanSign (sign ++ (ds ++ rest)) = (negative, ds ++ rest) := by
  obtain ⟨d, ds', rfl⟩ := List.exists_cons_of_ne_nil hds.1
  have hd := hds.2 d List.mem_cons_self
  rcases h with rfl | rfl | rfl
  · refine ⟨false, ?_⟩
    unfold scanSign
    split
    · rename_i heq
      rw [(List.cons.inj heq).1] at hd
      cases hd
    · rename_i heq
      rw [(List.cons.inj heq).1] at hd
      cases hd
    · rfl
  · exact ⟨false, rfl⟩
  · exact ⟨true, rfl⟩

theorem scanExponent_of_ends (hrest : Ends rest) : scanExponent rest = .ok (none, rest) := by
  cases rest with
  | nil => rfl
  | cons c r =>
    obtain ⟨-, -, he, hE⟩ := hrest c rfl
    rw [scanExponent, if_neg (by simp [he, hE])]

/-- **An exponent ends where no digit follows.** -/
theorem scanExponent_append {e : List Char} (h : Exponent e) (hrest : Ends rest) :
    ∃ x, scanExponent (e ++ rest) = .ok (x, rest) := by
  cases h with
  | absent => exact ⟨none, scanExponent_of_ends hrest⟩
  | @digits e sign ds letter signs hds =>
    obtain ⟨negative, hsign⟩ := scanSign_append signs hds rest
    refine ⟨some (negative, ds), ?_⟩
    rw [List.cons_append, List.append_assoc, scanExponent, if_pos letter]
    dsimp only
    rw [hsign, digits_append hds fun c hc => (hrest c hc).1]
    rfl

/-- **The parts of a number are told apart** by what each begins with. -/
theorem scan_append {cs : List Char} (h : IsText cs) (hrest : Ends rest) (negative : Bool) :
    ∃ x, scan negative (cs ++ rest) = .ok (x, rest) := by
  obtain ⟨w, f, e, hw, hf, he, rfl⟩ := h
  have hexponent : ∀ c ∈ (e ++ rest).head?, c.isDigit = false ∧ c ≠ '.' := by
    cases he with
    | absent => exact fun c hc => ⟨(hrest c hc).1, (hrest c hc).2.1⟩
    | digits letter signs hds =>
      intro c hc
      cases hc
      rcases letter with rfl | rfl <;> decide
  have hfraction : ∀ c ∈ (f ++ (e ++ rest)).head?, c.isDigit = false := by
    cases hf with
    | absent => exact fun c hc => (hexponent c hc).1
    | digits hds =>
      intro c hc
      cases hc
      rfl
  obtain ⟨x, hx⟩ := scanFraction_append hf hexponent
  obtain ⟨y, hy⟩ := scanExponent_append he hrest
  unfold scan
  rw [List.append_assoc, List.append_assoc, scanWhole_append hw hfraction]
  simp only [bind, Except.bind, hx, hy]
  exact ⟨_, rfl⟩

theorem skip_of_isText {cs : List Char} (h : IsText cs) (hrest : Ends rest) : skip (cs ++ rest) = .ok rest := by
  obtain ⟨x, hx⟩ := scan_append h hrest false
  unfold skip
  rw [hx]

/-! ## Integers -/

theorem whole_digits (n : Nat) : Whole (Decimal.digits n) := by
  refine ⟨⟨Decimal.digits_ne_nil n, fun c => Decimal.isDigit_of_mem_digits⟩, fun r hr => ?_⟩
  induction n using Nat.strongRecOn generalizing r with
  | ind n ih =>
    by_cases hn : n < 10
    · rw [Decimal.digits_of_lt hn] at hr
      exact (List.cons.inj hr).2.symm
    · -- The digits before the last one begin with zero only if they are zero, and then there would be none of them.
      rw [Decimal.digits_of_le (by omega)] at hr
      obtain ⟨d, ds, hds⟩ := List.exists_cons_of_ne_nil (Decimal.digits_ne_nil (n / 10))
      rw [hds, List.cons_append] at hr
      obtain ⟨rfl, -⟩ := List.cons.inj hr
      have hzero : ds = [] := ih (n / 10) (by omega) ds hds
      rw [hzero] at hds
      have hdiv : n / 10 = 0 := Decimal.digits_inj hds
      omega

theorem valueOf_digits (n : Nat) : valueOf (Decimal.digits n) = n := Calendar.Stamp.valueOf_digits n

theorem scan_digits (hrest : Ends rest) (negative : Bool) (n : Nat) :
    scan negative (Decimal.digits n ++ rest) = .ok (⟨negative, Decimal.digits n, none, none⟩, rest) := by
  unfold scan
  rw [scanWhole_append (whole_digits n) fun c hc => (hrest c hc).1]
  simp only [bind, Except.bind, scanFraction_of_ne fun c hc => (hrest c hc).2.1, scanExponent_of_ends hrest]

/-- **A number is read from its digits**, as far as a word can hold it. -/
theorem read_digits (hrest : Ends rest) {n : Nat} (h : n ≤ maxWord) :
    Numeral.read false (Decimal.digits n ++ rest) = .ok (.integer n, rest) := by
  have hvalue : value? ⟨false, Decimal.digits n, none, none⟩ = .ok (.integer n) := by
    unfold value?
    dsimp only
    rw [valueOf_digits]
    exact if_pos ⟨rfl, rfl, nofun, h⟩
  unfold read
  simp only [scan_digits hrest, hvalue]
  rfl

/-- **A number below zero is read from its digits**, as far as a signed word can hold it. -/
theorem read_negative (hrest : Ends rest) {n : Nat} (hpos : 0 < n) (h : n ≤ maxSigned + 1) :
    Numeral.read true (Decimal.digits n ++ rest) = .ok (.integer (-(n : Int)), rest) := by
  have hvalue : value? ⟨true, Decimal.digits n, none, none⟩ = .ok (.integer (-(n : Int))) := by
    unfold value?
    dsimp only
    rw [valueOf_digits, if_neg fun hn => hn.2.2.1 rfl]
    exact if_pos ⟨rfl, rfl, rfl, hpos, h⟩
  unfold read
  simp only [scan_digits hrest, hvalue]
  rfl

end Numeral
end Json
end NodeDesk
