import NodeDesk.Calendar.Date
/-!
# Date — days and dates determine each other

The day that lies `n` days after the epoch is a day of the calendar (`valid_ofDays`), and it lies `n` days after the
epoch (`toDays_ofDays`).
-/
namespace NodeDesk
namespace Calendar
namespace Date

/-- The cycles that have passed since the first of March of the year 0: four centuries, a century, four years, a year,
and the days since then.  A year of 366 days closes its four years, and a century that has one closes its four
centuries. -/
theorem exists_cycles (n : Int) : ∃ era century quad single : Int, ∃ dayOfYear : Nat,
    n + epochShift = 146097 * era + 36524 * century + 1461 * quad + 365 * single + dayOfYear ∧
    (0 ≤ century ∧ century ≤ 3) ∧ (0 ≤ quad ∧ quad ≤ 24) ∧ (0 ≤ single ∧ single ≤ 3) ∧ dayOfYear ≤ 365 ∧
    (dayOfYear = 365 → single = 3 ∧ (quad = 24 → century = 3)) ∧
    ofDays n =
      let y := 400 * era + 100 * century + 4 * quad + single
      let m := (5 * dayOfYear + 2) / 153
      let day := dayOfYear - (153 * m + 2) / 5 + 1
      if m < 10 then ⟨y, m + 3, day⟩ else ⟨y + 1, m - 9, day⟩ := by
  let z := n + epochShift
  let r := z % 146097
  let century := min (r / 36524) 3
  let r' := r - 36524 * century
  let single := min (r' % 1461 / 365) 3
  have hz : z = 146097 * (z / 146097) + r := (Int.mul_ediv_add_emod z 146097).symm
  have hr : 0 ≤ r ∧ r < 146097 := by omega
  have hc : 0 ≤ century ∧ century ≤ 3 ∧ 0 ≤ r' ∧ r' ≤ 36524 ∧ (r' = 36524 → century = 3) := by omega
  have hq : r' = 1461 * (r' / 1461) + r' % 1461 := (Int.mul_ediv_add_emod r' 1461).symm
  have hs : 0 ≤ single ∧ single ≤ 3 ∧ 0 ≤ r' % 1461 - 365 * single ∧ r' % 1461 - 365 * single ≤ 365 ∧
      (r' % 1461 - 365 * single = 365 → single = 3 ∧ r' % 1461 = 1460) := by omega
  refine ⟨z / 146097, century, r' / 1461, single, (r' % 1461 - 365 * single).toNat, ?_, ⟨hc.1, hc.2.1⟩, ?_,
    ⟨hs.1, hs.2.1⟩, ?_, fun h => ?_, rfl⟩
  · show z = _
    have hcentury : r = 36524 * century + r' := by omega
    omega
  · omega
  · omega
  · have hlast := hs.2.2.2.2 (by omega)
    exact ⟨hlast.1, fun hquad => hc.2.2.2.2 (by omega)⟩

/-- The leap days before the first of March of a year. -/
theorem leapDays {era century quad single : Int} (hc : 0 ≤ century ∧ century ≤ 3) (hq : 0 ≤ quad ∧ quad ≤ 24)
    (hs : 0 ≤ single ∧ single ≤ 3) :
    let y := 400 * era + 100 * century + 4 * quad + single
    y / 4 = 100 * era + 25 * century + quad ∧ y / 100 = 4 * era + century ∧ y / 400 = era := by
  intro y
  refine ⟨?_, ?_, ?_⟩ <;> omega

/-- **A number of days is that of its date.** -/
theorem toDays_ofDays (n : Int) : (ofDays n).toDays = n := by
  obtain ⟨era, century, quad, single, doy, hn, hc, hq, hs, hd, -, hdate⟩ := exists_cycles n
  obtain ⟨h4, h100, h400⟩ := @leapDays era century quad single hc hq hs
  rw [hdate]
  -- From January on the year is the next one already, and counts as the one before again.
  by_cases hm : (5 * doy + 2) / 153 < 10
  · simp only [if_pos hm, toDays]
    rw [if_neg (by omega), if_neg (by omega), h4, h100, h400]
    omega
  · simp only [if_neg hm, toDays]
    rw [if_pos (by omega), if_pos (by omega), Int.add_sub_cancel, h4, h100, h400]
    omega

/-- **The date of a number of days is a day of the calendar.** -/
theorem valid_ofDays (n : Int) : (ofDays n).Valid := by
  obtain ⟨era, century, quad, single, doy, -, hc, hq, hs, hd, hlast, hdate⟩ := exists_cycles n
  rw [hdate]
  by_cases hm : (5 * doy + 2) / 153 < 10
  · simp only [if_pos hm, Valid, daysInMonth]
    refine ⟨by omega, by omega, by omega, ?_⟩
    rw [if_neg (by omega)]
    split <;> omega
  · simp only [if_neg hm, Valid, daysInMonth]
    refine ⟨by omega, by omega, by omega, ?_⟩
    by_cases hfeb : (5 * doy + 2) / 153 - 9 = 2
    · rw [if_pos hfeb]
      by_cases h29 : doy = 365
      · have hleap : isLeapYear (400 * era + 100 * century + 4 * quad + single + 1) = true := by
          obtain ⟨rfl, hcentury⟩ := hlast h29
          simp only [isLeapYear, Bool.and_eq_true, Bool.or_eq_true, beq_iff_eq, bne_iff_ne]
          omega
        rw [if_pos hleap]
        omega
      · split <;> omega
    · rw [if_neg hfeb]
      split <;> omega

/-- A year has 365 days at least. -/
theorem year_ofDays {n : Int} {k : Nat} (h : n.natAbs ≤ 365 * k) :
    -(k : Int) - 2000 ≤ (ofDays n).year ∧ (ofDays n).year ≤ k + 2000 := by
  obtain ⟨era, century, quad, single, doy, hn, hc, hq, hs, hd, -, hdate⟩ := exists_cycles n
  rw [epochShift] at hn
  rw [hdate]
  by_cases hm : (5 * doy + 2) / 153 < 10
  · simp only [if_pos hm]
    omega
  · simp only [if_neg hm]
    omega

end Date
end Calendar
end NodeDesk
