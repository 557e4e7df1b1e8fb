import NodeDesk.Calendar.Style
import NodeDesk.Proofs.Calendar.Stamp
import NodeDesk.Proofs.Text.Cut
/-!
# Style — a shown date tells its minute

The date, the hour and the minute of an instant are read back from its text in each of the three built-in conventions
(`readBack_formatChars`).  Nothing else of the instant is shown, so two instants have the same text exactly if they
are in the same minute (`format_eq_iff_minutes`).
-/
namespace NodeDesk
namespace Calendar
namespace DateStyle

open Stamp (Fault Reader mark number part readYear valueOf)
open Text (isBlank trimStart)

/-! ## Reading a shown date -/

/-- The names of the months in American texts. -/
def pressNames : List (List Char) := (List.range 12).map fun i => (pressMonth (i + 1)).toList

/-- The names of the months in British texts. -/
def shortNames : List (List Char) := monthNames.map fun name => name.toList.take 3

/-- Reads the name of a month up to the space after it, as the number of the month. -/
def month (names : List (List Char)) : Reader Nat := fun cs =>
  match Text.cut? ' ' cs with
  | none => .error .tooShort
  | some (name, r) =>
    match names.findIdx? (· == name) with
    | none => .error .invalid
    | some i => .ok (i + 1, r)

/-- Reads which half of the day it is: whether it is the second. -/
def half (cs : List Char) : Except Fault Bool :=
  match trimStart cs with
  | ['A', 'M'] => .ok false
  | ['P', 'M'] => .ok true
  | _ => .error .invalid

/-- **Reads a date, an hour and a minute** as one of the built-in conventions shows them. -/
def readBack (style : DateStyle) (cs : List Char) : Except Fault (Date × Nat × Nat) :=
  match style with
  | .iso => do
    let (year, r) ← readYear cs
    let (month, r) ← part 1 12 (← mark '-' r)
    let (day, r) ← part 1 31 (← mark '-' r)
    let (hour, r) ← part 0 23 r
    let (minute, _) ← part 0 59 (← mark ':' r)
    return (⟨year, month, day⟩, hour, minute)
  | .enUs => do
    let (month, r) ← month pressNames cs
    let (day, r) ← part 1 31 r
    let (year, r) ← readYear (trimStart (← mark ',' r))
    let (hour, r) ← part 1 12 (← mark ',' r)
    let (minute, r) ← part 0 59 (← mark ':' r)
    let afternoon ← half r
    return (⟨year, month, day⟩, hour % 12 + (if afternoon then 12 else 0), minute)
  | .enGb => do
    let (day, r) ← part 1 31 cs
    let (month, r) ← month shortNames (r.drop 1)
    let (year, r) ← readYear r
    let (hour, r) ← part 0 23 (← mark ',' r)
    let (minute, _) ← part 0 59 (← mark ':' r)
    return (⟨year, month, day⟩, hour, minute)
  | .custom _ => .error .invalid

/-! ## Parts of a text -/

variable {pad : Decimal.Pad} {n low high : Nat} {rest : List Char}

/-- Below 100 a number is one or two digits, unless spaces are put before it. -/
theorem two_spec (hpad : pad ≠ .space) (h : n < 100) :
    Field.two pad n ≠ [] ∧ (∀ c ∈ Field.two pad n, c.isDigit = true) ∧ (Field.two pad n).length ≤ 2 ∧
      valueOf (Field.two pad n) = n := by
  have hbare : ∀ n : Fin 100, Field.two .bare n ≠ [] ∧ (Field.two .bare n).all Char.isDigit = true ∧
      (Field.two .bare n).length ≤ 2 ∧ valueOf (Field.two .bare n) = n := by decide
  have hzero : ∀ n : Fin 100, Field.two .zero n ≠ [] ∧ (Field.two .zero n).all Char.isDigit = true ∧
      (Field.two .zero n).length ≤ 2 ∧ valueOf (Field.two .zero n) = n := by decide
  rw [← List.all_eq_true]
  cases pad with
  | bare => exact hbare ⟨n, h⟩
  | zero => exact hzero ⟨n, h⟩
  | space => exact absurd rfl hpad

theorem trimStart_space (cs : List Char) : trimStart (' ' :: cs) = trimStart cs := rfl

theorem trimStart_two (hpad : pad ≠ .space) (h : n < 100) (rest : List Char) :
    trimStart (Field.two pad n ++ rest) = Field.two pad n ++ rest := by
  obtain ⟨hne, hdigits, -, -⟩ := two_spec hpad h
  obtain ⟨d, ds, hds⟩ := List.exists_cons_of_ne_nil hne
  refine Stamp.trimStart_of_head fun c hc => ?_
  rw [hds] at hc hdigits
  cases hc
  exact Stamp.isBlank_of_isDigit (hdigits d List.mem_cons_self)

/-- **A part of a shown date is read from its one or two digits**, if something else follows. -/
theorem part_two (hpad : pad ≠ .space) (hl : low ≤ n) (hh : n ≤ high) (h : high < 100)
    (hrest : ∀ c ∈ rest.head?, c.isDigit = false) : part low high (Field.two pad n ++ rest) = .ok (n, rest) := by
  have hn : n < 100 := Nat.lt_of_le_of_lt hh h
  obtain ⟨hne, hdigits, hlength, hvalue⟩ := two_spec hpad hn
  have hmax : n ≤ maxSigned := Nat.le_trans (Nat.le_of_lt hn) (by decide)
  have hread : number 2 (Field.two pad n ++ rest) = .ok (valueOf (Field.two pad n), rest) :=
    Stamp.number_append hne hdigits hlength (.inr hrest) (by rwa [hvalue])
  unfold part
  rw [trimStart_two hpad hn, hread, hvalue]
  exact if_pos ⟨hl, hh⟩

theorem part_two_cons (hpad : pad ≠ .space) (hl : low ≤ n) (hh : n ≤ high) (h : high < 100) {c : Char}
    (hc : c.isDigit = false) (rest : List Char) :
    part low high (Field.two pad n ++ c :: rest) = .ok (n, c :: rest) :=
  part_two hpad hl hh h (by simpa using hc)

theorem part_space (low high : Nat) (cs : List Char) : part low high (' ' :: cs) = part low high cs := rfl

theorem month_name {names : List (List Char)} {name : List Char} {i : Nat} (hspace : ' ' ∉ name)
    (hfind : names.findIdx? (· == name) = some i) (rest : List Char) :
    month names (name ++ ' ' :: rest) = .ok (i + 1, rest) := by
  unfold month
  rw [Text.cut?_append hspace]
  simp only [hfind]

theorem month_press (h : 1 ≤ n) (h' : n ≤ 12) (rest : List Char) :
    month pressNames ((pressMonth n).toList ++ ' ' :: rest) = .ok (n, rest) := by
  have hall : ∀ i : Fin 12, ' ' ∉ (pressMonth (i.val + 1)).toList ∧
      pressNames.findIdx? (· == (pressMonth (i.val + 1)).toList) = some i.val := by decide
  obtain ⟨i, rfl⟩ := Nat.exists_eq_add_of_le' h
  obtain ⟨hspace, hfind⟩ := hall ⟨i, by omega⟩
  exact month_name hspace hfind rest

theorem month_short (h : 1 ≤ n) (h' : n ≤ 12) (rest : List Char) :
    month shortNames ((Item.nameAt monthNames (n - 1)).take 3 ++ ' ' :: rest) = .ok (n, rest) := by
  have hall : ∀ i : Fin 12, ' ' ∉ (Item.nameAt monthNames i.val).take 3 ∧
      shortNames.findIdx? (· == (Item.nameAt monthNames i.val).take 3) = some i.val := by decide
  obtain ⟨i, rfl⟩ := Nat.exists_eq_add_of_le' h
  obtain ⟨hspace, hfind⟩ := hall ⟨i, by omega⟩
  exact month_name hspace hfind rest

/-! ## Whole texts -/

variable (t : Instant)

theorem hour_lt : t.hour < 24 := by
  unfold Instant.hour Instant.secondOfDay
  omega

theorem minute_lt : t.minute < 60 := Nat.mod_lt _ (by decide)

theorem hour12_spec :
    1 ≤ t.hour12 ∧ t.hour12 ≤ 12 ∧ t.hour12 % 12 + (if t.isAfternoon = true then 12 else 0) = t.hour := by
  have hlt := hour_lt t
  unfold Instant.hour12 Instant.isAfternoon
  simp only [decide_eq_true_eq]
  split <;> split <;> omega

theorem half_meridiem : half (' ' :: Item.write t (.meridiem true)) = .ok t.isAfternoon := by
  unfold Item.write
  cases t.isAfternoon <;> rfl

theorem formatChars_iso : formatChars .iso t =
    Stamp.year .zero t.date.year ++ '-' :: (Field.two .zero t.date.month ++ '-' :: (Field.two .zero t.date.day ++
      ' ' :: (Field.two .zero t.hour ++ ':' :: Field.two .zero t.minute))) := by
  simp [formatChars, isoPattern, Pattern.write, Item.write, Field.write]

theorem formatChars_enUs : formatChars .enUs t =
    (pressMonth t.date.month).toList ++ ' ' :: (Field.two .bare t.date.day ++ ',' :: ' ' ::
      (Stamp.year .zero t.date.year ++ ',' :: ' ' :: (Field.two .bare t.hour12 ++ ':' ::
        (Field.two .zero t.minute ++ ' ' :: Item.write t (.meridiem true))))) := by
  simp [formatChars, enUsPattern, Pattern.write, Item.write, Field.write]

theorem formatChars_enGb : formatChars .enGb t =
    Field.two .bare t.date.day ++ ' ' :: ((Item.nameAt monthNames (t.date.month - 1)).take 3 ++ ' ' ::
      (Stamp.year .zero t.date.year ++ ',' :: ' ' :: (Field.two .zero t.hour ++ ':' :: Field.two .zero t.minute))) := by
  simp [formatChars, enGbPattern, Pattern.write, Item.write, Field.write]

/-- **The date, the hour and the minute are read back** from each of the built-in conventions. -/
theorem readBack_formatChars {style : DateStyle} (h : ∀ p, style ≠ .custom p) :
    readBack style (style.formatChars t) = .ok (t.date, t.hour, t.minute) := by
  obtain ⟨hmonth, hmonth', hday, -⟩ : t.date.Valid := Date.valid_ofDays _
  obtain ⟨h12, h12', hback⟩ := hour12_spec t
  have hhour := Nat.le_of_lt_succ (hour_lt t)
  have hminute := Nat.le_of_lt_succ (minute_lt t)
  have hyear := fun {c} hc rest => @Stamp.readYear_year t.date.year Stamp.natAbs_year_le c hc rest
  have hday2 := fun {pad} hpad {c} hc rest =>
    @part_two_cons pad t.date.day 1 31 hpad hday Stamp.day_le (by decide) c hc rest
  have hhour2 := fun rest =>
    @part_two_cons .zero t.hour 0 23 (by decide) (Nat.zero_le _) hhour (by decide) ':' (by decide) rest
  have hlast : part 0 59 (Field.two .zero t.minute) = .ok (t.minute, []) := by
    have hread := @part_two .zero t.minute 0 59 [] (by decide) (Nat.zero_le _) hminute (by decide) (by simp)
    rwa [List.append_nil] at hread
  have hhyphen := @Stamp.mark_cons '-' (by decide)
  have hcolon := @Stamp.mark_cons ':' (by decide)
  have hcomma := @Stamp.mark_cons ',' (by decide)
  cases style with
  | iso =>
    have hmonth2 := fun rest =>
      @part_two_cons .zero t.date.month 1 12 (by decide) hmonth hmonth' (by decide) '-' (by decide) rest
    rw [formatChars_iso]
    simp only [readBack, bind, Except.bind, hyear (show '-'.isDigit = false by decide), hhyphen, hmonth2,
      hday2 (show Decimal.Pad.zero ≠ .space by decide) (show ' '.isDigit = false by decide), part_space, hhour2, hcolon,
      hlast]
    rfl
  | enUs =>
    have h12' := fun rest =>
      @part_two_cons .bare t.hour12 1 12 (by decide) h12 h12' (by decide) ':' (by decide) rest
    have hminute2 := fun rest =>
      @part_two_cons .zero t.minute 0 59 (by decide) (Nat.zero_le _) hminute (by decide) ' ' (by decide) rest
    rw [formatChars_enUs]
    simp only [readBack, bind, Except.bind, month_press hmonth hmonth',
      hday2 (show Decimal.Pad.bare ≠ .space by decide) (show ','.isDigit = false by decide), hcomma, trimStart_space,
      Stamp.trimStart_year, hyear (show ','.isDigit = false by decide), part_space, h12', hcolon, hminute2,
      half_meridiem, hback]
    rfl
  | enGb =>
    rw [formatChars_enGb]
    simp only [readBack, bind, Except.bind,
      hday2 (show Decimal.Pad.bare ≠ .space by decide) (show ' '.isDigit = false by decide), List.drop_one, List.tail_cons,
      month_short hmonth hmonth', hyear (show ','.isDigit = false by decide), hcomma, part_space, hhour2, hcolon, hlast]
    rfl
  | custom p => exact absurd rfl (h p)

/-! ## Minutes -/

/-- A minute by its day and its place in the day. -/
theorem minutes_eq : t.minutes = 1440 * t.date.toDays + 60 * t.hour + t.minute := by
  have hdays : t.date.toDays = t.seconds / 86400 := Date.toDays_ofDays _
  rw [hdays]
  unfold Instant.minutes Instant.hour Instant.minute Instant.secondOfDay
  omega

theorem parts_of_minutes {t t' : Instant} (h : t.minutes = t'.minutes) :
    t.date = t'.date ∧ t.hour = t'.hour ∧ t.minute = t'.minute := by
  unfold Instant.minutes at h
  have hdays : t.seconds / 86400 = t'.seconds / 86400 := by omega
  unfold Instant.date Instant.hour Instant.minute Instant.secondOfDay
  refine ⟨congrArg Date.ofDays hdays, ?_, ?_⟩ <;> omega

/-- Nothing of an instant is shown but its date, its hour and its minute. -/
theorem formatChars_congr {style : DateStyle} (h : ∀ p, style ≠ .custom p) {t t' : Instant} (hdate : t.date = t'.date)
    (hhour : t.hour = t'.hour) (hminute : t.minute = t'.minute) : style.formatChars t = style.formatChars t' := by
  cases style with
  | iso => rw [formatChars_iso, formatChars_iso, hdate, hhour, hminute]
  | enUs =>
    have h12 : t.hour12 = t'.hour12 := by rw [Instant.hour12, Instant.hour12, hhour]
    have hhalf : Item.write t (.meridiem true) = Item.write t' (.meridiem true) := by
      unfold Item.write Instant.isAfternoon
      rw [hhour]
    rw [formatChars_enUs, formatChars_enUs, hdate, h12, hminute, hhalf]
  | enGb => rw [formatChars_enGb, formatChars_enGb, hdate, hhour, hminute]
  | custom p => exact absurd rfl (h p)

/-- **A shown date tells its minute and nothing more.**  In each of the built-in conventions two instants, leap seconds
and years of any sign and length included, have the same text exactly if they are in the same minute; for the date,
the hour and the minute are read back from the text, and they are what a minute is. -/
theorem format_eq_iff_minutes {style : DateStyle} (h : style = .iso ∨ style = .enUs ∨ style = .enGb) (t t' : Instant) :
    (style.format t = style.format t' ↔ t.minutes = t'.minutes) ∧
      readBack style (style.format t).toList = .ok (t.date, t.hour, t.minute) ∧
      t.minutes = 1440 * t.date.toDays + 60 * t.hour + t.minute := by
  have hcustom : ∀ p, style ≠ .custom p := by
    rintro p rfl
    rcases h with h | h | h <;> cases h
  have hchars : ∀ t : Instant, (style.format t).toList = style.formatChars t := fun t => String.toList_ofList
  have hread : ∀ t : Instant, readBack style (style.format t).toList = .ok (t.date, t.hour, t.minute) := fun t => by
    rw [hchars, readBack_formatChars t hcustom]
  refine ⟨⟨fun he => ?_, fun hm => ?_⟩, hread t, minutes_eq t⟩
  · have hparts := hread t
    rw [he, hread t'] at hparts
    simp only [Except.ok.injEq, Prod.mk.injEq] at hparts
    obtain ⟨hdate, hhour, hminute⟩ := hparts
    rw [minutes_eq, minutes_eq, hdate, hhour, hminute]
  · obtain ⟨hdate, hhour, hminute⟩ := parts_of_minutes hm
    rw [← String.toList_inj, hchars, hchars, formatChars_congr hcustom hdate hhour hminute]

/-- The last leap second that there is, the beginning of its minute, and the second before that. -/
theorem format_at_the_end :
    let leap : Instant := ⟨lastSecond, 1500000000, by decide, by decide, by decide⟩
    let start : Instant := ⟨lastSecond - 59, 0, by decide, by decide, by decide⟩
    let before : Instant := ⟨lastSecond - 60, 999999999, by decide, by decide, by decide⟩
    format .enUs leap = "Dec. 31, +262142, 11:59 PM" ∧ format .enUs start = format .enUs leap ∧
      format .enUs before ≠ format .enUs leap := by
  intro leap start before
  have h := fun t t' => (@format_eq_iff_minutes .enUs (by decide) t t').1
  exact ⟨by decide +kernel, (h start leap).2 (by decide), fun he => absurd ((h before leap).1 he) (by decide)⟩

end DateStyle
end Calendar
end NodeDesk
