import Mathlib.Tactic.IntervalCases
import Mathlib.Tactic.Ring
import SyrupRail.Lib.Calendar

/-!
# Days and dates

The two conversions of the calendar are inverse to each other. Months are counted from the first one
of the year zero, and the first day of a month is a day number that grows by the length of the month
(`firstDay_succ`), so that day numbers order valid dates. A day's date is valid and has that day as
its number (`valid_civilFromDays`, `daysFromCivil_civilFromDays`), and no other valid date has the
same number.
-/

namespace Calendar

/-- A date of the calendar. -/
def Date.Valid (d : Date) : Prop :=
  1 ≤ d.month ∧ d.month ≤ 12 ∧ 1 ≤ d.day ∧ d.day ≤ daysInMonth d.year d.month

/-- The months since the first one of the year zero. -/
def Date.monthIndex (d : Date) : ℤ := d.year * 12 + (d.month - 1)

/-- The day of a month that is counted from the first one of the year zero. -/
def dateOf (index day : ℤ) : Date := ⟨index / 12, index % 12 + 1, day⟩

/-- The length of a month that is counted from the first one of the year zero. -/
def monthLength (index : ℤ) : ℤ := daysInMonth (index / 12) (index % 12 + 1)

/-- The day number of the first day of a month. -/
def firstDay (index : ℤ) : ℤ := daysFromCivil (dateOf index 1)

/-- A date is given by its month index and its day. -/
theorem dateOf_monthIndex {d : Date} (h : d.Valid) : dateOf d.monthIndex d.day = d := by
  obtain ⟨hlow, hhigh, -, -⟩ := h
  unfold dateOf Date.monthIndex
  have hyear : (d.year * 12 + (d.month - 1)) / 12 = d.year := by omega
  have hmonth : (d.year * 12 + (d.month - 1)) % 12 + 1 = d.month := by omega
  rw [hyear, hmonth]

/-- The month index of a date that is given by one. -/
theorem monthIndex_dateOf (index day : ℤ) : (dateOf index day).monthIndex = index := by
  unfold dateOf Date.monthIndex
  dsimp only
  omega

/-- A date that is given by a month index is valid if its day is one of the month's. -/
theorem valid_dateOf {index day : ℤ} (hlow : 1 ≤ day) (hhigh : day ≤ monthLength index) :
    (dateOf index day).Valid := by
  have hmonth : 0 ≤ index % 12 ∧ index % 12 < 12 := by omega
  refine ⟨?_, ?_, hlow, hhigh⟩
  · show 1 ≤ index % 12 + 1
    omega
  · show index % 12 + 1 ≤ 12
    omega

/-- A leap year, by its remainders. -/
theorem isLeapYear_iff (year : ℤ) :
    isLeapYear year = true ↔ year % 4 = 0 ∧ (year % 100 ≠ 0 ∨ year % 400 = 0) := by
  simp [isLeapYear]

/-- A month has between 28 and 31 days. -/
theorem monthLength_bounds (index : ℤ) : 28 ≤ monthLength index ∧ monthLength index ≤ 31 := by
  unfold monthLength daysInMonth
  split_ifs <;> omega

/-- The day number, with the leap days counted over all years. -/
theorem daysFromCivil_eq (d : Date) :
    daysFromCivil d =
      365 * (if d.month ≤ 2 then d.year - 1 else d.year) +
        (if d.month ≤ 2 then d.year - 1 else d.year) / 4 -
        (if d.month ≤ 2 then d.year - 1 else d.year) / 100 +
        (if d.month ≤ 2 then d.year - 1 else d.year) / 400 +
        (153 * (if d.month > 2 then d.month - 3 else d.month + 9) + 2) / 5 + d.day - 719469 := by
  unfold daysFromCivil
  dsimp only
  generalize (if d.month ≤ 2 then d.year - 1 else d.year) = y
  generalize (153 * (if d.month > 2 then d.month - 3 else d.month + 9) + 2) / 5 = days
  omega

/-- The days of a month are numbered from its first. -/
theorem daysFromCivil_dateOf (index day : ℤ) :
    daysFromCivil (dateOf index day) = firstDay index + (day - 1) := by
  unfold firstDay
  rw [daysFromCivil_eq, daysFromCivil_eq]
  unfold dateOf
  dsimp only
  omega

/-- The first day of the next month is the length of the month later. -/
theorem firstDay_succ (index : ℤ) : firstDay (index + 1) = firstDay index + monthLength index := by
  have hlow : 0 ≤ index % 12 := by omega
  have hhigh : index % 12 < 12 := by omega
  have hyear : (index + 1) / 12 = if index % 12 = 11 then index / 12 + 1 else index / 12 := by
    split_ifs <;> omega
  have hmonth : (index + 1) % 12 = if index % 12 = 11 then 0 else index % 12 + 1 := by
    split_ifs <;> omega
  unfold firstDay monthLength dateOf daysInMonth
  rw [daysFromCivil_eq, daysFromCivil_eq, hyear, hmonth]
  generalize index / 12 = year
  generalize index % 12 = month at hlow hhigh
  -- One case for each month; only that of February depends on the year.
  interval_cases month
  case «1» =>
    by_cases h : isLeapYear year = true
    · have hleap := (isLeapYear_iff year).mp h
      simp [h]
      omega
    · have hcommon := mt (isLeapYear_iff year).mpr h
      simp [h]
      omega
  all_goals
    simp
    omega

/-- A day of an era of 400 years in its century, its cycle of four years, its year, and that year;
the last day of a leap year is the 366th. -/
theorem exists_parts_of_era {doe : ℤ} (hlow : 0 ≤ doe) (hhigh : doe < 146097) :
    ∃ century cycle year day : ℤ, (0 ≤ century ∧ century ≤ 3) ∧ (0 ≤ cycle ∧ cycle ≤ 24) ∧
      (0 ≤ year ∧ year ≤ 3) ∧ (0 ≤ day ∧ day ≤ 365) ∧
      (day = 365 → year = 3 ∧ (cycle < 24 ∨ century = 3)) ∧
      doe = 36524 * century + 1461 * cycle + 365 * year + day := by
  obtain ⟨century, r, hcentury, hr, hdoe⟩ : ∃ century r : ℤ, (0 ≤ century ∧ century ≤ 3) ∧
      (0 ≤ r ∧ r ≤ 36524 ∧ (r = 36524 → century = 3)) ∧ doe = 36524 * century + r :=
    ⟨min 3 (doe / 36524), doe - 36524 * min 3 (doe / 36524), by omega, by omega, by omega⟩
  obtain ⟨cycle, s, hcycle, hs, hr'⟩ : ∃ cycle s : ℤ, (0 ≤ cycle ∧ cycle ≤ 24) ∧
      (0 ≤ s ∧ s ≤ 1460 ∧ (s = 1460 → cycle < 24 ∨ century = 3)) ∧ r = 1461 * cycle + s :=
    ⟨min 24 (r / 1461), r - 1461 * min 24 (r / 1461), by omega, by omega, by omega⟩
  exact ⟨century, cycle, min 3 (s / 365), s - 365 * min 3 (s / 365), hcentury,
    hcycle, by omega, by omega,
    by omega, by omega⟩

/-- The year of an era that the conversion computes: the corrections count the leap days before a
day. -/
theorem yearOfEra_eq {doe century cycle year day : ℤ} (hcentury : 0 ≤ century ∧ century ≤ 3)
    (hcycle : 0 ≤ cycle ∧ cycle ≤ 24) (hyear : 0 ≤ year ∧ year ≤ 3) (hday : 0 ≤ day ∧ day ≤ 365)
    (hleap : day = 365 → year = 3 ∧ (cycle < 24 ∨ century = 3))
    (hdoe : doe = 36524 * century + 1461 * cycle + 365 * year + day) :
    (doe - doe / 1460 + doe / 36524 - doe / 146096) / 365 = 100 * century + 4 * cycle + year := by
  -- The last day of an era is the only one that starts a fifth century.
  have hrest : 1461 * cycle + 365 * year + day ≤ 36523 ∨ (century = 3 ∧ doe = 146096) := by omega
  have hlast : doe / 36524 - doe / 146096 = century := by
    rcases hrest with hrest | ⟨rfl, rfl⟩
    · have hcenturies : doe / 36524 = century := by omega
      have hera : doe / 146096 = 0 := by omega
      omega
    · decide
  by_cases hcarry : 24 * century + cycle + 365 * year + day < 1460
  · have hcycles : doe / 1460 = 25 * century + cycle := by omega
    omega
  · have hcycles : doe / 1460 = 25 * century + cycle + 1 := by omega
    omega

/-- A date whose year starts in March: the day numbers of such years are those of the calendar. -/
theorem civil_of_march {era yoe doy : ℤ} (hyoe : 0 ≤ yoe ∧ yoe < 400) (hdoy : 0 ≤ doy ∧ doy ≤ 365)
    (hleap : doy = 365 → isLeapYear (1 + yoe + era * 400) = true) {d : Date}
    (hmonth : d.month = if (5 * doy + 2) / 153 < 10 then (5 * doy + 2) / 153 +
      3 else (5 * doy + 2) / 153 - 9)
    (hyear : d.year = (if d.month ≤ 2 then 1 else 0) + yoe + era * 400)
    (hday : d.day = doy - (153 * ((5 * doy + 2) / 153) + 2) / 5 + 1) :
    d.Valid ∧ daysFromCivil d = era * 146097 + (365 * yoe + yoe / 4 - yoe / 100) +
      doy - 719468 := by
  obtain ⟨year, month, day⟩ := d
  dsimp only at hmonth hyear hday
  have hmp : 0 ≤ (5 * doy + 2) / 153 ∧ (5 * doy + 2) / 153 ≤ 11 := by omega
  have hbounds : 153 * ((5 * doy + 2) / 153) ≤ 5 * doy + 2 ∧
      5 * doy + 2 < 153 * ((5 * doy + 2) / 153) + 153 := by omega
  rw [daysFromCivil_eq]
  unfold Date.Valid daysInMonth
  generalize (5 * doy + 2) / 153 = mp at *
  obtain ⟨hlow, hhigh⟩ := hmp
  interval_cases mp
  case «11» =>
    have hfebruary : month = 2 := by simpa using hmonth
    subst hfebruary
    have hyear : year = 1 + yoe + era * 400 := by simpa using hyear
    rw [← hyear] at hleap
    by_cases hleapYear : isLeapYear year = true
    · simp [hleapYear]
      omega
    · have hshort : doy ≠ 365 := fun h => hleapYear (hleap h)
      simp [hleapYear]
      omega
  all_goals
    simp at hmonth
    subst hmonth
    simp at hyear ⊢
    omega

/-- The leap days of the first years of an era. -/
theorem leapDays_eq {century cycle year : ℤ} (hcentury : 0 ≤ century ∧ century ≤ 3)
    (hcycle : 0 ≤ cycle ∧ cycle ≤ 24) (hyear : 0 ≤ year ∧ year ≤ 3) :
    (0 ≤ 100 * century + 4 * cycle + year ∧ 100 * century + 4 * cycle + year < 400) ∧
      (100 * century + 4 * cycle + year) / 4 = 25 * century + cycle ∧
      (100 * century + 4 * cycle + year) / 100 = century := by
  omega

/-- The last year of a cycle is a leap year, unless it ends one of the first three centuries. -/
theorem isLeapYear_of_cycle {era century cycle year : ℤ} (hcycle : 0 ≤ cycle ∧ cycle ≤ 24)
    (hyear : year = 3) (hcommon : cycle < 24 ∨ century = 3) :
    isLeapYear (1 + (100 * century + 4 * cycle + year) + era * 400) = true := by
  have hvalue : 1 + (100 * century + 4 * cycle + year) + era * 400 =
      100 * (century + 4 * era) + (4 * cycle + 4) := by
    rw [hyear]
    ring
  rw [isLeapYear_iff, hvalue]
  refine ⟨by omega, ?_⟩
  by_cases hlast : cycle < 24
  · left
    omega
  · right
    have hcentury : century = 3 := hcommon.resolve_left hlast
    have hcycles : cycle = 24 := by omega
    rw [hcentury, hcycles]
    omega

/-- A day has a valid date, of which it is the number. -/
theorem civilFromDays_spec (days : ℤ) :
    (civilFromDays days).Valid ∧ daysFromCivil (civilFromDays days) = days := by
  obtain ⟨era, hera⟩ : ∃ era, era = (days + 719468) / 146097 := ⟨_, rfl⟩
  obtain ⟨doe, hdoe⟩ : ∃ doe, doe = days + 719468 - era * 146097 := ⟨_, rfl⟩
  have hrange : 0 ≤ doe ∧ doe < 146097 := by omega
  obtain ⟨century, cycle, year, day, hcentury, hcycle, hyear, hday, hleap, hparts⟩ :=
    exists_parts_of_era hrange.1 hrange.2
  have hyoe := yearOfEra_eq hcentury hcycle hyear hday hleap hparts
  obtain ⟨hyoeRange, hcycles, hcenturies⟩ := leapDays_eq hcentury hcycle hyear
  have hdoy :
    doe - (365 * (100 * century + 4 * cycle + year) + (100 * century + 4 * cycle + year) / 4 -
      (100 * century + 4 * cycle + year) / 100) = day := by
    rw [hcycles, hcenturies, hparts]
    ring
  have hleapYear (hlast : day = 365) :
      isLeapYear (1 + (100 * century + 4 * cycle + year) + era * 400) = true := by
    obtain ⟨hthird, hcommon⟩ := hleap hlast
    exact isLeapYear_of_cycle hcycle hthird hcommon
  have hdate : civilFromDays days =
      { year :=
          (if (if (5 * day + 2) / 153 < 10 then (5 * day + 2) / 153 + 3
            else (5 * day + 2) / 153 - 9) ≤ 2 then 1 else 0) +
          (100 * century + 4 * cycle + year) + era * 400
        month :=
          if (5 * day + 2) / 153 < 10 then (5 * day + 2) / 153 + 3 else (5 * day + 2) / 153 - 9
        day := day - (153 * ((5 * day + 2) / 153) + 2) / 5 + 1 } := by
    unfold civilFromDays
    dsimp only
    rw [← hera, ← hdoe, hyoe, hdoy]
  obtain ⟨hvalid, hnumber⟩ := civil_of_march hyoeRange hday hleapYear (d := civilFromDays days)
    (by rw [hdate]) (by rw [hdate]) (by rw [hdate])
  refine ⟨hvalid, ?_⟩
  rw [hnumber, hcycles, hcenturies]
  clear hnumber hdate hyoe hdoy
  omega

/-- Day numbers order the months. -/
theorem firstDay_mono {index later : ℤ} (h : index ≤ later) : firstDay index ≤ firstDay later := by
  obtain ⟨n, rfl⟩ := Int.le.dest h
  induction n with
  | zero => simp
  | succ n ih =>
    have hstep := firstDay_succ (index + n)
    have hlength := (monthLength_bounds (index + n)).1
    have hcast : index + (n + 1 : ℕ) = index + n + 1 := by push_cast; ring
    have hearlier := ih (by omega)
    rw [hcast]
    omega

/-- A date in a later month has a larger number. -/
theorem daysFromCivil_lt {index later day day' : ℤ} (h : index < later)
    (hday : day ≤ monthLength index) (hday' : 1 ≤ day') :
    daysFromCivil (dateOf index day) < daysFromCivil (dateOf later day') := by
  have hnext := firstDay_succ index
  have hmono := firstDay_mono (show index + 1 ≤ later by omega)
  rw [daysFromCivil_dateOf, daysFromCivil_dateOf]
  omega

/-- The day of a valid date is one of its month's. -/
theorem Date.Valid.day_bounds {d : Date} (h : d.Valid) :
    1 ≤ d.day ∧ d.day ≤ monthLength d.monthIndex := by
  have hmonth : d.monthIndex % 12 + 1 = d.month := congrArg Date.month (dateOf_monthIndex h)
  have hyear : d.monthIndex / 12 = d.year := congrArg Date.year (dateOf_monthIndex h)
  obtain ⟨-, -, hday⟩ := h
  unfold monthLength
  rw [hmonth, hyear]
  exact hday

/-- The date of a valid date's number is the date. -/
theorem civilFromDays_daysFromCivil {d : Date} (h : d.Valid) :
    civilFromDays (daysFromCivil d) = d := by
  obtain ⟨hvalid, hnumber⟩ := civilFromDays_spec (daysFromCivil d)
  generalize civilFromDays (daysFromCivil d) = d' at hvalid hnumber ⊢
  have hd := dateOf_monthIndex h
  have hd' := dateOf_monthIndex hvalid
  rw [← hd, ← hd'] at hnumber
  rcases lt_trichotomy d'.monthIndex d.monthIndex with hlt | heq | hlt
  · exact absurd hnumber (daysFromCivil_lt hlt hvalid.day_bounds.2 h.day_bounds.1).ne
  · rw [daysFromCivil_dateOf, daysFromCivil_dateOf, heq] at hnumber
    have hday : d'.day = d.day := by omega
    rw [← hd, ← hd', heq, hday]
  · exact absurd hnumber.symm (daysFromCivil_lt hlt h.day_bounds.2 hvalid.day_bounds.1).ne

/-- Months later, a date is that of its month index, with the day clipped. -/
theorem addMonths_eq (d : Date) (months : ℤ) :
    addMonths d months =
      dateOf (d.monthIndex + months) (min d.day (monthLength (d.monthIndex + months))) := rfl

/-- A valid date months later is valid. -/
theorem valid_addMonths {d : Date} (h : d.Valid) (months : ℤ) : (addMonths d months).Valid := by
  have hday := h.day_bounds.1
  have hlength := (monthLength_bounds (d.monthIndex + months)).1
  rw [addMonths_eq]
  exact valid_dateOf (by omega) (by omega)

/-- A valid date months later has a larger number. -/
theorem daysFromCivil_lt_addMonths {d : Date} (h : d.Valid) {months : ℤ} (hpos : 0 < months) :
    daysFromCivil d < daysFromCivil (addMonths d months) := by
  have hvalid := (valid_addMonths h months).2.2.1
  rw [addMonths_eq] at hvalid ⊢
  have hnumber : daysFromCivil (dateOf d.monthIndex d.day) <
      daysFromCivil
          (dateOf (d.monthIndex + months) (min d.day (monthLength (d.monthIndex + months)))) :=
    daysFromCivil_lt (by omega) h.day_bounds.2 hvalid
  rwa [dateOf_monthIndex h] at hnumber

end Calendar
