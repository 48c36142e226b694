import Lamb.Export.Render
import Lamb.Lib.Calendar
import Lamb.Lib.Decimal

/-!
The time label of a persisted capture. The seconds since 1970 become a date by
a calculation in eras of four hundred years that begin in March; the result is
the date that counting the months one by one gives, and labels are ordered as
the instants they were taken at.
-/

namespace Lamb.Daemon

open Lamb.Lib Lamb.Lib.Calendar Lamb.Export

/-! ### The calculation -/

/-- Subtraction of unsigned numbers, which must not underflow. -/
def checkedSub (a b : ℕ) : Option ℕ :=
  if b ≤ a then some (a - b) else none

structure LabelFields where
  year : ℕ
  month : ℕ
  day : ℕ
  hour : ℕ
  minute : ℕ
  second : ℕ
  deriving DecidableEq, Repr

def iso8601CompactFields (seconds : ℕ) : Option LabelFields := do
  let secsInDay := 86400
  let days := seconds / secsInDay
  let daySecs := seconds % secsInDay
  let z := days + 719468
  let era := z / 146097
  let doe ← checkedSub z (era * 146097)
  let withoutLeapDays ← checkedSub doe (doe / 1460)
  let eraDays ← checkedSub (withoutLeapDays + doe / 36524) (doe / 146096)
  let yoe := eraDays / 365
  let y := yoe + era * 400
  let beforeYear ← checkedSub (365 * yoe + yoe / 4) (yoe / 100)
  let doy ← checkedSub doe beforeYear
  let mp := (5 * doy + 2) / 153
  let beforeDay ← checkedSub doy ((153 * mp + 2) / 5)
  let d := beforeDay + 1
  let m ← if mp < 10 then some (mp + 3) else checkedSub mp 9
  some
    { year := if m ≤ 2 then y + 1 else y
      month := m
      day := d
      hour := daySecs / 3600
      minute := daySecs % 3600 / 60
      second := daySecs % 60 }

def LabelFields.text (fields : LabelFields) : String :=
  zeroPadded 4 fields.year ++ zeroPadded 2 fields.month ++ zeroPadded 2 fields.day ++
    zeroPadded 2 fields.hour ++ zeroPadded 2 fields.minute ++ zeroPadded 2 fields.second

def iso8601CompactLabel (seconds : ℕ) : Option String :=
  (iso8601CompactFields seconds).map LabelFields.text

theorem checkedSub_eq_some {a b : ℕ} (h : b ≤ a) : checkedSub a b = some (a - b) := if_pos h

/-! ### The day of an era -/

/-- A day of an era split into centuries, four-year cycles, years and days. Only
the last year of a cycle has a day 365, and the last cycle of a century only has
it in the last century. -/
structure EraDay where
  century : ℕ
  cycle : ℕ
  year : ℕ
  day : ℕ
  century_lt : century < 4
  cycle_lt : cycle < 25
  year_lt : year < 4
  day_lt : day < 366
  leap : day = 365 → year = 3 ∧ (cycle < 24 ∨ century = 3)

namespace EraDay

def number (eraDay : EraDay) : ℕ :=
  36524 * eraDay.century + 1461 * eraDay.cycle + 365 * eraDay.year + eraDay.day

def yearOfEra (eraDay : EraDay) : ℕ :=
  100 * eraDay.century + 4 * eraDay.cycle + eraDay.year

theorem exists_number {doe : ℕ} (h : doe < 146097) : ∃ eraDay : EraDay, eraDay.number = doe := by
  let century := min 3 (doe / 36524)
  let cycle := (doe - 36524 * century) / 1461
  let year := min 3 ((doe - 36524 * century - 1461 * cycle) / 365)
  refine ⟨⟨century, cycle, year, doe - 36524 * century - 1461 * cycle - 365 * year,
    ?_, ?_, ?_, ?_, ?_⟩, ?_⟩
  all_goals
    simp only [number, century, cycle, year]
    omega

/-- The days of the century before the day. -/
def dayOfCentury (eraDay : EraDay) : ℕ :=
  1461 * eraDay.cycle + 365 * eraDay.year + eraDay.day

theorem number_eq (eraDay : EraDay) :
    eraDay.number = 36524 * eraDay.century + eraDay.dayOfCentury := by
  unfold number dayOfCentury
  omega

/-- Only the last century of an era is a day longer. -/
theorem dayOfCentury_lt (eraDay : EraDay) :
    eraDay.dayOfCentury < 36524 ∨ eraDay.dayOfCentury = 36524 ∧ eraDay.century = 3 := by
  have hcentury := eraDay.century_lt
  have hcycle := eraDay.cycle_lt
  have hyear := eraDay.year_lt
  have hday := eraDay.day_lt
  have hleap := eraDay.leap
  unfold dayOfCentury
  omega

theorem number_lt (eraDay : EraDay) : eraDay.number < 146097 := by
  have hcentury := eraDay.century_lt
  rw [number_eq]
  rcases eraDay.dayOfCentury_lt with hlt | ⟨heq, hlast⟩
  · omega
  · omega

theorem number_div_century (eraDay : EraDay) :
    eraDay.number / 36524 = eraDay.century + eraDay.number / 146096 := by
  have hcentury := eraDay.century_lt
  rw [number_eq]
  rcases eraDay.dayOfCentury_lt with hlt | ⟨heq, hlast⟩
  · rw [Nat.mul_add_div (by decide), Nat.div_eq_of_lt hlt,
      Nat.div_eq_of_lt (show _ < 146096 by omega)]
  · rw [heq, hlast]

/-- The leap days of an era up to the day, except those of whole centuries. -/
def leapDays (eraDay : EraDay) : ℕ :=
  (24 * eraDay.century + eraDay.cycle + 365 * eraDay.year + eraDay.day) / 1460

theorem number_div_cycle (eraDay : EraDay) :
    eraDay.number / 1460 = 25 * eraDay.century + eraDay.cycle + eraDay.leapDays := by
  have hsplit : eraDay.number = 1460 * (25 * eraDay.century + eraDay.cycle) +
      (24 * eraDay.century + eraDay.cycle + 365 * eraDay.year + eraDay.day) := by
    unfold number
    omega
  rw [hsplit, Nat.mul_add_div (by decide), leapDays]

/-- A leap day is left over exactly where a cycle ends, at its day 365 or shortly before. -/
theorem leapDays_le (eraDay : EraDay) :
    eraDay.leapDays ≤ eraDay.day ∧ eraDay.day < eraDay.leapDays + 365 := by
  have hcentury := eraDay.century_lt
  have hcycle := eraDay.cycle_lt
  have hyear := eraDay.year_lt
  have hday := eraDay.day_lt
  unfold leapDays
  by_cases hfull : eraDay.day = 365
  · obtain ⟨hlast, _⟩ := eraDay.leap hfull
    omega
  · omega

/-- Without the leap days the years have 365 days each. -/
theorem eraDays_div (eraDay : EraDay) :
    (eraDay.number - eraDay.number / 1460 + eraDay.number / 36524 - eraDay.number / 146096) / 365 =
      eraDay.yearOfEra := by
  obtain ⟨hlow, hhigh⟩ := eraDay.leapDays_le
  have hyears : eraDay.number - eraDay.number / 1460 + eraDay.number / 36524 -
      eraDay.number / 146096 = 365 * eraDay.yearOfEra + (eraDay.day - eraDay.leapDays) := by
    rw [number_div_cycle, number_div_century, ← Nat.add_assoc, Nat.add_sub_cancel]
    unfold yearOfEra number
    omega
  rw [hyears, Nat.mul_add_div (by decide), Nat.div_eq_of_lt (by omega), Nat.add_zero]

theorem beforeYear_eq (eraDay : EraDay) :
    365 * eraDay.yearOfEra + eraDay.yearOfEra / 4 - eraDay.yearOfEra / 100 + eraDay.day =
      eraDay.number := by
  have hcycle := eraDay.cycle_lt
  have hyear := eraDay.year_lt
  have hquarter : eraDay.yearOfEra / 4 = 25 * eraDay.century + eraDay.cycle := by
    unfold yearOfEra
    omega
  have hhundred : eraDay.yearOfEra / 100 = eraDay.century := by
    unfold yearOfEra
    omega
  rw [hquarter, hhundred]
  unfold yearOfEra number
  omega

/-- The year of a day, counted from March on. -/
def marchYear (eraDay : EraDay) (era : ℕ) : ℕ :=
  eraDay.yearOfEra + era * 400

theorem leapYears_marchYear (eraDay : EraDay) (era : ℕ) :
    leapYears (eraDay.marchYear era) = 97 * era + 24 * eraDay.century + eraDay.cycle := by
  have hcentury := eraDay.century_lt
  have hcycle := eraDay.cycle_lt
  have hyear := eraDay.year_lt
  have hquarter : eraDay.marchYear era / 4 = 100 * era + 25 * eraDay.century + eraDay.cycle := by
    unfold marchYear yearOfEra
    omega
  have hhundred : eraDay.marchYear era / 100 = 4 * era + eraDay.century := by
    unfold marchYear yearOfEra
    omega
  have hera : eraDay.marchYear era / 400 = era := by
    unfold marchYear yearOfEra
    omega
  rw [leapYears, hquarter, hhundred, hera]
  omega

theorem isLeap_marchYear_succ {eraDay : EraDay} (era : ℕ) (h : eraDay.day = 365) :
    isLeap (eraDay.marchYear era + 1) = true := by
  have hcentury := eraDay.century_lt
  have hcycle := eraDay.cycle_lt
  obtain ⟨hyear, hlast⟩ := eraDay.leap h
  have hmarch : eraDay.marchYear era + 1 =
      400 * era + 100 * eraDay.century + 4 * (eraDay.cycle + 1) := by
    unfold marchYear yearOfEra
    omega
  unfold isLeap
  rw [hmarch, decide_eq_true_eq]
  omega

/-- The days since the beginning of the first era. -/
theorem days_eq {eraDay : EraDay} {era z : ℕ} (h : z = 146097 * era + eraDay.number) :
    z = 365 * eraDay.marchYear era + leapYears (eraDay.marchYear era) + eraDay.day := by
  rw [h, leapYears_marchYear]
  unfold marchYear yearOfEra number
  omega

end EraDay

/-! ### The date of a day -/

/-- The months of a year that begins in March have 153 days in five of them. -/
theorem marchMonth_bounds {doy : ℕ} (h : doy < 366) :
    (5 * doy + 2) / 153 ≤ 11 ∧ (153 * ((5 * doy + 2) / 153) + 2) / 5 ≤ doy ∧
      doy < (153 * ((5 * doy + 2) / 153 + 1) + 2) / 5 := by
  omega

theorem daysInMonth_march (year : ℕ) {mp : ℕ} (h : mp < 10) :
    (153 * (mp + 1) + 2) / 5 = (153 * mp + 2) / 5 + daysInMonth year (mp + 3) := by
  interval_cases mp
  all_goals rfl

theorem exists_date_of_march {year mp d days : ℕ} (hmonth : mp < 10) (hpos : 1 ≤ d)
    (hle : d ≤ daysInMonth year (mp + 3))
    (hdays : days + 719468 = 365 * year + leapYears year + ((153 * mp + 2) / 5 + (d - 1))) :
    ∃ date : Date, date.year = year ∧ date.month = mp + 3 ∧ date.day = d ∧
      1970 ≤ date.year ∧ date.dayNumber 1970 = days := by
  have hyear : 1970 ≤ year := by
    have hbound := hle.trans (daysInMonth_le _ _)
    unfold leapYears at hdays
    omega
  refine ⟨⟨year, mp + 3, d, by omega, by omega, hpos, hle⟩, rfl, rfl, rfl, hyear, ?_⟩
  have hclosed := @daysBeforeYear_eq 1970 year (by decide) hyear
  have hleaps := leapYears_succ (year - 1)
  rw [Nat.sub_add_cancel (by omega)] at hleaps
  have hepoch : leapYears (1970 - 1) = 477 := rfl
  rw [hepoch] at hclosed
  rw [Date.dayNumber, @daysBeforeMonth_eq year (mp + 3) (by omega) (by omega), Nat.add_sub_cancel]
  simp only
  omega

/-- January and February belong to the next year. -/
theorem exists_date_of_winter {year mp d days : ℕ} (hlow : 10 ≤ mp) (hhigh : mp ≤ 11)
    (hpos : 1 ≤ d) (hle : d ≤ daysInMonth (year + 1) (mp - 9))
    (hdays : days + 719468 = 365 * year + leapYears year + ((153 * mp + 2) / 5 + (d - 1))) :
    ∃ date : Date, date.year = year + 1 ∧ date.month = mp - 9 ∧ date.day = d ∧
      1970 ≤ date.year ∧ date.dayNumber 1970 = days := by
  have hyear : 1970 ≤ year + 1 := by
    have hbound := hle.trans (daysInMonth_le _ _)
    unfold leapYears at hdays
    omega
  refine ⟨⟨year + 1, mp - 9, d, by omega, by omega, hpos, hle⟩, rfl, rfl, rfl, hyear, ?_⟩
  have hclosed := @daysBeforeYear_eq 1970 (year + 1) (by decide) hyear
  have hepoch : leapYears (1970 - 1) = 477 := rfl
  rw [hepoch, Nat.add_sub_cancel] at hclosed
  have hmonth : daysBeforeMonth (year + 1) (mp - 9) + 306 = (153 * mp + 2) / 5 := by
    rcases (by omega : mp = 10 ∨ mp = 11) with rfl | rfl
    · rfl
    · rfl
  rw [Date.dayNumber]
  simp only
  omega

/-- The fields are the date and the time of the day of an instant, the date being
the one that lies the whole days after the first of January 1970. -/
def LabelFields.Shows (fields : LabelFields) (seconds : ℕ) : Prop :=
  ∃ date : Date, fields.year = date.year ∧ fields.month = date.month ∧ fields.day = date.day ∧
    1970 ≤ date.year ∧ fields.hour < 24 ∧ fields.minute < 60 ∧ fields.second < 60 ∧
    seconds = 86400 * date.dayNumber 1970 + 3600 * fields.hour + 60 * fields.minute + fields.second

theorem LabelFields.Shows.unique {fields other : LabelFields} {seconds : ℕ}
    (h : fields.Shows seconds) (h' : other.Shows seconds) : fields = other := by
  obtain ⟨date, hyear, hmonth, hday, hepoch, hhour, hminute, hsecond, htime⟩ := h
  obtain ⟨date', hyear', hmonth', hday', hepoch', hhour', hminute', hsecond', htime'⟩ := h'
  obtain rfl : date = date' := Date.dayNumber_injective hepoch hepoch' (by omega)
  cases fields
  cases other
  simp only at *
  rw [LabelFields.mk.injEq]
  omega

theorem shows_of_date {date : Date} {seconds : ℕ} (hepoch : 1970 ≤ date.year)
    (hdays : date.dayNumber 1970 = seconds / 86400) :
    LabelFields.Shows ⟨date.year, date.month, date.day, seconds % 86400 / 3600,
      seconds % 86400 % 3600 / 60, seconds % 86400 % 60⟩ seconds := by
  refine ⟨date, rfl, rfl, rfl, hepoch, ?_, ?_, ?_, ?_⟩
  all_goals
    simp only
    omega

/-- No subtraction of the calculation underflows. -/
theorem iso8601CompactFields_eq {seconds : ℕ} {eraDay : EraDay}
    (h : eraDay.number =
      seconds / 86400 + 719468 - (seconds / 86400 + 719468) / 146097 * 146097) :
    iso8601CompactFields seconds =
      (if (5 * eraDay.day + 2) / 153 < 10 then some ((5 * eraDay.day + 2) / 153 + 3)
        else checkedSub ((5 * eraDay.day + 2) / 153) 9).map fun m =>
          { year := if m ≤ 2 then eraDay.marchYear ((seconds / 86400 + 719468) / 146097) + 1
              else eraDay.marchYear ((seconds / 86400 + 719468) / 146097)
            month := m
            day := eraDay.day - (153 * ((5 * eraDay.day + 2) / 153) + 2) / 5 + 1
            hour := seconds % 86400 / 3600
            minute := seconds % 86400 % 3600 / 60
            second := seconds % 86400 % 60 } := by
  have hera : (seconds / 86400 + 719468) / 146097 * 146097 ≤ seconds / 86400 + 719468 :=
    Nat.div_mul_le_self _ _
  have hcycles : eraDay.number / 1460 ≤ eraDay.number := Nat.div_le_self _ _
  have hcenturies : eraDay.number / 146096 ≤
      eraDay.number - eraDay.number / 1460 + eraDay.number / 36524 := by
    rw [eraDay.number_div_century]
    omega
  have hbefore := eraDay.beforeYear_eq
  have hhundred : eraDay.yearOfEra / 100 ≤ 365 * eraDay.yearOfEra + eraDay.yearOfEra / 4 := by
    omega
  have hyear : 365 * eraDay.yearOfEra + eraDay.yearOfEra / 4 - eraDay.yearOfEra / 100 ≤
      eraDay.number := by
    omega
  have hday : eraDay.number -
      (365 * eraDay.yearOfEra + eraDay.yearOfEra / 4 - eraDay.yearOfEra / 100) = eraDay.day := by
    omega
  obtain ⟨_, hfirst, _⟩ := marchMonth_bounds eraDay.day_lt
  simp only [iso8601CompactFields, checkedSub_eq_some hera, ← h, Option.bind_eq_bind,
    Option.bind_some, checkedSub_eq_some hcycles, checkedSub_eq_some hcenturies, eraDay.eraDays_div,
    checkedSub_eq_some hhundred, checkedSub_eq_some hyear, hday, checkedSub_eq_some hfirst,
    Option.map_eq_bind, Function.comp_def, EraDay.marchYear]
  split
  · rfl
  · rfl

/-- The calculation gives the date and the time. -/
theorem iso8601CompactFields_shows (seconds : ℕ) :
    ∃ fields, iso8601CompactFields seconds = some fields ∧ fields.Shows seconds := by
  have hdoe : seconds / 86400 + 719468 - (seconds / 86400 + 719468) / 146097 * 146097 < 146097 := by
    omega
  obtain ⟨eraDay, hnumber⟩ := EraDay.exists_number hdoe
  have hdays := EraDay.days_eq (show seconds / 86400 + 719468 =
    146097 * ((seconds / 86400 + 719468) / 146097) + eraDay.number by omega)
  obtain ⟨hmp, hfirst, hlast⟩ := marchMonth_bounds eraDay.day_lt
  rw [iso8601CompactFields_eq hnumber]
  generalize hyear : eraDay.marchYear ((seconds / 86400 + 719468) / 146097) = year at hdays ⊢
  generalize (5 * eraDay.day + 2) / 153 = mp at hmp hfirst hlast ⊢
  rw [← Nat.add_sub_cancel' hfirst] at hdays
  by_cases hmonth : mp < 10
  · have hlength := daysInMonth_march year hmonth
    obtain ⟨date, hdate, hm, hd, hepoch, hday⟩ := @exists_date_of_march year mp
      (eraDay.day - (153 * mp + 2) / 5 + 1) _ hmonth (by omega) (by omega) hdays
    have hshows := shows_of_date hepoch hday
    rw [hdate, hm, hd] at hshows
    refine ⟨_, ?_, hshows⟩
    rw [if_pos hmonth, Option.map_some, if_neg (show ¬ mp + 3 ≤ 2 by omega)]
  · have hlength : eraDay.day - (153 * mp + 2) / 5 + 1 ≤ daysInMonth (year + 1) (mp - 9) := by
      have hday := eraDay.day_lt
      rcases (by omega : mp = 10 ∨ mp = 11) with rfl | rfl
      · have hjanuary : daysInMonth (year + 1) (10 - 9) = 31 := rfl
        omega
      · rw [daysInMonth_february]
        by_cases hleap : eraDay.day = 365
        · have hyes := EraDay.isLeap_marchYear_succ ((seconds / 86400 + 719468) / 146097) hleap
          rw [hyear] at hyes
          rw [hyes, hleap]
          decide
        · omega
    obtain ⟨date, hdate, hm, hd, hepoch, hday⟩ := exists_date_of_winter (Nat.le_of_not_lt hmonth)
      hmp (Nat.le_add_left 1 _) hlength hdays
    have hshows := shows_of_date hepoch hday
    rw [hdate, hm, hd] at hshows
    refine ⟨_, ?_, hshows⟩
    rw [if_neg hmonth, checkedSub_eq_some (by omega), Option.map_some, if_pos (by omega)]

/-! ### The order of labels -/

theorem zeroPadded_isDigit {width n : ℕ} {c : Char} (h : c ∈ (zeroPadded width n).toList) :
    c.isDigit = true := by
  rw [zeroPadded, toString_eq_toDigits, String.toList_append, String.toList_ofList,
    String.toList_ofList, List.mem_append] at h
  rcases h with hzero | hdigit
  · rw [List.eq_of_mem_replicate hzero]
    rfl
  · exact Nat.isDigit_of_mem_toDigits (by decide) (by decide) hdigit

theorem zeroPadded_length {width n : ℕ} (hwidth : 0 < width) (h : n < 10 ^ width) :
    (zeroPadded width n).toList.length = width := by
  have hdigits := (Nat.length_toDigits_le_iff (by decide) hwidth).mpr h
  rw [zeroPadded, toString_eq_toDigits, String.toList_append, String.toList_ofList,
    String.toList_ofList, List.length_append, List.length_replicate, String.length_ofList]
  omega

/-- The number that a label reads as. -/
def LabelFields.number (fields : LabelFields) : ℕ :=
  10 ^ 10 * fields.year + 10 ^ 8 * fields.month + 10 ^ 6 * fields.day + 10 ^ 4 * fields.hour +
    10 ^ 2 * fields.minute + fields.second

/-- Every field fits its digits. -/
structure LabelFields.Fits (fields : LabelFields) : Prop where
  year : fields.year < 10 ^ 4
  month : fields.month < 10 ^ 2
  day : fields.day < 10 ^ 2
  hour : fields.hour < 10 ^ 2
  minute : fields.minute < 10 ^ 2
  second : fields.second < 10 ^ 2

theorem LabelFields.text_isDigit {fields : LabelFields} {c : Char}
    (h : c ∈ fields.text.toList) : c.isDigit = true := by
  simp only [text, String.toList_append, List.mem_append] at h
  rcases h with ((((h | h) | h) | h) | h) | h
  all_goals exact zeroPadded_isDigit h

theorem LabelFields.Fits.text_length {fields : LabelFields} (h : fields.Fits) :
    fields.text.toList.length = 14 := by
  simp only [text, String.toList_append, List.length_append,
    zeroPadded_length (by decide) h.year, zeroPadded_length (by decide) h.month,
    zeroPadded_length (by decide) h.day, zeroPadded_length (by decide) h.hour,
    zeroPadded_length (by decide) h.minute, zeroPadded_length (by decide) h.second]

theorem ofDigitChars_append_zeroPadded {width n : ℕ} (hwidth : 0 < width) (h : n < 10 ^ width)
    (digits : List Char) :
    Nat.ofDigitChars 10 (digits ++ (zeroPadded width n).toList) 0 =
      10 ^ width * Nat.ofDigitChars 10 digits 0 + n := by
  rw [Nat.ofDigitChars_append, Nat.ofDigitChars_eq_ofDigitChars_zero, zeroPadded_length hwidth h,
    ofDigitChars_zeroPadded]

theorem LabelFields.Fits.ofDigitChars_text {fields : LabelFields} (h : fields.Fits) :
    Nat.ofDigitChars 10 fields.text.toList 0 = fields.number := by
  simp only [text, String.toList_append]
  rw [ofDigitChars_append_zeroPadded (by decide) h.second,
    ofDigitChars_append_zeroPadded (by decide) h.minute,
    ofDigitChars_append_zeroPadded (by decide) h.hour,
    ofDigitChars_append_zeroPadded (by decide) h.day,
    ofDigitChars_append_zeroPadded (by decide) h.month, ofDigitChars_zeroPadded]
  unfold number
  omega

theorem LabelFields.Fits.text_lt_iff {fields other : LabelFields} (h : fields.Fits)
    (h' : other.Fits) : fields.text < other.text ↔ fields.number < other.number := by
  rw [String.lt_iff, Decimal.lt_iff_ofDigitChars_lt (fun _ => text_isDigit)
    (fun _ => text_isDigit) (h.text_length.trans h'.text_length.symm), h.ofDigitChars_text,
    h'.ofDigitChars_text]

/-- The first second of a year. -/
def yearStart (year : ℕ) : ℕ := 86400 * daysBeforeYear 1970 year

theorem LabelFields.Shows.year_lt {fields : LabelFields} {seconds year : ℕ}
    (h : fields.Shows seconds) (hend : seconds < yearStart year) : fields.year < year := by
  obtain ⟨date, hyear, hmonth, hday, hepoch, hhour, hminute, hsecond, htime⟩ := h
  by_contra hlarge
  rw [hyear] at hlarge
  have hmono := daysBeforeYear_mono 1970 (Nat.le_of_not_lt hlarge)
  unfold yearStart at hend
  unfold Date.dayNumber at htime
  omega

theorem LabelFields.Shows.fits {fields : LabelFields} {seconds : ℕ} (h : fields.Shows seconds)
    (hend : seconds < yearStart 10000) : fields.Fits := by
  have hlast := h.year_lt hend
  obtain ⟨date, hyear, hmonth, hday, hepoch, hhour, hminute, hsecond, htime⟩ := h
  have hmonths := date.month_le
  have hlength := date.day_le_31
  constructor
  all_goals omega

theorem LabelFields.number_lt_of_day {fields other : LabelFields} (h : fields.Fits)
    (hlt : fields.year < other.year ∨ fields.year = other.year ∧
      (fields.month < other.month ∨ fields.month = other.month ∧ fields.day < other.day)) :
    fields.number < other.number := by
  obtain ⟨_, hmonth, hday, hhour, hminute, hsecond⟩ := h
  unfold number
  rcases hlt with hyear | ⟨hyear, hmonths | ⟨hmonths, hdays⟩⟩
  · omega
  · omega
  · omega

theorem LabelFields.Shows.number_lt {fields other : LabelFields} {seconds otherSeconds : ℕ}
    (h : fields.Shows seconds) (h' : other.Shows otherSeconds) (hfits : fields.Fits)
    (hlt : seconds < otherSeconds) : fields.number < other.number := by
  obtain ⟨date, hyear, hmonth, hday, hepoch, hhour, hminute, hsecond, htime⟩ := h
  obtain ⟨date', hyear', hmonth', hday', hepoch', hhour', hminute', hsecond', htime'⟩ := h'
  rcases Nat.lt_trichotomy (date.dayNumber 1970) (date'.dayNumber 1970) with hdays | hdays | hdays
  · have hbefore := (Date.dayNumber_lt_iff hepoch hepoch').mp hdays
    refine number_lt_of_day hfits ?_
    rwa [hyear, hyear', hmonth, hmonth', hday, hday']
  · obtain rfl := Date.dayNumber_injective hepoch hepoch' hdays
    unfold number
    omega
  · omega

theorem LabelFields.Shows.number_lt_iff {fields other : LabelFields} {seconds otherSeconds : ℕ}
    (h : fields.Shows seconds) (h' : other.Shows otherSeconds) (hfits : fields.Fits)
    (hfits' : other.Fits) : fields.number < other.number ↔ seconds < otherSeconds := by
  refine ⟨fun hnumber => ?_, h.number_lt h' hfits⟩
  rcases Nat.lt_trichotomy seconds otherSeconds with hlt | rfl | hgt
  · exact hlt
  · rw [h.unique h'] at hnumber
    exact absurd hnumber (Nat.lt_irrefl _)
  · exact absurd hnumber (h'.number_lt h hfits' hgt).asymm

theorem yearStart_eq {year : ℕ} (h : 1970 ≤ year) :
    yearStart year + 86400 * 477 = 86400 * (365 * (year - 1970) + leapYears (year - 1)) := by
  have hyears := @daysBeforeYear_eq 1970 year (by decide) h
  have hfirst : leapYears (1970 - 1) = 477 := rfl
  rw [hfirst] at hyears
  rw [yearStart, ← hyears, Nat.mul_add]

theorem lt_yearStart_10000 {seconds : ℕ} (h : seconds < 253402300800) :
    seconds < yearStart 10000 := by
  have hstart := @yearStart_eq 10000 (by decide)
  have hlast : leapYears (10000 - 1) = 2424 := rfl
  rw [hlast] at hstart
  generalize yearStart 10000 = start at hstart ⊢
  omega

/-- Before the year 10000 the calculation gives the date and the time of every
instant, and two labels are ordered as their instants are. -/
theorem iso8601CompactLabel_faithful {seconds other : ℕ} (h : seconds < yearStart 10000)
    (h' : other < yearStart 10000) :
    (∃ fields, iso8601CompactFields seconds = some fields ∧ fields.Shows seconds ∧
        ∀ fields' : LabelFields, fields'.Shows seconds → fields' = fields) ∧
      ∃ label label', iso8601CompactLabel seconds = some label ∧
        iso8601CompactLabel other = some label' ∧
        (label < label' ↔ seconds < other) ∧ (label = label' ↔ seconds = other) := by
  obtain ⟨fields, hfields, hshows⟩ := iso8601CompactFields_shows seconds
  obtain ⟨fields', hfields', hshows'⟩ := iso8601CompactFields_shows other
  have hfits := hshows.fits h
  have hfits' := hshows'.fits h'
  have hlt := (hfits.text_lt_iff hfits').trans (hshows.number_lt_iff hshows' hfits hfits')
  have hgt := (hfits'.text_lt_iff hfits).trans (hshows'.number_lt_iff hshows hfits' hfits)
  refine ⟨⟨fields, hfields, hshows, fun _ hother => hother.unique hshows⟩, fields.text,
    fields'.text, ?_, ?_, hlt, fun hsame => ?_, fun hsame => ?_⟩
  · rw [iso8601CompactLabel, hfields, Option.map_some]
  · rw [iso8601CompactLabel, hfields', Option.map_some]
  · rw [hsame] at hlt hgt
    have hforth := mt hlt.mpr (String.lt_irrefl _)
    have hback := mt hgt.mpr (String.lt_irrefl _)
    omega
  · subst hsame
    rw [hshows.unique hshows']

/-- The last second of a leap day and the first of the next day. -/
theorem iso8601CompactLabel_leap_day :
    (951868799 < yearStart 10000 ∧ 951868800 < yearStart 10000) ∧
      ∃ label label', iso8601CompactLabel 951868799 = some label ∧
        iso8601CompactLabel 951868800 = some label' ∧ label < label' := by
  have hfirst : 951868799 < yearStart 10000 := lt_yearStart_10000 (by decide)
  have hsecond : 951868800 < yearStart 10000 := lt_yearStart_10000 (by decide)
  obtain ⟨label, label', hlabel, hlabel', hlt, _⟩ :=
    (iso8601CompactLabel_faithful hfirst hsecond).2
  exact ⟨⟨hfirst, hsecond⟩, label, label', hlabel, hlabel', hlt.mpr (by decide)⟩

end Lamb.Daemon
