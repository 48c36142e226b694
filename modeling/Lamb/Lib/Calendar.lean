import Mathlib.Algebra.BigOperators.Group.Finset.Basic
import Mathlib.Algebra.Order.BigOperators.Group.Finset
import Mathlib.Tactic.IntervalCases

/-!
The Gregorian calendar, continued to all years. Days are counted month by month
and year by year from the first day of an epoch year; closed forms of the two
sums serve to compute with them.
-/

namespace Lamb.Lib.Calendar

/-! ### Months and years -/

def isLeap (year : ℕ) : Bool :=
  year % 4 = 0 ∧ (year % 100 ≠ 0 ∨ year % 400 = 0)

def daysInMonth (year month : ℕ) : ℕ :=
  if month = 2 then (if isLeap year then 29 else 28)
  else if month = 4 ∨ month = 6 ∨ month = 9 ∨ month = 11 then 30
  else 31

def daysBeforeMonth (year month : ℕ) : ℕ :=
  ∑ i ∈ Finset.range (month - 1), daysInMonth year (i + 1)

def daysInYear (year : ℕ) : ℕ :=
  ∑ i ∈ Finset.range 12, daysInMonth year (i + 1)

def daysBeforeYear (epoch year : ℕ) : ℕ :=
  ∑ i ∈ Finset.range (year - epoch), daysInYear (epoch + i)

theorem daysInMonth_le (year month : ℕ) : daysInMonth year month ≤ 31 := by
  unfold daysInMonth
  split_ifs
  all_goals omega

theorem daysBeforeMonth_mono (year : ℕ) {first second : ℕ} (h : first ≤ second) :
    daysBeforeMonth year first ≤ daysBeforeMonth year second := by
  refine Finset.sum_le_sum_of_subset (Finset.range_subset_range.mpr ?_)
  omega

theorem daysBeforeMonth_succ (year : ℕ) {month : ℕ} (h : 1 ≤ month) :
    daysBeforeMonth year (month + 1) = daysBeforeMonth year month + daysInMonth year month := by
  obtain ⟨i, rfl⟩ := Nat.exists_eq_add_of_le' h
  exact Finset.sum_range_succ _ _

theorem daysBeforeYear_mono (epoch : ℕ) {first second : ℕ} (h : first ≤ second) :
    daysBeforeYear epoch first ≤ daysBeforeYear epoch second := by
  refine Finset.sum_le_sum_of_subset (Finset.range_subset_range.mpr ?_)
  omega

theorem daysBeforeYear_succ {epoch year : ℕ} (h : epoch ≤ year) :
    daysBeforeYear epoch (year + 1) = daysBeforeYear epoch year + daysInYear year := by
  obtain ⟨i, rfl⟩ := Nat.exists_eq_add_of_le h
  rw [daysBeforeYear, daysBeforeYear, Nat.add_assoc, Nat.add_sub_cancel_left,
    Nat.add_sub_cancel_left, Finset.sum_range_succ]

/-! ### Dates -/

@[ext]
structure Date where
  year : ℕ
  month : ℕ
  day : ℕ
  month_pos : 1 ≤ month
  month_le : month ≤ 12
  day_pos : 1 ≤ day
  day_le : day ≤ daysInMonth year month

namespace Date

/-- The days from the first day of the epoch year on. -/
def dayNumber (epoch : ℕ) (date : Date) : ℕ :=
  daysBeforeYear epoch date.year + daysBeforeMonth date.year date.month + (date.day - 1)

/-- The order of dates: the year first, then the month, then the day. -/
def Before (first second : Date) : Prop :=
  first.year < second.year ∨ first.year = second.year ∧
    (first.month < second.month ∨ first.month = second.month ∧ first.day < second.day)

theorem day_le_31 (date : Date) : date.day ≤ 31 :=
  date.day_le.trans (daysInMonth_le _ _)

theorem before_trichotomy (first second : Date) :
    first.Before second ∨ first = second ∨ second.Before first := by
  unfold Before
  have hext : first.year = second.year → first.month = second.month →
      first.day = second.day → first = second := Date.ext
  rcases Nat.lt_trichotomy first.year second.year with hyear | hyear | hyear
  · exact .inl (.inl hyear)
  · rcases Nat.lt_trichotomy first.month second.month with hmonth | hmonth | hmonth
    · exact .inl (.inr ⟨hyear, .inl hmonth⟩)
    · rcases Nat.lt_trichotomy first.day second.day with hday | hday | hday
      · exact .inl (.inr ⟨hyear, .inr ⟨hmonth, hday⟩⟩)
      · exact .inr (.inl (hext hyear hmonth hday))
      · exact .inr (.inr (.inr ⟨hyear.symm, .inr ⟨hmonth.symm, hday⟩⟩))
    · exact .inr (.inr (.inr ⟨hyear.symm, .inl hmonth⟩))
  · exact .inr (.inr (.inl hyear))

theorem daysBeforeMonth_add_day_lt (date : Date) {month : ℕ} (h : date.month < month) :
    daysBeforeMonth date.year date.month + (date.day - 1) < daysBeforeMonth date.year month := by
  have hnext := daysBeforeMonth_succ date.year date.month_pos
  have hmono := daysBeforeMonth_mono date.year (Nat.succ_le_of_lt h)
  have hday := date.day_le
  have hpos := date.day_pos
  rw [Nat.succ_eq_add_one, hnext] at hmono
  omega

theorem dayNumber_lt {epoch : ℕ} {first second : Date} (hepoch : epoch ≤ first.year)
    (h : first.Before second) : first.dayNumber epoch < second.dayNumber epoch := by
  unfold dayNumber
  rcases h with hyear | ⟨hyear, hmonth | ⟨hmonth, hday⟩⟩
  · have hinside := first.daysBeforeMonth_add_day_lt (Nat.lt_succ_of_le first.month_le)
    have hnext := daysBeforeYear_succ hepoch
    have hmono := daysBeforeYear_mono epoch (Nat.succ_le_of_lt hyear)
    have htwelve : daysBeforeMonth first.year (Nat.succ 12) = daysInYear first.year := rfl
    rw [Nat.succ_eq_add_one, hnext] at hmono
    omega
  · have hinside := first.daysBeforeMonth_add_day_lt hmonth
    rw [← hyear]
    omega
  · have hpos := first.day_pos
    rw [← hyear, ← hmonth]
    omega

theorem dayNumber_lt_iff {epoch : ℕ} {first second : Date} (hfirst : epoch ≤ first.year)
    (hsecond : epoch ≤ second.year) :
    first.dayNumber epoch < second.dayNumber epoch ↔ first.Before second := by
  refine ⟨fun hlt => ?_, dayNumber_lt hfirst⟩
  rcases before_trichotomy first second with h | rfl | h
  · exact h
  · exact absurd hlt (Nat.lt_irrefl _)
  · exact absurd hlt (dayNumber_lt hsecond h).asymm

theorem dayNumber_injective {epoch : ℕ} {first second : Date} (hfirst : epoch ≤ first.year)
    (hsecond : epoch ≤ second.year) (h : first.dayNumber epoch = second.dayNumber epoch) :
    first = second := by
  rcases before_trichotomy first second with hbefore | heq | hbefore
  · exact absurd h (dayNumber_lt hfirst hbefore).ne
  · exact heq
  · exact absurd h (dayNumber_lt hsecond hbefore).ne'

end Date

/-! ### Closed forms -/

/-- The leap years from the year one to `year`. -/
def leapYears (year : ℕ) : ℕ :=
  year / 4 - year / 100 + year / 400

theorem leapYears_succ (year : ℕ) :
    leapYears (year + 1) = leapYears year + (isLeap (year + 1)).toNat := by
  by_cases hleap : (year + 1) % 4 = 0 ∧ ((year + 1) % 100 ≠ 0 ∨ (year + 1) % 400 = 0)
  · have hone : (isLeap (year + 1)).toNat = 1 := by simp [isLeap, hleap]
    rw [hone]
    unfold leapYears
    omega
  · have hzero : (isLeap (year + 1)).toNat = 0 := by simp [isLeap, hleap]
    rw [hzero]
    unfold leapYears
    omega

theorem daysInMonth_february (year : ℕ) : daysInMonth year 2 = 28 + (isLeap year).toNat := by
  cases h : isLeap year with
  | false => simp [daysInMonth, h]
  | true => simp [daysInMonth, h]

theorem daysBeforeMonth_eq (year : ℕ) {month : ℕ} (hlow : 3 ≤ month) (hhigh : month ≤ 12) :
    daysBeforeMonth year month = 59 + (isLeap year).toNat + (153 * (month - 3) + 2) / 5 := by
  have hfebruary := daysInMonth_february year
  interval_cases month
  all_goals
    simp only [daysBeforeMonth, Finset.sum_range_succ, Finset.sum_range_zero, Nat.reduceSub,
      Nat.reduceAdd, hfebruary, zero_add]
    simp [daysInMonth]
    omega

theorem daysInYear_eq (year : ℕ) : daysInYear year = 365 + (isLeap year).toNat := by
  have hmonths : daysInYear year = daysBeforeMonth year 12 + daysInMonth year 12 :=
    @daysBeforeMonth_succ year 12 (by omega)
  have hdecember : daysInMonth year 12 = 31 := rfl
  rw [hmonths, daysBeforeMonth_eq year (by omega) (by omega), hdecember]
  omega

theorem daysBeforeYear_eq {epoch year : ℕ} (hepoch : 1 ≤ epoch) (h : epoch ≤ year) :
    daysBeforeYear epoch year + leapYears (epoch - 1) =
      365 * (year - epoch) + leapYears (year - 1) := by
  induction year, h using Nat.le_induction with
  | base => simp [daysBeforeYear]
  | succ year h ih =>
      have hleaps := leapYears_succ (year - 1)
      rw [Nat.sub_add_cancel (hepoch.trans h)] at hleaps
      rw [daysBeforeYear_succ h, daysInYear_eq, Nat.add_sub_cancel, hleaps]
      omega

end Lamb.Lib.Calendar
