import Mathlib.Tactic.Common
import Mathlib.Tactic.IntervalCases

/-!
# The proleptic Gregorian calendar

A day has two names: a date, or its number counted from the first of January of the year zero.
`dayNumber` is the calendar's own count, years and months added up. `civil` is the closed form that
takes a number back to its date: it counts from the first of March, where a leap day ends the year,
and in cycles of 400 years. `civil` gives a valid date of the number it was given, and a larger
number never an earlier date.
-/

namespace ContractLib
namespace Calendar

/-! ## The calendar -/

/-- Every fourth year, but of the hundreds only every fourth. -/
def IsLeap (y : ℕ) : Prop := y % 4 = 0 ∧ (y % 100 = 0 → y % 400 = 0)

instance (y : ℕ) : Decidable (IsLeap y) := inferInstanceAs (Decidable (_ ∧ _))

def yearLength (y : ℕ) : ℕ := if IsLeap y then 366 else 365

def monthLength (y m : ℕ) : ℕ :=
  if m = 2 then (if IsLeap y then 29 else 28)
  else if m = 4 ∨ m = 6 ∨ m = 9 ∨ m = 11 then 30
  else 31

structure Date where
  year : ℕ
  month : ℕ
  day : ℕ
  deriving DecidableEq, Repr

namespace Date

structure Valid (d : Date) : Prop where
  month : 1 ≤ d.month ∧ d.month ≤ 12
  day : 1 ≤ d.day ∧ d.day ≤ monthLength d.year d.month

/-- Year first, then month, then day. -/
def Before (d d' : Date) : Prop :=
  d.year < d'.year ∨ (d.year = d'.year ∧
    (d.month < d'.month ∨ (d.month = d'.month ∧ d.day < d'.day)))

end Date

def daysBeforeYear : ℕ → ℕ
  | 0 => 0
  | y + 1 => daysBeforeYear y + yearLength y

/-- The days of the months of a year before this one. -/
def daysBeforeMonth (y : ℕ) : ℕ → ℕ
  | 0 => 0
  | 1 => 0
  | m + 2 => daysBeforeMonth y (m + 1) + monthLength y (m + 1)

/-- The number of a date, counted from the first of January of the year zero. -/
def Date.dayNumber (d : Date) : ℕ :=
  daysBeforeYear d.year + daysBeforeMonth d.year d.month + (d.day - 1)

/-! ## The count keeps the order -/

theorem isLeap_iff {y : ℕ} : IsLeap y ↔ y % 4 = 0 ∧ (y % 100 = 0 → y % 400 = 0) := Iff.rfl

/-- The leap years before a year. -/
theorem daysBeforeYear_eq (y : ℕ) :
    daysBeforeYear y + (y + 99) / 100 = 365 * y + (y + 3) / 4 + (y + 399) / 400 := by
  induction y with
  | zero => rfl
  | succ y ih =>
    rw [daysBeforeYear, yearLength]
    split
    · next hleap =>
      obtain ⟨hfour, hcentury⟩ := hleap
      omega
    · next hcommon =>
      rw [isLeap_iff] at hcommon
      omega

theorem daysBeforeYear_mono : Monotone daysBeforeYear :=
  monotone_nat_of_le_succ fun _ => Nat.le_add_right _ _

/-- All the months of a year make the year. -/
theorem daysBeforeMonth_le {y m : ℕ} (hm : 1 ≤ m ∧ m ≤ 12) :
    daysBeforeMonth y m + monthLength y m ≤ yearLength y := by
  obtain ⟨hpos, hle⟩ := hm
  unfold yearLength
  by_cases hleap : IsLeap y <;> interval_cases m <;> simp [daysBeforeMonth, monthLength, hleap]

theorem daysBeforeMonth_lt {y m m' : ℕ} (hm : 1 ≤ m) (h : m < m') :
    daysBeforeMonth y m + monthLength y m ≤ daysBeforeMonth y m' := by
  induction m' with
  | zero => exact absurd h (Nat.not_lt_zero m)
  | succ k ih =>
    obtain ⟨j, rfl⟩ : ∃ j, k = j + 1 := ⟨k - 1, by omega⟩
    rw [daysBeforeMonth]
    rcases Nat.lt_succ_iff_lt_or_eq.mp h with hlt | rfl
    · exact (ih hlt).trans (Nat.le_add_right _ _)
    · exact le_rfl

namespace Date

variable {d d' : Date}

theorem dayNumber_lt_year (h : d.Valid) : d.dayNumber < daysBeforeYear (d.year + 1) := by
  have hmonths := daysBeforeMonth_le (y := d.year) h.month
  have hday := h.day
  rw [dayNumber, daysBeforeYear]
  omega

theorem dayNumber_lt (h : d.Valid) (hbefore : d.Before d') : d.dayNumber < d'.dayNumber := by
  rcases hbefore with hyear | ⟨hyear, hmonth | ⟨hmonth, hday⟩⟩
  · have hend := dayNumber_lt_year h
    have hstart : daysBeforeYear (d.year + 1) ≤ daysBeforeYear d'.year := daysBeforeYear_mono hyear
    rw [dayNumber.eq_def d']
    omega
  · have hmonths := daysBeforeMonth_lt (y := d.year) h.month.1 hmonth
    have hday := h.day
    rw [dayNumber, dayNumber, ← hyear]
    omega
  · have hpos := h.day.1
    rw [dayNumber, dayNumber, ← hyear, ← hmonth]
    omega

theorem before_or_eq_or_before (d d' : Date) : d.Before d' ∨ d = d' ∨ d'.Before d := by
  obtain ⟨y, m, n⟩ := d
  obtain ⟨y', m', n'⟩ := d'
  simp only [Before, Date.mk.injEq]
  omega

/-- An earlier date has a smaller number, and only an earlier date has. -/
theorem before_iff (h : d.Valid) (h' : d'.Valid) : d.Before d' ↔ d.dayNumber < d'.dayNumber := by
  refine ⟨dayNumber_lt h, fun hlt => ?_⟩
  rcases before_or_eq_or_before d d' with hbefore | rfl | hafter
  · exact hbefore
  · exact absurd hlt (lt_irrefl _)
  · exact absurd (dayNumber_lt h' hafter) (lt_asymm hlt)

theorem dayNumber_inj (h : d.Valid) (h' : d'.Valid) (heq : d.dayNumber = d'.dayNumber) :
    d = d' := by
  rcases before_or_eq_or_before d d' with hbefore | rfl | hafter
  · exact absurd heq (dayNumber_lt h hbefore).ne
  · rfl
  · exact absurd heq (dayNumber_lt h' hafter).ne'

end Date

/-! ## Years that start in March

In a cycle of 400 such years, day `e` lies in year `yearOfEra e`, and that year starts on day
`eraStart`. -/

/-- The first day of a year of the cycle. -/
def eraStart (yoe : ℕ) : ℕ := 365 * yoe + yoe / 4 - yoe / 100

/-- The year of a day of the cycle. -/
def yearOfEra (doe : ℕ) : ℕ := (doe - doe / 1460 + doe / 36524 - doe / 146096) / 365

/-- A century of the cycle lasts 36524 days, and its four years 1461. -/
theorem yearOfEra_split {c q r : ℕ} (hc : c < 4) (hq : q < 25) (hr : r < 1461)
    (hlast : q = 24 → r < 1460) :
    ∃ k < 4, yearOfEra (36524 * c + 1461 * q + r) = 100 * c + 4 * q + k ∧ 365 * k ≤ r ∧
      (r < 365 * (k + 1) ∨ k = 3) := by
  -- the first correction is a day late within the last days of the four years, never at a boundary
  have hfirst : (36524 * c + 1461 * q + r) / 1460 = 25 * c + q + (24 * c + q + r) / 1460 := by
    omega
  have hcentury : (36524 * c + 1461 * q + r) / 36524 = c := by omega
  have hera : (36524 * c + 1461 * q + r) / 146096 = 0 := by omega
  have hlate : (24 * c + q + r) / 1460 ≤ 1 ∧ ((24 * c + q + r) / 1460 = 1 → 1100 ≤ r) ∧
      (r = 1460 → (24 * c + q + r) / 1460 = 1) := by omega
  unfold yearOfEra
  rw [hfirst, hcentury, hera]
  generalize (24 * c + q + r) / 1460 = late at hlate
  obtain ⟨hle, hend, hleap⟩ := hlate
  refine ⟨(r - late) / 365, by omega, by omega, by omega, by omega⟩

theorem eraStart_split {c q k : ℕ} (hq : q < 25) (hk : k < 4) :
    eraStart (100 * c + 4 * q + k) = 36524 * c + 1461 * q + 365 * k := by
  have hfour : (100 * c + 4 * q + k) / 4 = 25 * c + q := by omega
  have hcentury : (100 * c + 4 * q + k) / 100 = c := by omega
  rw [eraStart, hfour, hcentury]
  omega

/-- A day lies in its year, and only a leap day on the last of 366. -/
theorem yearOfEra_spec {doe : ℕ} (h : doe < 146097) :
    yearOfEra doe < 400 ∧ eraStart (yearOfEra doe) ≤ doe ∧
      doe ≤ eraStart (yearOfEra doe) + 365 ∧
      (doe = eraStart (yearOfEra doe) + 365 → IsLeap (yearOfEra doe + 1)) := by
  by_cases hera : doe = 146096
  · rw [hera]
    decide
  · obtain ⟨c, q, r, hc, hq, hr, hlast, hsplit⟩ : ∃ c q r, c < 4 ∧ q < 25 ∧ r < 1461 ∧
        (q = 24 → r < 1460) ∧ doe = 36524 * c + 1461 * q + r :=
      ⟨doe / 36524, doe % 36524 / 1461, doe % 36524 % 1461, by omega, by omega, by omega,
        by omega, by omega⟩
    obtain ⟨k, hk, hyear, hstart, hend⟩ := yearOfEra_split hc hq hr hlast
    rw [hsplit, hyear, eraStart_split hq hk, isLeap_iff]
    refine ⟨by omega, by omega, by omega, by omega⟩

/-! ## Months from March

Month `mp` after March starts on day `(153 * mp + 2) / 5` of such a year. -/

/-- The month of a day of such a year, counted from March. -/
def monthFromMarch (doy : ℕ) : ℕ := (5 * doy + 2) / 153

/-- A month counted from March by its number in the calendar. -/
def calendarMonth (mp : ℕ) : ℕ := if mp < 10 then mp + 3 else mp - 9

/-- The first of March, counted from the first of January of the year zero. -/
theorem march_first (y : ℕ) :
    daysBeforeYear y + daysBeforeMonth y 3 + y / 100 = 60 + 365 * y + y / 4 + y / 400 := by
  have hyear := daysBeforeYear_eq (y + 1)
  have hmonths : daysBeforeMonth y 3 + 306 = yearLength y := by
    unfold yearLength
    by_cases hleap : IsLeap y <;> simp [daysBeforeMonth, monthLength, hleap]
  rw [daysBeforeYear] at hyear
  omega

/-- From March to December, months are as long in every year. -/
theorem daysBeforeMonth_march (y : ℕ) {mp : ℕ} (h : mp < 10) :
    daysBeforeMonth y (mp + 3) = daysBeforeMonth y 3 + (153 * mp + 2) / 5 := by
  interval_cases mp <;> simp [daysBeforeMonth, monthLength]

theorem monthFromMarch_spec {doy : ℕ} (h : doy < 366) :
    monthFromMarch doy < 12 ∧ (153 * monthFromMarch doy + 2) / 5 ≤ doy ∧
      doy < (153 * (monthFromMarch doy + 1) + 2) / 5 := by
  unfold monthFromMarch
  omega

/-- The months from March to January end where the next begins. -/
theorem monthLength_march (y : ℕ) {mp : ℕ} (h : mp < 11) :
    (153 * mp + 2) / 5 + monthLength (if mp < 10 then y else y + 1) (calendarMonth mp)
      = (153 * (mp + 1) + 2) / 5 := by
  interval_cases mp <;> simp [calendarMonth, monthLength]

/-! ## The closed form -/

/-- The date of a day counted from the first of March of the year zero. -/
def civil (z : ℕ) : Date :=
  let era := z / 146097
  let doe := z - era * 146097
  let yoe := (doe - doe / 1460 + doe / 36524 - doe / 146096) / 365
  let doy := doe - (365 * yoe + yoe / 4 - yoe / 100)
  let mp := (5 * doy + 2) / 153
  let mo := if mp < 10 then mp + 3 else mp - 9
  { year := yoe + era * 400 + if mo ≤ 2 then 1 else 0
    month := mo
    day := doy - (153 * mp + 2) / 5 + 1 }

/-- What the closed form computes, named. -/
theorem civil_eq (z : ℕ) :
    ∃ era yoe doy mp, z = 146097 * era + eraStart yoe + doy ∧ yoe < 400 ∧ doy ≤ 365 ∧
      (doy = 365 → IsLeap (yoe + era * 400 + 1)) ∧ mp < 12 ∧ (153 * mp + 2) / 5 ≤ doy ∧
      doy < (153 * (mp + 1) + 2) / 5 ∧
      civil z = ⟨if mp < 10 then yoe + era * 400 else yoe + era * 400 + 1, calendarMonth mp,
        doy - (153 * mp + 2) / 5 + 1⟩ := by
  have hdoe : z - z / 146097 * 146097 < 146097 := by omega
  obtain ⟨hyoe, hstart, hend, hleap⟩ := yearOfEra_spec hdoe
  have hdoy : z - z / 146097 * 146097 - eraStart (yearOfEra (z - z / 146097 * 146097)) < 366 := by
    omega
  obtain ⟨hmp, hfirst, hlast⟩ := monthFromMarch_spec hdoy
  refine ⟨z / 146097, yearOfEra (z - z / 146097 * 146097), _, monthFromMarch _, ?_, hyoe,
    Nat.lt_succ_iff.mp hdoy, ?_, hmp, hfirst, hlast, ?_⟩
  · omega
  · intro hday
    have hleap := hleap (by omega)
    rw [isLeap_iff] at hleap ⊢
    omega
  · have hmonth : ∀ mp y : ℕ, mp < 12 → (y + if calendarMonth mp ≤ 2 then 1 else 0)
        = if mp < 10 then y else y + 1 := by
      intro mp y h
      unfold calendarMonth
      split <;> split <;> omega
    rw [← hmonth _ _ hmp]
    rfl

theorem civil_valid (z : ℕ) : (civil z).Valid := by
  obtain ⟨era, yoe, doy, mp, -, -, hdoy, hleap, hmp, hfirst, hlast, hcivil⟩ := civil_eq z
  rw [hcivil]
  refine ⟨?_, Nat.le_add_left _ _, ?_⟩
  · show 1 ≤ calendarMonth mp ∧ calendarMonth mp ≤ 12
    unfold calendarMonth
    split <;> omega
  · dsimp only
    by_cases hmarch : mp < 11
    · have hmonth := monthLength_march (yoe + era * 400) hmarch
      omega
    · -- February, whose last day a common year lacks
      have hfebruary : mp = 11 := by omega
      rw [hfebruary] at hfirst hlast ⊢
      by_cases hyear : IsLeap (yoe + era * 400 + 1)
      · simp [calendarMonth, monthLength, hyear]
        omega
      · have hcommon : doy ≠ 365 := fun h => hyear (hleap h)
        simp [calendarMonth, monthLength, hyear]
        omega

/-- The closed form names the day it was given. -/
theorem civil_dayNumber (z : ℕ) : (civil z).dayNumber = z + 60 := by
  obtain ⟨era, yoe, doy, mp, hz, hyoe, -, -, hmp, hfirst, -, hcivil⟩ := civil_eq z
  have hmarch := march_first (yoe + era * 400)
  have hfour : (yoe + era * 400) / 4 = yoe / 4 + 100 * era := by omega
  have hcentury : (yoe + era * 400) / 100 = yoe / 100 + 4 * era := by omega
  have hera : (yoe + era * 400) / 400 = era := by omega
  rw [hfour, hcentury, hera] at hmarch
  have hyear : eraStart yoe + yoe / 100 = 365 * yoe + yoe / 4 := by
    rw [eraStart]
    omega
  rw [hcivil, Date.dayNumber]
  by_cases hmp10 : mp < 10
  · rw [calendarMonth, if_pos hmp10, if_pos hmp10]
    dsimp only
    rw [daysBeforeMonth_march _ hmp10]
    omega
  · have hnext : daysBeforeYear (yoe + era * 400 + 1)
        = daysBeforeYear (yoe + era * 400) + daysBeforeMonth (yoe + era * 400) 3 + 306 := by
      rw [daysBeforeYear, yearLength]
      by_cases hleap : IsLeap (yoe + era * 400) <;> simp [daysBeforeMonth, monthLength, hleap]
    have hmonths : daysBeforeMonth (yoe + era * 400 + 1) (mp - 9) + 306 = (153 * mp + 2) / 5 := by
      have hlate : mp = 10 ∨ mp = 11 := by omega
      rcases hlate with rfl | rfl <;> simp [daysBeforeMonth, monthLength]
    rw [calendarMonth, if_neg hmp10, if_neg hmp10]
    dsimp only
    omega

/-- A later day has no earlier date. -/
theorem civil_before {z z' : ℕ} : (civil z).Before (civil z') ↔ z < z' := by
  rw [Date.before_iff (civil_valid z) (civil_valid z'), civil_dayNumber, civil_dayNumber]
  omega

/-- Nothing the closed form subtracts is more than what it is taken from. -/
def CivilSafe (z : ℕ) : Prop :=
  let era := z / 146097
  let doe := z - era * 146097
  let yoe := (doe - doe / 1460 + doe / 36524 - doe / 146096) / 365
  let doy := doe - (365 * yoe + yoe / 4 - yoe / 100)
  let mp := (5 * doy + 2) / 153
  era * 146097 ≤ z ∧ doe / 1460 ≤ doe ∧ doe / 146096 ≤ doe - doe / 1460 + doe / 36524 ∧
    yoe / 100 ≤ 365 * yoe + yoe / 4 ∧ 365 * yoe + yoe / 4 - yoe / 100 ≤ doe ∧
    (153 * mp + 2) / 5 ≤ doy ∧ (¬mp < 10 → 9 ≤ mp)

theorem civil_safe (z : ℕ) : CivilSafe z := by
  have hdoe : z - z / 146097 * 146097 < 146097 := by omega
  obtain ⟨-, hstart, hend, -⟩ := yearOfEra_spec hdoe
  have hdoy : z - z / 146097 * 146097 - eraStart (yearOfEra (z - z / 146097 * 146097)) < 366 := by
    omega
  obtain ⟨-, hfirst, -⟩ := monthFromMarch_spec hdoy
  exact ⟨Nat.div_mul_le_self _ _, Nat.div_le_self _ _, by omega, by omega, hstart, hfirst,
    fun h => by omega⟩

end Calendar
end ContractLib
