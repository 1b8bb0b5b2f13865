import Mathlib

/-!
# The proleptic Gregorian calendar

Days are counted from 1970-01-01 and seconds from its midnight, as `Date` counts them.

* `dayOfDate`, `yearOfDay`, `monthOf` : from a date to its day and back;
* `DateTime`, `secondsOf`, `dateTimeOf` : the same with the time of the day.

`dateTimeOf_secondsOf` and `secondsOf_dateTimeOf` say that the two directions are inverse to each other.
-/

namespace Calendar

def isLeap (y : Int) : Bool := (y % 4 = 0 && y % 100 ≠ 0) || y % 400 = 0

/-- The day on which a year begins. -/
def dayOfYear (y : Int) : Int := 365 * (y - 1970) + (y - 1969) / 4 - (y - 1901) / 100 + (y - 1601) / 400

/-- The year of a day: an estimate by the mean length of a year, corrected by one where it is off. -/
def yearOfDay (d : Int) : Int :=
  let y := 1970 + 400 * d / 146097
  if d < dayOfYear y then y - 1 else if dayOfYear (y + 1) ≤ d then y + 1 else y

/-- The days of a year before a month; from March on, five months are 153 days. -/
def daysBefore (leap : Bool) (m : Int) : Int :=
  if m ≤ 2 then 31 * (m - 1) else (if leap then 60 else 59) + (153 * (m - 3) + 2) / 5

/-- The month of the `n`-th day of a year, from 1 to 12. -/
def monthOf (leap : Bool) (n : Int) : Int :=
  if n < (if leap then 60 else 59) then 1 + n / 31
  else 3 + (5 * (n - if leap then 60 else 59) + 2) / 153

structure DateTime where
  year : Int
  month : Int
  day : Int
  hour : Int
  minute : Int
  second : Int
  deriving DecidableEq, Repr

/-- The components of a real instant. -/
structure DateTime.Valid (t : DateTime) : Prop where
  month : 1 ≤ t.month ∧ t.month ≤ 12
  day : 1 ≤ t.day ∧ daysBefore (isLeap t.year) t.month + t.day ≤ daysBefore (isLeap t.year) (t.month + 1)
  hour : 0 ≤ t.hour ∧ t.hour ≤ 23
  minute : 0 ≤ t.minute ∧ t.minute ≤ 59
  second : 0 ≤ t.second ∧ t.second ≤ 59

/-- The day of a date. -/
def dayOfDate (y m d : Int) : Int := dayOfYear y + daysBefore (isLeap y) m + (d - 1)

def secondsOf (t : DateTime) : Int :=
  dayOfDate t.year t.month t.day * 86400 + t.hour * 3600 + t.minute * 60 + t.second

def dateTimeOf (s : Int) : DateTime :=
  let d := s / 86400
  let y := yearOfDay d
  let n := d - dayOfYear y
  let m := monthOf (isLeap y) n
  ⟨y, m, n - daysBefore (isLeap y) m + 1, s % 86400 / 3600, s % 3600 / 60, s % 60⟩

/-! ## Years -/

theorem dayOfYear_succ (y : Int) : dayOfYear (y + 1) = dayOfYear y + (if isLeap y then 366 else 365) := by
  unfold dayOfYear isLeap
  simp only [Bool.or_eq_true, Bool.and_eq_true, decide_eq_true_eq, ne_eq]
  split
  · omega
  · omega

theorem dayOfYear_lt_succ (y : Int) : dayOfYear y < dayOfYear (y + 1) := by
  rw [dayOfYear_succ]
  split <;> omega

theorem dayOfYear_strictMono : StrictMono dayOfYear := strictMono_int_of_lt_succ dayOfYear_lt_succ

/-- The estimate is off by at most one. -/
theorem dayOfYear_estimate {d q : Int} (hl : 146097 * q ≤ 400 * d) (hu : 400 * d < 146097 * (q + 1)) :
    dayOfYear (1970 + q - 1) ≤ d ∧ d < dayOfYear (1970 + q + 2) := by
  unfold dayOfYear
  omega

theorem yearOfDay_spec (d : Int) : dayOfYear (yearOfDay d) ≤ d ∧ d < dayOfYear (yearOfDay d + 1) := by
  have hq := dayOfYear_estimate (d := d) (q := 400 * d / 146097) (by omega) (by omega)
  unfold yearOfDay
  simp only
  split
  · next h => exact ⟨hq.1, by rwa [sub_add_cancel]⟩
  · split
    · next h => exact ⟨h, by rw [add_assoc]; exact hq.2⟩
    · next h1 h2 => exact ⟨not_lt.mp h1, not_le.mp h2⟩

theorem yearOfDay_eq {d y : Int} (hl : dayOfYear y ≤ d) (hu : d < dayOfYear (y + 1)) : yearOfDay d = y := by
  obtain ⟨h1, h2⟩ := yearOfDay_spec d
  have h3 : yearOfDay d < y + 1 := dayOfYear_strictMono.lt_iff_lt.mp (by omega)
  have h4 : y < yearOfDay d + 1 := dayOfYear_strictMono.lt_iff_lt.mp (by omega)
  omega

theorem yearOfDay_lt_iff {d y : Int} : yearOfDay d < y ↔ d < dayOfYear y := by
  obtain ⟨h1, h2⟩ := yearOfDay_spec d
  constructor
  · intro h
    exact lt_of_lt_of_le h2 (dayOfYear_strictMono.monotone h)
  · intro h
    exact dayOfYear_strictMono.lt_iff_lt.mp (lt_of_le_of_lt h1 h)

/-! ## Months -/

theorem daysBefore_thirteen (leap : Bool) : daysBefore leap 13 = if leap then 366 else 365 := by
  cases leap <;> rfl

theorem monthOf_spec {leap : Bool} {n : Int} (h0 : 0 ≤ n) (h : n < if leap then 366 else 365) :
    (1 ≤ monthOf leap n ∧ monthOf leap n ≤ 12) ∧
      daysBefore leap (monthOf leap n) ≤ n ∧ n < daysBefore leap (monthOf leap n + 1) := by
  unfold monthOf daysBefore
  cases leap <;> simp only [Bool.false_eq_true, if_true, if_false] at *
  · split
    · split <;> split <;> omega
    · split <;> split <;> omega
  · split
    · split <;> split <;> omega
    · split <;> split <;> omega

theorem daysBefore_mono {leap : Bool} {m m' : Int} (h : m ≤ m') :
    daysBefore leap m ≤ daysBefore leap m' := by
  unfold daysBefore
  cases leap <;> simp only [Bool.false_eq_true, if_true, if_false] <;> split <;> split <;> omega

theorem monthOf_eq {leap : Bool} {n m : Int} (hm : 1 ≤ m) (hm' : m ≤ 12) (hl : daysBefore leap m ≤ n)
    (hu : n < daysBefore leap (m + 1)) : monthOf leap n = m := by
  have h0 : daysBefore leap 1 ≤ daysBefore leap m := daysBefore_mono hm
  have h13 : daysBefore leap (m + 1) ≤ daysBefore leap 13 := daysBefore_mono (by omega)
  rw [daysBefore_thirteen] at h13
  have hn : 0 ≤ n := by
    have : daysBefore leap 1 = 0 := by cases leap <;> rfl
    omega
  obtain ⟨-, h1, h2⟩ := monthOf_spec hn (lt_of_lt_of_le hu h13)
  by_contra hne
  rcases lt_or_gt_of_ne hne with hlt | hgt
  · have : daysBefore leap (monthOf leap n + 1) ≤ daysBefore leap m := daysBefore_mono (by omega)
    omega
  · have : daysBefore leap (m + 1) ≤ daysBefore leap (monthOf leap n) := daysBefore_mono (by omega)
    omega

/-! ## The two directions -/

theorem dateTimeOf_valid (s : Int) : (dateTimeOf s).Valid := by
  obtain ⟨hy1, hy2⟩ := yearOfDay_spec (s / 86400)
  rw [dayOfYear_succ] at hy2
  have hn0 : 0 ≤ s / 86400 - dayOfYear (yearOfDay (s / 86400)) := by omega
  obtain ⟨hm, hm1, hm2⟩ := monthOf_spec hn0 (sub_lt_iff_lt_add'.mpr hy2)
  refine ⟨hm, ⟨?_, ?_⟩, ?_, ?_, ?_⟩ <;> simp only [dateTimeOf] <;> omega

@[simp] theorem secondsOf_dateTimeOf (s : Int) : secondsOf (dateTimeOf s) = s := by
  unfold secondsOf dayOfDate dateTimeOf
  simp only
  omega

/-- A valid date lies in its year. -/
theorem dayOfDate_range {t : DateTime} (h : t.Valid) :
    dayOfYear t.year ≤ dayOfDate t.year t.month t.day ∧
      dayOfDate t.year t.month t.day < dayOfYear (t.year + 1) := by
  obtain ⟨⟨hm1, hm2⟩, ⟨hd1, hd2⟩, -, -, -⟩ := h
  have h0 : daysBefore (isLeap t.year) 1 ≤ daysBefore (isLeap t.year) t.month := daysBefore_mono hm1
  have h13 : daysBefore (isLeap t.year) (t.month + 1) ≤ daysBefore (isLeap t.year) 13 :=
    daysBefore_mono (by omega)
  have h1 : daysBefore (isLeap t.year) 1 = 0 := by cases isLeap t.year <;> rfl
  rw [daysBefore_thirteen] at h13
  rw [dayOfYear_succ]
  unfold dayOfDate
  omega

theorem dateTimeOf_secondsOf {t : DateTime} (h : t.Valid) : dateTimeOf (secondsOf t) = t := by
  obtain ⟨hy1, hy2⟩ := dayOfDate_range h
  obtain ⟨⟨hm1, hm2⟩, ⟨hd1, hd2⟩, hh, hmi, hs⟩ := h
  have hday : secondsOf t / 86400 = dayOfDate t.year t.month t.day := by
    unfold secondsOf
    omega
  have hyear : yearOfDay (dayOfDate t.year t.month t.day) = t.year := yearOfDay_eq hy1 hy2
  have hmonth : monthOf (isLeap t.year) (dayOfDate t.year t.month t.day - dayOfYear t.year) = t.month :=
    monthOf_eq hm1 hm2 (by unfold dayOfDate; omega) (by unfold dayOfDate; omega)
  have hdate : dayOfDate t.year t.month t.day - dayOfYear t.year - daysBefore (isLeap t.year) t.month + 1 =
      t.day := by
    unfold dayOfDate
    omega
  have htime : secondsOf t % 86400 / 3600 = t.hour ∧ secondsOf t % 3600 / 60 = t.minute ∧
      secondsOf t % 60 = t.second := by
    unfold secondsOf
    omega
  unfold dateTimeOf
  simp only [hday, hyear, hmonth, hdate, htime]

end Calendar
