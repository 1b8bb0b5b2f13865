import RouteGuard.Lib.Calendar

/-!
# The order of instants

An instant is compared by the number of its nanoseconds, or component by component from the year on.

* `compare_level` : a leading component decides, and where it ties the rest does;
* `compare_secondsOf` : both ways of comparing agree on the components of real instants.
-/

namespace Calendar

/-! ## Leading components -/

theorem compare_level {x y a b : Int} {rest : Ordering} (hlt : x < y → a < b) (hgt : y < x → b < a)
    (heq : x = y → compare a b = rest) : compare a b = (compare x y).then rest := by
  rcases lt_trichotomy x y with h | h | h
  · rw [compare_lt_iff_lt.mpr h, compare_lt_iff_lt.mpr (hlt h)]
    rfl
  · rw [compare_eq_iff_eq.mpr h, heq h]
    rfl
  · rw [compare_gt_iff_gt.mpr h, compare_gt_iff_gt.mpr (hgt h)]
    rfl

theorem compare_add_left (c r s : Int) : compare (c + r) (c + s) = compare r s := by
  have hlevel : compare (c + r) (c + s) = (compare r s).then .eq :=
    compare_level (fun h => by omega) (fun h => by omega) fun h => by rw [h, compare_eq_iff_eq.mpr rfl]
  rw [hlevel, Ordering.then_eq]

/-- A number in a mixed radix, by its quotient and then by its remainder. -/
theorem compare_radix {k x y r s : Int} (hr : 0 ≤ r ∧ r < k) (hs : 0 ≤ s ∧ s < k) :
    compare (x * k + r) (y * k + s) = (compare x y).then (compare r s) := by
  refine compare_level (fun h => ?_) (fun h => ?_) fun h => ?_
  · nlinarith [mul_le_mul_of_nonneg_right (show x + 1 ≤ y from h) (show 0 ≤ k by omega)]
  · nlinarith [mul_le_mul_of_nonneg_right (show y + 1 ≤ x from h) (show 0 ≤ k by omega)]
  · rw [h, compare_add_left]

/-! ## Dates -/

variable {t u : DateTime}

theorem dayOfDate_lt_of_year (ht : t.Valid) (hu : u.Valid) (h : t.year < u.year) :
    dayOfDate t.year t.month t.day < dayOfDate u.year u.month u.day :=
  calc dayOfDate t.year t.month t.day < dayOfYear (t.year + 1) := (dayOfDate_range ht).2
    _ ≤ dayOfYear u.year := dayOfYear_strictMono.monotone h
    _ ≤ dayOfDate u.year u.month u.day := (dayOfDate_range hu).1

theorem dayOfDate_lt_of_month (ht : t.Valid) (hu : u.Valid) (hy : t.year = u.year) (h : t.month < u.month) :
    dayOfDate t.year t.month t.day < dayOfDate u.year u.month u.day := by
  have hmonth : daysBefore (isLeap t.year) (t.month + 1) ≤ daysBefore (isLeap t.year) u.month := daysBefore_mono h
  have hlast := ht.day.2
  have hfirst := hu.day.1
  unfold dayOfDate
  rw [← hy]
  omega

theorem compare_dayOfDate (ht : t.Valid) (hu : u.Valid) :
    compare (dayOfDate t.year t.month t.day) (dayOfDate u.year u.month u.day) =
      (compare t.year u.year).then ((compare t.month u.month).then (compare t.day u.day)) := by
  refine compare_level (dayOfDate_lt_of_year ht hu) (dayOfDate_lt_of_year hu ht) fun hyear => ?_
  refine compare_level (dayOfDate_lt_of_month ht hu hyear) (dayOfDate_lt_of_month hu ht hyear.symm) fun hmonth => ?_
  unfold dayOfDate
  rw [hyear, hmonth, compare_add_left, sub_eq_neg_add, sub_eq_neg_add, compare_add_left]

/-! ## Instants -/

/-- The components from the year to the fraction of a second. -/
def DateTime.components (t : DateTime) (nanoseconds : Int) : List Int :=
  [t.year, t.month, t.day, t.hour, t.minute, t.second, nanoseconds]

/-- Epoch nanoseconds are ordered as the components are, the first that differs decides. -/
theorem compare_secondsOf (ht : t.Valid) (hu : u.Valid) {m n : Int} (hm : 0 ≤ m ∧ m < 1000000000)
    (hn : 0 ≤ n ∧ n < 1000000000) :
    compare (secondsOf t * 1000000000 + m) (secondsOf u * 1000000000 + n) =
      List.compareLex compare (t.components m) (u.components n) := by
  have hradix (t : DateTime) :
      secondsOf t = ((dayOfDate t.year t.month t.day * 24 + t.hour) * 60 + t.minute) * 60 + t.second := by
    unfold secondsOf
    ring
  have hh := ht.hour
  have hh' := hu.hour
  have hmi := ht.minute
  have hmi' := hu.minute
  have hs := ht.second
  have hs' := hu.second
  rw [compare_radix hm hn, hradix t, hradix u, compare_radix (by omega) (by omega), compare_radix (by omega) (by omega),
    compare_radix (by omega) (by omega), compare_dayOfDate ht hu]
  simp only [DateTime.components, List.compareLex_cons_cons, List.compareLex_nil_nil, Ordering.then_assoc, Ordering.then_eq]

end Calendar
