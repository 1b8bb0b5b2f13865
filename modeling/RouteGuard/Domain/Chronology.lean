import RouteGuard.Domain.Time
import RouteGuard.Lib.Chronology

/-!
# Timestamps in chronological order

* `parseUtcTimestamp_eq_ok` : what is accepted, and the instant it stands for;
* `fieldsOf` : the components from the year to the padded fraction;
* `compareUtc_chronological` : accepted timestamps are compared field by field.
-/

namespace RouteGuard
open JsString Guarded Calendar

/-! ## What is accepted -/

/-- The nanoseconds that a fraction stands for. -/
def UtcIsoMatch.nanoseconds (m : UtcIsoMatch) : Nat := digitsValue (padEnd m.frac 9 0x30)

/-- A day of the month by the table of month lengths. -/
theorem valid_of_checks {m : UtcIsoMatch} (hmo : 1 ≤ digitsValue m.month ∧ digitsValue m.month ≤ 12)
    (hd : 1 ≤ digitsValue m.day ∧ digitsValue m.day ≤ daysInMonth (digitsValue m.year) (digitsValue m.month))
    (hc : digitsValue m.hour ≤ 23 ∧ digitsValue m.minute ≤ 59 ∧ digitsValue m.second ≤ 59) : m.dateTime.Valid := by
  have hdim := daysInMonth_eq (digitsValue m.year) hmo.1 hmo.2
  obtain ⟨hh, hmi, hs⟩ := hc
  constructor <;> simp only [UtcIsoMatch.dateTime] <;> omega

theorem daysBefore_le_succ (leap leap' : Bool) (m : Int) : daysBefore leap m ≤ daysBefore leap' m + 1 := by
  unfold daysBefore
  cases leap <;> cases leap' <;> simp only [Bool.false_eq_true, if_true, if_false] <;> split_ifs <;> omega

/-- The years that `Date.UTC` moves by 1900 never come back as they were. -/
theorem year_of_roundTrip {t : DateTime} (h0 : 0 ≤ t.year) (h : dateTimeOf (dateUTC t / 1000) = t) : 100 ≤ t.year := by
  by_contra hlt
  have hmoved : dateUTC t = secondsOf { t with year := 1900 + t.year } * 1000 := by
    rw [dateUTC, if_pos (by omega)]
  have hseconds := congrArg secondsOf h
  rw [secondsOf_dateTimeOf, hmoved, Int.mul_ediv_cancel _ (by omega)] at hseconds
  have hmonth := daysBefore_le_succ (isLeap t.year) (isLeap (1900 + t.year)) t.month
  have hyears : dayOfYear t.year + 1 < dayOfYear (1900 + t.year) := by
    unfold dayOfYear
    omega
  simp only [secondsOf, dayOfDate] at hseconds
  omega

/-- A timestamp is accepted when it matches with the components of a real instant, from the year 100 on. -/
theorem parseUtcTimestamp_eq_ok {value : JsString} {p : ParsedUtcTimestamp} (h : parseUtcTimestamp value = .ok p) :
    ∃ m, matchUtcIso value = some m ∧ m.dateTime.Valid ∧ 100 ≤ m.dateTime.year ∧ m.nanoseconds ≤ 999999999 ∧
      p.epochSeconds = secondsOf m.dateTime ∧
      p.epochNanoseconds = secondsOf m.dateTime * 1000000000 + m.nanoseconds := by
  rw [parseUtcTimestamp, check_eq_ok] at h
  cases hm : matchUtcIso value with
  | none =>
    rw [hm] at h
    cases h.2
  | some m =>
    rw [hm] at h
    simp only [check_eq_ok, require_eq_ok, pure_eq_ok] at h
    obtain ⟨-, hmo, hd, hc, hround, hn, rfl⟩ := h
    have hyear : 100 ≤ m.dateTime.year := year_of_roundTrip (Int.natCast_nonneg _) hround
    have hms : dateUTC m.dateTime / 1000 = secondsOf m.dateTime := by
      rw [dateUTC_of_year hyear, Int.mul_ediv_cancel _ (by omega)]
    exact ⟨m, rfl, valid_of_checks hmo hd hc, hyear, hn, hms, by rw [← hms]; rfl⟩

/-! ## The order -/

/-- The components from the year to the nanoseconds. -/
def fieldsOf (value : JsString) : List Int :=
  match matchUtcIso value with
  | some m => m.dateTime.components m.nanoseconds
  | none => []

/-- The results of a comparison as numbers. -/
def sign : Ordering → Int
  | .lt => -1
  | .eq => 0
  | .gt => 1

theorem sign_compare (x y : Int) : sign (compare x y) = if x < y then -1 else if x > y then 1 else 0 := by
  rcases lt_trichotomy x y with h | h | h
  · rw [compare_lt_iff_lt.mpr h, if_pos h]
    rfl
  · rw [compare_eq_iff_eq.mpr h, if_neg (by omega), if_neg (by omega)]
    rfl
  · rw [compare_gt_iff_gt.mpr h, if_neg (by omega), if_pos h]
    rfl

/-- The instants of two accepted timestamps are compared as their components are. -/
theorem compare_instant {a b : JsString} {x y : Int} (ha : instant a = some x) (hb : instant b = some y) :
    compare x y = List.compareLex compare (fieldsOf a) (fieldsOf b) := by
  obtain ⟨p, hp, rfl⟩ := instant_eq_some.mp ha
  obtain ⟨q, hq, rfl⟩ := instant_eq_some.mp hb
  obtain ⟨m, hm, hvalid, -, hnanos, -, hx⟩ := parseUtcTimestamp_eq_ok hp
  obtain ⟨n, hn, hvalid', -, hnanos', -, hy⟩ := parseUtcTimestamp_eq_ok hq
  rw [hx, hy, fieldsOf, hm, fieldsOf, hn]
  exact compare_secondsOf hvalid hvalid' (by omega) (by omega)

/-- `compareUtc(a, b) <= 0`. -/
def AtMost (a b : JsString) : Prop := ∃ c, compareUtc a b = .ok c ∧ c ≤ 0

theorem atMost_iff {a b : JsString} {x y : Int} (ha : instant a = some x) (hb : instant b = some y) :
    AtMost a b ↔ x ≤ y := by
  have hcompare : compareUtc a b = .ok (if x < y then -1 else if x > y then 1 else 0) :=
    compareUtc_eq_ok.mpr ⟨x, y, ha, hb, rfl⟩
  rw [AtMost, hcompare]
  simp only [Except.ok.injEq, exists_eq_left']
  split_ifs <;> omega

/-- The components of a string are those of an instant of the proleptic Gregorian calendar. -/
def IsCalendarDate (value : JsString) : Prop :=
  ∃ m p, matchUtcIso value = some m ∧ parseUtcTimestamp value = .ok p ∧ m.dateTime.Valid ∧
    dateTimeOf p.epochSeconds = m.dateTime

theorem isCalendarDate_of_instant {value : JsString} {x : Int} (h : instant value = some x) : IsCalendarDate value := by
  obtain ⟨p, hp, -⟩ := instant_eq_some.mp h
  obtain ⟨m, hm, hvalid, -, -, hseconds, -⟩ := parseUtcTimestamp_eq_ok hp
  exact ⟨m, p, hm, hp, hvalid, by rw [hseconds, dateTimeOf_secondsOf hvalid]⟩

theorem compareUtc_eq_zero {a b : JsString} {x y : Int} (ha : instant a = some x) (hb : instant b = some y) :
    compareUtc a b = .ok 0 ↔ x = y := by
  have hcompare : compareUtc a b = .ok (if x < y then -1 else if x > y then 1 else 0) :=
    compareUtc_eq_ok.mpr ⟨x, y, ha, hb, rfl⟩
  rw [hcompare, Except.ok.injEq]
  split_ifs with hlt hgt
  · exact iff_of_false (by decide) hlt.ne
  · exact iff_of_false (by decide) (ne_of_gt hgt)
  · exact iff_of_true rfl (by omega)

/-- Accepted timestamps are compared field by field, from the year to the fraction padded to nine digits. The
comparison is a total preorder in which two timestamps tie exactly when all fields are equal, which is when they stand
for one instant; and every accepted timestamp is a date of the calendar. -/
theorem compareUtc_chronological {a b c : JsString} (ha : isUtcIsoTimestamp a) (hb : isUtcIsoTimestamp b)
    (hc : isUtcIsoTimestamp c) :
    compareUtc a b = .ok (sign (List.compareLex compare (fieldsOf a) (fieldsOf b))) ∧
      (AtMost a a ∧ (AtMost a b ∨ AtMost b a) ∧ (AtMost a b → AtMost b c → AtMost a c)) ∧
      (compareUtc a b = .ok 0 ↔ fieldsOf a = fieldsOf b) ∧
      (compareUtc a b = .ok 0 ↔ instant a = instant b) ∧
      IsCalendarDate a := by
  obtain ⟨x, hx⟩ := isUtcIsoTimestamp_iff.mp ha
  obtain ⟨y, hy⟩ := isUtcIsoTimestamp_iff.mp hb
  obtain ⟨z, hz⟩ := isUtcIsoTimestamp_iff.mp hc
  have hcompare := compare_instant hx hy
  refine ⟨?_, ?_, ?_, ?_, isCalendarDate_of_instant hx⟩
  · rw [← hcompare, sign_compare]
    exact compareUtc_eq_ok.mpr ⟨x, y, hx, hy, rfl⟩
  · rw [atMost_iff hx hx, atMost_iff hx hy, atMost_iff hy hx, atMost_iff hy hz, atMost_iff hx hz]
    omega
  · rw [compareUtc_eq_zero hx hy, ← compare_eq_iff_eq, hcompare]
    exact Std.LawfulEqCmp.compare_eq_iff_eq
  · rw [compareUtc_eq_zero hx hy, hx, hy, Option.some.injEq]

/-- Fractions of different widths. -/
theorem compareUtc_chronological_widths :
    compareUtc (js "2024-02-29T23:59:59.5Z") (js "2024-02-29T23:59:59.500Z") = .ok 0 ∧
      compareUtc (js "2024-02-29T23:59:59.5Z") (js "2024-03-01T00:00:00Z") = .ok (-1) := by
  have hday : isUtcIsoTimestamp (js "2024-02-29T23:59:59.5Z") = true := by decide
  have hwide : isUtcIsoTimestamp (js "2024-02-29T23:59:59.500Z") = true := by decide
  have hnext : isUtcIsoTimestamp (js "2024-03-01T00:00:00Z") = true := by decide
  refine ⟨(compareUtc_chronological hday hwide hnext).2.2.1.mpr (by decide), ?_⟩
  rw [(compareUtc_chronological hday hnext hwide).1]
  decide

end RouteGuard
