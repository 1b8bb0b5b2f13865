import RouteGuard.Domain.Time

/-!
# Deadlines of the review windows

Deadlines are computed in epoch nanoseconds and written back as timestamps.

* `addUtcSeconds` : the timestamp some seconds later;
* `instant_addUtcSeconds` : up to the year 9999 the result is the instant that many seconds later, and
  from the year 10000 on it is not a timestamp any more.
-/

namespace RouteGuard.Lifecycle
open JsString Guarded Calendar

def REVIEW_WINDOW_SECONDS : Nat := 172800

def CORRECTION_WINDOW_SECONDS : Nat := 86400

def POST_RESUBMIT_REVIEW_WINDOW_SECONDS : Nat := 86400

/-- `Number.MAX_SAFE_INTEGER`. -/
def MAX_SAFE_INTEGER : Nat := 9007199254740991

def pad2 (n : Int) : JsString := padStart (decimalInt n) 2 0x30

/-- The date and time part; beyond 8.64e15 ms a `Date` is invalid and every component is `NaN`. -/
def formatDateTime (seconds : Int) : JsString :=
  if seconds * 1000 ≤ 8640000000000000 then
    let t := dateTimeOf seconds
    decimalInt t.year ++ js "-" ++ pad2 t.month ++ js "-" ++ pad2 t.day ++ js "T" ++ pad2 t.hour ++ js ":" ++
      pad2 t.minute ++ js ":" ++ pad2 t.second
  else js "NaN-NaN-NaNTNaN:NaN:NaN"

/-- `.replace(/0+$/, "")`. -/
def dropTrailingZeros (s : JsString) : JsString := s.rdropWhile (· = 0x30)

def formatUtcFromEpochNanos (epochNanos : Int) : Except JsString JsString := do
  require (¬ epochNanos < 0) (js "epoch nanoseconds must not be negative")
  let epochSeconds := epochNanos / 1000000000
  let nanoseconds := epochNanos % 1000000000
  require (epochSeconds * 1000 ≤ MAX_SAFE_INTEGER) (js "timestamp out of safe millisecond range")
  if nanoseconds = 0 then pure (formatDateTime epochSeconds ++ js ".000Z")
  else
    let frac := dropTrailingZeros (padStart (decimalInt nanoseconds) 9 0x30)
    pure (formatDateTime epochSeconds ++ js "." ++ frac ++ js "Z")

/-- The timestamp some whole seconds later; the number of seconds is a non-negative integer. -/
def addUtcSeconds (isoTimestamp : JsString) (seconds : Nat) : Except JsString JsString := do
  require (seconds ≤ MAX_SAFE_INTEGER) (js "seconds must be a non-negative safe integer")
  let parsed ← parseUtcTimestamp isoTimestamp
  formatUtcFromEpochNanos (parsed.epochNanoseconds + seconds * 1000000000)

def computeReviewDeadline (eventTime : JsString) : Except JsString JsString :=
  addUtcSeconds eventTime REVIEW_WINDOW_SECONDS

def computeCorrectionDeadline (eventTime : JsString) : Except JsString JsString :=
  addUtcSeconds eventTime CORRECTION_WINDOW_SECONDS

def computePostResubmitReviewDeadline (eventTime : JsString) : Except JsString JsString :=
  addUtcSeconds eventTime POST_RESUBMIT_REVIEW_WINDOW_SECONDS

/-! ## Reading a formatted timestamp back -/

/-- The first nanosecond of the year 10000. -/
def YEAR_10000 : Int := 253402300800000000000

theorem pad2_spec {n : Int} (h0 : 0 ≤ n) (h : n ≤ 99) :
    ((pad2 n).length = 2 ∧ (pad2 n).all isDigit) ∧ (digitsValue (pad2 n) : Int) = n := by
  have hlen : (decimal n.toNat).length ≤ 2 := (length_decimal_le_iff (by omega)).mpr (by omega)
  unfold pad2
  rw [decimalInt_of_nonneg h0]
  refine ⟨⟨length_padStart _ hlen, all_isDigit_padStart _ (all_isDigit_decimal _)⟩, ?_⟩
  rw [digitsValue_padStart, digitsValue_decimal]
  omega

theorem padEnd_dropTrailingZeros (s : JsString) : padEnd (dropTrailingZeros s) s.length 0x30 = s := by
  have hsplit : dropTrailingZeros s ++ s.rtakeWhile (· = 0x30) = s := List.rdropWhile_append_rtakeWhile
  have hzeros : s.rtakeWhile (· = 0x30) = List.replicate (s.rtakeWhile (· = 0x30)).length 0x30 :=
    List.eq_replicate_of_mem fun u hu => by simpa using List.mem_rtakeWhile_imp hu
  have hlen : s.length - (dropTrailingZeros s).length = (s.rtakeWhile (· = 0x30)).length := by
    have := congrArg List.length hsplit
    rw [List.length_append] at this
    omega
  rw [padEnd, hlen, ← hzeros, hsplit]

/-- The fraction as it is written for a number of nanoseconds that is not zero. -/
theorem fraction_spec {n : Int} (h0 : 0 < n) (h : n < 1000000000) :
    let frac := dropTrailingZeros (padStart (decimalInt n) 9 0x30)
    takeFraction (js "." ++ frac ++ js "Z") = some frac ∧ (digitsValue (padEnd frac 9 0x30) : Int) = n := by
  intro frac
  have hlen : (decimal n.toNat).length ≤ 9 := (length_decimal_le_iff (by omega)).mpr (by omega)
  have hpad : (padStart (decimalInt n) 9 0x30).length = 9 := by
    rw [decimalInt_of_nonneg h0.le]
    exact length_padStart _ hlen
  have hback : padEnd frac 9 0x30 = padStart (decimalInt n) 9 0x30 := by
    have := padEnd_dropTrailingZeros (padStart (decimalInt n) 9 0x30)
    rwa [hpad] at this
  have hvalue : (digitsValue (padEnd frac 9 0x30) : Int) = n := by
    rw [hback, digitsValue_padStart, decimalInt_of_nonneg h0.le, digitsValue_decimal]
    omega
  have hleading : frac <+: padStart (decimalInt n) 9 0x30 := List.rdropWhile_prefix _ _
  have hdigits : frac.all isDigit := by
    have hall : (padStart (decimalInt n) 9 0x30).all isDigit := by
      rw [decimalInt_of_nonneg h0.le]
      exact all_isDigit_padStart _ (all_isDigit_decimal _)
    exact List.all_eq_true.mpr fun u hu => List.all_eq_true.mp hall u (hleading.subset hu)
  have hne : frac ≠ [] := by
    intro hnil
    rw [hnil, show digitsValue (padEnd [] 9 0x30) = 0 from digitsValue_zeros 9] at hvalue
    omega
  refine ⟨?_, hvalue⟩
  exact takeFraction_digits hdigits (List.length_pos_of_ne_nil hne) (hpad ▸ hleading.length_le)

theorem year_dateTimeOf {s : Int} (h0 : 0 ≤ s) (h : s < 253402300800) :
    1970 ≤ (dateTimeOf s).year ∧ (dateTimeOf s).year ≤ 9999 := by
  have hlow : ¬ yearOfDay (s / 86400) < 1970 := by
    rw [yearOfDay_lt_iff, show dayOfYear 1970 = 0 from rfl]
    omega
  have hhigh : yearOfDay (s / 86400) < 10000 := by
    rw [yearOfDay_lt_iff, show dayOfYear 10000 = 2932897 from rfl]
    omega
  simp only [dateTimeOf]
  omega

theorem daysInMonth_le (year month : Nat) : daysInMonth year month ≤ 31 := by
  unfold daysInMonth
  split
  · omega
  · cases hm : DAYS_IN_MONTH[month - 1]? with
    | none => simp
    | some k =>
      have hk := List.mem_of_getElem? hm
      simp only [DAYS_IN_MONTH, List.mem_cons, List.not_mem_nil, or_false] at hk
      simp only [Option.getD_some]
      omega

/-- Up to the year 9999 a formatted instant, with its fraction, reads back as itself. -/
theorem instant_formatDateTime {s : Int} {frac tail : JsString} (h0 : 0 ≤ s) (h : s < 253402300800)
    (hz : ∃ t, tail = t ++ [0x5A]) (hf : takeFraction tail = some frac)
    (hn : digitsValue (padEnd frac 9 0x30) ≤ 999999999) :
    instant (formatDateTime s ++ tail) = some (s * 1000000000 + digitsValue (padEnd frac 9 0x30)) := by
  obtain ⟨hy1, hy2⟩ := year_dateTimeOf h0 h
  have hv := dateTimeOf_valid s
  have hday : (dateTimeOf s).day ≤ 99 := by
    have hmonth := hv.month
    have hdim := daysInMonth_eq (dateTimeOf s).year.toNat
      (show 1 ≤ (dateTimeOf s).month.toNat by omega) (show (dateTimeOf s).month.toNat ≤ 12 by omega)
    have hle := daysInMonth_le (dateTimeOf s).year.toNat (dateTimeOf s).month.toNat
    have hd := hv.day
    rw [Int.toNat_of_nonneg (by omega), Int.toNat_of_nonneg (by omega)] at hdim
    omega
  have hyear : (decimal (dateTimeOf s).year.toNat).length = 4 ∧
      (decimal (dateTimeOf s).year.toNat).all isDigit :=
    ⟨length_decimal (by omega) (by omega) (by omega), all_isDigit_decimal _⟩
  obtain ⟨hmo, vmo⟩ := pad2_spec (n := (dateTimeOf s).month) (by have := hv.month; omega) (by have := hv.month; omega)
  obtain ⟨hd, vd⟩ := pad2_spec (n := (dateTimeOf s).day) (by have := hv.day; omega) hday
  obtain ⟨hh, vh⟩ := pad2_spec hv.hour.1 (by have := hv.hour; omega)
  obtain ⟨hmi, vmi⟩ := pad2_spec hv.minute.1 (by have := hv.minute; omega)
  obtain ⟨hs, vs⟩ := pad2_spec hv.second.1 (by have := hv.second; omega)
  have htext : formatDateTime s = decimal (dateTimeOf s).year.toNat ++ js "-" ++ pad2 (dateTimeOf s).month ++
      js "-" ++ pad2 (dateTimeOf s).day ++ js "T" ++ pad2 (dateTimeOf s).hour ++ js ":" ++
      pad2 (dateTimeOf s).minute ++ js ":" ++ pad2 (dateTimeOf s).second := by
    rw [formatDateTime, if_pos (by omega), ← decimalInt_of_nonneg (by omega)]
  have hmatch := matchUtcIso_text hyear hmo hd hh hmi hs hf
  rw [← htext] at hmatch
  have hcomp : UtcIsoMatch.dateTime ⟨decimal (dateTimeOf s).year.toNat, pad2 (dateTimeOf s).month,
      pad2 (dateTimeOf s).day, pad2 (dateTimeOf s).hour, pad2 (dateTimeOf s).minute, pad2 (dateTimeOf s).second,
      frac⟩ = dateTimeOf s := by
    have hy : ((dateTimeOf s).year.toNat : Int) = (dateTimeOf s).year := Int.toNat_of_nonneg (by omega)
    simp only [UtcIsoMatch.dateTime, digitsValue_decimal, vmo, vd, vh, vmi, vs, hy]
  have hresult := instant_of_match (by obtain ⟨t, rfl⟩ := hz; exact ⟨_, (List.append_assoc ..).symm⟩) hmatch
    (by rwa [hcomp]) (by simp only [digitsValue_decimal]; omega) hn
  rw [hresult, hcomp, secondsOf_dateTimeOf]

/-- A year of more than four digits is no year of a timestamp. -/
theorem matchUtcIso_of_five_digits {y : JsString} (rest : JsString) (hl : 4 < y.length)
    (hd : y.all isDigit) : matchUtcIso (y ++ rest) = none := by
  have hfour : (y.take 4).length = 4 := by simp; omega
  have hsplit : y ++ rest = y.take 4 ++ (y.drop 4 ++ rest) := by
    rw [← List.append_assoc, List.take_append_drop]
  have hunit : takeUnit 0x2D (y.drop 4 ++ rest) = none := by
    match hy : y.drop 4 with
    | [] =>
      have := congrArg List.length hy
      simp at this
      omega
    | u :: t =>
      have hu : isDigit u := List.all_eq_true.mp hd u (List.mem_of_mem_drop (hy ▸ List.mem_cons_self))
      have hne : u ≠ 0x2D := by
        rintro rfl
        exact absurd hu (by decide)
      simp [takeUnit, hne]
  have hdigits : (y.take 4).all isDigit :=
    List.all_eq_true.mpr fun u hu => List.all_eq_true.mp hd u (List.mem_of_mem_take hu)
  rw [hsplit, matchUtcIso, takeDigits_append hfour hdigits]
  simp only [Option.bind_eq_bind, Option.bind_some, hunit, Option.bind_none]

/-- From the year 10000 on a formatted instant does not match. -/
theorem matchUtcIso_formatDateTime {s : Int} (tail : JsString) (h : 253402300800 ≤ s) :
    matchUtcIso (formatDateTime s ++ tail) = none := by
  unfold formatDateTime
  split
  · have hyear : ¬ yearOfDay (s / 86400) < 10000 := by
      rw [yearOfDay_lt_iff, show dayOfYear 10000 = 2932897 from rfl]
      omega
    have hlen : 4 < (decimal (yearOfDay (s / 86400)).toNat).length := by
      rw [← not_le, length_decimal_le_iff (by omega)]
      omega
    have hall := all_isDigit_decimal (yearOfDay (s / 86400)).toNat
    simp only [dateTimeOf, List.append_assoc]
    rw [decimalInt_of_nonneg (by omega)]
    exact matchUtcIso_of_five_digits _ hlen hall
  · rfl

/-- What the deadline arithmetic computes: the instant the given seconds later, while the year has four
digits. -/
theorem instant_addUtcSeconds {t r : JsString} {seconds : Nat} {x : Int} (hx : instant t = some x)
    (h : addUtcSeconds t seconds = .ok r) :
    instant r = if x + seconds * 1000000000 < YEAR_10000 then some (x + seconds * 1000000000) else none := by
  obtain ⟨p, hp, rfl⟩ := instant_eq_some.mp hx
  simp only [addUtcSeconds, formatUtcFromEpochNanos, hp, bind_eq_ok, require_eq_ok, exists_const] at h
  obtain ⟨-, _, hq, h0, -, h⟩ := h
  cases hq
  generalize p.epochNanoseconds + seconds * 1000000000 = n at h h0 ⊢
  have hzero : js ".000Z" = js ".000" ++ [0x5A] := rfl
  have hZ : js "." ++ dropTrailingZeros (padStart (decimalInt (n % 1000000000)) 9 0x30) ++ js "Z" =
      (js "." ++ dropTrailingZeros (padStart (decimalInt (n % 1000000000)) 9 0x30)) ++ [0x5A] := rfl
  unfold YEAR_10000
  split
  · next hlt =>
    split at h
    · next hn =>
      cases h
      have hfrac : takeFraction (js ".000Z") = some (js "000") := by decide
      rw [instant_formatDateTime (by omega) (by omega) ⟨_, hzero⟩ hfrac (by decide)]
      have hv : digitsValue (padEnd (js "000") 9 0x30) = 0 := by decide
      rw [hv]
      congr 1
      omega
    · next hn =>
      cases h
      obtain ⟨hf, hv⟩ := fraction_spec (n := n % 1000000000) (by omega) (by omega)
      rw [List.append_assoc, List.append_assoc, ← List.append_assoc (js "."),
        instant_formatDateTime (by omega) (by omega) ⟨_, hZ⟩ hf (by omega), hv]
      congr 1
      omega
  · next hge =>
    split at h
    · cases h
      exact instant_eq_none (matchUtcIso_formatDateTime _ (by omega))
    · cases h
      rw [List.append_assoc, List.append_assoc]
      exact instant_eq_none (matchUtcIso_formatDateTime _ (by omega))

/-- A result is a timestamp, and the one that many seconds later, exactly when that instant lies before the year 10000. -/
theorem addUtcSeconds_exact_iff {t r : JsString} {seconds : Nat} {parsed : ParsedUtcTimestamp}
    (ht : parseUtcTimestamp t = .ok parsed) (h : addUtcSeconds t seconds = .ok r) :
    (∃ result, parseUtcTimestamp r = .ok result ∧
        result.epochNanoseconds = parsed.epochNanoseconds + seconds * 1000000000) ↔
      parsed.epochNanoseconds + seconds * 1000000000 < YEAR_10000 := by
  rw [← instant_eq_some, instant_addUtcSeconds (instant_eq_some.mpr ⟨parsed, ht, rfl⟩) h]
  split
  · next hlt => exact iff_of_true rfl hlt
  · next hge => exact iff_of_false (by simp) hge

theorem addUtcSeconds_exact_iff_2026 : addUtcSeconds (js "2026-02-28T23:59:59.25Z") 1 = .ok (js "2026-03-01T00:00:00.25Z") ∧
    ∃ result, parseUtcTimestamp (js "2026-03-01T00:00:00.25Z") = .ok result ∧
      result.epochNanoseconds = 1772323199250000000 + (1 : Nat) * 1000000000 := by
  have ht : parseUtcTimestamp (js "2026-02-28T23:59:59.25Z") =
      .ok ⟨1772323199, 250000000, 1772323199250000000, js "2026-02-28T23:59:59.25Z"⟩ := by decide
  have h : addUtcSeconds (js "2026-02-28T23:59:59.25Z") 1 = .ok (js "2026-03-01T00:00:00.25Z") := by decide
  exact ⟨h, (addUtcSeconds_exact_iff ht h).mpr (by decide)⟩

/-- The last second of the year 9999 has a successor with five digits in its year, which is not accepted. -/
theorem addUtcSeconds_leaves_range : isUtcIsoTimestamp (js "9999-12-31T23:59:59Z") ∧
    addUtcSeconds (js "9999-12-31T23:59:59Z") 1 = .ok (js "10000-01-01T00:00:00.000Z") ∧
    ¬ isUtcIsoTimestamp (js "10000-01-01T00:00:00.000Z") := by decide

end RouteGuard.Lifecycle
