import RouteGuard.Domain.TimestampText
import RouteGuard.Reservation.FailureBoundary

/-!
# Consensus timestamps of the Mirror node

A consensus timestamp is written as seconds and a fraction. It is converted to a UTC timestamp, and back.

* `mirrorTimestampToUtcIso` : the conversion, with the messages of its errors;
* `utcIsoToMirrorTimestamp` : the inverse, which is written apart;
* `stampOf` : the seconds and the nanoseconds that an accepted text stands for;
* `mirrorTimestamp_exact_iff` : the conversion is exact, in both directions and for the order, exactly before the
  year 10000.
-/

namespace RouteGuard.Hcs
open JsString Guarded Calendar Reservation Lifecycle

/-! ## To a UTC timestamp -/

/-- The groups of `^(\d+)\.(\d{1,9})$`. -/
structure MirrorTimestampMatch where
  seconds : JsString
  nanos : JsString
  deriving DecidableEq, Repr

def matchMirrorTimestamp (mirrorTs : JsString) : Option MirrorTimestampMatch :=
  match splitOn 0x2E mirrorTs with
  | [seconds, nanos] =>
    if isDigits seconds && isDigits nanos && nanos.length ≤ 9 then some ⟨seconds, nanos⟩ else none
  | _ => none

/-- The loop that cuts zeros off the end, on the digits from the last one on; one digit stays. -/
def cutZeros : JsString → JsString
  | [] => []
  | [u] => [u]
  | u :: v :: rest => if u = 0x30 then cutZeros (v :: rest) else u :: v :: rest

def trimFraction (nanos : JsString) : JsString := (cutZeros nanos.reverse).reverse

/-- What follows the seconds. -/
def fractionSuffix (nanos : JsString) : JsString :=
  let frac := trimFraction nanos
  if frac = js "000000000" ∨ frac = js "0" then js "Z" else js "." ++ frac ++ js "Z"

/-- The message of the `MirrorNodeError`. -/
def mirrorTimestampToUtcIso (mirrorTs : JsString) : Except JsString JsString :=
  match matchMirrorTimestamp (trim mirrorTs) with
  | none =>
    -- already a UTC timestamp
    if isUtcIsoTimestamp mirrorTs then .ok mirrorTs
    else .error (js "Invalid Mirror consensus timestamp: " ++ mirrorTs)
  | some m => do
    let seconds : Nat := digitsValue m.seconds
    require (seconds ≤ MAX_SAFE_INTEGER) (js "Invalid Mirror consensus seconds: " ++ mirrorTs)
    let nanos := (padEnd m.nanos 9 0x30).take 9
    require (seconds * 1000 ≤ 8640000000000000) (js "Unrepresentable Mirror consensus timestamp: " ++ mirrorTs)
    let t := dateTimeOf seconds
    pure (padStart (decimalInt t.year) 4 0x30 ++ js "-" ++ pad2 t.month ++ js "-" ++ pad2 t.day ++ js "T" ++
      pad2 t.hour ++ js ":" ++ pad2 t.minute ++ js ":" ++ pad2 t.second ++ fractionSuffix nanos)

/-! ## And back -/

/-- `Date.UTC` of components that may be out of range: months carry into the year, the rest adds up. -/
def dateUTCOf (t : DateTime) : Int :=
  let year := if 0 ≤ t.year ∧ t.year ≤ 99 then 1900 + t.year else t.year
  secondsOf { t with year := year + (t.month - 1) / 12, month := (t.month - 1) % 12 + 1 } * 1000

/-- Texts of another form go to `Date.parse`, in milliseconds. -/
def utcIsoToMirrorTimestamp (dateParse : JsString → Option Int) (iso : JsString) : Except JsString JsString :=
  match matchUtcIso iso with
  | none =>
    match dateParse iso with
    | none => .error (js "Invalid consensus timestamp")
    | some ms => .ok (decimalInt (ms / 1000) ++ js ".000000000")
  | some m => .ok (decimalInt (dateUTCOf m.dateTime / 1000) ++ js "." ++ (padEnd m.frac 9 0x30).take 9)

/-! ## What an accepted text stands for -/

/-- The seconds and the nanoseconds of a text, which a UTC timestamp has from its instant. -/
def stampOf (mirrorTs : JsString) : Option (Int × Int) :=
  match matchMirrorTimestamp (trim mirrorTs) with
  | some m => some (digitsValue m.seconds, digitsValue (padEnd m.nanos 9 0x30))
  | none => (instant mirrorTs).map fun x => (x / 1000000000, x % 1000000000)

/-- The first second of the year 10000. -/
def SECONDS_10000 : Int := 253402300800

/-- The conversion of a stamp is accepted at its instant and gives the stamp back, with nine digits. -/
structure Exactly (dateParse : JsString → Option Int) (iso : JsString) (seconds nanos : Int) : Prop where
  accepted : ∃ parsed, parseUtcTimestamp iso = .ok parsed ∧
    parsed.epochNanoseconds = seconds * 1000000000 + nanos
  back : utcIsoToMirrorTimestamp dateParse iso =
    .ok (decimalInt seconds ++ js "." ++ padStart (decimalInt nanos) 9 0x30)

section Fraction
variable {nanos : JsString}

/-- What is cut off is zeros, and something stays. -/
theorem cutZeros_spec (s : JsString) : ∃ k, s = List.replicate k 0x30 ++ cutZeros s ∧ (s ≠ [] → cutZeros s ≠ []) := by
  induction s using cutZeros.induct with
  | case1 => exact ⟨0, rfl, id⟩
  | case2 u => exact ⟨0, rfl, id⟩
  | case3 v rest ih =>
    obtain ⟨k, hsplit, hne⟩ := ih
    have hcut : cutZeros (0x30 :: v :: rest) = cutZeros (v :: rest) := by rw [cutZeros, if_pos rfl]
    rw [hcut]
    refine ⟨k + 1, ?_, fun _ => hne (List.cons_ne_nil _ _)⟩
    rw [List.replicate_succ, List.cons_append, ← hsplit]
  | case4 u v rest hu =>
    have hcut : cutZeros (u :: v :: rest) = u :: v :: rest := by rw [cutZeros, if_neg hu]
    rw [hcut]
    exact ⟨0, rfl, id⟩

theorem trimFraction_spec (nanos : JsString) :
    ∃ k, nanos = trimFraction nanos ++ List.replicate k 0x30 ∧ (nanos ≠ [] → trimFraction nanos ≠ []) := by
  obtain ⟨k, hsplit, hne⟩ := cutZeros_spec nanos.reverse
  refine ⟨k, ?_, ?_⟩
  · have hback := congrArg List.reverse hsplit
    rwa [List.reverse_reverse, List.reverse_append, List.reverse_replicate] at hback
  · intro h
    rw [trimFraction, Ne, List.reverse_eq_nil_iff]
    exact hne (mt List.reverse_eq_nil_iff.mp h)

/-- The suffix reads back as the nine digits that were written. -/
theorem takeFraction_fractionSuffix (hlength : nanos.length = 9) (hdigits : nanos.all isDigit) :
    ∃ frac, takeFraction (fractionSuffix nanos) = some frac ∧ padEnd frac 9 0x30 = nanos ∧
      ∃ t, fractionSuffix nanos = t ++ [0x5A] := by
  obtain ⟨k, hsplit, hne⟩ := trimFraction_spec nanos
  have hlen := congrArg List.length hsplit
  rw [List.length_append, List.length_replicate, hlength] at hlen
  by_cases hzero : trimFraction nanos = js "000000000" ∨ trimFraction nanos = js "0"
  · refine ⟨[], ?_, ?_, [], ?_⟩
    · rw [fractionSuffix, if_pos hzero]
      rfl
    · rcases hzero with h | h
      · rw [h] at hsplit hlen
        have hk : k = 0 := by
          have hnine : (js "000000000").length = 9 := by decide
          omega
        rw [hsplit, hk]
        decide
      · rw [h] at hsplit hlen
        have hk : k = 8 := by
          have hone : (js "0").length = 1 := by decide
          omega
        rw [hsplit, hk]
        decide
    · rw [fractionSuffix, if_pos hzero]
      rfl
  · have hall : (trimFraction nanos).all isDigit := by
      rw [hsplit, List.all_append, Bool.and_eq_true] at hdigits
      exact hdigits.1
    have hpos : 1 ≤ (trimFraction nanos).length := by
      refine List.length_pos_of_ne_nil (hne ?_)
      rintro rfl
      cases hlength
    have hle : (trimFraction nanos).length ≤ 9 := by omega
    have hzeros : 9 - (trimFraction nanos).length = k := by omega
    refine ⟨trimFraction nanos, ?_, ?_, js "." ++ trimFraction nanos, ?_⟩
    · rw [fractionSuffix, if_neg hzero]
      exact takeFraction_digits hall hpos hle
    · rw [padEnd, hzeros, ← hsplit]
    · rw [fractionSuffix, if_neg hzero]
      rfl

end Fraction

section Conversion
variable {ts iso : JsString} {s n : Int}

theorem isDigits_of_matchMirrorTimestamp {m : MirrorTimestampMatch} (h : matchMirrorTimestamp ts = some m) :
    m.nanos.length ≤ 9 ∧ m.nanos.all isDigit := by
  unfold matchMirrorTimestamp at h
  split at h
  · simp only [Option.ite_none_right_eq_some, Bool.and_eq_true, decide_eq_true_eq, Option.some.injEq] at h
    obtain ⟨⟨⟨-, hnanos⟩, hlength⟩, rfl⟩ := h
    simp only [isDigits, Bool.and_eq_true] at hnanos
    exact ⟨hlength, hnanos.2⟩
  · cases h

theorem padEnd_digits {frac : JsString} (hlength : frac.length ≤ 9) (hdigits : frac.all isDigit) :
    (padEnd frac 9 0x30).length = 9 ∧ (padEnd frac 9 0x30).all isDigit := by
  constructor
  · simp only [padEnd, List.length_append, List.length_replicate]
    omega
  · rw [padEnd, List.all_append, hdigits, Bool.true_and, List.all_eq_true]
    intro u hu
    rw [List.eq_of_mem_replicate hu]
    rfl

/-- A converted stamp, written out. -/
theorem mirrorTimestampToUtcIso_of_match {m : MirrorTimestampMatch} (hm : matchMirrorTimestamp (trim ts) = some m)
    (h : mirrorTimestampToUtcIso ts = .ok iso) :
    iso = formatDateTime (digitsValue m.seconds) ++ fractionSuffix (padEnd m.nanos 9 0x30) := by
  obtain ⟨hlength, hdigits⟩ := isDigits_of_matchMirrorTimestamp hm
  have htake : (padEnd m.nanos 9 0x30).take 9 = padEnd m.nanos 9 0x30 :=
    List.take_of_length_le (padEnd_digits hlength hdigits).1.le
  rw [mirrorTimestampToUtcIso, hm] at h
  simp only [check_eq_ok, require_eq_ok, pure_eq_ok, htake] at h
  obtain ⟨-, hrange, rfl⟩ := h
  rw [formatDateTime, if_pos (by exact_mod_cast hrange), padStart_year (Int.natCast_nonneg _)]

/-- Whole seconds have no fraction. -/
theorem mirrorTimestampToUtcIso_seconds {s : Nat} (h : s < 8640000000000) :
    mirrorTimestampToUtcIso (decimal s ++ js ".000000000") = .ok (formatDateTime s ++ js "Z") := by
  have hdigits := all_isDigit_decimal s
  have hpoint : (0x2E : UInt16) ∉ decimal s := fun hmem => absurd (List.all_eq_true.mp hdigits _ hmem) (by decide)
  have htrim : trim (decimal s ++ js ".000000000") = decimal s ++ js ".000000000" := by
    refine trim_of_not_whitespace fun u hu => ?_
    rcases List.mem_append.mp hu with hu | hu
    · exact not_isWhitespace_of_isDigit (List.all_eq_true.mp hdigits u hu)
    · have hall : (js ".000000000").all (fun v => !isWhitespace v) = true := by decide
      exact Bool.not_eq_true' _ ▸ List.all_eq_true.mp hall u hu
  have hmatch : matchMirrorTimestamp (trim (decimal s ++ js ".000000000")) = some ⟨decimal s, js "000000000"⟩ := by
    have hseconds : isDigits (decimal s) = true := by
      rw [isDigits, hdigits, decide_eq_true (decimal_ne_nil s), Bool.and_self]
    have hsplit : splitOn 0x2E (decimal s ++ js ".000000000") = [decimal s, js "000000000"] := by
      have htail : js ".000000000" = 0x2E :: js "000000000" := rfl
      have hzeros : splitOn 0x2E (js "000000000") = [js "000000000"] := by decide
      rw [htail, splitOn_append _ hpoint, hzeros]
    have hnanos : (isDigits (js "000000000") && decide ((js "000000000").length ≤ 9)) = true := by decide
    rw [htrim, matchMirrorTimestamp, hsplit]
    simp only [hseconds, hnanos, Bool.true_and, if_true]
  have hsafe : s ≤ MAX_SAFE_INTEGER := by
    have hmax : MAX_SAFE_INTEGER = 9007199254740991 := rfl
    omega
  have hrange : s * 1000 ≤ 8640000000000000 := by omega
  have hsuffix : fractionSuffix ((padEnd (js "000000000") 9 0x30).take 9) = js "Z" := by decide
  rw [mirrorTimestampToUtcIso, hmatch]
  simp only [digitsValue_decimal, check_eq_ok, require_eq_ok, pure_eq_ok, hsuffix]
  refine ⟨hsafe, hrange, ?_⟩
  rw [formatDateTime, if_pos (by exact_mod_cast hrange), padStart_year (Int.natCast_nonneg _)]

/-- A timestamp is of a year with four digits. -/
theorem instant_lt {x : Int} (h : instant iso = some x) : x < SECONDS_10000 * 1000000000 := by
  obtain ⟨p, hp, rfl⟩ := instant_eq_some.mp h
  obtain ⟨m, hm, hvalid, -, hn, -, hx⟩ := parseUtcTimestamp_eq_ok hp
  have hyear : m.dateTime.year + 1 ≤ 10000 := by
    obtain ⟨hlength, hdigits⟩ := (matchUtcIso_eq_some hm).1.year
    have hlt := digitsValue_lt hdigits
    rw [hlength] at hlt
    simp only [UtcIsoMatch.dateTime]
    omega
  have hdays := dayOfYear_strictMono.monotone hyear
  have hlast : dayOfYear 10000 = 2932897 := rfl
  have hrange := dayOfDate_range hvalid
  have hhour := hvalid.hour
  have hminute := hvalid.minute
  have hsecond := hvalid.second
  rw [hx]
  simp only [secondsOf, SECONDS_10000]
  omega

/-- What is converted stands at the instant of its stamp, up to the year 9999, and is no timestamp after it. -/
theorem instant_converted (h : mirrorTimestampToUtcIso ts = .ok iso) (hstamp : stampOf ts = some (s, n)) :
    0 ≤ n ∧ n < 1000000000 ∧ instant iso = if s < SECONDS_10000 then some (s * 1000000000 + n) else none := by
  cases hm : matchMirrorTimestamp (trim ts) with
  | none =>
    rw [stampOf, hm] at hstamp
    simp only [Option.map_eq_some_iff, Prod.mk.injEq] at hstamp
    obtain ⟨x, hx, rfl, rfl⟩ := hstamp
    rw [mirrorTimestampToUtcIso, hm] at h
    simp only [isUtcIsoTimestamp_iff.mpr ⟨x, hx⟩, if_true, Except.ok.injEq] at h
    subst h
    have hlt := instant_lt hx
    have hfloor : x / 1000000000 < SECONDS_10000 := by omega
    refine ⟨by omega, by omega, ?_⟩
    rw [hx, if_pos hfloor]
    congr 1
    omega
  | some m =>
    rw [stampOf, hm] at hstamp
    simp only [Option.some.injEq, Prod.mk.injEq] at hstamp
    obtain ⟨rfl, rfl⟩ := hstamp
    obtain ⟨hlength, hdigits⟩ := isDigits_of_matchMirrorTimestamp hm
    obtain ⟨hnine, hall⟩ := padEnd_digits hlength hdigits
    have hlt := digitsValue_lt hall
    rw [hnine] at hlt
    obtain ⟨frac, hfrac, hpad, hz⟩ := takeFraction_fractionSuffix hnine hall
    refine ⟨by omega, by omega, ?_⟩
    rw [mirrorTimestampToUtcIso_of_match hm h]
    split_ifs with hyear
    · rw [instant_formatDateTime (Int.natCast_nonneg _) hyear hz hfrac (by rw [hpad]; omega), hpad]
    · exact instant_eq_none (matchUtcIso_formatDateTime _ (not_lt.mp hyear))

/-! ## The way back -/

theorem dateUTCOf_valid {t : DateTime} (h : t.Valid) (hyear : 100 ≤ t.year) : dateUTCOf t = secondsOf t * 1000 := by
  have hmonth := h.month
  have hcarry : (t.month - 1) / 12 = 0 := by omega
  have hback : (t.month - 1) % 12 + 1 = t.month := by omega
  rw [dateUTCOf, if_neg (by omega), hcarry, hback, Int.add_zero]

/-- The nine digits of a number of nanoseconds. -/
theorem padStart_digitsValue {digits : JsString} (hlength : digits.length = 9) (hdigits : digits.all isDigit) :
    padStart (decimalInt (digitsValue digits)) 9 0x30 = digits := by
  have hlt := digitsValue_lt hdigits
  rw [hlength] at hlt
  have hshort : (decimal (digitsValue digits)).length ≤ 9 := (length_decimal_le_iff (by omega)).mpr hlt
  have hvalue : digitsValue (padStart (decimal (digitsValue digits)) 9 0x30) = digitsValue digits := by
    rw [digitsValue_padStart, digitsValue_decimal]
  exact eq_of_digitsValue_eq (all_isDigit_padStart 9 (all_isDigit_decimal _)) hdigits
    ((length_padStart _ hshort).trans hlength.symm) hvalue

theorem utcIsoToMirrorTimestamp_of_instant (dateParse : JsString → Option Int) (h0 : 0 ≤ n) (hlt : n < 1000000000)
    (h : instant iso = some (s * 1000000000 + n)) :
    utcIsoToMirrorTimestamp dateParse iso = .ok (decimalInt s ++ js "." ++ padStart (decimalInt n) 9 0x30) := by
  obtain ⟨p, hp, hx⟩ := instant_eq_some.mp h
  obtain ⟨m, hm, hvalid, hyear, hnanos, -, hinstant⟩ := parseUtcTimestamp_eq_ok hp
  have hwf := (matchUtcIso_eq_some hm).1
  obtain ⟨hnine, hall⟩ := padEnd_digits hwf.width hwf.digits
  rw [hx] at hinstant
  have hs : secondsOf m.dateTime = s := by omega
  have hn : (digitsValue (padEnd m.frac 9 0x30) : Int) = n := by
    simp only [UtcIsoMatch.nanoseconds] at hinstant hnanos
    omega
  have hdiv : dateUTCOf m.dateTime / 1000 = s := by
    rw [dateUTCOf_valid hvalid hyear, Int.mul_ediv_cancel _ (by omega), hs]
  rw [utcIsoToMirrorTimestamp, hm]
  simp only [hdiv, List.take_of_length_le hnine.le, ← hn, padStart_digitsValue hnine hall]

theorem exactly_iff_instant (dateParse : JsString → Option Int) (h0 : 0 ≤ n) (hlt : n < 1000000000) :
    Exactly dateParse iso s n ↔ instant iso = some (s * 1000000000 + n) := by
  constructor
  · intro h
    exact instant_eq_some.mpr h.accepted
  · intro h
    exact ⟨instant_eq_some.mp h, utcIsoToMirrorTimestamp_of_instant dateParse h0 hlt h⟩

end Conversion

/-- A stamp before the year 10000 is converted exactly, in both directions, and two of them are compared as they
are; no other one is. -/
theorem mirrorTimestamp_exact_iff (dateParse : JsString → Option Int) {ts iso : JsString} {s n : Int}
    (h : mirrorTimestampToUtcIso ts = .ok iso) (hstamp : stampOf ts = some (s, n)) :
    (Exactly dateParse iso s n ↔ s < SECONDS_10000) ∧
      ∀ ts' iso' s' n', mirrorTimestampToUtcIso ts' = .ok iso' → stampOf ts' = some (s', n') →
        (compareUtc iso iso' = .ok (if s < s' ∨ s = s' ∧ n < n' then -1 else if s = s' ∧ n = n' then 0 else 1) ↔
          s < SECONDS_10000 ∧ s' < SECONDS_10000) := by
  obtain ⟨h0, hlt, hinstant⟩ := instant_converted h hstamp
  constructor
  · rw [exactly_iff_instant dateParse h0 hlt, hinstant, Option.ite_none_right_eq_some]
    exact and_iff_left rfl
  · intro ts' iso' s' n' h' hstamp'
    obtain ⟨h0', hlt', hinstant'⟩ := instant_converted h' hstamp'
    simp only [compareUtc_eq_ok, hinstant, hinstant', Option.ite_none_right_eq_some, Option.some.injEq]
    constructor
    · rintro ⟨x, y, ⟨hs, -⟩, ⟨hs', -⟩, -⟩
      exact ⟨hs, hs'⟩
    · rintro ⟨hs, hs'⟩
      refine ⟨_, _, ⟨hs, rfl⟩, ⟨hs', rfl⟩, ?_⟩
      split_ifs <;> omega

/-- A consensus timestamp of the year 10000 is converted to a text that the parser refuses. -/
theorem year_10000_not_accepted :
    mirrorTimestampToUtcIso (js "253402300800.000000001") = .ok (js "10000-01-01T00:00:00.000000001Z") ∧
      stampOf (js "253402300800.000000001") = some (253402300800, 1) ∧
      ¬ ∃ parsed, parseUtcTimestamp (js "10000-01-01T00:00:00.000000001Z") = .ok parsed ∧
        parsed.epochNanoseconds = 253402300800000000001 := by
  refine ⟨by decide, by decide, ?_⟩
  rintro ⟨parsed, hparsed, -⟩
  have hnone : (parseUtcTimestamp (js "10000-01-01T00:00:00.000000001Z")).toOption = none := by decide
  rw [hparsed] at hnone
  cases hnone

/-- A fraction of one digit, before one of nine. -/
theorem mirrorTimestamp_exact_2026 :
    Exactly (fun _ => none) (js "2026-07-01T10:00:00.5Z") 1782900000 500000000 ∧
      compareUtc (js "2026-07-01T10:00:00.5Z") (js "2026-07-01T10:00:00.500000001Z") = .ok (-1) := by
  have h : mirrorTimestampToUtcIso (js "1782900000.5") = .ok (js "2026-07-01T10:00:00.5Z") := by decide
  have hstamp : stampOf (js "1782900000.5") = some (1782900000, 500000000) := by decide
  have h' : mirrorTimestampToUtcIso (js "1782900000.500000001") = .ok (js "2026-07-01T10:00:00.500000001Z") := by
    decide
  have hstamp' : stampOf (js "1782900000.500000001") = some (1782900000, 500000001) := by decide
  obtain ⟨hexact, horder⟩ := mirrorTimestamp_exact_iff (fun _ => none) h hstamp
  exact ⟨hexact.mpr (by decide), (horder _ _ _ _ h' hstamp').mpr (by decide)⟩

end RouteGuard.Hcs
