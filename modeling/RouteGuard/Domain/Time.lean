import RouteGuard.Lib.Calendar
import RouteGuard.Lib.Decimal
import RouteGuard.Lib.Guarded

/-!
# UTC timestamps

Timestamps are compared by their epoch nanoseconds.

* `parseUtcTimestamp` : the parser, with the message of the error it throws;
* `compareUtc`, `isBeforeOrEqualUtc` : the comparisons, which throw where a side does not parse;
* `instant` : the epoch nanoseconds of an accepted string.
-/

namespace RouteGuard
open JsString Guarded Calendar

structure ParsedUtcTimestamp where
  epochSeconds : Int
  nanoseconds : Nat
  epochNanoseconds : Int
  canonical : JsString
  deriving DecidableEq, Repr

/-! ## The pattern -/

/-- `\d{n}` and what follows. -/
def takeDigits (n : Nat) (s : JsString) : Option (JsString × JsString) :=
  if (s.take n).length = n ∧ (s.take n).all isDigit then some (s.take n, s.drop n) else none

/-- One given unit and what follows. -/
def takeUnit (u : UInt16) : JsString → Option JsString
  | [] => none
  | v :: rest => if v = u then some rest else none

/-- `(?:\.(\d{1,9}))?Z$`. -/
def takeFraction : JsString → Option JsString
  | [] => none
  | u :: rest =>
    if u = 0x5A then if rest = [] then some [] else none
    else if u = 0x2E then
      let frac := rest.takeWhile isDigit
      if 1 ≤ frac.length ∧ frac.length ≤ 9 ∧ rest.drop frac.length = [0x5A] then some frac else none
    else none

/-- The groups of `UTC_ISO_RE`. -/
structure UtcIsoMatch where
  year : JsString
  month : JsString
  day : JsString
  hour : JsString
  minute : JsString
  second : JsString
  frac : JsString
  deriving DecidableEq, Repr

def matchUtcIso (s : JsString) : Option UtcIsoMatch := do
  let (year, s) ← takeDigits 4 s
  let s ← takeUnit 0x2D s
  let (month, s) ← takeDigits 2 s
  let s ← takeUnit 0x2D s
  let (day, s) ← takeDigits 2 s
  let s ← takeUnit 0x54 s
  let (hour, s) ← takeDigits 2 s
  let s ← takeUnit 0x3A s
  let (minute, s) ← takeDigits 2 s
  let s ← takeUnit 0x3A s
  let (second, s) ← takeDigits 2 s
  let frac ← takeFraction s
  return ⟨year, month, day, hour, minute, second, frac⟩

/-- `/[+-]\d{2}:\d{2}$/`, read from the end. -/
def endsWithOffset (s : JsString) : Bool :=
  match s.reverse with
  | m2 :: m1 :: colon :: h2 :: h1 :: sign :: _ =>
    isDigit m2 && isDigit m1 && colon = 0x3A && isDigit h2 && isDigit h1 && (sign = 0x2B || sign = 0x2D)
  | _ => false

/-! ## The calendar checks -/

def isLeapYear (year : Nat) : Bool := (year % 4 = 0 && year % 100 ≠ 0) || year % 400 = 0

def DAYS_IN_MONTH : List Nat := [31, 28, 31, 30, 31, 30, 31, 31, 30, 31, 30, 31]

def daysInMonth (year month : Nat) : Nat :=
  if month = 2 ∧ isLeapYear year then 29 else (DAYS_IN_MONTH[month - 1]?).getD 0

/-- `Date.UTC` in milliseconds; the years 0 to 99 stand for 1900 to 1999. -/
def dateUTC (t : DateTime) : Int :=
  secondsOf { t with year := if 0 ≤ t.year ∧ t.year ≤ 99 then 1900 + t.year else t.year } * 1000

def parseUtcTimestamp (value : JsString) : Except JsString ParsedUtcTimestamp := do
  require (¬ (endsWithOffset value ∨ (js "+00:00").isSuffixOf value))
    (js "Timezone offsets are not allowed: " ++ value)
  match matchUtcIso value with
  | none => .error (js "Invalid UTC ISO-8601 timestamp: " ++ value)
  | some m => do
    let year := digitsValue m.year
    let month := digitsValue m.month
    let day := digitsValue m.day
    let hour := digitsValue m.hour
    let minute := digitsValue m.minute
    let second := digitsValue m.second
    require (1 ≤ month ∧ month ≤ 12) (js "Invalid month in timestamp: " ++ value)
    require (1 ≤ day ∧ day ≤ daysInMonth year month) (js "Impossible calendar date in timestamp: " ++ value)
    require (hour ≤ 23 ∧ minute ≤ 59 ∧ second ≤ 59) (js "Invalid clock component in timestamp: " ++ value)
    let ms := dateUTC ⟨year, month, day, hour, minute, second⟩
    require (dateTimeOf (ms / 1000) = ⟨year, month, day, hour, minute, second⟩)
      (js "UTC round-trip failed for timestamp: " ++ value)
    let nanoseconds := digitsValue (padEnd m.frac 9 0x30)
    require (nanoseconds ≤ 999999999) (js "Invalid fractional seconds in timestamp: " ++ value)
    let epochSeconds := ms / 1000
    pure ⟨epochSeconds, nanoseconds, epochSeconds * 1000000000 + nanoseconds, value⟩

def isUtcIsoTimestamp (value : JsString) : Bool := (parseUtcTimestamp value).toOption.isSome

def compareUtc (a b : JsString) : Except JsString Int := do
  let left ← parseUtcTimestamp a
  let right ← parseUtcTimestamp b
  pure (if left.epochNanoseconds < right.epochNanoseconds then -1
    else if left.epochNanoseconds > right.epochNanoseconds then 1 else 0)

def isBeforeOrEqualUtc (a b : JsString) : Except JsString Bool := do
  let c ← compareUtc a b
  pure (c ≤ 0)

/-! ## Instants -/

/-- The epoch nanoseconds of an accepted timestamp. -/
def instant (value : JsString) : Option Int :=
  (parseUtcTimestamp value).toOption.map ParsedUtcTimestamp.epochNanoseconds

theorem instant_eq_some {value : JsString} {n : Int} :
    instant value = some n ↔ ∃ p, parseUtcTimestamp value = .ok p ∧ p.epochNanoseconds = n := by
  unfold instant
  cases parseUtcTimestamp value <;> simp [Except.toOption]

theorem isUtcIsoTimestamp_iff {value : JsString} : isUtcIsoTimestamp value ↔ ∃ n, instant value = some n := by
  unfold isUtcIsoTimestamp instant
  cases parseUtcTimestamp value <;> simp [Except.toOption]

theorem compareUtc_eq_ok {a b : JsString} {c : Int} :
    compareUtc a b = .ok c ↔ ∃ x y, instant a = some x ∧ instant b = some y ∧
      (if x < y then -1 else if x > y then 1 else 0) = c := by
  simp only [compareUtc, bind_eq_ok, pure_eq_ok, instant_eq_some]
  constructor
  · rintro ⟨p, hp, q, hq, h⟩
    exact ⟨_, _, ⟨p, hp, rfl⟩, ⟨q, hq, rfl⟩, h⟩
  · rintro ⟨_, _, ⟨p, hp, rfl⟩, ⟨q, hq, rfl⟩, h⟩
    exact ⟨p, hp, q, hq, h⟩

/-- A test of a comparison is a test of the two instants. -/
theorem compareUtc_test_eq_ok {a b : JsString} {r : Bool} {P : Int → Prop} [DecidablePred P] {R : Int → Int → Prop}
    (h : ∀ x y, P (if x < y then -1 else if x > y then 1 else 0) ↔ R x y) :
    (do let c ← compareUtc a b; pure (decide (P c))) = .ok r ↔
      ∃ x y, instant a = some x ∧ instant b = some y ∧ (R x y ↔ r) := by
  simp only [bind_eq_ok, pure_eq_ok, compareUtc_eq_ok]
  constructor
  · rintro ⟨_, ⟨x, y, hx, hy, rfl⟩, rfl⟩
    exact ⟨x, y, hx, hy, by rw [decide_eq_true_eq, h]⟩
  · rintro ⟨x, y, hx, hy, hr⟩
    exact ⟨_, ⟨x, y, hx, hy, rfl⟩, by rw [Bool.eq_iff_iff, ← hr, decide_eq_true_eq, h]⟩

theorem isBeforeOrEqualUtc_eq_ok {a b : JsString} {r : Bool} :
    isBeforeOrEqualUtc a b = .ok r ↔ ∃ x y, instant a = some x ∧ instant b = some y ∧ (x ≤ y ↔ r) :=
  compareUtc_test_eq_ok fun x y => by split_ifs <;> omega

/-! ## The accepted strings -/

/-- The components of a match. -/
def UtcIsoMatch.dateTime (m : UtcIsoMatch) : DateTime :=
  ⟨digitsValue m.year, digitsValue m.month, digitsValue m.day, digitsValue m.hour, digitsValue m.minute,
   digitsValue m.second⟩

theorem takeDigits_append {n : Nat} {t rest : JsString} (hl : t.length = n) (hd : t.all isDigit) :
    takeDigits n (t ++ rest) = some (t, rest) := by
  unfold takeDigits
  rw [List.take_left' hl, List.drop_left' hl, if_pos ⟨hl, hd⟩]

theorem takeUnit_cons (u : UInt16) (rest : JsString) : takeUnit u (u :: rest) = some rest := by
  simp [takeUnit]

theorem takeFraction_digits {frac : JsString} (hd : frac.all isDigit) (hl : 1 ≤ frac.length)
    (hu : frac.length ≤ 9) : takeFraction (0x2E :: (frac ++ [0x5A])) = some frac := by
  have htake : (frac ++ [0x5A]).takeWhile isDigit = frac := by
    rw [List.takeWhile_append_of_pos (List.all_eq_true.mp hd)]
    simp [show isDigit 0x5A = false from rfl]
  simp [takeFraction, htake, hu, Nat.pos_iff_ne_zero.mp hl]

/-- A string that ends in `Z` has no offset. -/
theorem no_offset (s : JsString) :
    ¬ (endsWithOffset (s ++ [0x5A]) ∨ (js "+00:00").isSuffixOf (s ++ [0x5A])) := by
  rintro (h | h)
  · simp only [endsWithOffset, List.reverse_append, List.reverse_singleton, List.singleton_append] at h
    split at h
    · next heq =>
      obtain ⟨rfl, -⟩ := List.cons.inj heq
      revert h
      simp [show isDigit 0x5A = false from rfl]
    · cases h
  · obtain ⟨t, ht⟩ := List.isSuffixOf_iff_suffix.mp h
    have hlast := congrArg List.getLast? ht
    rw [List.getLast?_append, List.getLast?_append] at hlast
    revert hlast
    simp [js_eq, encodeChar, encodePoint]

/-- Written out component by component, a timestamp matches with these components. -/
theorem matchUtcIso_text {y mo d h mi s : JsString} {frac tail : JsString}
    (hy : y.length = 4 ∧ y.all isDigit) (hmo : mo.length = 2 ∧ mo.all isDigit)
    (hd : d.length = 2 ∧ d.all isDigit) (hh : h.length = 2 ∧ h.all isDigit)
    (hmi : mi.length = 2 ∧ mi.all isDigit) (hs : s.length = 2 ∧ s.all isDigit)
    (hf : takeFraction tail = some frac) :
    matchUtcIso (y ++ js "-" ++ mo ++ js "-" ++ d ++ js "T" ++ h ++ js ":" ++ mi ++ js ":" ++ s ++ tail) =
      some ⟨y, mo, d, h, mi, s, frac⟩ := by
  have hsep : js "-" = [0x2D] ∧ js "T" = [0x54] ∧ js ":" = [0x3A] := ⟨rfl, rfl, rfl⟩
  simp only [hsep, List.append_assoc, List.cons_append, List.nil_append]
  unfold matchUtcIso
  simp only [takeDigits_append hy.1 hy.2, takeDigits_append hmo.1 hmo.2, takeDigits_append hd.1 hd.2,
    takeDigits_append hh.1 hh.2, takeDigits_append hmi.1 hmi.2, takeDigits_append hs.1 hs.2, takeUnit_cons, hf,
    Option.bind_eq_bind, Option.bind_some, Option.pure_def]

theorem daysInMonth_eq (year : Nat) {month : Nat} (h1 : 1 ≤ month) (h12 : month ≤ 12) :
    (daysInMonth year month : Int) =
      daysBefore (isLeap year) (month + 1) - daysBefore (isLeap year) month := by
  have hleap : isLeap year = isLeapYear year := by
    unfold isLeap isLeapYear
    norm_cast
  rw [hleap]
  unfold daysInMonth
  cases isLeapYear year <;> interval_cases month <;> rfl

theorem dateUTC_of_year {t : DateTime} (h : 100 ≤ t.year) : dateUTC t = secondsOf t * 1000 := by
  have : ¬ (0 ≤ t.year ∧ t.year ≤ 99) := by omega
  simp [dateUTC, this]

/-- A match with the components of a real instant, from the year 100 on, is accepted. -/
theorem instant_of_match {value : JsString} {m : UtcIsoMatch} (hz : ∃ s, value = s ++ [0x5A])
    (hm : matchUtcIso value = some m) (hv : m.dateTime.Valid) (hy : 100 ≤ digitsValue m.year)
    (hn : digitsValue (padEnd m.frac 9 0x30) ≤ 999999999) :
    instant value = some (secondsOf m.dateTime * 1000000000 + digitsValue (padEnd m.frac 9 0x30)) := by
  obtain ⟨s, rfl⟩ := hz
  have hms : dateUTC m.dateTime = secondsOf m.dateTime * 1000 :=
    dateUTC_of_year (show (100 : Int) ≤ digitsValue m.year by exact_mod_cast hy)
  have hdiv : dateUTC m.dateTime / 1000 = secondsOf m.dateTime := by omega
  obtain ⟨⟨hmo1, hmo2⟩, ⟨hd1, hd2⟩, ⟨-, hh⟩, ⟨-, hmi⟩, -, hse⟩ := id hv
  simp only [UtcIsoMatch.dateTime] at hmo1 hmo2 hd1 hd2 hh hmi hse
  norm_cast at hmo1 hmo2 hd1 hh hmi hse
  have hdim := daysInMonth_eq (digitsValue m.year) hmo1 hmo2
  have hday : digitsValue m.day ≤ daysInMonth (digitsValue m.year) (digitsValue m.month) := by
    omega
  refine instant_eq_some.mpr ⟨⟨secondsOf m.dateTime, digitsValue (padEnd m.frac 9 0x30), _,
    s ++ [0x5A]⟩, ?_, rfl⟩
  simp only [parseUtcTimestamp, hm, bind_eq_ok, require_eq_ok, exists_const, pure_eq_ok]
  refine ⟨no_offset s, ⟨hmo1, hmo2⟩, ⟨hd1, hday⟩, ⟨hh, hmi, hse⟩, ?_, hn, ?_⟩
  · show dateTimeOf (dateUTC m.dateTime / 1000) = m.dateTime
    rw [hdiv, dateTimeOf_secondsOf hv]
  · show ParsedUtcTimestamp.mk (dateUTC m.dateTime / 1000) _ (dateUTC m.dateTime / 1000 * 1000000000 + _) _ = _
    rw [hdiv]

theorem instant_eq_none {value : JsString} (h : matchUtcIso value = none) : instant value = none := by
  rw [Option.eq_none_iff_forall_ne_some]
  intro n hn
  obtain ⟨p, hp, -⟩ := instant_eq_some.mp hn
  simp only [parseUtcTimestamp, h, bind_eq_ok] at hp
  obtain ⟨-, -, hp⟩ := hp
  cases hp

end RouteGuard
