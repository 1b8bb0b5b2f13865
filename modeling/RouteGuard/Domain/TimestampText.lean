import RouteGuard.Domain.Chronology
import RouteGuard.Lib.DigitOrder

/-!
# Timestamps compared as strings

Two accepted timestamps with fractions of one width are ordered by their code units as they are by their instants. With
fractions of two widths they may not be: `Z` lies above the digits and above the point.

* `matchUtcIso_eq_some` : the text of an accepted timestamp;
* `Misordered` : two timestamps of one second whose fractions are written out of order;
* `lt_iff_earlier_iff` : strings and instants agree exactly on the other pairs.
-/

namespace RouteGuard
open JsString Calendar

/-! ## The text -/

theorem takeDigits_eq_some {n : Nat} {s t rest : JsString} (h : takeDigits n s = some (t, rest)) :
    t.length = n ∧ t.all isDigit ∧ s = t ++ rest := by
  unfold takeDigits at h
  split_ifs at h with hd
  cases h
  exact ⟨hd.1, hd.2, (List.take_append_drop n s).symm⟩

theorem takeUnit_eq_some {u : UInt16} {s rest : JsString} (h : takeUnit u s = some rest) : s = u :: rest := by
  cases s with
  | nil => cases h
  | cons v s =>
    rw [takeUnit] at h
    split_ifs at h with hu
    cases h
    rw [hu]

/-- The part after the seconds. -/
def fractionText (frac : JsString) : JsString := if frac = [] then [0x5A] else 0x2E :: (frac ++ [0x5A])

theorem takeFraction_eq_some {s frac : JsString} (h : takeFraction s = some frac) :
    frac.all isDigit ∧ frac.length ≤ 9 ∧ s = fractionText frac := by
  cases s with
  | nil => cases h
  | cons u rest =>
    simp only [takeFraction] at h
    split_ifs at h with hz hnil hpoint hfrac
    · cases h
      rw [hz, hnil]
      exact ⟨rfl, by simp, rfl⟩
    · cases h
      obtain ⟨hpos, hle, hrest⟩ := hfrac
      refine ⟨List.all_eq_true.mpr fun v hv => List.mem_takeWhile_imp hv, hle, ?_⟩
      have hsplit : rest = rest.takeWhile isDigit ++ [0x5A] := by
        conv_lhs => rw [← List.take_append_drop (rest.takeWhile isDigit).length rest, hrest]
        rw [← List.prefix_iff_eq_take.mp (List.takeWhile_prefix isDigit)]
      rw [fractionText, if_neg (List.length_pos_iff.mp hpos), ← hsplit, hpoint]

/-- Two digits of a component, or the four of a year. -/
def IsDigits (n : Nat) (s : JsString) : Prop := s.length = n ∧ s.all isDigit

/-- The widths and the digits of a match. -/
structure UtcIsoMatch.WellFormed (m : UtcIsoMatch) : Prop where
  year : IsDigits 4 m.year
  month : IsDigits 2 m.month
  day : IsDigits 2 m.day
  hour : IsDigits 2 m.hour
  minute : IsDigits 2 m.minute
  second : IsDigits 2 m.second
  digits : m.frac.all isDigit
  width : m.frac.length ≤ 9

/-- The text a match was read from. -/
def UtcIsoMatch.text (m : UtcIsoMatch) : JsString :=
  m.year ++ 0x2D :: (m.month ++ 0x2D :: (m.day ++ 0x54 :: (m.hour ++ 0x3A :: (m.minute ++ 0x3A :: (m.second ++
    fractionText m.frac)))))

theorem matchUtcIso_eq_some {s : JsString} {m : UtcIsoMatch} (h : matchUtcIso s = some m) : m.WellFormed ∧ s = m.text := by
  simp only [matchUtcIso, Option.bind_eq_bind, Option.bind_eq_some_iff, Option.pure_def, Option.some.injEq,
    Prod.exists] at h
  obtain ⟨year, s1, h1, s2, h2, month, s3, h3, s4, h4, day, s5, h5, s6, h6, hour, s7, h7, s8, h8, minute, s9, h9, s10, h10,
    second, s11, h11, frac, hf, rfl⟩ := h
  obtain ⟨hy, hyd, rfl⟩ := takeDigits_eq_some h1
  obtain ⟨hmo, hmod, rfl⟩ := takeDigits_eq_some h3
  obtain ⟨hd, hdd, rfl⟩ := takeDigits_eq_some h5
  obtain ⟨hh, hhd, rfl⟩ := takeDigits_eq_some h7
  obtain ⟨hmi, hmid, rfl⟩ := takeDigits_eq_some h9
  obtain ⟨hs, hsd, rfl⟩ := takeDigits_eq_some h11
  obtain ⟨hfd, hfl, rfl⟩ := takeFraction_eq_some hf
  refine ⟨⟨⟨hy, hyd⟩, ⟨hmo, hmod⟩, ⟨hd, hdd⟩, ⟨hh, hhd⟩, ⟨hmi, hmid⟩, ⟨hs, hsd⟩, hfd, hfl⟩, ?_⟩
  rw [takeUnit_eq_some h2, takeUnit_eq_some h4, takeUnit_eq_some h6, takeUnit_eq_some h8, takeUnit_eq_some h10]
  rfl

/-! ## The order of the texts -/

/-- An earlier second, or the same one and what decides then. -/
def Earlier (t u : DateTime) (last : Prop) : Prop :=
  t.year < u.year ∨ t.year = u.year ∧ (t.month < u.month ∨ t.month = u.month ∧ (t.day < u.day ∨ t.day = u.day ∧
    (t.hour < u.hour ∨ t.hour = u.hour ∧ (t.minute < u.minute ∨ t.minute = u.minute ∧
      (t.second < u.second ∨ t.second = u.second ∧ last)))))

theorem earlier_self {t : DateTime} {last : Prop} : Earlier t t last ↔ last := by simp [Earlier]

theorem earlier_of_ne {t u : DateTime} (h : t ≠ u) (p q : Prop) : Earlier t u p ↔ Earlier t u q := by
  have hne : ¬ (t.year = u.year ∧ t.month = u.month ∧ t.day = u.day ∧ t.hour = u.hour ∧ t.minute = u.minute ∧
      t.second = u.second) := by
    rintro ⟨h1, h2, h3, h4, h5, h6⟩
    cases t
    cases u
    simp_all
  unfold Earlier
  tauto

theorem IsDigits.lt_iff {n : Nat} {a b : JsString} (ha : IsDigits n a) (hb : IsDigits n b) :
    a < b ↔ (digitsValue a : Int) < digitsValue b := by
  rw [lt_iff_digitsValue_lt ha.2 hb.2 (ha.1.trans hb.1.symm), Nat.cast_lt]

theorem IsDigits.eq_iff {n : Nat} {a b : JsString} (ha : IsDigits n a) (hb : IsDigits n b) :
    a = b ↔ (digitsValue a : Int) = digitsValue b := by
  rw [Nat.cast_inj]
  exact ⟨fun h => by rw [h], eq_of_digitsValue_eq ha.2 hb.2 (ha.1.trans hb.1.symm)⟩

/-- A component, the separator after it and the rest. -/
theorem IsDigits.component_lt_iff {n : Nat} {a b s t : JsString} {u : UInt16} (ha : IsDigits n a) (hb : IsDigits n b) :
    a ++ u :: s < b ++ u :: t ↔
      (digitsValue a : Int) < digitsValue b ∨ (digitsValue a : Int) = digitsValue b ∧ s < t := by
  rw [append_lt_append_iff (ha.1.trans hb.1.symm), List.cons_lt_cons_self, ha.lt_iff hb, ha.eq_iff hb]

theorem text_lt_iff {m k : UtcIsoMatch} (hm : m.WellFormed) (hk : k.WellFormed) :
    m.text < k.text ↔ Earlier m.dateTime k.dateTime (fractionText m.frac < fractionText k.frac) := by
  unfold UtcIsoMatch.text Earlier
  rw [hm.year.component_lt_iff hk.year, hm.month.component_lt_iff hk.month, hm.day.component_lt_iff hk.day,
    hm.hour.component_lt_iff hk.hour, hm.minute.component_lt_iff hk.minute,
    append_lt_append_iff (hm.second.1.trans hk.second.1.symm), hm.second.lt_iff hk.second, hm.second.eq_iff hk.second]
  rfl

/-- Instants are ordered by their seconds, and then by the padded fractions. -/
theorem instant_lt_iff {a b : JsString} {m k : UtcIsoMatch} {x y : Int} (ha : instant a = some x) (hb : instant b = some y)
    (hm : matchUtcIso a = some m) (hk : matchUtcIso b = some k) :
    x < y ↔ Earlier m.dateTime k.dateTime (m.nanoseconds < k.nanoseconds) := by
  rw [← compare_lt_iff_lt, compare_instant ha hb, fieldsOf, hm, fieldsOf, hk]
  simp only [DateTime.components, List.compareLex_cons_cons, List.compareLex_nil_nil, Ordering.then_eq, Ordering.then_eq_lt,
    compare_lt_iff_lt, compare_eq_iff_eq, Earlier, Nat.cast_lt]

/-- A point before the fraction, or the end of the text. -/
theorem fractionText_lt_iff {f g : JsString} (hf : f.all isDigit) (hg : g.all isDigit) :
    fractionText f < fractionText g ↔ f ++ [0x5A] < g ++ [0x5A] := by
  have hdigit {u : UInt16} (hu : isDigit u) : u < 0x5A ∧ ¬ 0x5A < u ∧ ¬ 0x5A = u := by
    rw [isDigit_iff] at hu
    simp only [UInt16.lt_iff_toNat_lt, ← UInt16.toNat_inj, UInt16.reduceToNat]
    omega
  cases f with
  | nil =>
    cases g with
    | nil => simp [fractionText]
    | cons v g =>
      rw [List.all_cons, Bool.and_eq_true] at hg
      obtain ⟨-, hlt, hne⟩ := hdigit hg.1
      simp [fractionText, List.cons_lt_cons_iff, hlt, hne]
  | cons u f =>
    rw [List.all_cons, Bool.and_eq_true] at hf
    cases g with
    | nil => simp [fractionText, List.cons_lt_cons_iff, (hdigit hf.1).1]
    | cons v g => simp [fractionText, List.cons_lt_cons_iff]

theorem nanoseconds_lt_iff {m k : UtcIsoMatch} (hm : m.WellFormed) (hk : k.WellFormed) :
    m.nanoseconds < k.nanoseconds ↔ padEnd m.frac 9 0x30 < padEnd k.frac 9 0x30 := by
  have hpad {f : JsString} (hf : f.all isDigit) (hl : f.length ≤ 9) :
      (padEnd f 9 0x30).all isDigit ∧ (padEnd f 9 0x30).length = 9 := by
    refine ⟨?_, ?_⟩
    · rw [padEnd, List.all_append, hf]
      simp [show isDigit 0x30 = true from rfl]
    · rw [padEnd, List.length_append, List.length_replicate]
      omega
  obtain ⟨hd, hl⟩ := hpad hm.digits hm.width
  obtain ⟨hd', hl'⟩ := hpad hk.digits hk.width
  exact (lt_iff_digitsValue_lt hd hd' (hl.trans hl'.symm)).symm

/-- Two timestamps of one second whose fractions are written out of order. -/
def Misordered (a b : JsString) : Prop :=
  ∃ m k, matchUtcIso a = some m ∧ matchUtcIso b = some k ∧ m.dateTime = k.dateTime ∧ Misplaced m.frac k.frac

/-- On accepted timestamps the order of the strings is that of the instants, except on the misordered pairs. -/
theorem lt_iff_earlier_iff {a b : JsString} {x y : Int} (ha : instant a = some x) (hb : instant b = some y) :
    (a < b ↔ x < y) ↔ ¬ Misordered a b := by
  obtain ⟨p, hp, -⟩ := instant_eq_some.mp ha
  obtain ⟨q, hq, -⟩ := instant_eq_some.mp hb
  obtain ⟨m, hm, -⟩ := parseUtcTimestamp_eq_ok hp
  obtain ⟨k, hk, -⟩ := parseUtcTimestamp_eq_ok hq
  obtain ⟨hmw, hmt⟩ := matchUtcIso_eq_some hm
  obtain ⟨hkw, hkt⟩ := matchUtcIso_eq_some hk
  have hstring : a < b ↔ Earlier m.dateTime k.dateTime (fractionText m.frac < fractionText k.frac) := by
    rw [hmt, hkt, text_lt_iff hmw hkw]
  have hmis : Misordered a b ↔ m.dateTime = k.dateTime ∧ Misplaced m.frac k.frac := by simp [Misordered, hm, hk]
  rw [hstring, instant_lt_iff ha hb hm hk, hmis]
  by_cases hsecond : m.dateTime = k.dateTime
  · rw [hsecond, earlier_self, earlier_self, fractionText_lt_iff hmw.digits hkw.digits, nanoseconds_lt_iff hmw hkw,
      terminated_lt_iff (by decide) hmw.digits hkw.digits hmw.width hkw.width]
    simp
  · simp only [hsecond, false_and, not_false_iff, iff_true]
    exact earlier_of_ne hsecond _ _

end RouteGuard
