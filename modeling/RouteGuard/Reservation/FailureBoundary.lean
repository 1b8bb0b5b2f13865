import RouteGuard.Lib.DigitOrder
import RouteGuard.Reservation.TransactionIds

/-!
# The boundary of a conclusive failure

The boundary is computed from a timestamp, and the timestamp from the text of an id.

* `validStartIso_eq` : the timestamp of an id, written out;
* `conclusiveFailureBoundaryMs_eq` : the boundary in milliseconds;
* `TxIdMatch.deadline` : the last nanosecond of the window, from the numbers of the id;
* `failure_boundary_exact_iff` : when the clock passes the one together with the other.
-/

namespace RouteGuard.Reservation
open JsString Guarded Calendar Lifecycle

/-! ## The timestamp of an id -/

/-- The nine digits taken from the nanoseconds of an id. -/
def TxIdMatch.nanosText (m : TxIdMatch) : JsString := (padStart m.nanos 9 0x30).take 9

theorem wellFormed_of_matchSdkTxId {id : JsString} {m : TxIdMatch} (h : matchSdkTxId id = some m) : m.WellFormed := by
  unfold matchSdkTxId at h
  split at h
  · split at h
    · simp only [Option.ite_none_right_eq_some, Bool.and_eq_true, Option.some.injEq] at h
      obtain ⟨⟨⟨haccount, hseconds⟩, hnanos⟩, rfl⟩ := h
      exact ⟨haccount, hseconds, hnanos⟩
    · cases h
  · cases h

section Boundary
variable {m : TxIdMatch}

theorem TxIdMatch.WellFormed.nanosText (h : m.WellFormed) : m.nanosText.length = 9 ∧ m.nanosText.all isDigit := by
  constructor
  · simp only [TxIdMatch.nanosText, padStart, List.length_take, List.length_append, List.length_replicate]
    omega
  · have hall := List.all_eq_true.mp (all_isDigit_padStart 9 (List.all_eq_true.mpr fun u hu => mem_isDigits h.nanos hu))
    exact List.all_eq_true.mpr fun u hu => hall u (List.mem_of_mem_take hu)

/-- Four digits or more need no padding. -/
theorem padStart_year {s : Int} (h0 : 0 ≤ s) : padStart (decimalInt (dateTimeOf s).year) 4 0x30 = decimalInt (dateTimeOf s).year := by
  have hyear : ¬ yearOfDay (s / 86400) < 1970 := by
    rw [yearOfDay_lt_iff, show dayOfYear 1970 = 0 from rfl]
    omega
  have hlen : 3 < (decimal (yearOfDay (s / 86400)).toNat).length := by
    rw [← not_le, length_decimal_le_iff (by omega)]
    omega
  simp only [dateTimeOf]
  rw [decimalInt_of_nonneg (by omega), padStart, Nat.sub_eq_zero_of_le (by omega), List.replicate_zero, List.nil_append]

theorem validStartIso_eq {id iso : JsString} (hm : matchSdkTxId (trim id) = some m)
    (h : validStartIsoFromTransactionId id = .ok iso) :
    iso = formatDateTime (digitsValue m.seconds) ++ (0x2E :: (m.nanosText ++ [0x5A])) := by
  rw [validStartIsoFromTransactionId, hm] at h
  simp only [check_eq_ok, require_eq_ok, pure_eq_ok] at h
  obtain ⟨-, hrange, rfl⟩ := h
  rw [formatDateTime, if_pos (by exact_mod_cast hrange), padStart_year (Int.natCast_nonneg _), TxIdMatch.nanosText]
  simp only [List.append_assoc]
  rfl

/-! ## The boundary -/

/-- Before the year 10000 the boundary is the millisecond of the nine digits, and three parts of whole seconds. -/
theorem conclusiveFailureBoundaryMs_eq {id iso : JsString} {duration : Int} (hm : matchSdkTxId (trim id) = some m)
    (h : validStartIsoFromTransactionId id = .ok iso) :
    conclusiveFailureBoundaryMs iso duration =
      if digitsValue m.seconds < 253402300800 then
        .ok ((digitsValue m.seconds : Int) * 1000 + digitsValue m.nanosText / 1000000 + duration * 1000 + 60000)
      else .error (err "INVALID_CLIENT_TRANSACTION" "Invalid validStartTimestamp for conclusive-failure boundary") := by
  obtain ⟨hlen, hdigits⟩ := (wellFormed_of_matchSdkTxId hm).nanosText
  have hpad : padEnd m.nanosText 9 0x30 = m.nanosText := by
    rw [padEnd, hlen, Nat.sub_self, List.replicate_zero, List.append_nil]
  have hlt := digitsValue_lt hdigits
  rw [hlen] at hlt
  rw [validStartIso_eq hm h, conclusiveFailureBoundaryMs, dateParse]
  split_ifs with hyear
  · have hinstant := instant_formatDateTime (Int.natCast_nonneg _) (by exact_mod_cast hyear)
      ⟨0x2E :: m.nanosText, (List.cons_append ..).symm⟩ (takeFraction_digits hdigits (by omega) (by omega))
      (by rw [hpad]; omega)
    rw [hinstant, hpad]
    simp only [Option.map_some, SETTLEMENT_SAFETY_BUFFER_SECONDS, Except.ok.injEq]
    omega
  · rw [instant_eq_none (matchUtcIso_formatDateTime _ (by omega))]
    rfl

/-! ## The window of an id -/

/-- Valid start, duration and safety buffer in nanoseconds, from the numbers of the id. -/
def TxIdMatch.deadline (m : TxIdMatch) (duration : Int) : Int :=
  ((digitsValue m.seconds : Int) + duration + 60) * 1000000000 + digitsValue m.nanos

/-- Nine digits keep the millisecond of a number that has no more, or that is below one millisecond. -/
theorem nanosText_millisecond_iff :
    digitsValue m.nanosText / 1000000 = digitsValue m.nanos / 1000000 ↔
      m.nanos.length ≤ 9 ∨ digitsValue m.nanos < 1000000 := by
  by_cases hlen : m.nanos.length ≤ 9
  · have hwhole : m.nanosText = padStart m.nanos 9 0x30 := by
      rw [TxIdMatch.nanosText, List.take_of_length_le (length_padStart _ hlen).le]
    simp [hwhole, hlen]
  · have htext : m.nanosText = m.nanos.take 9 := by
      rw [TxIdMatch.nanosText, padStart, Nat.sub_eq_zero_of_le (by omega), List.replicate_zero, List.nil_append]
    have hsplit := digitsValue_append (m.nanos.take 9) (m.nanos.drop 9)
    rw [List.take_append_drop, ← htext] at hsplit
    obtain ⟨k, hk⟩ : ∃ k, (m.nanos.drop 9).length = k + 1 := ⟨m.nanos.length - 10, by rw [List.length_drop]; omega⟩
    -- a digit that is cut off makes the number ten times the one that is read
    have hten : 10 * digitsValue m.nanosText ≤ digitsValue m.nanos := by
      have hpow : 0 < 10 ^ k := by positivity
      rw [hsplit, hk, pow_succ]
      nlinarith [Nat.zero_le (digitsValue m.nanosText)]
    simp only [hlen, false_or]
    omega

/-- The clock passes the boundary and the window at the same millisecond exactly where the seconds lie before the year
10000 and the nanoseconds have at most nine digits or are below one millisecond. -/
theorem failure_boundary_exact_iff {input ref : ClientTransactionRef} (h : parseClientTransactionRef input = .ok ref) :
    ∃ m, matchSdkTxId ref.transactionId = some m ∧
      ((∀ c : Int, (∃ boundary, conclusiveFailureBoundaryMs ref.validStartTimestamp ref.transactionValidDurationSeconds =
          .ok boundary ∧ c > boundary) ↔ c * 1000000 > m.deadline ref.transactionValidDurationSeconds) ↔
        digitsValue m.seconds < 253402300800 ∧ (m.nanos.length ≤ 9 ∨ digitsValue m.nanos < 1000000)) := by
  simp only [parseClientTransactionRef, bind_eq_ok, require_eq_ok, exists_const, pure_eq_ok] at h
  obtain ⟨hsdk, derived, hderived, heq, -, rfl⟩ := h
  obtain ⟨m, hm⟩ := Option.isSome_iff_exists.mp hsdk
  refine ⟨m, hm, ?_⟩
  have htrim : matchSdkTxId (trim (trim input.transactionId)) = some m := by rw [trim_trim, hm]
  rw [← nanosText_millisecond_iff]
  simp only [heq, conclusiveFailureBoundaryMs_eq htrim hderived, TxIdMatch.deadline]
  generalize input.transactionValidDurationSeconds = duration
  generalize digitsValue m.seconds = seconds
  generalize digitsValue m.nanosText = read
  generalize digitsValue m.nanos = nanos
  by_cases hyear : seconds < 253402300800
  · simp only [hyear, if_true, Except.ok.injEq, exists_eq_left', true_and]
    constructor
    · intro hall
      have h1 := hall ((seconds : Int) * 1000 + read / 1000000 + duration * 1000 + 60001)
      have h2 := hall ((seconds : Int) * 1000 + nanos / 1000000 + duration * 1000 + 60001)
      omega
    · intro hsame c
      omega
  · simp only [hyear, if_false, reduceCtorEq, false_and, exists_false, false_iff, iff_false]
    intro hall
    have hlate := hall (((seconds : Int) + duration + 60) * 1000 + nanos + 1)
    omega

/-- Nine digits and two minutes. -/
theorem failure_boundary_exact_iff_nine_digits :
    let ref : ClientTransactionRef := ⟨js "0.0.5@1700000000.123456789", js "2023-11-14T22:13:20.123456789Z", 120⟩
    parseClientTransactionRef ref = .ok ref ∧ ∃ m, matchSdkTxId ref.transactionId = some m ∧ ∀ c : Int,
      (∃ boundary, conclusiveFailureBoundaryMs ref.validStartTimestamp 120 = .ok boundary ∧ c > boundary) ↔
        c * 1000000 > m.deadline 120 := by
  intro ref
  have hparse : parseClientTransactionRef ref = .ok ref := by decide
  have hmatch : matchSdkTxId ref.transactionId = some ⟨js "0.0.5", js "1700000000", js "123456789"⟩ := by decide
  obtain ⟨m, hm, hiff⟩ := failure_boundary_exact_iff hparse
  obtain rfl := Option.some.inj (hmatch.symm.trans hm)
  exact ⟨hparse, _, hm, hiff.mpr ⟨by decide, .inl (by decide)⟩⟩

/-- Ten digits: 1.234567890 seconds are read as 0.123456789, and the clock passes the boundary a second early. -/
theorem ten_digits_pass_early :
    let ref : ClientTransactionRef := ⟨js "0.0.5@1700000000.1234567890", js "2023-11-14T22:13:20.123456789Z", 120⟩
    let m : TxIdMatch := ⟨js "0.0.5", js "1700000000", js "1234567890"⟩
    parseClientTransactionRef ref = .ok ref ∧ matchSdkTxId ref.transactionId = some m ∧
      conclusiveFailureBoundaryMs ref.validStartTimestamp ref.transactionValidDurationSeconds = .ok 1700000180123 ∧
      ¬ (1700000180124 * 1000000 : Int) > m.deadline ref.transactionValidDurationSeconds := by
  decide

end Boundary

end RouteGuard.Reservation
