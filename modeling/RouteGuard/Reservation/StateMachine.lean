import RouteGuard.Domain.Time
import RouteGuard.Reservation.Types

/-!
# The reservation state machine

* `LEGAL`, `assertLegalTransition` : the edges, and the check every change of state goes through;
* `transition` : a change of state with its entry in the history;
* `transition_eq_ok` : what a transition makes of a record.
-/

namespace RouteGuard.Reservation
open JsString Guarded ReservationState

def LEGAL : ReservationState → List ReservationState
  | offerCreated => [optionSelected, expired]
  | optionSelected => [paymentChallengeIssued, expired]
  | paymentChallengeIssued => [paymentSubmissionStarted, expired, paymentRejected]
  | paymentSubmissionStarted => [facilitatorVerified, paymentRejected, settlementFailed, manualReviewRequired]
  | facilitatorVerified => [facilitatorSettleClaimed, settlementFailed, manualReviewRequired]
  | facilitatorSettleClaimed => [facilitatorSettled, settlementFailed, manualReviewRequired]
  | facilitatorSettled => [mirrorConfirmationPending]
  | mirrorConfirmationPending => [paymentConfirmed, confirmationTimedOut, confirmationFailed, manualReviewRequired]
  | paymentConfirmed => [routeReserved]
  | routeReserved => [webhooksDispatched, webhookDeliveryFailed, hcsEvidenceRecorded, hcsEvidenceFailed]
  | webhooksDispatched => [hcsEvidenceRecorded, hcsEvidenceFailed]
  | webhookDeliveryFailed => [webhooksDispatched, hcsEvidenceRecorded, hcsEvidenceFailed]
  | hcsEvidenceRecorded => [completed]
  | hcsEvidenceFailed => [hcsEvidenceRecorded, completed]
  | completed => []
  | paymentRejected => [offerCreated]
  | settlementFailed => [offerCreated]
  | confirmationTimedOut => [mirrorConfirmationPending, manualReviewRequired]
  | confirmationFailed => []
  | expired => []
  | manualReviewRequired => []

def TERMINAL_PAYMENT_FAILURE_STATES : List ReservationState :=
  [paymentRejected, settlementFailed, confirmationTimedOut, confirmationFailed, expired, manualReviewRequired]

/-- The states at or after `ROUTE_RESERVED`. -/
def POST_RESERVATION_STATES : List ReservationState :=
  [routeReserved, webhooksDispatched, hcsEvidenceRecorded, completed, webhookDeliveryFailed, hcsEvidenceFailed]

def GUARDED_RECOVERY_TRANSITIONS : List (ReservationState × ReservationState) :=
  [(confirmationTimedOut, mirrorConfirmationPending), (confirmationTimedOut, manualReviewRequired),
   (settlementFailed, offerCreated), (paymentRejected, offerCreated)]

def assertLegalTransition (source target : ReservationState) : Except ServiceError Unit :=
  if source = target then .ok ()
  else do
    require (target ∈ LEGAL source)
      (.illegalTransition source target
        (js "Illegal reservation transition: " ++ source.text ++ js " → " ++ target.text))
    require (¬ (source ∈ POST_RESERVATION_STATES ∧ target ∉ POST_RESERVATION_STATES ∧ target ≠ completed))
      (.illegalTransition source target (js "Cannot reverse ROUTE_RESERVED"))
    require (¬ (source ∈ TERMINAL_PAYMENT_FAILURE_STATES ∧ (source, target) ∉ GUARDED_RECOVERY_TRANSITIONS))
      (.illegalTransition source target (js "Terminal payment failure cannot transition"))

/-- The table decides alone: its edges pass the two further checks. -/
theorem assertLegalTransition_eq_ok {source target : ReservationState} {u : Unit} :
    assertLegalTransition source target = .ok u ↔ source = target ∨ target ∈ LEGAL source := by
  have hedges : ∀ t ∈ LEGAL source,
      ¬ (source ∈ POST_RESERVATION_STATES ∧ t ∉ POST_RESERVATION_STATES ∧ t ≠ completed) ∧
        ¬ (source ∈ TERMINAL_PAYMENT_FAILURE_STATES ∧ (source, t) ∉ GUARDED_RECOVERY_TRANSITIONS) := by
    cases source <;> decide
  unfold assertLegalTransition
  split
  · next h => simp [h]
  · next h =>
    simp only [check_eq_ok, require_eq_ok, h, false_or]
    constructor
    · rintro ⟨hlegal, -⟩
      exact hlegal
    · intro hlegal
      exact ⟨hlegal, hedges target hlegal⟩

def isPaymentSubmissionLocked (state : ReservationState) : Bool :=
  state ∈ [paymentSubmissionStarted, facilitatorVerified, facilitatorSettleClaimed, facilitatorSettled,
    mirrorConfirmationPending, paymentConfirmed] || state ∈ POST_RESERVATION_STATES ||
    (state ∈ TERMINAL_PAYMENT_FAILURE_STATES && state ≠ expired)

/-- The transaction id without the white space around it. -/
def requireTransactionIdForSettlement (transactionId : Option JsString) : Except ServiceError JsString :=
  match transactionId with
  | none => .error (err "MISSING_TRANSACTION_ID" "Settlement requires an authoritative transaction ID")
  | some id =>
    if trim id = [] then
      .error (err "MISSING_TRANSACTION_ID" "Settlement requires an authoritative transaction ID")
    else .ok (trim id)

def assertCanEnterRouteReserved (state : ReservationState) (mirrorStatus : MirrorStatus)
    (transactionId : Option JsString) : Except ServiceError Unit := do
  require (state = paymentConfirmed) (err "ILLEGAL_TRANSITION" "ROUTE_RESERVED requires PAYMENT_CONFIRMED")
  require (mirrorStatus = .success) (err "MIRROR_NOT_SUCCESS" "ROUTE_RESERVED requires Mirror Node SUCCESS")
  let _ ← requireTransactionIdForSettlement transactionId
  pure ()

/-! ## Transitions of a record -/

/-- The record in another state, with one more entry in its history. -/
def ReservationRecord.entered (record : ReservationRecord) (target : ReservationState) (reason time : JsString) :
    ReservationRecord :=
  { record with
    state := target
    updatedAt := time
    history := record.history ++ [⟨record.state, target, time, if reason = [] then none else some reason⟩] }

/-- A change of state. A record already in the state is left as it is. -/
def transition (record : ReservationRecord) (target : ReservationState) (reason : JsString) (time : JsString) :
    Except ServiceError ReservationRecord := do
  assertLegalTransition record.state target
  if record.state = target then pure record
  else
    require (isUtcIsoTimestamp time)
      (err "INVALID_TIMESTAMP" "transition requires an explicit valid UTC timestamp")
    pure (record.entered target reason time)

theorem transition_eq_ok {record next : ReservationRecord} {target : ReservationState} {reason time : JsString} :
    transition record target reason time = .ok next ↔
      (record.state = target ∧ next = record) ∨
        (record.state ≠ target ∧ target ∈ LEGAL record.state ∧ isUtcIsoTimestamp time ∧
          next = record.entered target reason time) := by
  unfold transition
  rw [check_eq_ok, assertLegalTransition_eq_ok]
  by_cases h : record.state = target
  · rw [if_pos h, pure_eq_ok]
    constructor
    · rintro ⟨-, hnext⟩
      exact .inl ⟨h, hnext.symm⟩
    · rintro (⟨-, hnext⟩ | ⟨hne, -⟩)
      · exact ⟨.inl h, hnext.symm⟩
      · exact absurd h hne
  · rw [if_neg h, check_eq_ok, require_eq_ok, pure_eq_ok]
    constructor
    · rintro ⟨hlegal, htime, hnext⟩
      exact .inr ⟨h, hlegal.resolve_left h, htime, hnext.symm⟩
    · rintro (⟨heq, -⟩ | ⟨-, hlegal, htime, hnext⟩)
      · exact absurd heq h
      · exact ⟨.inr hlegal, htime, hnext.symm⟩

/-- A transition out of a known state. -/
theorem transition_from {r next : ReservationRecord} {source target : ReservationState} {reason time : JsString}
    (hs : r.state = source) (hne : source ≠ target) (h : transition r target reason time = .ok next) :
    target ∈ LEGAL source ∧ isUtcIsoTimestamp time ∧ next = r.entered target reason time := by
  rcases transition_eq_ok.mp h with ⟨heq, -⟩ | ⟨-, hlegal, htime, hnext⟩
  · exact absurd (hs.symm.trans heq) hne
  · rw [hs] at hlegal
    exact ⟨hlegal, htime, hnext⟩

end RouteGuard.Reservation
