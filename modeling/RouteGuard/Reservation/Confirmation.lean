import RouteGuard.Reservation.Outbox
import RouteGuard.Reservation.PaymentVerifier

/-!
# Confirmation of a settled payment

Bounded polling of Mirror for the one settled transaction. A verified success confirms the payment, reserves the
route, and goes on to webhooks and evidence; nothing here settles.

* `establishDeadline` : the durable deadline, set once and reused after a restart;
* `pollLoop` : one Mirror lookup per round, each persisted;
* `confirmReservation` : what a reported success leads to, and the handler of every error on the way;
* `runMirrorConfirmation` : the whole.
-/

namespace RouteGuard.Reservation
open JsString Guarded ReservationState ServiceM

section Confirmation
variable (deps : ServiceDeps)

/-! ## The deadline -/

/-- A poll record before the first poll. -/
def newPoll (txId startedAt deadline : JsString) : MirrorPollRecord where
  transactionId := txId
  confirmationStartedAt := startedAt
  confirmationDeadline := deadline
  pollAttemptCount := 0
  lastPollAt := none
  lastMirrorStatus := none
  lastMirrorErrorCode := none
  lastMirrorError := none
  consensusTimestamp := none
  verifiedTransfer := none

/-- `new Date(Date.parse(at) + ms).toISOString()`. -/
def isoAfter (start : JsString) (ms : Int) : Except ServiceError JsString :=
  match dateParse start with
  | some t => toISOString (t + ms)
  | none => .error (.other (js "Invalid time value"))

/-- The poll a confirmation starts with: the stored one, or a new one with the stored or the new deadline. -/
def startingPoll (record : ReservationRecord) (txId startedAt deadline : JsString) : MirrorPollRecord :=
  { record.mirrorPoll.getD (newPoll txId startedAt (record.confirmationDeadline.getD deadline)) with
    transactionId := txId }

def confirmingRecord (record : ReservationRecord) (txId startedAt deadline : JsString) : ReservationRecord :=
  { record with
    confirmationDeadline := some (startingPoll record txId startedAt deadline).confirmationDeadline
    mirrorPoll := some (startingPoll record txId startedAt deadline)
    updatedAt := startedAt }

/-- Establish or reuse the durable confirmation deadline. -/
def establishDeadline (record : ReservationRecord) (txId : JsString) : ServiceM ReservationRecord :=
  if record.state = facilitatorSettled ∨
      (record.state = mirrorConfirmationPending ∧ ¬ truthy record.confirmationDeadline) then do
    let startedAt ← nowIso
    let ms ← read Call.nowMs
    let _ ← check (toISOString (ms + deps.confirmationTimeoutMs))
    let deadline ← check (isoAfter startedAt deps.confirmationTimeoutMs)
    let next := confirmingRecord record txId startedAt deadline
    let next ← check (if record.state = facilitatorSettled then
      transition next mirrorConfirmationPending (js "awaiting mirror") startedAt else pure next)
    let r ← commitOrConflict .beginConfirmation record next
    pure r.record
  else if record.state = mirrorConfirmationPending ∧ record.mirrorPoll = none then do
    let startedAt ← if record.updatedAt = [] then nowIso else pure record.updatedAt
    let updatedAt ← nowIso
    commit .rebuildPoll record
      { record with
        mirrorPoll := some (newPoll txId startedAt (record.confirmationDeadline.getD []))
        updatedAt := updatedAt }
  else pure record

/-! ## One poll -/

/-- What a lookup amounts to: the status Mirror reported, or a transport error. -/
def pollStatus : Except ServiceError MirrorConfirmation → PollStatus
  | .ok mirror => .answered mirror.status
  | .error _ => .transportError

/-- The consensus timestamp of a lookup where it is valid, else the one of the poll before. -/
def polledTimestamp (answer : Except ServiceError MirrorConfirmation) (prior : Option MirrorPollRecord) :
    Option JsString :=
  match answer.toOption.bind MirrorConfirmation.consensusTimestamp with
  | some ts => if isUtcIsoTimestamp ts then some ts else prior.bind MirrorPollRecord.consensusTimestamp
  | none => prior.bind MirrorPollRecord.consensusTimestamp

def pollOf (record : ReservationRecord) (txId deadline pollAt : JsString)
    (answer : Except ServiceError MirrorConfirmation) : MirrorPollRecord where
  transactionId := txId
  confirmationStartedAt :=
    (record.mirrorPoll.map MirrorPollRecord.confirmationStartedAt).getD (record.confirmationDeadline.getD pollAt)
  confirmationDeadline := deadline
  pollAttemptCount := (record.mirrorPoll.map MirrorPollRecord.pollAttemptCount).getD 0 + 1
  lastPollAt := some pollAt
  lastMirrorStatus := some (pollStatus answer)
  lastMirrorErrorCode := match answer with | .ok _ => none | .error _ => some (js "MIRROR_TRANSPORT_ERROR")
  lastMirrorError := match answer with | .ok _ => none | .error e => some e.message
  consensusTimestamp := polledTimestamp answer record.mirrorPoll
  verifiedTransfer := record.mirrorPoll.bind MirrorPollRecord.verifiedTransfer

def polledRecord (record : ReservationRecord) (deadline pollAt : JsString)
    (answer : Except ServiceError MirrorConfirmation) (poll : MirrorPollRecord) : ReservationRecord :=
  { record with
    mirrorConfirmation := answer.toOption <|> record.mirrorConfirmation
    mirrorPoll := some poll
    confirmationDeadline := some deadline
    updatedAt := pollAt }

/-- The selection and the transaction are still those the confirmation started with. -/
def checkFixed (record : ReservationRecord) (selected : SelectedPaymentOption) (txId : JsString) :
    Except ServiceError Unit :=
  match record.selected with
  | none => .error (err "NO_SELECTION" "No selected option")
  | some s => do
    require (s.optionId = selected.optionId)
      (err "SELECTION_LOCKED" "Selected asset changed during confirmation — fail closed")
    require (record.transactionId = some txId)
      (err "TRANSACTION_ID_CHANGED" "Transaction ID must remain fixed during confirmation")

/-! ## A reported success -/

def verifiedTransferOf (v : VerifiedPaymentResult) : VerifiedTransfer :=
  ⟨v.optionId, v.asset, v.amountAtomic, v.payerAccount, v.payTo⟩

def successPoll (poll : MirrorPollRecord) (v : VerifiedPaymentResult) : MirrorPollRecord :=
  { poll with
    consensusTimestamp := some v.consensusTimestamp
    verifiedTransfer := some (verifiedTransferOf v)
    lastMirrorStatus := some (.answered .success)
    lastMirrorError := none
    lastMirrorErrorCode := none }

/-- The ledger's part of a confirmation: a valid timestamp, and the exact transfers. -/
def verifySuccess (selected : SelectedPaymentOption) (mirror : MirrorConfirmation) (txId : JsString) :
    Except ServiceError VerifiedPaymentResult := do
  let _ ← consensusOf mirror "Mirror SUCCESS requires a valid UTC consensus timestamp"
  verifyMirrorPayment selected mirror txId

/-- A payment and the record that confirms it. -/
structure Confirmed where
  verified : VerifiedPaymentResult
  record : ReservationRecord

def confirmPayment (record : ReservationRecord) (selected : SelectedPaymentOption) (txId : JsString)
    (mirror : MirrorConfirmation) (poll : MirrorPollRecord) : ServiceM Confirmed := do
  let verified ← check (verifySuccess selected mirror txId)
  let updatedAt ← nowIso
  let now ← nowIso
  let next ← check (transition
    { record with
      mirrorConfirmation := some mirror
      mirrorPoll := some (successPoll poll verified)
      updatedAt := updatedAt } paymentConfirmed (js "mirror SUCCESS verified") now)
  let confirmed ← commit .confirm record next
  pure ⟨verified, confirmed⟩

def reserveRoute (record : ReservationRecord) (selected : SelectedPaymentOption) (txId : JsString)
    (mirror : MirrorConfirmation) (verified : VerifiedPaymentResult) : ServiceM ReservationRecord := do
  check (assertCanEnterRouteReserved record.state mirror.status (some txId))
  let routeReserved ← check (createRouteReservedRecord deps.crypto
    (routeReservedOf record selected txId verified.consensusTimestamp))
  let now ← nowIso
  let next ← check (transition record ReservationState.routeReserved (js "payment confirmed") now)
  commit .reserve record { next with routeReserved := some routeReserved }

def completeReservation (record : ReservationRecord) : ServiceM ReservationRecord :=
  if record.state = hcsEvidenceRecorded ∨ record.state = hcsEvidenceFailed then do
    let now ← nowIso
    let next ← check (transition record completed (js "post-reservation done") now)
    commit .complete record next
  else pure record

/-- The poll of a confirmation that failed. -/
def failedPoll (poll : MirrorPollRecord) (e : ServiceError) : MirrorPollRecord :=
  { poll with
    lastMirrorError := some e.message
    lastMirrorErrorCode := some (e.code?.getD (js "PAYMENT_VERIFY_FAILED")) }

/-- The one handler of all errors: a reserved route stands, everything else fails the confirmation. -/
def failConfirmation (mirror : MirrorConfirmation) (poll : MirrorPollRecord) (record : ReservationRecord)
    (e : ServiceError) : ServiceM ReservationRecord :=
  if record.routeReserved.isSome then throw e
  else do
    let now ← nowIso
    let next ← check (transition record confirmationFailed e.message now)
    commit .confirmationFailed record
      { next with
        failureCode := some (e.code?.getD (js "PAYMENT_VERIFY_FAILED"))
        failureReason := some e.message
        mirrorConfirmation := some mirror
        mirrorPoll := some (failedPoll poll e) }

/-- Confirm, reserve, notify, publish and complete; an error goes to the handler with the last committed record. -/
def confirmReservation (record : ReservationRecord) (selected : SelectedPaymentOption) (txId : JsString)
    (mirror : MirrorConfirmation) (poll : MirrorPollRecord) : ServiceM ReservationRecord :=
  (confirmPayment record selected txId mirror poll).orElse (failConfirmation mirror poll record) fun confirmed =>
  (reserveRoute deps confirmed.record selected txId mirror confirmed.verified).orElse
    (failConfirmation mirror poll confirmed.record) fun reserved =>
  (dispatchWebhooks deps reserved).orElse (failConfirmation mirror poll reserved) fun dispatched =>
  (publishHcsEvidence deps deps.depth dispatched).orElse (failConfirmation mirror poll dispatched) fun published =>
  (completeReservation published).orElse (failConfirmation mirror poll published) pure

/-! ## The loop -/

def mirrorReportedFailed (record : ReservationRecord) (mirror : MirrorConfirmation) (poll : MirrorPollRecord) :
    ServiceM ReservationRecord := do
  let now ← nowIso
  let next ← check (transition record confirmationFailed (js "mirror FAILED") now)
  commit .mirrorFailed record
    { next with
      failureCode := some (js "MIRROR_FAILED")
      failureReason := some (js "Mirror Node reported FAILED")
      mirrorConfirmation := some mirror
      mirrorPoll := some poll }

def timeoutReason : Except ServiceError MirrorConfirmation → JsString
  | .ok mirror =>
    js "Mirror " ++ mirror.status.text ++ js " until confirmation deadline — no settle retry; no asset fallback"
  | .error e => js "Mirror transport errors until deadline: " ++ e.message

def timeOut (record : ReservationRecord) (answer : Except ServiceError MirrorConfirmation) (poll : MirrorPollRecord) :
    ServiceM ReservationRecord := do
  let now ← nowIso
  let next ← check (transition record confirmationTimedOut (js "mirror not conclusive within bound") now)
  commit .timeOut record
    { next with
      failureCode := some (js "CONFIRMATION_TIMED_OUT")
      failureReason := some (timeoutReason answer)
      mirrorPoll := some poll }

/-- The safety backstop of the loop. -/
def pollBoundExhausted (record : ReservationRecord) : ServiceM ReservationRecord := do
  let now ← nowIso
  let next ← check (transition record confirmationTimedOut (js "mirror poll iteration bound exhausted") now)
  commit .pollBound record
    { next with
      failureCode := some (js "CONFIRMATION_TIMED_OUT")
      failureReason := some (js "Mirror poll iteration bound exhausted") }

/-- What the answer of one lookup leads to; `again` is the next round. -/
def afterPoll (again : ReservationRecord → ServiceM ReservationRecord) (record : ReservationRecord)
    (selected : SelectedPaymentOption) (txId deadline : JsString) (answer : Except ServiceError MirrorConfirmation)
    (poll : MirrorPollRecord) : ServiceM ReservationRecord :=
  let inconclusive : ServiceM ReservationRecord := do
    if ← isPastDeadline deadline then timeOut record answer poll
    else
      let _ ← read (Call.sleep deps.mirrorPollIntervalMs)
      again record
  match answer with
  | .ok mirror =>
    match mirror.status with
    | .failed => mirrorReportedFailed record mirror poll
    | .success => confirmReservation deps record selected txId mirror poll
    | _ => inconclusive
  | .error _ => inconclusive

/-- The rounds left, at most. -/
def pollLoop (selected : SelectedPaymentOption) (txId deadline : JsString) :
    Nat → ReservationRecord → ServiceM ReservationRecord
  | 0, record => pollBoundExhausted record
  | n + 1, before => do
    let record ← requireRecord before.reservationId
    check (checkFixed record selected txId)
    if record.state ∈ [mirrorConfirmationPending, facilitatorSettled] then do
      let pollAt ← nowIso
      let answer ← (getTransaction txId).outcome
      let poll := pollOf record txId deadline pollAt answer
      let r ← commitOrConflict .poll record (polledRecord record deadline pollAt answer poll)
      afterPoll deps (pollLoop selected txId deadline n) r.record selected txId deadline answer poll
    else pure record

/-- `Math.max(1, Math.ceil(timeoutMs / Math.max(1, pollIntervalMs)) + 5)`. -/
def maxIterations : Nat :=
  (max 1 (-((-deps.confirmationTimeoutMs) / max 1 deps.mirrorPollIntervalMs) + 5)).toNat

def durableDeadline (record : ReservationRecord) : Except ServiceError JsString :=
  match record.confirmationDeadline <|> record.mirrorPoll.map MirrorPollRecord.confirmationDeadline with
  | some deadline => do
    require (deadline ≠ [])
      (err "MISSING_CONFIRMATION_DEADLINE" "Confirmation deadline must be durable before polling")
    pure deadline
  | none =>
    .error (err "MISSING_CONFIRMATION_DEADLINE" "Confirmation deadline must be durable before polling")

/-- Bounded Mirror polling after durable settlement. -/
def runMirrorConfirmation (record : ReservationRecord) (selected : SelectedPaymentOption) :
    ServiceM ReservationRecord := do
  let txId ← check (requireTransactionIdForSettlement record.transactionId)
  let started ← establishDeadline deps record txId
  let deadline ← check (durableDeadline started)
  pollLoop deps selected txId deadline (maxIterations deps) started

end Confirmation

end RouteGuard.Reservation
