import RouteGuard.Reservation.Confirmation
import RouteGuard.Reservation.Creation

/-!
# The reservation service

The public operations, each as the program of its calls, and the requests that run them side by side.

* `selectOption`, `issueChallenge`, `submitPayment` : the way to a settled payment;
* `resumePaymentConfirmation`, `reconcilePayment`, `recover` : what a restart can do with a payment in progress;
* `authorizeReplacementAttempt` : the reset after a conclusive failure;
* `Request`, `serve` : every operation a caller can start.
-/

namespace RouteGuard.Reservation
open JsString Guarded ReservationState ServiceM

section Service
variable (deps : ServiceDeps)

/-! ## Selection -/

structure SelectInput where
  reservationId : JsString
  optionId : ReservationOptionId
  offerHash : JsString
  offerVersion : Int
  payerAccount : JsString
  deriving DecidableEq, Repr

/-- The same option of the same offer is selected already, and more than selected. -/
def alreadySelected (record : ReservationRecord) (input : SelectInput) : Bool :=
  record.state ≠ offerCreated &&
    record.selected.any fun s => s.optionId = input.optionId && s.offerHash = input.offerHash

/-- A selection that is made already may be renewed for the same asset only, and only before the submission. -/
def checkReselection (record : ReservationRecord) (input : SelectInput) : Except ServiceError Unit :=
  provided (record.state ≠ offerCreated) <| nullable (fun (s : SelectedPaymentOption) => do
    require (record.state = optionSelected ∨ record.state = paymentChallengeIssued)
      (err "SELECTION_LOCKED" "Selection already fixed")
    require (s.optionId = input.optionId) (err "SELECTION_LOCKED" "Cannot switch selected asset")) record.selected

def selectionOf (record : ReservationRecord) (input : SelectInput) (now : JsString) :
    Except ServiceError SelectedPaymentOption := do
  let selected ← selectPaymentOption deps.crypto
    ⟨record.offer, input.optionId, input.payerAccount, input.offerHash, input.offerVersion, now⟩
  require (selected.payTo = record.winningCarrierAccount)
    (err "WRONG_RECIPIENT" "Selected payTo must equal winner carrier account")
  pure selected

def selectedRecord (record : ReservationRecord) (selected : SelectedPaymentOption) (now : JsString) :
    ReservationRecord :=
  { record with selected := some selected, attemptNumber := 1, updatedAt := now }

def selectOption (input : SelectInput) : ServiceM ReservationRecord := do
  let record ← requireRecord input.reservationId
  check (require (¬ isPaymentSubmissionLocked record.state)
    (err "SELECTION_LOCKED" "Cannot change or re-select option after payment submission began"))
  if alreadySelected record input then pure record
  else do
    check (checkReselection record input)
    let now ← nowIso
    let selected ← check (selectionOf deps record input now)
    let next ← check (if record.state = offerCreated then
      transition (selectedRecord record selected now) optionSelected (js "option selected") now
      else pure (selectedRecord record selected now))
    commit .selectOption record next

/-! ## Challenge -/

def challengedRecord (record : ReservationRecord) (challenge : PaymentChallengeRecord) (issuedAt : JsString) :
    ReservationRecord :=
  { record with
    paymentChallenge := some challenge
    paymentChallengeHash := some challenge.challengeHash
    updatedAt := issuedAt }

/-- A new challenge, unless a concurrent issuer was first. -/
def createChallengeFor (record : ReservationRecord) (selected : SelectedPaymentOption) :
    ServiceM ReservationRecord := do
  let challenge ← await (Prog.perform (Call.createChallenge selected))
  check (assertExactChallenge selected challenge)
  let issuedAt ← nowIso
  let durable ← check (createPaymentChallengeRecord deps.crypto selected challenge issuedAt)
  let next ← check (if record.state = optionSelected then
    transition (challengedRecord record durable issuedAt) paymentChallengeIssued (js "challenge issued") issuedAt
    else pure (challengedRecord record durable issuedAt))
  let r ← commitOrConflict .issueChallenge record next
  check (require (r.conflicted → r.record.paymentChallenge.isSome)
    (err "CHALLENGE_PERSIST_CONFLICT" "CAS conflict while persisting challenge and no durable challenge found"))
  pure r.record

/-- The record with its durable challenge, which is created once. -/
def issueChallenge (reservationId : JsString) (optionId : ReservationOptionId) : ServiceM ReservationRecord := do
  let record ← requireRecord reservationId
  match record.selected with
  | none => throw (err "NO_SELECTION" "Select an option first")
  | some selected =>
    check (require (selected.optionId = optionId)
      (.reservation (js "WRONG_ASSET_ROUTE")
        (js "Selected " ++ selected.optionId.text ++ js "; cannot use " ++ optionId.text ++ js " route")))
    if record.paymentChallenge.isSome then pure record
    else do
      check (require (¬ (isPaymentSubmissionLocked record.state ∧ truthy record.paymentChallengeHash ∧
        record.state ≠ paymentChallengeIssued)) (err "SELECTION_LOCKED" "Payment already in progress or finished"))
      createChallengeFor deps record selected

/-! ## Submission -/

structure SubmitInput where
  reservationId : JsString
  optionId : ReservationOptionId
  /-- Hash of the signed payment payload. -/
  paymentPayloadHash : JsString
  clientTransaction : ClientTransactionRef
  deriving DecidableEq, Repr

/-- Go on with a record, or return it. -/
inductive Flow where
  | proceed (record : ReservationRecord)
  | stop (record : ReservationRecord)

/-- The record of a commit, unless another writer came first. -/
def CommitResult.flow (r : CommitResult) : Flow := if r.conflicted then .stop r.record else .proceed r.record

def TERMINAL_FAILURES : List ReservationState :=
  [paymentRejected, settlementFailed, confirmationFailed, confirmationTimedOut, manualReviewRequired]

def submitSelection (record : ReservationRecord) (input : SubmitInput) : Except ServiceError SelectedPaymentOption :=
  match record.selected with
  | none => .error (err "NO_SELECTION" "No selected option")
  | some selected => do
    require (selected.optionId = input.optionId)
      (err "WRONG_ASSET_ROUTE" "Asset route does not match selection — no fallback")
    require (record.state ∉ TERMINAL_FAILURES)
      (.reservation (js "TERMINAL_FAILURE") (js "Reservation is terminal: " ++ record.state.text))
    pure selected

/-- What a submission is bound to. -/
structure Submission where
  selected : SelectedPaymentOption
  clientTx : ClientTransactionRef
  challengeHash : JsString

/-- An existing claim binds one payload and one transaction. -/
def checkBoundClaim (input : SubmitInput) (clientTx : ClientTransactionRef) (claim : SettleClaim) :
    Except ServiceError Unit := do
  require (claim.paymentPayloadHash = input.paymentPayloadHash)
    (err "CONFLICT" "Conflicting payment payload against existing settle claim")
  let same ← transactionIdsEqual claim.transactionId clientTx.transactionId
  require same (err "CONFLICT" "Conflicting client transaction ID against existing settle claim")

def submissionOf (record : ReservationRecord) (input : SubmitInput) (selected : SelectedPaymentOption) :
    Except ServiceError Submission := do
  let clientTx ← parseClientTransactionRef input.clientTransaction
  nullable (checkBoundClaim input clientTx) record.settleClaim
  require (truthy record.paymentChallengeHash) (err "NO_CHALLENGE" "Issue payment challenge before submission")
  require (record.state ≠ optionSelected) (err "NO_CHALLENGE" "Issue challenge before payment submission")
  pure ⟨selected, clientTx, record.paymentChallengeHash.getD []⟩

/-- A submission in progress is bound to its payload and its transaction. -/
def checkResubmission (record : ReservationRecord) (input : SubmitInput) (clientTx : ClientTransactionRef) :
    Except ServiceError Unit := do
  require (truthy record.paymentPayloadHash → record.paymentPayloadHash = some input.paymentPayloadHash)
    (err "CONFLICT" "Conflicting payment payload hash")
  nullable (fun (ref : ClientTransactionRef) => do
    let same ← transactionIdsEqual ref.transactionId clientTx.transactionId
    require same (err "CONFLICT" "Conflicting client transaction ID against persisted submission"))
    record.clientTransaction

def submittedRecord (record : ReservationRecord) (input : SubmitInput) (clientTx : ClientTransactionRef)
    (now : JsString) : ReservationRecord :=
  { record with
    paymentPayloadHash := some input.paymentPayloadHash
    clientTransaction := some clientTx
    attemptNumber := 1
    updatedAt := now }

def startSubmission (record : ReservationRecord) (input : SubmitInput) (clientTx : ClientTransactionRef) :
    ServiceM Flow :=
  if record.state = paymentChallengeIssued then do
    let now ← nowIso
    let next ← check (transition (submittedRecord record input clientTx now) paymentSubmissionStarted
      (js "payment submission started") now)
    let r ← commitOrConflict .startSubmission record next
    pure r.flow
  else if record.state = paymentSubmissionStarted then do
    check (checkResubmission record input clientTx)
    pure (.proceed record)
  else pure (.proceed record)

def assertNotReplaceSubmittedPayment (existing : ReservationRecord) (selected : SelectedPaymentOption) :
    Except ServiceError Unit :=
  require (¬ (existing.selected.any (fun s => s.optionId ≠ selected.optionId) ∧
    (existing.state = paymentSubmissionStarted ∨ truthy existing.paymentPayloadHash)))
    (err "SELECTION_LOCKED" "Cannot change selected option after payment submission")

/-- Verify, then persist the verdict. -/
def verifyPayment (record : ReservationRecord) (input : SubmitInput) (sub : Submission) : ServiceM Flow :=
  if record.state = paymentSubmissionStarted then do
    let result ← await (Prog.perform (Call.verify sub.selected input.paymentPayloadHash sub.challengeHash))
    let updatedAt ← nowIso
    let now ← nowIso
    let verified := { record with facilitatorVerify := some result, updatedAt := updatedAt }
    if result.isValid then do
      let next ← check (transition verified facilitatorVerified (js "verify ok") now)
      let r ← commitOrConflict .verifyPayment record next
      pure r.flow
    else do
      let next ← check (transition verified paymentRejected (result.invalidReason.getD (js "verify failed")) now)
      let committed ← commit .rejectPayment record
        { next with
          failureCode := some (js "VERIFY_REJECTED")
          failureReason := some (result.invalidReason.getD (js "isValid=false")) }
      pure (.stop committed)
  else pure (.proceed record)

def settleClaimOf (record : ReservationRecord) (input : SubmitInput) (sub : Submission)
    (settleAttemptId claimedAt : JsString) : SettleClaim where
  settleAttemptId := settleAttemptId
  reservationId := record.reservationId
  attemptNumber := if record.attemptNumber = 0 then 1 else record.attemptNumber
  selectedOptionId := sub.selected.optionId
  asset := sub.selected.asset
  amountAtomic := sub.selected.amountAtomic
  payerAccount := sub.selected.payerAccount
  payTo := sub.selected.payTo
  network := RESERVATION_NETWORK
  challengeHash := sub.challengeHash
  paymentPayloadHash := input.paymentPayloadHash
  transactionId := sub.clientTx.transactionId
  validStartTimestamp := sub.clientTx.validStartTimestamp
  transactionValidDurationSeconds := sub.clientTx.transactionValidDurationSeconds
  claimedAt := claimedAt
  recordVersion := record.recordVersion + 1

/-- Persist the durable claim before any external settle call. A claim of an earlier call is left alone. -/
def claimSettle (record : ReservationRecord) (input : SubmitInput) (sub : Submission) : ServiceM Flow :=
  if record.state = facilitatorVerified then do
    let claimedAt ← nowIso
    let attemptId ← read Call.randomUUID
    let next ← check (transition
      { record with settleClaim := some (settleClaimOf record input sub attemptId claimedAt), updatedAt := claimedAt }
      facilitatorSettleClaimed (js "settle claim persisted") claimedAt)
    let r ← commitOrConflict .claimSettle record next
    pure r.flow
  else if record.state = facilitatorSettleClaimed ∧ ¬ truthy record.transactionId then pure (.stop record)
  else pure (.proceed record)

/-- A settle result that ends in a failure: the target, its reason, the failure code and its text. -/
structure SettleFailure where
  site : CommitSite
  target : ReservationState
  reason : JsString
  code : String
  text : JsString

/-- The record of a failed settlement; two of the failures do not touch `updatedAt` before the transition does. -/
def failSettlement (record : ReservationRecord) (result : FacilitatorSettleResult) (f : SettleFailure) :
    ServiceM ReservationRecord := do
  let now ← nowIso
  let next ← check (transition { record with facilitatorSettle := some result } f.target f.reason now)
  commit f.site record { next with failureCode := some (js f.code), failureReason := some f.text }

def settleRefused (result : FacilitatorSettleResult) : SettleFailure where
  site := .failSettle
  target := settlementFailed
  reason := result.errorReason.getD (js "settle failed")
  code := "SETTLE_FAILED"
  text := result.errorReason.getD (js "success=false")

def responseMismatch : SettleFailure where
  site := .settleMismatch
  target := manualReviewRequired
  reason := js "settle response transaction ID differs from client-frozen transaction ID"
  code := "SETTLE_RESPONSE_TX_MISMATCH"
  text := js "Facilitator reported a different transaction than the signed one — " ++
    js "manual review (no auto-settle, no auto-accept)"

def networkMismatch : SettleFailure where
  site := .networkMismatch
  target := settlementFailed
  reason := js "network mismatch"
  code := "NETWORK_MISMATCH"
  text := js "settle network mismatch"

def payerMismatch : SettleFailure where
  site := .payerMismatch
  target := settlementFailed
  reason := js "payer mismatch"
  code := "PAYER_MISMATCH"
  text := js "settle payer mismatch"

/-- The response names another transaction than the claim. A missing id is tolerated. -/
def responseDiffers (result : FacilitatorSettleResult) (claimTxId : JsString) : Except ServiceError Bool :=
  match result.transactionId.map trim with
  | none => .ok false
  | some id =>
    if id = [] then .ok false
    else do
      let same ← transactionIdsEqual id claimTxId
      pure (!same)

def settledRecord (record : ReservationRecord) (result : FacilitatorSettleResult) (txId updatedAt : JsString) :
    ReservationRecord :=
  { record with facilitatorSettle := some result, transactionId := some txId, updatedAt := updatedAt }

/-- The one external settle call of a claim, and the commit of its result. -/
def settlePayment (record : ReservationRecord) (claim : SettleClaim) (input : SubmitInput) (sub : Submission) :
    ServiceM ReservationRecord := do
  let result ← await (Prog.perform (Call.settle claim sub.selected input.paymentPayloadHash sub.challengeHash))
  if result.success then do
    let claimTxId ← check (requireTransactionIdForSettlement (some claim.transactionId))
    let differs ← check (responseDiffers result claimTxId)
    if differs then do
      let _ ← nowIso
      failSettlement record result responseMismatch
    else if result.network ≠ sub.selected.network then failSettlement record result networkMismatch
    else if result.payerAccountId ≠ sub.selected.payerAccount then failSettlement record result payerMismatch
    else do
      let updatedAt ← nowIso
      let now ← nowIso
      let next ← check (transition (settledRecord record result claimTxId updatedAt) facilitatorSettled
        (js "settle ok") now)
      let settled ← commit .settlePayment record next
      runMirrorConfirmation deps settled sub.selected
  else do
    let _ ← nowIso
    failSettlement record result (settleRefused result)

/-- Claim and settle, unless this is done already; then confirm. -/
def settleOnce (record : ReservationRecord) (input : SubmitInput) (sub : Submission) : ServiceM ReservationRecord :=
  if record.facilitatorSettle.any FacilitatorSettleResult.success && truthy record.transactionId then
    runMirrorConfirmation deps record sub.selected
  else do
    match ← claimSettle record input sub with
    | .stop record => pure record
    | .proceed record =>
      match record.settleClaim with
      | none => pure record
      | some claim =>
        if record.state = facilitatorSettleClaimed then settlePayment deps record claim input sub else pure record

/-- The payment of a record that has no reserved route. -/
def submitFor (record : ReservationRecord) (input : SubmitInput) (sub : Submission) : ServiceM ReservationRecord := do
  match ← startSubmission record input sub.clientTx with
  | .stop record => pure record
  | .proceed record =>
    check (assertNotReplaceSubmittedPayment record sub.selected)
    match ← verifyPayment record input sub with
    | .stop record => pure record
    | .proceed record => settleOnce deps record input sub

/-- Full payment orchestration for the already-selected option. -/
def submitPayment (input : SubmitInput) : ServiceM ReservationRecord := do
  let record ← requireRecord input.reservationId
  let selected ← check (submitSelection record input)
  if record.routeReserved.isSome then do
    check (require (record.paymentPayloadHash = some input.paymentPayloadHash)
      (err "CONFLICT" "Reservation already confirmed with different payload"))
    pure record
  else do
    let sub ← check (submissionOf record input selected)
    submitFor deps record input sub

/-! ## Recovery -/

/-- What a caller of `recover` may have resolved. -/
structure RecoveryResolution where
  mirrorStatus : Option JsString
  transactionId : Option JsString
  deriving DecidableEq, Repr

/-- `new Date().toISOString()`. -/
def systemNow : ServiceM JsString := do
  let ms ← read Call.dateNow
  check (toISOString ms)

/-- The record of a resolved transaction, with a deadline and the shell of a poll. -/
def adoptedRecord (record : ReservationRecord) (txId now deadline : JsString) : ReservationRecord :=
  { record with
    transactionId := some txId
    state := mirrorConfirmationPending
    confirmationDeadline := some deadline
    mirrorPoll := some (record.mirrorPoll.getD (newPoll txId now deadline))
    updatedAt := now }

def endedRecord (record : ReservationRecord) (state : ReservationState) (code reason : String) (now : JsString) :
    ReservationRecord :=
  { record with
    state := state
    failureCode := some (js code)
    failureReason := some (js reason)
    updatedAt := now }

def adoptTransaction (record : ReservationRecord) (txId : JsString) : ServiceM ReservationRecord := do
  let now ← systemNow
  let deadline ←
    match record.confirmationDeadline with
    | some deadline => pure deadline
    | none => do
      let ms ← read Call.dateNow
      check (toISOString (ms + 30000))
  pure (adoptedRecord record txId now deadline)

def recoverTo (record : ReservationRecord) (state : ReservationState) (code reason : String) :
    ServiceM ReservationRecord := do
  let now ← systemNow
  pure (endedRecord record state code reason now)

def recoverClaimed (record : ReservationRecord) (resolution : RecoveryResolution) : ServiceM ReservationRecord :=
  if truthy resolution.transactionId then adoptTransaction record (resolution.transactionId.getD [])
  else if record.settleClaim.any fun claim => claim.transactionId ≠ [] then pure record
  else recoverTo record manualReviewRequired "AMBIGUOUS_SETTLE_CLAIM"
    "Restart after settle claim before transaction id persisted — manual review required (do not auto-settle)"

def recoverSettled (record : ReservationRecord) (resolution : RecoveryResolution) : ServiceM ReservationRecord :=
  if ¬ truthy record.transactionId then
    recoverTo record manualReviewRequired "AMBIGUOUS_SETTLEMENT"
      "In-progress settlement without conclusive transaction ID — manual review required"
  else if resolution.mirrorStatus = some (js "FAILED") then
    recoverTo record confirmationFailed "MIRROR_FAILED" "Mirror confirmed failure on recovery"
  else pure record

def recoverSubmitted (record : ReservationRecord) (code reason : String) : ServiceM ReservationRecord :=
  if record.clientTransaction.any fun ref => ref.transactionId ≠ [] then pure record
  else recoverTo record manualReviewRequired code reason

/-- Startup recovery of a payment in progress. It never settles again. -/
def recoverInProgressState (record : ReservationRecord) (resolution : RecoveryResolution) :
    ServiceM ReservationRecord :=
  match record.state with
  | facilitatorSettleClaimed => recoverClaimed record resolution
  | facilitatorSettled => recoverSettled record resolution
  | mirrorConfirmationPending => recoverSettled record resolution
  | paymentSubmissionStarted => recoverSubmitted record "AMBIGUOUS_SUBMISSION"
      "Restart during payment submission — manual review required (do not auto-retry)"
  | facilitatorVerified => recoverSubmitted record "AMBIGUOUS_VERIFIED"
      "Restart after verify before settle — manual review required (settle at most once)"
  | _ => pure record

def recover (reservationId : JsString) (resolution : RecoveryResolution) : ServiceM ReservationRecord := do
  let record ← requireRecord reservationId
  let recovered ← recoverInProgressState record resolution
  if recovered.state ≠ record.state then commit .recover record recovered else pure recovered

/-! ## Resumption -/

/-- Why a timed-out confirmation may not resume; nothing if every binding fact is unchanged. -/
def assessTimedOutConfirmationRecovery (record : ReservationRecord) : Except ServiceError (Option String) :=
  if ¬ truthy record.transactionId then .ok (some "no settled transaction ID")
  else
    match record.selected, record.settleClaim, record.facilitatorSettle with
    | none, _, _ => .ok (some "no selected option")
    | some _, none, _ => .ok (some "no durable settle claim")
    | some _, some _, none => .ok (some "no successful facilitator settlement")
    | some selected, some claim, some settle => do
      let txId := record.transactionId.getD []
      -- a settlement without a transaction id is not compared
      let sameTransaction := if truthy settle.transactionId
        then transactionIdsEqual (settle.transactionId.getD []) txId else .ok true
      if ¬ settle.success then .ok (some "no successful facilitator settlement")
      else if ¬ (← sameTransaction) then .ok (some "settlement transaction ID mismatch")
      else if ¬ truthy record.paymentPayloadHash ∨ some claim.paymentPayloadHash ≠ record.paymentPayloadHash then
        .ok (some "payment payload fingerprint changed")
      else if ¬ (claim.selectedOptionId = selected.optionId ∧ claim.asset = selected.asset ∧
          claim.amountAtomic = selected.amountAtomic ∧ claim.payerAccount = selected.payerAccount ∧
          claim.payTo = selected.payTo) then
        .ok (some "settle claim no longer matches selected option")
      else
        match record.mirrorPoll with
        | none => .ok none
        | some poll =>
          if ← transactionIdsEqual poll.transactionId txId then .ok none
          else .ok (some "mirror poll transaction ID mismatch")

/-- The poll of a resumed confirmation: counts and results stay, the window is new. -/
def resumedPoll (record : ReservationRecord) (txId resumedAt deadline : JsString) : MirrorPollRecord where
  transactionId := txId
  confirmationStartedAt := (record.mirrorPoll.map MirrorPollRecord.confirmationStartedAt).getD resumedAt
  confirmationDeadline := deadline
  pollAttemptCount := (record.mirrorPoll.map MirrorPollRecord.pollAttemptCount).getD 0
  lastPollAt := record.mirrorPoll.bind MirrorPollRecord.lastPollAt
  lastMirrorStatus := record.mirrorPoll.bind MirrorPollRecord.lastMirrorStatus
  lastMirrorErrorCode := none
  lastMirrorError := none
  consensusTimestamp := record.mirrorPoll.bind MirrorPollRecord.consensusTimestamp
  verifiedTransfer := record.mirrorPoll.bind MirrorPollRecord.verifiedTransfer

def blockRecovery (record : ReservationRecord) (reason : String) : ServiceM ReservationRecord := do
  let now ← nowIso
  let next ← check (transition record manualReviewRequired (js "confirmation recovery blocked: " ++ js reason) now)
  commit .blockRecovery record
    { next with
      failureCode := some (js "CONFIRMATION_RECOVERY_BLOCKED")
      failureReason := some (js "Guarded confirmation recovery refused: " ++ js reason) }

def recoverTimedOutConfirmation (record : ReservationRecord) : ServiceM ReservationRecord := do
  match ← check (assessTimedOutConfirmationRecovery record) with
  | some reason => blockRecovery record reason
  | none => do
    let txId ← check (requireTransactionIdForSettlement record.transactionId)
    let now ← nowIso
    let deadline ← check (isoAfter now deps.confirmationTimeoutMs)
    let next ← check (transition record mirrorConfirmationPending
      (js "guarded recovery of settled payment — same transaction, new confirmation window") now)
    commit .recoverTimedOut record
      { next with
        confirmationDeadline := some deadline
        mirrorPoll := some (resumedPoll record txId now deadline)
        failureCode := none
        failureReason := none }

/-- A settled payment that can be confirmed. -/
def confirmableSelection (record : ReservationRecord) : Except ServiceError SelectedPaymentOption := do
  require (record.state = facilitatorSettled ∨ record.state = mirrorConfirmationPending)
    (.reservation (js "NOT_CONFIRMABLE")
      (js "Cannot resume payment confirmation from state " ++ record.state.text))
  match record.selected with
  | none => .error (err "NO_SELECTION" "No selected option")
  | some selected =>
    require (truthy record.transactionId)
      (err "MISSING_TRANSACTION_ID" "Cannot resume confirmation without transaction ID")
    require record.settleClaim.isSome
      (err "NO_SETTLE_CLAIM" "Cannot resume confirmation without durable settle claim")
    pure selected

def resumeConfirming (record : ReservationRecord) : ServiceM ReservationRecord := do
  let selected ← check (confirmableSelection record)
  runMirrorConfirmation deps record selected

/-- `reconcile` is `reconcilePayment`, for a claim whose settlement is not known. -/
def resumeWith (reconcile : JsString → ServiceM ReservationRecord) (reservationId : JsString) :
    ServiceM ReservationRecord := do
  let record ← requireRecord reservationId
  if record.routeReserved.isSome ∨ record.state ∈ POST_RESERVATION_STATES then pure record
  else if record.settleClaim.isSome ∧ ¬ truthy record.transactionId then
    if record.state = manualReviewRequired then pure record else reconcile record.reservationId
  else if record.state = confirmationTimedOut then do
    let recovered ← recoverTimedOutConfirmation deps record
    if recovered.state = mirrorConfirmationPending then resumeConfirming deps recovered else pure recovered
  else resumeConfirming deps record

/-! ## Reconciliation -/

/-- What a reconciliation finds, with the record after it. -/
structure Reconciliation where
  outcome : SettlementReconciliationOutcome
  record : ReservationRecord

/-- The reconciliation of a reservation that is reserved or confirming. -/
def reconcileResumed (resume : ServiceM ReservationRecord) (record : ReservationRecord) : ServiceM Reconciliation := do
  let resumed ← if record.routeReserved.isSome then pure record else resume
  if truthy resumed.transactionId then pure ⟨.foundSuccess (resumed.transactionId.getD []), resumed⟩
  else
    let boundary ←
      match record.settleClaim with
      | some claim => check (conclusiveFailureBoundaryMs claim.validStartTimestamp claim.transactionValidDurationSeconds)
      | none => do
        let now ← nowIso
        check (conclusiveFailureBoundaryMs now 180)
    let iso ← check (toISOString boundary)
    pure ⟨.reconciliationPending iso, resumed⟩

/-- A reconciliation that ends in a failure: the commit, the target and the reason of the transition, and the failure
it records. -/
structure ReconcileFailure where
  site : CommitSite
  target : ReservationState
  reason : JsString
  code : String
  text : JsString

def failReconciled (current record : ReservationRecord) (f : ReconcileFailure) : ServiceM ReservationRecord := do
  let now ← nowIso
  let next ← check (transition record f.target f.reason now)
  commit f.site current { next with failureCode := some (js f.code), failureReason := some f.text }

def unauthorizedSettlement (exact : JsString) : ReconcileFailure where
  site := .unauthorizedSettlement
  target := manualReviewRequired
  reason := js "ledger shows settlement without a durable settle claim"
  code := "UNAUTHORIZED_SETTLEMENT_DETECTED"
  text := js "Exact transaction " ++ exact ++
    js " present on ledger without an authorized settle claim — manual review"

def foundFailed (site : CommitSite) (target : ReservationState) (exact : JsString) (result : Option JsString) :
    ReconcileFailure where
  site := site
  target := target
  reason := js "exact transaction found FAILED on ledger"
  code := "SETTLE_RESULT_FAILED_ON_LEDGER"
  text := js "Exact transaction " ++ exact ++ js " has non-SUCCESS result " ++ result.getD (js "unknown")

def conclusivelyFailed (site : CommitSite) (target : ReservationState) (exact boundaryIso : JsString) :
    ReconcileFailure where
  site := site
  target := target
  reason := js "conclusively failed: no ledger record for " ++ exact ++ js " after " ++ boundaryIso
  code := "CONCLUSIVELY_FAILED"
  text := js "Exact-transaction lookup found no record and validStart + validDuration + safety buffer elapsed at " ++
    boundaryIso

/-- The exact transaction, its boundary, and the boundary as a timestamp. -/
structure ExactLookup where
  exact : JsString
  boundaryMs : Int
  boundaryIso : JsString

def exactLookup (transactionId validStartTimestamp : JsString) (transactionValidDurationSeconds : Int) :
    Except ServiceError ExactLookup := do
  let exact ← requireTransactionIdForSettlement (some transactionId)
  let boundaryMs ← conclusiveFailureBoundaryMs validStartTimestamp transactionValidDurationSeconds
  let boundaryIso ← toISOString boundaryMs
  pure ⟨exact, boundaryMs, boundaryIso⟩

/-- The failure state of a submission that was never claimed. -/
def preClaimTarget (record : ReservationRecord) : ReservationState :=
  if record.state = facilitatorVerified then settlementFailed else paymentRejected

/-- Before any settle claim: the lookup classifies, and nothing is adopted. -/
def reconcilePreClaim (record : ReservationRecord) (ref : ClientTransactionRef) : ServiceM Reconciliation := do
  let l ← check (exactLookup ref.transactionId ref.validStartTimestamp ref.transactionValidDurationSeconds)
  let found ← getTransaction l.exact
  match found.status with
  | .success =>
    let committed ← failReconciled record record (unauthorizedSettlement l.exact)
    pure ⟨.foundSuccess l.exact, committed⟩
  | .failed =>
    let committed ← failReconciled record record
      (foundFailed .preClaimFailed (preClaimTarget record) l.exact found.result)
    pure ⟨.foundFailed found.result, committed⟩
  | .pending => pure ⟨.reconciliationPending l.boundaryIso, record⟩
  | .notFound =>
    let ms ← read Call.nowMs
    if ms ≤ l.boundaryMs then pure ⟨.reconciliationPending l.boundaryIso, record⟩
    else do
      let committed ← failReconciled record record
        (conclusivelyFailed .preClaimConclusive (preClaimTarget record) l.exact l.boundaryIso)
      pure ⟨.conclusivelyFailed l.boundaryIso, committed⟩

/-- A Mirror answer about another transaction is no answer. -/
def checkMirrorId (mirror : MirrorConfirmation) (exact : JsString) : Except ServiceError Unit :=
  provided (mirror.transactionId ≠ []) do
    let same ← transactionIdsEqual mirror.transactionId exact
    require same (err "TRANSACTION_ID_MISMATCH" "Mirror returned a different transaction than the exact lookup")

/-- Under a settle claim: a success is adopted and confirmed, a failure or a conclusive absence ends the attempt. -/
def reconcileClaimed (resume : ServiceM ReservationRecord) (record : ReservationRecord) (claim : SettleClaim) :
    ServiceM Reconciliation := do
  let l ← check (exactLookup claim.transactionId claim.validStartTimestamp claim.transactionValidDurationSeconds)
  let mirror ← getTransaction l.exact
  check (checkMirrorId mirror l.exact)
  match mirror.status with
  | .success =>
    let recovered ← recoverInProgressState record ⟨none, some l.exact⟩
    let now ← nowIso
    let _ ← commit .adopt record { recovered with updatedAt := now }
    let confirmed ← resume
    pure ⟨.foundSuccess l.exact, confirmed⟩
  | .failed =>
    let updatedAt ← nowIso
    let committed ← failReconciled record
      { record with mirrorConfirmation := some mirror, updatedAt := updatedAt }
      (foundFailed .claimedFailed settlementFailed l.exact mirror.result)
    pure ⟨.foundFailed mirror.result, committed⟩
  | .pending => pure ⟨.reconciliationPending l.boundaryIso, record⟩
  | .notFound =>
    let ms ← read Call.nowMs
    if ms ≤ l.boundaryMs then pure ⟨.reconciliationPending l.boundaryIso, record⟩
    else do
      let committed ← failReconciled record record
        (conclusivelyFailed .claimedConclusive settlementFailed l.exact l.boundaryIso)
      pure ⟨.conclusivelyFailed l.boundaryIso, committed⟩

/-- `resume` is `resumePaymentConfirmation`. -/
def reconcileWith (resume : JsString → ServiceM ReservationRecord) (reservationId : JsString) :
    ServiceM Reconciliation := do
  let record ← requireRecord reservationId
  if record.routeReserved.isSome ∨
      record.state ∈ [facilitatorSettled, mirrorConfirmationPending, confirmationTimedOut] then
    reconcileResumed (resume reservationId) record
  else
    match record.state, record.clientTransaction, record.settleClaim with
    | paymentSubmissionStarted, some ref, _ => reconcilePreClaim record ref
    | facilitatorVerified, some ref, _ => reconcilePreClaim record ref
    | facilitatorSettleClaimed, _, some claim => reconcileClaimed (resume reservationId) record claim
    | state, _, _ =>
      throw (.reservation (js "NOT_RECONCILABLE") (js "Cannot reconcile settlement from state " ++ state.text))

/-- Deterministic settlement reconciliation for the exact client-frozen transaction. -/
def reconcilePayment : Nat → JsString → ServiceM Reconciliation
  | 0, _ => throw (.other (js "Too many concurrent changes"))
  | depth + 1, reservationId =>
    reconcileWith (resumeWith deps fun id => do return (← reconcilePayment depth id).record) reservationId

/-- Resume ledger confirmation after restart. It never settles. -/
def resumePaymentConfirmation (depth : Nat) (reservationId : JsString) : ServiceM ReservationRecord :=
  resumeWith deps (fun id => do return (← reconcilePayment deps depth id).record) reservationId

/-! ## Replacement -/

/-- The payment state is reset, so that a fresh option may be selected. -/
def resetRecord (record : ReservationRecord) (now : JsString) : ReservationRecord :=
  { record with
    selected := none
    attemptNumber := 0
    paymentChallenge := none
    paymentChallengeHash := none
    paymentPayloadHash := none
    clientTransaction := none
    facilitatorVerify := none
    settleClaim := none
    facilitatorSettle := none
    transactionId := none
    mirrorConfirmation := none
    mirrorPoll := none
    confirmationDeadline := none
    failureCode := none
    failureReason := none
    updatedAt := now }

/-- Permitted only after a conclusive failure. -/
def authorizeReplacementAttempt (reservationId : JsString) : ServiceM ReservationRecord := do
  let record ← requireRecord reservationId
  check (require ((record.state = settlementFailed ∨ record.state = paymentRejected) ∧
    record.failureCode = some (js "CONCLUSIVELY_FAILED"))
    (err "REPLACEMENT_NOT_AUTHORIZED"
      "Replacement attempts require a CONCLUSIVELY_FAILED settlement (v1.5 §23.2)"))
  let expired ← isPastDeadline record.expiresAt
  check (require (¬ expired) (err "OFFER_EXPIRED" "Reservation offer expired — no replacement attempt"))
  let now ← nowIso
  let next ← check (transition record offerCreated (js "replacement attempt authorized after conclusive failure") now)
  commit .authorizeReplacement record (resetRecord next now)

end Service

/-! ## Requests -/

/-- The operations of the service. -/
inductive Request where
  | createReservation (input : CreateReservationInput) (tender : FreightTender)
  | getReservation (reservationId : JsString)
  | selectOption (input : SelectInput)
  | issueChallenge (reservationId : JsString) (optionId : ReservationOptionId)
  | submitPayment (input : SubmitInput)
  | resumePaymentConfirmation (reservationId : JsString)
  | reconcilePayment (reservationId : JsString)
  | authorizeReplacementAttempt (reservationId : JsString)
  | retryWebhooks (reservationId : JsString)
  | resumeWebhookDispatch (reservationId : JsString)
  | resumeHcsPublication (reservationId : JsString)
  | recover (reservationId : JsString) (resolution : RecoveryResolution)

/-- What a request answers. -/
abbrev Response := Option ReservationRecord

section Requests
variable (deps : ServiceDeps) (auction : Auction)

/-- The program of a request. -/
def serve : Request → ServiceM Response
  | .createReservation input tender => some <$> createReservation deps.crypto auction input tender
  | .getReservation id => storeGet id
  | .selectOption input => some <$> selectOption deps input
  | .issueChallenge id optionId => some <$> issueChallenge deps id optionId
  | .submitPayment input => some <$> submitPayment deps input
  | .resumePaymentConfirmation id => some <$> resumePaymentConfirmation deps deps.depth id
  | .reconcilePayment id => (fun r => some r.record) <$> reconcilePayment deps deps.depth id
  | .authorizeReplacementAttempt id => some <$> authorizeReplacementAttempt id
  | .retryWebhooks id => some <$> retryWebhooks id
  | .resumeWebhookDispatch id => some <$> resumeWebhookDispatch deps id
  | .resumeHcsPublication id => some <$> resumeHcsPublication deps id
  | .recover id resolution => some <$> recover id resolution

/-- Any number of requests over one store that starts empty, started and lost at any await. -/
def serviceSystem : System (Pool Trace Call Call.Answer (Except ServiceError Response))
    (PoolLabel Request Call Call.Answer) :=
  poolSystem (fun request => (serve deps auction request).run) (Performed deps.crypto) fun w => w = []

end Requests

end RouteGuard.Reservation
