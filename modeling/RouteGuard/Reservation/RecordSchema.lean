import RouteGuard.Reservation.ClientTransaction
import RouteGuard.Reservation.Documents
import RouteGuard.Reservation.StateMachine

/-!
# The validator of durable reservation records

The store checks a record whenever it creates or replaces it: formats, hashes that recompute, bindings between its
parts, and what each state requires.

* `REQUIRES_SELECTED` .. `REQUIRES_MIRROR_SUCCESS` : the states that need a part;
* `assertValidPersistedReservationRecord` : the whole check, part by part in the order of the source.

The types of the fields and the names of the keys are those of `ReservationRecord`, so the checks of both are left out.
-/

namespace RouteGuard.Reservation
open JsString Json Guarded Lifecycle Store ReservationState

def corrupt (message : JsString) : ServiceError := .reservation (js "CORRUPT_RESERVATION_RECORD") message

def invalid (message : JsString) : ServiceError := .reservation (js "INVALID_PERSISTED_RECORD") message

/-! ## What the states require -/

/-- The states from the settled payment on, with or without a failure after it. -/
def REQUIRES_MIRROR_SUCCESS : List ReservationState :=
  [paymentConfirmed, routeReserved, webhooksDispatched, hcsEvidenceRecorded, completed, webhookDeliveryFailed,
   hcsEvidenceFailed]

def REQUIRES_MIRROR_POLL : List ReservationState :=
  [mirrorConfirmationPending, paymentConfirmed, routeReserved, webhooksDispatched, hcsEvidenceRecorded, completed,
   confirmationTimedOut, confirmationFailed, webhookDeliveryFailed, hcsEvidenceFailed]

def REQUIRES_SETTLED_TX : List ReservationState :=
  [facilitatorSettled, mirrorConfirmationPending, paymentConfirmed, routeReserved, webhooksDispatched,
   hcsEvidenceRecorded, completed, confirmationTimedOut, confirmationFailed, webhookDeliveryFailed, hcsEvidenceFailed]

def REQUIRES_SETTLE_CLAIM : List ReservationState :=
  [facilitatorSettleClaimed, facilitatorSettled, mirrorConfirmationPending, paymentConfirmed, routeReserved,
   webhooksDispatched, hcsEvidenceRecorded, completed, settlementFailed, confirmationTimedOut, confirmationFailed,
   webhookDeliveryFailed, hcsEvidenceFailed]

def REQUIRES_VERIFY_OK : List ReservationState :=
  [facilitatorVerified, facilitatorSettleClaimed, facilitatorSettled, mirrorConfirmationPending, paymentConfirmed,
   routeReserved, webhooksDispatched, hcsEvidenceRecorded, completed, settlementFailed, confirmationTimedOut,
   confirmationFailed, webhookDeliveryFailed, hcsEvidenceFailed]

def REQUIRES_PAYLOAD : List ReservationState :=
  [paymentSubmissionStarted, facilitatorVerified, facilitatorSettleClaimed, facilitatorSettled,
   mirrorConfirmationPending, paymentConfirmed, routeReserved, webhooksDispatched, hcsEvidenceRecorded, completed,
   settlementFailed, confirmationTimedOut, confirmationFailed, webhookDeliveryFailed, hcsEvidenceFailed]

def REQUIRES_CHALLENGE : List ReservationState :=
  [paymentChallengeIssued, paymentSubmissionStarted, facilitatorVerified, facilitatorSettleClaimed, facilitatorSettled,
   mirrorConfirmationPending, paymentConfirmed, routeReserved, webhooksDispatched, hcsEvidenceRecorded, completed,
   paymentRejected, settlementFailed, confirmationTimedOut, confirmationFailed, webhookDeliveryFailed,
   hcsEvidenceFailed]

def REQUIRES_SELECTED : List ReservationState :=
  [optionSelected, paymentChallengeIssued, paymentSubmissionStarted, facilitatorVerified, facilitatorSettleClaimed,
   facilitatorSettled, mirrorConfirmationPending, paymentConfirmed, routeReserved, webhooksDispatched,
   hcsEvidenceRecorded, completed, paymentRejected, settlementFailed, confirmationTimedOut, confirmationFailed,
   webhookDeliveryFailed, hcsEvidenceFailed]

/-! ## Primitive checks -/

/-- The id in Mirror form, when it is in SDK form; never an error. -/
def normalizeTxIdForm (id : JsString) : JsString :=
  match matchSdkTxId (trim id) with
  | some m => m.mirrorForm
  | none => trim id

/-- `SAFE_ID_RE` without `..`. -/
def isSafeReservationId (id : JsString) : Bool :=
  let alphanumeric (u : UInt16) : Bool := (0x30 ≤ u && u ≤ 0x39) || (0x41 ≤ u && u ≤ 0x5A) || (0x61 ≤ u && u ≤ 0x7A)
  match id with
  | [] => false
  | u :: rest =>
    rest.length ≤ 126 && !Access.includes (js "..") id && alphanumeric u &&
      rest.all fun v => alphanumeric v || v ∈ js "._-"

def assertSafeReservationId (id : JsString) : Except ServiceError Unit :=
  require (isSafeReservationId id) (invalid (js "reservationId must be filesystem-safe [a-zA-Z0-9._-]"))

def assertHash (field : String) (value : JsString) : Except ServiceError Unit :=
  require (isSha256 value) (invalid (js field ++ js " must be sha256:<64 lowercase hex>"))

def assertUtc (field : String) (value : JsString) : Except ServiceError Unit :=
  require (isUtcIsoTimestamp value) (invalid (js field ++ js " must be valid UTC ISO timestamp"))

def assertSafeInt (min : Int) (field : String) (value : Int) : Except ServiceError Unit :=
  require (min ≤ value ∧ value ≤ MAX_SAFE_INTEGER)
    (invalid (js field ++ js " must be a safe integer >= " ++ decimalInt min))

def assertAccount (field : String) (value : JsString) : Except ServiceError Unit :=
  require (isValidHederaAccountId value) (invalid (js field ++ js " must be a valid Hedera account id"))

/-- A state that requires a part has it. -/
def requirePart (states : List ReservationState) (state : ReservationState) (present : Bool) (part : String) :
    Except ServiceError Unit :=
  require (state ∈ states → present) (corrupt (js "state " ++ state.text ++ js " requires " ++ js part))

/-- A binding between two parts. -/
def binding (c : Prop) [Decidable c] (message : String) : Except ServiceError Unit := require c (corrupt (js message))

section Validator
variable (c : Crypto)

/-! ## Creation -/

def computeCreationFingerprint (r : ReservationRecord) : JsString :=
  hashOf c <| .obj
    [(js "reservationId", .str r.reservationId), (js "tenderId", .str r.tenderId),
     (js "tenderVersion", .num r.tenderVersion), (js "tenderHash", .str r.tenderHash),
     (js "winningBidId", .str r.winningBidId), (js "winningBidHash", .str r.winningBidHash),
     (js "winningCarrierId", .str r.winningCarrierId), (js "winningCarrierAccount", .str r.winningCarrierAccount),
     (js "decisionManifestHash", .str r.decisionManifestHash), (js "evaluatedBidSetHash", .str r.evaluatedBidSetHash),
     (js "hcsTopicId", .str r.hcsTopicId), (js "closeBarrierSequence", .num r.closeBarrierSequence),
     (js "closeBarrierConsensusTimestamp", .str r.closeBarrierConsensusTimestamp),
     (js "reservationOfferVersion", .num r.offer.offerVersion), (js "createdAt", .str r.createdAt),
     (js "expiresAt", .str r.expiresAt)]

def checkIdentity (expectedId : JsString) (r : ReservationRecord) : Except ServiceError Unit := do
  assertSafeReservationId expectedId
  require (r.reservationId = expectedId)
    (corrupt (js "reservationId mismatch: record has " ++ r.reservationId ++ js ", expected " ++ expectedId))
  assertSafeInt 1 "recordVersion" r.recordVersion
  assertSafeInt 1 "tenderVersion" r.tenderVersion
  assertSafeInt 1 "closeBarrierSequence" r.closeBarrierSequence
  assertSafeInt 0 "attemptNumber" r.attemptNumber
  assertHash "tenderHash" r.tenderHash
  assertHash "winningBidHash" r.winningBidHash
  assertHash "decisionManifestHash" r.decisionManifestHash
  assertHash "evaluatedBidSetHash" r.evaluatedBidSetHash
  assertHash "proofManifestHash" r.proofManifestHash
  assertHash "creationFingerprint" r.creationFingerprint
  binding (r.tenderId ≠ [] ∧ r.tenderId.length ≤ 128) "tenderId invalid"
  binding (r.winningBidId ≠ []) "winningBidId invalid"
  binding (r.winningCarrierId ≠ []) "winningCarrierId invalid"
  assertAccount "winningCarrierAccount" r.winningCarrierAccount
  binding (isValidHederaAccountId r.hcsTopicId) "hcsTopicId must be a valid Hedera entity id"
  assertUtc "closeBarrierConsensusTimestamp" r.closeBarrierConsensusTimestamp
  assertUtc "createdAt" r.createdAt
  assertUtc "updatedAt" r.updatedAt
  assertUtc "expiresAt" r.expiresAt
  binding (¬ isAfterUtc r.createdAt r.updatedAt) "createdAt must be <= updatedAt"
  binding (isBeforeUtc r.createdAt r.expiresAt) "expiresAt must be after createdAt"
  binding (r.proofTenderId ≠ []) "proofTenderId required"

/-- The first option with an id has the asset and amount of its definition. -/
def fixedOption (options : List OfferOption) (fixed : OfferOption) : Bool :=
  (options.find? fun o => o.optionId = fixed.optionId).any fun o =>
    o.asset = fixed.asset && o.amountAtomic = fixed.amountAtomic

def checkOffer (r : ReservationRecord) : Except ServiceError Unit := do
  (verifyOfferIntegrity c r.offer).mapError fun e => corrupt (js "offer integrity failed: " ++ e.message)
  binding (r.offer.options.any fun o => o.optionId = .usdc) "offer must include USDC and HBAR"
  binding (r.offer.options.any fun o => o.optionId = .hbar) "offer must include USDC and HBAR"
  binding (fixedOption r.offer.options USDC_RESERVATION_OPTION) "USDC option must match fixed reservation definition"
  binding (fixedOption r.offer.options HBAR_RESERVATION_OPTION) "HBAR option must match fixed reservation definition"
  binding (r.offer.payTo = r.winningCarrierAccount) "offer.payTo must equal winningCarrierAccount"
  binding (r.offer.tenderId = r.tenderId) "offer.tenderId mismatch"
  binding (r.offer.winningBidId = r.winningBidId) "offer.winningBidId mismatch"
  binding (r.offer.reservationId = r.reservationId) "offer.reservationId mismatch"
  binding (r.offer.expiresAt = r.expiresAt) "offer.expiresAt must match record.expiresAt"
  binding (r.creationFingerprint = computeCreationFingerprint c r)
    "creationFingerprint does not match record trust-critical fields"

/-! ## Payment -/

def checkSelection (reservationId : JsString) (offer : ReservationOffer) (selected : SelectedPaymentOption) :
    Except ServiceError Unit := do
  binding (selected.reservationId = reservationId) "selected.reservationId mismatch"
  binding (selected.offerHash = offer.offerHash) "selected.offerHash mismatch"
  binding (selected.offerVersion = offer.offerVersion) "selected.offerVersion mismatch"
  match offer.options.find? fun o => o.optionId = selected.optionId with
  | none => .error (corrupt (js "selected option not in offer"))
  | some opt =>
    assertAccount "selected.payerAccount" selected.payerAccount
    binding (selected.payTo = offer.payTo) "selected.payTo mismatch"
    binding (selected.scheme = opt.scheme ∧ selected.network = opt.network) "selected scheme/network mismatch"
    binding (selected.asset = opt.asset ∧ selected.amountAtomic = opt.amountAtomic) "selected asset/amount mismatch"
    binding ((resourcePathForOption reservationId selected.optionId).toOption = some selected.resourcePath)
      "selected.resourcePath mismatch"
    assertUtc "selected.selectedAt" selected.selectedAt

def checkSelected (r : ReservationRecord) : Except ServiceError Unit := do
  requirePart REQUIRES_SELECTED r.state r.selected.isSome "selected option"
  nullable (checkSelection r.reservationId r.offer) r.selected

def validateChallengeRecord (ch : PaymentChallengeRecord) (selected : SelectedPaymentOption)
    (paymentChallengeHash : Option JsString) : Except ServiceError Unit := do
  binding (ch.x402Version = CHALLENGE_X402_VERSION) "challenge x402Version must be 2"
  binding (ch.scheme = RESERVATION_SCHEME) "challenge scheme mismatch"
  binding (ch.network = RESERVATION_NETWORK) "challenge network mismatch"
  binding (ch.asset = selected.asset) "challenge asset mismatch"
  binding (ch.amount = selected.amountAtomic) "challenge amount mismatch"
  binding (ch.payTo = selected.payTo) "challenge payTo mismatch"
  binding (ch.resource = selected.resourcePath) "challenge resource mismatch"
  binding (ch.maxTimeoutSeconds = CHALLENGE_MAX_TIMEOUT_SECONDS) "challenge maxTimeoutSeconds must be 180"
  binding (ch.description = DEMO_RESERVATION_FEE_NOTE) "challenge description mismatch"
  assertUtc "challenge.issuedAt" ch.issuedAt
  binding (ch.challengeHash = computeChallengeHash c ch.toPaymentChallenge ch.issuedAt)
    "challengeHash does not recompute"
  binding (paymentChallengeHash = some ch.challengeHash)
    "paymentChallengeHash must equal paymentChallenge.challengeHash"

def checkChallenge (r : ReservationRecord) : Except ServiceError Unit := do
  requirePart REQUIRES_CHALLENGE r.state (r.paymentChallenge.isSome && truthy r.paymentChallengeHash)
    "paymentChallenge and paymentChallengeHash"
  match r.paymentChallenge with
  | some ch =>
    match r.selected with
    | none => .error (corrupt (js "challenge must not exist without selected option"))
    | some selected => validateChallengeRecord c ch selected r.paymentChallengeHash
  | none => binding (¬ truthy r.paymentChallengeHash) "paymentChallengeHash without paymentChallenge"

def checkPayload (r : ReservationRecord) : Except ServiceError Unit := do
  requirePart REQUIRES_PAYLOAD r.state (truthy r.paymentPayloadHash) "paymentPayloadHash"
  provided (truthy r.paymentPayloadHash) (assertHash "paymentPayloadHash" (r.paymentPayloadHash.getD []))
  binding (r.state ∈ REQUIRES_PAYLOAD → r.attemptNumber = 1) "attemptNumber must be 1 after payment submission started"

/-- A transaction reference, of the record or of its claim: SDK form, a valid start, 1 to 180 seconds, and the
transaction of the record. -/
def checkReference (name : String) (transactionId : Option JsString) (id validStart : JsString) (duration : Int) :
    Except ServiceError Unit := do
  require ((matchSdkTxId id).isSome) (corrupt (js name ++ js ".transactionId must be SDK form acct@seconds.nanos"))
  require (isUtcIsoTimestamp validStart)
    (invalid (js name ++ js ".validStartTimestamp must be valid UTC ISO timestamp"))
  require (1 ≤ duration ∧ duration ≤ 180)
    (corrupt (js name ++ js ".transactionValidDurationSeconds must be 1..180"))
  require (truthy transactionId → normalizeTxIdForm (transactionId.getD []) = normalizeTxIdForm id)
    (corrupt (js "record.transactionId must equal " ++ js name ++ js ".transactionId"))

def checkClientTransaction (r : ReservationRecord) : Except ServiceError Unit := do
  requirePart REQUIRES_PAYLOAD r.state r.clientTransaction.isSome "clientTransaction (v1.5 §22.4)"
  nullable (fun (t : ClientTransactionRef) =>
    checkReference "clientTransaction" r.transactionId t.transactionId t.validStartTimestamp
      t.transactionValidDurationSeconds) r.clientTransaction

def checkVerify (r : ReservationRecord) : Except ServiceError Unit :=
  requirePart REQUIRES_VERIFY_OK r.state (r.facilitatorVerify.any FacilitatorVerifyResult.isValid)
    "facilitatorVerify.isValid === true"

def checkClaim (r : ReservationRecord) (claim : SettleClaim) : Except ServiceError Unit := do
  match r.selected with
  | none => .error (corrupt (js "settleClaim requires selected, payload hash, and challenge hash"))
  | some selected =>
    binding (truthy r.paymentPayloadHash ∧ truthy r.paymentChallengeHash)
      "settleClaim requires selected, payload hash, and challenge hash"
    binding (claim.reservationId = r.reservationId) "settleClaim.reservationId mismatch"
    binding (claim.selectedOptionId = selected.optionId) "settleClaim.selectedOptionId mismatch"
    binding (claim.asset = selected.asset ∧ claim.amountAtomic = selected.amountAtomic ∧
      claim.payerAccount = selected.payerAccount ∧ claim.payTo = selected.payTo ∧ claim.network = RESERVATION_NETWORK)
      "settleClaim payment binding mismatch"
    binding (some claim.challengeHash = r.paymentChallengeHash) "settleClaim.challengeHash mismatch"
    binding (some claim.paymentPayloadHash = r.paymentPayloadHash) "settleClaim.paymentPayloadHash mismatch"
    binding (claim.attemptNumber = r.attemptNumber) "settleClaim.attemptNumber mismatch"
    checkReference "settleClaim" r.transactionId claim.transactionId claim.validStartTimestamp
      claim.transactionValidDurationSeconds
    nullable (fun (t : ClientTransactionRef) =>
      binding (normalizeTxIdForm t.transactionId = normalizeTxIdForm claim.transactionId)
        "settleClaim.transactionId must equal clientTransaction.transactionId") r.clientTransaction
    assertUtc "settleClaim.claimedAt" claim.claimedAt
    assertSafeInt 1 "settleClaim.recordVersion" claim.recordVersion
    binding (claim.recordVersion ≤ r.recordVersion) "settleClaim.recordVersion cannot exceed record.recordVersion"

def checkSettleClaim (r : ReservationRecord) : Except ServiceError Unit := do
  requirePart REQUIRES_SETTLE_CLAIM r.state r.settleClaim.isSome "settleClaim"
  nullable (checkClaim r) r.settleClaim

/-- A successful facilitator answer belongs to the settled transaction and to the selection. -/
def checkSettleResult (r : ReservationRecord) (settle : FacilitatorSettleResult) : Except ServiceError Unit := do
  binding (settle.success → ∀ id ∈ settle.transactionId,
    normalizeTxIdForm id = normalizeTxIdForm (r.transactionId.getD []))
    "facilitatorSettle.transactionId must equal record.transactionId"
  nullable (fun (selected : SelectedPaymentOption) => do
    binding (settle.success → settle.network = selected.network) "facilitatorSettle.network mismatch"
    binding (settle.success → settle.payerAccountId = selected.payerAccount)
      "facilitatorSettle.payerAccountId mismatch") r.selected

def checkSettlement (r : ReservationRecord) : Except ServiceError Unit := do
  requirePart REQUIRES_SETTLED_TX r.state (truthy r.transactionId) "non-empty transactionId"
  requirePart [facilitatorSettled] r.state (r.facilitatorSettle.any FacilitatorSettleResult.success)
    "successful facilitatorSettle"
  provided (r.state ∈ REQUIRES_SETTLED_TX) (nullable (checkSettleResult r) r.facilitatorSettle)
  requirePart REQUIRES_SETTLED_TX r.state (r.facilitatorSettle.isSome || r.settleClaim.isSome)
    "facilitatorSettle or settleClaim"
  binding (¬ (r.state = settlementFailed ∧ r.routeReserved.isSome)) "SETTLEMENT_FAILED must not contain routeReserved"

/-! ## Confirmation -/

def validateMirrorPoll (poll : MirrorPollRecord) (transactionId : JsString) (confirmationDeadline : Option JsString) :
    Except ServiceError Unit := do
  assertUtc "mirrorPoll.confirmationStartedAt" poll.confirmationStartedAt
  assertUtc "mirrorPoll.confirmationDeadline" poll.confirmationDeadline
  binding (isBeforeUtc poll.confirmationStartedAt poll.confirmationDeadline) "mirrorPoll deadline must be after start"
  binding (truthy confirmationDeadline → confirmationDeadline = some poll.confirmationDeadline)
    "mirrorPoll.confirmationDeadline must match record.confirmationDeadline"
  assertSafeInt 0 "mirrorPoll.pollAttemptCount" poll.pollAttemptCount
  nullable (assertUtc "mirrorPoll.lastPollAt") poll.lastPollAt
  binding (poll.transactionId = transactionId) "mirrorPoll.transactionId must match record.transactionId"
  nullable (fun (e : JsString) => binding (e.length ≤ 1000) "mirrorPoll.lastMirrorError unbounded or invalid")
    poll.lastMirrorError
  nullable (fun (e : JsString) => binding (e.length ≤ 128) "mirrorPoll.lastMirrorErrorCode invalid")
    poll.lastMirrorErrorCode
  nullable (assertUtc "mirrorPoll.consensusTimestamp") poll.consensusTimestamp

def checkMirror (r : ReservationRecord) : Except ServiceError Unit := do
  requirePart REQUIRES_MIRROR_POLL r.state (truthy r.transactionId) "transactionId"
  requirePart REQUIRES_MIRROR_POLL r.state (truthy r.confirmationDeadline) "confirmationDeadline"
  requirePart REQUIRES_MIRROR_POLL r.state r.mirrorPoll.isSome "mirrorPoll metadata"
  nullable (fun (poll : MirrorPollRecord) =>
    validateMirrorPoll poll (r.transactionId.getD poll.transactionId) r.confirmationDeadline) r.mirrorPoll
  provided (truthy r.confirmationDeadline) (assertUtc "confirmationDeadline" (r.confirmationDeadline.getD []))

def checkMirrorSuccess (r : ReservationRecord) : Except ServiceError Unit := do
  match r.mirrorConfirmation with
  | none => .error (corrupt (js "state " ++ r.state.text ++ js " requires mirrorConfirmation SUCCESS"))
  | some m =>
    require (m.status = .success)
      (corrupt (js "state " ++ r.state.text ++ js " requires mirrorConfirmation SUCCESS"))
    binding (truthy m.result → m.result = some (js "SUCCESS")) "mirrorConfirmation.result must be SUCCESS"
    binding (some m.transactionId = r.transactionId) "mirrorConfirmation.transactionId mismatch"
    assertUtc "mirrorConfirmation.consensusTimestamp" (m.consensusTimestamp.getD [])
    nullable (fun (poll : MirrorPollRecord) => nullable (fun (v : VerifiedTransfer) =>
      nullable (fun (selected : SelectedPaymentOption) =>
        binding (v = ⟨selected.optionId, selected.asset, selected.amountAtomic, selected.payerAccount, selected.payTo⟩)
          "verifiedTransfer does not match selected payment") r.selected) poll.verifiedTransfer) r.mirrorPoll

/-- Failed confirmations hold no reserved route; a timed-out one keeps its selection and transaction. -/
def checkUnreserved (r : ReservationRecord) : Except ServiceError Unit := do
  binding (r.state = confirmationTimedOut → r.routeReserved = none)
    "CONFIRMATION_TIMED_OUT must not contain routeReserved"
  binding (r.state = confirmationTimedOut → r.selected.isSome) "CONFIRMATION_TIMED_OUT retains locked selection"
  binding (r.state = confirmationTimedOut → truthy r.transactionId) "CONFIRMATION_TIMED_OUT retains transactionId"
  binding (r.state = confirmationFailed → r.routeReserved = none) "CONFIRMATION_FAILED must not contain routeReserved"
  requirePart POST_RESERVATION_STATES r.state r.routeReserved.isSome "routeReserved"
  require (r.state ∉ POST_RESERVATION_STATES → r.routeReserved = none)
    (corrupt (js "state " ++ r.state.text ++ js " must not contain routeReserved"))

def checkRoute (r : ReservationRecord) (rr : RouteReservedRecord) : Except ServiceError Unit := do
  binding (verifyRouteReservedRecordHash c rr) "routeReserved.reservationRecordHash verification failed"
  binding (rr.reservationId = r.reservationId) "routeReserved.reservationId mismatch"
  binding (rr.tenderId = r.tenderId) "routeReserved.tenderId mismatch"
  binding (rr.tenderVersion = r.tenderVersion) "routeReserved.tenderVersion mismatch"
  binding (rr.tenderHash = r.tenderHash) "routeReserved.tenderHash mismatch"
  binding (rr.winningBidId = r.winningBidId) "routeReserved.winningBidId mismatch"
  binding (rr.winningBidHash = r.winningBidHash) "routeReserved.winningBidHash mismatch"
  binding (rr.carrierId = r.winningCarrierId) "routeReserved.carrierId mismatch"
  binding (rr.carrierAccount = r.winningCarrierAccount) "routeReserved.carrierAccount mismatch"
  nullable (fun (selected : SelectedPaymentOption) => do
    binding (rr.selectedOptionId = selected.optionId) "routeReserved.selectedOptionId mismatch"
    binding (rr.paymentAsset = selected.asset) "routeReserved.paymentAsset mismatch"
    binding (rr.paymentAmountAtomic = selected.amountAtomic) "routeReserved.paymentAmountAtomic mismatch"
    binding (rr.payerAccount = selected.payerAccount) "routeReserved.payerAccount mismatch") r.selected
  binding (some rr.transactionId = r.transactionId) "routeReserved.transactionId mismatch"
  nullable (fun (m : MirrorConfirmation) => provided (truthy m.consensusTimestamp) do
    binding (some rr.consensusTimestamp = m.consensusTimestamp)
      "routeReserved.consensusTimestamp must match Mirror confirmation"
    binding (some rr.reservedAt = m.consensusTimestamp) "routeReserved.reservedAt must equal consensus timestamp")
    r.mirrorConfirmation
  binding (rr.decisionManifestHash = r.decisionManifestHash) "routeReserved.decisionManifestHash mismatch"
  binding (rr.evaluatedBidSetHash = r.evaluatedBidSetHash) "routeReserved.evaluatedBidSetHash mismatch"
  binding (rr.hcsAuctionTopicId = r.hcsTopicId) "routeReserved.hcsAuctionTopicId mismatch"
  binding (rr.closeBarrierSequence = r.closeBarrierSequence) "routeReserved.closeBarrierSequence mismatch"

/-! ## Webhooks -/

/-- The payload of an event repeats the reserved route. -/
def checkPayloadBinding (payload : WebhookEventPayload) (rr : RouteReservedRecord) : Except ServiceError Unit := do
  binding (payload.reservationId = rr.reservationId) "webhook payload.reservationId mismatch"
  binding (payload.tenderId = rr.tenderId) "webhook payload.tenderId mismatch"
  binding (payload.winningBidId = rr.winningBidId) "webhook payload.winningBidId mismatch"
  binding (payload.carrierAccount = rr.carrierAccount) "webhook payload.carrierAccount mismatch"
  binding (payload.selectedOptionId = rr.selectedOptionId) "webhook payload.selectedOptionId mismatch"
  binding (payload.paymentAsset = rr.paymentAsset) "webhook payload.paymentAsset mismatch"
  binding (payload.paymentAmountAtomic = rr.paymentAmountAtomic) "webhook payload.paymentAmountAtomic mismatch"
  binding (payload.transactionId = rr.transactionId) "webhook payload.transactionId mismatch"
  binding (payload.consensusTimestamp = rr.consensusTimestamp) "webhook payload.consensusTimestamp mismatch"
  binding (payload.reservationRecordHash = rr.reservationRecordHash) "webhook payload.reservationRecordHash mismatch"

def checkWebhookEvent (reservationId : JsString) (routeReserved : Option RouteReservedRecord)
    (earlier : List WebhookEvent) (e : WebhookEvent) : Except ServiceError Unit := do
  binding (e.eventId ∉ earlier.map WebhookEvent.eventId) "duplicate webhook eventId"
  binding (e.recipient ∉ earlier.map WebhookEvent.recipient) "at most one semantic event per recipient"
  binding (e.eventId = reservationWebhookEventId reservationId e.recipient)
    "webhook eventId is not deterministic for reservation+recipient"
  binding (e.eventType = ROUTE_RESERVED_EVENT_TYPE) "webhook eventType mismatch"
  binding (e.signatureVersion = WEBHOOK_SIGNATURE_VERSION) "webhook signatureVersion mismatch"
  assertUtc "webhook.emittedAt" e.emittedAt
  assertUtc "webhook.signedTimestamp" e.signedTimestamp
  binding (isSignatureHex e.signature) "webhook signature encoding invalid"
  assertHash "webhook.payloadHash" e.payloadHash
  binding (hashOf c e.payload.toJson = e.payloadHash) "webhook payloadHash does not recompute"
  binding (e.payload.eventId = e.eventId) "webhook payload.eventId mismatch"
  binding (e.payload.eventType = ROUTE_RESERVED_EVENT_TYPE) "webhook payload.eventType mismatch"
  nullable (checkPayloadBinding e.payload) routeReserved

def checkDelivery (events : List WebhookEvent) (d : WebhookDeliveryRecord) : Except ServiceError Unit := do
  match events.find? fun e => e.eventId = d.eventId with
  | none => .error (corrupt (js "delivery references unknown semantic event"))
  | some e =>
    binding (d.recipient = e.recipient) "delivery recipient mismatch"
    binding (d.payloadHash = e.payloadHash) "delivery payloadHash mismatch"
    assertSafeInt 0 "deliveryAttemptNumber" d.deliveryAttemptNumber
    nullable (assertUtc "delivery.attemptedAt") d.attemptedAt
    nullable (fun (e : JsString) => binding (e.length ≤ 1000) "delivery lastError unbounded") d.lastError

def checkWebhooks (r : ReservationRecord) : Except ServiceError Unit := do
  binding (r.webhookEvents ≠ [] ∨ r.webhooks ≠ [] → r.routeReserved.isSome)
    "webhook outbox data may exist only after ROUTE_RESERVED"
  eachAfter (checkWebhookEvent c r.reservationId r.routeReserved) [] r.webhookEvents
  each (checkDelivery r.webhookEvents) r.webhooks

/-! ## Ledger evidence -/

/-- A published claim and its evidence name one publication. -/
def checkPublished (claim : HcsPublicationClaim) (hcsEvidence : Option HcsEvidenceRecord) :
    Except ServiceError Unit := do
  binding (claim.transactionId ≠ some []) "PUBLISHED claim transactionId must be null or non-empty"
  assertSafeInt 1 "HCS claim.sequence" (claim.sequence.getD 0)
  assertUtc "HCS claim.consensusTimestamp" (claim.consensusTimestamp.getD [])
  match hcsEvidence with
  | none => .error (corrupt (js "PUBLISHED claim requires matching hcsEvidence.published"))
  | some evidence =>
    binding evidence.published "PUBLISHED claim requires matching hcsEvidence.published"
    binding (evidence.sequence = claim.sequence) "hcsEvidence.sequence mismatch"
    binding (evidence.transactionId = claim.transactionId) "hcsEvidence.transactionId mismatch"
    binding (evidence.consensusTimestamp = claim.consensusTimestamp) "hcsEvidence.consensusTimestamp mismatch"
    binding (evidence.topicId = some claim.expectedTopicId) "hcsEvidence.topicId mismatch"

def validateHcsClaim (r : ReservationRecord) (claim : HcsPublicationClaim) (rr : RouteReservedRecord) :
    Except ServiceError Unit := do
  binding (claim.reservationId = r.reservationId) "HCS claim reservationId mismatch"
  binding (claim.expectedTopicId = r.hcsTopicId) "HCS claim expectedTopicId must equal record.hcsTopicId"
  binding (claim.expectedTopicId = rr.hcsAuctionTopicId)
    "HCS claim expectedTopicId must equal routeReserved.hcsAuctionTopicId"
  binding (claim.messageType = ROUTE_RESERVED_EVENT_TYPE) "HCS claim messageType mismatch"
  assertUtc "HCS claim.claimedAt" claim.claimedAt
  assertHash "HCS claim.envelopeHash" claim.envelopeHash
  assertSafeInt 1 "HCS claim.encodedByteCount" claim.encodedByteCount
  binding (claim.encodedByteCount < HCS_MAX_MESSAGE_BYTES) "HCS claim encodedByteCount exceeds 1024"
  (decodeRouteReservedEnvelope c claim.envelope).mapError fun e =>
    corrupt (js "HCS claim envelope schema invalid: " ++ e.message)
  binding (claim.envelope.messageType = ROUTE_RESERVED_EVENT_TYPE) "envelope messageType"
  binding (claim.envelope.payload.reservationRecordHash = rr.reservationRecordHash)
    "envelope reservationRecordHash mismatch"
  binding (claim.envelope.tenderId = rr.tenderId) "envelope tenderId mismatch"
  binding (claim.envelope.tenderVersion = rr.tenderVersion) "envelope tenderVersion mismatch"
  binding (claim.envelope.tenderHash = rr.tenderHash) "envelope tenderHash mismatch"
  binding (routeReservedEnvelopeHash c claim.envelope = claim.envelopeHash) "HCS claim envelopeHash does not recompute"
  binding (measureRouteReservedEnvelope claim.envelope = claim.encodedByteCount)
    "HCS claim encodedByteCount does not match actual UTF-8 byte count"
  provided (claim.status = .published) (checkPublished claim r.hcsEvidence)
  binding (claim.status = .manualReviewRequired ∨ claim.status = .failedConclusive →
    ¬ r.hcsEvidence.any HcsEvidenceRecord.published) "ambiguous/failed claim must not have published evidence"

def checkHcs (r : ReservationRecord) : Except ServiceError Unit := do
  match r.hcsPublicationClaim with
  | none => pure ()
  | some claim =>
    match r.routeReserved with
    | none => .error (corrupt (js "HCS publication claim requires routeReserved"))
    | some rr => do
      validateHcsClaim c r claim rr
      nullable (fun (evidence : HcsEvidenceRecord) => do
        binding (evidence.published → claim.status = .published) "hcsEvidence.published conflicts with claim status"
        binding (claim.status = .published → evidence.envelopeHash = claim.envelopeHash)
          "hcsEvidence.envelopeHash must match claim") r.hcsEvidence

def assertValidPersistedReservationRecord (r : ReservationRecord) (expectedId : JsString) : Except ServiceError Unit := do
  checkIdentity expectedId r
  checkOffer c r
  checkSelected r
  checkChallenge c r
  checkPayload r
  checkClientTransaction r
  checkVerify r
  checkSettleClaim r
  checkSettlement r
  checkMirror r
  provided (r.state ∈ REQUIRES_MIRROR_SUCCESS) (checkMirrorSuccess r)
  checkUnreserved r
  nullable (checkRoute c r) r.routeReserved
  checkWebhooks c r
  checkHcs c r
  nullable (fun (reason : JsString) => binding (reason.length ≤ 2000) "failureReason exceeds bound") r.failureReason

/-- The validator accepts the record under its own id. -/
def Valid (r : ReservationRecord) : Prop := assertValidPersistedReservationRecord c r r.reservationId = .ok ()

/-- The parts of the check. -/
structure ValidParts (r : ReservationRecord) : Prop where
  identity : checkIdentity r.reservationId r = .ok ()
  offer : checkOffer c r = .ok ()
  selected : checkSelected r = .ok ()
  challenge : checkChallenge c r = .ok ()
  payload : checkPayload r = .ok ()
  clientTransaction : checkClientTransaction r = .ok ()
  verify : checkVerify r = .ok ()
  settleClaim : checkSettleClaim r = .ok ()
  settlement : checkSettlement r = .ok ()
  mirror : checkMirror r = .ok ()
  mirrorSuccess : r.state ∈ REQUIRES_MIRROR_SUCCESS → checkMirrorSuccess r = .ok ()
  unreserved : checkUnreserved r = .ok ()
  route : ∀ rr ∈ r.routeReserved, checkRoute c r rr = .ok ()
  webhooks : checkWebhooks c r = .ok ()
  hcs : checkHcs c r = .ok ()
  reason : ∀ reason ∈ r.failureReason, reason.length ≤ 2000

end Validator

theorem valid_iff {c : Crypto} {r : ReservationRecord} : Valid c r ↔ ValidParts c r := by
  unfold Valid assertValidPersistedReservationRecord
  simp only [check_eq_ok, provided_eq_ok, nullable_eq_ok, binding, require_eq_ok]
  constructor
  · rintro ⟨h1, h2, h3, h4, h5, h6, h7, h8, h9, h10, h11, h12, h13, h14, h15, h16⟩
    exact ⟨h1, h2, h3, h4, h5, h6, h7, h8, h9, h10, h11, h12, h13, h14, h15, h16⟩
  · rintro ⟨h1, h2, h3, h4, h5, h6, h7, h8, h9, h10, h11, h12, h13, h14, h15, h16⟩
    exact ⟨h1, h2, h3, h4, h5, h6, h7, h8, h9, h10, h11, h12, h13, h14, h15, h16⟩

instance {c : Crypto} {r : ReservationRecord} : Decidable (ValidParts c r) :=
  have : Decidable (Valid c r) := inferInstanceAs (Decidable (_ = _))
  decidable_of_iff _ valid_iff

section Consequences
variable {c : Crypto} {r : ReservationRecord}

/-- Exactly the states from `ROUTE_RESERVED` on hold a reserved route. -/
theorem Valid.reserved_iff (h : Valid c r) : r.routeReserved.isSome ↔ r.state ∈ POST_RESERVATION_STATES := by
  have hpart := (valid_iff.mp h).unreserved
  simp only [checkUnreserved, check_eq_ok, binding, requirePart, require_eq_ok] at hpart
  obtain ⟨-, -, -, -, hhas, hnot⟩ := hpart
  constructor
  · intro hsome
    by_contra hstate
    rw [hnot hstate] at hsome
    cases hsome
  · exact hhas

theorem Valid.settleClaim_isSome (h : Valid c r) (hs : r.state ∈ REQUIRES_SETTLE_CLAIM) : r.settleClaim.isSome := by
  have hpart := (valid_iff.mp h).settleClaim
  simp only [checkSettleClaim, check_eq_ok, requirePart, require_eq_ok] at hpart
  exact hpart.1 hs

theorem Valid.challenge_isSome (h : Valid c r) (hs : r.state ∈ REQUIRES_CHALLENGE) : r.paymentChallenge.isSome := by
  have hpart := (valid_iff.mp h).challenge
  simp only [checkChallenge, check_eq_ok, requirePart, require_eq_ok, Bool.and_eq_true] at hpart
  exact (hpart.1 hs).1

/-- A confirming record has its deadline and its poll. -/
theorem Valid.confirming (h : Valid c r) (hs : r.state ∈ REQUIRES_MIRROR_POLL) :
    truthy r.confirmationDeadline ∧ r.mirrorPoll.isSome := by
  have hpart := (valid_iff.mp h).mirror
  simp only [checkMirror, check_eq_ok, requirePart, require_eq_ok] at hpart
  exact ⟨hpart.2.1 hs, hpart.2.2.1 hs⟩

/-- A publication claim belongs to its record. -/
theorem Valid.hcsClaim_reservationId (h : Valid c r) {claim : HcsPublicationClaim}
    (hclaim : r.hcsPublicationClaim = some claim) : claim.reservationId = r.reservationId := by
  have hpart := (valid_iff.mp h).hcs
  simp only [checkHcs, hclaim] at hpart
  cases hrr : r.routeReserved with
  | none => simp [hrr] at hpart
  | some rr =>
    simp only [hrr, validateHcsClaim, check_eq_ok, binding, require_eq_ok] at hpart
    exact hpart.1.1

end Consequences

end RouteGuard.Reservation
