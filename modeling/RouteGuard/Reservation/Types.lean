import RouteGuard.Domain.CanonicalHash

/-!
# Reservation records

The winner of an auction pays a fixed fee in one of two assets to reserve the route. The record of a reservation holds
everything its payment, its notifications and its ledger evidence have led to so far.

* `ReservationState` : the states and their texts;
* `ReservationRecord` : the durable record and its parts;
* `ServiceError` : what the service and its store throw.
-/

namespace RouteGuard.Reservation
open JsString

def RESERVATION_SCHEMA_VERSION : JsString := js "routeguard-reservation-1.0"

def WEBHOOK_SIGNATURE_VERSION : JsString := js "routeguard-webhook-sig-1.0"

def ROUTE_RESERVED_EVENT_TYPE : JsString := js "ROUTE_RESERVED"

def RESERVATION_NETWORK : JsString := js "hedera:testnet"

def RESERVATION_SCHEME : JsString := js "exact"

def DEMO_RESERVATION_FEE_NOTE : JsString := js "Demo reservation fee only — not payment of the freight price."

def CHALLENGE_MAX_TIMEOUT_SECONDS : Int := 180

def CHALLENGE_X402_VERSION : Int := 2

/-! ## States -/

inductive ReservationState where
  | offerCreated | optionSelected | paymentChallengeIssued | paymentSubmissionStarted | facilitatorVerified
  | facilitatorSettleClaimed | facilitatorSettled | mirrorConfirmationPending | paymentConfirmed | routeReserved
  | webhooksDispatched | hcsEvidenceRecorded | completed | paymentRejected | settlementFailed
  | confirmationTimedOut | confirmationFailed | webhookDeliveryFailed | hcsEvidenceFailed | expired
  | manualReviewRequired
  deriving DecidableEq, Repr

namespace ReservationState

def text : ReservationState → JsString
  | offerCreated => js "OFFER_CREATED"
  | optionSelected => js "OPTION_SELECTED"
  | paymentChallengeIssued => js "PAYMENT_CHALLENGE_ISSUED"
  | paymentSubmissionStarted => js "PAYMENT_SUBMISSION_STARTED"
  | facilitatorVerified => js "FACILITATOR_VERIFIED"
  | facilitatorSettleClaimed => js "FACILITATOR_SETTLE_CLAIMED"
  | facilitatorSettled => js "FACILITATOR_SETTLED"
  | mirrorConfirmationPending => js "MIRROR_CONFIRMATION_PENDING"
  | paymentConfirmed => js "PAYMENT_CONFIRMED"
  | routeReserved => js "ROUTE_RESERVED"
  | webhooksDispatched => js "WEBHOOKS_DISPATCHED"
  | hcsEvidenceRecorded => js "HCS_EVIDENCE_RECORDED"
  | completed => js "COMPLETED"
  | paymentRejected => js "PAYMENT_REJECTED"
  | settlementFailed => js "SETTLEMENT_FAILED"
  | confirmationTimedOut => js "CONFIRMATION_TIMED_OUT"
  | confirmationFailed => js "CONFIRMATION_FAILED"
  | webhookDeliveryFailed => js "WEBHOOK_DELIVERY_FAILED"
  | hcsEvidenceFailed => js "HCS_EVIDENCE_FAILED"
  | expired => js "EXPIRED"
  | manualReviewRequired => js "MANUAL_REVIEW_REQUIRED"

end ReservationState

/-! ## Offer and selection -/

inductive ReservationOptionId where
  | usdc | hbar
  deriving DecidableEq, Repr

def ReservationOptionId.text : ReservationOptionId → JsString
  | .usdc => js "USDC"
  | .hbar => js "HBAR"

structure OfferOption where
  optionId : ReservationOptionId
  scheme : JsString
  network : JsString
  asset : JsString
  amountAtomic : JsString
  displayAmount : JsString
  currencyLabel : JsString
  deriving DecidableEq, Repr

def USDC_RESERVATION_OPTION : OfferOption :=
  ⟨.usdc, RESERVATION_SCHEME, RESERVATION_NETWORK, js "0.0.429274", js "10000", js "0.01", js "USDC"⟩

def HBAR_RESERVATION_OPTION : OfferOption :=
  ⟨.hbar, RESERVATION_SCHEME, RESERVATION_NETWORK, js "0.0.0", js "1000000", js "0.01", js "HBAR"⟩

structure ReservationOffer where
  reservationId : JsString
  offerVersion : Int
  tenderId : JsString
  winningBidId : JsString
  payTo : JsString
  expiresAt : JsString
  feeLabel : JsString
  options : List OfferOption
  offerHash : JsString
  deriving DecidableEq, Repr

structure SelectedPaymentOption where
  reservationId : JsString
  offerHash : JsString
  offerVersion : Int
  optionId : ReservationOptionId
  payerAccount : JsString
  payTo : JsString
  asset : JsString
  amountAtomic : JsString
  scheme : JsString
  network : JsString
  selectedAt : JsString
  resourcePath : JsString
  deriving DecidableEq, Repr

/-! ## Payment -/

/-- What a challenge transport answers. -/
structure PaymentChallenge where
  x402Version : Int
  scheme : JsString
  network : JsString
  asset : JsString
  amount : JsString
  payTo : JsString
  resource : JsString
  maxTimeoutSeconds : Int
  description : JsString
  deriving DecidableEq, Repr

/-- The durable challenge: issued once, with its hash. -/
structure PaymentChallengeRecord extends PaymentChallenge where
  challengeHash : JsString
  issuedAt : JsString
  deriving DecidableEq, Repr

/-- The transaction the client has frozen and signed. -/
structure ClientTransactionRef where
  transactionId : JsString
  validStartTimestamp : JsString
  transactionValidDurationSeconds : Int
  deriving DecidableEq, Repr

structure FacilitatorVerifyResult where
  isValid : Bool
  invalidReason : Option JsString
  deriving DecidableEq, Repr

structure FacilitatorSettleResult where
  success : Bool
  transactionId : Option JsString
  network : JsString
  payerAccountId : JsString
  errorReason : Option JsString
  deriving DecidableEq, Repr

structure SettleClaim where
  settleAttemptId : JsString
  reservationId : JsString
  attemptNumber : Nat
  selectedOptionId : ReservationOptionId
  asset : JsString
  amountAtomic : JsString
  payerAccount : JsString
  payTo : JsString
  network : JsString
  challengeHash : JsString
  paymentPayloadHash : JsString
  transactionId : JsString
  validStartTimestamp : JsString
  transactionValidDurationSeconds : Int
  claimedAt : JsString
  recordVersion : Nat
  deriving DecidableEq, Repr

/-! ## Ledger confirmation -/

structure MirrorTransfer where
  account : JsString
  amount : JsString
  tokenId : Option JsString
  deriving DecidableEq, Repr

inductive MirrorStatus where
  | success | failed | pending | notFound
  deriving DecidableEq, Repr

def MirrorStatus.text : MirrorStatus → JsString
  | .success => js "SUCCESS"
  | .failed => js "FAILED"
  | .pending => js "PENDING"
  | .notFound => js "NOT_FOUND"

structure MirrorConfirmation where
  status : MirrorStatus
  transactionId : JsString
  consensusTimestamp : Option JsString
  result : Option JsString
  hbarTransfers : List MirrorTransfer
  tokenTransfers : List MirrorTransfer
  deriving DecidableEq, Repr

/-- The status of a poll: what Mirror answered, or that it could not be asked. -/
inductive PollStatus where
  | answered (status : MirrorStatus)
  | transportError
  deriving DecidableEq, Repr

structure VerifiedTransfer where
  optionId : ReservationOptionId
  asset : JsString
  amountAtomic : JsString
  payerAccount : JsString
  payTo : JsString
  deriving DecidableEq, Repr

structure MirrorPollRecord where
  transactionId : JsString
  confirmationStartedAt : JsString
  confirmationDeadline : JsString
  pollAttemptCount : Nat
  lastPollAt : Option JsString
  lastMirrorStatus : Option PollStatus
  lastMirrorErrorCode : Option JsString
  lastMirrorError : Option JsString
  consensusTimestamp : Option JsString
  verifiedTransfer : Option VerifiedTransfer
  deriving DecidableEq, Repr

structure RouteReservedRecord where
  schemaVersion : JsString
  reservationId : JsString
  tenderId : JsString
  tenderVersion : Int
  tenderHash : JsString
  winningBidId : JsString
  winningBidHash : JsString
  carrierId : JsString
  carrierAccount : JsString
  selectedOptionId : ReservationOptionId
  paymentNetwork : JsString
  paymentAsset : JsString
  paymentAmountAtomic : JsString
  payerAccount : JsString
  transactionId : JsString
  consensusTimestamp : JsString
  decisionManifestHash : JsString
  evaluatedBidSetHash : JsString
  hcsAuctionTopicId : JsString
  closeBarrierSequence : Int
  reservedAt : JsString
  reservationRecordHash : JsString
  deriving DecidableEq, Repr

/-! ## Webhooks -/

inductive Recipient where
  | shipper | carrier
  deriving DecidableEq, Repr

def Recipient.text : Recipient → JsString
  | .shipper => js "shipper"
  | .carrier => js "carrier"

structure WebhookEventPayload where
  eventId : JsString
  eventType : JsString
  reservationId : JsString
  tenderId : JsString
  winningBidId : JsString
  carrierAccount : JsString
  selectedOptionId : ReservationOptionId
  paymentAsset : JsString
  paymentAmountAtomic : JsString
  transactionId : JsString
  consensusTimestamp : JsString
  reservationRecordHash : JsString
  emittedAt : JsString
  deriving DecidableEq, Repr

/-- The semantic event of one recipient, with its signature. -/
structure WebhookEvent where
  eventId : JsString
  recipient : Recipient
  eventType : JsString
  payload : WebhookEventPayload
  payloadHash : JsString
  emittedAt : JsString
  signatureVersion : JsString
  signature : JsString
  signedTimestamp : JsString
  deriving DecidableEq, Repr

structure WebhookDeliveryRecord where
  eventId : JsString
  recipient : Recipient
  payloadHash : JsString
  delivered : Bool
  deliveryAttemptNumber : Nat
  attemptedAt : Option JsString
  lastResponseCode : Option Nat
  lastError : Option JsString
  deriving DecidableEq, Repr

/-- What is sent to a recipient: the payload, its hash, and the four headers. -/
structure SignedWebhook where
  payload : WebhookEventPayload
  payloadHash : JsString
  headerEventId : JsString
  headerTimestamp : JsString
  headerSignature : JsString
  headerSignatureVersion : JsString
  deriving DecidableEq, Repr

/-! ## Ledger evidence -/

structure RouteReservedPayload where
  reservationId : JsString
  winningBidId : JsString
  carrierId : JsString
  carrierAccount : JsString
  selectedOptionId : ReservationOptionId
  paymentAsset : JsString
  paymentAmountAtomic : JsString
  payerAccount : JsString
  paymentTransactionId : JsString
  paymentConsensusTimestamp : JsString
  reservationRecordHash : JsString
  closeBarrierSequence : Int
  reservationEvidenceVersion : JsString
  deriving DecidableEq, Repr

structure RouteReservedEnvelope where
  schemaVersion : JsString
  messageType : JsString
  runId : JsString
  tenderId : JsString
  tenderVersion : Int
  tenderHash : JsString
  createdAt : JsString
  payloadHash : JsString
  payload : RouteReservedPayload
  deriving DecidableEq, Repr

structure HcsEvidenceRecord where
  messageType : JsString
  envelopeHash : JsString
  topicId : Option JsString
  sequence : Option Int
  transactionId : Option JsString
  consensusTimestamp : Option JsString
  published : Bool
  lastError : Option JsString
  deriving DecidableEq, Repr

inductive HcsPublicationClaimStatus where
  | claimed | resolving | published | manualReviewRequired | failedConclusive
  deriving DecidableEq, Repr

structure HcsPublicationClaim where
  publishAttemptId : JsString
  reservationId : JsString
  expectedTopicId : JsString
  messageType : JsString
  envelope : RouteReservedEnvelope
  envelopeHash : JsString
  encodedByteCount : Nat
  claimedAt : JsString
  status : HcsPublicationClaimStatus
  transactionId : Option JsString
  sequence : Option Int
  consensusTimestamp : Option JsString
  failureCode : Option JsString
  failureReason : Option JsString
  deriving DecidableEq, Repr

/-! ## The record -/

structure StateTransitionRecord where
  source : ReservationState
  target : ReservationState
  time : JsString
  reason : Option JsString
  deriving DecidableEq, Repr

structure ReservationRecord where
  recordVersion : Nat
  reservationId : JsString
  state : ReservationState
  tenderId : JsString
  tenderVersion : Int
  tenderHash : JsString
  winningBidId : JsString
  winningBidHash : JsString
  winningCarrierId : JsString
  winningCarrierAccount : JsString
  decisionManifestHash : JsString
  evaluatedBidSetHash : JsString
  hcsTopicId : JsString
  closeBarrierSequence : Int
  closeBarrierConsensusTimestamp : JsString
  creationFingerprint : JsString
  proofTenderId : JsString
  proofManifestHash : JsString
  offer : ReservationOffer
  selected : Option SelectedPaymentOption
  attemptNumber : Nat
  paymentChallenge : Option PaymentChallengeRecord
  paymentChallengeHash : Option JsString
  paymentPayloadHash : Option JsString
  clientTransaction : Option ClientTransactionRef
  facilitatorVerify : Option FacilitatorVerifyResult
  settleClaim : Option SettleClaim
  facilitatorSettle : Option FacilitatorSettleResult
  transactionId : Option JsString
  mirrorConfirmation : Option MirrorConfirmation
  mirrorPoll : Option MirrorPollRecord
  confirmationDeadline : Option JsString
  routeReserved : Option RouteReservedRecord
  webhookEvents : List WebhookEvent
  webhooks : List WebhookDeliveryRecord
  hcsPublicationClaim : Option HcsPublicationClaim
  hcsEvidence : Option HcsEvidenceRecord
  history : List StateTransitionRecord
  createdAt : JsString
  updatedAt : JsString
  expiresAt : JsString
  failureCode : Option JsString
  failureReason : Option JsString
  deriving DecidableEq, Repr

/-! ## Errors -/

/-- What the service throws: a `ReservationError` with its code, the version conflict of the store, a refused
transition, or any other error. -/
inductive ServiceError where
  | reservation (code message : JsString)
  | versionConflict (reservationId : JsString) (expectedVersion actualVersion : Nat)
  | illegalTransition (source target : ReservationState) (message : JsString)
  | other (message : JsString)
  deriving DecidableEq, Repr

namespace ServiceError

def message : ServiceError → JsString
  | reservation _ message => message
  | versionConflict id expected actual =>
    js "Reservation " ++ id ++ js " version conflict: expected " ++ decimal expected ++ js ", found " ++ decimal actual
  | illegalTransition _ _ message => message
  | other message => message

/-- The code of a `ReservationError`; the version conflict is one. -/
def code? : ServiceError → Option JsString
  | reservation code _ => some code
  | versionConflict .. => some (js "VERSION_CONFLICT")
  | _ => none

end ServiceError

/-- An error with a literal code and text. -/
def err (code message : String) : ServiceError := .reservation (js code) (js message)

/-- A nullable string that counts as true. -/
def truthy (s : Option JsString) : Bool := s.any (· ≠ [])

end RouteGuard.Reservation
