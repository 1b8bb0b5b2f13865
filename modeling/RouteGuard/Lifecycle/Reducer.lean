import RouteGuard.Access.Resource
import RouteGuard.Auth.Verify
import RouteGuard.Domain.PaymentOption
import RouteGuard.Lifecycle.Record

/-!
# The lifecycle reducer

`reduceLifecycle` applies one event to a record. Every event but the advisory anchor goes through
`withTransition`, which checks the edge, the event time and the action id, and then moves the record: the
next version, one more history entry and one more processed action.
-/

namespace RouteGuard.Lifecycle
open JsString Guarded Access Auth Trust

/-- A sealed authorization from the verification module, or whatever object the caller passes. -/
structure LifecycleReduceContext (p : Platform) where
  verifiedAuth : Option (AuthObject p)

def guardError (code message : String) : LifecycleError := .guardFailed (js code) (js message)

/-- An error of a called function goes through. -/
def rethrow {α : Type} (x : Except JsString α) : Except LifecycleError α := x.mapError .failed

def assertLegalTransition (source target : V2LifecycleState) : Except LifecycleError Unit :=
  require (source = target ∨ target ∈ LEGAL source) (.illegalTransition source target)

def requireState (record : LifecycleRecord) (source target : V2LifecycleState) : Except LifecycleError Unit :=
  require (record.state = source) (.illegalTransition record.state target)

def eventPayloadHash (p : Platform) (event : LifecycleEvent) : JsString :=
  canonicalSha256 p.sha256Hex event.toJson

def requireUtc (label value : JsString) : Except LifecycleError Unit :=
  require (isUtcIsoTimestamp value)
    (.guardFailed (js "INVALID_TIMESTAMP") (label ++ js " must be a valid UTC ISO-8601 timestamp"))

def requirePositiveAtomic (label value : JsString) : Except LifecycleError Unit :=
  require (isPositiveAtomicString value)
    (.guardFailed (js "INVALID_AMOUNT") (label ++ js " must be a positive atomic integer string"))

def requireNonNegAtomic (label value : JsString) : Except LifecycleError Unit :=
  require (isNonNegativeAtomicString value)
    (.guardFailed (js "INVALID_AMOUNT") (label ++ js " must be a non-negative atomic integer string"))

/-- `a` is not later than `b`. -/
def requireBeforeOrEqual (a b : JsString) (e : LifecycleError) : Except LifecycleError Unit := do
  let ordered ← rethrow (isBeforeOrEqualUtc a b)
  require ordered e

/-- `BigInt(s)`. -/
def toBigInt (s : JsString) : Except LifecycleError Int :=
  match bigInt s with
  | some n => .ok n
  | none => .error (.failed (js "Cannot convert " ++ s ++ js " to a BigInt"))

/-- A nullable string that must be neither `null` nor empty. -/
def requireText (value : Option JsString) (e : LifecycleError) : Except LifecycleError JsString :=
  match value with
  | some (u :: rest) => .ok (u :: rest)
  | _ => .error e

/-- The committed move: state, version, time, history and processed actions change together. -/
def Progress.advance (p : Platform) (s : Progress) (target : V2LifecycleState) (event : LifecycleEvent)
    (reason : Option JsString) : Progress where
  state := target
  recordVersion := s.recordVersion + 1
  updatedAt := event.eventTime
  lastActionId := some event.actionId
  history := s.history ++ [⟨s.state, target, event.type, event.actionId, event.eventTime, reason⟩]
  processedActions := s.processedActions.insert event.actionId
    ⟨event.actionId, event.type, eventPayloadHash p event, target, s.recordVersion + 1, event.eventTime⟩

/-- The transition of `record`, with the patched fields of `patched`. -/
def withTransition (p : Platform) (record : LifecycleRecord) (target : V2LifecycleState)
    (event : LifecycleEvent) (patched : LifecycleRecord) : Except LifecycleError LifecycleRecord := do
  assertLegalTransition record.state target
  requireUtc (js "eventTime") event.eventTime
  require (event.actionId ≠ [] ∧ event.actionId.length ≤ 128) (guardError "INVALID_ACTION_ID" "actionId is required")
  pure { patched with toProgress := record.toProgress.advance p target event none }

/-! ## Authorizations -/

section Auth
variable {p : Platform}

/-- The authorization of the context, if it is sealed. -/
def LifecycleReduceContext.sealedAuth (context : LifecycleReduceContext p) : Option VerifiedAuth :=
  match context.verifiedAuth with
  | some (.sealed s) => some s.auth
  | _ => none

def AUTH_ACTION_MISMATCH : LifecycleError :=
  guardError "AUTH_ACTION_MISMATCH" "verified auth actionId does not match event"

def requireSealedShipperAuth (context : LifecycleReduceContext p) (event : LifecycleEvent)
    (action : ShipperReviewActionKind) : Except LifecycleError VerifiedShipperReviewAuth :=
  match context.sealedAuth with
  | some (.shipperPodReview auth) => do
    require (auth.actionId = event.actionId) AUTH_ACTION_MISMATCH
    require (auth.reviewAction = action)
      (guardError "AUTH_ACTION_MISMATCH" "verified auth review action does not match event")
    pure auth
  | _ => .error (guardError "SHIPPER_AUTH_REQUIRED" "sealed shipper authorization is required")

def requireSealedCarrierBidAuth (context : LifecycleReduceContext p) (event : LifecycleEvent) :
    Except LifecycleError VerifiedCarrierBidAuth :=
  match context.sealedAuth with
  | some (.carrierBid auth) => do
    require (auth.actionId = event.actionId) AUTH_ACTION_MISMATCH
    pure auth
  | _ => .error (guardError "CARRIER_AUTH_REQUIRED" "sealed carrier bid authorization is required")

def requireSealedRefereeAuth (context : LifecycleReduceContext p) (event : LifecycleEvent) :
    Except LifecycleError VerifiedRefereeResolutionAuth :=
  match context.sealedAuth with
  | some (.refereeResolution auth) => do
    require (auth.actionId = event.actionId) AUTH_ACTION_MISMATCH
    pure auth
  | _ => .error (guardError "REFEREE_AUTH_REQUIRED" "sealed referee authorization is required")

end Auth

def assertUnusedAccessSettlement (record : LifecycleRecord) (paymentTransactionId : JsString) :
    Except LifecycleError Unit :=
  require (¬ record.accessPayments.any fun payment => payment.paymentTransactionId = paymentTransactionId)
    (guardError "ACCESS_PAYMENT_REPLAY" "settlement transaction has already authorized an access action")

/-- The payment checks that activation and bid submission share; they differ in the resource. -/
def assertAccessPaid (record : LifecycleRecord) (e : AccessPaid) (resource : Except JsString JsString)
    (resourceMessage : JsString → JsString) : Except LifecycleError Unit := do
  require (e.asset = ACCESS_FEE_TOKEN_ID) (.guardFailed (js "ACCESS_ASSET") (js "asset must be " ++ ACCESS_FEE_TOKEN_ID))
  let expectedFee ← rethrow deriveAccessFeeAtomic
  require (e.amountAtomic = expectedFee) (.guardFailed (js "ACCESS_AMOUNT") (js "amountAtomic must be " ++ expectedFee))
  let expectedResource ← rethrow resource
  require (e.resource = expectedResource) (.guardFailed (js "ACCESS_RESOURCE") (resourceMessage expectedResource))
  require (e.payTo = record.trust.accessTreasuryAccountId)
    (guardError "ACCESS_TREASURY" "payTo must equal configured access treasury account")
  require (e.paymentTransactionId ≠ [] ∧ e.paymentPayloadHash ≠ [])
    (guardError "ACCESS_PAYMENT" "payment transaction and payload hash required")
  require (isValidHederaAccountId e.payerAccount)
    (guardError "ACCESS_PAYER" "payerAccount must be a valid Hedera account id")
  assertUnusedAccessSettlement record e.paymentTransactionId

/-- The index entry of a consumed payment. -/
def AccessPaid.payment (e : AccessPaid) (event : LifecycleEvent) (type : AccessActionType)
    (bidId : Option JsString) : LifecycleAccessPayment where
  accessActionType := type
  actionId := event.actionId
  bidId := bidId
  asset := e.asset
  amountAtomic := e.amountAtomic
  resource := e.resource
  payTo := e.payTo
  payerAccount := e.payerAccount
  paymentTransactionId := e.paymentTransactionId
  paymentPayloadHash := e.paymentPayloadHash
  settledAt := event.eventTime

/-- The review deadline of the record, if the event names it and is not later. -/
def requireReviewDeadline (record : LifecycleRecord) (event : LifecycleEvent) (signed : ShipperSigned)
    (late : String) : Except LifecycleError Unit := do
  let deadline ← requireText record.reviewDeadlineAt (guardError "NO_REVIEW_DEADLINE" "reviewDeadlineAt missing")
  require (signed.reviewDeadlineAt = deadline) (guardError "DEADLINE_BIND" "reviewDeadlineAt must match bound deadline")
  requireBeforeOrEqual event.eventTime deadline (guardError "AFTER_REVIEW_DEADLINE" late)

/-- The sealed review of the bound POD of this tender. -/
def requireShipperReview {p : Platform} (record : LifecycleRecord) (event : LifecycleEvent)
    (context : LifecycleReduceContext p) (action : ShipperReviewActionKind) :
    Except LifecycleError VerifiedShipperReviewAuth := do
  let podId ← requireText record.podId (guardError "POD_REQUIRED" "podId missing on record")
  let auth ← requireSealedShipperAuth context event action
  require (auth.signPayload.podId = podId) (guardError "POD_MISMATCH" "auth podId mismatch")
  require (auth.signPayload.tenderId = record.tenderId ∧ auth.signPayload.tenderVersion = record.tenderVersion)
    (guardError "TENDER_MISMATCH" "auth tender mismatch")
  pure auth

/-! ## Events -/

section Events
variable (p : Platform) (record : LifecycleRecord) (event : LifecycleEvent)

def reduceEscrowFundingConfirmed (e : EscrowFundingConfirmed) : Except LifecycleError LifecycleRecord := do
  requireState record .draft .escrowFunded
  require (e.tenderId = record.tenderId) (guardError "TENDER_MISMATCH" "tenderId mismatch")
  require (e.tenderVersion = record.tenderVersion) (guardError "TENDER_VERSION_MISMATCH" "tenderVersion mismatch")
  require (e.tokenId = ACCESS_FEE_TOKEN_ID)
    (.guardFailed (js "TOKEN_MISMATCH") (js "token must be " ++ ACCESS_FEE_TOKEN_ID))
  require (e.fundingTxId ≠ []) (guardError "MISSING_FUNDING_REF" "fundingTxId required")
  requirePositiveAtomic (js "fundedAmountAtomic") e.fundedAmountAtomic
  require (e.fundedAmountAtomic = record.maximumFreightBudgetAtomic)
    (guardError "FUNDING_AMOUNT_MISMATCH"
      "funded amount must exactly equal maximumFreightBudgetAtomic; overfunding is not accepted")
  withTransition p record .escrowFunded event
    { record with fundingTxId := some e.fundingTxId, fundedAmountAtomic := some e.fundedAmountAtomic }

def reduceTenderActivationPaid (e : TenderActivationPaid) : Except LifecycleError LifecycleRecord := do
  requireState record .escrowFunded .tenderOpened
  require (e.accessActionType = .tenderActivate)
    (guardError "ACCESS_ACTION" "accessActionType must be TENDER_ACTIVATE")
  assertAccessPaid record e.toAccessPaid (tenderActivateResource record.tenderId record.tenderVersion)
    (js "resource must bind tenderId+version: expected " ++ ·)
  withTransition p record .tenderOpened event
    { record with
      activationPaymentTxId := some e.paymentTransactionId
      accessReceipt := some
        ⟨e.asset, e.amountAtomic, e.resource, e.payTo, e.payerAccount, e.paymentTransactionId,
         e.paymentPayloadHash, event.eventTime⟩
      accessPayments := record.accessPayments ++ [e.toAccessPaid.payment event .tenderActivate none] }

def reduceBidSubmissionPaid (context : LifecycleReduceContext p) (e : BidSubmissionPaid) :
    Except LifecycleError LifecycleRecord := do
  require (record.state = .tenderOpened ∨ record.state = .bidding) (.illegalTransition record.state .bidding)
  require (e.accessActionType = .bidSubmit) (guardError "ACCESS_ACTION" "accessActionType must be BID_SUBMIT")
  let auth ← requireSealedCarrierBidAuth context event
  require (auth.signPayload.tenderId = record.tenderId ∧ auth.signPayload.tenderVersion = record.tenderVersion)
    (guardError "TENDER_MISMATCH" "auth tender mismatch")
  require (auth.bidId = e.bidId ∧ auth.carrierId = e.carrierId ∧ auth.carrierAccountId = e.carrierAccountId ∧
      auth.bidHash = e.bidHash)
    (guardError "AUTH_BINDING" "verified carrier bid does not match event")
  require (isValidHederaAccountId e.carrierAccountId)
    (guardError "BID_CARRIER_ACCOUNT" "carrierAccountId must be a valid Hedera account id")
  requireBeforeOrEqual event.eventTime record.auctionEndsAt
    (guardError "AUCTION_CLOSED" "bid acceptance must be at or before auctionEndsAt")
  require (¬ record.bidRegistry.any fun entry => entry.bidId = e.bidId)
    (guardError "BID_ALREADY_ACCEPTED" "bidId is already durably accepted for this tender")
  assertAccessPaid record e.toAccessPaid (bidSubmitResource record.tenderId record.tenderVersion e.bidId)
    fun _ => js "resource must bind tenderId+version+bidId"
  -- the first accepted bid opens bidding, later ones stay in BIDDING
  withTransition p record .bidding event
    { record with
      bidRegistry := record.bidRegistry ++
        [⟨e.bidId, e.carrierId, e.carrierAccountId, e.bidHash, e.signedBidEnvelopeHash, e.commitmentPayloadHash,
          auth.trustedKeyFingerprint, auth.payloadHash, e.paymentTransactionId, event.actionId, event.eventTime⟩]
      accessPayments := record.accessPayments ++ [e.toAccessPaid.payment event .bidSubmit (some e.bidId)] }

def reduceBiddingStarted : Except LifecycleError LifecycleRecord := do
  requireState record .tenderOpened .bidding
  withTransition p record .bidding event record

def reduceAuctionCloseConfirmed (e : AuctionCloseConfirmed) : Except LifecycleError LifecycleRecord := do
  requireState record .bidding .auctionClosed
  requireUtc (js "auctionEndsAt") e.auctionEndsAt
  require (e.auctionEndsAt = record.auctionEndsAt)
    (guardError "AUCTION_ENDS_MISMATCH" "auctionEndsAt must match tender")
  requireBeforeOrEqual record.auctionEndsAt event.eventTime
    (guardError "AUCTION_NOT_ENDED" "eventTime must be at or after auctionEndsAt")
  require (e.closureProofRef ≠ [] ∧ e.authoritativeBidSetHash ≠ [])
    (guardError "CLOSURE_PROOF" "closureProofRef and authoritativeBidSetHash required")
  withTransition p record .auctionClosed event
    { record with
      closureProofRef := some e.closureProofRef
      authoritativeBidSetHash := some e.authoritativeBidSetHash }

def reduceNoQualifiedBidConfirmed (e : NoQualifiedBidConfirmed) : Except LifecycleError LifecycleRecord := do
  requireState record .auctionClosed .noQualifiedBid
  require (e.decisionManifestHash ≠ []) (guardError "MANIFEST" "decisionManifestHash required")
  withTransition p record .noQualifiedBid event
    { record with
      decisionManifestHash := some e.decisionManifestHash
      winningBidId := none
      winningAmountAtomic := none }

def reduceWinnerSelectionConfirmed (e : WinnerSelectionConfirmed) : Except LifecycleError LifecycleRecord := do
  requireState record .auctionClosed .winnerSelected
  require (e.decisionManifestHash ≠ [] ∧ e.winningBidId ≠ [] ∧ e.winningCarrierId ≠ [] ∧
      e.winningCarrierAccount ≠ [])
    (guardError "WINNER_FIELDS" "winner selection fields incomplete")
  requirePositiveAtomic (js "winningAmountAtomic") e.winningAmountAtomic
  require (e.selectionPolicy = js "LOWEST_QUALIFIED_PRICE_V1")
    (guardError "SELECTION_POLICY" "selectionPolicy must be LOWEST_QUALIFIED_PRICE_V1")
  let win ← toBigInt e.winningAmountAtomic
  let budget ← toBigInt record.maximumFreightBudgetAtomic
  require (win ≤ budget)
    (guardError "WIN_ABOVE_BUDGET" "winningAmountAtomic exceeds maximumFreightBudgetAtomic")
  withTransition p record .winnerSelected event
    { record with
      decisionManifestHash := some e.decisionManifestHash
      winningBidId := some e.winningBidId
      winningCarrierId := some e.winningCarrierId
      winningCarrierAccount := some e.winningCarrierAccount
      winningAmountAtomic := some e.winningAmountAtomic }

def reduceWinningAmountAllocationConfirmed (e : WinningAmountAllocationConfirmed) :
    Except LifecycleError LifecycleRecord := do
  requireState record .winnerSelected .winningAmountLocked
  require (e.allocateTxId ≠ []) (guardError "ALLOCATE_REF" "allocateTxId required")
  requirePositiveAtomic (js "maxBudgetAtomic") e.maxBudgetAtomic
  requirePositiveAtomic (js "winningAmountAtomic") e.winningAmountAtomic
  requireNonNegAtomic (js "excessRefundAtomic") e.excessRefundAtomic
  require (e.maxBudgetAtomic = record.maximumFreightBudgetAtomic)
    (guardError "BUDGET_MISMATCH" "maxBudgetAtomic must match maximumFreightBudgetAtomic")
  require (∀ winning ∈ record.winningAmountAtomic, winning = [] ∨ e.winningAmountAtomic = winning)
    (guardError "WIN_AMOUNT_MISMATCH" "winningAmountAtomic must match selected winner")
  require (∀ manifest ∈ record.decisionManifestHash, manifest = [] ∨ e.decisionManifestHash = manifest)
    (guardError "MANIFEST_MISMATCH" "decisionManifestHash must match winner selection")
  let max ← toBigInt e.maxBudgetAtomic
  let win ← toBigInt e.winningAmountAtomic
  let excess ← toBigInt e.excessRefundAtomic
  require (win + excess = max)
    (guardError "CONSERVATION" "winningAmountAtomic + excessRefundAtomic must equal maxBudgetAtomic")
  require (¬ (excess = 0 ∧ e.refundExcessTxId ≠ none))
    (guardError "REFUND_TX" "refundExcessTxId must be null when excess is 0")
  require (¬ (excess > 0 ∧ (e.refundExcessTxId = none ∨ e.refundExcessTxId = some [])))
    (guardError "REFUND_TX" "refundExcessTxId required when excess > 0")
  withTransition p record .winningAmountLocked event
    { record with
      lockedAmountAtomic := some e.winningAmountAtomic
      excessRefundAtomic := some e.excessRefundAtomic
      allocateTxId := some e.allocateTxId
      refundExcessTxId := e.refundExcessTxId
      decisionManifestHash := some e.decisionManifestHash
      winningAmountAtomic := some e.winningAmountAtomic }

def reduceRouteReservationPublished (e : RouteReservationPublished) : Except LifecycleError LifecycleRecord := do
  requireState record .winningAmountLocked .routeReserved
  require (e.reservationEvidenceRef ≠ [] ∧ e.hcsPublicationRef ≠ [])
    (guardError "RESERVATION_EVIDENCE" "reservation publication evidence required")
  withTransition p record .routeReserved event
    { record with reservationEvidenceRef := some e.reservationEvidenceRef }

def reduceTransitStarted : Except LifecycleError LifecycleRecord := do
  requireState record .routeReserved .inTransit
  withTransition p record .inTransit event record

def reduceDeliveryReported : Except LifecycleError LifecycleRecord := do
  requireState record .inTransit .deliveryReported
  withTransition p record .deliveryReported event record

def reducePodPackageSubmitted (e : PodPackage) : Except LifecycleError LifecycleRecord := do
  requireState record .deliveryReported .podSubmitted
  require (e.podId ≠ [] ∧ e.podVersion = 1 ∧ e.contentHash ≠ [] ∧ e.ciphertextHash ≠ [])
    (guardError "POD_FIELDS" "podId, podVersion 1, contentHash, ciphertextHash required")
  withTransition p record .podSubmitted event
    { record with
      podId := some e.podId
      podVersion := some e.podVersion
      podContentHash := some e.contentHash
      podCiphertextHash := some e.ciphertextHash }

/-- A review round starts with its deadline and without a shipper action. -/
def startReview (computeDeadline : JsString → Except JsString JsString) : Except LifecycleError LifecycleRecord := do
  let reviewDeadlineAt ← rethrow (computeDeadline event.eventTime)
  withTransition p record .podUnderReview event
    { record with
      reviewStartedAt := some event.eventTime
      reviewDeadlineAt := some reviewDeadlineAt
      shipperActionTaken := false
      correctionDeadlineAt := none }

def reducePodReviewStarted : Except LifecycleError LifecycleRecord :=
  if record.state = .podSubmitted then startReview p record event computeReviewDeadline
  else if record.state = .podResubmitted then startReview p record event computePostResubmitReviewDeadline
  else .error (.illegalTransition record.state .podUnderReview)

def reducePodCorrectionRequested (context : LifecycleReduceContext p) (e : PodCorrectionRequested) :
    Except LifecycleError LifecycleRecord := do
  requireState record .podUnderReview .podCorrectionRequested
  require (1 ≤ e.reasons.length) (guardError "CORRECTION_REASONS" "structured correction reasons required")
  requireReviewDeadline record event e.toShipperSigned "correction request must be at or before review deadline"
  let auth ← requireShipperReview record event context .requestCorrection
  let correctionDeadlineAt ← rethrow (computeCorrectionDeadline event.eventTime)
  withTransition p record .podCorrectionRequested event
    { record with
      correctionDeadlineAt := some correctionDeadlineAt
      shipperActionTaken := true
      lastShipperAuthPayloadHash := some auth.payloadHash
      lastShipperKeyFingerprint := some auth.trustedKeyFingerprint }

def reducePodPackageResubmitted (e : PodPackage) : Except LifecycleError LifecycleRecord := do
  requireState record .podCorrectionRequested .podResubmitted
  let deadline ← requireText record.correctionDeadlineAt
    (guardError "NO_CORRECTION_DEADLINE" "correctionDeadlineAt missing")
  requireBeforeOrEqual event.eventTime deadline
    (guardError "AFTER_CORRECTION_DEADLINE" "resubmission must be at or before correction deadline")
  require (e.podId ≠ [] ∧ e.contentHash ≠ [] ∧ e.ciphertextHash ≠ [])
    (guardError "POD_FIELDS" "podId, contentHash, and ciphertextHash required")
  require (some e.podId = record.podId)
    (guardError "POD_MISMATCH" "resubmission podId must match the bound POD evidence")
  let expectedPodVersion := record.podVersion.getD 0 + 1
  require (e.podVersion = expectedPodVersion)
    (.guardFailed (js "POD_VERSION") (js "podVersion must be " ++ decimalInt expectedPodVersion))
  withTransition p record .podResubmitted event
    { record with
      podId := some e.podId
      podVersion := some e.podVersion
      podContentHash := some e.contentHash
      podCiphertextHash := some e.ciphertextHash }

def reducePodAcceptedByShipper (context : LifecycleReduceContext p) (e : PodAcceptedByShipper) :
    Except LifecycleError LifecycleRecord := do
  requireState record .podUnderReview .podAccepted
  requireReviewDeadline record event e.toShipperSigned "acceptance must be at or before review deadline"
  let auth ← requireShipperReview record event context .accept
  withTransition p record .podAccepted event
    { record with
      shipperActionTaken := true
      lastShipperAuthPayloadHash := some auth.payloadHash
      lastShipperKeyFingerprint := some auth.trustedKeyFingerprint }

def reducePodReviewDeadlineExpired : Except LifecycleError LifecycleRecord := do
  requireState record .podUnderReview .podDeemedAccepted
  let deadline ← requireText record.reviewDeadlineAt (guardError "NO_REVIEW_DEADLINE" "reviewDeadlineAt missing")
  requireBeforeOrEqual deadline event.eventTime
    (guardError "BEFORE_REVIEW_DEADLINE" "deemed acceptance requires eventTime at or after review deadline")
  require (¬ record.shipperActionTaken)
    (guardError "SHIPPER_ALREADY_ACTED" "cannot deem accept after a prior shipper action")
  withTransition p record .podDeemedAccepted event record

def reducePodCorrectionDeadlineExpired : Except LifecycleError LifecycleRecord := do
  requireState record .podCorrectionRequested .podDisputed
  let deadline ← requireText record.correctionDeadlineAt
    (guardError "NO_CORRECTION_DEADLINE" "correctionDeadlineAt missing")
  requireBeforeOrEqual deadline event.eventTime
    (guardError "BEFORE_CORRECTION_DEADLINE"
      "correction timeout requires eventTime at or after correction deadline")
  withTransition p record .podDisputed event
    { record with disputeId := some (js "dispute-timeout-" ++ event.actionId) }

def reducePodRejectedToDispute (context : LifecycleReduceContext p) (e : PodRejectedToDispute) :
    Except LifecycleError LifecycleRecord := do
  requireState record .podUnderReview .podDisputed
  require (1 ≤ e.reasons.length) (guardError "REJECT_REASONS" "structured rejection reasons required")
  require (e.disputeId ≠ []) (guardError "REJECT_FIELDS" "disputeId required")
  requireReviewDeadline record event e.toShipperSigned "rejection must be at or before review deadline"
  let auth ← requireShipperReview record event context .rejectDispute
  withTransition p record .podDisputed event
    { record with
      disputeId := some e.disputeId
      shipperActionTaken := true
      lastShipperAuthPayloadHash := some auth.payloadHash
      lastShipperKeyFingerprint := some auth.trustedKeyFingerprint }

def reduceRefereeResolutionRecorded (context : LifecycleReduceContext p) (e : RefereeResolutionRecorded) :
    Except LifecycleError LifecycleRecord := do
  requireState record .podDisputed .refereeDecision
  require (e.signerKind = js "HUMAN_REFEREE") (guardError "AI_SIGNER" "AI signer is not permitted")
  let auth ← requireSealedRefereeAuth context event
  require (auth.refereeId = e.refereeId)
    (guardError "REFEREE_ID_MISMATCH" "verified refereeId does not match event")
  require (auth.disputeId = e.disputeId ∧ auth.podId = e.podId)
    (guardError "AUTH_BINDING" "verified dispute/pod does not match event")
  require (auth.resolution = e.resolution ∧ auth.releaseAmountAtomic = e.releaseAmountAtomic ∧
      auth.refundAmountAtomic = e.refundAmountAtomic)
    (guardError "AUTH_AMOUNT_MISMATCH" "verified resolution amounts do not match event")
  require (∀ disputeId ∈ record.disputeId, disputeId = [] ∨ e.disputeId = disputeId)
    (guardError "DISPUTE_MISMATCH" "disputeId mismatch")
  require (∀ podId ∈ record.podId, podId = [] ∨ e.podId = podId) (guardError "POD_MISMATCH" "podId mismatch")
  require (auth.signPayload.tenderId = record.tenderId ∧ auth.signPayload.tenderVersion = record.tenderVersion)
    (guardError "TENDER_MISMATCH" "auth tender mismatch")
  requireNonNegAtomic (js "releaseAmountAtomic") e.releaseAmountAtomic
  requireNonNegAtomic (js "refundAmountAtomic") e.refundAmountAtomic
  let locked ← toBigInt (record.lockedAmountAtomic.getD (js "0"))
  let rel ← toBigInt e.releaseAmountAtomic
  let ref ← toBigInt e.refundAmountAtomic
  require (rel + ref = locked) (guardError "CONSERVATION" "release + refund must equal locked amount")
  require (¬ (e.resolution = .releaseFull ∧ ref ≠ 0))
    (guardError "RESOLUTION_AMOUNTS" "RELEASE_FULL requires refund 0")
  require (¬ (e.resolution = .refundFull ∧ rel ≠ 0))
    (guardError "RESOLUTION_AMOUNTS" "REFUND_FULL requires release 0")
  require (¬ (e.resolution = .partialSplit ∧ rel = 0 ∧ ref = 0))
    (guardError "RESOLUTION_AMOUNTS" "PARTIAL requires a positive split")
  withTransition p record .refereeDecision event
    { record with
      refereeResolution := some e.resolution.text
      releaseAmountAtomic := some e.releaseAmountAtomic
      refundAmountAtomic := some e.refundAmountAtomic
      resolutionPayloadHash := some auth.payloadHash
      refereeId := some auth.refereeId
      refereeKeyFingerprint := some auth.trustedKeyFingerprint
      disputeId := some e.disputeId }

/-- The referee decided for the given resolution. -/
def decided (resolution : RefereeResolution) : Prop :=
  record.state = .refereeDecision ∧ record.refereeResolution = some resolution.text

instance (resolution : RefereeResolution) : Decidable (decided record resolution) :=
  inferInstanceAs (Decidable (_ ∧ _))

def reduceEscrowReleaseConfirmed (e : EscrowReleaseConfirmed) : Except LifecycleError LifecycleRecord := do
  require (record.state = .podAccepted ∨ record.state = .podDeemedAccepted ∨ decided record .releaseFull)
    (.illegalTransition record.state .paymentReleased)
  require (e.releaseTxId ≠ []) (guardError "RELEASE_TX" "releaseTxId required")
  requirePositiveAtomic (js "releaseAmountAtomic") e.releaseAmountAtomic
  let locked ← requireText (record.lockedAmountAtomic.or record.winningAmountAtomic)
    (guardError "LOCKED_MISSING" "locked amount required for release")
  require (e.releaseAmountAtomic = locked)
    (guardError "RELEASE_AMOUNT" "releaseAmountAtomic must equal locked amount")
  require (record.state = .refereeDecision → record.refereeResolution = some RefereeResolution.releaseFull.text)
    (guardError "RESOLUTION_MISMATCH" "full release requires RELEASE_FULL decision")
  require (record.state = .refereeDecision →
      record.releaseAmountAtomic = some e.releaseAmountAtomic ∧ record.refundAmountAtomic = some (js "0"))
    (guardError "DECISION_AMOUNT_MISMATCH" "release must exactly match verified referee decision")
  withTransition p record .paymentReleased event
    { record with
      releaseTxId := some e.releaseTxId
      releaseAmountAtomic := some e.releaseAmountAtomic
      refundAmountAtomic := some (js "0") }

def reduceEscrowPartialReleaseConfirmed (e : EscrowPartialReleaseConfirmed) :
    Except LifecycleError LifecycleRecord := do
  require (decided record .partialSplit) (.illegalTransition record.state .partialRelease)
  requireNonNegAtomic (js "releaseAmountAtomic") e.releaseAmountAtomic
  requireNonNegAtomic (js "refundAmountAtomic") e.refundAmountAtomic
  let locked ← toBigInt (record.lockedAmountAtomic.getD (js "0"))
  let rel ← toBigInt e.releaseAmountAtomic
  let ref ← toBigInt e.refundAmountAtomic
  require (rel + ref = locked) (guardError "CONSERVATION" "partial release + refund must equal locked amount")
  require (some e.releaseAmountAtomic = record.releaseAmountAtomic ∧
      some e.refundAmountAtomic = record.refundAmountAtomic)
    (guardError "DECISION_AMOUNT_MISMATCH" "partial settlement must exactly match verified referee decision")
  require (e.releaseTxId ≠ [] ∧ e.refundTxId ≠ []) (guardError "PARTIAL_TX" "releaseTxId and refundTxId required")
  withTransition p record .partialRelease event
    { record with
      releaseTxId := some e.releaseTxId
      refundTxId := some e.refundTxId
      releaseAmountAtomic := some e.releaseAmountAtomic
      refundAmountAtomic := some e.refundAmountAtomic }

def reduceEscrowRefundConfirmed (e : EscrowRefundConfirmed) : Except LifecycleError LifecycleRecord := do
  require (record.state = .noQualifiedBid ∨ decided record .refundFull)
    (.illegalTransition record.state .refunded)
  require (e.refundTxId ≠ []) (guardError "REFUND_TX" "refundTxId required")
  requirePositiveAtomic (js "refundAmountAtomic") e.refundAmountAtomic
  if record.state = .noQualifiedBid then
    require (e.refundAmountAtomic = record.maximumFreightBudgetAtomic)
      (guardError "REFUND_AMOUNT" "full budget refund required for NO_QUALIFIED_BID")
  else do
    require (record.refereeResolution = some RefereeResolution.refundFull.text)
      (guardError "RESOLUTION_MISMATCH" "full refund requires REFUND_FULL decision")
    require (record.refundAmountAtomic = some e.refundAmountAtomic ∧ record.releaseAmountAtomic = some (js "0"))
      (guardError "DECISION_AMOUNT_MISMATCH" "refund must exactly match verified referee decision")
    require (∀ locked ∈ record.lockedAmountAtomic, locked = [] ∨ e.refundAmountAtomic = locked)
      (guardError "REFUND_AMOUNT" "refund must equal locked amount")
  withTransition p record .refunded event
    { record with
      refundTxId := some e.refundTxId
      refundAmountAtomic := some e.refundAmountAtomic
      releaseAmountAtomic := some (js "0") }

def reduceTenderCompletionConfirmed : Except LifecycleError LifecycleRecord := do
  require (record.state = .paymentReleased ∨ record.state = .partialRelease ∨ record.state = .refunded)
    (.illegalTransition record.state .tenderCompleted)
  withTransition p record .tenderCompleted event record

/-- An advisory stores its hash and commits its action; it goes through no transition. -/
def reducePodAdvisoryAnchored (e : PodAdvisoryAnchored) : Except LifecycleError LifecycleRecord := do
  require (e.binding = js "NON_BINDING_ADVISORY")
    (guardError "ADVISORY_BINDING" "advisory must be NON_BINDING_ADVISORY")
  require (record.state ≠ .tenderCompleted) (guardError "TERMINAL" "cannot anchor advisory on completed tender")
  pure { record with
    advisoryReportHash := some e.reportHash
    toProgress := record.toProgress.advance p record.state event (some (js "NON_BINDING_ADVISORY_HASH_ONLY")) }

/-- Apply one event. -/
def reduceLifecycle (context : LifecycleReduceContext p) : Except LifecycleError LifecycleRecord := do
  requireUtc (js "eventTime") event.eventTime
  requireBeforeOrEqual record.updatedAt event.eventTime
    (guardError "NON_MONOTONIC_TIME" "eventTime cannot be earlier than authoritative updatedAt")
  match event.body with
  | .podAdvisoryAnchored e => reducePodAdvisoryAnchored p record event e
  | .escrowFundingConfirmed e => reduceEscrowFundingConfirmed p record event e
  | .tenderActivationPaid e => reduceTenderActivationPaid p record event e
  | .bidSubmissionPaid e => reduceBidSubmissionPaid p record event context e
  | .biddingStarted => reduceBiddingStarted p record event
  | .auctionCloseConfirmed e => reduceAuctionCloseConfirmed p record event e
  | .noQualifiedBidConfirmed e => reduceNoQualifiedBidConfirmed p record event e
  | .winnerSelectionConfirmed e => reduceWinnerSelectionConfirmed p record event e
  | .winningAmountAllocationConfirmed e => reduceWinningAmountAllocationConfirmed p record event e
  | .routeReservationPublished e => reduceRouteReservationPublished p record event e
  | .transitStarted => reduceTransitStarted p record event
  | .deliveryReported => reduceDeliveryReported p record event
  | .podPackageSubmitted e => reducePodPackageSubmitted p record event e
  | .podReviewStarted => reducePodReviewStarted p record event
  | .podCorrectionRequested e => reducePodCorrectionRequested p record event context e
  | .podPackageResubmitted e => reducePodPackageResubmitted p record event e
  | .podAcceptedByShipper e => reducePodAcceptedByShipper p record event context e
  | .podReviewDeadlineExpired => reducePodReviewDeadlineExpired p record event
  | .podCorrectionDeadlineExpired => reducePodCorrectionDeadlineExpired p record event
  | .podRejectedToDispute e => reducePodRejectedToDispute p record event context e
  | .refereeResolutionRecorded e => reduceRefereeResolutionRecorded p record event context e
  | .escrowReleaseConfirmed e => reduceEscrowReleaseConfirmed p record event e
  | .escrowPartialReleaseConfirmed e => reduceEscrowPartialReleaseConfirmed p record event e
  | .escrowRefundConfirmed e => reduceEscrowRefundConfirmed p record event e
  | .tenderCompletionConfirmed => reduceTenderCompletionConfirmed p record event

end Events

end RouteGuard.Lifecycle
