import RouteGuard.Access.Resource
import RouteGuard.Domain.PaymentOption
import RouteGuard.Lifecycle.Record

/-!
# The validator of persisted records

`assertValidLifecycleRecord` accepts a record or says what is wrong with it. The checks that a typed record
cannot fail (that a field is present, known and of its type) are left out; every other check stands in the
order of the source, with its message.
-/

namespace RouteGuard.Store
open JsString Guarded Access Auth Trust Lifecycle

/-- What the lifecycle store throws. -/
inductive StoreError where
  /-- `CorruptLifecycleRecordError`. -/
  | corrupt (tenderId reason : JsString)
  /-- `LifecycleNotFoundError`. -/
  | notFound (tenderId : JsString)
  /-- `LifecycleVersionConflictError`. -/
  | versionConflict (tenderId : JsString) (expectedVersion actualVersion : Int)
  /-- `LifecycleImmutableFieldError`. -/
  | immutableField (tenderId field : JsString)
  /-- `LifecycleActionConflictError`. -/
  | actionConflict (actionId message : JsString)
  /-- `LifecycleAtomicWriteError`. -/
  | atomicWrite (tenderId reason : JsString)
  /-- Any other `Error`. -/
  | failed (message : JsString)
  deriving DecidableEq, Repr

def MAX_STRING : Nat := 512

def MAX_HISTORY : Nat := 10000

/-! ## Primitive assertions -/

/-- `SAFE_TENDER_ID_RE` without `..`. -/
def isSafeTenderId (tenderId : JsString) : Bool :=
  let alphanumeric (u : UInt16) : Bool := (0x30 ≤ u && u ≤ 0x39) || (0x41 ≤ u && u ≤ 0x5A) || (0x61 ≤ u && u ≤ 0x7A)
  match tenderId with
  | [] => false
  | u :: rest =>
    tenderId.length ≤ 128 && !includes (js "..") tenderId && alphanumeric u &&
      rest.all fun v => alphanumeric v || v ∈ js "._-"

def assertSafeTenderId (tenderId : JsString) : Except StoreError Unit :=
  require (isSafeTenderId tenderId)
    (.corrupt (tenderId.take 32) (js "tenderId must be a filesystem-safe id of [a-zA-Z0-9._-]"))

/-- `SHA256_RE`. -/
def isSha256 (s : JsString) : Bool :=
  (js "sha256:").isPrefixOf s && (s.drop 7).length = 64 && (s.drop 7).all isLowerHex

/-- `FINGERPRINT_RE`. -/
def isFingerprint (s : JsString) : Bool := s.length = 64 && s.all isLowerHex

section Primitives
variable (t : JsString)

def str (max : Nat) (field value : JsString) : Except StoreError Unit :=
  require (value ≠ [] ∧ value.length ≤ max)
    (.corrupt t (field ++ js " must be a non-empty string of at most " ++ decimal max ++ js " characters"))

def safeInt (min : Nat) (field : JsString) (value : Int) : Except StoreError Unit :=
  require ((min : Int) ≤ value ∧ value ≤ MAX_SAFE_INTEGER)
    (.corrupt t (field ++ js " must be a safe integer >= " ++ decimal min))

def hash (field value : JsString) : Except StoreError Unit :=
  require (isSha256 value) (.corrupt t (field ++ js " must be sha256:<64 lowercase hex>"))

def utc (field value : JsString) : Except StoreError Unit :=
  require (isUtcIsoTimestamp value) (.corrupt t (field ++ js " must be a valid UTC ISO-8601 timestamp"))

def nonNegAtomic (field value : JsString) : Except StoreError Unit :=
  require (isNonNegativeAtomicString value)
    (.corrupt t (field ++ js " must be a non-negative atomic integer string (no signs, floats, or exponents)"))

def positiveAtomic (field value : JsString) : Except StoreError Unit :=
  require (isPositiveAtomicString value) (.corrupt t (field ++ js " must be a positive atomic integer string"))

def account (field value : JsString) : Except StoreError Unit :=
  require (isValidHederaAccountId value) (.corrupt t (field ++ js " must be a valid Hedera account id"))

def fingerprint (field value : JsString) : Except StoreError Unit :=
  require (isFingerprint value) (.corrupt t (field ++ js " must be 64 lowercase hex characters"))

def requirePresent {α : Type} (value : Option α) (field : String) (state : V2LifecycleState) :
    Except StoreError Unit :=
  require (value.isSome) (.corrupt t (js "state " ++ state.text ++ js " requires " ++ js field))

def requireAbsent {α : Type} (value : Option α) (field : String) (state : V2LifecycleState) :
    Except StoreError Unit :=
  require (value.isNone) (.corrupt t (js "state " ++ state.text ++ js " must not carry " ++ js field))

/-- A cross-field check with its reason. -/
def expect (c : Prop) [Decidable c] (reason : String) : Except StoreError Unit := require c (.corrupt t (js reason))

/-- `BigInt` of a validated amount. -/
def amount (value : JsString) : Except StoreError Int :=
  match bigInt value with
  | some n => .ok n
  | none => .error (.failed (js "Cannot convert " ++ value ++ js " to a BigInt"))

/-- `compareUtc(a, b) > 0` fails with the reason. -/
def expectNotAfter (a b : JsString) (reason : String) : Except StoreError Unit := do
  let c ← (compareUtc a b).mapError .failed
  require (¬ c > 0) (.corrupt t (js reason))

end Primitives

/-! ## State-dependent requirements -/

section States
open V2LifecycleState

def REQUIRES_POD : List V2LifecycleState :=
  [podSubmitted, podUnderReview, podCorrectionRequested, podResubmitted, podAccepted, podDeemedAccepted, podDisputed,
   refereeDecision, partialRelease]

def REQUIRES_LOCK : List V2LifecycleState :=
  [winningAmountLocked, routeReserved, inTransit, deliveryReported, podSubmitted, podUnderReview,
   podCorrectionRequested, podResubmitted, podAccepted, podDeemedAccepted, podDisputed, refereeDecision,
   partialRelease]

def REQUIRES_WINNER : List V2LifecycleState :=
  [winnerSelected, winningAmountLocked, routeReserved, inTransit, deliveryReported, podSubmitted, podUnderReview,
   podCorrectionRequested, podResubmitted, podAccepted, podDeemedAccepted, podDisputed, refereeDecision,
   partialRelease]

def POST_AUCTION_CLOSE : List V2LifecycleState :=
  [auctionClosed, noQualifiedBid, winnerSelected, winningAmountLocked, routeReserved, inTransit, deliveryReported,
   podSubmitted, podUnderReview, podCorrectionRequested, podResubmitted, podAccepted, podDeemedAccepted, podDisputed,
   refereeDecision, paymentReleased, partialRelease, refunded, tenderCompleted]

def BIDDING_REACHED : List V2LifecycleState := bidding :: POST_AUCTION_CLOSE

def POST_ACTIVATION : List V2LifecycleState := tenderOpened :: BIDDING_REACHED

def POST_FUNDING : List V2LifecycleState := escrowFunded :: POST_ACTIVATION

def REQUIRES_REVIEW_WINDOW : List V2LifecycleState :=
  [podUnderReview, podCorrectionRequested, podResubmitted, podAccepted, podDeemedAccepted, podDisputed]

def REQUIRES_CORRECTION_DEADLINE : List V2LifecycleState := [podCorrectionRequested, podResubmitted]

def REQUIRES_DISPUTE : List V2LifecycleState := [podDisputed, refereeDecision, partialRelease]

def REQUIRES_REFEREE_DECISION : List V2LifecycleState := [refereeDecision, partialRelease]

def ALLOWS_REFEREE_DECISION : List V2LifecycleState :=
  [refereeDecision, paymentReleased, partialRelease, refunded, tenderCompleted]

def ALLOWS_SETTLEMENT : List V2LifecycleState :=
  [refereeDecision, paymentReleased, partialRelease, refunded, tenderCompleted]

def ALLOWS_SETTLEMENT_TX : List V2LifecycleState := [paymentReleased, partialRelease, refunded, tenderCompleted]

end States

def RESOLUTIONS : List JsString := [js "RELEASE_FULL", js "REFUND_FULL", js "PARTIAL"]

/-! ## Nested validators -/

/-- A field of an entry of an array. -/
def indexed (array : JsString) (i : Nat) (field : String) : JsString :=
  array ++ js "[" ++ decimal i ++ js "]" ++ js field

section Nested
variable (p : Platform) (t : JsString)

def validateReferee (field : JsString) (earlier : List TrustedRefereeEntry) (r : TrustedRefereeEntry) :
    Except StoreError Unit := do
  let referees := field ++ js ".referees"
  str t 128 (indexed referees earlier.length ".refereeId") r.refereeId
  str t 256 (indexed referees earlier.length ".publicKey") r.publicKey
  require (32 ≤ r.publicKey.length)
    (.corrupt t (indexed referees earlier.length ".publicKey" ++ js " is not a valid key encoding"))
  require (¬ earlier.any fun r' => r'.refereeId = r.refereeId)
    (.corrupt t (referees ++ js " contains duplicate refereeId \"" ++ r.refereeId ++ js "\""))

def validateTrustSnapshot (field : JsString) (trust : TrustPolicySnapshot) : Except StoreError Unit := do
  str t 256 (field ++ js ".shipperPublicKey") trust.shipperPublicKey
  require (32 ≤ trust.shipperPublicKey.length ∧ trust.shipperPublicKey = trim trust.shipperPublicKey)
    (.corrupt t (field ++ js ".shipperPublicKey is not a valid key encoding"))
  str t 64 (field ++ js ".shipperKeyFingerprint") trust.shipperKeyFingerprint
  fingerprint t (field ++ js ".shipperKeyFingerprint") trust.shipperKeyFingerprint
  require (trust.shipperKeyFingerprint = publicKeyFingerprint p trust.shipperPublicKey)
    (.corrupt t (field ++ js ".shipperKeyFingerprint does not match shipperPublicKey"))
  account t (field ++ js ".accessTreasuryAccountId") trust.accessTreasuryAccountId
  require (1 ≤ trust.referees.length) (.corrupt t (field ++ js ".referees must be a non-empty array"))
  require (trust.referees.length ≤ 64) (.corrupt t (field ++ js ".referees exceeds the supported registry size"))
  eachAfter (validateReferee t field) [] trust.referees

/-- The resource an access payment must be bound to. -/
def paymentResource (r : TenderBinding) (payment : LifecycleAccessPayment) : Except JsString JsString :=
  match payment.accessActionType with
  | .tenderActivate => tenderActivateResource r.tenderId r.tenderVersion
  | .bidSubmit => bidSubmitResource r.tenderId r.tenderVersion (payment.bidId.getD [])

def validateAccessPayment (r : TenderBinding) (earlier : List LifecycleAccessPayment)
    (payment : LifecycleAccessPayment) : Except StoreError Unit := do
  let field (name : String) := indexed (js "accessPayments") earlier.length name
  str t 128 (field ".actionId") payment.actionId
  require (¬ earlier.any fun payment' => payment'.actionId = payment.actionId)
    (.corrupt t (field "" ++ js " duplicates an access payment for actionId \"" ++ payment.actionId ++ js "\""))
  nullable (str t 128 (field ".bidId")) payment.bidId
  require (payment.accessActionType = .bidSubmit → payment.bidId ≠ none)
    (.corrupt t (field "" ++ js " requires bidId for a BID_SUBMIT payment"))
  require (payment.accessActionType = .tenderActivate → payment.bidId = none)
    (.corrupt t (field "" ++ js " must not carry bidId for a TENDER_ACTIVATE payment"))
  require (payment.asset = ACCESS_FEE_TOKEN_ID) (.corrupt t (field ".asset must be " ++ ACCESS_FEE_TOKEN_ID))
  let expectedFee ← deriveAccessFeeAtomic.mapError .failed
  require (payment.amountAtomic = expectedFee)
    (.corrupt t (field ".amountAtomic must be " ++ expectedFee ++ js " atomic units"))
  let expectedResource ← (paymentResource r payment).mapError .failed
  require (payment.resource = expectedResource)
    (.corrupt t (field ".resource is not the canonical protected resource"))
  require (payment.payTo = r.trust.accessTreasuryAccountId)
    (.corrupt t (field ".payTo must equal the configured access treasury account"))
  account t (field ".payerAccount") payment.payerAccount
  str t 128 (field ".paymentTransactionId") payment.paymentTransactionId
  require (¬ earlier.any fun payment' => payment'.paymentTransactionId = payment.paymentTransactionId)
    (.corrupt t (field "" ++ js " reuses a settlement transaction that already authorized another action"))
  hash t (field ".paymentPayloadHash") payment.paymentPayloadHash
  utc t (field ".settledAt") payment.settledAt

def validateAccessPayments (r : TenderBinding) (payments : List LifecycleAccessPayment) :
    Except StoreError Unit := do
  expect t (payments.length ≤ MAX_HISTORY) "accessPayments exceeds the supported length"
  eachAfter (validateAccessPayment t r) [] payments

def validateBid (earlier : List LifecycleBidEntry) (bid : LifecycleBidEntry) : Except StoreError Unit := do
  let field (name : String) := indexed (js "bidRegistry") earlier.length name
  str t 128 (field ".bidId") bid.bidId
  require (¬ earlier.any fun bid' => bid'.bidId = bid.bidId)
    (.corrupt t (field "" ++ js " duplicates bidId \"" ++ bid.bidId ++ js "\""))
  str t 128 (field ".carrierId") bid.carrierId
  account t (field ".carrierAccountId") bid.carrierAccountId
  hash t (field ".bidHash") bid.bidHash
  hash t (field ".signedBidEnvelopeHash") bid.signedBidEnvelopeHash
  hash t (field ".commitmentPayloadHash") bid.commitmentPayloadHash
  str t 64 (field ".carrierKeyFingerprint") bid.carrierKeyFingerprint
  fingerprint t (field ".carrierKeyFingerprint") bid.carrierKeyFingerprint
  hash t (field ".bidAuthPayloadHash") bid.bidAuthPayloadHash
  str t 128 (field ".accessPaymentTxId") bid.accessPaymentTxId
  str t 128 (field ".actionId") bid.actionId
  utc t (field ".acceptedAt") bid.acceptedAt

def validateBidRegistry (bids : List LifecycleBidEntry) : Except StoreError Unit := do
  expect t (bids.length ≤ MAX_HISTORY) "bidRegistry exceeds the supported length"
  eachAfter (validateBid t) [] bids

def validateAccessReceipt (r : TenderBinding) (activationPaymentTxId : Option JsString)
    (receipt : LifecycleAccessReceipt) : Except StoreError Unit := do
  require (receipt.asset = ACCESS_FEE_TOKEN_ID)
    (.corrupt t (js "accessReceipt.asset must be " ++ ACCESS_FEE_TOKEN_ID))
  let expectedFee ← deriveAccessFeeAtomic.mapError .failed
  require (receipt.amountAtomic = expectedFee)
    (.corrupt t (js "accessReceipt.amountAtomic must be " ++ expectedFee ++ js " atomic units"))
  let expectedResource ← (tenderActivateResource r.tenderId r.tenderVersion).mapError .failed
  expect t (receipt.resource = expectedResource)
    "accessReceipt.resource must be the canonical tender-versioned resource"
  expect t (receipt.payTo = r.trust.accessTreasuryAccountId)
    "accessReceipt.payTo must equal the configured access treasury account"
  account t (js "accessReceipt.payerAccount") receipt.payerAccount
  str t 128 (js "accessReceipt.paymentTransactionId") receipt.paymentTransactionId
  expect t (∀ tx ∈ activationPaymentTxId, tx = receipt.paymentTransactionId)
    "accessReceipt.paymentTransactionId must equal activationPaymentTxId"
  hash t (js "accessReceipt.paymentPayloadHash") receipt.paymentPayloadHash
  utc t (js "accessReceipt.paidAt") receipt.paidAt

def validateTransition (earlier : List LifecycleTransitionRecord) (h : LifecycleTransitionRecord) :
    Except StoreError Unit := do
  let field (name : String) := indexed (js "history") earlier.length name
  str t 128 (field ".actionId") h.actionId
  utc t (field ".at") h.at_
  nullable (str t MAX_STRING (field ".reason")) h.reason

/-- The times of the history: not before the creation, and not before the previous entry. -/
def validateHistoryTime (createdAt : JsString) (earlier : List LifecycleTransitionRecord)
    (h : LifecycleTransitionRecord) : Except StoreError Unit := do
  expectNotAfter t createdAt h.at_ "history event time cannot precede record createdAt"
  nullable (fun previous : LifecycleTransitionRecord =>
    expectNotAfter t previous.at_ h.at_ "history event times must be monotonic non-decreasing") earlier.getLast?

def validateProcessedAction (recordVersion : Int) (key : JsString) (a : ProcessedActionRecord) :
    Except StoreError Unit := do
  let field (name : String) := js "processedActions[\"" ++ key ++ js "\"]" ++ js name
  str t 128 (field ".actionId") a.actionId
  require (a.actionId = key) (.corrupt t (field ".actionId does not match its index key"))
  hash t (field ".eventPayloadHash") a.eventPayloadHash
  safeInt t 1 (field ".recordVersionAfter") a.recordVersionAfter
  require (a.recordVersionAfter ≤ recordVersion)
    (.corrupt t (field ".recordVersionAfter exceeds the record version"))
  utc t (field ".at") a.at_

end Nested

/-! ## The record -/

/-- The names of the fields of a processed action. -/
def PROCESSED_ACTION_KEYS : List JsString :=
  [js "actionId", js "eventType", js "eventPayloadHash", js "resultingState", js "recordVersionAfter", js "at"]

/-- The index the validator rebuilds by assignment. -/
def rebuiltActions (actions : PlainObject ProcessedActionRecord) : BuiltObject ProcessedActionRecord :=
  actions.rebuilt

/-- The payments of bids by bid id, the last one of each. -/
def bidPayment (payments : List LifecycleAccessPayment) (bidId : JsString) : Option LifecycleAccessPayment :=
  payments.reverse.find? fun payment => payment.accessActionType = .bidSubmit && payment.bidId = some bidId

def bidPaymentCount (payments : List LifecycleAccessPayment) : Nat :=
  ((payments.filter fun payment => payment.accessActionType = .bidSubmit).map (·.bidId)).dedup.length

section Record
variable (p : Platform) (t : JsString) (r : LifecycleRecord)

def validateHeader : Except StoreError Unit := do
  assertSafeTenderId r.tenderId
  expect t (r.tenderId = t) "record tenderId does not match the requested tender"
  safeInt t 1 (js "tenderVersion") r.tenderVersion
  hash t (js "tenderHash") r.tenderHash
  positiveAtomic t (js "maximumFreightBudgetAtomic") r.maximumFreightBudgetAtomic
  utc t (js "auctionEndsAt") r.auctionEndsAt
  safeInt t 1 (js "recordVersion") r.recordVersion
  utc t (js "createdAt") r.createdAt
  utc t (js "updatedAt") r.updatedAt
  expectNotAfter t r.createdAt r.updatedAt "createdAt must be <= updatedAt"
  nullable (str t 128 (js "lastActionId")) r.lastActionId

def validateHistory : Except StoreError Unit := do
  expect t (r.history.length ≤ MAX_HISTORY) "history exceeds the supported length"
  eachAfter (validateTransition t) [] r.history
  eachAfter (validateHistoryTime t r.createdAt) [] r.history

/-- A history entry and its processed action. -/
def validateCommitted (entry : LifecycleTransitionRecord) : Except StoreError Unit := do
  let named (reason : String) := StoreError.corrupt t (js "processed action \"" ++ entry.actionId ++ js "\" " ++ js reason)
  match (rebuiltActions r.processedActions).read PROCESSED_ACTION_KEYS entry.actionId with
  | .undefined =>
    .error (.corrupt t (js "history entry \"" ++ entry.actionId ++
      js "\" has no processed-action record (non-atomic idempotency state)"))
  | .inherited => .error (named "event type does not match history")
  | .value processed => do
    require (processed.eventType = entry.eventType) (named "event type does not match history")
    require (processed.resultingState = entry.target) (named "resulting state does not match history")

def validateActions : Except StoreError Unit := do
  each (fun e : Sigma fun _ : JsString => ProcessedActionRecord =>
    validateProcessedAction t r.recordVersion e.1 e.2) r.processedActions.entries
  expect t (r.history.length = (rebuiltActions r.processedActions).own.keys.length)
    "history length must equal the processed-action count (action-id state and lifecycle state must be committed together)"
  expect t (r.recordVersion = r.history.length + 1) "recordVersion must equal the committed transition count + 1"
  match r.history.getLast? with
  | none => do
    expect t (r.state = .draft) "a record without history must be in DRAFT"
    expect t (r.lastActionId = none) "a record without history must not carry lastActionId"
  | some last => do
    expect t (last.target = r.state) "the final history entry does not match the persisted state"
    expect t (last.at_ = r.updatedAt) "the final history entry timestamp does not match updatedAt"
    expect t (r.lastActionId = some last.actionId) "lastActionId does not match the final history entry"
    each (validateCommitted t r) r.history

def validateFunding : Except StoreError Unit := do
  nullable (str t 128 (js "fundingTxId")) r.fundingTxId
  nullable (nonNegAtomic t (js "fundedAmountAtomic")) r.fundedAmountAtomic
  nullable (str t 128 (js "activationPaymentTxId")) r.activationPaymentTxId
  nullable (validateAccessReceipt t r.toTenderBinding r.activationPaymentTxId) r.accessReceipt
  validateAccessPayments t r.toTenderBinding r.accessPayments
  validateBidRegistry t r.bidRegistry

def validateAuction : Except StoreError Unit := do
  nullable (str t 256 (js "closureProofRef")) r.closureProofRef
  nullable (hash t (js "authoritativeBidSetHash")) r.authoritativeBidSetHash
  nullable (hash t (js "decisionManifestHash")) r.decisionManifestHash
  nullable (str t 128 (js "winningBidId")) r.winningBidId
  nullable (str t 128 (js "winningCarrierId")) r.winningCarrierId
  nullable (account t (js "winningCarrierAccount")) r.winningCarrierAccount
  nullable (nonNegAtomic t (js "winningAmountAtomic")) r.winningAmountAtomic
  nullable (nonNegAtomic t (js "lockedAmountAtomic")) r.lockedAmountAtomic
  nullable (nonNegAtomic t (js "excessRefundAtomic")) r.excessRefundAtomic
  nullable (str t 128 (js "allocateTxId")) r.allocateTxId
  nullable (str t 128 (js "refundExcessTxId")) r.refundExcessTxId
  nullable (str t 256 (js "reservationEvidenceRef")) r.reservationEvidenceRef

def validatePod : Except StoreError Unit := do
  nullable (str t 128 (js "podId")) r.podId
  nullable (safeInt t 1 (js "podVersion")) r.podVersion
  nullable (hash t (js "podContentHash")) r.podContentHash
  nullable (hash t (js "podCiphertextHash")) r.podCiphertextHash
  nullable (utc t (js "reviewStartedAt")) r.reviewStartedAt
  nullable (utc t (js "reviewDeadlineAt")) r.reviewDeadlineAt
  nullable (utc t (js "correctionDeadlineAt")) r.correctionDeadlineAt
  nullable (hash t (js "advisoryReportHash")) r.advisoryReportHash
  nullable (str t 128 (js "disputeId")) r.disputeId
  nullable (hash t (js "lastShipperAuthPayloadHash")) r.lastShipperAuthPayloadHash
  nullable (fingerprint t (js "lastShipperKeyFingerprint")) r.lastShipperKeyFingerprint

def validateSettlement : Except StoreError Unit := do
  nullable (str t 32 (js "refereeResolution")) r.refereeResolution
  expect t (∀ resolution ∈ r.refereeResolution, resolution ∈ RESOLUTIONS)
    "refereeResolution must be RELEASE_FULL, REFUND_FULL, or PARTIAL"
  nullable (nonNegAtomic t (js "releaseAmountAtomic")) r.releaseAmountAtomic
  nullable (nonNegAtomic t (js "refundAmountAtomic")) r.refundAmountAtomic
  nullable (hash t (js "resolutionPayloadHash")) r.resolutionPayloadHash
  nullable (str t 128 (js "refereeId")) r.refereeId
  nullable (fingerprint t (js "refereeKeyFingerprint")) r.refereeKeyFingerprint
  nullable (str t 128 (js "releaseTxId")) r.releaseTxId
  nullable (str t 128 (js "refundTxId")) r.refundTxId

def requireFunding : Except StoreError Unit :=
  if r.state ∈ POST_FUNDING then do
    requirePresent t r.fundingTxId "fundingTxId" r.state
    requirePresent t r.fundedAmountAtomic "fundedAmountAtomic" r.state
    expect t (r.fundedAmountAtomic = some r.maximumFreightBudgetAtomic)
      "fundedAmountAtomic must exactly equal maximumFreightBudgetAtomic"
  else do
    requireAbsent t r.fundingTxId "fundingTxId" r.state
    requireAbsent t r.fundedAmountAtomic "fundedAmountAtomic" r.state

def requireActivation : Except StoreError Unit :=
  if r.state ∈ POST_ACTIVATION then do
    requirePresent t r.activationPaymentTxId "activationPaymentTxId" r.state
    requirePresent t r.accessReceipt "accessReceipt" r.state
  else do
    requireAbsent t r.activationPaymentTxId "activationPaymentTxId" r.state
    requireAbsent t r.accessReceipt "accessReceipt" r.state
    require (r.accessPayments = []) (.corrupt t (js "state " ++ r.state.text ++ js " must not carry access settlements"))

def activationPayments (payments : List LifecycleAccessPayment) : List LifecycleAccessPayment :=
  payments.filter fun payment => payment.accessActionType = .tenderActivate

/-- The activation payment in the index is the one on the receipt. -/
def matchesReceipt (payment : LifecycleAccessPayment) (receipt : LifecycleAccessReceipt) : Prop :=
  payment.paymentTransactionId = receipt.paymentTransactionId ∧
    payment.paymentPayloadHash = receipt.paymentPayloadHash ∧ payment.payerAccount = receipt.payerAccount ∧
    payment.payTo = receipt.payTo ∧ payment.resource = receipt.resource ∧
    payment.amountAtomic = receipt.amountAtomic ∧ payment.asset = receipt.asset

instance (payment : LifecycleAccessPayment) (receipt : LifecycleAccessReceipt) :
    Decidable (matchesReceipt payment receipt) :=
  inferInstanceAs (Decidable (_ ∧ _))

def requireReceipt : Except StoreError Unit :=
  match r.accessReceipt with
  | some receipt => do
    expect t ((activationPayments r.accessPayments).length = 1)
      "an activated tender requires exactly one TENDER_ACTIVATE access settlement"
    expect t (∀ activation ∈ (activationPayments r.accessPayments).head?, matchesReceipt activation receipt)
      "activation access settlement does not match the access receipt"
  | none =>
    expect t (activationPayments r.accessPayments = [])
      "a TENDER_ACTIVATE settlement exists without an access receipt"

def requireBidPaid (bid : LifecycleBidEntry) : Except StoreError Unit := do
  let named (reason : String) := StoreError.corrupt t (js "accepted bid \"" ++ bid.bidId ++ js "\" " ++ js reason)
  match bidPayment r.accessPayments bid.bidId with
  | none => .error (named "has no paid access settlement")
  | some payment => do
    require (payment.paymentTransactionId = bid.accessPaymentTxId) (named "is bound to a different settlement")
    require (payment.actionId = bid.actionId) (named "is bound to a different action")
    require ((rebuiltActions r.processedActions).read PROCESSED_ACTION_KEYS bid.actionId ≠ .undefined)
      (named "has no committed action record (non-atomic acceptance)")

def requireBids : Except StoreError Unit := do
  expect t (bidPaymentCount r.accessPayments + (activationPayments r.accessPayments).length = r.accessPayments.length)
    "bid access settlements must be unique per bidId"
  expect t (r.bidRegistry.length = bidPaymentCount r.accessPayments)
    "every accepted bid requires exactly one paid access settlement (atomic bid + payment commit)"
  each (requireBidPaid t r) r.bidRegistry
  require (r.bidRegistry = [] ∨ r.state ∈ BIDDING_REACHED)
    (.corrupt t (js "state " ++ r.state.text ++ js " must not carry accepted bids"))

def requireAward : Except StoreError Unit := do
  provided (r.state ∈ POST_AUCTION_CLOSE) do
    requirePresent t r.closureProofRef "closureProofRef" r.state
    requirePresent t r.authoritativeBidSetHash "authoritativeBidSetHash" r.state
  provided (r.state ∈ REQUIRES_WINNER) do
    requirePresent t r.winningBidId "winningBidId" r.state
    requirePresent t r.winningCarrierId "winningCarrierId" r.state
    requirePresent t r.winningCarrierAccount "winningCarrierAccount" r.state
    requirePresent t r.winningAmountAtomic "winningAmountAtomic" r.state
    requirePresent t r.decisionManifestHash "decisionManifestHash" r.state
  nullable (fun winning => do
    let win ← amount winning
    let budget ← amount r.maximumFreightBudgetAtomic
    expect t (win ≤ budget) "winningAmountAtomic exceeds maximumFreightBudgetAtomic") r.winningAmountAtomic

/-- The locked amount against the budget, the winning amount and the excess. -/
def requireLockedAmount (locked : JsString) : Except StoreError Unit := do
  let l ← amount locked
  let budget ← amount r.maximumFreightBudgetAtomic
  expect t (l ≤ budget) "lockedAmountAtomic exceeds maximumFreightBudgetAtomic"
  expect t (∀ winning ∈ r.winningAmountAtomic, locked = winning) "lockedAmountAtomic must equal winningAmountAtomic"
  nullable (fun excess => do
    let x ← amount excess
    expect t (l + x = budget) "lockedAmountAtomic + excessRefundAtomic must equal maximumFreightBudgetAtomic")
    r.excessRefundAtomic

def requireLock : Except StoreError Unit := do
  provided (r.state ∈ REQUIRES_LOCK) do
    requirePresent t r.lockedAmountAtomic "lockedAmountAtomic" r.state
    requirePresent t r.excessRefundAtomic "excessRefundAtomic" r.state
    requirePresent t r.allocateTxId "allocateTxId" r.state
  provided (r.state ∉ REQUIRES_LOCK ∧ r.state ∉ ALLOWS_SETTLEMENT_TX) do
    requireAbsent t r.lockedAmountAtomic "lockedAmountAtomic" r.state
  nullable (requireLockedAmount t r) r.lockedAmountAtomic

/-- `compareUtc(started, deadline) >= 0` fails. -/
def requireReviewWindow (started deadline : JsString) : Except StoreError Unit := do
  let c ← (compareUtc started deadline).mapError .failed
  expect t (¬ c ≥ 0) "reviewDeadlineAt must be after reviewStartedAt"

def requirePod : Except StoreError Unit := do
  provided (r.state ∈ REQUIRES_POD) do
    requirePresent t r.podId "podId" r.state
    requirePresent t r.podVersion "podVersion" r.state
    requirePresent t r.podContentHash "podContentHash" r.state
    requirePresent t r.podCiphertextHash "podCiphertextHash" r.state
  provided (r.state ∈ REQUIRES_REVIEW_WINDOW) do
    requirePresent t r.reviewStartedAt "reviewStartedAt" r.state
    requirePresent t r.reviewDeadlineAt "reviewDeadlineAt" r.state
    requireReviewWindow t (r.reviewStartedAt.getD []) (r.reviewDeadlineAt.getD [])
  provided (r.state ∈ REQUIRES_CORRECTION_DEADLINE) do
    requirePresent t r.correctionDeadlineAt "correctionDeadlineAt" r.state
  provided (r.state ∈ REQUIRES_DISPUTE) do
    requirePresent t r.disputeId "disputeId" r.state

def requireNoSettlement : Except StoreError Unit := do
  provided (r.state ∉ ALLOWS_REFEREE_DECISION) do
    requireAbsent t r.refereeResolution "refereeResolution" r.state
    requireAbsent t r.resolutionPayloadHash "resolutionPayloadHash" r.state
    requireAbsent t r.refereeId "refereeId" r.state
    requireAbsent t r.refereeKeyFingerprint "refereeKeyFingerprint" r.state
  provided (r.state ∉ ALLOWS_SETTLEMENT) do
    requireAbsent t r.releaseAmountAtomic "releaseAmountAtomic" r.state
    requireAbsent t r.refundAmountAtomic "refundAmountAtomic" r.state
  provided (r.state ∉ ALLOWS_SETTLEMENT_TX) do
    requireAbsent t r.releaseTxId "releaseTxId" r.state
    requireAbsent t r.refundTxId "refundTxId" r.state

/-- A recorded decision conserves the locked amount and names a registered referee. -/
def requireDecisionAmounts (resolution : JsString) : Except StoreError Unit := do
  requirePresent t r.releaseAmountAtomic "releaseAmountAtomic" r.state
  requirePresent t r.refundAmountAtomic "refundAmountAtomic" r.state
  requirePresent t r.lockedAmountAtomic "lockedAmountAtomic" r.state
  let rel ← amount (r.releaseAmountAtomic.getD [])
  let ref ← amount (r.refundAmountAtomic.getD [])
  let locked ← amount (r.lockedAmountAtomic.getD [])
  expect t (rel + ref = locked)
    "recorded referee decision does not conserve the locked amount (release + refund must equal lockedAmountAtomic)"
  expect t (¬ (resolution = js "RELEASE_FULL" ∧ ref ≠ 0)) "RELEASE_FULL requires a zero refund amount"
  expect t (¬ (resolution = js "REFUND_FULL" ∧ rel ≠ 0)) "REFUND_FULL requires a zero release amount"
  expect t (¬ (resolution = js "PARTIAL" ∧ rel = 0 ∧ ref = 0)) "PARTIAL requires a positive split"
  requirePresent t r.disputeId "disputeId" r.state
  expect t (∀ refereeId ∈ r.refereeId, r.trust.referees.any fun x => x.refereeId = refereeId)
    "refereeId is not present in the persisted trusted referee registry"

def requireDecision : Except StoreError Unit := do
  provided (r.state ∈ REQUIRES_REFEREE_DECISION) do
    requirePresent t r.refereeResolution "refereeResolution" r.state
    requirePresent t r.resolutionPayloadHash "resolutionPayloadHash" r.state
    requirePresent t r.refereeId "refereeId" r.state
    requirePresent t r.refereeKeyFingerprint "refereeKeyFingerprint" r.state
  nullable (requireDecisionAmounts t r) r.refereeResolution

def requireReleased : Except StoreError Unit := do
  provided (r.state = .paymentReleased ∨ r.state = .partialRelease) do
    requirePresent t r.releaseTxId "releaseTxId" r.state
    requirePresent t r.releaseAmountAtomic "releaseAmountAtomic" r.state
    requirePresent t r.lockedAmountAtomic "lockedAmountAtomic" r.state
  provided (r.state = .paymentReleased) do
    expect t (r.releaseAmountAtomic = r.lockedAmountAtomic)
      "PAYMENT_RELEASED requires releaseAmountAtomic to equal lockedAmountAtomic"
    expect t (r.refundAmountAtomic = some (js "0")) "PAYMENT_RELEASED requires a zero refund amount"
    expect t (r.refereeResolution = none ∨ r.refereeResolution = some (js "RELEASE_FULL"))
      "PAYMENT_RELEASED is inconsistent with the recorded referee decision"
  provided (r.state = .partialRelease) do
    requirePresent t r.refundTxId "refundTxId" r.state
    expect t (r.refereeResolution = some (js "PARTIAL")) "PARTIAL_RELEASE requires a PARTIAL referee decision"
    let rel ← amount (r.releaseAmountAtomic.getD [])
    let ref ← amount (r.refundAmountAtomic.getD [])
    let locked ← amount (r.lockedAmountAtomic.getD [])
    expect t (rel + ref = locked) "PARTIAL_RELEASE amounts do not conserve the locked amount"

def requireRefunded : Except StoreError Unit := do
  provided (r.state = .refunded) do
    requirePresent t r.refundTxId "refundTxId" r.state
    requirePresent t r.refundAmountAtomic "refundAmountAtomic" r.state
    match r.refereeResolution with
    | none => do
      -- nothing was ever locked without a qualified bid
      expect t (r.lockedAmountAtomic = none) "REFUNDED without a referee decision must not carry a locked amount"
      expect t (r.refundAmountAtomic = some r.maximumFreightBudgetAtomic)
        "REFUNDED without a referee decision must refund the full maximum freight budget"
    | some resolution => do
      expect t (resolution = js "REFUND_FULL") "REFUNDED is inconsistent with the recorded referee decision"
      expect t (r.refundAmountAtomic = r.lockedAmountAtomic)
        "REFUNDED requires refundAmountAtomic to equal lockedAmountAtomic"
      expect t (r.releaseAmountAtomic = some (js "0")) "REFUNDED requires a zero release amount"
  expect t (¬ (r.state = .tenderCompleted ∧ r.releaseTxId = none ∧ r.refundTxId = none))
    "TENDER_COMPLETED requires a settlement transaction reference"

/-- Accept the record of the expected tender, or fail with the first thing that is wrong. -/
def assertValidLifecycleRecord : Except StoreError LifecycleRecord := do
  assertSafeTenderId t
  validateHeader t r
  validateHistory t r
  validateActions t r
  validateTrustSnapshot p t (js "trust") r.trust
  validateFunding t r
  validateAuction t r
  validatePod t r
  validateSettlement t r
  requireFunding t r
  requireActivation t r
  requireReceipt t r
  requireBids t r
  requireAward t r
  requireLock t r
  requirePod t r
  requireNoSettlement t r
  requireDecision t r
  requireReleased t r
  requireRefunded t r
  pure r

end Record

end RouteGuard.Store
