import RouteGuard.Access.Fee
import RouteGuard.Lib.PlainObject
import RouteGuard.Lifecycle.Events
import RouteGuard.Lifecycle.States
import RouteGuard.Trust.Policy

/-!
# The lifecycle record

The durable record of one tender. Its fields are grouped as the source groups them: what is fixed when
the tender is created, what every event moves, and the fields of funding, auction, proof of delivery and
settlement. Amounts are decimal strings; a field that is not set yet is `none`.
-/

namespace RouteGuard.Lifecycle
open JsString Guarded Trust Access

structure LifecycleTransitionRecord where
  source : V2LifecycleState
  target : V2LifecycleState
  eventType : LifecycleEventType
  actionId : JsString
  at_ : JsString
  reason : Option JsString
  deriving DecidableEq, Repr

structure ProcessedActionRecord where
  actionId : JsString
  eventType : LifecycleEventType
  eventPayloadHash : JsString
  resultingState : V2LifecycleState
  recordVersionAfter : Int
  at_ : JsString
  deriving DecidableEq, Repr

/-- The receipt of the activation payment; its `accessActionType` is `TENDER_ACTIVATE`. -/
structure LifecycleAccessReceipt where
  asset : JsString
  amountAtomic : JsString
  resource : JsString
  payTo : JsString
  payerAccount : JsString
  paymentTransactionId : JsString
  paymentPayloadHash : JsString
  paidAt : JsString
  deriving DecidableEq, Repr

structure LifecycleAccessPayment where
  accessActionType : AccessActionType
  actionId : JsString
  bidId : Option JsString
  asset : JsString
  amountAtomic : JsString
  resource : JsString
  payTo : JsString
  payerAccount : JsString
  paymentTransactionId : JsString
  paymentPayloadHash : JsString
  settledAt : JsString
  deriving DecidableEq, Repr

structure LifecycleBidEntry where
  bidId : JsString
  carrierId : JsString
  carrierAccountId : JsString
  bidHash : JsString
  signedBidEnvelopeHash : JsString
  commitmentPayloadHash : JsString
  carrierKeyFingerprint : JsString
  bidAuthPayloadHash : JsString
  accessPaymentTxId : JsString
  actionId : JsString
  acceptedAt : JsString
  deriving DecidableEq, Repr

/-- What is fixed at creation. -/
structure TenderBinding where
  tenderId : JsString
  tenderVersion : Int
  tenderHash : JsString
  maximumFreightBudgetAtomic : JsString
  auctionEndsAt : JsString
  createdAt : JsString
  trust : TrustPolicySnapshot
  deriving DecidableEq

/-- What every event moves. -/
structure Progress where
  state : V2LifecycleState
  recordVersion : Int
  updatedAt : JsString
  lastActionId : Option JsString
  history : List LifecycleTransitionRecord
  processedActions : PlainObject ProcessedActionRecord
  deriving DecidableEq

structure FundingFields where
  fundingTxId : Option JsString
  fundedAmountAtomic : Option JsString
  activationPaymentTxId : Option JsString
  accessReceipt : Option LifecycleAccessReceipt
  accessPayments : List LifecycleAccessPayment
  bidRegistry : List LifecycleBidEntry
  deriving DecidableEq

structure AuctionFields where
  closureProofRef : Option JsString
  authoritativeBidSetHash : Option JsString
  decisionManifestHash : Option JsString
  winningBidId : Option JsString
  winningCarrierId : Option JsString
  winningCarrierAccount : Option JsString
  winningAmountAtomic : Option JsString
  lockedAmountAtomic : Option JsString
  excessRefundAtomic : Option JsString
  allocateTxId : Option JsString
  refundExcessTxId : Option JsString
  reservationEvidenceRef : Option JsString
  deriving DecidableEq

structure PodFields where
  podId : Option JsString
  podVersion : Option Int
  podContentHash : Option JsString
  podCiphertextHash : Option JsString
  reviewStartedAt : Option JsString
  reviewDeadlineAt : Option JsString
  correctionDeadlineAt : Option JsString
  shipperActionTaken : Bool
  advisoryReportHash : Option JsString
  disputeId : Option JsString
  lastShipperAuthPayloadHash : Option JsString
  lastShipperKeyFingerprint : Option JsString
  deriving DecidableEq

structure SettlementFields where
  refereeResolution : Option JsString
  releaseAmountAtomic : Option JsString
  refundAmountAtomic : Option JsString
  resolutionPayloadHash : Option JsString
  refereeId : Option JsString
  refereeKeyFingerprint : Option JsString
  releaseTxId : Option JsString
  refundTxId : Option JsString
  deriving DecidableEq

structure LifecycleRecord extends TenderBinding, Progress, FundingFields, AuctionFields, PodFields,
    SettlementFields where
  deriving DecidableEq

structure CreateLifecycleInput where
  tenderId : JsString
  tenderVersion : Int
  tenderHash : JsString
  maximumFreightBudgetAtomic : JsString
  auctionEndsAt : JsString
  createdAt : JsString
  trust : TrustPolicy
  deriving DecidableEq

def createLifecycleRecord (p : Platform) (input : CreateLifecycleInput) : Except JsString LifecycleRecord := do
  require (isPositiveAtomicString input.maximumFreightBudgetAtomic)
    (js "must be a positive integer string (atomic USDC units; no floats, signs, or exponents)")
  pure
    { tenderId := input.tenderId
      tenderVersion := input.tenderVersion
      tenderHash := input.tenderHash
      maximumFreightBudgetAtomic := input.maximumFreightBudgetAtomic
      auctionEndsAt := input.auctionEndsAt
      createdAt := input.createdAt
      trust := snapshotTrustPolicy p input.trust
      state := .draft
      recordVersion := 1
      updatedAt := input.createdAt
      lastActionId := none
      history := []
      processedActions := ∅
      fundingTxId := none
      fundedAmountAtomic := none
      activationPaymentTxId := none
      accessReceipt := none
      accessPayments := []
      bidRegistry := []
      closureProofRef := none
      authoritativeBidSetHash := none
      decisionManifestHash := none
      winningBidId := none
      winningCarrierId := none
      winningCarrierAccount := none
      winningAmountAtomic := none
      lockedAmountAtomic := none
      excessRefundAtomic := none
      allocateTxId := none
      refundExcessTxId := none
      reservationEvidenceRef := none
      podId := none
      podVersion := none
      podContentHash := none
      podCiphertextHash := none
      reviewStartedAt := none
      reviewDeadlineAt := none
      correctionDeadlineAt := none
      shipperActionTaken := false
      advisoryReportHash := none
      disputeId := none
      lastShipperAuthPayloadHash := none
      lastShipperKeyFingerprint := none
      refereeResolution := none
      releaseAmountAtomic := none
      refundAmountAtomic := none
      resolutionPayloadHash := none
      refereeId := none
      refereeKeyFingerprint := none
      releaseTxId := none
      refundTxId := none }

/-- The policy that signatures are verified under. -/
def trustPolicyFromRecord (record : LifecycleRecord) : TrustPolicy := record.trust.toTrustPolicy

end RouteGuard.Lifecycle
