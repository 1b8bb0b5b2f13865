import RouteGuard.Auth.Canonical
import RouteGuard.Store.PaymentClaimStore

/-!
# Lifecycle events

An event has an action id, the time of the transition, and the fields of its type.
-/

namespace RouteGuard.Lifecycle
open JsString Auth

inductive LifecycleEventType where
  | escrowFundingConfirmed | tenderActivationPaid | biddingStarted | bidSubmissionPaid | auctionCloseConfirmed
  | noQualifiedBidConfirmed | winnerSelectionConfirmed | winningAmountAllocationConfirmed
  | routeReservationPublished | transitStarted | deliveryReported | podPackageSubmitted | podReviewStarted
  | podCorrectionRequested | podPackageResubmitted | podAcceptedByShipper | podReviewDeadlineExpired
  | podCorrectionDeadlineExpired | podRejectedToDispute | refereeResolutionRecorded | escrowReleaseConfirmed
  | escrowPartialReleaseConfirmed | escrowRefundConfirmed | tenderCompletionConfirmed | podAdvisoryAnchored
  deriving DecidableEq, Repr

def LifecycleEventType.text : LifecycleEventType → JsString
  | escrowFundingConfirmed => js "ESCROW_FUNDING_CONFIRMED"
  | tenderActivationPaid => js "TENDER_ACTIVATION_PAID"
  | biddingStarted => js "BIDDING_STARTED"
  | bidSubmissionPaid => js "BID_SUBMISSION_PAID"
  | auctionCloseConfirmed => js "AUCTION_CLOSE_CONFIRMED"
  | noQualifiedBidConfirmed => js "NO_QUALIFIED_BID_CONFIRMED"
  | winnerSelectionConfirmed => js "WINNER_SELECTION_CONFIRMED"
  | winningAmountAllocationConfirmed => js "WINNING_AMOUNT_ALLOCATION_CONFIRMED"
  | routeReservationPublished => js "ROUTE_RESERVATION_PUBLISHED"
  | transitStarted => js "TRANSIT_STARTED"
  | deliveryReported => js "DELIVERY_REPORTED"
  | podPackageSubmitted => js "POD_PACKAGE_SUBMITTED"
  | podReviewStarted => js "POD_REVIEW_STARTED"
  | podCorrectionRequested => js "POD_CORRECTION_REQUESTED"
  | podPackageResubmitted => js "POD_PACKAGE_RESUBMITTED"
  | podAcceptedByShipper => js "POD_ACCEPTED_BY_SHIPPER"
  | podReviewDeadlineExpired => js "POD_REVIEW_DEADLINE_EXPIRED"
  | podCorrectionDeadlineExpired => js "POD_CORRECTION_DEADLINE_EXPIRED"
  | podRejectedToDispute => js "POD_REJECTED_TO_DISPUTE"
  | refereeResolutionRecorded => js "REFEREE_RESOLUTION_RECORDED"
  | escrowReleaseConfirmed => js "ESCROW_RELEASE_CONFIRMED"
  | escrowPartialReleaseConfirmed => js "ESCROW_PARTIAL_RELEASE_CONFIRMED"
  | escrowRefundConfirmed => js "ESCROW_REFUND_CONFIRMED"
  | tenderCompletionConfirmed => js "TENDER_COMPLETION_CONFIRMED"
  | podAdvisoryAnchored => js "POD_ADVISORY_ANCHORED"

structure EscrowFundingConfirmed where
  fundingTxId : JsString
  tokenId : JsString
  fundedAmountAtomic : JsString
  tenderId : JsString
  tenderVersion : Int
  deriving DecidableEq, Repr

/-- The settled x402 payment of an access event. -/
structure AccessPaid where
  accessActionType : AccessActionType
  asset : JsString
  amountAtomic : JsString
  resource : JsString
  paymentTransactionId : JsString
  paymentPayloadHash : JsString
  payerAccount : JsString
  payTo : JsString
  deriving DecidableEq, Repr

structure TenderActivationPaid extends AccessPaid where
  deriving DecidableEq, Repr

structure BidSubmissionPaid extends AccessPaid where
  bidId : JsString
  carrierId : JsString
  carrierAccountId : JsString
  bidHash : JsString
  signedBidEnvelopeHash : JsString
  commitmentPayloadHash : JsString
  carrierSignature : JsString
  signedAt : JsString
  deriving DecidableEq, Repr

structure AuctionCloseConfirmed where
  auctionEndsAt : JsString
  closureProofRef : JsString
  authoritativeBidSetHash : JsString
  deriving DecidableEq, Repr

structure NoQualifiedBidConfirmed where
  decisionManifestHash : JsString
  deriving DecidableEq, Repr

structure WinnerSelectionConfirmed where
  decisionManifestHash : JsString
  winningBidId : JsString
  winningCarrierId : JsString
  winningCarrierAccount : JsString
  winningAmountAtomic : JsString
  selectionPolicy : JsString
  deriving DecidableEq, Repr

structure WinningAmountAllocationConfirmed where
  allocateTxId : JsString
  refundExcessTxId : Option JsString
  maxBudgetAtomic : JsString
  winningAmountAtomic : JsString
  excessRefundAtomic : JsString
  decisionManifestHash : JsString
  deriving DecidableEq, Repr

structure RouteReservationPublished where
  reservationEvidenceRef : JsString
  hcsPublicationRef : JsString
  deriving DecidableEq, Repr

/-- A submitted or resubmitted package. -/
structure PodPackage where
  podId : JsString
  podVersion : Int
  contentHash : JsString
  ciphertextHash : JsString
  deriving DecidableEq, Repr

structure ReviewReason where
  code : JsString
  message : JsString
  deriving DecidableEq, Repr

/-- What the shipper signs a review with. -/
structure ShipperSigned where
  shipperSignature : JsString
  signedAt : JsString
  reviewDeadlineAt : JsString
  deriving DecidableEq, Repr

structure PodCorrectionRequested extends ShipperSigned where
  reasons : List ReviewReason
  deriving DecidableEq, Repr

structure PodAcceptedByShipper extends ShipperSigned where
  deriving DecidableEq, Repr

structure PodRejectedToDispute extends ShipperSigned where
  reasons : List ReviewReason
  disputeId : JsString
  deriving DecidableEq, Repr

structure RefereeResolutionRecorded where
  disputeId : JsString
  podId : JsString
  resolution : RefereeResolution
  releaseAmountAtomic : JsString
  refundAmountAtomic : JsString
  rationaleCode : JsString
  refereeId : JsString
  refereePublicKey : Option JsString
  signature : JsString
  signedAt : JsString
  signerKind : JsString
  deriving DecidableEq, Repr

structure EscrowReleaseConfirmed where
  releaseTxId : JsString
  releaseAmountAtomic : JsString
  deriving DecidableEq, Repr

structure EscrowPartialReleaseConfirmed where
  releaseTxId : JsString
  refundTxId : JsString
  releaseAmountAtomic : JsString
  refundAmountAtomic : JsString
  deriving DecidableEq, Repr

structure EscrowRefundConfirmed where
  refundTxId : JsString
  refundAmountAtomic : JsString
  deriving DecidableEq, Repr

structure PodAdvisoryAnchored where
  reportHash : JsString
  binding : JsString
  deriving DecidableEq, Repr

/-- The fields of an event beyond those every event has, by type. -/
inductive EventBody where
  | escrowFundingConfirmed (e : EscrowFundingConfirmed)
  | tenderActivationPaid (e : TenderActivationPaid)
  | biddingStarted
  | bidSubmissionPaid (e : BidSubmissionPaid)
  | auctionCloseConfirmed (e : AuctionCloseConfirmed)
  | noQualifiedBidConfirmed (e : NoQualifiedBidConfirmed)
  | winnerSelectionConfirmed (e : WinnerSelectionConfirmed)
  | winningAmountAllocationConfirmed (e : WinningAmountAllocationConfirmed)
  | routeReservationPublished (e : RouteReservationPublished)
  | transitStarted
  | deliveryReported
  | podPackageSubmitted (e : PodPackage)
  | podReviewStarted
  | podCorrectionRequested (e : PodCorrectionRequested)
  | podPackageResubmitted (e : PodPackage)
  | podAcceptedByShipper (e : PodAcceptedByShipper)
  | podReviewDeadlineExpired
  | podCorrectionDeadlineExpired
  | podRejectedToDispute (e : PodRejectedToDispute)
  | refereeResolutionRecorded (e : RefereeResolutionRecorded)
  | escrowReleaseConfirmed (e : EscrowReleaseConfirmed)
  | escrowPartialReleaseConfirmed (e : EscrowPartialReleaseConfirmed)
  | escrowRefundConfirmed (e : EscrowRefundConfirmed)
  | tenderCompletionConfirmed
  | podAdvisoryAnchored (e : PodAdvisoryAnchored)
  deriving DecidableEq, Repr

structure LifecycleEvent where
  actionId : JsString
  eventTime : JsString
  body : EventBody
  deriving DecidableEq, Repr

def EventBody.type : EventBody → LifecycleEventType
  | .escrowFundingConfirmed _ => .escrowFundingConfirmed
  | .tenderActivationPaid _ => .tenderActivationPaid
  | .biddingStarted => .biddingStarted
  | .bidSubmissionPaid _ => .bidSubmissionPaid
  | .auctionCloseConfirmed _ => .auctionCloseConfirmed
  | .noQualifiedBidConfirmed _ => .noQualifiedBidConfirmed
  | .winnerSelectionConfirmed _ => .winnerSelectionConfirmed
  | .winningAmountAllocationConfirmed _ => .winningAmountAllocationConfirmed
  | .routeReservationPublished _ => .routeReservationPublished
  | .transitStarted => .transitStarted
  | .deliveryReported => .deliveryReported
  | .podPackageSubmitted _ => .podPackageSubmitted
  | .podReviewStarted => .podReviewStarted
  | .podCorrectionRequested _ => .podCorrectionRequested
  | .podPackageResubmitted _ => .podPackageResubmitted
  | .podAcceptedByShipper _ => .podAcceptedByShipper
  | .podReviewDeadlineExpired => .podReviewDeadlineExpired
  | .podCorrectionDeadlineExpired => .podCorrectionDeadlineExpired
  | .podRejectedToDispute _ => .podRejectedToDispute
  | .refereeResolutionRecorded _ => .refereeResolutionRecorded
  | .escrowReleaseConfirmed _ => .escrowReleaseConfirmed
  | .escrowPartialReleaseConfirmed _ => .escrowPartialReleaseConfirmed
  | .escrowRefundConfirmed _ => .escrowRefundConfirmed
  | .tenderCompletionConfirmed => .tenderCompletionConfirmed
  | .podAdvisoryAnchored _ => .podAdvisoryAnchored

def LifecycleEvent.type (event : LifecycleEvent) : LifecycleEventType := event.body.type

/-! ## Events as JSON -/

def strField (name : String) (value : JsString) : JsString × Json := (js name, .str value)

def AccessPaid.fields (e : AccessPaid) : List (JsString × Json) :=
  [strField "accessActionType" e.accessActionType.text, strField "asset" e.asset,
   strField "amountAtomic" e.amountAtomic, strField "resource" e.resource,
   strField "paymentTransactionId" e.paymentTransactionId, strField "paymentPayloadHash" e.paymentPayloadHash,
   strField "payerAccount" e.payerAccount, strField "payTo" e.payTo]

def PodPackage.fields (e : PodPackage) : List (JsString × Json) :=
  [strField "podId" e.podId, (js "podVersion", .num e.podVersion), strField "contentHash" e.contentHash,
   strField "ciphertextHash" e.ciphertextHash]

def ShipperSigned.fields (e : ShipperSigned) : List (JsString × Json) :=
  [strField "shipperSignature" e.shipperSignature, strField "signedAt" e.signedAt,
   strField "reviewDeadlineAt" e.reviewDeadlineAt]

def reasonsField (reasons : List ReviewReason) : JsString × Json :=
  (js "reasons", .arr (reasons.map fun r => .obj [strField "code" r.code, strField "message" r.message]))

def EventBody.fields : EventBody → List (JsString × Json)
  | .escrowFundingConfirmed e =>
    [strField "fundingTxId" e.fundingTxId, strField "tokenId" e.tokenId,
     strField "fundedAmountAtomic" e.fundedAmountAtomic, strField "tenderId" e.tenderId,
     (js "tenderVersion", .num e.tenderVersion)]
  | .tenderActivationPaid e => e.toAccessPaid.fields
  | .bidSubmissionPaid e =>
    e.toAccessPaid.fields ++
      [strField "bidId" e.bidId, strField "carrierId" e.carrierId,
       strField "carrierAccountId" e.carrierAccountId, strField "bidHash" e.bidHash,
       strField "signedBidEnvelopeHash" e.signedBidEnvelopeHash,
       strField "commitmentPayloadHash" e.commitmentPayloadHash,
       strField "carrierSignature" e.carrierSignature, strField "signedAt" e.signedAt]
  | .auctionCloseConfirmed e =>
    [strField "auctionEndsAt" e.auctionEndsAt, strField "closureProofRef" e.closureProofRef,
     strField "authoritativeBidSetHash" e.authoritativeBidSetHash]
  | .noQualifiedBidConfirmed e => [strField "decisionManifestHash" e.decisionManifestHash]
  | .winnerSelectionConfirmed e =>
    [strField "decisionManifestHash" e.decisionManifestHash, strField "winningBidId" e.winningBidId,
     strField "winningCarrierId" e.winningCarrierId, strField "winningCarrierAccount" e.winningCarrierAccount,
     strField "winningAmountAtomic" e.winningAmountAtomic, strField "selectionPolicy" e.selectionPolicy]
  | .winningAmountAllocationConfirmed e =>
    [strField "allocateTxId" e.allocateTxId, (js "refundExcessTxId", Json.ofOption .str e.refundExcessTxId),
     strField "maxBudgetAtomic" e.maxBudgetAtomic, strField "winningAmountAtomic" e.winningAmountAtomic,
     strField "excessRefundAtomic" e.excessRefundAtomic,
     strField "decisionManifestHash" e.decisionManifestHash]
  | .routeReservationPublished e =>
    [strField "reservationEvidenceRef" e.reservationEvidenceRef,
     strField "hcsPublicationRef" e.hcsPublicationRef]
  | .podPackageSubmitted e => e.fields
  | .podCorrectionRequested e => reasonsField e.reasons :: e.toShipperSigned.fields
  | .podPackageResubmitted e => e.fields
  | .podAcceptedByShipper e => e.toShipperSigned.fields
  | .podRejectedToDispute e =>
    reasonsField e.reasons :: strField "disputeId" e.disputeId :: e.toShipperSigned.fields
  | .refereeResolutionRecorded e =>
    [strField "disputeId" e.disputeId, strField "podId" e.podId, strField "resolution" e.resolution.text,
     strField "releaseAmountAtomic" e.releaseAmountAtomic, strField "refundAmountAtomic" e.refundAmountAtomic,
     strField "rationaleCode" e.rationaleCode, strField "refereeId" e.refereeId,
     strField "signature" e.signature, strField "signedAt" e.signedAt, strField "signerKind" e.signerKind] ++
      (e.refereePublicKey.map (strField "refereePublicKey")).toList
  | .escrowReleaseConfirmed e =>
    [strField "releaseTxId" e.releaseTxId, strField "releaseAmountAtomic" e.releaseAmountAtomic]
  | .escrowPartialReleaseConfirmed e =>
    [strField "releaseTxId" e.releaseTxId, strField "refundTxId" e.refundTxId,
     strField "releaseAmountAtomic" e.releaseAmountAtomic, strField "refundAmountAtomic" e.refundAmountAtomic]
  | .escrowRefundConfirmed e =>
    [strField "refundTxId" e.refundTxId, strField "refundAmountAtomic" e.refundAmountAtomic]
  | .podAdvisoryAnchored e => [strField "reportHash" e.reportHash, strField "binding" e.binding]
  | .biddingStarted | .transitStarted | .deliveryReported | .podReviewStarted | .podReviewDeadlineExpired
  | .podCorrectionDeadlineExpired | .tenderCompletionConfirmed => []

def LifecycleEvent.toJson (event : LifecycleEvent) : Json :=
  .obj (strField "type" event.type.text :: strField "actionId" event.actionId ::
    strField "eventTime" event.eventTime :: event.body.fields)

end RouteGuard.Lifecycle
