import RouteGuard.Lib.JsString

/-!
# States of a tender

* `V2LifecycleState` : the states and their texts;
* `LEGAL` : the edges of the transition graph;
* `LifecycleError` : what the lifecycle throws.
-/

namespace RouteGuard.Lifecycle
open JsString

inductive V2LifecycleState where
  | draft | escrowFunded | tenderOpened | bidding | auctionClosed | noQualifiedBid | winnerSelected
  | winningAmountLocked | routeReserved | inTransit | deliveryReported | podSubmitted | podUnderReview
  | podCorrectionRequested | podResubmitted | podAccepted | podDeemedAccepted | podDisputed | refereeDecision
  | paymentReleased | partialRelease | refunded | tenderCompleted
  deriving DecidableEq, Repr

namespace V2LifecycleState

def text : V2LifecycleState → JsString
  | draft => js "DRAFT"
  | escrowFunded => js "ESCROW_FUNDED"
  | tenderOpened => js "TENDER_OPENED"
  | bidding => js "BIDDING"
  | auctionClosed => js "AUCTION_CLOSED"
  | noQualifiedBid => js "NO_QUALIFIED_BID"
  | winnerSelected => js "WINNER_SELECTED"
  | winningAmountLocked => js "WINNING_AMOUNT_LOCKED"
  | routeReserved => js "ROUTE_RESERVED"
  | inTransit => js "IN_TRANSIT"
  | deliveryReported => js "DELIVERY_REPORTED"
  | podSubmitted => js "POD_SUBMITTED"
  | podUnderReview => js "POD_UNDER_REVIEW"
  | podCorrectionRequested => js "POD_CORRECTION_REQUESTED"
  | podResubmitted => js "POD_RESUBMITTED"
  | podAccepted => js "POD_ACCEPTED"
  | podDeemedAccepted => js "POD_DEEMED_ACCEPTED"
  | podDisputed => js "POD_DISPUTED"
  | refereeDecision => js "REFEREE_DECISION"
  | paymentReleased => js "PAYMENT_RELEASED"
  | partialRelease => js "PARTIAL_RELEASE"
  | refunded => js "REFUNDED"
  | tenderCompleted => js "TENDER_COMPLETED"

end V2LifecycleState

open V2LifecycleState

/-- The legal successors of a state. -/
def LEGAL : V2LifecycleState → List V2LifecycleState
  | draft => [escrowFunded]
  | escrowFunded => [tenderOpened]
  | tenderOpened => [bidding]
  | bidding => [auctionClosed]
  | auctionClosed => [winnerSelected, noQualifiedBid]
  | noQualifiedBid => [refunded]
  | winnerSelected => [winningAmountLocked]
  | winningAmountLocked => [routeReserved]
  | routeReserved => [inTransit]
  | inTransit => [deliveryReported]
  | deliveryReported => [podSubmitted]
  | podSubmitted => [podUnderReview]
  | podUnderReview => [podCorrectionRequested, podAccepted, podDeemedAccepted, podDisputed]
  | podCorrectionRequested => [podResubmitted, podDisputed]
  | podResubmitted => [podUnderReview]
  | podAccepted => [paymentReleased]
  | podDeemedAccepted => [paymentReleased]
  | podDisputed => [refereeDecision]
  | refereeDecision => [paymentReleased, partialRelease, refunded]
  | paymentReleased => [tenderCompleted]
  | partialRelease => [tenderCompleted]
  | refunded => [tenderCompleted]
  | tenderCompleted => []

/-- The errors of the reducer. -/
inductive LifecycleError where
  /-- `IllegalLifecycleTransitionError`. -/
  | illegalTransition (source target : V2LifecycleState)
  /-- `LifecycleGuardError`. -/
  | guardFailed (code message : JsString)
  /-- An `Error` of a function the reducer calls. -/
  | failed (message : JsString)
  deriving DecidableEq, Repr

end RouteGuard.Lifecycle
