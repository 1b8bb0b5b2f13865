import RouteGuard.Lib.Json

/-!
# Signing payloads

What the shipper, the referees and the carriers sign. Every payload carries the protocol version and its
purpose as constants.
-/

namespace RouteGuard.Auth
open JsString

def AUTH_PROTOCOL_VERSION : JsString := js "routeguard-v2-auth-1.0"

def SHIPPER_POD_REVIEW_PURPOSE : JsString := js "ROUTEGUARD_V2_SHIPPER_POD_REVIEW"

def REFEREE_RESOLUTION_PURPOSE : JsString := js "ROUTEGUARD_V2_REFEREE_RESOLUTION"

def CARRIER_BID_PURPOSE : JsString := js "ROUTEGUARD_V2_CARRIER_BID"

def CARRIER_POD_SUBMISSION_PURPOSE : JsString := js "ROUTEGUARD_V2_POD_SUBMISSION"

inductive ShipperReviewActionKind where
  | accept | requestCorrection | rejectDispute
  deriving DecidableEq, Repr

def ShipperReviewActionKind.text : ShipperReviewActionKind → JsString
  | .accept => js "ACCEPT"
  | .requestCorrection => js "REQUEST_CORRECTION"
  | .rejectDispute => js "REJECT_DISPUTE"

inductive RefereeResolution where
  | releaseFull | refundFull | partialSplit
  deriving DecidableEq, Repr

def RefereeResolution.text : RefereeResolution → JsString
  | .releaseFull => js "RELEASE_FULL"
  | .refundFull => js "REFUND_FULL"
  | .partialSplit => js "PARTIAL"

structure ShipperPodReviewSignPayload where
  tenderId : JsString
  tenderVersion : Int
  podId : JsString
  reviewAction : ShipperReviewActionKind
  reasonCodes : List JsString
  signedAt : JsString
  reviewDeadlineAt : JsString
  actionId : JsString
  deriving DecidableEq, Repr

structure RefereeResolutionSignPayload where
  tenderId : JsString
  tenderVersion : Int
  podId : JsString
  disputeId : JsString
  resolution : RefereeResolution
  releaseAmountAtomic : JsString
  refundAmountAtomic : JsString
  rationaleCode : JsString
  refereeId : JsString
  signedAt : JsString
  actionId : JsString
  deriving DecidableEq, Repr

structure CarrierBidSignPayload where
  tenderId : JsString
  tenderVersion : Int
  bidId : JsString
  carrierId : JsString
  carrierAccountId : JsString
  bidHash : JsString
  signedAt : JsString
  actionId : JsString
  deriving DecidableEq, Repr

structure CarrierPodSubmissionSignPayload where
  podId : JsString
  podVersion : Int
  tenderId : JsString
  tenderVersion : Int
  winningBidId : JsString
  escrowTenderKey : JsString
  carrierId : JsString
  carrierAccountId : JsString
  deliveryTimestamp : JsString
  manifestHash : JsString
  packageContentHash : JsString
  submittedAt : JsString
  actionId : JsString
  deriving DecidableEq, Repr

def ShipperPodReviewSignPayload.toJson (s : ShipperPodReviewSignPayload) : Json :=
  .obj
    [(js "protocolVersion", .str AUTH_PROTOCOL_VERSION), (js "purpose", .str SHIPPER_POD_REVIEW_PURPOSE),
     (js "tenderId", .str s.tenderId), (js "tenderVersion", .num s.tenderVersion), (js "podId", .str s.podId),
     (js "reviewAction", .str s.reviewAction.text), (js "reasonCodes", .arr (s.reasonCodes.map .str)),
     (js "signedAt", .str s.signedAt), (js "reviewDeadlineAt", .str s.reviewDeadlineAt),
     (js "actionId", .str s.actionId)]

def RefereeResolutionSignPayload.toJson (s : RefereeResolutionSignPayload) : Json :=
  .obj
    [(js "protocolVersion", .str AUTH_PROTOCOL_VERSION), (js "purpose", .str REFEREE_RESOLUTION_PURPOSE),
     (js "tenderId", .str s.tenderId), (js "tenderVersion", .num s.tenderVersion), (js "podId", .str s.podId),
     (js "disputeId", .str s.disputeId), (js "resolution", .str s.resolution.text),
     (js "releaseAmountAtomic", .str s.releaseAmountAtomic),
     (js "refundAmountAtomic", .str s.refundAmountAtomic), (js "rationaleCode", .str s.rationaleCode),
     (js "refereeId", .str s.refereeId), (js "signedAt", .str s.signedAt), (js "actionId", .str s.actionId)]

def CarrierBidSignPayload.toJson (s : CarrierBidSignPayload) : Json :=
  .obj
    [(js "protocolVersion", .str AUTH_PROTOCOL_VERSION), (js "purpose", .str CARRIER_BID_PURPOSE),
     (js "tenderId", .str s.tenderId), (js "tenderVersion", .num s.tenderVersion), (js "bidId", .str s.bidId),
     (js "carrierId", .str s.carrierId), (js "carrierAccountId", .str s.carrierAccountId),
     (js "bidHash", .str s.bidHash), (js "signedAt", .str s.signedAt), (js "actionId", .str s.actionId)]

def CarrierPodSubmissionSignPayload.toJson (s : CarrierPodSubmissionSignPayload) : Json :=
  .obj
    [(js "protocolVersion", .str AUTH_PROTOCOL_VERSION), (js "purpose", .str CARRIER_POD_SUBMISSION_PURPOSE),
     (js "podId", .str s.podId), (js "podVersion", .num s.podVersion), (js "tenderId", .str s.tenderId),
     (js "tenderVersion", .num s.tenderVersion), (js "winningBidId", .str s.winningBidId),
     (js "escrowTenderKey", .str s.escrowTenderKey), (js "carrierId", .str s.carrierId),
     (js "carrierAccountId", .str s.carrierAccountId), (js "deliveryTimestamp", .str s.deliveryTimestamp),
     (js "manifestHash", .str s.manifestHash), (js "packageContentHash", .str s.packageContentHash),
     (js "submittedAt", .str s.submittedAt), (js "actionId", .str s.actionId)]

end RouteGuard.Auth
