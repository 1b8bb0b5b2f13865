import RouteGuard.Access.Fee
import RouteGuard.Domain.PaymentOption
import RouteGuard.Domain.Signature
import RouteGuard.Lifecycle.Deadlines

/-!
# Carrier bids

The private body of a bid and its salted hashes. `parseV2CarrierBid` changes nothing: it accepts a bid as it is, or
throws.
-/

namespace RouteGuard
open JsString Json Access Lifecycle

structure V2CarrierBid where
  bidId : JsString
  tenderId : JsString
  tenderVersion : Int
  carrierId : JsString
  carrierAccountId : JsString
  freightAmountAtomic : JsString
  equipment : JsString
  proposedPickupAt : JsString
  estimatedDelivery : JsString
  capacityConfirmed : Bool
  bidValidUntil : JsString
  commitmentSalt : JsString
  nonce : JsString
  version : Int
  deriving DecidableEq, Repr

structure SignedV2CarrierBid where
  bid : V2CarrierBid
  signature : JsString
  deriving DecidableEq, Repr

/-- `BoundedId` and the other strings of 1 to `max` characters. -/
def bounded (max : Nat) (value : JsString) : Bool := 1 ≤ value.length && value.length ≤ max

def isSafePositiveInteger (value : Int) : Bool := 1 ≤ value && value ≤ MAX_SAFE_INTEGER

/-- `COMMITMENT_SALT_RE`. -/
def isCommitmentSalt (value : JsString) : Bool := value.length = 64 && value.all isLowerHex

/-- The checks of `V2CarrierBidSchema`; the two delivery times are compared as strings. -/
def V2CarrierBid.valid (b : V2CarrierBid) : Bool :=
  bounded 128 b.bidId && bounded 128 b.tenderId && isSafePositiveInteger b.tenderVersion && bounded 128 b.carrierId &&
    (bounded 64 b.carrierAccountId && isValidHederaAccountId b.carrierAccountId) &&
    isPositiveAtomicString b.freightAmountAtomic && bounded 128 b.equipment && isUtcIsoTimestamp b.proposedPickupAt &&
    isUtcIsoTimestamp b.estimatedDelivery && isUtcIsoTimestamp b.bidValidUntil && isCommitmentSalt b.commitmentSalt &&
    bounded 128 b.nonce && isSafePositiveInteger b.version && !(b.estimatedDelivery < b.proposedPickupAt : Bool)

/-- The bid, or nothing where the schema throws. -/
def parseV2CarrierBid (bid : V2CarrierBid) : Option V2CarrierBid := if bid.valid then some bid else none

def V2CarrierBid.toJson (b : V2CarrierBid) : Json :=
  .obj
    [(js "bidId", .str b.bidId), (js "tenderId", .str b.tenderId), (js "tenderVersion", .num b.tenderVersion),
     (js "carrierId", .str b.carrierId), (js "carrierAccountId", .str b.carrierAccountId),
     (js "freightAmountAtomic", .str b.freightAmountAtomic), (js "equipment", .str b.equipment),
     (js "proposedPickupAt", .str b.proposedPickupAt), (js "estimatedDelivery", .str b.estimatedDelivery),
     (js "capacityConfirmed", .bool b.capacityConfirmed), (js "bidValidUntil", .str b.bidValidUntil),
     (js "commitmentSalt", .str b.commitmentSalt), (js "nonce", .str b.nonce), (js "version", .num b.version)]

section Hashes
variable (p : Platform)

/-- The salted commitment of a bid. -/
def v2BidHash (bid : V2CarrierBid) : Option JsString :=
  (parseV2CarrierBid bid).map fun bid => canonicalSha256 p.sha256Hex bid.toJson

def signedV2BidEnvelopeHash (signed : SignedV2CarrierBid) : Option JsString :=
  (parseV2CarrierBid signed.bid).map fun bid =>
    canonicalSha256 p.sha256Hex (.obj [(js "bid", bid.toJson), (js "signature", .str signed.signature)])

end Hashes

end RouteGuard
