import RouteGuard.Hcs.Envelope
import RouteGuard.Lib.Sorting
import RouteGuard.Schemas.Tender

/-!
# Auction evidence

What an auction is decided on: the tender, the commitments read from the topic, and the bids, receipts and carrier
records that are held against them. Submitted evidence is a JSON value until its schema accepts it; a schema drops the
fields it does not name.
-/

namespace RouteGuard.Auction
open JsString Json Guarded Access Lifecycle Store

def isAfterUtc (a b : JsString) : Except JsString Bool := do
  let c ← compareUtc a b
  pure (c > 0)

theorem isBeforeUtc_eq_ok {a b : JsString} {r : Bool} :
    isBeforeUtc a b = .ok r ↔ ∃ x y, instant a = some x ∧ instant b = some y ∧ (x < y ↔ r) :=
  compareUtc_test_eq_ok fun x y => by split_ifs <;> omega

theorem isAfterUtc_eq_ok {a b : JsString} {r : Bool} :
    isAfterUtc a b = .ok r ↔ ∃ x y, instant a = some x ∧ instant b = some y ∧ (y < x ↔ r) :=
  compareUtc_test_eq_ok fun x y => by split_ifs <;> omega

/-! ## Schemas

A schema reads field after field and checks what it has read. -/

section Schema
variable {α β : Type}

/-- What is read passes the check. -/
def Ensures (check : β → Bool) (x : Option β) : Prop := ∀ b, x = some b → check b = true

theorem Ensures.bind {check : β → Bool} {x : Option α} {f : α → Option β} (h : ∀ a, Ensures check (f a)) :
    Ensures check (x >>= f) := by
  intro b hb
  obtain ⟨a, -, ha⟩ := Option.bind_eq_some_iff.mp hb
  exact h a b ha

theorem Ensures.guard {check : β → Bool} {a : β} : Ensures check (if check a then some a else none) := by
  intro b h
  split at h
  next hc => rwa [← Option.some.inj h]
  next => exact absurd h (by simp)

end Schema

/-! ## Commitments -/

structure CommitmentEvidence where
  tenderId : JsString
  bidId : JsString
  carrierId : JsString
  bidHash : JsString
  acceptanceReceiptHash : JsString
  bidVersion : Int
  hcsSequence : Int
  consensusTimestamp : JsString
  deriving DecidableEq, Repr

namespace CommitmentEvidence

def valid (c : CommitmentEvidence) : Bool :=
  bounded 128 c.tenderId && bounded 128 c.bidId && bounded 128 c.carrierId && isSha256 c.bidHash &&
    isSha256 c.acceptanceReceiptHash && isSafePositiveInteger c.bidVersion && isSafePositiveInteger c.hcsSequence &&
    isUtcIsoTimestamp c.consensusTimestamp

def fields (c : CommitmentEvidence) : List (JsString × Json) :=
  [(js "tenderId", .str c.tenderId), (js "bidId", .str c.bidId), (js "carrierId", .str c.carrierId),
   (js "bidHash", .str c.bidHash), (js "acceptanceReceiptHash", .str c.acceptanceReceiptHash),
   (js "bidVersion", .num c.bidVersion), (js "hcsSequence", .num c.hcsSequence),
   (js "consensusTimestamp", .str c.consensusTimestamp)]

end CommitmentEvidence

def parseCommitmentEvidence (input : Json) : Option CommitmentEvidence := do
  let fields ← asObj input
  let tenderId ← readStr fields (js "tenderId")
  let bidId ← readStr fields (js "bidId")
  let carrierId ← readStr fields (js "carrierId")
  let bidHash ← readStr fields (js "bidHash")
  let acceptanceReceiptHash ← readStr fields (js "acceptanceReceiptHash")
  let bidVersion ← readNum fields (js "bidVersion")
  let hcsSequence ← readNum fields (js "hcsSequence")
  let consensusTimestamp ← readStr fields (js "consensusTimestamp")
  let c : CommitmentEvidence :=
    { tenderId, bidId, carrierId, bidHash, acceptanceReceiptHash, bidVersion, hcsSequence, consensusTimestamp }
  if c.valid then some c else none

/-- A parsed commitment is parsed again as itself. -/
theorem parseCommitmentEvidence_fields (c : CommitmentEvidence) :
    parseCommitmentEvidence (.obj c.fields) = if c.valid then some c else none := by
  rfl

theorem valid_of_parseCommitmentEvidence {input : Json} {c : CommitmentEvidence}
    (h : parseCommitmentEvidence input = some c) : c.valid = true := by
  refine (?_ : Ensures CommitmentEvidence.valid (parseCommitmentEvidence input)) _ h
  unfold parseCommitmentEvidence
  repeat refine Ensures.bind fun _ => ?_
  exact Ensures.guard

/-- Equality at the deadline is timely. -/
def isCommitmentTimely (consensusTimestamp auctionEndsAt : JsString) : Except JsString Bool :=
  isBeforeOrEqualUtc consensusTimestamp auctionEndsAt

/-! ## Bids -/

def USDC_TESTNET_ASSET : JsString := js "0.0.429274"

def HBAR_ASSET : JsString := js "0.0.0"

structure PaymentOption where
  optionId : Reservation.ReservationOptionId
  asset : JsString
  amountAtomic : JsString
  payTo : JsString
  deriving DecidableEq, Repr

/-- The asset that an option must name. -/
def assetOf : Reservation.ReservationOptionId → JsString
  | .usdc => USDC_TESTNET_ASSET
  | .hbar => HBAR_ASSET

def PaymentOption.valid (o : PaymentOption) : Bool :=
  o.asset = assetOf o.optionId && isPositiveAtomicString o.amountAtomic && isValidHederaAccountId o.payTo

def PaymentOption.toJson (o : PaymentOption) : Json :=
  .obj
    [(js "optionId", .str o.optionId.text), (js "scheme", .str (js "exact")), (js "network", .str (js "hedera:testnet")),
     (js "asset", .str o.asset), (js "amountAtomic", .str o.amountAtomic), (js "payTo", .str o.payTo)]

def parsePaymentOption (input : Json) : Option PaymentOption := do
  let fields ← asObj input
  let optionId ← (readStr fields (js "optionId")).bind Hcs.readOptionId
  readConstant fields (js "scheme") (js "exact")
  readConstant fields (js "network") (js "hedera:testnet")
  let asset ← readStr fields (js "asset")
  let amountAtomic ← readStr fields (js "amountAtomic")
  let payTo ← readStr fields (js "payTo")
  let option : PaymentOption := { optionId, asset, amountAtomic, payTo }
  if option.valid then some option else none

/-- At least one option, and none twice by its id or by its asset. -/
def validOptionSet (options : List PaymentOption) : Bool :=
  !options.isEmpty && options.all PaymentOption.valid && decide (options.map PaymentOption.optionId).Nodup &&
    decide (options.map PaymentOption.asset).Nodup

def parsePaymentOptionSet (input : List Json) : Option (List PaymentOption) := do
  let options ← input.mapM parsePaymentOption
  if validOptionSet options then some options else none

def assertPaymentRecipientsMatch (options : List PaymentOption) (carrierAccountId : JsString) : Bool :=
  options.all fun option => option.payTo = carrierAccountId

structure CarrierBid where
  bidId : JsString
  tenderId : JsString
  carrierId : JsString
  carrierAccountId : JsString
  freightPriceCents : Int
  equipment : JsString
  proposedPickupAt : JsString
  estimatedDelivery : JsString
  capacityConfirmed : Bool
  bidValidUntil : JsString
  reservationPaymentOptions : List PaymentOption
  commitmentSalt : JsString
  nonce : JsString
  version : Int
  deriving DecidableEq, Repr

namespace CarrierBid

def valid (b : CarrierBid) : Bool :=
  bounded 128 b.bidId && bounded 128 b.tenderId && bounded 128 b.carrierId && bounded 64 b.carrierAccountId &&
    bounded 128 b.equipment && bounded 128 b.nonce && isValidHederaAccountId b.carrierAccountId &&
    isSafePositiveInteger b.freightPriceCents && isSafePositiveInteger b.version &&
    isUtcIsoTimestamp b.proposedPickupAt && isUtcIsoTimestamp b.estimatedDelivery && isUtcIsoTimestamp b.bidValidUntil &&
    isCommitmentSalt b.commitmentSalt && validOptionSet b.reservationPaymentOptions

def toJson (b : CarrierBid) : Json :=
  .obj
    [(js "bidId", .str b.bidId), (js "tenderId", .str b.tenderId), (js "carrierId", .str b.carrierId),
     (js "carrierAccountId", .str b.carrierAccountId), (js "freightPriceCents", .num b.freightPriceCents),
     (js "equipment", .str b.equipment), (js "proposedPickupAt", .str b.proposedPickupAt),
     (js "estimatedDelivery", .str b.estimatedDelivery), (js "capacityConfirmed", .bool b.capacityConfirmed),
     (js "bidValidUntil", .str b.bidValidUntil),
     (js "reservationPaymentOptions", .arr (b.reservationPaymentOptions.map PaymentOption.toJson)),
     (js "commitmentSalt", .str b.commitmentSalt), (js "nonce", .str b.nonce), (js "version", .num b.version)]

end CarrierBid

def parseCarrierBid (input : Json) : Option CarrierBid := do
  let fields ← asObj input
  let bidId ← readStr fields (js "bidId")
  let tenderId ← readStr fields (js "tenderId")
  let carrierId ← readStr fields (js "carrierId")
  let carrierAccountId ← readStr fields (js "carrierAccountId")
  let freightPriceCents ← readNum fields (js "freightPriceCents")
  let equipment ← readStr fields (js "equipment")
  let proposedPickupAt ← readStr fields (js "proposedPickupAt")
  let estimatedDelivery ← readStr fields (js "estimatedDelivery")
  let capacityConfirmed ← readBool fields (js "capacityConfirmed")
  let bidValidUntil ← readStr fields (js "bidValidUntil")
  let reservationPaymentOptions ← (readArr fields (js "reservationPaymentOptions")).bind parsePaymentOptionSet
  let commitmentSalt ← readStr fields (js "commitmentSalt")
  let nonce ← readStr fields (js "nonce")
  let version ← readNum fields (js "version")
  let bid : CarrierBid :=
    { bidId, tenderId, carrierId, carrierAccountId, freightPriceCents, equipment, proposedPickupAt, estimatedDelivery,
      capacityConfirmed, bidValidUntil, reservationPaymentOptions, commitmentSalt, nonce, version }
  if bid.valid then some bid else none

theorem valid_of_parseCarrierBid {input : Json} {bid : CarrierBid} (h : parseCarrierBid input = some bid) :
    bid.valid = true := by
  refine (?_ : Ensures CarrierBid.valid (parseCarrierBid input)) _ h
  unfold parseCarrierBid
  repeat refine Ensures.bind fun _ => ?_
  exact Ensures.guard

/-! ## Receipts -/

structure AcceptanceReceiptBody where
  receiptId : JsString
  tenderId : JsString
  bidId : JsString
  bidHash : JsString
  acceptedAt : JsString
  version : Int
  deriving DecidableEq, Repr

namespace AcceptanceReceiptBody

def valid (r : AcceptanceReceiptBody) : Bool :=
  bounded 128 r.receiptId && bounded 128 r.tenderId && bounded 128 r.bidId && isSha256 r.bidHash &&
    isUtcIsoTimestamp r.acceptedAt && isSafePositiveInteger r.version

def toJson (r : AcceptanceReceiptBody) : Json :=
  .obj
    [(js "receiptId", .str r.receiptId), (js "tenderId", .str r.tenderId), (js "bidId", .str r.bidId),
     (js "bidHash", .str r.bidHash), (js "acceptedAt", .str r.acceptedAt), (js "version", .num r.version)]

end AcceptanceReceiptBody

def parseAcceptanceReceiptBody (input : Json) : Option AcceptanceReceiptBody := do
  let fields ← asObj input
  let receiptId ← readStr fields (js "receiptId")
  let tenderId ← readStr fields (js "tenderId")
  let bidId ← readStr fields (js "bidId")
  let bidHash ← readStr fields (js "bidHash")
  let acceptedAt ← readStr fields (js "acceptedAt")
  let version ← readNum fields (js "version")
  let receipt : AcceptanceReceiptBody := { receiptId, tenderId, bidId, bidHash, acceptedAt, version }
  if receipt.valid then some receipt else none

theorem parseAcceptanceReceiptBody_toJson (r : AcceptanceReceiptBody) :
    parseAcceptanceReceiptBody r.toJson = if r.valid then some r else none := by
  rfl

theorem valid_of_parseAcceptanceReceiptBody {input : Json} {receipt : AcceptanceReceiptBody}
    (h : parseAcceptanceReceiptBody input = some receipt) : receipt.valid = true := by
  refine (?_ : Ensures AcceptanceReceiptBody.valid (parseAcceptanceReceiptBody input)) _ h
  unfold parseAcceptanceReceiptBody
  repeat refine Ensures.bind fun _ => ?_
  exact Ensures.guard

def receiptMatchesBid (receipt : AcceptanceReceiptBody) (bidId tenderId expectedBidHash : JsString) : Bool :=
  receipt.bidId = bidId && receipt.tenderId = tenderId && receipt.bidHash = expectedBidHash

/-! ## Carriers -/

/-- What the auction reads of a carrier's record. -/
structure CarrierRecord where
  carrierId : JsString
  carrierAccountId : JsString
  signingPublicKey : JsString
  active : Bool
  allowedEquipment : List JsString
  deriving DecidableEq, Repr

/-- `getById`. -/
abbrev CarrierRegistry := JsString → Option CarrierRecord

/-! ## The tender -/

structure FreightTender where
  tenderId : JsString
  shipperId : JsString
  origin : JsString
  destination : JsString
  cargo : Cargo
  requiredEquipment : JsString
  pickupWindow : PickupWindow
  deliveryDeadline : JsString
  auctionEndsAt : JsString
  maximumFreightPriceCents : Int
  version : Int
  deriving DecidableEq, Repr

namespace FreightTender

def valid (t : FreightTender) : Bool :=
  bounded 128 t.tenderId && bounded 128 t.shipperId && bounded 256 t.origin && bounded 256 t.destination &&
    bounded 128 t.cargo.type && bounded 128 t.requiredEquipment && isUtcIsoTimestamp t.pickupWindow.earliest &&
    isUtcIsoTimestamp t.pickupWindow.latest && isUtcIsoTimestamp t.deliveryDeadline && isUtcIsoTimestamp t.auctionEndsAt &&
    !outOfOrder isBeforeOrEqualUtc t.pickupWindow.earliest t.pickupWindow.latest &&
    !outOfOrder isBeforeOrEqualUtc t.pickupWindow.latest t.deliveryDeadline &&
    !outOfOrder isBeforeUtc t.auctionEndsAt t.pickupWindow.earliest && isSafePositiveInteger t.maximumFreightPriceCents &&
    isSafePositiveInteger t.version && isSafePositiveInteger t.cargo.weightKg && isSafePositiveInteger t.cargo.pallets

def toJson (t : FreightTender) : Json :=
  .obj
    [(js "tenderId", .str t.tenderId), (js "shipperId", .str t.shipperId), (js "origin", .str t.origin),
     (js "destination", .str t.destination),
     (js "cargo", .obj
       [(js "type", .str t.cargo.type), (js "weightKg", .num t.cargo.weightKg), (js "pallets", .num t.cargo.pallets),
        (js "dangerousGoods", .bool t.cargo.dangerousGoods)]),
     (js "requiredEquipment", .str t.requiredEquipment),
     (js "pickupWindow", .obj
       [(js "earliest", .str t.pickupWindow.earliest), (js "latest", .str t.pickupWindow.latest)]),
     (js "deliveryDeadline", .str t.deliveryDeadline), (js "auctionEndsAt", .str t.auctionEndsAt),
     (js "maximumFreightPriceCents", .num t.maximumFreightPriceCents),
     (js "selectionPolicy", .str Hcs.SELECTION_POLICY), (js "version", .num t.version)]

end FreightTender

/-! ## Hashes and signatures -/

section Hashes
variable (p : Platform)

/-- A hash validates what it hashes: it is nothing where the schema throws. -/
def tenderHash (tender : FreightTender) : Option JsString :=
  if tender.valid then some (canonicalSha256 p.sha256Hex tender.toJson) else none

def bidHash (bid : CarrierBid) : Option JsString :=
  if bid.valid then some (canonicalSha256 p.sha256Hex bid.toJson) else none

def signedBidEnvelopeHash (bid : CarrierBid) (signature : JsString) : Option JsString :=
  if bid.valid then some (canonicalSha256 p.sha256Hex (.obj [(js "bid", bid.toJson), (js "signature", .str signature)]))
  else none

def verifyCarrierBidSignature (bid : CarrierBid) (signature registeredPublicKeyHex : JsString) : Bool :=
  bid.valid && verifyCanonicalPayload p bid.toJson signature registeredPublicKeyHex

def acceptanceReceiptHash (receipt : AcceptanceReceiptBody) : Option JsString :=
  if receipt.valid then some (canonicalSha256 p.sha256Hex receipt.toJson) else none

def signedReceiptEnvelopeHash (receipt : AcceptanceReceiptBody) (signature : JsString) : Option JsString :=
  if receipt.valid then
    some (canonicalSha256 p.sha256Hex (.obj [(js "receipt", receipt.toJson), (js "signature", .str signature)]))
  else none

def verifyAcceptanceReceiptSignature (receipt : AcceptanceReceiptBody) (signature routeGuardPublicKeyHex : JsString) :
    Bool :=
  receipt.valid && verifyCanonicalPayload p receipt.toJson signature routeGuardPublicKeyHex

end Hashes

end RouteGuard.Auction
