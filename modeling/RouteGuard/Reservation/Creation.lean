import RouteGuard.Reservation.Calls

/-!
# Creating a reservation

A reservation is created for the verified winner of an auction only.

* `validateWinnerReservationInput` : the input against the closure proof, the tender and the carrier registry;
* `createReservation` : the record of a new reservation, or the existing one with the same fingerprint.

The auction's own checks of a closure proof and its ranking are taken as they are.
-/

namespace RouteGuard.Reservation
open JsString Guarded ReservationState ServiceM

/-- What a decision manifest says about the winner. -/
structure DecisionManifest where
  tenderHash : JsString
  decisionManifestHash : JsString
  evaluatedBidSetHash : JsString
  winningBidId : Option JsString
  deriving DecidableEq, Repr

structure VerifiedAuctionClosureProof where
  tenderId : JsString
  tenderVersion : Int
  closeBarrierSequence : Int
  closeBarrierConsensusTimestamp : JsString
  integrityOk : Bool
  manifest : DecisionManifest
  /-- The evaluation the manifest is recomputed from. -/
  evaluation : Json

structure FreightTender where
  tenderId : JsString
  version : Int
  /-- The terms the manifest is recomputed from. -/
  terms : Json

structure RankedBid where
  bidId : JsString
  bidHash : JsString
  carrierId : JsString
  deriving DecidableEq, Repr

structure CarrierProfile where
  carrierAccountId : JsString
  active : Bool
  deriving DecidableEq, Repr

/-- What the service takes from the auction and from the carrier registry. -/
structure Auction where
  isVerifiedAuctionClosureProof : VerifiedAuctionClosureProof → Bool
  /-- The errors of a manifest, joined; none when it is intact. -/
  verifyDecisionManifestIntegrity : FreightTender → VerifiedAuctionClosureProof → Option JsString
  selectWinner : Json → Option RankedBid
  getById : JsString → Option CarrierProfile

structure CreateReservationInput where
  reservationId : JsString
  tenderId : JsString
  tenderVersion : Int
  tenderHash : JsString
  winningBidId : JsString
  winningBidHash : JsString
  winningCarrierId : JsString
  winningCarrierAccount : JsString
  decisionManifestHash : JsString
  evaluatedBidSetHash : JsString
  hcsTopicId : JsString
  closeBarrierSequence : Int
  closeBarrierConsensusTimestamp : JsString
  reservationOfferVersion : Int
  createdAt : JsString
  expiresAt : JsString
  closureProof : VerifiedAuctionClosureProof

/-- The ranked winner is the one the input names, and its carrier is registered and active. -/
def validateWinner (auction : Auction) (input : CreateReservationInput) (ranked : RankedBid) :
    Except ServiceError Unit := do
  require (ranked.bidId = input.winningBidId)
    (.reservation (js "WRONG_WINNER") (js "winningBidId " ++ input.winningBidId ++ js " !== ranked " ++ ranked.bidId))
  require (ranked.bidHash = input.winningBidHash)
    (err "WRONG_WINNER" "winningBidHash does not match independent ranking")
  require (input.closureProof.manifest.winningBidId = some input.winningBidId)
    (err "WRONG_WINNER" "manifest winningBidId mismatch")
  require (ranked.carrierId = input.winningCarrierId)
    (err "WRONG_CARRIER" "winningCarrierId does not match ranked winner")
  match auction.getById input.winningCarrierId with
  | none =>
    .error (.reservation (js "CARRIER_NOT_REGISTERED")
      (js "Carrier " ++ input.winningCarrierId ++ js " not registered"))
  | some carrier =>
    require (carrier.carrierAccountId = input.winningCarrierAccount)
      (err "WRONG_CARRIER_ACCOUNT" "winningCarrierAccount does not match registry")
    require carrier.active (err "CARRIER_INACTIVE" "Winner carrier is inactive")

def validateWinnerReservationInput (auction : Auction) (input : CreateReservationInput) (tender : FreightTender) :
    Except ServiceError Unit := do
  let proof := input.closureProof
  require (auction.isVerifiedAuctionClosureProof proof)
    (err "FORGED_PROOF" "closureProof is not a runtime-authentic VerifiedAuctionClosureProof")
  require (isUtcIsoTimestamp input.createdAt ∧ isUtcIsoTimestamp input.expiresAt)
    (err "INVALID_TIMESTAMP" "createdAt/expiresAt must be valid UTC ISO timestamps")
  require (isAfterUtc input.expiresAt input.createdAt) (err "INVALID_EXPIRY" "expiresAt must be after createdAt")
  require (isUtcIsoTimestamp input.closeBarrierConsensusTimestamp)
    (err "INVALID_TIMESTAMP" "closeBarrierConsensusTimestamp must be UTC")
  require (input.tenderId = proof.tenderId) (err "TENDER_MISMATCH" "tenderId does not match proof")
  require (input.tenderVersion = proof.tenderVersion) (err "TENDER_MISMATCH" "tenderVersion does not match proof")
  require (input.tenderHash = proof.manifest.tenderHash)
    (err "TENDER_MISMATCH" "tenderHash does not match proof manifest")
  require (input.closeBarrierSequence = proof.closeBarrierSequence)
    (err "BARRIER_MISMATCH" "closeBarrierSequence does not match proof")
  require (input.closeBarrierConsensusTimestamp = proof.closeBarrierConsensusTimestamp)
    (err "BARRIER_MISMATCH" "closeBarrierConsensusTimestamp does not match proof")
  require (proof.manifest.decisionManifestHash = input.decisionManifestHash)
    (err "MANIFEST_MISMATCH" "decisionManifestHash does not match proof")
  require (proof.manifest.evaluatedBidSetHash = input.evaluatedBidSetHash)
    (err "MANIFEST_MISMATCH" "evaluatedBidSetHash does not match proof")
  require proof.integrityOk (err "PROOF_INTEGRITY" "Proof integrityOk is false")
  require (tender.tenderId = input.tenderId ∧ tender.version = input.tenderVersion)
    (err "TENDER_MISMATCH" "Provided tender does not match reservation identity")
  match auction.verifyDecisionManifestIntegrity tender proof with
  | some errors => .error (.reservation (js "MANIFEST_INTEGRITY") errors)
  | none =>
    match auction.selectWinner proof.evaluation with
    | none => .error (err "NO_WINNER" "Proof has no ranked winner")
    | some ranked => validateWinner auction input ranked

/-- The record of a new reservation, without its fingerprint. -/
def createdRecord (input : CreateReservationInput) (offer : ReservationOffer) : ReservationRecord where
  recordVersion := 1
  reservationId := input.reservationId
  state := offerCreated
  tenderId := input.tenderId
  tenderVersion := input.tenderVersion
  tenderHash := input.tenderHash
  winningBidId := input.winningBidId
  winningBidHash := input.winningBidHash
  winningCarrierId := input.winningCarrierId
  winningCarrierAccount := input.winningCarrierAccount
  decisionManifestHash := input.decisionManifestHash
  evaluatedBidSetHash := input.evaluatedBidSetHash
  hcsTopicId := input.hcsTopicId
  closeBarrierSequence := input.closeBarrierSequence
  closeBarrierConsensusTimestamp := input.closeBarrierConsensusTimestamp
  creationFingerprint := []
  proofTenderId := input.closureProof.tenderId
  proofManifestHash := input.closureProof.manifest.decisionManifestHash
  offer := offer
  selected := none
  attemptNumber := 0
  paymentChallenge := none
  paymentChallengeHash := none
  paymentPayloadHash := none
  clientTransaction := none
  facilitatorVerify := none
  settleClaim := none
  facilitatorSettle := none
  transactionId := none
  mirrorConfirmation := none
  mirrorPoll := none
  confirmationDeadline := none
  routeReserved := none
  webhookEvents := []
  webhooks := []
  hcsPublicationClaim := none
  hcsEvidence := none
  history := [⟨offerCreated, offerCreated, input.createdAt, some (js "created")⟩]
  createdAt := input.createdAt
  updatedAt := input.createdAt
  expiresAt := input.expiresAt
  failureCode := none
  failureReason := none

section Creation
variable (c : Crypto) (auction : Auction)

/-- The validated record with its fingerprint. -/
def reservationOf (input : CreateReservationInput) (tender : FreightTender) :
    Except ServiceError ReservationRecord := do
  validateWinnerReservationInput auction input tender
  let offer ← createReservationOffer c
    ⟨input.reservationId, input.tenderId, input.winningBidId, input.winningCarrierAccount, input.expiresAt,
      input.reservationOfferVersion⟩
  verifyOfferIntegrity c offer
  require (offer.payTo = input.winningCarrierAccount)
    (err "WRONG_RECIPIENT" "Offer payTo must equal winner carrier account")
  let record := createdRecord input offer
  pure { record with creationFingerprint := computeCreationFingerprint c record }

/-- Idempotent only when the full creation fingerprint matches exactly. -/
def reuseExisting (existing record : ReservationRecord) : Except ServiceError ReservationRecord := do
  if existing.creationFingerprint = record.creationFingerprint then pure existing
  else
    require (existing.creationFingerprint = computeCreationFingerprint c existing)
      (err "CORRUPT_RESERVATION_RECORD" "Existing reservation has invalid creationFingerprint")
    .error (err "CONFLICT" "Reservation ID already exists with different creation fingerprint")

def createReservation (input : CreateReservationInput) (tender : FreightTender) : ServiceM ReservationRecord := do
  let existing ← storeGet input.reservationId
  let record ← check (reservationOf c auction input tender)
  match existing with
  | some existing => check (reuseExisting c existing record)
  | none => await (Prog.perform (Call.create record))

end Creation

/-- What every new record has in common: no payment, no notifications, no evidence. -/
theorem reservationOf_spec {c : Crypto} {auction : Auction} {input : CreateReservationInput} {tender : FreightTender}
    {record : ReservationRecord} (h : reservationOf c auction input tender = .ok record) :
    ∃ offer, record = { createdRecord input offer with
      creationFingerprint := computeCreationFingerprint c (createdRecord input offer) } := by
  simp only [reservationOf, bind_eq_ok, require_eq_ok, exists_const, pure_eq_ok] at h
  obtain ⟨-, -, offer, -, -, -, -, rfl⟩ := h
  exact ⟨offer, rfl⟩

end RouteGuard.Reservation
