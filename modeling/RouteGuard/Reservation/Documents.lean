import RouteGuard.Schemas.Bid
import RouteGuard.Store.PersistedRecord
import RouteGuard.Reservation.Types

/-!
# Hashed and signed documents of a reservation

* `createReservationOffer`, `selectPaymentOption` : the offer and the option selected from it;
* `createPaymentChallengeRecord` : the durable challenge;
* `createRouteReservedRecord` : the record of a reserved route;
* `createWebhookEvent`, `rebuildSignedWebhook`, `verifyWebhook` : the signed notifications;
* `createRouteReservedEnvelope`, `assertClaimableRouteReservedPublication` : the public ledger evidence.
-/

namespace RouteGuard.Reservation
open JsString Json Guarded Uri Store

/-- What the service takes from its surroundings besides its transports. -/
structure Crypto extends Platform where
  /-- The signature of a message under a private key, in hexadecimal. -/
  sign : (privateKey message : JsString) → JsString

section Documents
variable (c : Crypto)

def hashOf (value : Json) : JsString := canonicalSha256 c.sha256Hex value

/-- `signCanonicalPayload`: 64 bytes, or an error. -/
def signCanonicalPayload (value : Json) (privateKeyHex : JsString) : Except ServiceError JsString := do
  let signature := c.sign privateKeyHex value.canonicalize
  require (isSignatureHex signature)
    (.other (js "Unexpected Hiero ECDSA signature length: " ++ decimal (signature.length / 2)))
  pure signature

def assertSha256Hash (value : JsString) : Except ServiceError Unit :=
  require (isSha256 value) (.other (js "Invalid hash format: expected sha256:<64 lowercase hex>, got " ++ value))

def isBeforeUtc (a b : JsString) : Bool := (compareUtc a b).toOption.any (· < 0)

def isAfterUtc (a b : JsString) : Bool := (compareUtc a b).toOption.any (· > 0)

/-! ## Offer -/

def resourcePathForOption (reservationId : JsString) (optionId : ReservationOptionId) : Except ServiceError JsString :=
  match encodeURIComponent reservationId with
  | none => .error (.other (js "URI malformed"))
  | some id =>
    .ok (js "/api/reservations/" ++ id ++ js "/pay" ++ match optionId with | .usdc => js "/usdc" | .hbar => js "/hbar")

def OfferOption.toJson (o : OfferOption) : Json :=
  .obj
    [(js "optionId", .str o.optionId.text), (js "scheme", .str o.scheme), (js "network", .str o.network),
     (js "asset", .str o.asset), (js "amountAtomic", .str o.amountAtomic), (js "displayAmount", .str o.displayAmount),
     (js "currencyLabel", .str o.currencyLabel)]

def buildOfferHashInput (offer : ReservationOffer) : Json :=
  .obj
    [(js "reservationId", .str offer.reservationId), (js "offerVersion", .num offer.offerVersion),
     (js "tenderId", .str offer.tenderId), (js "winningBidId", .str offer.winningBidId), (js "payTo", .str offer.payTo),
     (js "expiresAt", .str offer.expiresAt), (js "feeLabel", .str offer.feeLabel),
     (js "options", .arr (offer.options.map OfferOption.toJson))]

structure OfferInput where
  reservationId : JsString
  tenderId : JsString
  winningBidId : JsString
  payTo : JsString
  expiresAt : JsString
  offerVersion : Int
  deriving DecidableEq, Repr

/-- The two options are constants, so the checks of their ids, assets and amounts always pass. -/
def createReservationOffer (input : OfferInput) : Except ServiceError ReservationOffer := do
  require (input.reservationId ≠ [] ∧ input.reservationId.length ≤ 128) (err "INVALID_OFFER" "Invalid reservationId")
  require (isValidHederaAccountId input.payTo) (err "INVALID_OFFER" "payTo must be a valid account")
  require (isUtcIsoTimestamp input.expiresAt) (err "INVALID_OFFER" "expiresAt must be UTC ISO")
  let offer : ReservationOffer :=
    { reservationId := input.reservationId
      offerVersion := input.offerVersion
      tenderId := input.tenderId
      winningBidId := input.winningBidId
      payTo := input.payTo
      expiresAt := input.expiresAt
      feeLabel := DEMO_RESERVATION_FEE_NOTE
      options := [USDC_RESERVATION_OPTION, HBAR_RESERVATION_OPTION]
      offerHash := [] }
  pure { offer with offerHash := hashOf c (buildOfferHashInput offer) }

def verifyOfferIntegrity (offer : ReservationOffer) : Except ServiceError Unit := do
  require (hashOf c (buildOfferHashInput offer) = offer.offerHash)
    (err "OFFER_HASH_MISMATCH" "Offer hash does not match canonical content")
  require (offer.options.length = 2) (err "INVALID_OFFER" "Offer must have exactly 2 options")

structure SelectionInput where
  offer : ReservationOffer
  optionId : ReservationOptionId
  payerAccount : JsString
  offerHash : JsString
  offerVersion : Int
  /-- `selectedAt` and `now` are one instant. -/
  now : JsString
  deriving DecidableEq, Repr

def selectPaymentOption (input : SelectionInput) : Except ServiceError SelectedPaymentOption := do
  verifyOfferIntegrity c input.offer
  require (input.offerHash = input.offer.offerHash) (err "STALE_OFFER" "offerHash does not match published offer")
  require (input.offerVersion = input.offer.offerVersion)
    (err "STALE_OFFER" "offerVersion does not match published offer")
  require (isUtcIsoTimestamp input.now) (err "INVALID_TIMESTAMP" "selectedAt/now must be UTC")
  require (isBeforeUtc input.now input.offer.expiresAt) (err "OFFER_EXPIRED" "Reservation offer has expired")
  require (isValidHederaAccountId input.payerAccount) (err "INVALID_PAYER" "payerAccount invalid")
  match input.offer.options.find? fun o => o.optionId = input.optionId with
  | none => .error (.reservation (js "UNKNOWN_OPTION") (js "Unknown optionId: " ++ input.optionId.text))
  | some option =>
    let resourcePath ← resourcePathForOption input.offer.reservationId option.optionId
    pure
      { reservationId := input.offer.reservationId
        offerHash := input.offer.offerHash
        offerVersion := input.offer.offerVersion
        optionId := option.optionId
        payerAccount := input.payerAccount
        payTo := input.offer.payTo
        asset := option.asset
        amountAtomic := option.amountAtomic
        scheme := option.scheme
        network := option.network
        selectedAt := input.now
        resourcePath := resourcePath }

/-! ## Challenge -/

def computeChallengeHash (challenge : PaymentChallenge) (issuedAt : JsString) : JsString :=
  hashOf c <| .obj
    [(js "x402Version", .num challenge.x402Version), (js "scheme", .str challenge.scheme),
     (js "network", .str challenge.network), (js "asset", .str challenge.asset), (js "amount", .str challenge.amount),
     (js "payTo", .str challenge.payTo), (js "resource", .str challenge.resource),
     (js "maxTimeoutSeconds", .num challenge.maxTimeoutSeconds), (js "description", .str challenge.description),
     (js "issuedAt", .str issuedAt)]

/-- The challenge the locked selection asks for. -/
def expectedChallengeFields (selected : SelectedPaymentOption) : Except ServiceError PaymentChallenge := do
  let resource ← resourcePathForOption selected.reservationId selected.optionId
  pure
    { x402Version := CHALLENGE_X402_VERSION
      scheme := RESERVATION_SCHEME
      network := RESERVATION_NETWORK
      asset := selected.asset
      amount := selected.amountAtomic
      payTo := selected.payTo
      resource := resource
      maxTimeoutSeconds := CHALLENGE_MAX_TIMEOUT_SECONDS
      description := DEMO_RESERVATION_FEE_NOTE }

def assertExactChallenge (selected : SelectedPaymentOption) (challenge : PaymentChallenge) :
    Except ServiceError Unit := do
  let expected ← expectedChallengeFields selected
  require (challenge.x402Version = expected.x402Version)
    (.reservation (js "CHALLENGE_MISMATCH") (js "x402Version must be " ++ decimalInt expected.x402Version))
  require (challenge.scheme = expected.scheme) (err "CHALLENGE_MISMATCH" "scheme mismatch")
  require (challenge.network = expected.network) (err "CHALLENGE_MISMATCH" "network mismatch")
  require (challenge.asset = expected.asset) (err "CHALLENGE_MISMATCH" "asset mismatch")
  require (challenge.amount = expected.amount) (err "CHALLENGE_MISMATCH" "amount mismatch")
  require (challenge.payTo = expected.payTo) (err "CHALLENGE_MISMATCH" "payTo / recipient mismatch")
  require (challenge.resource = expected.resource) (err "CHALLENGE_MISMATCH" "resource mismatch")
  require (challenge.maxTimeoutSeconds = expected.maxTimeoutSeconds)
    (.reservation (js "CHALLENGE_MISMATCH") (js "maxTimeoutSeconds must be " ++ decimalInt expected.maxTimeoutSeconds))
  require (challenge.description = expected.description)
    (err "CHALLENGE_MISMATCH" "description must match demo reservation fee label")
  require (challenge.payTo = selected.payTo) (err "CHALLENGE_MISMATCH" "payTo mismatch")

def createPaymentChallengeRecord (selected : SelectedPaymentOption) (challenge : PaymentChallenge)
    (issuedAt : JsString) : Except ServiceError PaymentChallengeRecord := do
  require (isUtcIsoTimestamp issuedAt) (err "INVALID_TIMESTAMP" "issuedAt must be UTC")
  assertExactChallenge selected challenge
  let fields : PaymentChallenge :=
    { challenge with
      x402Version := CHALLENGE_X402_VERSION
      scheme := RESERVATION_SCHEME
      network := RESERVATION_NETWORK
      maxTimeoutSeconds := CHALLENGE_MAX_TIMEOUT_SECONDS }
  pure { fields with challengeHash := computeChallengeHash c fields issuedAt, issuedAt := issuedAt }

/-! ## The reserved route -/

/-- The record without its hash. -/
def routeReservedRecordBody (r : RouteReservedRecord) : Json :=
  .obj
    [(js "schemaVersion", .str r.schemaVersion), (js "reservationId", .str r.reservationId),
     (js "tenderId", .str r.tenderId), (js "tenderVersion", .num r.tenderVersion), (js "tenderHash", .str r.tenderHash),
     (js "winningBidId", .str r.winningBidId), (js "winningBidHash", .str r.winningBidHash),
     (js "carrierId", .str r.carrierId), (js "carrierAccount", .str r.carrierAccount),
     (js "selectedOptionId", .str r.selectedOptionId.text), (js "paymentNetwork", .str r.paymentNetwork),
     (js "paymentAsset", .str r.paymentAsset), (js "paymentAmountAtomic", .str r.paymentAmountAtomic),
     (js "payerAccount", .str r.payerAccount), (js "transactionId", .str r.transactionId),
     (js "consensusTimestamp", .str r.consensusTimestamp), (js "decisionManifestHash", .str r.decisionManifestHash),
     (js "evaluatedBidSetHash", .str r.evaluatedBidSetHash), (js "hcsAuctionTopicId", .str r.hcsAuctionTopicId),
     (js "closeBarrierSequence", .num r.closeBarrierSequence), (js "reservedAt", .str r.reservedAt)]

/-- The checks of `buildRouteReservedRecordBody`. -/
def checkRouteReservedRecordBody (r : RouteReservedRecord) : Except ServiceError Unit := do
  assertSha256Hash r.tenderHash
  assertSha256Hash r.winningBidHash
  assertSha256Hash r.decisionManifestHash
  assertSha256Hash r.evaluatedBidSetHash
  require (isValidHederaAccountId r.carrierAccount) (err "INVALID_RECORD" "carrierAccount invalid")
  require (isValidHederaAccountId r.payerAccount) (err "INVALID_RECORD" "payerAccount invalid")
  require (isUtcIsoTimestamp r.consensusTimestamp) (err "INVALID_RECORD" "consensusTimestamp must be UTC")
  require (isUtcIsoTimestamp r.reservedAt) (err "INVALID_RECORD" "reservedAt must be UTC")
  require (trim r.transactionId ≠ []) (err "INVALID_RECORD" "transactionId required")

/-- The record of a reserved route, from the reservation, the paid option and the confirmed transaction. -/
def routeReservedOf (record : ReservationRecord) (selected : SelectedPaymentOption)
    (transactionId consensusTimestamp : JsString) : RouteReservedRecord where
  schemaVersion := RESERVATION_SCHEMA_VERSION
  reservationId := record.reservationId
  tenderId := record.tenderId
  tenderVersion := record.tenderVersion
  tenderHash := record.tenderHash
  winningBidId := record.winningBidId
  winningBidHash := record.winningBidHash
  carrierId := record.winningCarrierId
  carrierAccount := record.winningCarrierAccount
  selectedOptionId := selected.optionId
  paymentNetwork := RESERVATION_NETWORK
  paymentAsset := selected.asset
  paymentAmountAtomic := selected.amountAtomic
  payerAccount := selected.payerAccount
  transactionId := transactionId
  consensusTimestamp := consensusTimestamp
  decisionManifestHash := record.decisionManifestHash
  evaluatedBidSetHash := record.evaluatedBidSetHash
  hcsAuctionTopicId := record.hcsTopicId
  closeBarrierSequence := record.closeBarrierSequence
  reservedAt := consensusTimestamp
  reservationRecordHash := []

def createRouteReservedRecord (body : RouteReservedRecord) : Except ServiceError RouteReservedRecord := do
  checkRouteReservedRecordBody body
  pure { body with reservationRecordHash := hashOf c (routeReservedRecordBody body) }

def verifyRouteReservedRecordHash (record : RouteReservedRecord) : Bool :=
  hashOf c (routeReservedRecordBody record) = record.reservationRecordHash

/-! ## Webhooks -/

def WebhookEventPayload.toJson (p : WebhookEventPayload) : Json :=
  .obj
    [(js "eventId", .str p.eventId), (js "eventType", .str p.eventType), (js "reservationId", .str p.reservationId),
     (js "tenderId", .str p.tenderId), (js "winningBidId", .str p.winningBidId),
     (js "carrierAccount", .str p.carrierAccount), (js "selectedOptionId", .str p.selectedOptionId.text),
     (js "paymentAsset", .str p.paymentAsset), (js "paymentAmountAtomic", .str p.paymentAmountAtomic),
     (js "transactionId", .str p.transactionId), (js "consensusTimestamp", .str p.consensusTimestamp),
     (js "reservationRecordHash", .str p.reservationRecordHash), (js "emittedAt", .str p.emittedAt)]

def buildWebhookSignatureInput (eventId timestamp : JsString) (payload : WebhookEventPayload) : Json :=
  .obj
    [(js "eventId", .str eventId), (js "timestamp", .str timestamp),
     (js "signatureVersion", .str WEBHOOK_SIGNATURE_VERSION), (js "payload", payload.toJson)]

def reservationWebhookEventId (reservationId : JsString) (recipient : Recipient) : JsString :=
  js "evt-route-reserved-" ++ reservationId ++ js "-" ++ recipient.text

/-- The payload of one recipient, from the record and its reserved route. -/
def createRouteReservedWebhookPayload (eventId : JsString) (record : ReservationRecord) (rr : RouteReservedRecord)
    (emittedAt : JsString) : Except ServiceError WebhookEventPayload := do
  require (isUtcIsoTimestamp emittedAt) (err "INVALID_TIMESTAMP" "emittedAt must be UTC")
  pure
    { eventId := eventId
      eventType := ROUTE_RESERVED_EVENT_TYPE
      reservationId := record.reservationId
      tenderId := record.tenderId
      winningBidId := record.winningBidId
      carrierAccount := record.winningCarrierAccount
      selectedOptionId := rr.selectedOptionId
      paymentAsset := rr.paymentAsset
      paymentAmountAtomic := rr.paymentAmountAtomic
      transactionId := rr.transactionId
      consensusTimestamp := rr.consensusTimestamp
      reservationRecordHash := rr.reservationRecordHash
      emittedAt := emittedAt }

def signWebhook (payload : WebhookEventPayload) (privateKeyHex : JsString) : Except ServiceError SignedWebhook := do
  let timestamp := payload.emittedAt
  require (isUtcIsoTimestamp timestamp) (err "INVALID_TIMESTAMP" "timestamp must be UTC")
  let signature ← signCanonicalPayload c (buildWebhookSignatureInput payload.eventId timestamp payload) privateKeyHex
  pure
    { payload := payload
      payloadHash := hashOf c payload.toJson
      headerEventId := payload.eventId
      headerTimestamp := timestamp
      headerSignature := signature
      headerSignatureVersion := WEBHOOK_SIGNATURE_VERSION }

def createWebhookEvent (eventId : JsString) (recipient : Recipient) (payload : WebhookEventPayload)
    (privateKeyHex : JsString) : Except ServiceError WebhookEvent := do
  require (payload.eventId = eventId) (err "EVENT_ID_MISMATCH" "payload.eventId must equal eventId")
  let signed ← signWebhook c payload privateKeyHex
  pure
    { eventId := eventId
      recipient := recipient
      eventType := ROUTE_RESERVED_EVENT_TYPE
      payload := payload
      payloadHash := signed.payloadHash
      emittedAt := payload.emittedAt
      signatureVersion := WEBHOOK_SIGNATURE_VERSION
      signature := signed.headerSignature
      signedTimestamp := signed.headerTimestamp }

/-- The webhook of a stored event. -/
def rebuildSignedWebhook (event : WebhookEvent) : SignedWebhook where
  payload := event.payload
  payloadHash := event.payloadHash
  headerEventId := event.eventId
  headerTimestamp := event.signedTimestamp
  headerSignature := event.signature
  headerSignatureVersion := event.signatureVersion

def verifyWebhook (webhook : SignedWebhook) (publicKeyHex : JsString) : Bool :=
  webhook.headerEventId = webhook.payload.eventId && webhook.headerSignatureVersion = WEBHOOK_SIGNATURE_VERSION &&
    hashOf c webhook.payload.toJson = webhook.payloadHash &&
    verifyCanonicalPayload c.toPlatform
      (buildWebhookSignatureInput webhook.headerEventId webhook.headerTimestamp webhook.payload)
      webhook.headerSignature publicKeyHex

/-! ## Ledger evidence -/

def HCS_SCHEMA_VERSION : JsString := js "routeguard-hcs-1.0"

def HCS_MAX_MESSAGE_BYTES : Nat := 1024

def ROUTE_RESERVED_EVIDENCE_VERSION : JsString := js "rg-res-ev-1"

def RouteReservedPayload.fields (p : RouteReservedPayload) : List (JsString × Json) :=
  [(js "reservationId", .str p.reservationId), (js "winningBidId", .str p.winningBidId),
   (js "carrierId", .str p.carrierId), (js "carrierAccount", .str p.carrierAccount),
   (js "selectedOptionId", .str p.selectedOptionId.text), (js "paymentAsset", .str p.paymentAsset),
   (js "paymentAmountAtomic", .str p.paymentAmountAtomic), (js "payerAccount", .str p.payerAccount),
   (js "paymentTransactionId", .str p.paymentTransactionId),
   (js "paymentConsensusTimestamp", .str p.paymentConsensusTimestamp),
   (js "reservationRecordHash", .str p.reservationRecordHash),
   (js "closeBarrierSequence", .num p.closeBarrierSequence),
   (js "reservationEvidenceVersion", .str p.reservationEvidenceVersion)]

def RouteReservedPayload.toJson (p : RouteReservedPayload) : Json := .obj p.fields

def RouteReservedEnvelope.toJson (e : RouteReservedEnvelope) : Json :=
  .obj
    [(js "schemaVersion", .str e.schemaVersion), (js "messageType", .str e.messageType), (js "runId", .str e.runId),
     (js "tenderId", .str e.tenderId), (js "tenderVersion", .num e.tenderVersion), (js "tenderHash", .str e.tenderHash),
     (js "createdAt", .str e.createdAt), (js "payloadHash", .str e.payloadHash), (js "payload", e.payload.toJson)]

/-- An error of the envelope library; lists of schema issues are not spelled out. -/
def envelopeError (message : String) : ServiceError := .other (js message)

/-- `RouteReservedPayloadSchema`. -/
def RouteReservedPayload.valid (p : RouteReservedPayload) : Bool :=
  bounded 128 p.reservationId && bounded 128 p.winningBidId && bounded 128 p.carrierId &&
    bounded 64 p.carrierAccount && bounded 64 p.paymentAsset && bounded 32 p.paymentAmountAtomic &&
    bounded 64 p.payerAccount && bounded 128 p.paymentTransactionId && bounded 64 p.paymentConsensusTimestamp &&
    bounded 80 p.reservationRecordHash && p.reservationEvidenceVersion = ROUTE_RESERVED_EVIDENCE_VERSION &&
    isSafePositiveInteger p.closeBarrierSequence && isSha256 p.reservationRecordHash &&
    isValidHederaAccountId p.carrierAccount && isValidHederaAccountId p.payerAccount &&
    isUtcIsoTimestamp p.paymentConsensusTimestamp

def buildRouteReservedPayload (record : RouteReservedRecord) (carrierId : JsString) : RouteReservedPayload where
  reservationId := record.reservationId
  winningBidId := record.winningBidId
  carrierId := carrierId
  carrierAccount := record.carrierAccount
  selectedOptionId := record.selectedOptionId
  paymentAsset := record.paymentAsset
  paymentAmountAtomic := record.paymentAmountAtomic
  payerAccount := record.payerAccount
  paymentTransactionId := record.transactionId
  paymentConsensusTimestamp := record.consensusTimestamp
  reservationRecordHash := record.reservationRecordHash
  closeBarrierSequence := record.closeBarrierSequence
  reservationEvidenceVersion := ROUTE_RESERVED_EVIDENCE_VERSION

def routeReservedEnvelopeHash (envelope : RouteReservedEnvelope) : JsString := hashOf c envelope.toJson

/-- The bytes of the canonical text in UTF-8. -/
@[irreducible]
def measureRouteReservedEnvelope (envelope : RouteReservedEnvelope) : Nat :=
  (Sha256.utf8 envelope.toJson.canonicalize).length

section Creation
variable {ε : Type}

/-- `fail` makes the error of a message. -/
def assertMessageSize (fail : JsString → ε) (envelope : RouteReservedEnvelope) : Except ε Unit :=
  require (measureRouteReservedEnvelope envelope < HCS_MAX_MESSAGE_BYTES)
    (fail (js "HCS message size " ++ decimal (measureRouteReservedEnvelope envelope) ++
      js " exceeds strict limit 1024 (must be < 1024)"))

structure EnvelopeInput where
  runId : JsString
  tenderId : JsString
  tenderVersion : Int
  tenderHash : JsString
  createdAt : JsString
  payload : RouteReservedPayload
  deriving DecidableEq, Repr

/-- The evidence under the strict schema of its payload, whose error is `invalid`. -/
def createRouteReservedEnvelope (p : Platform) (invalid : ε) (fail : JsString → ε) (input : EnvelopeInput) :
    Except ε RouteReservedEnvelope := do
  require input.payload.valid invalid
  require (isUtcIsoTimestamp input.createdAt) (fail (js "createdAt must be a valid UTC ISO-8601 timestamp"))
  require (isSafePositiveInteger input.tenderVersion) (fail (js "tenderVersion must be a positive safe integer"))
  require (isSha256 input.tenderHash)
    (fail (js "Invalid hash format: expected sha256:<64 lowercase hex>, got " ++ input.tenderHash))
  let envelope : RouteReservedEnvelope :=
    { schemaVersion := HCS_SCHEMA_VERSION
      messageType := ROUTE_RESERVED_EVENT_TYPE
      runId := input.runId
      tenderId := input.tenderId
      tenderVersion := input.tenderVersion
      tenderHash := input.tenderHash
      createdAt := input.createdAt
      payloadHash := canonicalSha256 p.sha256Hex input.payload.toJson
      payload := input.payload }
  assertMessageSize fail envelope
  pure envelope

end Creation

/-- The evidence as the service creates it. -/
def routeReservedEvidence (input : EnvelopeInput) : Except ServiceError RouteReservedEnvelope :=
  createRouteReservedEnvelope c.toPlatform (envelopeError "Invalid ROUTE_RESERVED payload") .other input

/-- The checks of the decoder on an envelope read back from its JSON text. -/
def decodeRouteReservedEnvelope (e : RouteReservedEnvelope) : Except ServiceError Unit := do
  require (bounded 64 e.schemaVersion ∧ bounded 128 e.runId ∧ bounded 128 e.tenderId ∧ bounded 80 e.tenderHash ∧
    bounded 256 e.createdAt ∧ bounded 80 e.payloadHash) (envelopeError "Malformed HCS envelope")
  require (e.schemaVersion = HCS_SCHEMA_VERSION)
    (.other (js "Unsupported HCS schema version: " ++ e.schemaVersion))
  require (isSafePositiveInteger e.tenderVersion) (envelopeError "tenderVersion must be a positive safe integer")
  require (isUtcIsoTimestamp e.createdAt) (envelopeError "createdAt must be a valid UTC ISO-8601 timestamp")
  require (isSha256 e.tenderHash ∧ isSha256 e.payloadHash)
    (envelopeError "envelope hashes must be sha256:<64 lowercase hex>")
  require (hashOf c e.payload.toJson = e.payloadHash)
    (envelopeError "payloadHash mismatch: envelope integrity check failed")
  require (e.messageType = ROUTE_RESERVED_EVENT_TYPE) (envelopeError "Expected ROUTE_RESERVED envelope")
  require e.payload.valid (envelopeError "Invalid ROUTE_RESERVED payload")
  assertMessageSize .other e

/-- The checks before a publication claim; the hash and the byte count of the envelope. -/
def assertClaimableRouteReservedPublication (envelope : RouteReservedEnvelope) (expectedTopicId : JsString)
    (reservation : RouteReservedRecord) (reservationHcsTopicId : JsString) :
    Except ServiceError (JsString × Nat) := do
  require (envelope.messageType = ROUTE_RESERVED_EVENT_TYPE)
    (.reservation (js "HCS_MESSAGE_TYPE_MISMATCH") (js "Expected ROUTE_RESERVED, got " ++ envelope.messageType))
  require (expectedTopicId = reservationHcsTopicId)
    (.reservation (js "HCS_TOPIC_MISMATCH")
      (js "expectedTopicId " ++ expectedTopicId ++ js " !== record.hcsTopicId " ++ reservationHcsTopicId))
  require (expectedTopicId = reservation.hcsAuctionTopicId)
    (.reservation (js "HCS_TOPIC_MISMATCH")
      (js "expectedTopicId " ++ expectedTopicId ++ js " !== routeReserved.hcsAuctionTopicId " ++
        reservation.hcsAuctionTopicId))
  require (envelope.payload.reservationRecordHash = reservation.reservationRecordHash)
    (err "HCS_RESERVATION_RECORD_HASH_MISMATCH"
      "envelope reservationRecordHash does not match durable RouteReservedRecord")
  decodeRouteReservedEnvelope c envelope
  require (measureRouteReservedEnvelope envelope < HCS_MAX_MESSAGE_BYTES)
    (.reservation (js "HCS_MESSAGE_TOO_LARGE")
      (js "ROUTE_RESERVED envelope is " ++ decimal (measureRouteReservedEnvelope envelope) ++
        js " bytes (limit 1024)"))
  pure (routeReservedEnvelopeHash c envelope, measureRouteReservedEnvelope envelope)

/-- What a publisher or a resolver reports. -/
structure HcsPublicationResult where
  topicId : JsString
  transactionId : Option JsString
  sequence : Int
  consensusTimestamp : JsString
  deriving DecidableEq, Repr

/-- A result is accepted only for the expected topic, with a transaction id unless it may be missing, a positive
sequence, a valid timestamp and, where one is expected, the expected envelope hash. -/
def assertValidHcsPublicationResult (result : HcsPublicationResult) (expectedTopicId : JsString)
    (envelopeHashes : Option (JsString × JsString)) (allowMissingTransactionId : Bool) :
    Except ServiceError HcsPublicationResult := do
  require (result.topicId ≠ [] ∧ result.topicId = expectedTopicId)
    (.reservation (js "HCS_TOPIC_MISMATCH") (js "Returned topicId must equal expectedTopicId " ++ expectedTopicId))
  require (truthy result.transactionId ∨ (allowMissingTransactionId ∧ result.transactionId = none))
    (err "HCS_MISSING_TRANSACTION_ID" "HCS publication result requires a non-empty transactionId")
  require (isSafePositiveInteger result.sequence)
    (err "HCS_INVALID_SEQUENCE" "HCS publication sequence must be a positive safe integer")
  require (isUtcIsoTimestamp result.consensusTimestamp)
    (err "HCS_INVALID_CONSENSUS_TIMESTAMP" "HCS publication consensusTimestamp must be valid UTC")
  nullable (fun (h : JsString × JsString) => require (h.1 = h.2)
    (err "HCS_ENVELOPE_HASH_MISMATCH" "Resolved envelopeHash does not match the durable publication claim"))
    envelopeHashes
  pure result

end Documents

end RouteGuard.Reservation
