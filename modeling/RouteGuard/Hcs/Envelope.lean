import RouteGuard.Lib.JsonObject
import RouteGuard.Lib.TextCodec
import RouteGuard.Reservation.Documents

/-!
# Ledger messages

The four messages of an auction's topic, as they are created, encoded and decoded.

* `HcsPayload`, `HcsEnvelope` : the payloads and the shell around them;
* `createAuctionOpenEnvelope`, .. : the constructors;
* `decodeHcsEnvelope`, `decodeHcsEnvelopeFromBase64` : the strict decoder.
-/

namespace RouteGuard.Hcs
open JsString Json Guarded Reservation Store

/-! ## Payloads -/

def SELECTION_POLICY : JsString := js "LOWEST_QUALIFIED_PRICE_V1"

def ENGINE_VERSION : JsString := js "routeguard-auction-1.0"

def COMMITMENT_SCHEMA_VERSION : JsString := js "routeguard-bid-commitment-1.0"

def CLOSE_POLICY : JsString := js "SAME_TOPIC_BARRIER_V1"

structure AuctionOpenPayload where
  tenderId : JsString
  tenderVersion : Int
  tenderHash : JsString
  auctionEndsAt : JsString
  rulesHash : JsString
  deriving DecidableEq, Repr

structure BidCommitmentPayload where
  bidId : JsString
  carrierId : JsString
  bidHash : JsString
  acceptanceReceiptHash : JsString
  bidVersion : Int
  deriving DecidableEq, Repr

structure AuctionCloseBarrierPayload where
  barrierId : JsString
  tenderId : JsString
  tenderVersion : Int
  tenderHash : JsString
  auctionEndsAt : JsString
  expectedCommitmentCount : Int
  commitmentEnvelopeHashes : List JsString
  deriving DecidableEq, Repr

inductive HcsMessageType where
  | AUCTION_OPEN | BID_COMMITMENT | AUCTION_CLOSE_BARRIER | ROUTE_RESERVED
  deriving DecidableEq, Repr

def HcsMessageType.text : HcsMessageType → JsString
  | .AUCTION_OPEN => js "AUCTION_OPEN"
  | .BID_COMMITMENT => js "BID_COMMITMENT"
  | .AUCTION_CLOSE_BARRIER => js "AUCTION_CLOSE_BARRIER"
  | .ROUTE_RESERVED => js "ROUTE_RESERVED"

def HCS_MESSAGE_TYPES : List HcsMessageType := [.AUCTION_OPEN, .BID_COMMITMENT, .AUCTION_CLOSE_BARRIER, .ROUTE_RESERVED]

inductive HcsPayload where
  | auctionOpen (payload : AuctionOpenPayload)
  | bidCommitment (payload : BidCommitmentPayload)
  | auctionCloseBarrier (payload : AuctionCloseBarrierPayload)
  | routeReserved (payload : RouteReservedPayload)
  deriving DecidableEq, Repr

def HcsPayload.messageType : HcsPayload → HcsMessageType
  | .auctionOpen _ => .AUCTION_OPEN
  | .bidCommitment _ => .BID_COMMITMENT
  | .auctionCloseBarrier _ => .AUCTION_CLOSE_BARRIER
  | .routeReserved _ => .ROUTE_RESERVED

/-! ### Schemas -/

def AuctionOpenPayload.valid (p : AuctionOpenPayload) : Bool :=
  bounded 128 p.tenderId && bounded 80 p.tenderHash && bounded 256 p.auctionEndsAt && bounded 80 p.rulesHash &&
    isSafePositiveInteger p.tenderVersion && isUtcIsoTimestamp p.auctionEndsAt && isSha256 p.tenderHash &&
    isSha256 p.rulesHash

def BidCommitmentPayload.valid (p : BidCommitmentPayload) : Bool :=
  bounded 128 p.bidId && bounded 128 p.carrierId && bounded 80 p.bidHash && bounded 80 p.acceptanceReceiptHash &&
    isSafePositiveInteger p.bidVersion && isSha256 p.bidHash && isSha256 p.acceptanceReceiptHash

def AuctionCloseBarrierPayload.valid (p : AuctionCloseBarrierPayload) : Bool :=
  bounded 128 p.barrierId && bounded 128 p.tenderId && bounded 80 p.tenderHash && bounded 256 p.auctionEndsAt &&
    (p.commitmentEnvelopeHashes.all (bounded 80) && p.commitmentEnvelopeHashes.length ≤ 32) &&
    isSafePositiveInteger p.tenderVersion && isSafePositiveInteger p.expectedCommitmentCount &&
    (p.commitmentEnvelopeHashes.length : Int) = p.expectedCommitmentCount && isUtcIsoTimestamp p.auctionEndsAt &&
    isSha256 p.tenderHash && p.commitmentEnvelopeHashes.all isSha256

def HcsPayload.valid : HcsPayload → Bool
  | .auctionOpen p => p.valid
  | .bidCommitment p => p.valid
  | .auctionCloseBarrier p => p.valid
  | .routeReserved p => p.valid

/-! ### JSON -/

def AuctionOpenPayload.fields (p : AuctionOpenPayload) : List (JsString × Json) :=
  [(js "tenderId", .str p.tenderId), (js "tenderVersion", .num p.tenderVersion), (js "tenderHash", .str p.tenderHash),
   (js "auctionEndsAt", .str p.auctionEndsAt), (js "selectionPolicy", .str SELECTION_POLICY),
   (js "engineVersion", .str ENGINE_VERSION), (js "rulesHash", .str p.rulesHash)]

def BidCommitmentPayload.fields (p : BidCommitmentPayload) : List (JsString × Json) :=
  [(js "bidId", .str p.bidId), (js "carrierId", .str p.carrierId), (js "bidHash", .str p.bidHash),
   (js "acceptanceReceiptHash", .str p.acceptanceReceiptHash), (js "bidVersion", .num p.bidVersion),
   (js "commitmentSchemaVersion", .str COMMITMENT_SCHEMA_VERSION)]

def AuctionCloseBarrierPayload.fields (p : AuctionCloseBarrierPayload) : List (JsString × Json) :=
  [(js "barrierId", .str p.barrierId), (js "tenderId", .str p.tenderId), (js "tenderVersion", .num p.tenderVersion),
   (js "tenderHash", .str p.tenderHash), (js "auctionEndsAt", .str p.auctionEndsAt),
   (js "expectedCommitmentCount", .num p.expectedCommitmentCount),
   (js "commitmentEnvelopeHashes", .arr (p.commitmentEnvelopeHashes.map .str)), (js "closePolicy", .str CLOSE_POLICY)]

def HcsPayload.fields : HcsPayload → List (JsString × Json)
  | .auctionOpen p => p.fields
  | .bidCommitment p => p.fields
  | .auctionCloseBarrier p => p.fields
  | .routeReserved p => p.fields

/-! ## Envelopes -/

structure HcsEnvelope where
  runId : JsString
  tenderId : JsString
  tenderVersion : Int
  tenderHash : JsString
  createdAt : JsString
  payloadHash : JsString
  payload : HcsPayload
  deriving DecidableEq, Repr

/-- The reservation evidence, as one of the four messages. -/
def HcsEnvelope.ofRouteReserved (e : RouteReservedEnvelope) : HcsEnvelope where
  runId := e.runId
  tenderId := e.tenderId
  tenderVersion := e.tenderVersion
  tenderHash := e.tenderHash
  createdAt := e.createdAt
  payloadHash := e.payloadHash
  payload := .routeReserved e.payload

def HcsEnvelope.messageType (e : HcsEnvelope) : HcsMessageType := e.payload.messageType

def HcsEnvelope.fields (e : HcsEnvelope) : List (JsString × Json) :=
  [(js "schemaVersion", .str HCS_SCHEMA_VERSION), (js "messageType", .str e.messageType.text), (js "runId", .str e.runId),
   (js "tenderId", .str e.tenderId), (js "tenderVersion", .num e.tenderVersion), (js "tenderHash", .str e.tenderHash),
   (js "createdAt", .str e.createdAt), (js "payloadHash", .str e.payloadHash), (js "payload", .obj e.payload.fields)]

def HcsEnvelope.toJson (e : HcsEnvelope) : Json := .obj e.fields

/-- An `HcsEnvelopeError`, or an error of a payload schema. -/
inductive HcsEnvelopeError where
  | envelope (message : JsString)
  | schema (messageType : HcsMessageType)
  deriving DecidableEq, Repr

/-- Deterministic UTF-8 of the canonical JSON. -/
def encodeHcsEnvelopeUtf8 (e : HcsEnvelope) : List Nat := Sha256.utf8 e.toJson.canonicalize

def measureHcsMessageBytes (e : HcsEnvelope) : Nat := (encodeHcsEnvelopeUtf8 e).length

/-- The limit is strict. -/
def exceedsHcsMessageLimit (byteCount : Nat) : Bool := HCS_MAX_MESSAGE_BYTES ≤ byteCount

def assertHcsMessageSize (e : HcsEnvelope) : Except HcsEnvelopeError Unit :=
  require (exceedsHcsMessageLimit (measureHcsMessageBytes e) = false)
    (.envelope (js "HCS message size " ++ decimal (measureHcsMessageBytes e) ++
      js " exceeds strict limit 1024 (must be < 1024)"))

section Hashing
variable (p : Platform)

def computePayloadHash (payload : List (JsString × Json)) : JsString := canonicalSha256 p.sha256Hex (.obj payload)

def hcsEnvelopeHash (e : HcsEnvelope) : JsString := canonicalSha256 p.sha256Hex e.toJson

/-! ## Creation -/

/-- What every constructor takes beside its payload. -/
structure EnvelopeHeader where
  runId : JsString
  tenderId : JsString
  tenderVersion : Int
  tenderHash : JsString
  createdAt : JsString
  deriving DecidableEq, Repr

def buildEnvelopeShell (header : EnvelopeHeader) (payload : HcsPayload) : Except HcsEnvelopeError HcsEnvelope := do
  require (isUtcIsoTimestamp header.createdAt) (.envelope (js "createdAt must be a valid UTC ISO-8601 timestamp"))
  require (isSafePositiveInteger header.tenderVersion)
    (.envelope (js "tenderVersion must be a positive safe integer"))
  require (isSha256 header.tenderHash)
    (.envelope (js "Invalid hash format: expected sha256:<64 lowercase hex>, got " ++ header.tenderHash))
  pure
    { runId := header.runId
      tenderId := header.tenderId
      tenderVersion := header.tenderVersion
      tenderHash := header.tenderHash
      createdAt := header.createdAt
      payloadHash := computePayloadHash p payload.fields
      payload := payload }

/-- The payload names the tender of the shell; `label` starts the messages. -/
def assertPayloadTender (label tenderId : JsString) (tenderVersion : Int) (tenderHash shellTenderId : JsString)
    (shellTenderVersion : Int) (shellTenderHash : JsString) : Except HcsEnvelopeError Unit := do
  require (tenderId = shellTenderId) (.envelope (label ++ js " payload.tenderId mismatch"))
  require (tenderVersion = shellTenderVersion) (.envelope (label ++ js " payload.tenderVersion mismatch"))
  require (tenderHash = shellTenderHash) (.envelope (label ++ js " payload.tenderHash mismatch"))

def createAuctionOpenEnvelope (header : EnvelopeHeader) (payload : AuctionOpenPayload) :
    Except HcsEnvelopeError HcsEnvelope := do
  require payload.valid (.schema .AUCTION_OPEN)
  assertPayloadTender (js "OPEN") payload.tenderId payload.tenderVersion payload.tenderHash header.tenderId
    header.tenderVersion header.tenderHash
  let envelope ← buildEnvelopeShell p header (.auctionOpen payload)
  assertHcsMessageSize envelope
  pure envelope

/-- A typed payload has no prohibited field. -/
def createBidCommitmentEnvelope (header : EnvelopeHeader) (payload : BidCommitmentPayload) :
    Except HcsEnvelopeError HcsEnvelope := do
  require payload.valid (.schema .BID_COMMITMENT)
  let envelope ← buildEnvelopeShell p header (.bidCommitment payload)
  assertHcsMessageSize envelope
  pure envelope

def createCloseBarrierEnvelope (header : EnvelopeHeader) (payload : AuctionCloseBarrierPayload) :
    Except HcsEnvelopeError HcsEnvelope := do
  require payload.valid (.schema .AUCTION_CLOSE_BARRIER)
  assertPayloadTender (js "BARRIER") payload.tenderId payload.tenderVersion payload.tenderHash header.tenderId
    header.tenderVersion header.tenderHash
  let envelope ← buildEnvelopeShell p header (.auctionCloseBarrier payload)
  assertHcsMessageSize envelope
  pure envelope

def createHcsRouteReservedEnvelope (header : EnvelopeHeader) (payload : RouteReservedPayload) :
    Except HcsEnvelopeError HcsEnvelope := do
  let envelope ← createRouteReservedEnvelope p (.schema .ROUTE_RESERVED) .envelope
    { runId := header.runId
      tenderId := header.tenderId
      tenderVersion := header.tenderVersion
      tenderHash := header.tenderHash
      createdAt := header.createdAt
      payload := payload }
  pure (.ofRouteReserved envelope)

/-! ## Decoding -/

/-- Fields that must never appear in a commitment. -/
def PROHIBITED_COMMITMENT_PAYLOAD_FIELDS : List JsString :=
  [js "freightPriceCents", js "proposedPickupAt", js "estimatedDelivery", js "reservationPaymentOptions",
   js "paymentOptions", js "commitmentSalt", js "salt", js "nonce", js "signature", js "signedBid",
   js "signedBidEnvelope", js "bid", js "fullBid", js "privateKey"]

/-- Fields that must never appear in reservation evidence. -/
def PROHIBITED_ROUTE_RESERVED_PAYLOAD_FIELDS : List JsString :=
  [js "freightPriceCents", js "commitmentSalt", js "salt", js "nonce", js "signature", js "signedBid",
   js "signedBidEnvelope", js "privateKey", js "paymentPayload", js "signedPaymentPayload", js "fullBid", js "bid"]

/-- The first prohibited field that the payload has, in the order of the list. -/
def assertNoProhibitedFields (messageType : HcsMessageType) (prohibited : List JsString)
    (payload : List (JsString × Json)) : Except HcsEnvelopeError Unit :=
  match prohibited.find? fun field => (payload.map Prod.fst).contains field with
  | none => .ok ()
  | some field =>
    .error (.envelope (messageType.text ++ js " payload must not contain private field: " ++ field))

/-- A strict schema: no field but those it names. -/
def onlyFields (known : List JsString) (fields : List (JsString × Json)) : Option Unit :=
  if fields.all fun f => known.contains f.1 then some () else none

def readAuctionOpenPayload (fields : List (JsString × Json)) : Option AuctionOpenPayload := do
  let tenderId ← readStr fields (js "tenderId")
  let tenderVersion ← readNum fields (js "tenderVersion")
  let tenderHash ← readStr fields (js "tenderHash")
  let auctionEndsAt ← readStr fields (js "auctionEndsAt")
  readConstant fields (js "selectionPolicy") SELECTION_POLICY
  readConstant fields (js "engineVersion") ENGINE_VERSION
  let rulesHash ← readStr fields (js "rulesHash")
  let payload : AuctionOpenPayload := { tenderId, tenderVersion, tenderHash, auctionEndsAt, rulesHash }
  if payload.valid then some payload else none

def readBidCommitmentPayload (fields : List (JsString × Json)) : Option BidCommitmentPayload := do
  let bidId ← readStr fields (js "bidId")
  let carrierId ← readStr fields (js "carrierId")
  let bidHash ← readStr fields (js "bidHash")
  let acceptanceReceiptHash ← readStr fields (js "acceptanceReceiptHash")
  let bidVersion ← readNum fields (js "bidVersion")
  readConstant fields (js "commitmentSchemaVersion") COMMITMENT_SCHEMA_VERSION
  onlyFields [js "bidId", js "carrierId", js "bidHash", js "acceptanceReceiptHash", js "bidVersion",
    js "commitmentSchemaVersion"] fields
  let payload : BidCommitmentPayload := { bidId, carrierId, bidHash, acceptanceReceiptHash, bidVersion }
  if payload.valid then some payload else none

def readAuctionCloseBarrierPayload (fields : List (JsString × Json)) : Option AuctionCloseBarrierPayload := do
  let barrierId ← readStr fields (js "barrierId")
  let tenderId ← readStr fields (js "tenderId")
  let tenderVersion ← readNum fields (js "tenderVersion")
  let tenderHash ← readStr fields (js "tenderHash")
  let auctionEndsAt ← readStr fields (js "auctionEndsAt")
  let expectedCommitmentCount ← readNum fields (js "expectedCommitmentCount")
  let commitmentEnvelopeHashes ← readStrs fields (js "commitmentEnvelopeHashes")
  readConstant fields (js "closePolicy") CLOSE_POLICY
  let payload : AuctionCloseBarrierPayload :=
    { barrierId, tenderId, tenderVersion, tenderHash, auctionEndsAt, expectedCommitmentCount,
      commitmentEnvelopeHashes }
  if payload.valid then some payload else none

def readOptionId (text : JsString) : Option ReservationOptionId :=
  if text = js "USDC" then some .usdc else if text = js "HBAR" then some .hbar else none

def readRouteReservedPayload (fields : List (JsString × Json)) : Option RouteReservedPayload := do
  let reservationId ← readStr fields (js "reservationId")
  let winningBidId ← readStr fields (js "winningBidId")
  let carrierId ← readStr fields (js "carrierId")
  let carrierAccount ← readStr fields (js "carrierAccount")
  let selectedOptionId ← (readStr fields (js "selectedOptionId")).bind readOptionId
  let paymentAsset ← readStr fields (js "paymentAsset")
  let paymentAmountAtomic ← readStr fields (js "paymentAmountAtomic")
  let payerAccount ← readStr fields (js "payerAccount")
  let paymentTransactionId ← readStr fields (js "paymentTransactionId")
  let paymentConsensusTimestamp ← readStr fields (js "paymentConsensusTimestamp")
  let reservationRecordHash ← readStr fields (js "reservationRecordHash")
  let closeBarrierSequence ← readNum fields (js "closeBarrierSequence")
  let reservationEvidenceVersion ← readStr fields (js "reservationEvidenceVersion")
  onlyFields [js "reservationId", js "winningBidId", js "carrierId", js "carrierAccount", js "selectedOptionId",
    js "paymentAsset", js "paymentAmountAtomic", js "payerAccount", js "paymentTransactionId",
    js "paymentConsensusTimestamp", js "reservationRecordHash", js "closeBarrierSequence",
    js "reservationEvidenceVersion"] fields
  let payload : RouteReservedPayload :=
    { reservationId, winningBidId, carrierId, carrierAccount, selectedOptionId, paymentAsset, paymentAmountAtomic,
      payerAccount, paymentTransactionId, paymentConsensusTimestamp, reservationRecordHash, closeBarrierSequence,
      reservationEvidenceVersion }
  if payload.valid then some payload else none

/-- The shell of a message, its payload not yet read. -/
structure EnvelopeShell where
  schemaVersion : JsString
  messageType : HcsMessageType
  runId : JsString
  tenderId : JsString
  tenderVersion : Int
  tenderHash : JsString
  createdAt : JsString
  payloadHash : JsString
  payload : List (JsString × Json)

/-- `EnvelopeShellSchema`'s bounds. -/
def EnvelopeShell.bounds (shell : EnvelopeShell) : Bool :=
  bounded 64 shell.schemaVersion && bounded 128 shell.runId && bounded 128 shell.tenderId && bounded 80 shell.tenderHash &&
    bounded 256 shell.createdAt && bounded 80 shell.payloadHash

def readMessageType (text : JsString) : Option HcsMessageType := HCS_MESSAGE_TYPES.find? fun t => t.text = text

def readEnvelopeShell (fields : List (JsString × Json)) : Option EnvelopeShell := do
  let schemaVersion ← readStr fields (js "schemaVersion")
  let messageType ← (readStr fields (js "messageType")).bind readMessageType
  let runId ← readStr fields (js "runId")
  let tenderId ← readStr fields (js "tenderId")
  let tenderVersion ← readNum fields (js "tenderVersion")
  let tenderHash ← readStr fields (js "tenderHash")
  let createdAt ← readStr fields (js "createdAt")
  let payloadHash ← readStr fields (js "payloadHash")
  let payload ← readObj fields (js "payload")
  let shell : EnvelopeShell :=
    { schemaVersion, messageType, runId, tenderId, tenderVersion, tenderHash, createdAt, payloadHash, payload }
  if shell.bounds then some shell else none

/-- The payload under its own schema, and under the checks that its message type adds. -/
def readPayload (shell : EnvelopeShell) : Except HcsEnvelopeError HcsPayload :=
  match shell.messageType with
  | .AUCTION_OPEN =>
    match readAuctionOpenPayload shell.payload with
    | none => .error (.schema .AUCTION_OPEN)
    | some payload => do
      assertPayloadTender (js "OPEN") payload.tenderId payload.tenderVersion payload.tenderHash shell.tenderId
        shell.tenderVersion shell.tenderHash
      pure (.auctionOpen payload)
  | .BID_COMMITMENT => do
    assertNoProhibitedFields .BID_COMMITMENT PROHIBITED_COMMITMENT_PAYLOAD_FIELDS shell.payload
    match readBidCommitmentPayload shell.payload with
    | none => .error (.schema .BID_COMMITMENT)
    | some payload => pure (.bidCommitment payload)
  | .AUCTION_CLOSE_BARRIER =>
    match readAuctionCloseBarrierPayload shell.payload with
    | none => .error (.schema .AUCTION_CLOSE_BARRIER)
    | some payload => do
      assertPayloadTender (js "BARRIER") payload.tenderId payload.tenderVersion payload.tenderHash shell.tenderId
        shell.tenderVersion shell.tenderHash
      pure (.auctionCloseBarrier payload)
  | .ROUTE_RESERVED => do
    assertNoProhibitedFields .ROUTE_RESERVED PROHIBITED_ROUTE_RESERVED_PAYLOAD_FIELDS shell.payload
    match readRouteReservedPayload shell.payload with
    | none => .error (.schema .ROUTE_RESERVED)
    | some payload => pure (.routeReserved payload)

/-- The message as an object. The list of schema issues that ends the message of a malformed shell is not spelled out. -/
def decodeFields (fields : List (JsString × Json)) : Except HcsEnvelopeError HcsEnvelope :=
  match readEnvelopeShell fields with
  | none => .error (.envelope (js "Malformed HCS envelope"))
  | some shell => do
    require (shell.schemaVersion = HCS_SCHEMA_VERSION)
      (.envelope (js "Unsupported HCS schema version: " ++ shell.schemaVersion))
    require (isSafePositiveInteger shell.tenderVersion)
      (.envelope (js "tenderVersion must be a positive safe integer"))
    require (isUtcIsoTimestamp shell.createdAt) (.envelope (js "createdAt must be a valid UTC ISO-8601 timestamp"))
    require (isSha256 shell.tenderHash ∧ isSha256 shell.payloadHash)
      (.envelope (js "envelope hashes must be sha256:<64 lowercase hex>"))
    require (computePayloadHash p shell.payload = shell.payloadHash)
      (.envelope (js "payloadHash mismatch: envelope integrity check failed"))
    let payload ← readPayload shell
    let envelope : HcsEnvelope :=
      { runId := shell.runId
        tenderId := shell.tenderId
        tenderVersion := shell.tenderVersion
        tenderHash := shell.tenderHash
        createdAt := shell.createdAt
        payloadHash := shell.payloadHash
        payload := payload }
    assertHcsMessageSize envelope
    pure envelope

/-- A text is parsed first. -/
def decodeHcsEnvelope (raw : Json) : Except HcsEnvelopeError HcsEnvelope :=
  let parsed := match raw with
    | .str text => Json.parse text
    | value => some value
  match parsed with
  | none => .error (.envelope (js "HCS message is not valid JSON"))
  | some (.obj fields) => decodeFields p fields
  | some _ => .error (.envelope (js "HCS message must be a JSON object"))

/-- The bytes of a message body. -/
def decodeHcsEnvelopeFromBytes (bytes : List Nat) : Except HcsEnvelopeError HcsEnvelope :=
  match TextCodec.decodeUtf8 bytes with
  | none => .error (.envelope (js "The encoded data was not valid for encoding utf-8"))
  | some text => decodeHcsEnvelope p (.str text)

def decodeHcsEnvelopeFromBase64 (base64 : JsString) : Except HcsEnvelopeError HcsEnvelope :=
  decodeHcsEnvelopeFromBytes p (TextCodec.fromBase64 base64)

end Hashing

end RouteGuard.Hcs
