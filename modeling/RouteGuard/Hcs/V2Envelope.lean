import RouteGuard.Hcs.RoundTrip
import RouteGuard.Lib.PlainText
import RouteGuard.Lib.Sorting

/-!
# Public evidence, second version

A message is checked for fields that must not be published, for the exact fields of its type and for its size. A payload
is an object like any other until it is validated.

* `assertHcsV2PublicSafe` : no prohibited field at any depth;
* `validatePayload` : the fields of each message type;
* `buildHcsV2Envelope` : the envelope of a validated payload.
-/

namespace RouteGuard.Hcs.V2
open JsString Json Guarded Access Store Sorting

def HCS_V2_SCHEMA_VERSION : JsString := js "routeguard-hcs-2.0"

def HCS_V2_MAX_MESSAGE_BYTES : Nat := 1024

def HCS_V2_MAX_ID_CHARS : Nat := 64

def HCS_V2_DISPUTE_REASON_CODES : List JsString :=
  [js "DAMAGED", js "MISSING_DOCUMENT", js "SEAL_MISMATCH", js "DELIVERY_EXCEPTION", js "OTHER_STRUCTURED"]

inductive HcsV2MessageType where
  | TENDER_OPENED | BID_COMMITMENT | AUCTION_CLOSE_BARRIER | WINNER_SELECTED | WINNER_ALLOCATED | ROUTE_RESERVED
  | POD_SUBMITTED | POD_ADVISORY_ANCHORED | POD_REVIEW_ACTION | POD_DEEMED_ACCEPTED | DISPUTE_OPENED
  | REFEREE_RESOLUTION | ESCROW_RELEASED | ESCROW_PARTIAL | ESCROW_REFUNDED | TENDER_COMPLETED
  deriving DecidableEq, Repr

def HcsV2MessageType.text : HcsV2MessageType → JsString
  | .TENDER_OPENED => js "TENDER_OPENED"
  | .BID_COMMITMENT => js "BID_COMMITMENT"
  | .AUCTION_CLOSE_BARRIER => js "AUCTION_CLOSE_BARRIER"
  | .WINNER_SELECTED => js "WINNER_SELECTED"
  | .WINNER_ALLOCATED => js "WINNER_ALLOCATED"
  | .ROUTE_RESERVED => js "ROUTE_RESERVED"
  | .POD_SUBMITTED => js "POD_SUBMITTED"
  | .POD_ADVISORY_ANCHORED => js "POD_ADVISORY_ANCHORED"
  | .POD_REVIEW_ACTION => js "POD_REVIEW_ACTION"
  | .POD_DEEMED_ACCEPTED => js "POD_DEEMED_ACCEPTED"
  | .DISPUTE_OPENED => js "DISPUTE_OPENED"
  | .REFEREE_RESOLUTION => js "REFEREE_RESOLUTION"
  | .ESCROW_RELEASED => js "ESCROW_RELEASED"
  | .ESCROW_PARTIAL => js "ESCROW_PARTIAL"
  | .ESCROW_REFUNDED => js "ESCROW_REFUNDED"
  | .TENDER_COMPLETED => js "TENDER_COMPLETED"

/-- An object, as its fields. -/
abbrev HcsV2Payload := List (JsString × Json)

/-! ## Privacy -/

def HCS_V2_PROHIBITED_FIELD_NAMES : List JsString :=
  [js "name", js "names", js "fullName", js "postalAddress", js "address", js "phone", js "phoneNumber", js "email",
   js "emailAddress", js "signatureImage", js "podImage", js "podImages", js "plateNumber", js "licensePlate",
   js "privateKey", js "paymentPayload", js "signedPaymentPayload", js "disputeNarrative", js "unrestrictedNarrative",
   js "plaintext", js "podPlaintext", js "documentBytes", js "ciphertext", js "encryptedDocument"]

/-- The lower case of a code unit, where it is ASCII: of the other letters only the Kelvin sign has such a one. -/
def lowerUnit (u : UInt16) : UInt16 :=
  if 0x41 ≤ u && u ≤ 0x5A then u + 0x20 else if u = 0x212A then 0x6B else u

/-- `key.toLowerCase()`, as far as it can be one of the names above. -/
def toLowerCase (key : JsString) : JsString := key.map lowerUnit

def isProhibited (key : JsString) : Bool :=
  HCS_V2_PROHIBITED_FIELD_NAMES.any fun banned => key = banned || toLowerCase key = toLowerCase banned

mutual

def assertHcsV2PublicSafe (path : JsString) : Json → Except JsString Unit
  | .arr items => assertItemsPublicSafe path 0 items
  | .obj fields => assertFieldsPublicSafe path fields
  | _ => .ok ()

def assertItemsPublicSafe (path : JsString) (i : Nat) : List Json → Except JsString Unit
  | [] => .ok ()
  | item :: rest => do
    assertHcsV2PublicSafe (path ++ js "[" ++ decimal i ++ js "]") item
    assertItemsPublicSafe path (i + 1) rest

def assertFieldsPublicSafe (path : JsString) : List (JsString × Json) → Except JsString Unit
  | [] => .ok ()
  | (key, value) :: rest => do
    require (isProhibited key = false)
      (js "HCS v2 privacy violation: prohibited field \"" ++ key ++ js "\" at " ++ path)
    assertHcsV2PublicSafe (path ++ js "." ++ key) value
    assertFieldsPublicSafe path rest

end

/-! ## Fields of a payload -/

def isIdUnit (u : UInt16) : Bool :=
  (0x41 ≤ u && u ≤ 0x5A) || (0x61 ≤ u && u ≤ 0x7A) || (0x30 ≤ u && u ≤ 0x39) || u ∈ js "._:@/-"

/-- A structured public identifier. -/
def isPublicId (value : JsString) : Bool := value ≠ [] && value.length ≤ HCS_V2_MAX_ID_CHARS && value.all isIdUnit

def assertId (label value : JsString) : Except JsString Unit :=
  require (isPublicId value) (label ++ js " must be a structured public identifier <= 64 chars")

def assertHash (label value : JsString) : Except JsString Unit :=
  require (isSha256 value) (label ++ js " must be sha256:<64 hex>")

section Fields
variable (payload : HcsV2Payload) (key : JsString)

/-- `String(payload.key)`. -/
def fieldText : Except JsString JsString :=
  match ((payload.lookup key).map toText).getD (some (js "undefined")) with
  | some text => .ok text
  | none => .error (js "Cannot convert object to primitive value")

/-- The text of a field passes a check, or the field is invalid. -/
def checkText (check : JsString → Bool) : Except JsString Unit := do
  let text ← fieldText payload key
  require (check text) (key ++ js " invalid")

def checkId : Except JsString Unit := do
  let text ← fieldText payload key
  assertId key text

def checkHash : Except JsString Unit := do
  let text ← fieldText payload key
  assertHash key text

def checkPositiveAtomic : Except JsString Unit := checkText payload key isPositiveAtomicString

def checkNonNegativeAtomic : Except JsString Unit := checkText payload key isNonNegativeAtomicString

def checkUtc : Except JsString Unit := checkText payload key isUtcIsoTimestamp

def checkAccount : Except JsString Unit := checkText payload key isValidHederaAccountId

def checkSafePositive : Except JsString Unit :=
  require (((payload.lookup key).bind asNum).any isSafePositiveInteger) (key ++ js " invalid")

/-- The field is one of some texts. -/
def checkOneOf (texts : List JsString) (message : JsString) : Except JsString Unit :=
  require (((payload.lookup key).bind asStr).any fun text => text ∈ texts) message

end Fields

def PAYLOAD_KEYS : HcsV2MessageType → List JsString
  | .TENDER_OPENED => [js "accessPaymentTxId", js "maxBudgetAtomic", js "auctionEndsAt", js "selectionPolicy"]
  | .BID_COMMITMENT => [js "bidId", js "carrierId", js "bidHash", js "accessPaymentTxId"]
  | .AUCTION_CLOSE_BARRIER => [js "barrierId", js "auctionEndsAt", js "expectedCommitmentCount", js "bidSetHash"]
  | .WINNER_SELECTED => [js "winningBidId", js "carrierId", js "winningAmountAtomic", js "decisionManifestHash"]
  | .WINNER_ALLOCATED =>
    [js "winningBidId", js "winnerAccount", js "winningAmountAtomic", js "excessRefundAtomic", js "allocateTxId",
     js "refundTxId", js "decisionManifestHash"]
  | .ROUTE_RESERVED =>
    [js "reservationId", js "winningBidId", js "carrierAccount", js "lockedAmountAtomic", js "allocateTxId",
     js "reservationRecordHash"]
  | .POD_SUBMITTED => [js "podId", js "podVersion", js "contentHash", js "ciphertextHash", js "sizeBytes"]
  | .POD_ADVISORY_ANCHORED => [js "podId", js "reportHash", js "binding"]
  | .POD_REVIEW_ACTION => [js "podId", js "action", js "reviewDeadlineAt"]
  | .POD_DEEMED_ACCEPTED => [js "podId", js "reviewDeadlineAt", js "tickActionId"]
  | .DISPUTE_OPENED => [js "disputeId", js "podId", js "reasonCode"]
  | .REFEREE_RESOLUTION =>
    [js "disputeId", js "podId", js "resolution", js "releaseAmountAtomic", js "refundAmountAtomic", js "resolutionHash"]
  | .ESCROW_RELEASED => [js "releaseTxId", js "amountAtomic", js "winnerAccount"]
  | .ESCROW_PARTIAL => [js "releaseTxId", js "refundTxId", js "releaseAmountAtomic", js "refundAmountAtomic"]
  | .ESCROW_REFUNDED => [js "refundTxId", js "amountAtomic", js "shipperAccount"]
  | .TENDER_COMPLETED => [js "finalState", js "completionRef"]

def assertExactPayloadKeys (messageType : HcsV2MessageType) (payload : HcsV2Payload) : Except JsString Unit :=
  require (sortOn id (payload.map Prod.fst) = sortOn id (PAYLOAD_KEYS messageType))
    (messageType.text ++ js " payload contains missing or unsupported fields")

def validateFields (p : HcsV2Payload) : HcsV2MessageType → Except JsString Unit
  | .TENDER_OPENED => do
    checkId p (js "accessPaymentTxId")
    checkPositiveAtomic p (js "maxBudgetAtomic")
    checkUtc p (js "auctionEndsAt")
    checkOneOf p (js "selectionPolicy") [js "LOWEST_QUALIFIED_PRICE_V1"] (js "selectionPolicy invalid")
  | .BID_COMMITMENT => do
    checkId p (js "bidId")
    checkId p (js "carrierId")
    checkHash p (js "bidHash")
    checkId p (js "accessPaymentTxId")
  | .AUCTION_CLOSE_BARRIER => do
    checkId p (js "barrierId")
    checkUtc p (js "auctionEndsAt")
    checkSafePositive p (js "expectedCommitmentCount")
    checkHash p (js "bidSetHash")
  | .WINNER_SELECTED => do
    checkId p (js "winningBidId")
    checkId p (js "carrierId")
    checkPositiveAtomic p (js "winningAmountAtomic")
    checkHash p (js "decisionManifestHash")
  | .WINNER_ALLOCATED => do
    -- refundTxId is not looked at
    checkId p (js "winningBidId")
    checkAccount p (js "winnerAccount")
    checkPositiveAtomic p (js "winningAmountAtomic")
    checkNonNegativeAtomic p (js "excessRefundAtomic")
    checkId p (js "allocateTxId")
    checkHash p (js "decisionManifestHash")
  | .ROUTE_RESERVED => do
    checkId p (js "reservationId")
    checkId p (js "winningBidId")
    checkAccount p (js "carrierAccount")
    checkPositiveAtomic p (js "lockedAmountAtomic")
    checkId p (js "allocateTxId")
    checkHash p (js "reservationRecordHash")
  | .POD_SUBMITTED => do
    checkId p (js "podId")
    checkSafePositive p (js "podVersion")
    checkHash p (js "contentHash")
    checkHash p (js "ciphertextHash")
    checkSafePositive p (js "sizeBytes")
  | .POD_ADVISORY_ANCHORED => do
    checkId p (js "podId")
    checkHash p (js "reportHash")
    checkOneOf p (js "binding") [js "NON_BINDING_ADVISORY"] (js "binding must be NON_BINDING_ADVISORY")
  | .POD_REVIEW_ACTION => do
    checkId p (js "podId")
    checkOneOf p (js "action") [js "ACCEPT", js "REQUEST_CORRECTION", js "REJECT_DISPUTE"] (js "action invalid")
    checkUtc p (js "reviewDeadlineAt")
  | .POD_DEEMED_ACCEPTED => do
    checkId p (js "podId")
    checkUtc p (js "reviewDeadlineAt")
    checkId p (js "tickActionId")
  | .DISPUTE_OPENED => do
    checkId p (js "disputeId")
    checkId p (js "podId")
    checkOneOf p (js "reasonCode") HCS_V2_DISPUTE_REASON_CODES
      (js "reasonCode must be a structured dispute reason code")
  | .REFEREE_RESOLUTION => do
    checkId p (js "disputeId")
    checkId p (js "podId")
    checkOneOf p (js "resolution") [js "RELEASE_FULL", js "REFUND_FULL", js "PARTIAL"] (js "resolution invalid")
    checkNonNegativeAtomic p (js "releaseAmountAtomic")
    checkNonNegativeAtomic p (js "refundAmountAtomic")
    checkHash p (js "resolutionHash")
  | .ESCROW_RELEASED => do
    checkId p (js "releaseTxId")
    checkPositiveAtomic p (js "amountAtomic")
    checkAccount p (js "winnerAccount")
  | .ESCROW_PARTIAL => do
    checkId p (js "releaseTxId")
    checkId p (js "refundTxId")
    checkNonNegativeAtomic p (js "releaseAmountAtomic")
    checkNonNegativeAtomic p (js "refundAmountAtomic")
  | .ESCROW_REFUNDED => do
    checkId p (js "refundTxId")
    checkPositiveAtomic p (js "amountAtomic")
    checkAccount p (js "shipperAccount")
  | .TENDER_COMPLETED => checkId p (js "completionRef")

def validatePayload (messageType : HcsV2MessageType) (payload : HcsV2Payload) : Except JsString Unit := do
  assertExactPayloadKeys messageType payload
  validateFields payload messageType

/-! ## Envelopes -/

structure BuildHcsV2EnvelopeInput where
  messageType : HcsV2MessageType
  tenderId : JsString
  tenderVersion : Int
  tenderHash : JsString
  createdAt : JsString
  payload : HcsV2Payload

structure HcsV2Envelope where
  messageType : HcsV2MessageType
  tenderId : JsString
  tenderVersion : Int
  tenderHash : JsString
  createdAt : JsString
  payloadHash : JsString
  payload : HcsV2Payload

def HcsV2Envelope.fields (e : HcsV2Envelope) : List (JsString × Json) :=
  [(js "schemaVersion", .str HCS_V2_SCHEMA_VERSION), (js "messageType", .str e.messageType.text),
   (js "tenderId", .str e.tenderId), (js "tenderVersion", .num e.tenderVersion), (js "tenderHash", .str e.tenderHash),
   (js "createdAt", .str e.createdAt), (js "payloadHash", .str e.payloadHash), (js "payload", .obj e.payload)]

def utf8ByteLength (text : JsString) : Nat := (Sha256.utf8 text).length

def serializeHcsV2Envelope (e : HcsV2Envelope) : JsString := canonicalize (.obj e.fields)

def assertHcsV2EnvelopeWithinLimit (e : HcsV2Envelope) : Except JsString Unit :=
  require (utf8ByteLength (serializeHcsV2Envelope e) < HCS_V2_MAX_MESSAGE_BYTES)
    (js "HCS v2 envelope is " ++ decimal (utf8ByteLength (serializeHcsV2Envelope e)) ++ js " bytes; must be < 1024")

section Build
variable (p : Platform)

/-- The envelope of an input, before it is checked. -/
def BuildHcsV2EnvelopeInput.envelope (input : BuildHcsV2EnvelopeInput) : HcsV2Envelope where
  messageType := input.messageType
  tenderId := input.tenderId
  tenderVersion := input.tenderVersion
  tenderHash := input.tenderHash
  createdAt := input.createdAt
  payloadHash := canonicalSha256 p.sha256Hex (.obj input.payload)
  payload := input.payload

def buildHcsV2Envelope (input : BuildHcsV2EnvelopeInput) : Except JsString HcsV2Envelope := do
  assertId (js "tenderId") input.tenderId
  require (isSafePositiveInteger input.tenderVersion) (js "tenderVersion must be a positive safe integer")
  assertHash (js "tenderHash") input.tenderHash
  require (isUtcIsoTimestamp input.createdAt) (js "createdAt must be UTC ISO")
  assertHcsV2PublicSafe (js "$") (.obj input.payload)
  validatePayload input.messageType input.payload
  assertHcsV2PublicSafe (js "$") (.obj (input.envelope p).fields)
  assertHcsV2EnvelopeWithinLimit (input.envelope p)
  pure (input.envelope p)

end Build

/-! ## What is built -/

section Built
variable {p : Platform}

/-- An input that passes every check. -/
structure Buildable (p : Platform) (input : BuildHcsV2EnvelopeInput) : Prop where
  tenderId : isPublicId input.tenderId = true
  tenderVersion : isSafePositiveInteger input.tenderVersion = true
  tenderHash : isSha256 input.tenderHash = true
  createdAt : isUtcIsoTimestamp input.createdAt = true
  payloadSafe : assertHcsV2PublicSafe (js "$") (.obj input.payload) = .ok ()
  payload : validatePayload input.messageType input.payload = .ok ()
  envelopeSafe : assertHcsV2PublicSafe (js "$") (.obj (input.envelope p).fields) = .ok ()
  size : utf8ByteLength (serializeHcsV2Envelope (input.envelope p)) < HCS_V2_MAX_MESSAGE_BYTES

theorem buildHcsV2Envelope_eq_ok {input : BuildHcsV2EnvelopeInput} {e : HcsV2Envelope} :
    buildHcsV2Envelope p input = .ok e ↔ Buildable p input ∧ input.envelope p = e := by
  simp only [buildHcsV2Envelope, assertId, assertHash, assertHcsV2EnvelopeWithinLimit, check_eq_ok, require_eq_ok,
    pure_eq_ok]
  constructor
  · rintro ⟨h1, h2, h3, h4, h5, h6, h7, h8, h9⟩
    exact ⟨⟨h1, h2, h3, h4, h5, h6, h7, h8⟩, h9⟩
  · rintro ⟨h, h9⟩
    exact ⟨h.tenderId, h.tenderVersion, h.tenderHash, h.createdAt, h.payloadSafe, h.payload, h.envelopeSafe, h.size, h9⟩

end Built

/-! ## Plain formats -/

/-- A range that holds neither the quote nor the backslash. -/
theorem isPlain_of_range {u lo hi : UInt16} (hlo : lo ≤ u) (hhi : u ≤ hi)
    (h : 0x23 ≤ lo.toNat ∧ hi.toNat < 0x5C ∨ 0x5D ≤ lo.toNat ∧ hi.toNat < 0x80) : isPlain u = true := by
  rw [UInt16.le_iff_toNat_le] at hlo hhi
  refine isPlain_iff.mpr ⟨?_, ?_, ?_, ?_⟩ <;> omega

theorem isPlain_of_isIdUnit {u : UInt16} (h : isIdUnit u = true) : isPlain u = true := by
  simp only [isIdUnit, Bool.or_eq_true, Bool.and_eq_true, decide_eq_true_eq] at h
  rcases h with ((h | h) | h) | h
  · exact isPlain_of_range h.1 h.2 (by decide)
  · exact isPlain_of_range h.1 h.2 (by decide)
  · exact isPlain_of_range h.1 h.2 (by decide)
  · have hall : ∀ v ∈ js "._:@/-", isPlain v = true := List.all_eq_true.mp (by decide)
    exact hall u h

theorem plain_of_isPublicId {s : JsString} (h : isPublicId s = true) : Plain s ∧ s.length ≤ HCS_V2_MAX_ID_CHARS := by
  simp only [isPublicId, Bool.and_eq_true, decide_eq_true_eq] at h
  obtain ⟨⟨-, hlength⟩, hunits⟩ := h
  exact ⟨List.all_eq_true.mpr fun u hu => isPlain_of_isIdUnit (List.all_eq_true.mp hunits u hu), hlength⟩

theorem plain_of_isLowerHex {s : JsString} (h : s.all isLowerHex = true) : Plain s := by
  rw [Plain, List.all_eq_true]
  intro u hu
  have hhex := List.all_eq_true.mp h u hu
  simp only [isLowerHex, Bool.or_eq_true, Bool.and_eq_true, decide_eq_true_eq] at hhex
  rcases hhex with hhex | hhex
  · exact isPlain_of_range hhex.1 hhex.2 (by decide)
  · exact isPlain_of_range hhex.1 hhex.2 (by decide)

theorem plain_append {s t : JsString} : Plain (s ++ t) ↔ Plain s ∧ Plain t := by
  rw [Plain, List.all_append, Bool.and_eq_true]

theorem plain_of_isSha256 {s : JsString} (h : isSha256 s = true) : Plain s ∧ s.length ≤ 71 := by
  simp only [isSha256, Bool.and_eq_true, decide_eq_true_eq] at h
  obtain ⟨⟨hhead, hlength⟩, hhex⟩ := h
  obtain ⟨digest, rfl⟩ := List.isPrefixOf_iff_prefix.mp hhead
  have hseven : (js "sha256:").length = 7 := by decide
  rw [List.length_drop, List.length_append] at hlength
  rw [← hseven, List.drop_left] at hhex
  refine ⟨plain_append.mpr ⟨by decide, plain_of_isLowerHex hhex⟩, ?_⟩
  rw [List.length_append]
  omega

theorem plain_of_positiveAtomic {s : JsString} (h : isPositiveAtomicString s = true) : Plain s ∧ s.length ≤ 78 := by
  simp only [isPositiveAtomicString, Bool.and_eq_true, decide_eq_true_eq] at h
  refine ⟨plain_of_isDigit ?_, h.1⟩
  have hdecimal := h.2
  cases s with
  | nil => rfl
  | cons u rest =>
    simp only [isPositiveDecimal, Bool.and_eq_true] at hdecimal
    rw [List.all_cons, Bool.and_eq_true]
    exact hdecimal.1

theorem plain_of_takeDigits {n : Nat} {s d rest : JsString} (h : takeDigits n s = some (d, rest)) (hrest : Plain rest) :
    Plain s := by
  unfold takeDigits at h
  split at h
  next hc =>
    rw [Option.some.injEq, Prod.mk.injEq] at h
    rw [← List.take_append_drop n s, plain_append]
    exact ⟨plain_of_isDigit hc.2, h.2 ▸ hrest⟩
  next => exact absurd h (by simp)

theorem plain_of_takeUnit {u : UInt16} {s rest : JsString} (h : takeUnit u s = some rest) (hu : isPlain u = true)
    (hrest : Plain rest) : Plain s := by
  cases s with
  | nil => exact absurd h (by simp [takeUnit])
  | cons v s =>
    simp only [takeUnit] at h
    split at h
    next heq =>
      rw [Plain, List.all_cons, Bool.and_eq_true, heq, Option.some.inj h]
      exact ⟨hu, hrest⟩
    next => exact absurd h (by simp)

theorem plain_of_takeFraction {s frac : JsString} (h : takeFraction s = some frac) : Plain s := by
  cases s with
  | nil => rfl
  | cons u rest =>
    simp only [takeFraction] at h
    split at h
    next heq =>
      split at h
      next hnil =>
        rw [heq, hnil]
        decide
      next => exact absurd h (by simp)
    next =>
      split at h
      next heq =>
        split at h
        next hc =>
          have hdigits : Plain (rest.takeWhile isDigit) :=
            plain_of_isDigit (List.all_eq_true.mpr fun _ hu => List.mem_takeWhile_imp hu)
          have hsplit : rest = rest.takeWhile isDigit ++ [0x5A] := by
            have hhead := List.prefix_iff_eq_take.mp (List.takeWhile_prefix (l := rest) isDigit)
            have heq := List.take_append_drop (rest.takeWhile isDigit).length rest
            rw [hc.2.2, ← hhead] at heq
            exact heq.symm
          rw [Plain, List.all_cons, Bool.and_eq_true, heq, hsplit]
          exact ⟨by decide, plain_append.mpr ⟨hdigits, by decide⟩⟩
        next => exact absurd h (by simp)
      next => exact absurd h (by simp)

theorem plain_of_matchUtcIso {s : JsString} {m : UtcIsoMatch} (h : matchUtcIso s = some m) : Plain s := by
  simp only [matchUtcIso, Option.bind_eq_bind, Option.bind_eq_some_iff, Prod.exists] at h
  obtain ⟨_, s1, h1, s2, h2, _, s3, h3, s4, h4, _, s5, h5, s6, h6, _, s7, h7, s8, h8, _, s9, h9, s10, h10, _, s11,
    h11, frac, hfrac, -⟩ := h
  have hdash : isPlain 0x2D = true := by decide
  have hcolon : isPlain 0x3A = true := by decide
  have p10 := plain_of_takeDigits h11 (plain_of_takeFraction hfrac)
  have p8 := plain_of_takeDigits h9 (plain_of_takeUnit h10 hcolon p10)
  have p6 := plain_of_takeDigits h7 (plain_of_takeUnit h8 hcolon p8)
  have p4 := plain_of_takeDigits h5 (plain_of_takeUnit h6 (by decide) p6)
  have p2 := plain_of_takeDigits h3 (plain_of_takeUnit h4 hdash p4)
  exact plain_of_takeDigits h1 (plain_of_takeUnit h2 hdash p2)

theorem plain_of_isUtcIsoTimestamp {s : JsString} (h : isUtcIsoTimestamp s = true) : Plain s ∧ s.length ≤ 30 := by
  obtain ⟨n, hn⟩ := isUtcIsoTimestamp_iff.mp h
  obtain ⟨parsed, hp, -⟩ := instant_eq_some.mp hn
  simp only [parseUtcTimestamp, check_eq_ok] at hp
  obtain ⟨-, hp⟩ := hp
  split at hp
  next => exact absurd hp (by simp)
  next m hm => exact ⟨plain_of_matchUtcIso hm, (length_of_matchUtcIso hm).2⟩

end RouteGuard.Hcs.V2
