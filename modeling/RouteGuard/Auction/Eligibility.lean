import RouteGuard.Auction.Reconciliation

/-!
# Eligibility

One commitment is held against its submitted evidence. Invalid data become reason codes; only a conversion of a
signature or a timestamp of the auction itself can throw.

* `evaluateCommitmentEligibility`, `evaluateAllCommitments` : the evaluation;
* `Qualifies` : what a qualified bid is, without reason codes;
* `rankable_iff` : it is rankable exactly where its bid qualifies.
-/

namespace RouteGuard.Auction
open JsString Json Guarded Sorting Store

inductive EligibilityReasonCode where
  | LATE_COMMITMENT | FULL_BID_MISSING | BID_HASH_MISMATCH | BID_VERSION_MISMATCH | ACCEPTANCE_RECEIPT_MISMATCH
  | INVALID_BID_SIGNATURE | INVALID_COMMITMENT_SCHEMA | INVALID_BID_SCHEMA | INVALID_ACCEPTANCE_RECEIPT
  | CARRIER_NOT_REGISTERED | CARRIER_INACTIVE | CARRIER_ACCOUNT_MISMATCH | TENDER_MISMATCH | BID_EXPIRED
  | EQUIPMENT_MISMATCH | EQUIPMENT_NOT_AUTHORIZED | CAPACITY_NOT_CONFIRMED | PICKUP_WINDOW_INFEASIBLE
  | DELIVERY_DEADLINE_MISSED | PRICE_ABOVE_MAXIMUM | PAYMENT_RECIPIENT_MISMATCH | INVALID_PAYMENT_OPTIONS
  deriving DecidableEq, Repr

namespace EligibilityReasonCode

def text : EligibilityReasonCode → JsString
  | LATE_COMMITMENT => js "LATE_COMMITMENT"
  | FULL_BID_MISSING => js "FULL_BID_MISSING"
  | BID_HASH_MISMATCH => js "BID_HASH_MISMATCH"
  | BID_VERSION_MISMATCH => js "BID_VERSION_MISMATCH"
  | ACCEPTANCE_RECEIPT_MISMATCH => js "ACCEPTANCE_RECEIPT_MISMATCH"
  | INVALID_BID_SIGNATURE => js "INVALID_BID_SIGNATURE"
  | INVALID_COMMITMENT_SCHEMA => js "INVALID_COMMITMENT_SCHEMA"
  | INVALID_BID_SCHEMA => js "INVALID_BID_SCHEMA"
  | INVALID_ACCEPTANCE_RECEIPT => js "INVALID_ACCEPTANCE_RECEIPT"
  | CARRIER_NOT_REGISTERED => js "CARRIER_NOT_REGISTERED"
  | CARRIER_INACTIVE => js "CARRIER_INACTIVE"
  | CARRIER_ACCOUNT_MISMATCH => js "CARRIER_ACCOUNT_MISMATCH"
  | TENDER_MISMATCH => js "TENDER_MISMATCH"
  | BID_EXPIRED => js "BID_EXPIRED"
  | EQUIPMENT_MISMATCH => js "EQUIPMENT_MISMATCH"
  | EQUIPMENT_NOT_AUTHORIZED => js "EQUIPMENT_NOT_AUTHORIZED"
  | CAPACITY_NOT_CONFIRMED => js "CAPACITY_NOT_CONFIRMED"
  | PICKUP_WINDOW_INFEASIBLE => js "PICKUP_WINDOW_INFEASIBLE"
  | DELIVERY_DEADLINE_MISSED => js "DELIVERY_DEADLINE_MISSED"
  | PRICE_ABOVE_MAXIMUM => js "PRICE_ABOVE_MAXIMUM"
  | PAYMENT_RECIPIENT_MISMATCH => js "PAYMENT_RECIPIENT_MISMATCH"
  | INVALID_PAYMENT_OPTIONS => js "INVALID_PAYMENT_OPTIONS"

end EligibilityReasonCode

open EligibilityReasonCode

def REASON_CODE_ORDER : List EligibilityReasonCode :=
  [INVALID_COMMITMENT_SCHEMA, LATE_COMMITMENT, TENDER_MISMATCH, FULL_BID_MISSING, INVALID_BID_SCHEMA,
   BID_VERSION_MISMATCH, BID_HASH_MISMATCH, INVALID_ACCEPTANCE_RECEIPT, ACCEPTANCE_RECEIPT_MISMATCH,
   CARRIER_NOT_REGISTERED, CARRIER_INACTIVE, CARRIER_ACCOUNT_MISMATCH, INVALID_BID_SIGNATURE, BID_EXPIRED,
   EQUIPMENT_MISMATCH, EQUIPMENT_NOT_AUTHORIZED, CAPACITY_NOT_CONFIRMED, PICKUP_WINDOW_INFEASIBLE,
   DELIVERY_DEADLINE_MISSED, PRICE_ABOVE_MAXIMUM, INVALID_PAYMENT_OPTIONS, PAYMENT_RECIPIENT_MISMATCH]

inductive BidDecision where
  | QUALIFIED | REJECTED
  deriving DecidableEq, Repr

def BidDecision.text : BidDecision → JsString
  | .QUALIFIED => js "QUALIFIED"
  | .REJECTED => js "REJECTED"

structure EligibilityResult where
  bidId : JsString
  carrierId : JsString
  decision : BidDecision
  reasonCodes : List EligibilityReasonCode
  freightPriceCents : Option Int
  estimatedDelivery : Option JsString
  consensusTimestamp : JsString
  hcsSequence : Int
  bidHash : Option JsString
  timely : Bool
  submittedSignedBidPresent : Bool
  submittedSignedBidEnvelopeHash : Option JsString
  submittedReceiptPresent : Bool
  submittedReceiptEnvelopeHash : Option JsString
  fullBidSchemaValid : Option Bool
  receiptSchemaValid : Option Bool
  fullBidPresent : Bool
  validatedFullBidHash : Option JsString
  signedBidEnvelopeHash : Option JsString
  receiptPresent : Bool
  validatedReceiptHash : Option JsString
  bidVersionMatch : Option Bool
  signatureValid : Option Bool
  commitment : Option CommitmentEvidence
  deriving DecidableEq, Repr

/-- The codes of a set, each once, in their fixed order. -/
def orderReasonCodes (codes : List EligibilityReasonCode) : List EligibilityReasonCode :=
  REASON_CODE_ORDER.filter fun code => code ∈ codes

/-- The code is added where the condition holds. -/
def codeIf (c : Bool) (code : EligibilityReasonCode) : List EligibilityReasonCode := if c then [code] else []

/-- Null and undefined are not evidence. -/
def submitted : Option Json → Option Json
  | some .null => none
  | value => value

/-- What every bid of one auction is held against. -/
structure EvaluationTerms where
  tender : FreightTender
  registry : CarrierRegistry
  routeGuardPublicKey : JsString
  evaluationTimestamp : JsString

section Evaluation
variable (p : Platform)

def hashSubmittedEvidenceOrNull (value : Option Json) : Option JsString := value.map (canonicalSha256 p.sha256Hex)

/-- A result with what is known before the bid is read. -/
def emptyResult (signedBid receipt : Option Json) (reasonCodes : List EligibilityReasonCode)
    (bidId carrierId : JsString) (hcsSequence : Int) (consensusTimestamp : JsString) : EligibilityResult where
  bidId := bidId
  carrierId := carrierId
  decision := if (orderReasonCodes reasonCodes).length = 0 then .QUALIFIED else .REJECTED
  reasonCodes := orderReasonCodes reasonCodes
  freightPriceCents := none
  estimatedDelivery := none
  consensusTimestamp := consensusTimestamp
  hcsSequence := hcsSequence
  bidHash := none
  timely := false
  submittedSignedBidPresent := signedBid.isSome
  submittedSignedBidEnvelopeHash := hashSubmittedEvidenceOrNull p signedBid
  submittedReceiptPresent := receipt.isSome
  submittedReceiptEnvelopeHash := hashSubmittedEvidenceOrNull p receipt
  fullBidSchemaValid := none
  receiptSchemaValid := none
  fullBidPresent := signedBid.isSome
  validatedFullBidHash := none
  signedBidEnvelopeHash := none
  receiptPresent := receipt.isSome
  validatedReceiptHash := none
  bidVersionMatch := none
  signatureValid := none
  commitment := none

/-! ## Reading the submitted evidence -/

/-- The field of the envelope, or the value itself where the field is missing or null. -/
def bidBody (signedBid : Json) : Json :=
  match signedBid.property (js "bid") with
  | none => signedBid
  | some .null => signedBid
  | some body => body

structure ReadBid where
  bid : CarrierBid
  validatedFullBidHash : JsString
  envelopeHash : Option JsString

/-- The hash of the envelope, where its signature is a string. -/
def validatedEnvelopeHash (signedBid : Json) (bid : CarrierBid) : Option (Option JsString) :=
  match (signedBid.property (js "signature")).bind asStr with
  | some signature => (signedBidEnvelopeHash p bid signature).map some
  | none => some none

def readSubmittedBid (signedBid : Json) : Option ReadBid := do
  let bid ← parseCarrierBid (bidBody signedBid)
  let validatedFullBidHash ← bidHash p bid
  let envelopeHash ← validatedEnvelopeHash p signedBid bid
  pure { bid, validatedFullBidHash, envelopeHash }

def receiptBody (receipt : Json) : Json := (receipt.property (js "receipt")).getD receipt

/-- `String(value.signature)` where the value has a signature. -/
def signatureText (value : Json) : Option (Option JsString) := (value.property (js "signature")).map toText

structure ReceiptReview where
  receiptSchemaValid : Option Bool
  validatedReceiptHash : Option JsString
  reasonCodes : List EligibilityReasonCode

/-- A receipt that parses; `signature` is the text of its signature, if it has one. -/
def reviewParsedReceipt (terms : EvaluationTerms) (commitment : CommitmentEvidence) (read : ReadBid)
    (receipt : AcceptanceReceiptBody) (signature : Option JsString) : ReceiptReview :=
  let matchOk := receiptMatchesBid receipt read.bid.bidId terms.tender.tenderId read.validatedFullBidHash
  let hashOk := acceptanceReceiptHash p receipt = some commitment.acceptanceReceiptHash
  let sigOk := signature.any fun text => verifyAcceptanceReceiptSignature p receipt text terms.routeGuardPublicKey
  { receiptSchemaValid := some true
    validatedReceiptHash := acceptanceReceiptHash p receipt
    reasonCodes := codeIf (!matchOk || !hashOk || !sigOk) ACCEPTANCE_RECEIPT_MISMATCH }

def reviewReceipt (terms : EvaluationTerms) (commitment : CommitmentEvidence) (read : ReadBid) :
    Option Json → ReceiptReview
  | none => { receiptSchemaValid := none, validatedReceiptHash := none, reasonCodes := [ACCEPTANCE_RECEIPT_MISMATCH] }
  | some raw =>
    match parseAcceptanceReceiptBody (receiptBody raw) with
    | none =>
      { receiptSchemaValid := some false, validatedReceiptHash := none, reasonCodes := [INVALID_ACCEPTANCE_RECEIPT] }
    | some receipt =>
      match signatureText raw with
      -- the conversion throws after the hash was taken
      | some none =>
        { receiptSchemaValid := some false
          validatedReceiptHash := acceptanceReceiptHash p receipt
          reasonCodes := [INVALID_ACCEPTANCE_RECEIPT] }
      | some (some text) => reviewParsedReceipt p terms commitment read receipt (some text)
      | none => reviewParsedReceipt p terms commitment read receipt none

structure CarrierReview where
  signatureValid : Option Bool
  reasonCodes : List EligibilityReasonCode

/-- The signature of a bid; this conversion is not guarded. -/
def bidSignature (signedBid : Json) : Except AuctionError JsString :=
  match signatureText signedBid with
  | none => .ok []
  | some none => .error typeError
  | some (some text) => .ok text

def reviewCarrier (terms : EvaluationTerms) (signedBid : Json) (bid : CarrierBid) : Except AuctionError CarrierReview :=
  match terms.registry bid.carrierId with
  | none => .ok { signatureValid := none, reasonCodes := [CARRIER_NOT_REGISTERED] }
  | some carrier => do
    let signature ← bidSignature signedBid
    let signatureValid := verifyCarrierBidSignature p bid signature carrier.signingPublicKey
    pure
      { signatureValid := some signatureValid
        reasonCodes :=
          codeIf (!carrier.active) CARRIER_INACTIVE ++
          codeIf (carrier.carrierId ≠ bid.carrierId || carrier.carrierAccountId ≠ bid.carrierAccountId)
            CARRIER_ACCOUNT_MISMATCH ++
          codeIf (!signatureValid) INVALID_BID_SIGNATURE ++
          codeIf (bid.equipment ∉ carrier.allowedEquipment) EQUIPMENT_NOT_AUTHORIZED }

/-- The pickup lies outside its window; the second comparison is made where the first fails. -/
def pickupInfeasible (window : PickupWindow) (proposedPickupAt : JsString) : Except JsString Bool := do
  let early ← isBeforeUtc proposedPickupAt window.earliest
  if early then pure true else isBeforeUtc window.latest proposedPickupAt

/-- The terms of the bid. The check of the recipients cannot throw, so no bid has `INVALID_PAYMENT_OPTIONS`. -/
def reviewTerms (terms : EvaluationTerms) (bid : CarrierBid) : Except JsString (List EligibilityReasonCode) := do
  let expired ← isBeforeUtc bid.bidValidUntil terms.evaluationTimestamp
  let infeasible ← pickupInfeasible terms.tender.pickupWindow bid.proposedPickupAt
  let missed ← isBeforeUtc terms.tender.deliveryDeadline bid.estimatedDelivery
  pure
    (codeIf expired BID_EXPIRED ++
     codeIf (bid.equipment ≠ terms.tender.requiredEquipment) EQUIPMENT_MISMATCH ++
     codeIf (!bid.capacityConfirmed) CAPACITY_NOT_CONFIRMED ++
     codeIf infeasible PICKUP_WINDOW_INFEASIBLE ++
     codeIf missed DELIVERY_DEADLINE_MISSED ++
     codeIf (bid.freightPriceCents > terms.tender.maximumFreightPriceCents) PRICE_ABOVE_MAXIMUM ++
     codeIf (!assertPaymentRecipientsMatch bid.reservationPaymentOptions bid.carrierAccountId)
       PAYMENT_RECIPIENT_MISMATCH)

/-- The codes of a bid against its commitment. -/
def identityCodes (terms : EvaluationTerms) (commitment : CommitmentEvidence) (read : ReadBid) :
    List EligibilityReasonCode :=
  codeIf (read.bid.version ≠ commitment.bidVersion) BID_VERSION_MISMATCH ++
  codeIf (read.validatedFullBidHash ≠ commitment.bidHash) BID_HASH_MISMATCH ++
  codeIf (read.bid.tenderId ≠ terms.tender.tenderId || read.bid.bidId ≠ commitment.bidId) TENDER_MISMATCH ++
  codeIf (read.bid.carrierId ≠ commitment.carrierId) CARRIER_ACCOUNT_MISMATCH

/-! ## One commitment -/

/-- The rest of the evaluation, with a bid that parses. -/
def evaluateReadBid (terms : EvaluationTerms) (commitment : CommitmentEvidence) (timely : Bool)
    (codes : List EligibilityReasonCode) (signedBid : Json) (receipt : Option Json) (read : ReadBid) :
    Except AuctionError EligibilityResult := do
  let receiptReview := reviewReceipt p terms commitment read receipt
  let carrierReview ← reviewCarrier p terms signedBid read.bid
  let termCodes ← (reviewTerms terms read.bid).mapError .other
  pure
    { emptyResult p (some signedBid) receipt
        (codes ++ identityCodes terms commitment read ++ receiptReview.reasonCodes ++ carrierReview.reasonCodes ++ termCodes)
        commitment.bidId commitment.carrierId commitment.hcsSequence commitment.consensusTimestamp with
      freightPriceCents := some read.bid.freightPriceCents
      estimatedDelivery := some read.bid.estimatedDelivery
      bidHash := some read.validatedFullBidHash
      timely := timely
      fullBidPresent := true
      fullBidSchemaValid := some true
      receiptSchemaValid := receiptReview.receiptSchemaValid
      validatedFullBidHash := some read.validatedFullBidHash
      signedBidEnvelopeHash := read.envelopeHash
      receiptPresent := receipt.isSome
      validatedReceiptHash := receiptReview.validatedReceiptHash
      bidVersionMatch := some (read.bid.version = commitment.bidVersion)
      signatureValid := carrierReview.signatureValid
      commitment := some commitment }

/-- The evaluation of a parsed commitment. -/
def evaluateParsed (terms : EvaluationTerms) (commitment : CommitmentEvidence) (signedBid receipt : Option Json) :
    Except AuctionError EligibilityResult := do
  let timely ← (isCommitmentTimely commitment.consensusTimestamp terms.tender.auctionEndsAt).mapError .other
  let codes := codeIf (!timely) LATE_COMMITMENT ++ codeIf (commitment.tenderId ≠ terms.tender.tenderId) TENDER_MISMATCH
  match signedBid with
  | none =>
    pure
      { emptyResult p signedBid receipt (codes ++ [FULL_BID_MISSING]) commitment.bidId commitment.carrierId
          commitment.hcsSequence commitment.consensusTimestamp with
        timely := timely
        fullBidPresent := false
        commitment := some commitment }
  | some signed =>
    match readSubmittedBid p signed with
    | none =>
      pure
        { emptyResult p signedBid receipt (codes ++ [INVALID_BID_SCHEMA]) commitment.bidId commitment.carrierId
            commitment.hcsSequence commitment.consensusTimestamp with
          timely := timely
          fullBidPresent := true
          fullBidSchemaValid := some false
          commitment := some commitment }
    | some read => evaluateReadBid p terms commitment timely codes signed receipt read

def evaluateCommitmentEligibility (terms : EvaluationTerms) (commitment : Json) (signedBid signedReceipt : Option Json) :
    Except AuctionError EligibilityResult :=
  match parseCommitmentEvidence commitment with
  | none =>
    .ok (emptyResult p (submitted signedBid) (submitted signedReceipt) [INVALID_COMMITMENT_SCHEMA] (js "unknown")
      (js "unknown") 0 (js "1970-01-01T00:00:00.000000000Z"))
  | some parsed => evaluateParsed p terms parsed (submitted signedBid) (submitted signedReceipt)

/-! ## All commitments -/

/-- The bid id under which the evidence of a commitment is looked up. -/
def lookupBidId (commitment : Json) : Option JsString :=
  ((commitment.property (js "bidId")).bind asStr).filter fun bidId => bidId ≠ []

def EligibilityResult.key (r : EligibilityResult) : Int ×ₗ JsString := sequenceKey r.hcsSequence r.bidId

def evaluateAllCommitments (terms : EvaluationTerms) (commitments : List Json)
    (fullBids acceptanceReceipts : List (JsString × Json)) : Except AuctionError (List EligibilityResult) := do
  let results ← commitments.mapM fun commitment =>
    evaluateCommitmentEligibility p terms commitment ((lookupBidId commitment).bind fun bidId => fullBids.lookup bidId)
      ((lookupBidId commitment).bind fun bidId => acceptanceReceipts.lookup bidId)
  pure (sortOn EligibilityResult.key results)

end Evaluation

/-- Only timely qualified bids enter the ranking. -/
def isRankable (result : EligibilityResult) : Bool := result.decision = .QUALIFIED && result.timely

/-! ## What a qualified bid is -/

/-- Both are timestamps, and the first is no later than the second. -/
def NotAfter (a b : JsString) : Prop := ∃ x y, instant a = some x ∧ instant b = some y ∧ x ≤ y

section Qualification
variable (p : Platform) (terms : EvaluationTerms)

/-- A receipt for the bid under the hash of the commitment, signed by the exchange. -/
def ReceiptMatches (receipt : Json) (c : CommitmentEvidence) (bid : CarrierBid) : Prop :=
  ∃ body text, parseAcceptanceReceiptBody (receiptBody receipt) = some body ∧ body.bidId = bid.bidId ∧
    body.tenderId = terms.tender.tenderId ∧ body.bidHash = canonicalSha256 p.sha256Hex bid.toJson ∧
    canonicalSha256 p.sha256Hex body.toJson = c.acceptanceReceiptHash ∧ signatureText receipt = some (some text) ∧
    verifyCanonicalPayload p body.toJson text terms.routeGuardPublicKey = true

/-- The bid is signed with the key of an active carrier, which may use its equipment. -/
def CarrierMatches (signedBid : Json) (bid : CarrierBid) : Prop :=
  ∃ carrier text, terms.registry bid.carrierId = some carrier ∧ carrier.active = true ∧
    carrier.carrierId = bid.carrierId ∧ carrier.carrierAccountId = bid.carrierAccountId ∧
    signatureText signedBid = some (some text) ∧
    verifyCanonicalPayload p bid.toJson text carrier.signingPublicKey = true ∧ bid.equipment ∈ carrier.allowedEquipment

/-- The conditions of the tender. -/
structure TermsMet (bid : CarrierBid) : Prop where
  validity : NotAfter terms.evaluationTimestamp bid.bidValidUntil
  equipment : bid.equipment = terms.tender.requiredEquipment
  capacity : bid.capacityConfirmed = true
  pickup : NotAfter terms.tender.pickupWindow.earliest bid.proposedPickupAt ∧
    NotAfter bid.proposedPickupAt terms.tender.pickupWindow.latest
  delivery : NotAfter bid.estimatedDelivery terms.tender.deliveryDeadline
  price : bid.freightPriceCents ≤ terms.tender.maximumFreightPriceCents
  recipients : ∀ option ∈ bid.reservationPaymentOptions, option.payTo = bid.carrierAccountId

/-- The commitment and its evidence satisfy every condition. -/
structure Qualifies (signedBid receipt : Json) (c : CommitmentEvidence) (bid : CarrierBid) : Prop where
  timely : NotAfter c.consensusTimestamp terms.tender.auctionEndsAt
  tender : c.tenderId = terms.tender.tenderId
  read : parseCarrierBid (bidBody signedBid) = some bid
  version : bid.version = c.bidVersion
  hash : canonicalSha256 p.sha256Hex bid.toJson = c.bidHash
  bidTender : bid.tenderId = terms.tender.tenderId
  bidId : bid.bidId = c.bidId
  carrierId : bid.carrierId = c.carrierId
  receipt : ReceiptMatches p terms receipt c bid
  carrier : CarrierMatches p terms signedBid bid
  terms : TermsMet terms bid

end Qualification

theorem isBeforeOrEqualUtc_eq_true {a b : JsString} : isBeforeOrEqualUtc a b = .ok true ↔ NotAfter a b := by
  simp [isBeforeOrEqualUtc_eq_ok, NotAfter]

theorem isBeforeUtc_eq_false {a b : JsString} : isBeforeUtc a b = .ok false ↔ NotAfter b a := by
  rw [isBeforeUtc_eq_ok, NotAfter]
  constructor
  · rintro ⟨x, y, hx, hy, h⟩
    exact ⟨y, x, hy, hx, by simpa using h⟩
  · rintro ⟨y, x, hy, hx, h⟩
    exact ⟨x, y, hx, hy, by simpa using h⟩

/-! ### Reason codes -/

theorem mem_REASON_CODE_ORDER (code : EligibilityReasonCode) : code ∈ REASON_CODE_ORDER := by
  cases code <;> decide

theorem orderReasonCodes_eq_nil {codes : List EligibilityReasonCode} : orderReasonCodes codes = [] ↔ codes = [] := by
  simp only [orderReasonCodes, List.filter_eq_nil_iff, decide_eq_true_eq]
  constructor
  · intro h
    exact List.eq_nil_iff_forall_not_mem.mpr fun code => h code (mem_REASON_CODE_ORDER code)
  · rintro rfl code -
    exact List.not_mem_nil

@[simp] theorem codeIf_eq_nil {c : Bool} {code : EligibilityReasonCode} : codeIf c code = [] ↔ c = false := by
  cases c <;> simp [codeIf]

section Reviews
variable {p : Platform} {terms : EvaluationTerms} {c : CommitmentEvidence} {read : ReadBid} {signedBid : Json}

theorem identityCodes_eq_nil : identityCodes terms c read = [] ↔ read.bid.version = c.bidVersion ∧
    read.validatedFullBidHash = c.bidHash ∧ read.bid.tenderId = terms.tender.tenderId ∧ read.bid.bidId = c.bidId ∧
      read.bid.carrierId = c.carrierId := by
  simp [identityCodes, and_assoc]

theorem readSubmittedBid_eq_some (h : readSubmittedBid p signedBid = some read) :
    parseCarrierBid (bidBody signedBid) = some read.bid ∧
      read.validatedFullBidHash = canonicalSha256 p.sha256Hex read.bid.toJson := by
  simp only [readSubmittedBid, Option.bind_eq_bind, Option.bind_eq_some_iff, Option.pure_def, Option.some.injEq] at h
  obtain ⟨bid, hbid, hash, hhash, envelopeHash, -, rfl⟩ := h
  rw [bidHash, if_pos (valid_of_parseCarrierBid hbid)] at hhash
  exact ⟨hbid, (Option.some.inj hhash).symm⟩

/-- A bid that parses is read. -/
theorem exists_readSubmittedBid {bid : CarrierBid} (h : parseCarrierBid (bidBody signedBid) = some bid) :
    ∃ read, readSubmittedBid p signedBid = some read ∧ read.bid = bid := by
  have hv := valid_of_parseCarrierBid h
  have henvelope : ∃ hash, validatedEnvelopeHash p signedBid bid = some hash := by
    unfold validatedEnvelopeHash
    split
    next signature _ => exact ⟨_, by rw [signedBidEnvelopeHash, if_pos hv]; rfl⟩
    next => exact ⟨none, rfl⟩
  obtain ⟨hash, hhash⟩ := henvelope
  refine ⟨⟨bid, canonicalSha256 p.sha256Hex bid.toJson, hash⟩, ?_, rfl⟩
  simp only [readSubmittedBid, h, bidHash, if_pos hv, hhash, Option.bind_eq_bind, Option.bind_some, Option.pure_def]

theorem reviewParsedReceipt_eq_nil {receipt : AcceptanceReceiptBody} {signature : Option JsString}
    (hv : receipt.valid = true) : (reviewParsedReceipt p terms c read receipt signature).reasonCodes = [] ↔
      receipt.bidId = read.bid.bidId ∧ receipt.tenderId = terms.tender.tenderId ∧
        receipt.bidHash = read.validatedFullBidHash ∧ canonicalSha256 p.sha256Hex receipt.toJson = c.acceptanceReceiptHash ∧
          ∃ text, signature = some text ∧
            verifyCanonicalPayload p receipt.toJson text terms.routeGuardPublicKey = true := by
  simp [reviewParsedReceipt, receiptMatchesBid, acceptanceReceiptHash, verifyAcceptanceReceiptSignature, hv, and_assoc,
    Option.any_eq_true]

theorem reviewReceipt_eq_nil {receipt : Option Json}
    (hread : read.validatedFullBidHash = canonicalSha256 p.sha256Hex read.bid.toJson) :
    (reviewReceipt p terms c read receipt).reasonCodes = [] ↔
      ∃ raw, receipt = some raw ∧ ReceiptMatches p terms raw c read.bid := by
  cases receipt with
  | none => simp [reviewReceipt]
  | some raw =>
    simp only [Option.some.injEq, exists_eq_left', ReceiptMatches, reviewReceipt]
    cases hparse : parseAcceptanceReceiptBody (receiptBody raw) with
    | none => simp
    | some receipt =>
      have hv := valid_of_parseAcceptanceReceiptBody hparse
      rcases signatureText raw with _ | _ | text
      · simp [reviewParsedReceipt_eq_nil hv]
      · simp
      · simp [reviewParsedReceipt_eq_nil hv, hread]

theorem reviewCarrier_eq_nil (hv : read.bid.valid = true) :
    (∃ review, reviewCarrier p terms signedBid read.bid = .ok review ∧ review.reasonCodes = []) ↔
      CarrierMatches p terms signedBid read.bid := by
  unfold reviewCarrier CarrierMatches
  cases terms.registry read.bid.carrierId with
  | none => simp
  | some carrier =>
    simp only [bidSignature]
    rcases signatureText signedBid with _ | _ | text
    · simp [verifyCarrierBidSignature, verifyCanonicalPayload, isSignatureHex]
    · simp
    · simp [verifyCarrierBidSignature, hv, and_assoc]

theorem pickupInfeasible_eq_false {window : PickupWindow} {time : JsString} :
    pickupInfeasible window time = .ok false ↔ NotAfter window.earliest time ∧ NotAfter time window.latest := by
  simp only [pickupInfeasible, bind_eq_ok, ← isBeforeUtc_eq_false]
  constructor
  · rintro ⟨early, hearly, h⟩
    cases early with
    | true => exact absurd h (by simp [pure_eq_ok])
    | false => exact ⟨hearly, h⟩
  · rintro ⟨hearly, hlate⟩
    exact ⟨false, hearly, hlate⟩

theorem reviewTerms_eq_nil : reviewTerms terms read.bid = .ok [] ↔ TermsMet terms read.bid := by
  have hcodes : reviewTerms terms read.bid = .ok [] ↔
      isBeforeUtc read.bid.bidValidUntil terms.evaluationTimestamp = .ok false ∧
        pickupInfeasible terms.tender.pickupWindow read.bid.proposedPickupAt = .ok false ∧
          isBeforeUtc terms.tender.deliveryDeadline read.bid.estimatedDelivery = .ok false ∧
            read.bid.equipment = terms.tender.requiredEquipment ∧ read.bid.capacityConfirmed = true ∧
              read.bid.freightPriceCents ≤ terms.tender.maximumFreightPriceCents ∧
                ∀ option ∈ read.bid.reservationPaymentOptions, option.payTo = read.bid.carrierAccountId := by
    simp only [reviewTerms, bind_eq_ok, pure_eq_ok, List.append_eq_nil_iff, codeIf_eq_nil]
    constructor
    · rintro ⟨expired, hexpired, infeasible, hinfeasible, missed, hmissed, h⟩
      obtain ⟨⟨⟨⟨⟨⟨rfl, hequipment⟩, hcapacity⟩, rfl⟩, rfl⟩, hprice⟩, hrecipients⟩ := h
      refine ⟨hexpired, hinfeasible, hmissed, ?_, ?_, ?_, ?_⟩
      · simpa using hequipment
      · simpa using hcapacity
      · simpa using hprice
      · simpa [assertPaymentRecipientsMatch] using hrecipients
    · rintro ⟨hexpired, hinfeasible, hmissed, hequipment, hcapacity, hprice, hrecipients⟩
      refine ⟨false, hexpired, false, hinfeasible, false, hmissed, ⟨⟨⟨⟨⟨⟨rfl, ?_⟩, ?_⟩, rfl⟩, rfl⟩, ?_⟩, ?_⟩⟩
      · simpa using hequipment
      · simpa using hcapacity
      · simpa using hprice
      · simpa [assertPaymentRecipientsMatch] using hrecipients
  rw [hcodes, isBeforeUtc_eq_false, pickupInfeasible_eq_false, isBeforeUtc_eq_false]
  constructor
  · rintro ⟨h1, h2, h3, h4, h5, h6, h7⟩
    exact ⟨h1, h4, h5, h2, h3, h6, h7⟩
  · rintro ⟨h1, h4, h5, h2, h3, h6, h7⟩
    exact ⟨h1, h2, h3, h4, h5, h6, h7⟩

/-! ### The evaluation of a parsed commitment -/

/-- The result is about the commitment. -/
structure Concerns (c : CommitmentEvidence) (r : EligibilityResult) : Prop where
  bidId : r.bidId = c.bidId
  carrierId : r.carrierId = c.carrierId
  hcsSequence : r.hcsSequence = c.hcsSequence
  consensusTimestamp : r.consensusTimestamp = c.consensusTimestamp
  commitment : r.commitment = some c

/-- What the ranking reads of a bid. -/
structure Quotes (bid : CarrierBid) (r : EligibilityResult) : Prop where
  freightPriceCents : r.freightPriceCents = some bid.freightPriceCents
  estimatedDelivery : r.estimatedDelivery = some bid.estimatedDelivery
  bidHash : r.bidHash = some (canonicalSha256 p.sha256Hex bid.toJson)

theorem decision_eq_qualified {codes : List EligibilityReasonCode} :
    (if (orderReasonCodes codes).length = 0 then BidDecision.QUALIFIED else .REJECTED) = .QUALIFIED ↔ codes = [] := by
  rw [← orderReasonCodes_eq_nil, ← List.length_eq_zero_iff]
  split
  next h => simp [h]
  next h => simp [h]

theorem evaluateReadBid_eq_ok {timely : Bool} {codes : List EligibilityReasonCode} {receipt : Option Json}
    {r : EligibilityResult} (hread : readSubmittedBid p signedBid = some read)
    (h : evaluateReadBid p terms c timely codes signedBid receipt read = .ok r) :
    Concerns c r ∧ Quotes (p := p) read.bid r ∧ (isRankable r = true ↔ timely = true ∧ codes = [] ∧
      identityCodes terms c read = [] ∧ (∃ raw, receipt = some raw ∧ ReceiptMatches p terms raw c read.bid) ∧
        CarrierMatches p terms signedBid read.bid ∧ TermsMet terms read.bid) := by
  obtain ⟨hparse, hhash⟩ := readSubmittedBid_eq_some hread
  simp only [evaluateReadBid, bind_eq_ok, mapError_eq_ok, pure_eq_ok] at h
  obtain ⟨review, hreview, termCodes, hterms, rfl⟩ := h
  refine ⟨⟨rfl, rfl, rfl, rfl, rfl⟩, ⟨rfl, rfl, congrArg some hhash⟩, ?_⟩
  rw [← reviewReceipt_eq_nil hhash, ← reviewCarrier_eq_nil (valid_of_parseCarrierBid hparse), ← reviewTerms_eq_nil,
    hreview, hterms]
  simp only [isRankable, emptyResult, decision_eq_qualified, Bool.and_eq_true, decide_eq_true_eq, List.append_eq_nil_iff,
    Except.ok.injEq, exists_eq_left']
  tauto

/-- The evaluation of a parsed commitment: about it, and rankable exactly where a bid qualifies. -/
structure Evaluated (p : Platform) (terms : EvaluationTerms) (c : CommitmentEvidence) (signedBid receipt : Option Json)
    (r : EligibilityResult) : Prop where
  concerns : Concerns c r
  quotes : isRankable r = true → ∃ signed raw bid, signedBid = some signed ∧ receipt = some raw ∧
    Qualifies p terms signed raw c bid ∧ Quotes (p := p) bid r
  rankable : ∀ signed raw bid, signedBid = some signed → receipt = some raw → Qualifies p terms signed raw c bid →
    isRankable r = true

theorem timely_iff {timely : Bool} (h : isCommitmentTimely c.consensusTimestamp terms.tender.auctionEndsAt = .ok timely) :
    timely = true ↔ NotAfter c.consensusTimestamp terms.tender.auctionEndsAt := by
  rw [← isBeforeOrEqualUtc_eq_true]
  rw [isCommitmentTimely] at h
  rw [h, Except.ok.injEq]

theorem isRankable_eq_false {codes : List EligibilityReasonCode} {code : EligibilityReasonCode} {r : EligibilityResult}
    (h : r.decision = if (orderReasonCodes (codes ++ [code])).length = 0 then .QUALIFIED else .REJECTED) :
    isRankable r = false := by
  have hnot : r.decision ≠ .QUALIFIED := by
    rw [h, Ne, decision_eq_qualified]
    simp
  simp [isRankable, hnot]

theorem evaluateParsed_eq_ok {signedBid receipt : Option Json} {r : EligibilityResult}
    (h : evaluateParsed p terms c signedBid receipt = .ok r) : Evaluated p terms c signedBid receipt r := by
  simp only [evaluateParsed, bind_eq_ok, mapError_eq_ok] at h
  obtain ⟨timely, htimely, h⟩ := h
  cases signedBid with
  | none =>
    obtain rfl := pure_eq_ok.mp h
    exact ⟨⟨rfl, rfl, rfl, rfl, rfl⟩, fun hrank => absurd hrank (by rw [isRankable_eq_false rfl]; simp),
      fun _ _ _ hsigned => absurd hsigned (by simp)⟩
  | some signed =>
    simp only at h
    cases hread : readSubmittedBid p signed with
    | none =>
      rw [hread] at h
      obtain rfl := pure_eq_ok.mp h
      refine ⟨⟨rfl, rfl, rfl, rfl, rfl⟩, fun hrank => absurd hrank (by rw [isRankable_eq_false rfl]; simp), ?_⟩
      · rintro _ _ bid hsigned - hq
        cases hsigned
        obtain ⟨read, hsome, -⟩ := exists_readSubmittedBid (p := p) hq.read
        rw [hread] at hsome
        exact absurd hsome (by simp)
    | some read =>
      rw [hread] at h
      obtain ⟨hconcerns, hquotes, hrank⟩ := evaluateReadBid_eq_ok hread h
      obtain ⟨hparse, hhash⟩ := readSubmittedBid_eq_some hread
      have hcodes : codeIf (!timely) LATE_COMMITMENT ++ codeIf (decide (c.tenderId ≠ terms.tender.tenderId)) TENDER_MISMATCH =
          [] ↔ timely = true ∧ c.tenderId = terms.tender.tenderId := by simp
      rw [hcodes, identityCodes_eq_nil, timely_iff htimely] at hrank
      refine ⟨hconcerns, fun hr => ?_, ?_⟩
      · obtain ⟨ht, ⟨-, htender⟩, ⟨hversion, hbid, hbidTender, hid, hcarrierId⟩, ⟨raw, rfl, hreceipt⟩, hcarrier, hterms⟩ :=
          hrank.mp hr
        exact ⟨signed, raw, read.bid, rfl, rfl, ⟨ht, htender, hparse, hversion, hhash ▸ hbid, hbidTender, hid, hcarrierId,
          hreceipt, hcarrier, hterms⟩, hquotes⟩
      · rintro _ raw bid hsigned rfl hq
        cases hsigned
        obtain rfl : read.bid = bid := Option.some.inj (hparse.symm.trans hq.read)
        exact hrank.mpr ⟨hq.timely, ⟨hq.timely, hq.tender⟩, ⟨hq.version, hhash.trans hq.hash, hq.bidTender, hq.bidId,
          hq.carrierId⟩, ⟨raw, rfl, hq.receipt⟩, hq.carrier, hq.terms⟩

end Reviews

/-! ### All commitments -/

/-- The evidence submitted for a commitment. -/
def evidenceFor (entries : List (JsString × Json)) (c : CommitmentEvidence) : Option Json :=
  submitted (entries.lookup c.bidId)

theorem ne_nil_of_valid {c : CommitmentEvidence} (h : c.valid = true) : c.bidId ≠ [] := by
  intro hnil
  simp [CommitmentEvidence.valid, bounded, hnil] at h

section All
variable {p : Platform} {terms : EvaluationTerms} {cs : List CommitmentEvidence} {fullBids receipts : List (JsString × Json)}

/-- The evaluation of parsed commitments, before it is sorted. -/
theorem evaluateAll_parsed (hvalid : ∀ c ∈ cs, c.valid = true) :
    evaluateAllCommitments p terms (cs.map fun c => .obj c.fields) fullBids receipts =
      (cs.mapM fun c => evaluateParsed p terms c (evidenceFor fullBids c) (evidenceFor receipts c)) >>= fun results =>
        pure (sortOn EligibilityResult.key results) := by
  have hone (c : CommitmentEvidence) (hc : c ∈ cs) :
      evaluateCommitmentEligibility p terms (.obj c.fields)
        ((lookupBidId (.obj c.fields)).bind fun bidId => fullBids.lookup bidId)
        ((lookupBidId (.obj c.fields)).bind fun bidId => receipts.lookup bidId) =
        evaluateParsed p terms c (evidenceFor fullBids c) (evidenceFor receipts c) := by
    have hlookup : lookupBidId (.obj c.fields) = some c.bidId :=
      Option.filter_eq_some_iff.mpr ⟨rfl, by simpa using ne_nil_of_valid (hvalid c hc)⟩
    rw [evaluateCommitmentEligibility, parseCommitmentEvidence_fields, if_pos (hvalid c hc), hlookup]
    rfl
  rw [evaluateAllCommitments, List.mapM_map]
  congr 1
  exact mapM_congr hone

/-- Parsed commitments in the order of their keys give results in the same order. -/
theorem evaluateAllCommitments_eq_ok {rs : List EligibilityResult} (hvalid : ∀ c ∈ cs, c.valid = true)
    (hsorted : cs.Pairwise fun a b => a.key ≤ b.key) :
    evaluateAllCommitments p terms (cs.map fun c => .obj c.fields) fullBids receipts = .ok rs ↔
      List.Forall₂ (fun c r => evaluateParsed p terms c (evidenceFor fullBids c) (evidenceFor receipts c) = .ok r) cs rs := by
  have hsort {results : List EligibilityResult} (h : List.Forall₂ (fun c r =>
      evaluateParsed p terms c (evidenceFor fullBids c) (evidenceFor receipts c) = .ok r) cs results) :
      sortOn EligibilityResult.key results = results := by
    have hkeys : results.map EligibilityResult.key = cs.map CommitmentEvidence.key := by
      refine map_eq_of_forall₂ h fun c r hr => ?_
      have hconcerns := (evaluateParsed_eq_ok hr).concerns
      rw [EligibilityResult.key, hconcerns.hcsSequence, hconcerns.bidId]
      rfl
    refine sortOn_eq_self _ ?_
    rw [← List.pairwise_map, hkeys, List.pairwise_map]
    exact hsorted
  rw [evaluateAll_parsed hvalid]
  simp only [bind_eq_ok, pure_eq_ok, mapM_eq_ok]
  constructor
  · rintro ⟨results, h, rfl⟩
    rwa [hsort h]
  · intro h
    exact ⟨rs, h, hsort h⟩

end All

end RouteGuard.Auction
