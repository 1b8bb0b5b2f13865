import RouteGuard.Auction.Eligibility

/-!
# Ranking and the decision manifest

* `compareRankedBids`, `selectWinner` : the ranking;
* `reconstructExpectedManifestBody`, `buildDecisionManifest` : the manifest and its hashes;
* `verifyDecisionManifestIntegrity` : a manifest held against the evaluation it is said to come from.
-/

namespace RouteGuard.Auction
open JsString Json Guarded Sorting

/-! ## Ranking -/

structure RankedBid where
  bidId : JsString
  carrierId : JsString
  freightPriceCents : Int
  estimatedDelivery : JsString
  consensusTimestamp : JsString
  hcsSequence : Int
  bidHash : JsString
  deriving DecidableEq, Repr

def compareCodePointStrings (a b : JsString) : Int := if a < b then -1 else if a > b then 1 else 0

def compareRankedBids (a b : RankedBid) : Except JsString Int :=
  if a.freightPriceCents ≠ b.freightPriceCents then pure (a.freightPriceCents - b.freightPriceCents)
  else do
    let delA ← parseUtcTimestamp a.estimatedDelivery
    let delB ← parseUtcTimestamp b.estimatedDelivery
    if delA.epochNanoseconds < delB.epochNanoseconds then pure (-1)
    else if delA.epochNanoseconds > delB.epochNanoseconds then pure 1
    else do
      let consA ← parseUtcTimestamp a.consensusTimestamp
      let consB ← parseUtcTimestamp b.consensusTimestamp
      if consA.epochNanoseconds < consB.epochNanoseconds then pure (-1)
      else if consA.epochNanoseconds > consB.epochNanoseconds then pure 1
      else pure (compareCodePointStrings a.bidId b.bidId)

/-- What the ranking takes from a result; a rankable one without a price, a delivery or a hash is left out. -/
def rankedBid (result : EligibilityResult) : Option RankedBid := do
  let freightPriceCents ← result.freightPriceCents
  let estimatedDelivery ← result.estimatedDelivery
  let bidHash ← result.bidHash
  pure
    { bidId := result.bidId
      carrierId := result.carrierId
      freightPriceCents := freightPriceCents
      estimatedDelivery := estimatedDelivery
      consensusTimestamp := result.consensusTimestamp
      hcsSequence := result.hcsSequence
      bidHash := bidHash }

def rankQualifiedBids (results : List EligibilityResult) : Except JsString (List RankedBid) :=
  sortWith compareRankedBids ((results.filter isRankable).filterMap rankedBid)

def selectWinner (results : List EligibilityResult) : Except JsString (Option RankedBid) := do
  let ranked ← rankQualifiedBids results
  pure ranked.head?

/-! ## The manifest -/

structure ManifestEntry where
  bidId : JsString
  carrierId : JsString
  hcsSequence : Int
  consensusTimestamp : JsString
  decision : BidDecision
  reasonCodes : List EligibilityReasonCode
  deriving DecidableEq, Repr

/-- A manifest without its hash; `engineVersion` and `selectionPolicy` are constants. -/
structure ManifestBody where
  tenderId : JsString
  tenderVersion : Int
  tenderHash : JsString
  engineVersion : JsString
  selectionPolicy : JsString
  rulesHash : JsString
  evaluationTimestamp : JsString
  barrierSequence : Int
  reconciliationReference : JsString
  commitments : List ManifestEntry
  winningBidId : Option JsString
  winningBidHash : Option JsString
  evaluatedBidSetHash : JsString
  deriving DecidableEq, Repr

structure DecisionManifest where
  body : ManifestBody
  decisionManifestHash : JsString
  deriving DecidableEq, Repr

def EligibilityResult.manifestEntry (r : EligibilityResult) : ManifestEntry where
  bidId := r.bidId
  carrierId := r.carrierId
  hcsSequence := r.hcsSequence
  consensusTimestamp := r.consensusTimestamp
  decision := r.decision
  reasonCodes := r.reasonCodes

/-! ### JSON -/

def strOrNull (value : Option JsString) : Json := ofOption .str value

def boolOrNull (value : Option Bool) : Json := ofOption .bool value

def codesJson (codes : List EligibilityReasonCode) : Json := .arr (codes.map fun code => .str code.text)

def ManifestEntry.toJson (e : ManifestEntry) : Json :=
  .obj
    [(js "bidId", .str e.bidId), (js "carrierId", .str e.carrierId), (js "hcsSequence", .num e.hcsSequence),
     (js "consensusTimestamp", .str e.consensusTimestamp), (js "decision", .str e.decision.text),
     (js "reasonCodes", codesJson e.reasonCodes)]

def ManifestBody.toJson (b : ManifestBody) : Json :=
  .obj
    [(js "tenderId", .str b.tenderId), (js "tenderVersion", .num b.tenderVersion), (js "tenderHash", .str b.tenderHash),
     (js "engineVersion", .str b.engineVersion), (js "selectionPolicy", .str b.selectionPolicy),
     (js "rulesHash", .str b.rulesHash), (js "evaluationTimestamp", .str b.evaluationTimestamp),
     (js "barrierSequence", .num b.barrierSequence), (js "reconciliationReference", .str b.reconciliationReference),
     (js "commitments", .arr (b.commitments.map ManifestEntry.toJson)), (js "winningBidId", strOrNull b.winningBidId),
     (js "winningBidHash", strOrNull b.winningBidHash), (js "evaluatedBidSetHash", .str b.evaluatedBidSetHash)]

/-- The commitment of an entry, with its timeliness; this comparison can throw. -/
def commitmentJson (tender : FreightTender) (c : CommitmentEvidence) : Except JsString Json := do
  let timely ← isCommitmentTimely c.consensusTimestamp tender.auctionEndsAt
  pure (.obj (c.fields ++ [(js "timely", .bool timely)]))

def evaluatedCommitmentJson (tender : FreightTender) : Option CommitmentEvidence → Except JsString Json
  | none => pure .null
  | some c => commitmentJson tender c

/-- What the hash of the evaluated bids says of one result: the evidence submitted and what it was taken for. -/
def evaluatedEntry (tender : FreightTender) (r : EligibilityResult) : Except JsString Json := do
  let commitment ← evaluatedCommitmentJson tender r.commitment
  pure
    (.obj
      [(js "commitment", commitment), (js "submittedSignedBidPresent", .bool r.submittedSignedBidPresent),
       (js "submittedSignedBidEnvelopeHash", strOrNull r.submittedSignedBidEnvelopeHash),
       (js "submittedReceiptPresent", .bool r.submittedReceiptPresent),
       (js "submittedReceiptEnvelopeHash", strOrNull r.submittedReceiptEnvelopeHash),
       (js "fullBidSchemaValid", boolOrNull r.fullBidSchemaValid),
       (js "receiptSchemaValid", boolOrNull r.receiptSchemaValid), (js "fullBidPresent", .bool r.fullBidPresent),
       (js "validatedFullBidHash", strOrNull r.validatedFullBidHash),
       (js "signedBidEnvelopeHash", strOrNull r.signedBidEnvelopeHash), (js "receiptPresent", .bool r.receiptPresent),
       (js "validatedReceiptHash", strOrNull r.validatedReceiptHash), (js "bidVersionMatch", boolOrNull r.bidVersionMatch),
       (js "signatureValid", boolOrNull r.signatureValid), (js "decision", .str r.decision.text),
       (js "reasonCodes", codesJson r.reasonCodes)])

def buildEvaluatedBidSetInput (tender : FreightTender) (results : List EligibilityResult) : Except JsString Json := do
  let entries ← (sortOn EligibilityResult.key results).mapM (evaluatedEntry tender)
  pure
    (.obj [(js "tenderId", .str tender.tenderId), (js "tenderVersion", .num tender.version), (js "entries", .arr entries)])

/-- `LOWEST_QUALIFIED_PRICE_V1_RULES`. -/
def rulesJson : Json :=
  .obj
    [(js "policy", .str Hcs.SELECTION_POLICY), (js "engineVersion", .str Hcs.ENGINE_VERSION),
     (js "ranking", .arr
       [.str (js "lowest_freightPriceCents"), .str (js "earliest_estimatedDelivery_epoch_nanoseconds"),
        .str (js "earliest_hcs_consensusTimestamp_epoch_nanoseconds"),
        .str (js "lexicographically_lowest_bidId_code_point")]),
     (js "eligibility", .arr
       [.str (js "timely_commitment"), .str (js "full_bid_present"), .str (js "bid_hash_match"),
        .str (js "bid_version_match"), .str (js "acceptance_receipt_match"), .str (js "carrier_signature_valid"),
        .str (js "carrier_active_in_registry"), .str (js "carrier_identity_match"), .str (js "bid_not_expired"),
        .str (js "tender_match"), .str (js "equipment_match"), .str (js "equipment_authorized"),
        .str (js "capacity_confirmed"), .str (js "proposed_pickup_within_window"), .str (js "delivery_deadline_met"),
        .str (js "price_within_maximum"), .str (js "payment_recipients_match_carrier"),
        .str (js "payment_options_valid")]),
     (js "deadlineEquality", .str (js "consensusTimestamp <= auctionEndsAt is timely (epoch ns)"))]

section Manifest
variable (p : Platform)

def computeRulesHash : JsString := canonicalSha256 p.sha256Hex rulesJson

def computeEvaluatedBidSetHash (tender : FreightTender) (results : List EligibilityResult) : Except JsString JsString := do
  let input ← buildEvaluatedBidSetInput tender results
  pure (canonicalSha256 p.sha256Hex input)

/-- The tender's hash; its schema throws. -/
def tenderHashOrThrow (tender : FreightTender) : Except JsString JsString :=
  match tenderHash p tender with
  | none => .error (js "ZodError")
  | some hash => .ok hash

def reconstructExpectedManifestBody (tender : FreightTender) (results : List EligibilityResult)
    (evaluationTimestamp : JsString) (barrierSequence : Int) (reconciliationReference : JsString) :
    Except JsString ManifestBody := do
  let orderedResults := sortOn EligibilityResult.key results
  let winner ← selectWinner orderedResults
  let hash ← tenderHashOrThrow p tender
  let evaluatedBidSetHash ← computeEvaluatedBidSetHash p tender orderedResults
  pure
    { tenderId := tender.tenderId
      tenderVersion := tender.version
      tenderHash := hash
      engineVersion := Hcs.ENGINE_VERSION
      selectionPolicy := Hcs.SELECTION_POLICY
      rulesHash := computeRulesHash p
      evaluationTimestamp := evaluationTimestamp
      barrierSequence := barrierSequence
      reconciliationReference := reconciliationReference
      commitments := orderedResults.map EligibilityResult.manifestEntry
      winningBidId := winner.map RankedBid.bidId
      winningBidHash := winner.map RankedBid.bidHash
      evaluatedBidSetHash := evaluatedBidSetHash }

structure AuctionInput where
  terms : EvaluationTerms
  evidence : ReconciliationInput
  barrierSequence : Int
  reconciliationReference : JsString

/-- The evaluation of reconciled inputs. -/
def evaluateReconciled (terms : EvaluationTerms) (reconciled : ValidatedReconciliationSet) :
    Except AuctionError (List EligibilityResult) :=
  evaluateAllCommitments p terms (reconciled.commitments.map fun c => .obj c.fields) reconciled.fullBids
    reconciled.acceptanceReceipts

def ManifestBody.hash (body : ManifestBody) : JsString := canonicalSha256 p.sha256Hex body.toJson

def buildDecisionManifest (input : AuctionInput) : Except AuctionError DecisionManifest := do
  require (isUtcIsoTimestamp input.terms.evaluationTimestamp)
    (.other (js "evaluationTimestamp must be a valid UTC ISO-8601 timestamp"))
  let reconciled ← validateReconciliationInputs input.evidence
  let results ← evaluateReconciled p input.terms reconciled
  let body ← (reconstructExpectedManifestBody p input.terms.tender results input.terms.evaluationTimestamp
    input.barrierSequence input.reconciliationReference).mapError .other
  pure { body := body, decisionManifestHash := body.hash p }

def evaluateAuction (input : AuctionInput) : Except AuctionError DecisionManifest := buildDecisionManifest p input

/-! ## Integrity of a manifest -/

/-- A message where the condition holds. -/
def messageIf (c : Bool) (message : JsString) : List JsString := if c then [message] else []

/-- The entries of one index. -/
def entryErrors (i : Nat) (actual expected : Option ManifestEntry) : List JsString :=
  let label := js "entry[" ++ decimal i ++ js "]"
  match actual, expected with
  | some actual, some expected =>
    messageIf (actual.bidId ≠ expected.bidId) (label ++ js ".bidId mismatch") ++
    messageIf (actual.carrierId ≠ expected.carrierId) (label ++ js ".carrierId mismatch") ++
    messageIf (actual.hcsSequence ≠ expected.hcsSequence) (label ++ js ".hcsSequence mismatch") ++
    messageIf (actual.consensusTimestamp ≠ expected.consensusTimestamp) (label ++ js ".consensusTimestamp mismatch") ++
    messageIf (actual.decision ≠ expected.decision) (label ++ js ".decision mismatch") ++
    messageIf (actual.reasonCodes ≠ expected.reasonCodes) (label ++ js ".reasonCodes mismatch")
  | _, _ => [js "missing entry at ordered index " ++ decimal i]

/-- What repeats an earlier entry. -/
def duplicateErrors : (earlier : List ManifestEntry) → List ManifestEntry → List JsString
  | _, [] => []
  | earlier, e :: rest =>
    messageIf (e.bidId ∈ earlier.map ManifestEntry.bidId) (js "duplicate manifest bidId " ++ e.bidId) ++
    messageIf (e.hcsSequence ∈ earlier.map ManifestEntry.hcsSequence)
      (js "duplicate manifest hcsSequence " ++ decimalInt e.hcsSequence) ++
    duplicateErrors (earlier ++ [e]) rest

/-- The fields of the body against the expected body. -/
def bodyErrors (body expected : ManifestBody) : List JsString :=
  messageIf (body.tenderId ≠ expected.tenderId) (js "tenderId mismatch vs authoritative evaluation") ++
  messageIf (body.tenderVersion ≠ expected.tenderVersion) (js "tenderVersion mismatch vs authoritative evaluation") ++
  messageIf (body.tenderHash ≠ expected.tenderHash) (js "tenderHash mismatch vs authoritative evaluation") ++
  messageIf (body.rulesHash ≠ expected.rulesHash) (js "rulesHash mismatch vs authoritative evaluation") ++
  messageIf (body.engineVersion ≠ expected.engineVersion) (js "engineVersion mismatch") ++
  messageIf (body.selectionPolicy ≠ expected.selectionPolicy) (js "selectionPolicy mismatch") ++
  messageIf (body.evaluationTimestamp ≠ expected.evaluationTimestamp)
    (js "evaluationTimestamp mismatch vs authoritative evaluation") ++
  messageIf (body.barrierSequence ≠ expected.barrierSequence)
    (js "barrierSequence mismatch vs authoritative evaluation") ++
  messageIf (body.reconciliationReference ≠ expected.reconciliationReference)
    (js "reconciliationReference mismatch vs authoritative evaluation") ++
  messageIf (body.evaluatedBidSetHash ≠ expected.evaluatedBidSetHash)
    (js "evaluatedBidSetHash mismatch vs authoritative evaluation") ++
  messageIf (body.winningBidId ≠ expected.winningBidId) (js "winningBidId mismatch vs authoritative ranking") ++
  messageIf (body.winningBidHash ≠ expected.winningBidHash) (js "winningBidHash mismatch vs authoritative ranking") ++
  messageIf (body.commitments.length ≠ expected.commitments.length)
    (js "entry count mismatch: manifest " ++ decimal body.commitments.length ++ js " vs expected " ++
      decimal expected.commitments.length) ++
  (List.range (max body.commitments.length expected.commitments.length)).flatMap fun i =>
    entryErrors i body.commitments[i]? expected.commitments[i]?

/-- A null winner and qualified bids, or the reverse. -/
def winnerErrors (winningBidId : Option JsString) (qualified : Nat) : List JsString :=
  match winningBidId with
  | none => messageIf (qualified ≠ 0) (js "authoritative evaluation has qualified bids but null winner")
  | some _ => messageIf (qualified < 1) (js "authoritative winner present but zero rankable entries")

/-- `errors`; the manifest is in order where there are none. An empty argument stands for the manifest's own. -/
def verifyDecisionManifestIntegrity (manifest : DecisionManifest) (tender : FreightTender)
    (results : List EligibilityResult) (evaluationTimestamp : JsString) (barrierSequence : Int)
    (reconciliationReference : JsString) : Except JsString (List JsString) := do
  let expected ← reconstructExpectedManifestBody p tender results
    (if evaluationTimestamp = [] then manifest.body.evaluationTimestamp else evaluationTimestamp) barrierSequence
    (if reconciliationReference = [] then manifest.body.reconciliationReference else reconciliationReference)
  pure
    (bodyErrors manifest.body expected ++ duplicateErrors [] manifest.body.commitments ++
     winnerErrors expected.winningBidId (results.filter isRankable).length ++
     messageIf (manifest.decisionManifestHash ≠ expected.hash p)
       (js "decisionManifestHash mismatch vs independently reconstructed expected manifest") ++
     messageIf (manifest.decisionManifestHash = manifest.body.hash p && manifest.body.hash p ≠ expected.hash p)
       (js "manifest is self-consistent but does not match authoritative evaluation"))

def assertManifestIntegrity (manifest : DecisionManifest) (tender : FreightTender) (results : List EligibilityResult)
    (evaluationTimestamp : JsString) (barrierSequence : Int) (reconciliationReference : JsString) :
    Except AuctionError Unit := do
  let errors ← (verifyDecisionManifestIntegrity p manifest tender results evaluationTimestamp barrierSequence
    reconciliationReference).mapError .other
  require (errors = []) (.reconciliation .MANIFEST_INTEGRITY_FAILURE ((js "; ").intercalate errors))

end Manifest

end RouteGuard.Auction
