import RouteGuard.Auction.Winner

/-!
# Closing an auction

* `createAuctionClosureProof` : the factory of closure proofs;
* `transitionToClosed`, .. : the state machine, whose terminal states need an authentic proof;
* `createAuctionClosureProof_eq_ok` : what a proof was made from;
* `window_complete_iff` : when the window of a closed auction reaches its close barrier.
-/

namespace RouteGuard.Auction
open JsString Json Guarded Sorting

/-! ## Proofs -/

structure AuctionClosureProof where
  tenderId : JsString
  tenderVersion : Int
  auctionEndsAt : JsString
  closeBarrierSequence : Int
  closeBarrierConsensusTimestamp : JsString
  reconciledStartSequence : Int
  reconciledEndSequence : Int
  observedSequences : List Int
  completeness : Bool
  evaluationTimestamp : JsString
  reconciliationReference : JsString
  manifest : DecisionManifest
  results : List EligibilityResult
  deriving DecidableEq, Repr

/-- The input of the factory; the terms hold its tender, registry, key and evaluation timestamp. -/
structure ClosureInput where
  terms : EvaluationTerms
  evidence : ReconciliationInput
  auctionEndsAt : JsString
  closeBarrierSequence : Int
  closeBarrierConsensusTimestamp : JsString
  reconciledStartSequence : Int
  reconciledEndSequence : Int
  observedSequences : List Int
  reconciliationReference : JsString
  now : JsString

def invalidProof (message : String) : AuctionError := .reconciliation .INVALID_CLOSURE_PROOF (js message)

/-- `isBeforeOrEqualUtc` or the given error. -/
def requireNotAfter (a b : JsString) (e : AuctionError) : Except AuctionError Unit := do
  let ok ← (isBeforeOrEqualUtc a b).mapError .other
  require ok e

def ClosureInput.sequences (input : ClosureInput) : List Int :=
  [input.closeBarrierSequence, input.reconciledStartSequence, input.reconciledEndSequence] ++ input.observedSequences

/-- The checks of the factory before the evidence is looked at. -/
def checkClosureInput (input : ClosureInput) : Except AuctionError Unit := do
  require (input.reconciliationReference ≠ [] ∧ input.terms.routeGuardPublicKey ≠ []) (.other (js "ZodError"))
  require (isUtcIsoTimestamp input.auctionEndsAt) (invalidProof "invalid auctionEndsAt")
  require (input.auctionEndsAt = input.terms.tender.auctionEndsAt) (invalidProof "auctionEndsAt does not match tender")
  require (isUtcIsoTimestamp input.closeBarrierConsensusTimestamp)
    (invalidProof "invalid closeBarrierConsensusTimestamp")
  require (isUtcIsoTimestamp input.terms.evaluationTimestamp) (invalidProof "invalid evaluationTimestamp")
  require (isUtcIsoTimestamp input.now) (invalidProof "invalid now")
  each (fun n => require (isSafePositiveInteger n) (invalidProof "sequence numbers must be positive safe integers"))
    input.sequences
  requireNotAfter input.auctionEndsAt input.now (invalidProof "auction deadline not reached")
  requireNotAfter input.auctionEndsAt input.closeBarrierConsensusTimestamp
    (invalidProof "close barrier timestamp is before auctionEndsAt")

section Factory
variable (p : Platform)

def ClosureInput.auction (input : ClosureInput) : AuctionInput where
  terms := input.terms
  evidence := input.evidence
  barrierSequence := input.closeBarrierSequence
  reconciliationReference := input.reconciliationReference

def createAuctionClosureProof (input : ClosureInput) : Except AuctionError AuctionClosureProof := do
  checkClosureInput input
  let tender := input.terms.tender
  let reconciled ← validateReconciliationInputs input.evidence
  each (fun c : CommitmentEvidence => require (c.hcsSequence ∈ input.observedSequences)
    (.reconciliation .INCOMPLETE_SEQUENCE_RANGE
      (js "commitment sequence " ++ decimalInt c.hcsSequence ++ js " missing from observedSequences")))
    reconciled.commitments
  let results ← evaluateReconciled p input.terms reconciled
  let manifest ← buildDecisionManifest p input.auction
  require (manifest.body.tenderId = tender.tenderId ∧ manifest.body.tenderVersion = tender.version)
    (invalidProof "manifest tender identity mismatch")
  assertManifestIntegrity p manifest tender results input.terms.evaluationTimestamp input.closeBarrierSequence
    input.reconciliationReference
  each (fun c : CommitmentEvidence => require (c.tenderId = tender.tenderId)
    (.reconciliation .INVALID_CLOSURE_PROOF
      (js "commitment tenderId " ++ c.tenderId ++ js " does not match tender " ++ tender.tenderId)))
    reconciled.commitments
  pure
    { tenderId := tender.tenderId
      tenderVersion := tender.version
      auctionEndsAt := input.auctionEndsAt
      closeBarrierSequence := input.closeBarrierSequence
      closeBarrierConsensusTimestamp := input.closeBarrierConsensusTimestamp
      reconciledStartSequence := input.reconciledStartSequence
      reconciledEndSequence := input.reconciledEndSequence
      observedSequences := input.observedSequences
      completeness := isSequenceRangeComplete input.reconciledStartSequence input.reconciledEndSequence
        input.observedSequences
      evaluationTimestamp := input.terms.evaluationTimestamp
      reconciliationReference := input.reconciliationReference
      manifest := manifest
      results := results }

end Factory

/-! ## The state machine -/

/-- A proof as an object: copies have another identity. -/
structure ProofObject where
  identity : Nat
  proof : AuctionClosureProof
  deriving DecidableEq, Repr

/-- A value given as a proof. -/
inductive ProofValue where
  | object (object : ProofObject)
  | other

/-- The registered objects are the authentic ones. -/
def isVerifiedAuctionClosureProof (registry : List ProofObject) : ProofValue → Bool
  | .object object => object ∈ registry
  | .other => false

structure AuctionMachineContext where
  state : AuctionState
  auctionEndsAt : JsString
  closureProof : Option ProofObject
  decisionManifest : Option DecisionManifest
  now : JsString
  deriving DecidableEq, Repr

namespace AuctionState

def text : AuctionState → JsString
  | DRAFT => js "DRAFT"
  | OPEN => js "OPEN"
  | BIDDING => js "BIDDING"
  | AUCTION_RECONCILIATION_PENDING => js "AUCTION_RECONCILIATION_PENDING"
  | AUCTION_CLOSED => js "AUCTION_CLOSED"
  | WINNER_SELECTED => js "WINNER_SELECTED"
  | NO_QUALIFIED_BID => js "NO_QUALIFIED_BID"
  | INCOMPLETE_HCS_WINDOW => js "INCOMPLETE_HCS_WINDOW"

/-- `LEGAL`. -/
def legal : AuctionState → List AuctionState
  | DRAFT => [OPEN]
  | OPEN => [BIDDING]
  | BIDDING => [AUCTION_RECONCILIATION_PENDING]
  | AUCTION_RECONCILIATION_PENDING => [AUCTION_CLOSED, INCOMPLETE_HCS_WINDOW]
  | AUCTION_CLOSED => [WINNER_SELECTED, NO_QUALIFIED_BID]
  | WINNER_SELECTED => []
  | NO_QUALIFIED_BID => []
  | INCOMPLETE_HCS_WINDOW => []

end AuctionState

open AuctionState

def createAuctionMachine (auctionEndsAt : JsString) : Except AuctionError AuctionMachineContext := do
  require (isUtcIsoTimestamp auctionEndsAt) (.other (js "auctionEndsAt must be a valid UTC ISO-8601 timestamp"))
  pure
    { state := DRAFT
      auctionEndsAt := auctionEndsAt
      closureProof := none
      decisionManifest := none
      now := auctionEndsAt }

def assertLegal (source target : AuctionState) : Except AuctionError Unit :=
  require (target ∈ source.legal)
    (.illegal source target (js "Illegal auction state transition: " ++ source.text ++ js " → " ++ target.text))

section Transitions
variable (registry : List ProofObject) (ctx : AuctionMachineContext)

def requireAuthenticProof (target : AuctionState) (value : ProofValue) : Except AuctionError ProofObject :=
  match value with
  | .object object =>
    if object ∈ registry then .ok object
    else .error (.illegal ctx.state target (js
      "Closure proof is not an authentic factory-verified proof (plain/spread/JSON objects are rejected)"))
  | .other => .error (.illegal ctx.state target (js
      "Closure proof is not an authentic factory-verified proof (plain/spread/JSON objects are rejected)"))

def transitionToOpen : Except AuctionError AuctionMachineContext := do
  assertLegal ctx.state OPEN
  pure { ctx with state := OPEN }

def transitionToBidding : Except AuctionError AuctionMachineContext := do
  assertLegal ctx.state BIDDING
  pure { ctx with state := BIDDING }

def transitionToReconciliation (now : JsString) : Except AuctionError AuctionMachineContext := do
  assertLegal ctx.state AUCTION_RECONCILIATION_PENDING
  require (isUtcIsoTimestamp now) (.other (js "now must be a valid UTC ISO-8601 timestamp"))
  requireNotAfter ctx.auctionEndsAt now
    (.illegal ctx.state AUCTION_RECONCILIATION_PENDING (js "Cannot enter reconciliation before auctionEndsAt"))
  pure { ctx with state := AUCTION_RECONCILIATION_PENDING, now := now }

/-- The completeness of a proof's window, recomputed. -/
def AuctionClosureProof.complete (proof : AuctionClosureProof) : Bool :=
  isSequenceRangeComplete proof.reconciledStartSequence proof.reconciledEndSequence proof.observedSequences

def INCOMPLETE_RANGE : JsString := js "Sequence range is incomplete (recomputed); cannot close"

def transitionToClosed (value : ProofValue) : Except AuctionError AuctionMachineContext := do
  assertLegal ctx.state AUCTION_CLOSED
  let object ← requireAuthenticProof registry ctx AUCTION_CLOSED value
  let proof := object.proof
  let illegal (message : JsString) : AuctionError := .illegal ctx.state AUCTION_CLOSED message
  require proof.complete (illegal INCOMPLETE_RANGE)
  require (proof.tenderId = proof.manifest.body.tenderId) (illegal (js "Closure proof tenderId mismatch"))
  require (proof.tenderVersion = proof.manifest.body.tenderVersion) (illegal (js "Closure proof tenderVersion mismatch"))
  require (proof.auctionEndsAt = ctx.auctionEndsAt) (illegal (js "Closure proof auctionEndsAt mismatch"))
  requireNotAfter ctx.auctionEndsAt proof.evaluationTimestamp (illegal (js "evaluationTimestamp before auction deadline"))
  requireNotAfter ctx.auctionEndsAt proof.closeBarrierConsensusTimestamp
    (illegal (js "close barrier before auction deadline"))
  pure
    { ctx with
      state := AUCTION_CLOSED
      closureProof := some object
      decisionManifest := some proof.manifest
      now := proof.evaluationTimestamp }

def transitionToIncompleteHcsWindow (value : ProofValue) : Except AuctionError AuctionMachineContext := do
  assertLegal ctx.state INCOMPLETE_HCS_WINDOW
  let object ← requireAuthenticProof registry ctx INCOMPLETE_HCS_WINDOW value
  require (object.proof.complete = false)
    (.illegal ctx.state INCOMPLETE_HCS_WINDOW (js "Sequence range is complete; cannot mark INCOMPLETE_HCS_WINDOW"))
  pure
    { ctx with
      state := INCOMPLETE_HCS_WINDOW
      closureProof := some object
      decisionManifest := some object.proof.manifest }

/-- The proof that a closed context holds. -/
def storedProof (target : AuctionState) : Except AuctionError AuctionClosureProof :=
  let missing : AuctionError := .illegal ctx.state target (js "Authentic verified closure proof required")
  match ctx.closureProof with
  | none => .error missing
  | some object => if object ∈ registry then .ok object.proof else .error missing

def isWinnerEntry (winner : RankedBid) (entry : ManifestEntry) : Bool :=
  entry.bidId = winner.bidId && entry.decision = .QUALIFIED

/-- The checks of a winner against the manifest. -/
def checkWinner (proof : AuctionClosureProof) (winner : RankedBid) : Except AuctionError Unit := do
  let illegal (message : JsString) : AuctionError := .illegal ctx.state WINNER_SELECTED message
  require (proof.manifest.body.winningBidId = some winner.bidId)
    (illegal (js "manifest winningBidId does not match independent ranking"))
  require (proof.manifest.body.winningBidHash = some winner.bidHash)
    (illegal (js "manifest winningBidHash does not match independent ranking"))
  require (1 ≤ (proof.results.filter isRankable).length) (illegal (js "No qualified rankable entries"))
  require ((proof.manifest.body.commitments.find? (isWinnerEntry winner)).isSome)
    (illegal (js "winningBidId is not a QUALIFIED manifest entry"))

def transitionToWinnerSelected : Except AuctionError AuctionMachineContext := do
  assertLegal ctx.state WINNER_SELECTED
  let proof ← storedProof registry ctx WINNER_SELECTED
  let winner ← (selectWinner proof.results).mapError .other
  match winner with
  | none =>
    .error (.illegal ctx.state WINNER_SELECTED (js "No independently ranked winner; use NO_QUALIFIED_BID"))
  | some winner => do
    checkWinner ctx proof winner
    pure { ctx with state := WINNER_SELECTED, decisionManifest := some proof.manifest }

def transitionToNoQualifiedBid : Except AuctionError AuctionMachineContext := do
  assertLegal ctx.state NO_QUALIFIED_BID
  let illegal (message : JsString) : AuctionError := .illegal ctx.state NO_QUALIFIED_BID message
  let proof ← storedProof registry ctx NO_QUALIFIED_BID
  let winner ← (selectWinner proof.results).mapError .other
  require (winner = none) (illegal (js "Independent ranking found a winner; use WINNER_SELECTED"))
  require (proof.manifest.body.winningBidId = none ∧ proof.manifest.body.winningBidHash = none)
    (illegal (js "Both winner fields must be null"))
  require ((proof.results.filter isRankable).length = 0) (illegal (js "Qualified entries exist; use WINNER_SELECTED"))
  pure { ctx with state := NO_QUALIFIED_BID, decisionManifest := some proof.manifest }

/-- Booleans never close an auction. -/
def transitionToClosedWithBooleans (_closeBarrierPresent _reconciledRangeComplete : Bool) :
    Except AuctionError AuctionMachineContext :=
  .error (.illegal ctx.state AUCTION_CLOSED (js
    "Bare caller booleans cannot prove auction closure; provide authentic VerifiedAuctionClosureProof"))

end Transitions

/-! ## What a proof was made from -/

theorem messageIf_ne_self {α : Type} [DecidableEq α] (a : α) (message : JsString) : messageIf (a ≠ a) message = [] := by
  simp [messageIf]

theorem entryErrors_self (i : Nat) (e : ManifestEntry) : entryErrors i (some e) (some e) = [] := by
  simp only [entryErrors, messageIf_ne_self, List.append_nil]

theorem bodyErrors_self (body : ManifestBody) : bodyErrors body body = [] := by
  have hentries : ((List.range (max body.commitments.length body.commitments.length)).flatMap fun i =>
      entryErrors i body.commitments[i]? body.commitments[i]?) = [] := by
    rw [max_self, List.flatMap_eq_nil_iff]
    intro i hi
    rw [List.getElem?_eq_getElem (List.mem_range.mp hi), entryErrors_self]
  simp only [bodyErrors, messageIf_ne_self, hentries, List.append_nil]

theorem duplicateErrors_eq_nil {earlier entries : List ManifestEntry}
    (hbids : ((earlier ++ entries).map ManifestEntry.bidId).Nodup)
    (hsequences : ((earlier ++ entries).map ManifestEntry.hcsSequence).Nodup) : duplicateErrors earlier entries = [] := by
  induction entries generalizing earlier with
  | nil => rfl
  | cons e rest ih =>
    have hbid : e.bidId ∉ earlier.map ManifestEntry.bidId := forall_append_iff_nodup.mpr hbids earlier e rest rfl
    have hsequence : e.hcsSequence ∉ earlier.map ManifestEntry.hcsSequence :=
      forall_append_iff_nodup.mpr hsequences earlier e rest rfl
    have hrest : duplicateErrors (earlier ++ [e]) rest = [] := by
      apply ih
      · rwa [List.append_assoc]
      · rwa [List.append_assoc]
    simp [duplicateErrors, messageIf, hbid, hsequence, hrest]

section Integrity
variable {p : Platform} {terms : EvaluationTerms} {input : ReconciliationInput} {cs : List CommitmentEvidence}
  {rs : List EligibilityResult}

theorem ReconciledResults.bidIds (h : ReconciledResults p terms input cs rs) :
    rs.map EligibilityResult.bidId = (sortOn CommitmentEvidence.key cs).map CommitmentEvidence.bidId :=
  map_eq_of_forall₂ h fun _ _ hr => (evaluateParsed_eq_ok hr).concerns.bidId

theorem ReconciledResults.sequences (h : ReconciledResults p terms input cs rs) :
    rs.map EligibilityResult.hcsSequence = (sortOn CommitmentEvidence.key cs).map CommitmentEvidence.hcsSequence :=
  map_eq_of_forall₂ h fun _ _ hr => (evaluateParsed_eq_ok hr).concerns.hcsSequence

/-- There is a winner exactly where a result is rankable. -/
theorem ReconciledResults.winner_iff (h : ReconciledResults p terms input cs rs) {winner : Option RankedBid}
    (hwinner : selectWinner rs = .ok winner) : winner = none ↔ rs.filter isRankable = [] := by
  obtain ⟨winner', hwinner', hnone, -⟩ := selectWinner_eq_ok h
  obtain rfl : winner' = winner := Except.ok.inj (hwinner'.symm.trans hwinner)
  rw [hnone, List.eq_nil_iff_forall_not_mem]
  constructor
  · intro hno r hr
    obtain ⟨hr, hrank⟩ := List.mem_filter.mp hr
    obtain ⟨c, hc, heval⟩ := exists_of_mem_right h hr
    obtain ⟨signed, raw, bid, hsigned, hraw, hq, -⟩ := (evaluateParsed_eq_ok heval).quotes hrank
    exact hno c hc bid ⟨signed, raw, hsigned, hraw, hq⟩
  · rintro hno c hc bid ⟨signed, raw, hsigned, hraw, hq⟩
    obtain ⟨r, hr, heval⟩ := exists_of_mem_left h hc
    exact hno r (List.mem_filter.mpr ⟨hr, (evaluateParsed_eq_ok heval).rankable signed raw bid hsigned hraw hq⟩)

/-- The uniqueness checks pass on the entries of the results. -/
theorem ReconciledResults.duplicateErrors (h : ReconciledResults p terms input cs rs) (hreconciled : Reconciled input cs) :
    Auction.duplicateErrors [] (rs.map EligibilityResult.manifestEntry) = [] := by
  apply duplicateErrors_eq_nil
  · rw [List.nil_append, List.map_map]
    show (rs.map EligibilityResult.bidId).Nodup
    rw [h.bidIds, ((perm_sortOn _ cs).map _).nodup_iff]
    exact hreconciled.commitments.bidIds
  · rw [List.nil_append, List.map_map]
    show (rs.map EligibilityResult.hcsSequence).Nodup
    rw [h.sequences, ((perm_sortOn _ cs).map _).nodup_iff]
    exact hreconciled.commitments.sequences

/-- The winner and the number of qualified bids agree. -/
theorem ReconciledResults.winnerErrors (h : ReconciledResults p terms input cs rs) {winner : Option RankedBid}
    (hwinner : selectWinner rs = .ok winner) :
    Auction.winnerErrors (winner.map RankedBid.bidId) (rs.filter isRankable).length = [] := by
  have hiff := h.winner_iff hwinner
  cases winner with
  | none => simp [Auction.winnerErrors, messageIf, hiff.mp rfl]
  | some b =>
    have hne : rs.filter isRankable ≠ [] := fun hnil => absurd (hiff.mpr hnil) (by simp)
    have hpos := List.length_pos_iff.mpr hne
    simp only [Option.map_some, Auction.winnerErrors, messageIf]
    rw [if_neg (by simpa using hpos)]

/-- A winner stands in the manifest as a qualified entry. -/
theorem ReconciledResults.winner_entry (h : ReconciledResults p terms input cs rs) {winner : RankedBid}
    (hwinner : selectWinner rs = .ok (some winner)) :
    ∃ entry ∈ rs.map EligibilityResult.manifestEntry, isWinnerEntry winner entry = true := by
  obtain ⟨winner', hwinner', -, hleast⟩ := selectWinner_eq_ok h
  obtain rfl : winner' = some winner := Except.ok.inj (hwinner'.symm.trans hwinner)
  obtain ⟨c, hc, bid, ⟨signed, raw, hsigned, hraw, hq⟩, rfl, -⟩ := hleast winner rfl
  obtain ⟨r, hr, heval⟩ := exists_of_mem_left h hc
  have hevaluated := evaluateParsed_eq_ok heval
  have hrank := hevaluated.rankable signed raw bid hsigned hraw hq
  rw [isRankable, Bool.and_eq_true] at hrank
  refine ⟨r.manifestEntry, List.mem_map_of_mem hr, ?_⟩
  rw [isWinnerEntry, Bool.and_eq_true, decide_eq_true_eq]
  exact ⟨hevaluated.concerns.bidId, hrank.1⟩

end Integrity

section Made
variable {p : Platform} {input : ClosureInput} {cs : List CommitmentEvidence} {rs : List EligibilityResult}
  {body : ManifestBody}

theorem Built.identity {input : AuctionInput} (h : Built p input cs rs body) :
    body.tenderId = input.terms.tender.tenderId ∧ body.tenderVersion = input.terms.tender.version := by
  obtain ⟨winner, hash, setHash, -, -, -, hbody⟩ := (reconstructExpectedManifestBody_eq_ok h.results.sorted).mp h.body
  rw [← hbody]
  exact ⟨rfl, rfl⟩

/-- A manifest passes the check against the evaluation it was built from. -/
theorem assertManifestIntegrity_built {input : AuctionInput} (h : Built p input cs rs body)
    (hreference : input.reconciliationReference ≠ []) :
    assertManifestIntegrity p ⟨body, body.hash p⟩ input.terms.tender rs input.terms.evaluationTimestamp
      input.barrierSequence input.reconciliationReference = .ok () := by
  have htime : input.terms.evaluationTimestamp ≠ [] := by
    intro hnil
    have hvalid := h.evaluationTimestamp
    rw [hnil] at hvalid
    exact absurd hvalid (by decide)
  have hbody := h.body
  obtain ⟨winner, hash, setHash, hwinner, -, -, rfl⟩ := (reconstructExpectedManifestBody_eq_ok h.results.sorted).mp h.body
  have hduplicates := h.results.duplicateErrors h.reconciled
  have hwinners := h.results.winnerErrors hwinner
  simp only [assertManifestIntegrity, verifyDecisionManifestIntegrity, if_neg htime, if_neg hreference, hbody, bind_eq_ok,
    mapError_eq_ok, pure_eq_ok, require_eq_ok]
  refine ⟨_, ⟨_, rfl, rfl⟩, ?_⟩
  rw [bodyErrors_self]
  simp only [bodyOf, hduplicates, hwinners, messageIf]
  simp

/-- The proof that the factory makes. -/
def ClosureInput.proofOf (input : ClosureInput) (manifest : DecisionManifest) (rs : List EligibilityResult) :
    AuctionClosureProof where
  tenderId := input.terms.tender.tenderId
  tenderVersion := input.terms.tender.version
  auctionEndsAt := input.auctionEndsAt
  closeBarrierSequence := input.closeBarrierSequence
  closeBarrierConsensusTimestamp := input.closeBarrierConsensusTimestamp
  reconciledStartSequence := input.reconciledStartSequence
  reconciledEndSequence := input.reconciledEndSequence
  observedSequences := input.observedSequences
  completeness := isSequenceRangeComplete input.reconciledStartSequence input.reconciledEndSequence input.observedSequences
  evaluationTimestamp := input.terms.evaluationTimestamp
  reconciliationReference := input.reconciliationReference
  manifest := manifest
  results := rs

/-- What the factory checks; the integrity of its own manifest is no further condition. -/
structure Provable (p : Platform) (input : ClosureInput) (cs : List CommitmentEvidence) (rs : List EligibilityResult)
    (body : ManifestBody) : Prop where
  checked : checkClosureInput input = .ok ()
  built : Built p input.auction cs rs body
  observed : ∀ c ∈ cs, c.hcsSequence ∈ input.observedSequences
  tender : ∀ c ∈ cs, c.tenderId = input.terms.tender.tenderId

theorem Reconciled.unique {evidence : ReconciliationInput} {cs cs' : List CommitmentEvidence} (h : Reconciled evidence cs)
    (h' : Reconciled evidence cs') : cs = cs' := Option.some.inj (h.parsed.symm.trans h'.parsed)

theorem ReconciledResults.unique {terms : EvaluationTerms} {evidence : ReconciliationInput} {cs : List CommitmentEvidence}
    {rs rs' : List EligibilityResult} (h : ReconciledResults p terms evidence cs rs)
    (h' : ReconciledResults p terms evidence cs rs') : rs = rs' :=
  Except.ok.inj ((mapM_eq_ok.mpr h).symm.trans (mapM_eq_ok.mpr h'))

theorem createAuctionClosureProof_eq_ok {proof : AuctionClosureProof} :
    createAuctionClosureProof p input = .ok proof ↔
      ∃ cs rs body, Provable p input cs rs body ∧ input.proofOf ⟨body, body.hash p⟩ rs = proof := by
  simp only [createAuctionClosureProof, bind_eq_ok, pure_eq_ok, validateReconciliationInputs_eq_ok, each_eq_ok,
    require_eq_ok, buildDecisionManifest_eq_ok]
  constructor
  · rintro ⟨_, hinput, _, ⟨cs, hreconciled, rfl⟩, _, hobserved, rs, hrs, _, ⟨cs', rs', body, hbuilt, rfl⟩, _, -, _, -, _,
      htender, rfl⟩
    obtain rfl := hreconciled.unique hbuilt.reconciled
    obtain rfl := ((evaluateReconciled_eq_ok hreconciled).mp hrs).unique hbuilt.results
    exact ⟨cs, rs, body, ⟨hinput, hbuilt, fun c hc => hobserved c ((mem_sortOn _).mpr hc),
      fun c hc => htender c ((mem_sortOn _).mpr hc)⟩, rfl⟩
  · rintro ⟨cs, rs, body, h, rfl⟩
    have hreference : input.reconciliationReference ≠ [] := by
      have hchecked := h.checked
      simp only [checkClosureInput, bind_eq_ok, require_eq_ok] at hchecked
      obtain ⟨-, ⟨hreference, -⟩, -⟩ := hchecked
      exact hreference
    have hidentity : body.tenderId = input.terms.tender.tenderId ∧ body.tenderVersion = input.terms.tender.version :=
      h.built.identity
    have hreconciled : Reconciled input.evidence cs := h.built.reconciled
    have hintegrity := assertManifestIntegrity_built h.built hreference
    refine ⟨(), h.checked, input.evidence.validated cs, ⟨cs, hreconciled, rfl⟩, (), ?_, rs, ?_, ⟨body, body.hash p⟩,
      ⟨cs, rs, body, h.built, rfl⟩, (), hidentity, (), hintegrity, (), ?_, rfl⟩
    · exact fun c hc => h.observed c ((mem_sortOn _).mp hc)
    · exact (evaluateReconciled_eq_ok hreconciled).mpr h.built.results
    · exact fun c hc => h.tender c ((mem_sortOn _).mp hc)

/-- Checked inputs whose evidence can be evaluated have a proof. -/
theorem exists_closureProof (hchecked : checkClosureInput input = .ok ()) (hreconciled : Reconciled input.evidence cs)
    (heval : Evaluable input.terms input.evidence) (hobserved : ∀ c ∈ cs, c.hcsSequence ∈ input.observedSequences)
    (htender : ∀ c ∈ cs, c.tenderId = input.terms.tender.tenderId) :
    ∃ rs body, Provable p input cs rs body := by
  obtain ⟨manifest, hmanifest⟩ := (@exists_manifest p input.auction cs hreconciled).mpr heval
  obtain ⟨cs', rs, body, hbuilt, -⟩ := buildDecisionManifest_eq_ok.mp hmanifest
  obtain rfl := hreconciled.unique hbuilt.reconciled
  exact ⟨rs, body, hchecked, hbuilt, hobserved, htender⟩

end Made

/-! ## The window of a closed auction -/

theorem requireAuthenticProof_eq_ok {registry : List ProofObject} {ctx : AuctionMachineContext} {target : AuctionState}
    {value : ProofValue} {object : ProofObject} :
    requireAuthenticProof registry ctx target value = .ok object ↔ value = .object object ∧ object ∈ registry := by
  unfold requireAuthenticProof
  cases value with
  | object given =>
    simp only [ProofValue.object.injEq]
    split
    next hin =>
      rw [Except.ok.injEq]
      exact ⟨fun h => ⟨h, h ▸ hin⟩, fun h => h.1⟩
    next hout =>
      refine iff_of_false (by simp) ?_
      rintro ⟨rfl, hin⟩
      exact hout hin
  | other => simp

theorem requireNotAfter_eq_ok {a b : JsString} {e : AuctionError} {u : Unit} :
    requireNotAfter a b e = .ok u ↔ NotAfter a b := by
  simp only [requireNotAfter, bind_eq_ok, mapError_eq_ok, require_eq_ok]
  constructor
  · rintro ⟨ok, hok, rfl⟩
    exact isBeforeOrEqualUtc_eq_true.mp hok
  · intro h
    exact ⟨true, isBeforeOrEqualUtc_eq_true.mpr h, rfl⟩

/-- What closing an auction checks. -/
structure Closes (registry : List ProofObject) (ctx : AuctionMachineContext) (object : ProofObject) : Prop where
  legal : AUCTION_CLOSED ∈ ctx.state.legal
  authentic : object ∈ registry
  complete : object.proof.complete = true
  tenderId : object.proof.tenderId = object.proof.manifest.body.tenderId
  tenderVersion : object.proof.tenderVersion = object.proof.manifest.body.tenderVersion
  auctionEndsAt : object.proof.auctionEndsAt = ctx.auctionEndsAt
  evaluation : NotAfter ctx.auctionEndsAt object.proof.evaluationTimestamp
  barrier : NotAfter ctx.auctionEndsAt object.proof.closeBarrierConsensusTimestamp

/-- The context under a proof. -/
def AuctionMachineContext.closedWith (ctx : AuctionMachineContext) (object : ProofObject) : AuctionMachineContext :=
  { ctx with
    state := AUCTION_CLOSED
    closureProof := some object
    decisionManifest := some object.proof.manifest
    now := object.proof.evaluationTimestamp }

theorem transitionToClosed_eq_ok {registry : List ProofObject} {ctx ctx' : AuctionMachineContext} {value : ProofValue} :
    transitionToClosed registry ctx value = .ok ctx' ↔
      ∃ object, value = .object object ∧ Closes registry ctx object ∧ ctx.closedWith object = ctx' := by
  simp only [transitionToClosed, assertLegal, bind_eq_ok, require_eq_ok, exists_const, pure_eq_ok,
    requireAuthenticProof_eq_ok, requireNotAfter_eq_ok]
  constructor
  · rintro ⟨hlegal, object, ⟨rfl, hin⟩, hcomplete, hid, hversion, hends, heval, hbarrier, rfl⟩
    exact ⟨object, rfl, ⟨hlegal, hin, hcomplete, hid, hversion, hends, heval, hbarrier⟩, rfl⟩
  · rintro ⟨object, rfl, h, rfl⟩
    exact ⟨h.legal, object, ⟨rfl, h.authentic⟩, h.complete, h.tenderId, h.tenderVersion, h.auctionEndsAt, h.evaluation,
      h.barrier, rfl⟩

/-- The window of a closed auction reaches its barrier, and holds every commitment, exactly where the barrier is at most
one past the reconciled end and after every commitment. -/
theorem window_complete_iff {p : Platform} {input : ClosureInput} {proof : AuctionClosureProof} {registry : List ProofObject}
    {ctx ctx' : AuctionMachineContext} {identity : Nat} (hproof : createAuctionClosureProof p input = .ok proof)
    (hclosed : transitionToClosed registry ctx (.object ⟨identity, proof⟩) = .ok ctx') :
    ((∀ s, proof.reconciledStartSequence ≤ s → s ≤ proof.closeBarrierSequence - 1 → s ∈ proof.observedSequences) ∧
      ∀ r ∈ proof.results, proof.reconciledStartSequence ≤ r.hcsSequence ∧ r.hcsSequence ≤ proof.closeBarrierSequence - 1) ↔
      input.closeBarrierSequence ≤ input.reconciledEndSequence + 1 ∧
        ∀ raw ∈ input.evidence.commitments, ∀ c, parseCommitmentEvidence raw = some c →
          c.hcsSequence < input.closeBarrierSequence := by
  obtain ⟨cs, rs, body, h, rfl⟩ := createAuctionClosureProof_eq_ok.mp hproof
  obtain ⟨object, hobject, hcloses, -⟩ := transitionToClosed_eq_ok.mp hclosed
  obtain rfl := ProofValue.object.inj hobject
  obtain ⟨⟨-, hle, -⟩, -, hrange⟩ := isSequenceRangeComplete_iff.mp hcloses.complete
  have hreconciled : Reconciled input.evidence cs := h.built.reconciled
  -- the results carry the sequences of the commitments
  have hsequences : rs.map EligibilityResult.hcsSequence =
      (sortOn CommitmentEvidence.key cs).map CommitmentEvidence.hcsSequence := ReconciledResults.sequences h.built.results
  have hresults (P : Int → Prop) : (∀ r ∈ rs, P r.hcsSequence) ↔ ∀ c ∈ cs, P c.hcsSequence := by
    rw [← List.forall_mem_map (f := EligibilityResult.hcsSequence), hsequences, List.forall_mem_map]
    simp only [mem_sortOn]
  have hcommitments : (∀ raw ∈ input.evidence.commitments, ∀ c, parseCommitmentEvidence raw = some c →
      c.hcsSequence < input.closeBarrierSequence) ↔ ∀ c ∈ cs, c.hcsSequence < input.closeBarrierSequence := by
    constructor
    · intro hall c hc
      obtain ⟨raw, hraw, hparse⟩ := hreconciled.mem_iff.mp hc
      exact hall raw hraw c hparse
    · intro hall raw hraw c hparse
      exact hall c (hreconciled.mem_iff.mpr ⟨raw, hraw, hparse⟩)
  simp only [ClosureInput.proofOf] at hle hrange ⊢
  rw [hcommitments, hresults fun s => input.reconciledStartSequence ≤ s ∧ s ≤ input.closeBarrierSequence - 1]
  constructor
  · rintro ⟨hwindow, hall⟩
    refine ⟨?_, fun c hc => ?_⟩
    · by_contra hlt
      have hin := (hrange (input.reconciledEndSequence + 1)).mp (hwindow _ (by omega) (by omega))
      omega
    · have hlast := (hall c hc).2
      omega
  · rintro ⟨hbarrier, hall⟩
    refine ⟨fun s hs hlast => (hrange s).mpr ⟨hs, by omega⟩, fun c hc => ?_⟩
    have hstart := (hrange c.hcsSequence).mp (h.observed c hc)
    have hlast := hall c hc
    exact ⟨hstart.1, by omega⟩

/-! ### A barrier far behind the reconciled end -/

namespace FarBarrier

/-- Two messages were reconciled; the barrier is said to stand at the given sequence. -/
def input (closeBarrierSequence : Int) : ClosureInput where
  terms := OneBid.input.terms
  evidence := { commitments := [], fullBids := [], acceptanceReceipts := [] }
  auctionEndsAt := js "2026-01-01T00:00:00Z"
  closeBarrierSequence := closeBarrierSequence
  closeBarrierConsensusTimestamp := js "2026-01-01T00:00:30Z"
  reconciledStartSequence := 1
  reconciledEndSequence := 2
  observedSequences := [1, 2]
  reconciliationReference := js "run-1"
  now := js "2026-01-01T00:02:00Z"

def pending : AuctionMachineContext where
  state := AUCTION_RECONCILIATION_PENDING
  auctionEndsAt := js "2026-01-01T00:00:00Z"
  closureProof := none
  decisionManifest := none
  now := js "2026-01-01T00:02:00Z"

/-- The same with evidence. -/
def inputOf (evidence : ReconciliationInput) (closeBarrierSequence : Int) : ClosureInput :=
  { input closeBarrierSequence with evidence := evidence }

theorem exists_closed {evidence : ReconciliationInput} {closeBarrierSequence : Int} {cs : List CommitmentEvidence}
    (hchecked : checkClosureInput (inputOf evidence closeBarrierSequence) = .ok ()) (hreconciled : Reconciled evidence cs)
    (heval : Evaluable OneBid.input.terms evidence) (hobserved : ∀ c ∈ cs, c.hcsSequence ∈ [1, 2])
    (htender : ∀ c ∈ cs, c.tenderId = OneBid.tender.tenderId) :
    ∃ manifest rs ctx', createAuctionClosureProof OneBid.platform (inputOf evidence closeBarrierSequence) =
        .ok ((inputOf evidence closeBarrierSequence).proofOf manifest rs) ∧
      transitionToClosed [⟨0, (inputOf evidence closeBarrierSequence).proofOf manifest rs⟩] pending
        (.object ⟨0, (inputOf evidence closeBarrierSequence).proofOf manifest rs⟩) = .ok ctx' ∧
      rs.map EligibilityResult.hcsSequence = (sortOn CommitmentEvidence.key cs).map CommitmentEvidence.hcsSequence := by
  obtain ⟨rs, body, h⟩ := @exists_closureProof OneBid.platform (inputOf evidence closeBarrierSequence) cs hchecked
    hreconciled heval hobserved htender
  refine ⟨_, rs, _, createAuctionClosureProof_eq_ok.mpr ⟨_, _, body, h, rfl⟩, transitionToClosed_eq_ok.mpr
    ⟨_, rfl, ⟨by decide, List.mem_singleton_self _, ?_, h.built.identity.1.symm, h.built.identity.2.symm, rfl, ?_, ?_⟩, rfl⟩,
    ReconciledResults.sequences h.built.results⟩
  · show isSequenceRangeComplete 1 2 [1, 2] = true
    decide
  · exact isBeforeOrEqualUtc_eq_true.mp (show isBeforeOrEqualUtc (js "2026-01-01T00:00:00Z") (js "2026-01-01T00:01:00Z") =
      .ok true by decide)
  · exact isBeforeOrEqualUtc_eq_true.mp (show isBeforeOrEqualUtc (js "2026-01-01T00:00:00Z") (js "2026-01-01T00:00:30Z") =
      .ok true by decide)

end FarBarrier

/-- An auction closes under a barrier at sequence 10 though sequence 5 was never observed. -/
theorem closed_on_incomplete_window : ∃ proof ctx',
    createAuctionClosureProof OneBid.platform (FarBarrier.input 10) = .ok proof ∧
      transitionToClosed [⟨0, proof⟩] FarBarrier.pending (.object ⟨0, proof⟩) = .ok ctx' ∧
        proof.reconciledStartSequence ≤ 5 ∧ 5 ≤ proof.closeBarrierSequence - 1 ∧ 5 ∉ proof.observedSequences := by
  have hchecked : checkClosureInput (FarBarrier.inputOf (FarBarrier.input 10).evidence 10) = .ok () := by decide
  have hreconciled : Reconciled (FarBarrier.input 10).evidence [] :=
    ⟨rfl, ⟨.nil, .nil, .nil⟩, ⟨.nil, .nil, fun _ he => absurd he List.not_mem_nil⟩,
      ⟨.nil, fun _ he => absurd he List.not_mem_nil⟩⟩
  obtain ⟨manifest, rs, ctx', hproof, hclosed, -⟩ := FarBarrier.exists_closed hchecked hreconciled
    ⟨OneBid.evaluationTimestamp_valid, OneBid.tender_valid, fun _ hraw => absurd hraw List.not_mem_nil⟩
    (fun c hc => absurd hc List.not_mem_nil) (fun c hc => absurd hc List.not_mem_nil)
  refine ⟨_, ctx', hproof, hclosed, ?_, ?_, ?_⟩
  · show (1 : Int) ≤ 5
    decide
  · show (5 : Int) ≤ 10 - 1
    decide
  · show (5 : Int) ∉ [1, 2]
    decide

/-- A barrier right behind the window, which holds the one commitment. -/
theorem window_complete_iff_oneBid : ∃ proof ctx',
    createAuctionClosureProof OneBid.platform (FarBarrier.inputOf OneBid.evidence 3) = .ok proof ∧
      transitionToClosed [⟨0, proof⟩] FarBarrier.pending (.object ⟨0, proof⟩) = .ok ctx' ∧
        proof.results.map EligibilityResult.hcsSequence = [2] ∧
        (∀ s, proof.reconciledStartSequence ≤ s → s ≤ proof.closeBarrierSequence - 1 → s ∈ proof.observedSequences) ∧
          ∀ r ∈ proof.results,
            proof.reconciledStartSequence ≤ r.hcsSequence ∧ r.hcsSequence ≤ proof.closeBarrierSequence - 1 := by
  have hchecked : checkClosureInput (FarBarrier.inputOf OneBid.evidence 3) = .ok () := by decide
  have hone {c : CommitmentEvidence} (hc : c ∈ [OneBid.commitment]) : c = OneBid.commitment := List.mem_singleton.mp hc
  obtain ⟨manifest, rs, ctx', hproof, hclosed, hsequences⟩ := FarBarrier.exists_closed hchecked OneBid.reconciled
    OneBid.evaluable (fun c hc => by rw [hone hc]; decide) (fun c hc => by rw [hone hc]; rfl)
  have hbefore : ∀ raw ∈ OneBid.evidence.commitments, ∀ c, parseCommitmentEvidence raw = some c → c.hcsSequence < 3 := by
    intro raw hraw c hparse
    rw [hone (OneBid.reconciled.mem_iff.mpr ⟨raw, hraw, hparse⟩)]
    decide
  exact ⟨_, ctx', hproof, hclosed, hsequences,
    (window_complete_iff hproof hclosed).mpr ⟨show (3 : Int) ≤ 2 + 1 by decide, hbefore⟩⟩

end RouteGuard.Auction
