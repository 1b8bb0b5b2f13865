import RouteGuard.Auction.Reconciliation

/-!
# The window of an auction

`reconcileMirrorMessages` reads the messages that a mirror node holds of one topic and accepts them when they are the
window of one auction. It sorts them first, so that their order does not matter; it looks for the opening, the barrier
and the commitments, and a message of the fourth type is none of them.

* `computeCompleteness`, `reconcileMirrorMessages` : the reconciliation;
* `AuctionWindow` : an opening, the commitments and a barrier, one after the other;
* `reconcileMirrorMessages_window` : the accepted messages are a window when no reservation is among them.
-/

namespace RouteGuard.Hcs
open JsString Guarded Sorting Auction

/-- An observation of one message. -/
structure ObservedHcsMessage where
  topicId : JsString
  sequence : Int
  consensusTimestamp : JsString
  mirrorConsensusTimestamp : JsString
  envelope : HcsEnvelope
  envelopeHash : JsString
  transactionId : Option JsString
  deriving DecidableEq, Repr

structure CompletenessResult where
  complete : Bool
  startSequence : Int
  endSequence : Int
  observedSequences : List Int
  missingSequences : List Int
  duplicateSequences : List Int
  deriving DecidableEq, Repr

structure MirrorReconciliationResult where
  runId : JsString
  tenderId : JsString
  tenderVersion : Int
  tenderHash : JsString
  topicId : JsString
  opening : ObservedHcsMessage
  commitments : List ObservedHcsMessage
  barrier : ObservedHcsMessage
  completeness : CompletenessResult
  commitmentEvidence : List CommitmentEvidence
  commitmentEnvelopeHashes : List JsString
  auctionEndsAt : JsString
  evaluationTimestamp : JsString
  deriving DecidableEq, Repr

/-- An `HcsReconciliationError`, or an error of what it calls. -/
inductive HcsReconciliationError where
  | reconciliation (message : JsString)
  | other (message : JsString)
  deriving DecidableEq, Repr

def computeCompleteness (start stop : Int) (sequences : List Int) : CompletenessResult :=
  let observedSequences := sortOn id sequences
  let duplicateSequences := observedSequences.dedup.filter fun s => 1 < observedSequences.count s
  { complete := isSequenceRangeComplete start stop observedSequences && duplicateSequences.isEmpty
    startSequence := start
    endSequence := stop
    observedSequences := observedSequences
    missingSequences :=
      if isSafeInteger start && isSafeInteger stop && start ≤ stop then
        (sequenceRange start stop).filter fun s => s ∉ observedSequences
      else []
    duplicateSequences := duplicateSequences }

structure MirrorReconciliationInput where
  topicId : JsString
  messages : List ObservedHcsMessage
  expectedRunId : JsString
  expectedTenderId : JsString
  expectedTenderVersion : Int
  expectedTenderHash : JsString
  expectedCommitmentCount : Option Int

/-- The count that the window must have. -/
def MirrorReconciliationInput.commitmentCount (input : MirrorReconciliationInput) : Int :=
  input.expectedCommitmentCount.getD 2

namespace ObservedHcsMessage

def asOpening (m : ObservedHcsMessage) : Option (ObservedHcsMessage × AuctionOpenPayload) :=
  match m.envelope.payload with
  | .auctionOpen payload => some (m, payload)
  | _ => none

def asCommitment (m : ObservedHcsMessage) : Option (ObservedHcsMessage × BidCommitmentPayload) :=
  match m.envelope.payload with
  | .bidCommitment payload => some (m, payload)
  | _ => none

def asBarrier (m : ObservedHcsMessage) : Option (ObservedHcsMessage × AuctionCloseBarrierPayload) :=
  match m.envelope.payload with
  | .auctionCloseBarrier payload => some (m, payload)
  | _ => none

end ObservedHcsMessage

/-! ## The checks, in the order of the code -/

section Checks

def reject (message : JsString) : HcsReconciliationError := .reconciliation message

def rethrow {α : Type} (x : Except JsString α) : Except HcsReconciliationError α := x.mapError .other

def joinSequences (sequences : List Int) : JsString := (js ",").intercalate (sequences.map decimalInt)

def checkObserved (topicId : JsString) (earlier : List ObservedHcsMessage) (msg : ObservedHcsMessage) :
    Except HcsReconciliationError Unit := do
  require (msg.topicId = topicId)
    (reject (js "Message sequence " ++ decimalInt msg.sequence ++ js " is on topic " ++ msg.topicId ++ js ", expected " ++
      topicId))
  require (1 ≤ msg.sequence) (reject (js "Sequence zero/negative rejected: " ++ decimalInt msg.sequence))
  require (msg.sequence ∉ earlier.map ObservedHcsMessage.sequence)
    (reject (js "Duplicate sequence " ++ decimalInt msg.sequence))
  require (msg.envelopeHash ∉ earlier.map ObservedHcsMessage.envelopeHash)
    (reject (js "Duplicate envelope hash " ++ msg.envelopeHash))

/-- A later sequence must not have an earlier consensus time. -/
def checkMonotonic (pair : ObservedHcsMessage × ObservedHcsMessage) : Except HcsReconciliationError Unit := do
  let inOrder ← rethrow (isBeforeOrEqualUtc pair.1.consensusTimestamp pair.2.consensusTimestamp)
  provided (inOrder = false) do
    let reversed ← rethrow (isBeforeUtc pair.2.consensusTimestamp pair.1.consensusTimestamp)
    require (reversed = false)
      (reject (js "Non-monotonic consensus timestamps at sequences " ++ decimalInt pair.1.sequence ++ js " → " ++
        decimalInt pair.2.sequence))

def checkIdentity (input : MirrorReconciliationInput) (msg : ObservedHcsMessage) :
    Except HcsReconciliationError Unit := do
  require (msg.envelope.runId = input.expectedRunId)
    (reject (js "runId mismatch at sequence " ++ decimalInt msg.sequence ++ js ": " ++ msg.envelope.runId))
  require (msg.envelope.tenderId = input.expectedTenderId)
    (reject (js "tenderId mismatch at sequence " ++ decimalInt msg.sequence))
  require (msg.envelope.tenderVersion = input.expectedTenderVersion)
    (reject (js "tenderVersion mismatch at sequence " ++ decimalInt msg.sequence))
  require (msg.envelope.tenderHash = input.expectedTenderHash)
    (reject (js "tenderHash mismatch at sequence " ++ decimalInt msg.sequence))

/-- `found.length !== 1` throws. -/
def exactlyOne {α : Type} (messageType : HcsMessageType) : List α → Except HcsReconciliationError α
  | [a] => .ok a
  | found =>
    .error (reject (js "Expected exactly one " ++ messageType.text ++ js ", found " ++ decimal found.length))

/-- The sequence of the first message. -/
def firstSequence (ordered : List ObservedHcsMessage) : Int :=
  (ordered.head?.map ObservedHcsMessage.sequence).getD 0

def checkComplete (barrierSequence : Int) (completeness : CompletenessResult) : Except HcsReconciliationError Unit :=
  require completeness.complete
    (reject (js "Incomplete sequence range 1.." ++ decimalInt barrierSequence ++ js ": missing=[" ++
      joinSequences completeness.missingSequences ++ js "] duplicates=[" ++
      joinSequences completeness.duplicateSequences ++ js "]"))

/-- A commitment is between the opening and the barrier. -/
def checkPlace (opening barrier c : ObservedHcsMessage) : Except HcsReconciliationError Unit := do
  require (opening.sequence < c.sequence)
    (reject (js "Commitment sequence " ++ decimalInt c.sequence ++ js " must be after OPEN sequence " ++
      decimalInt opening.sequence))
  require (c.sequence < barrier.sequence)
    (reject (js "Commitment sequence " ++ decimalInt c.sequence ++ js " must be before barrier sequence " ++
      decimalInt barrier.sequence))

/-- Equality is invalid too: the barrier is after the deadline. -/
def checkAfterEnd (barrier : ObservedHcsMessage) (auctionEndsAt : JsString) : Except HcsReconciliationError Unit := do
  let after ← rethrow (isAfterUtc barrier.consensusTimestamp auctionEndsAt)
  provided (after = false) do
    let tooEarly ← rethrow (isBeforeOrEqualUtc barrier.consensusTimestamp auctionEndsAt)
    require (tooEarly = false)
      (reject (js "Barrier consensus timestamp " ++ barrier.consensusTimestamp ++ js " is not after auctionEndsAt " ++
        auctionEndsAt))

def checkHash (entry : (JsString × JsString) × Nat) : Except HcsReconciliationError Unit :=
  require (entry.1.1 = entry.1.2)
    (reject (js "Barrier commitmentEnvelopeHashes[" ++ decimal entry.2 ++ js "] mismatch: barrier has " ++ entry.1.1 ++
      js ", observed " ++ entry.1.2))

def checkHashes (barrierHashes commitmentEnvelopeHashes : List JsString) : Except HcsReconciliationError Unit := do
  require (barrierHashes.length = commitmentEnvelopeHashes.length)
    (reject (js "Barrier commitmentEnvelopeHashes length mismatch"))
  each checkHash (barrierHashes.zip commitmentEnvelopeHashes).zipIdx

def evidenceOf (c : ObservedHcsMessage × BidCommitmentPayload) : CommitmentEvidence where
  tenderId := c.1.envelope.tenderId
  bidId := c.2.bidId
  carrierId := c.2.carrierId
  bidHash := c.2.bidHash
  acceptanceReceiptHash := c.2.acceptanceReceiptHash
  bidVersion := c.2.bidVersion
  hcsSequence := c.1.sequence
  consensusTimestamp := c.1.consensusTimestamp

def parseEvidence (c : ObservedHcsMessage × BidCommitmentPayload) : Except HcsReconciliationError CommitmentEvidence :=
  match parseCommitmentEvidence (.obj (evidenceOf c).fields) with
  | some evidence => .ok evidence
  | none => .error (.other (js "ZodError"))

end Checks

/-! ## Reconciliation -/

section Reconcile
variable (input : MirrorReconciliationInput)

/-- What is checked of the opening, the commitments and the barrier against each other. -/
def checkWindow (opening : ObservedHcsMessage × AuctionOpenPayload)
    (commitments : List (ObservedHcsMessage × BidCommitmentPayload))
    (barrier : ObservedHcsMessage × AuctionCloseBarrierPayload) : Except HcsReconciliationError Unit := do
  require ((commitments.length : Int) = input.commitmentCount)
    (reject (js "Expected " ++ decimalInt input.commitmentCount ++ js " BID_COMMITMENT messages before barrier, found " ++
      decimal commitments.length))
  each (fun c => checkPlace opening.1 barrier.1 c.1) commitments
  require (opening.1.sequence < barrier.1.sequence) (reject (js "OPEN must precede barrier"))
  nullable (fun last => require (last < barrier.1.sequence) (reject (js "Barrier sequence must be after all commitments")))
    (commitments.map fun c => c.1.sequence).max?
  require (barrier.2.auctionEndsAt = opening.2.auctionEndsAt)
    (reject (js "Barrier auctionEndsAt does not match OPEN auctionEndsAt"))
  checkAfterEnd barrier.1 opening.2.auctionEndsAt
  require (barrier.2.expectedCommitmentCount = input.commitmentCount)
    (reject (js "Barrier expectedCommitmentCount " ++ decimalInt barrier.2.expectedCommitmentCount ++ js " !== " ++
      decimalInt input.commitmentCount))
  checkHashes barrier.2.commitmentEnvelopeHashes
    ((sortOn (fun c => c.1.sequence) commitments).map fun c => c.1.envelopeHash)
  require (barrier.2.tenderId = input.expectedTenderId) (reject (js "Barrier tenderId mismatch"))
  require (barrier.2.tenderVersion = input.expectedTenderVersion) (reject (js "Barrier tenderVersion mismatch"))
  require (barrier.2.tenderHash = input.expectedTenderHash) (reject (js "Barrier tenderHash mismatch"))

/-- The reconciliation of sorted messages. -/
def reconcileOrdered (ordered : List ObservedHcsMessage) :
    Except HcsReconciliationError MirrorReconciliationResult := do
  each checkMonotonic (ordered.zip ordered.tail)
  each (checkIdentity input) ordered
  let barrier ← exactlyOne .AUCTION_CLOSE_BARRIER (ordered.filterMap ObservedHcsMessage.asBarrier)
  let opening ← exactlyOne .AUCTION_OPEN (ordered.filterMap ObservedHcsMessage.asOpening)
  require (firstSequence ordered = 1)
    (reject (js "First observed sequence must be 1, got " ++ decimalInt (firstSequence ordered)))
  let windowMessages := ordered.filter fun m => m.sequence ≤ barrier.1.sequence
  let completeness := computeCompleteness 1 barrier.1.sequence (windowMessages.map ObservedHcsMessage.sequence)
  checkComplete barrier.1.sequence completeness
  let postBarrier := ordered.filter fun m => barrier.1.sequence < m.sequence
  require (postBarrier.isEmpty)
    (reject (js "Unexpected messages after close barrier (sequences " ++
      joinSequences (postBarrier.map ObservedHcsMessage.sequence) ++ js ")"))
  let commitments := windowMessages.filterMap ObservedHcsMessage.asCommitment
  checkWindow input opening commitments barrier
  let sorted := sortOn (fun c => c.1.sequence) commitments
  let commitmentEvidence ← sorted.mapM parseEvidence
  pure
    { runId := input.expectedRunId
      tenderId := input.expectedTenderId
      tenderVersion := input.expectedTenderVersion
      tenderHash := input.expectedTenderHash
      topicId := input.topicId
      opening := opening.1
      commitments := sorted.map Prod.fst
      barrier := barrier.1
      completeness := completeness
      commitmentEvidence := commitmentEvidence
      commitmentEnvelopeHashes := sorted.map fun c => c.1.envelopeHash
      auctionEndsAt := opening.2.auctionEndsAt
      evaluationTimestamp := barrier.1.consensusTimestamp }

def reconcileMirrorMessages : Except HcsReconciliationError MirrorReconciliationResult := do
  require (input.messages ≠ []) (reject (js "No HCS messages to reconcile"))
  eachAfter (checkObserved input.topicId) [] input.messages
  reconcileOrdered input (sortOn ObservedHcsMessage.sequence input.messages)

end Reconcile

/-! ## What is accepted -/

section Accepted
variable {input : MirrorReconciliationInput} {ordered : List ObservedHcsMessage} {r : MirrorReconciliationResult}

theorem exactlyOne_eq_ok {α : Type} {messageType : HcsMessageType} {l : List α} {a : α} :
    exactlyOne messageType l = .ok a ↔ l = [a] := by
  cases l with
  | nil => simp [exactlyOne]
  | cons b rest => cases rest <;> simp [exactlyOne]

theorem asOpening_eq_some {m : ObservedHcsMessage} {o : ObservedHcsMessage × AuctionOpenPayload} :
    m.asOpening = some o ↔ m = o.1 ∧ m.envelope.payload = .auctionOpen o.2 := by
  unfold ObservedHcsMessage.asOpening
  obtain ⟨m', payload⟩ := o
  cases m.envelope.payload <;> simp

theorem asCommitment_eq_some {m : ObservedHcsMessage} {c : ObservedHcsMessage × BidCommitmentPayload} :
    m.asCommitment = some c ↔ m = c.1 ∧ m.envelope.payload = .bidCommitment c.2 := by
  unfold ObservedHcsMessage.asCommitment
  obtain ⟨m', payload⟩ := c
  cases m.envelope.payload <;> simp

theorem asBarrier_eq_some {m : ObservedHcsMessage} {b : ObservedHcsMessage × AuctionCloseBarrierPayload} :
    m.asBarrier = some b ↔ m = b.1 ∧ m.envelope.payload = .auctionCloseBarrier b.2 := by
  unfold ObservedHcsMessage.asBarrier
  obtain ⟨m', payload⟩ := b
  cases m.envelope.payload <;> simp

/-- What the first loop checks; it does not depend on the order. -/
structure Observed (topicId : JsString) (messages : List ObservedHcsMessage) : Prop where
  topic : ∀ m ∈ messages, m.topicId = topicId
  positive : ∀ m ∈ messages, 1 ≤ m.sequence
  sequences : (messages.map ObservedHcsMessage.sequence).Nodup
  hashes : (messages.map ObservedHcsMessage.envelopeHash).Nodup

theorem checkObserved_eq_ok {topicId : JsString} {messages : List ObservedHcsMessage} :
    eachAfter (checkObserved topicId) [] messages = .ok () ↔ Observed topicId messages := by
  simp only [eachAfter_eq_ok, checkObserved, check_eq_ok, require_eq_ok, List.nil_append]
  constructor
  · intro h
    have hmem : ∀ m ∈ messages, m.topicId = topicId ∧ 1 ≤ m.sequence := by
      intro m hm
      obtain ⟨before, after, heq⟩ := List.append_of_mem hm
      exact ⟨(h before m after heq).1, (h before m after heq).2.1⟩
    exact ⟨fun m hm => (hmem m hm).1, fun m hm => (hmem m hm).2,
      forall_append_iff_nodup.mp fun before m after heq => (h before m after heq).2.2.1,
      forall_append_iff_nodup.mp fun before m after heq => (h before m after heq).2.2.2⟩
  · rintro h before m after rfl
    have hm : m ∈ before ++ m :: after := by simp
    exact ⟨h.topic m hm, h.positive m hm, forall_append_iff_nodup.mpr h.sequences before m after rfl,
      forall_append_iff_nodup.mpr h.hashes before m after rfl⟩

theorem Observed.perm {topicId : JsString} {messages messages' : List ObservedHcsMessage}
    (h : Observed topicId messages) (hp : messages.Perm messages') : Observed topicId messages' where
  topic m hm := h.topic m (hp.mem_iff.mpr hm)
  positive m hm := h.positive m (hp.mem_iff.mpr hm)
  sequences := (hp.map _).nodup_iff.mp h.sequences
  hashes := (hp.map _).nodup_iff.mp h.hashes

theorem reconcileMirrorMessages_eq_ok :
    reconcileMirrorMessages input = .ok r ↔ input.messages ≠ [] ∧ Observed input.topicId input.messages ∧
      reconcileOrdered input (sortOn ObservedHcsMessage.sequence input.messages) = .ok r := by
  simp only [reconcileMirrorMessages, check_eq_ok, require_eq_ok, checkObserved_eq_ok]

/-- The same messages in another order. -/
def MirrorReconciliationInput.reorder (input : MirrorReconciliationInput) (messages : List ObservedHcsMessage) :
    MirrorReconciliationInput := { input with messages }

theorem reconcile_of_perm {messages : List ObservedHcsMessage} (hp : input.messages.Perm messages)
    (h : reconcileMirrorMessages input = .ok r) : reconcileMirrorMessages (input.reorder messages) = .ok r := by
  obtain ⟨hne, hobserved, hordered⟩ := reconcileMirrorMessages_eq_ok.mp h
  refine reconcileMirrorMessages_eq_ok.mpr ⟨?_, hobserved.perm hp, ?_⟩
  · intro hnil
    exact hne (List.perm_nil.mp (hnil ▸ hp))
  · rw [sortOn_congr hp hobserved.sequences] at hordered
    exact hordered

/-- The reconciliation does not see the order of the messages. -/
theorem reconcile_reorder {messages : List ObservedHcsMessage} (hp : input.messages.Perm messages) :
    (reconcileMirrorMessages (input.reorder messages)).toOption = (reconcileMirrorMessages input).toOption := by
  apply Option.ext
  intro r
  rw [toOption_eq_some, toOption_eq_some]
  -- reordered twice, the input is back
  have hback : reconcileMirrorMessages (input.reorder messages) = .ok r →
      reconcileMirrorMessages ((input.reorder messages).reorder input.messages) = .ok r :=
    fun h => reconcile_of_perm hp.symm h
  exact ⟨hback, reconcile_of_perm hp⟩

/-- The message names what was expected. -/
structure Bound (input : MirrorReconciliationInput) (m : ObservedHcsMessage) : Prop where
  runId : m.envelope.runId = input.expectedRunId
  tenderId : m.envelope.tenderId = input.expectedTenderId
  tenderVersion : m.envelope.tenderVersion = input.expectedTenderVersion
  tenderHash : m.envelope.tenderHash = input.expectedTenderHash

theorem checkIdentity_eq_ok {m : ObservedHcsMessage} : checkIdentity input m = .ok () ↔ Bound input m := by
  simp only [checkIdentity, check_eq_ok, require_eq_ok]
  exact ⟨fun ⟨h1, h2, h3, h4⟩ => ⟨h1, h2, h3, h4⟩, fun h => ⟨h.runId, h.tenderId, h.tenderVersion, h.tenderHash⟩⟩

theorem checkAfterEnd_eq_ok {barrier : ObservedHcsMessage} {auctionEndsAt : JsString}
    (h : checkAfterEnd barrier auctionEndsAt = .ok ()) :
    ∃ x y, instant barrier.consensusTimestamp = some x ∧ instant auctionEndsAt = some y ∧ y < x := by
  simp only [checkAfterEnd, bind_eq_ok, rethrow, mapError_eq_ok, provided_eq_ok, require_eq_ok] at h
  obtain ⟨after, hafter, h⟩ := h
  obtain ⟨x, y, hx, hy, hlt⟩ := isAfterUtc_eq_ok.mp hafter
  refine ⟨x, y, hx, hy, ?_⟩
  cases after with
  | true => exact hlt.mpr rfl
  | false =>
    obtain ⟨tooEarly, hle, hfalse⟩ := h rfl
    obtain ⟨x', y', hx', hy', hle⟩ := isBeforeOrEqualUtc_eq_ok.mp hle
    cases hx.symm.trans hx'
    cases hy.symm.trans hy'
    have hnot : ¬ x ≤ y := fun h => absurd (hle.mp h) (by simp [hfalse])
    omega

theorem checkHashes_eq_ok {hashes hashes' : List JsString} : checkHashes hashes hashes' = .ok () ↔ hashes = hashes' := by
  simp only [checkHashes, check_eq_ok, require_eq_ok, each_eq_ok, checkHash]
  constructor
  · rintro ⟨hlength, h⟩
    refine List.ext_getElem hlength fun i hi hi' => ?_
    refine h ((hashes[i], hashes'[i]), i) ?_
    rw [List.mem_zipIdx_iff_getElem?]
    simp [hi, hi']
  · rintro rfl
    refine ⟨rfl, ?_⟩
    rintro ⟨⟨a, b⟩, i⟩ hmem
    rw [List.mem_zipIdx_iff_getElem?, List.getElem?_zip_eq_some] at hmem
    exact Option.some.inj (hmem.1.symm.trans hmem.2)

theorem complete_of_computeCompleteness {start stop : Int} {sequences : List Int}
    (h : (computeCompleteness start stop sequences).complete = true) :
    sequences.Nodup ∧ ∀ s, s ∈ sequences ↔ start ≤ s ∧ s ≤ stop := by
  have hcomplete : isSequenceRangeComplete start stop (sortOn id sequences) = true := (Bool.and_eq_true_iff.mp h).1
  obtain ⟨-, hnodup, hmem⟩ := isSequenceRangeComplete_iff.mp hcomplete
  refine ⟨(perm_sortOn id sequences).nodup_iff.mp hnodup, fun s => ?_⟩
  rw [← hmem s, mem_sortOn]

/-- What the reconciliation has found: one opening, one barrier and the commitments between them. -/
structure Found (input : MirrorReconciliationInput) (ordered : List ObservedHcsMessage)
    (opening : ObservedHcsMessage × AuctionOpenPayload) (commitments : List (ObservedHcsMessage × BidCommitmentPayload))
    (barrier : ObservedHcsMessage × AuctionCloseBarrierPayload) : Prop where
  bound : ∀ m ∈ ordered, Bound input m
  openings : ordered.filterMap ObservedHcsMessage.asOpening = [opening]
  between : ordered.filterMap ObservedHcsMessage.asCommitment = commitments
  barriers : ordered.filterMap ObservedHcsMessage.asBarrier = [barrier]
  sequences : ∀ s, s ∈ ordered.map ObservedHcsMessage.sequence ↔ 1 ≤ s ∧ s ≤ barrier.1.sequence
  place : ∀ c ∈ commitments, opening.1.sequence < c.1.sequence ∧ c.1.sequence < barrier.1.sequence
  openFirst : opening.1.sequence < barrier.1.sequence
  count : (commitments.length : Int) = input.commitmentCount
  declared : barrier.2.expectedCommitmentCount = input.commitmentCount
  hashes : barrier.2.commitmentEnvelopeHashes = commitments.map fun c => c.1.envelopeHash
  afterEnd : ∃ x y, instant barrier.1.consensusTimestamp = some x ∧ instant opening.2.auctionEndsAt = some y ∧ y < x

theorem found_of_reconcileOrdered (hsorted : ordered.Pairwise fun a b => a.sequence ≤ b.sequence)
    (h : reconcileOrdered input ordered = .ok r) :
    ∃ opening commitments barrier, Found input ordered opening commitments barrier ∧ r.opening = opening.1 ∧
      r.commitments = commitments.map Prod.fst ∧ r.barrier = barrier.1 := by
  unfold reconcileOrdered at h
  simp only [check_eq_ok, each_eq_ok, checkIdentity_eq_ok] at h
  obtain ⟨-, hbound, h⟩ := h
  obtain ⟨barrier, hbarrier, h⟩ := bind_eq_ok.mp h
  obtain ⟨opening, hopening, h⟩ := bind_eq_ok.mp h
  simp only [check_eq_ok, require_eq_ok, checkComplete] at h
  obtain ⟨-, hcomplete, hpost, hwindow, h⟩ := h
  obtain ⟨evidence, -, h⟩ := bind_eq_ok.mp h
  -- nothing is after the barrier, so the window is the whole list
  have hall : (ordered.filter fun m => m.sequence ≤ barrier.1.sequence) = ordered := by
    refine List.filter_eq_self.mpr fun m hm => ?_
    rw [List.isEmpty_iff, List.filter_eq_nil_iff] at hpost
    have hle := hpost m hm
    simp only [decide_eq_true_eq] at hle ⊢
    omega
  rw [hall] at hcomplete hwindow h
  have hpairwise : (ordered.filterMap ObservedHcsMessage.asCommitment).Pairwise fun a b => a.1.sequence ≤ b.1.sequence := by
    refine List.Pairwise.filterMap ObservedHcsMessage.asCommitment ?_ hsorted
    intro a a' hle b hb b' hb'
    rw [← (asCommitment_eq_some.mp hb).1, ← (asCommitment_eq_some.mp hb').1]
    exact hle
  rw [sortOn_eq_self (fun c : ObservedHcsMessage × BidCommitmentPayload => c.1.sequence) hpairwise] at h
  simp only [checkWindow, check_eq_ok, require_eq_ok, each_eq_ok, checkPlace, checkHashes_eq_ok,
    sortOn_eq_self (fun c : ObservedHcsMessage × BidCommitmentPayload => c.1.sequence) hpairwise] at hwindow
  obtain ⟨hcount, hplace, hfirst, -, -, hafter, hdeclared, hhashes, -⟩ := hwindow
  refine ⟨opening, _, barrier, ⟨hbound, exactlyOne_eq_ok.mp hopening, rfl, exactlyOne_eq_ok.mp hbarrier,
    (complete_of_computeCompleteness hcomplete).2, hplace, hfirst, hcount, hdeclared, hhashes,
    checkAfterEnd_eq_ok hafter⟩, ?_⟩
  rw [← pure_eq_ok.mp h]
  exact ⟨rfl, rfl, rfl⟩

/-- A numbered list that holds the numbers of a range in order. -/
theorem eq_sequenceRange {start stop : Int} {sequences : List Int} (hsorted : sequences.Pairwise (· < ·))
    (hmem : ∀ s, s ∈ sequences ↔ start ≤ s ∧ s ≤ stop) : sequences = sequenceRange start stop := by
  have hrange : (sequenceRange start stop).Pairwise (· < ·) := by
    refine List.Pairwise.map _ ?_ List.pairwise_lt_range
    intro i j hij
    show start + (i : Int) < start + (j : Int)
    omega
  refine List.Perm.eq_of_pairwise ?_ hsorted hrange ?_
  · intro a b _ _ hab hba
    exact absurd hab (lt_asymm hba)
  · rw [List.perm_ext_iff_of_nodup (hsorted.imp ne_of_lt) (nodup_sequenceRange start stop)]
    intro s
    rw [hmem, mem_sequenceRange]

section Shape
variable {opening : ObservedHcsMessage × AuctionOpenPayload} {barrier : ObservedHcsMessage × AuctionCloseBarrierPayload}
  {commitments : List (ObservedHcsMessage × BidCommitmentPayload)}
  (hfound : Found input ordered opening commitments barrier)

include hfound

theorem Found.opening_mem : opening.1 ∈ ordered ∧ opening.1.envelope.payload = .auctionOpen opening.2 := by
  have hmem : opening ∈ ordered.filterMap ObservedHcsMessage.asOpening := by simp [hfound.openings]
  obtain ⟨m, hm, hsome⟩ := List.mem_filterMap.mp hmem
  obtain ⟨rfl, hpayload⟩ := asOpening_eq_some.mp hsome
  exact ⟨hm, hpayload⟩

theorem Found.barrier_mem : barrier.1 ∈ ordered ∧ barrier.1.envelope.payload = .auctionCloseBarrier barrier.2 := by
  have hmem : barrier ∈ ordered.filterMap ObservedHcsMessage.asBarrier := by simp [hfound.barriers]
  obtain ⟨m, hm, hsome⟩ := List.mem_filterMap.mp hmem
  obtain ⟨rfl, hpayload⟩ := asBarrier_eq_some.mp hsome
  exact ⟨hm, hpayload⟩

theorem Found.commitment_mem {c : ObservedHcsMessage × BidCommitmentPayload} (hc : c ∈ commitments) :
    c.1 ∈ ordered ∧ c.1.envelope.payload = .bidCommitment c.2 := by
  rw [← hfound.between] at hc
  obtain ⟨m, hm, hsome⟩ := List.mem_filterMap.mp hc
  obtain ⟨rfl, hpayload⟩ := asCommitment_eq_some.mp hsome
  exact ⟨hm, hpayload⟩

/-- A message that is no reservation is the opening, a commitment or the barrier. -/
theorem Found.mem_cases {m : ObservedHcsMessage} (hm : m ∈ ordered)
    (htype : m.envelope.messageType ≠ .ROUTE_RESERVED) :
    m = opening.1 ∨ m ∈ commitments.map Prod.fst ∨ m = barrier.1 := by
  cases hpayload : m.envelope.payload with
  | auctionOpen payload =>
    have hmem : (m, payload) ∈ ordered.filterMap ObservedHcsMessage.asOpening :=
      List.mem_filterMap.mpr ⟨m, hm, asOpening_eq_some.mpr ⟨rfl, hpayload⟩⟩
    rw [hfound.openings, List.mem_singleton] at hmem
    exact .inl (congrArg Prod.fst hmem)
  | bidCommitment payload =>
    have hmem : (m, payload) ∈ commitments := by
      rw [← hfound.between]
      exact List.mem_filterMap.mpr ⟨m, hm, asCommitment_eq_some.mpr ⟨rfl, hpayload⟩⟩
    exact .inr (.inl (List.mem_map.mpr ⟨_, hmem, rfl⟩))
  | auctionCloseBarrier payload =>
    have hmem : (m, payload) ∈ ordered.filterMap ObservedHcsMessage.asBarrier :=
      List.mem_filterMap.mpr ⟨m, hm, asBarrier_eq_some.mpr ⟨rfl, hpayload⟩⟩
    rw [hfound.barriers, List.mem_singleton] at hmem
    exact .inr (.inr (congrArg Prod.fst hmem))
  | routeReserved payload =>
    exact absurd (by rw [HcsEnvelope.messageType, hpayload]; rfl) htype

variable (hstrict : ordered.Pairwise fun a b => a.sequence < b.sequence)

include hstrict

theorem Found.commitments_sorted : (commitments.map fun c => c.1.sequence).Pairwise (· < ·) := by
  rw [← hfound.between, List.pairwise_map]
  refine List.Pairwise.filterMap ObservedHcsMessage.asCommitment ?_ hstrict
  intro a a' hlt c hc c' hc'
  rw [← (asCommitment_eq_some.mp hc).1, ← (asCommitment_eq_some.mp hc').1]
  exact hlt

/-- The sorted messages, when none of them is a reservation. -/
theorem Found.ordered_eq (hnone : ∀ m ∈ ordered, m.envelope.messageType ≠ .ROUTE_RESERVED) :
    ordered = opening.1 :: (commitments.map Prod.fst ++ [barrier.1]) := by
  have hwindow : (opening.1 :: (commitments.map Prod.fst ++ [barrier.1])).Pairwise fun a b => a.sequence < b.sequence := by
    have hcommitments := hfound.commitments_sorted hstrict
    rw [List.pairwise_map] at hcommitments
    rw [List.pairwise_cons, List.pairwise_append, List.pairwise_map]
    refine ⟨?_, hcommitments, List.pairwise_singleton _ _, ?_⟩
    · intro m hm
      rcases List.mem_append.mp hm with hm | hm
      · obtain ⟨c, hc, rfl⟩ := List.mem_map.mp hm
        exact (hfound.place c hc).1
      · rw [List.mem_singleton.mp hm]
        exact hfound.openFirst
    · intro m hm b hb
      obtain ⟨c, hc, rfl⟩ := List.mem_map.mp hm
      rw [List.mem_singleton.mp hb]
      exact (hfound.place c hc).2
  have hnodup : ∀ l : List ObservedHcsMessage, (l.Pairwise fun a b => a.sequence < b.sequence) → l.Nodup := by
    intro l hl
    refine hl.imp ?_
    rintro a b hlt rfl
    exact absurd hlt (lt_irrefl _)
  refine List.Perm.eq_of_pairwise ?_ hstrict hwindow ?_
  · intro a b _ _ hab hba
    exact absurd hab (lt_asymm hba)
  · rw [List.perm_ext_iff_of_nodup (hnodup _ hstrict) (hnodup _ hwindow)]
    intro m
    rw [List.mem_cons, List.mem_append, List.mem_singleton]
    constructor
    · intro hm
      exact hfound.mem_cases hm (hnone m hm)
    · rintro (rfl | hm | rfl)
      · exact hfound.opening_mem.1
      · obtain ⟨c, hc, rfl⟩ := List.mem_map.mp hm
        exact (hfound.commitment_mem hc).1
      · exact hfound.barrier_mem.1

/-- The opening is first, the commitments follow, the barrier is last. -/
theorem Found.numbered (hnone : ∀ m ∈ ordered, m.envelope.messageType ≠ .ROUTE_RESERVED) :
    opening.1.sequence = 1 ∧ (commitments.map fun c => c.1.sequence) = sequenceRange 2 (commitments.length + 1) ∧
      barrier.1.sequence = commitments.length + 2 := by
  have hsequences := hfound.sequences
  rw [hfound.ordered_eq hstrict hnone, List.map_cons, List.map_append, List.map_map] at hsequences
  simp only [List.mem_cons, List.mem_append, List.map_singleton, List.not_mem_nil, or_false] at hsequences
  have hplace : ∀ s ∈ commitments.map fun c => c.1.sequence, opening.1.sequence < s ∧ s < barrier.1.sequence := by
    intro s hs
    obtain ⟨c, hc, rfl⟩ := List.mem_map.mp hs
    exact hfound.place c hc
  have hfirst := hfound.openFirst
  have hpositive : 1 ≤ opening.1.sequence := ((hsequences _).mp (.inl rfl)).1
  have hone : opening.1.sequence = 1 := by
    rcases (hsequences 1).mpr ⟨le_refl 1, by omega⟩ with h | h | h
    · exact h.symm
    · have hlt := (hplace 1 h).1
      omega
    · omega
  have hmem : ∀ s, s ∈ (commitments.map fun c => c.1.sequence) ↔ 2 ≤ s ∧ s ≤ barrier.1.sequence - 1 := by
    intro s
    constructor
    · intro hs
      have hbetween := hplace s hs
      omega
    · intro hs
      rcases (hsequences s).mpr ⟨by omega, by omega⟩ with h | h | h
      · omega
      · exact h
      · omega
  have heq := eq_sequenceRange (hfound.commitments_sorted hstrict) hmem
  have hlength : commitments.length = (barrier.1.sequence - 1 - 2 + 1).toNat := by
    have := congrArg List.length heq
    simpa [sequenceRange] using this
  have hlast : barrier.1.sequence = commitments.length + 2 := by omega
  refine ⟨hone, ?_, hlast⟩
  rw [heq, hlast]
  congr 1
  omega

end Shape

end Accepted

/-! ## The window of an auction -/

/-- One opening, the commitments and one barrier, numbered from one, and bound to what was expected. -/
structure AuctionWindow (input : MirrorReconciliationInput) (r : MirrorReconciliationResult) : Prop where
  messages : input.messages.Perm (r.opening :: (r.commitments ++ [r.barrier]))
  count : (r.commitments.length : Int) = input.commitmentCount
  opening : r.opening.envelope.messageType = .AUCTION_OPEN ∧ r.opening.sequence = 1
  commitmentTypes : ∀ c ∈ r.commitments, c.envelope.messageType = .BID_COMMITMENT
  commitmentSequences : r.commitments.map ObservedHcsMessage.sequence = sequenceRange 2 (r.commitments.length + 1)
  barrier : r.barrier.envelope.messageType = .AUCTION_CLOSE_BARRIER ∧ r.barrier.sequence = r.commitments.length + 2
  bound : ∀ m ∈ input.messages, Bound input m
  declared : ∃ opened closed, r.opening.envelope.payload = .auctionOpen opened ∧
    r.barrier.envelope.payload = .auctionCloseBarrier closed ∧
    (∃ x y, instant r.barrier.consensusTimestamp = some x ∧ instant opened.auctionEndsAt = some y ∧ y < x) ∧
    closed.expectedCommitmentCount = r.commitments.length ∧
    closed.commitmentEnvelopeHashes = r.commitments.map ObservedHcsMessage.envelopeHash

theorem AuctionWindow.none_reserved {input : MirrorReconciliationInput} {r : MirrorReconciliationResult}
    (h : AuctionWindow input r) : ∀ m ∈ input.messages, m.envelope.messageType ≠ .ROUTE_RESERVED := by
  intro m hm
  rw [h.messages.mem_iff, List.mem_cons, List.mem_append, List.mem_singleton] at hm
  rcases hm with rfl | hm | rfl
  · rw [h.opening.1]
    decide
  · rw [h.commitmentTypes m hm]
    decide
  · rw [h.barrier.1]
    decide

theorem auctionWindow_of_ok {input : MirrorReconciliationInput} {r : MirrorReconciliationResult}
    (h : reconcileMirrorMessages input = .ok r)
    (hnone : ∀ m ∈ input.messages, m.envelope.messageType ≠ .ROUTE_RESERVED) : AuctionWindow input r := by
  obtain ⟨-, hobserved, hordered⟩ := reconcileMirrorMessages_eq_ok.mp h
  have hperm := perm_sortOn ObservedHcsMessage.sequence input.messages
  have hsorted := pairwise_sortOn ObservedHcsMessage.sequence input.messages
  have hstrict : (sortOn ObservedHcsMessage.sequence input.messages).Pairwise fun a b => a.sequence < b.sequence := by
    have hne := List.pairwise_map.mp ((hperm.map ObservedHcsMessage.sequence).nodup_iff.mpr hobserved.sequences)
    exact (hsorted.and hne).imp fun ⟨hle, hne⟩ => lt_of_le_of_ne hle hne
  obtain ⟨opening, commitments, barrier, hfound, hopening, hcommitments, hbarrier⟩ :=
    found_of_reconcileOrdered hsorted hordered
  have hnone' : ∀ m ∈ sortOn ObservedHcsMessage.sequence input.messages, m.envelope.messageType ≠ .ROUTE_RESERVED :=
    fun m hm => hnone m (hperm.mem_iff.mp hm)
  obtain ⟨hfirst, hnumbers, hlast⟩ := hfound.numbered hstrict hnone'
  have heq := hfound.ordered_eq hstrict hnone'
  have hcount : (r.commitments.length : Int) = commitments.length := by rw [hcommitments, List.length_map]
  refine
    { messages := ?_
      count := hcount.trans hfound.count
      opening := ?_
      commitmentTypes := ?_
      commitmentSequences := ?_
      barrier := ?_
      bound := fun m hm => hfound.bound m (hperm.mem_iff.mpr hm)
      declared := ?_ }
  · rw [hopening, hcommitments, hbarrier, ← heq]
    exact hperm.symm
  · rw [hopening, HcsEnvelope.messageType, hfound.opening_mem.2]
    exact ⟨rfl, hfirst⟩
  · intro m hm
    rw [hcommitments] at hm
    obtain ⟨c, hc, rfl⟩ := List.mem_map.mp hm
    rw [HcsEnvelope.messageType, (hfound.commitment_mem hc).2]
    rfl
  · rw [hcount, hcommitments, List.map_map]
    exact hnumbers
  · rw [hbarrier, hcount, HcsEnvelope.messageType, hfound.barrier_mem.2]
    exact ⟨rfl, hlast⟩
  · rw [hopening, hbarrier, hcount, hcommitments, List.map_map]
    exact ⟨_, _, hfound.opening_mem.2, hfound.barrier_mem.2, hfound.afterEnd, hfound.declared.trans hfound.count.symm,
      hfound.hashes⟩

/-- The order of the messages does not matter, and the accepted messages are a window exactly when no reservation is
among them. -/
theorem reconcileMirrorMessages_window (input : MirrorReconciliationInput) :
    (∀ messages, input.messages.Perm messages →
      (reconcileMirrorMessages (input.reorder messages)).toOption = (reconcileMirrorMessages input).toOption) ∧
    ∀ r, reconcileMirrorMessages input = .ok r →
      (AuctionWindow input r ↔ ∀ m ∈ input.messages, m.envelope.messageType ≠ .ROUTE_RESERVED) :=
  ⟨fun _ hp => reconcile_reorder hp, fun _ h => ⟨AuctionWindow.none_reserved, auctionWindow_of_ok h⟩⟩

/-! ### A reservation inside the window -/

namespace ReservedWindow

def hashOf (c : Char) : JsString := js ("sha256:" ++ String.ofList (List.replicate 64 c))

def message (sequence : Int) (second : String) (hash : Char) (payload : HcsPayload) : ObservedHcsMessage where
  topicId := js "0.0.7001"
  sequence := sequence
  consensusTimestamp := js "2026-01-01T00:00:" ++ js second ++ js "Z"
  mirrorConsensusTimestamp := js "17672256" ++ js second ++ js ".000000000"
  envelope :=
    { runId := js "run-1"
      tenderId := js "tender-1"
      tenderVersion := 1
      tenderHash := hashOf 'a'
      createdAt := js "2026-01-01T00:00:00Z"
      payloadHash := hashOf hash
      payload := payload }
  envelopeHash := hashOf hash
  transactionId := none

def opened : ObservedHcsMessage :=
  message 1 "00" '1'
    (.auctionOpen
      { tenderId := js "tender-1"
        tenderVersion := 1
        tenderHash := hashOf 'a'
        auctionEndsAt := js "2026-01-01T00:00:05Z"
        rulesHash := hashOf 'b' })

def committed (sequence : Int) (second bidId : String) (hash : Char) : ObservedHcsMessage :=
  message sequence second hash
    (.bidCommitment
      { bidId := js bidId
        carrierId := js "carrier-1"
        bidHash := hashOf 'c'
        acceptanceReceiptHash := hashOf 'd'
        bidVersion := 1 })

def reserved : ObservedHcsMessage :=
  message 3 "02" '3'
    (.routeReserved
      { reservationId := js "reservation-1"
        winningBidId := js "bid-1"
        carrierId := js "carrier-1"
        carrierAccount := js "0.0.5001"
        selectedOptionId := .usdc
        paymentAsset := js "0.0.429274"
        paymentAmountAtomic := js "1000"
        payerAccount := js "0.0.6001"
        paymentTransactionId := js "0.0.6001@1767225600.000000000"
        paymentConsensusTimestamp := js "2026-01-01T00:00:01Z"
        reservationRecordHash := hashOf 'e'
        closeBarrierSequence := 5
        reservationEvidenceVersion := js "rg-res-ev-1" })

def closed (sequence : Int) (hashes : List JsString) : ObservedHcsMessage :=
  message sequence "06" '9'
    (.auctionCloseBarrier
      { barrierId := js "barrier-1"
        tenderId := js "tender-1"
        tenderVersion := 1
        tenderHash := hashOf 'a'
        auctionEndsAt := js "2026-01-01T00:00:05Z"
        expectedCommitmentCount := 2
        commitmentEnvelopeHashes := hashes })

def observed (messages : List ObservedHcsMessage) : MirrorReconciliationInput where
  topicId := js "0.0.7001"
  messages := messages
  expectedRunId := js "run-1"
  expectedTenderId := js "tender-1"
  expectedTenderVersion := 1
  expectedTenderHash := hashOf 'a'
  expectedCommitmentCount := none

/-- The two commitments of the window, with a reservation between them. -/
def mixed : MirrorReconciliationInput :=
  observed
    [opened, committed 2 "01" "bid-1" '2', reserved, committed 4 "03" "bid-2" '4', closed 5 [hashOf '2', hashOf '4']]

def plain : MirrorReconciliationInput :=
  observed
    [closed 4 [hashOf '2', hashOf '4'], committed 3 "03" "bid-2" '4', opened, committed 2 "01" "bid-1" '2']

theorem mixed_accepted : (reconcileMirrorMessages mixed).toOption.isSome = true := by decide

theorem plain_accepted : (reconcileMirrorMessages plain).toOption.isSome = true := by decide

end ReservedWindow

open ReservedWindow in
/-- A reservation between the commitments is accepted. -/
theorem reserved_window_accepted :
    ∃ input r, reconcileMirrorMessages input = .ok r ∧ ¬ AuctionWindow input r := by
  obtain ⟨r, hr⟩ := Option.isSome_iff_exists.mp mixed_accepted
  refine ⟨mixed, r, toOption_eq_some.mp hr, ?_⟩
  intro hwindow
  exact hwindow.none_reserved reserved (by simp [mixed, ReservedWindow.observed]) rfl

open ReservedWindow in
theorem reconcileMirrorMessages_window_plain : ∃ r, reconcileMirrorMessages plain = .ok r ∧ AuctionWindow plain r := by
  obtain ⟨r, hr⟩ := Option.isSome_iff_exists.mp plain_accepted
  rw [toOption_eq_some] at hr
  refine ⟨r, hr, ((reconcileMirrorMessages_window plain).2 r hr).mpr ?_⟩
  decide

end RouteGuard.Hcs
