import RouteGuard.Auction.Evidence

/-!
# Reconciled inputs

* `validateReconciliationInputs` : structural ambiguity fails before any bid is evaluated;
* `validateReconciliationInputs_eq_ok` : what it lets through, without its loops;
* `isSequenceRangeComplete` : every number of a range once.
-/

namespace RouteGuard.Auction
open JsString Json Guarded Sorting

inductive ReconciliationErrorCode where
  | DUPLICATE_HCS_SEQUENCE | DUPLICATE_BID_ID | DUPLICATE_COMMITMENT | DUPLICATE_FULL_BID
  | DUPLICATE_ACCEPTANCE_RECEIPT | AMBIGUOUS_BID_ASSIGNMENT | INCOMPLETE_SEQUENCE_RANGE | INVALID_CLOSURE_PROOF
  | MANIFEST_INTEGRITY_FAILURE
  deriving DecidableEq, Repr

inductive AuctionState where
  | DRAFT | OPEN | BIDDING | AUCTION_RECONCILIATION_PENDING | AUCTION_CLOSED | WINNER_SELECTED | NO_QUALIFIED_BID
  | INCOMPLETE_HCS_WINDOW
  deriving DecidableEq, Repr

/-- A `ReconciliationError`, an `IllegalAuctionTransitionError`, or another error. -/
inductive AuctionError where
  | reconciliation (code : ReconciliationErrorCode) (message : JsString)
  | illegal (source target : AuctionState) (message : JsString)
  | other (message : JsString)
  deriving DecidableEq, Repr

def typeError : AuctionError := .other (js "TypeError")

/-! ## Commitments -/

/-- The fields of a commitment in one string. -/
def CommitmentEvidence.identityKey (c : CommitmentEvidence) : JsString :=
  (js "|").intercalate
    [c.tenderId, c.bidId, c.carrierId, c.bidHash, c.acceptanceReceiptHash, decimalInt c.bidVersion,
     decimalInt c.hcsSequence, c.consensusTimestamp]

/-- A commitment repeats nothing of the ones before it. -/
def checkCommitment (earlier : List CommitmentEvidence) (c : CommitmentEvidence) : Except AuctionError Unit := do
  require (c.hcsSequence ∉ earlier.map CommitmentEvidence.hcsSequence)
    (.reconciliation .DUPLICATE_HCS_SEQUENCE (js "Duplicate HCS sequence: " ++ decimalInt c.hcsSequence))
  require (c.bidId ∉ earlier.map CommitmentEvidence.bidId)
    (.reconciliation .DUPLICATE_BID_ID (js "Duplicate commitment bidId: " ++ c.bidId))
  require (c.identityKey ∉ earlier.map CommitmentEvidence.identityKey)
    (.reconciliation .DUPLICATE_COMMITMENT (js "Repeated commitment identity for bidId " ++ c.bidId))

/-- The commitments, each against those before it. The list of schema issues that ends the message of a malformed one is
not spelled out. -/
def parseCommitments : (parsed : List CommitmentEvidence) → List Json → Except AuctionError (List CommitmentEvidence)
  | parsed, [] => .ok parsed
  | parsed, raw :: rest =>
    match parseCommitmentEvidence raw with
    | none => .error (.reconciliation .INVALID_CLOSURE_PROOF (js "Invalid commitment schema"))
    | some c => do
      checkCommitment parsed c
      parseCommitments (parsed ++ [c]) rest

/-- The key of the sorts by sequence. -/
def sequenceKey (hcsSequence : Int) (bidId : JsString) : Int ×ₗ JsString := toLex (hcsSequence, bidId)

def CommitmentEvidence.key (c : CommitmentEvidence) : Int ×ₗ JsString := sequenceKey c.hcsSequence c.bidId

/-! ## Bids and receipts -/

/-- An entry of the bids; `object` is the identity of the submitted object. -/
structure FullBidEntry where
  bidId : JsString
  object : Nat
  signed : Json

structure ReceiptEntry where
  bidId : JsString
  receipt : Json

/-- `value.outer.bidId`, which throws where `value` or `value.outer` has no properties. -/
def innerBidId (outer : JsString) (value : Json) : Except AuctionError (Option Json) :=
  match value.property outer with
  | none => .error typeError
  | some .null => .error typeError
  | some body => .ok (body.property (js "bidId"))

/-- The key of an entry is the bid id inside it; `label` starts the message. -/
def assertEntryKey (outer label bidId : JsString) (value : Json) : Except AuctionError Unit := do
  let found ← innerBidId outer value
  if found.bind asStr = some bidId then pure ()
  else
    match (found.map toText).getD (some (js "undefined")) with
    | none => .error typeError
    | some text =>
      .error (.reconciliation .AMBIGUOUS_BID_ASSIGNMENT
        (label ++ js " map key " ++ bidId ++ js " does not match " ++ outer ++ js ".bidId " ++ text))

def isObject : Json → Bool
  | .obj _ => true
  | .arr _ => true
  | _ => false

def checkFullBid (earlier : List FullBidEntry) (entry : FullBidEntry) : Except AuctionError Unit := do
  require (entry.bidId ∉ earlier.map FullBidEntry.bidId)
    (.reconciliation .DUPLICATE_FULL_BID (js "Duplicate full bid for bidId: " ++ entry.bidId))
  -- every earlier entry was an object: its key has been checked
  provided (isObject entry.signed)
    (require (entry.object ∉ earlier.map FullBidEntry.object)
      (.reconciliation .AMBIGUOUS_BID_ASSIGNMENT (js "One private bid object assigned to multiple map entries")))
  assertEntryKey (js "bid") (js "Full bid") entry.bidId entry.signed

def checkReceipt (earlier : List ReceiptEntry) (entry : ReceiptEntry) : Except AuctionError Unit := do
  require (entry.bidId ∉ earlier.map ReceiptEntry.bidId)
    (.reconciliation .DUPLICATE_ACCEPTANCE_RECEIPT (js "Duplicate acceptance receipt for bidId: " ++ entry.bidId))
  assertEntryKey (js "receipt") (js "Receipt") entry.bidId entry.receipt

/-! ## Validation -/

structure ReconciliationInput where
  commitments : List Json
  fullBids : List FullBidEntry
  acceptanceReceipts : List ReceiptEntry

/-- Commitments in the order of their sequences; the maps as their entries. -/
structure ValidatedReconciliationSet where
  commitments : List CommitmentEvidence
  fullBids : List (JsString × Json)
  acceptanceReceipts : List (JsString × Json)

def FullBidEntry.entry (e : FullBidEntry) : JsString × Json := (e.bidId, e.signed)

def ReceiptEntry.entry (e : ReceiptEntry) : JsString × Json := (e.bidId, e.receipt)

def validateReconciliationInputs (input : ReconciliationInput) : Except AuctionError ValidatedReconciliationSet := do
  let parsedCommitments ← parseCommitments [] input.commitments
  eachAfter checkFullBid [] input.fullBids
  eachAfter checkReceipt [] input.acceptanceReceipts
  pure
    { commitments := sortOn CommitmentEvidence.key parsedCommitments
      fullBids := input.fullBids.map FullBidEntry.entry
      acceptanceReceipts := input.acceptanceReceipts.map ReceiptEntry.entry }

/-! ### What is let through -/

/-- `value.outer.bidId` is the key. -/
def KeyedBy (outer bidId : JsString) (value : Json) : Prop :=
  ∃ body, value.property outer = some body ∧ body.property (js "bidId") = some (.str bidId)

theorem innerBidId_eq_ok {outer : JsString} {value v : Json} :
    innerBidId outer value = .ok (some v) ↔
      ∃ body, value.property outer = some body ∧ body.property (js "bidId") = some v := by
  unfold innerBidId
  cases value.property outer with
  | none => simp
  | some body => cases body <;> simp [property]

theorem asStr_eq_some {v : Json} {s : JsString} (h : asStr v = some s) : v = .str s := by
  cases v with
  | str t => rw [Option.some.inj h]
  | null => exact absurd h (by simp [asStr])
  | bool b => exact absurd h (by simp [asStr])
  | num n => exact absurd h (by simp [asStr])
  | arr items => exact absurd h (by simp [asStr])
  | obj fields => exact absurd h (by simp [asStr])

theorem assertEntryKey_eq_ok {outer label bidId : JsString} {value : Json} {u : Unit} :
    assertEntryKey outer label bidId value = .ok u ↔ KeyedBy outer bidId value := by
  rw [KeyedBy, ← innerBidId_eq_ok, assertEntryKey, bind_eq_ok]
  constructor
  · rintro ⟨found, hfound, h⟩
    split at h
    next heq =>
      obtain ⟨v, rfl, hv⟩ := Option.bind_eq_some_iff.mp heq
      rw [hfound, asStr_eq_some hv]
    next => split at h <;> exact absurd h (by simp)
  · intro h
    exact ⟨_, h, if_pos rfl⟩

theorem KeyedBy.isObject {outer bidId : JsString} {value : Json} (h : KeyedBy outer bidId value) :
    isObject value = true := by
  obtain ⟨body, hbody, -⟩ := h
  cases value with
  | obj fields => rfl
  | arr items => rfl
  | null => exact absurd hbody (by simp [property])
  | bool b => exact absurd hbody (by simp [property])
  | num n => exact absurd hbody (by simp [property])
  | str s => exact absurd hbody (by simp [property])

theorem parseCommitments_eq_ok {raws : List Json} {parsed cs : List CommitmentEvidence} :
    parseCommitments parsed raws = .ok cs ↔ ∃ fresh, raws.mapM parseCommitmentEvidence = some fresh ∧
      eachAfter checkCommitment parsed fresh = .ok () ∧ parsed ++ fresh = cs := by
  induction raws generalizing parsed with
  | nil => simp [parseCommitments, eachAfter]
  | cons raw rest ih =>
    rw [parseCommitments, List.mapM_cons]
    cases parseCommitmentEvidence raw with
    | none => simp
    | some c =>
      simp only [check_eq_ok, ih, Option.bind_eq_bind, Option.bind_some, Option.bind_eq_some_iff, Option.pure_def,
        Option.some.injEq]
      constructor
      · rintro ⟨hc, fresh, hfresh, hchecks, rfl⟩
        refine ⟨c :: fresh, ⟨fresh, hfresh, rfl⟩, ?_, by simp⟩
        rw [eachAfter, check_eq_ok]
        exact ⟨hc, hchecks⟩
      · rintro ⟨_, ⟨fresh, hfresh, rfl⟩, hchecks, rfl⟩
        rw [eachAfter, check_eq_ok] at hchecks
        exact ⟨hchecks.1, fresh, hfresh, hchecks.2, by simp⟩

/-- No two commitments share a sequence, a bid or an identity. -/
structure DistinctCommitments (cs : List CommitmentEvidence) : Prop where
  sequences : (cs.map CommitmentEvidence.hcsSequence).Nodup
  bidIds : (cs.map CommitmentEvidence.bidId).Nodup
  identities : (cs.map CommitmentEvidence.identityKey).Nodup

structure DistinctBids (entries : List FullBidEntry) : Prop where
  bidIds : (entries.map FullBidEntry.bidId).Nodup
  objects : (entries.map FullBidEntry.object).Nodup
  keyed : ∀ e ∈ entries, KeyedBy (js "bid") e.bidId e.signed

structure DistinctReceipts (entries : List ReceiptEntry) : Prop where
  bidIds : (entries.map ReceiptEntry.bidId).Nodup
  keyed : ∀ e ∈ entries, KeyedBy (js "receipt") e.bidId e.receipt

theorem checkCommitments_eq_ok {cs : List CommitmentEvidence} :
    eachAfter checkCommitment [] cs = .ok () ↔ DistinctCommitments cs := by
  simp only [eachAfter_eq_ok, checkCommitment, check_eq_ok, require_eq_ok, List.nil_append]
  constructor
  · intro h
    exact ⟨forall_append_iff_nodup.mp fun before c after heq => (h before c after heq).1,
      forall_append_iff_nodup.mp fun before c after heq => (h before c after heq).2.1,
      forall_append_iff_nodup.mp fun before c after heq => (h before c after heq).2.2⟩
  · intro h before c after heq
    exact ⟨forall_append_iff_nodup.mpr h.sequences before c after heq,
      forall_append_iff_nodup.mpr h.bidIds before c after heq,
      forall_append_iff_nodup.mpr h.identities before c after heq⟩

theorem checkFullBids_eq_ok {entries : List FullBidEntry} :
    eachAfter checkFullBid [] entries = .ok () ↔ DistinctBids entries := by
  simp only [eachAfter_eq_ok, checkFullBid, check_eq_ok, require_eq_ok, provided_eq_ok, assertEntryKey_eq_ok,
    List.nil_append]
  constructor
  · intro h
    refine ⟨forall_append_iff_nodup.mp fun before e after heq => (h before e after heq).1,
      forall_append_iff_nodup.mp fun before e after heq => ?_, fun e he => ?_⟩
    · have hkeyed := (h before e after heq).2.2
      exact (h before e after heq).2.1 hkeyed.isObject
    · obtain ⟨before, after, heq⟩ := List.append_of_mem he
      exact (h before e after heq).2.2
  · intro h before e after heq
    exact ⟨forall_append_iff_nodup.mpr h.bidIds before e after heq,
      fun _ => forall_append_iff_nodup.mpr h.objects before e after heq, h.keyed e (by simp [heq])⟩

theorem checkReceipts_eq_ok {entries : List ReceiptEntry} :
    eachAfter checkReceipt [] entries = .ok () ↔ DistinctReceipts entries := by
  simp only [eachAfter_eq_ok, checkReceipt, check_eq_ok, require_eq_ok, assertEntryKey_eq_ok, List.nil_append]
  constructor
  · intro h
    refine ⟨forall_append_iff_nodup.mp fun before e after heq => (h before e after heq).1, fun e he => ?_⟩
    obtain ⟨before, after, heq⟩ := List.append_of_mem he
    exact (h before e after heq).2
  · intro h before e after heq
    exact ⟨forall_append_iff_nodup.mpr h.bidIds before e after heq, h.keyed e (by simp [heq])⟩

/-- What the validation lets through. -/
structure Reconciled (input : ReconciliationInput) (cs : List CommitmentEvidence) : Prop where
  parsed : input.commitments.mapM parseCommitmentEvidence = some cs
  commitments : DistinctCommitments cs
  fullBids : DistinctBids input.fullBids
  receipts : DistinctReceipts input.acceptanceReceipts

/-- The set that reconciled inputs give. -/
def ReconciliationInput.validated (input : ReconciliationInput) (cs : List CommitmentEvidence) :
    ValidatedReconciliationSet where
  commitments := sortOn CommitmentEvidence.key cs
  fullBids := input.fullBids.map FullBidEntry.entry
  acceptanceReceipts := input.acceptanceReceipts.map ReceiptEntry.entry

theorem validateReconciliationInputs_eq_ok {input : ReconciliationInput} {set : ValidatedReconciliationSet} :
    validateReconciliationInputs input = .ok set ↔ ∃ cs, Reconciled input cs ∧ input.validated cs = set := by
  simp only [validateReconciliationInputs, bind_eq_ok (f := fun _ : Unit => _), bind_eq_ok, pure_eq_ok,
    parseCommitments_eq_ok]
  constructor
  · rintro ⟨cs, ⟨fresh, hparsed, hchecks, rfl⟩, _, hbids, _, hreceipts, rfl⟩
    exact ⟨fresh, ⟨hparsed, checkCommitments_eq_ok.mp hchecks, checkFullBids_eq_ok.mp hbids,
      checkReceipts_eq_ok.mp hreceipts⟩, rfl⟩
  · rintro ⟨cs, h, rfl⟩
    exact ⟨cs, ⟨cs, h.parsed, checkCommitments_eq_ok.mpr h.commitments, rfl⟩, (), checkFullBids_eq_ok.mpr h.fullBids, (),
      checkReceipts_eq_ok.mpr h.receipts, rfl⟩

/-! ## Sequence ranges -/

def isSafeInteger (n : Int) : Bool := -Lifecycle.MAX_SAFE_INTEGER ≤ n && n ≤ Lifecycle.MAX_SAFE_INTEGER

/-- The numbers from `start` to `stop`. -/
def sequenceRange (start stop : Int) : List Int := (List.range (stop - start + 1).toNat).map fun i : Nat => start + (i : Int)

/-- Every number from `start` to `stop` appears exactly once. -/
def isSequenceRangeComplete (start stop : Int) (observedSequences : List Int) : Bool :=
  (isSafeInteger start && isSafeInteger stop && 1 ≤ start && start ≤ stop) &&
    ((observedSequences.length : Int) = stop - start + 1 && (observedSequences.dedup.length : Int) = stop - start + 1) &&
    (sequenceRange start stop).all fun s => s ∈ observedSequences

theorem mem_sequenceRange {start stop s : Int} : s ∈ sequenceRange start stop ↔ start ≤ s ∧ s ≤ stop := by
  simp only [sequenceRange, List.mem_map, List.mem_range]
  constructor
  · rintro ⟨i, hi, rfl⟩
    omega
  · rintro ⟨h1, h2⟩
    exact ⟨(s - start).toNat, by omega, by omega⟩

theorem nodup_sequenceRange (start stop : Int) : (sequenceRange start stop).Nodup := by
  refine List.Nodup.map ?_ List.nodup_range
  intro i j h
  have hij : start + (i : Int) = start + (j : Int) := h
  omega

/-- A complete range holds the numbers between its ends, each once. -/
theorem isSequenceRangeComplete_iff {start stop : Int} {observed : List Int} :
    isSequenceRangeComplete start stop observed = true ↔
      (1 ≤ start ∧ start ≤ stop ∧ stop ≤ Lifecycle.MAX_SAFE_INTEGER) ∧ observed.Nodup ∧
        ∀ s, s ∈ observed ↔ start ≤ s ∧ s ≤ stop := by
  have hlength : (sequenceRange start stop).length = (stop - start + 1).toNat := by simp [sequenceRange]
  have hmax : (0 : Int) ≤ Lifecycle.MAX_SAFE_INTEGER := by decide
  simp only [isSequenceRangeComplete, isSafeInteger, Bool.and_eq_true, decide_eq_true_eq, List.all_eq_true]
  constructor
  · intro h
    obtain ⟨⟨⟨⟨⟨-, -, hstop⟩, hstart⟩, hle⟩, hlen, hdedup⟩, hall⟩ := h
    have hnodup : observed.Nodup := by
      have heq := observed.dedup_sublist.eq_of_length (by omega)
      rw [← heq]
      exact observed.nodup_dedup
    have hsub : (sequenceRange start stop).Subperm observed :=
      (nodup_sequenceRange start stop).subperm fun s hs => hall s hs
    have hperm := hsub.perm_of_length_le (by omega)
    refine ⟨⟨hstart, hle, hstop⟩, hnodup, fun s => ?_⟩
    rw [← hperm.mem_iff, mem_sequenceRange]
  · rintro ⟨⟨hstart, hle, hstop⟩, hnodup, hmem⟩
    have hperm : observed.Perm (sequenceRange start stop) := by
      rw [List.perm_ext_iff_of_nodup hnodup (nodup_sequenceRange start stop)]
      intro s
      rw [hmem, mem_sequenceRange]
    have hlen := hperm.length_eq
    rw [hnodup.dedup]
    refine ⟨⟨⟨⟨⟨⟨?_, ?_⟩, ?_, hstop⟩, hstart⟩, hle⟩, ?_, ?_⟩, fun s hs => hperm.mem_iff.mpr hs⟩ <;> omega

end RouteGuard.Auction
