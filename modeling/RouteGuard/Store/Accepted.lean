import RouteGuard.Lifecycle.Transitions
import RouteGuard.Store.PersistedRecord

/-!
# What the validator accepts

* the primitive assertions as propositions;
* `Accepted` : the record passes every part of the validator;
* `assertValidLifecycleRecord_eq_ok` : the validator accepts exactly these records, and returns them as
  they are.
-/

namespace RouteGuard.Store
open JsString Guarded Access Auth Trust Lifecycle

/-! ## Primitive assertions -/

section Primitives
variable {t field value : JsString} {u : Unit}

@[simp] theorem assertSafeTenderId_eq_ok : assertSafeTenderId value = .ok u ↔ isSafeTenderId value := by
  simp [assertSafeTenderId]

@[simp] theorem str_eq_ok {max : Nat} : str t max field value = .ok u ↔ value ≠ [] ∧ value.length ≤ max := by
  simp [str]

@[simp] theorem safeInt_eq_ok {min : Nat} {n : Int} :
    safeInt t min field n = .ok u ↔ (min : Int) ≤ n ∧ n ≤ MAX_SAFE_INTEGER := by
  simp [safeInt]

@[simp] theorem hash_eq_ok : hash t field value = .ok u ↔ isSha256 value := by
  simp [hash]

@[simp] theorem utc_eq_ok : utc t field value = .ok u ↔ isUtcIsoTimestamp value := by
  simp [utc]

@[simp] theorem nonNegAtomic_eq_ok : nonNegAtomic t field value = .ok u ↔ isNonNegativeAtomicString value := by
  simp [nonNegAtomic]

@[simp] theorem positiveAtomic_eq_ok : positiveAtomic t field value = .ok u ↔ isPositiveAtomicString value := by
  simp [positiveAtomic]

@[simp] theorem account_eq_ok : account t field value = .ok u ↔ isValidHederaAccountId value := by
  simp [account]

@[simp] theorem fingerprint_eq_ok : fingerprint t field value = .ok u ↔ isFingerprint value := by
  simp [fingerprint]

@[simp] theorem expect_eq_ok {c : Prop} [Decidable c] {reason : String} :
    expect t c reason = .ok u ↔ c := by
  simp [expect]

@[simp] theorem requirePresent_eq_ok {α : Type} {v : Option α} {name : String} {state : V2LifecycleState} :
    requirePresent t v name state = .ok u ↔ v.isSome := by
  simp [requirePresent]

@[simp] theorem requireAbsent_eq_ok {α : Type} {v : Option α} {name : String} {state : V2LifecycleState} :
    requireAbsent t v name state = .ok u ↔ v = none := by
  simp [requireAbsent]

@[simp] theorem amount_eq_ok {n : Int} : amount value = .ok n ↔ bigInt value = some n := by
  unfold amount
  split <;> simp_all

@[simp] theorem expectNotAfter_eq_ok {a b : JsString} {reason : String} :
    expectNotAfter t a b reason = .ok u ↔ NotAfter a b := by
  simp only [expectNotAfter, bind_eq_ok, mapError_eq_ok, require_eq_ok, compareUtc_eq_ok, NotAfter]
  constructor
  · rintro ⟨c, ⟨x, y, hx, hy, rfl⟩, hc⟩
    refine ⟨x, y, hx, hy, ?_⟩
    by_contra hlt
    rw [if_neg (by omega), if_pos (by omega)] at hc
    exact hc (by decide)
  · rintro ⟨x, y, hx, hy, hle⟩
    refine ⟨_, ⟨x, y, hx, hy, rfl⟩, ?_⟩
    rw [if_neg (c := x > y) (by omega)]
    split <;> decide

end Primitives

theorem isSha256_hex {digest : JsString} (h : digest.length = 64 ∧ digest.all isLowerHex) :
    isSha256 (js "sha256:" ++ digest) := by
  have hdrop : (js "sha256:" ++ digest).drop 7 = digest := List.drop_left' rfl
  simp [isSha256, hdrop, h]

theorem isSha256_canonicalSha256 {p : Platform} (hp : p.HexDigest) (value : Json) :
    isSha256 (canonicalSha256 p.sha256Hex value) :=
  isSha256_hex (hp _)

/-! ## Formats -/

/-- A string of at least one and at most `max` characters. -/
def Text (max : Nat) (value : JsString) : Prop := value ≠ [] ∧ value.length ≤ max

structure BindingFormat (t : JsString) (b : TenderBinding) : Prop where
  safe : isSafeTenderId b.tenderId
  tender : b.tenderId = t
  tenderVersion : 1 ≤ b.tenderVersion ∧ b.tenderVersion ≤ MAX_SAFE_INTEGER
  tenderHash : isSha256 b.tenderHash
  budget : isPositiveAtomicString b.maximumFreightBudgetAtomic
  auctionEndsAt : isUtcIsoTimestamp b.auctionEndsAt
  createdAt : isUtcIsoTimestamp b.createdAt

structure ActionFormat (recordVersion : Int) (key : JsString) (a : ProcessedActionRecord) : Prop where
  text : Text 128 a.actionId
  key : a.actionId = key
  payload : isSha256 a.eventPayloadHash
  version : 1 ≤ a.recordVersionAfter ∧ a.recordVersionAfter ≤ MAX_SAFE_INTEGER
  committed : a.recordVersionAfter ≤ recordVersion
  time : isUtcIsoTimestamp a.at_

/-- A history entry and the processed action of the rebuilt index. -/
def Committed (actions : PlainObject ProcessedActionRecord) (entry : LifecycleTransitionRecord) : Prop :=
  ∃ a, (rebuiltActions actions).read PROCESSED_ACTION_KEYS entry.actionId = .value a ∧
    a.eventType = entry.eventType ∧ a.resultingState = entry.target

/-- The last history entry is the current state. -/
def FinalEntry (g : Progress) : Prop :=
  match g.history.getLast? with
  | none => g.state = .draft ∧ g.lastActionId = none
  | some last => last.target = g.state ∧ last.at_ = g.updatedAt ∧ g.lastActionId = some last.actionId ∧
      ∀ entry ∈ g.history, Committed g.processedActions entry

structure ProgressFormat (t createdAt : JsString) (g : Progress) : Prop where
  version : 1 ≤ g.recordVersion ∧ g.recordVersion ≤ MAX_SAFE_INTEGER
  updated : isUtcIsoTimestamp g.updatedAt
  order : NotAfter createdAt g.updatedAt
  last : ∀ a ∈ g.lastActionId, Text 128 a
  length : g.history.length ≤ MAX_HISTORY
  entries : eachAfter (validateTransition t) [] g.history = .ok ()
  times : eachAfter (validateHistoryTime t createdAt) [] g.history = .ok ()
  actions : ∀ e ∈ g.processedActions.entries, ActionFormat g.recordVersion e.1 e.2
  count : g.history.length = (rebuiltActions g.processedActions).own.keys.length
  versions : g.recordVersion = g.history.length + 1
  final : FinalEntry g

structure FundingFormat (t : JsString) (b : TenderBinding) (f : FundingFields) : Prop where
  fundingTxId : ∀ v ∈ f.fundingTxId, Text 128 v
  fundedAmountAtomic : ∀ v ∈ f.fundedAmountAtomic, isNonNegativeAtomicString v
  activationPaymentTxId : ∀ v ∈ f.activationPaymentTxId, Text 128 v
  accessReceipt : ∀ receipt ∈ f.accessReceipt, validateAccessReceipt t b f.activationPaymentTxId receipt = .ok ()
  accessPayments : validateAccessPayments t b f.accessPayments = .ok ()
  bidRegistry : validateBidRegistry t f.bidRegistry = .ok ()

structure AuctionFormat (a : AuctionFields) : Prop where
  closureProofRef : ∀ v ∈ a.closureProofRef, Text 256 v
  authoritativeBidSetHash : ∀ v ∈ a.authoritativeBidSetHash, isSha256 v
  decisionManifestHash : ∀ v ∈ a.decisionManifestHash, isSha256 v
  winningBidId : ∀ v ∈ a.winningBidId, Text 128 v
  winningCarrierId : ∀ v ∈ a.winningCarrierId, Text 128 v
  winningCarrierAccount : ∀ v ∈ a.winningCarrierAccount, isValidHederaAccountId v
  winningAmountAtomic : ∀ v ∈ a.winningAmountAtomic, isNonNegativeAtomicString v
  lockedAmountAtomic : ∀ v ∈ a.lockedAmountAtomic, isNonNegativeAtomicString v
  excessRefundAtomic : ∀ v ∈ a.excessRefundAtomic, isNonNegativeAtomicString v
  allocateTxId : ∀ v ∈ a.allocateTxId, Text 128 v
  refundExcessTxId : ∀ v ∈ a.refundExcessTxId, Text 128 v
  reservationEvidenceRef : ∀ v ∈ a.reservationEvidenceRef, Text 256 v

structure PodFormat (d : PodFields) : Prop where
  podId : ∀ v ∈ d.podId, Text 128 v
  podVersion : ∀ v ∈ d.podVersion, 1 ≤ v ∧ v ≤ MAX_SAFE_INTEGER
  podContentHash : ∀ v ∈ d.podContentHash, isSha256 v
  podCiphertextHash : ∀ v ∈ d.podCiphertextHash, isSha256 v
  reviewStartedAt : ∀ v ∈ d.reviewStartedAt, isUtcIsoTimestamp v
  reviewDeadlineAt : ∀ v ∈ d.reviewDeadlineAt, isUtcIsoTimestamp v
  correctionDeadlineAt : ∀ v ∈ d.correctionDeadlineAt, isUtcIsoTimestamp v
  advisoryReportHash : ∀ v ∈ d.advisoryReportHash, isSha256 v
  disputeId : ∀ v ∈ d.disputeId, Text 128 v
  lastShipperAuthPayloadHash : ∀ v ∈ d.lastShipperAuthPayloadHash, isSha256 v
  lastShipperKeyFingerprint : ∀ v ∈ d.lastShipperKeyFingerprint, isFingerprint v

structure SettlementFormat (x : SettlementFields) : Prop where
  refereeResolution : ∀ v ∈ x.refereeResolution, Text 32 v
  resolutionKind : ∀ v ∈ x.refereeResolution, v ∈ RESOLUTIONS
  releaseAmountAtomic : ∀ v ∈ x.releaseAmountAtomic, isNonNegativeAtomicString v
  refundAmountAtomic : ∀ v ∈ x.refundAmountAtomic, isNonNegativeAtomicString v
  resolutionPayloadHash : ∀ v ∈ x.resolutionPayloadHash, isSha256 v
  refereeId : ∀ v ∈ x.refereeId, Text 128 v
  refereeKeyFingerprint : ∀ v ∈ x.refereeKeyFingerprint, isFingerprint v
  releaseTxId : ∀ v ∈ x.releaseTxId, Text 128 v
  refundTxId : ∀ v ∈ x.refundTxId, Text 128 v

/-! ## Requirements of a state -/

structure FundedAt (s : V2LifecycleState) (b : TenderBinding) (f : FundingFields) : Prop where
  funded : s ∈ POST_FUNDING → f.fundingTxId.isSome ∧ f.fundedAmountAtomic = some b.maximumFreightBudgetAtomic
  unfunded : s ∉ POST_FUNDING → f.fundingTxId = none ∧ f.fundedAmountAtomic = none

structure ActivatedAt (s : V2LifecycleState) (f : FundingFields) : Prop where
  activated : s ∈ POST_ACTIVATION → f.activationPaymentTxId.isSome ∧ f.accessReceipt.isSome
  unactivated : s ∉ POST_ACTIVATION →
    f.activationPaymentTxId = none ∧ f.accessReceipt = none ∧ f.accessPayments = []

/-- The activation payment of the index and the receipt. -/
def ReceiptMatched (f : FundingFields) : Prop :=
  match f.accessReceipt with
  | some receipt => (activationPayments f.accessPayments).length = 1 ∧
      ∀ activation ∈ (activationPayments f.accessPayments).head?, matchesReceipt activation receipt
  | none => activationPayments f.accessPayments = []

/-- The payment of an accepted bid, under the same transaction and action. -/
def BidPaid (payments : List LifecycleAccessPayment) (actions : PlainObject ProcessedActionRecord)
    (bid : LifecycleBidEntry) : Prop :=
  ∃ payment, bidPayment payments bid.bidId = some payment ∧
    payment.paymentTransactionId = bid.accessPaymentTxId ∧ payment.actionId = bid.actionId ∧
    (rebuiltActions actions).read PROCESSED_ACTION_KEYS bid.actionId ≠ .undefined

structure BidsAt (s : V2LifecycleState) (f : FundingFields) (actions : PlainObject ProcessedActionRecord) :
    Prop where
  unique : bidPaymentCount f.accessPayments + (activationPayments f.accessPayments).length = f.accessPayments.length
  count : f.bidRegistry.length = bidPaymentCount f.accessPayments
  paid : ∀ bid ∈ f.bidRegistry, BidPaid f.accessPayments actions bid
  stage : f.bidRegistry = [] ∨ s ∈ BIDDING_REACHED

structure AwardedAt (s : V2LifecycleState) (b : TenderBinding) (a : AuctionFields) : Prop where
  closed : s ∈ POST_AUCTION_CLOSE → a.closureProofRef.isSome ∧ a.authoritativeBidSetHash.isSome
  winner : s ∈ REQUIRES_WINNER → a.winningBidId.isSome ∧ a.winningCarrierId.isSome ∧
    a.winningCarrierAccount.isSome ∧ a.winningAmountAtomic.isSome ∧ a.decisionManifestHash.isSome
  budget : ∀ winning ∈ a.winningAmountAtomic, ∃ win, bigInt winning = some win ∧
    ∃ budget, bigInt b.maximumFreightBudgetAtomic = some budget ∧ win ≤ budget

/-- The locked amount against the budget, the winning amount and the excess. -/
def LockedAmount (b : TenderBinding) (a : AuctionFields) (locked : JsString) : Prop :=
  ∃ l, bigInt locked = some l ∧ ∃ budget, bigInt b.maximumFreightBudgetAtomic = some budget ∧ l ≤ budget ∧
    (∀ winning ∈ a.winningAmountAtomic, locked = winning) ∧
    ∀ excess ∈ a.excessRefundAtomic, ∃ x, bigInt excess = some x ∧ l + x = budget

structure LockedAt (s : V2LifecycleState) (b : TenderBinding) (a : AuctionFields) : Prop where
  locked : s ∈ REQUIRES_LOCK → a.lockedAmountAtomic.isSome ∧ a.excessRefundAtomic.isSome ∧ a.allocateTxId.isSome
  unlocked : s ∉ REQUIRES_LOCK ∧ s ∉ ALLOWS_SETTLEMENT_TX → a.lockedAmountAtomic = none
  amount : ∀ locked ∈ a.lockedAmountAtomic, LockedAmount b a locked

/-- Both timestamps parse, and the first is earlier. -/
def Before (a b : JsString) : Prop := ∃ x y, instant a = some x ∧ instant b = some y ∧ x < y

structure PodAt (s : V2LifecycleState) (d : PodFields) : Prop where
  package : s ∈ REQUIRES_POD →
    d.podId.isSome ∧ d.podVersion.isSome ∧ d.podContentHash.isSome ∧ d.podCiphertextHash.isSome
  window : s ∈ REQUIRES_REVIEW_WINDOW → d.reviewStartedAt.isSome ∧ d.reviewDeadlineAt.isSome ∧
    Before (d.reviewStartedAt.getD []) (d.reviewDeadlineAt.getD [])
  correction : s ∈ REQUIRES_CORRECTION_DEADLINE → d.correctionDeadlineAt.isSome
  dispute : s ∈ REQUIRES_DISPUTE → d.disputeId.isSome

structure UnsettledAt (s : V2LifecycleState) (x : SettlementFields) : Prop where
  decision : s ∉ ALLOWS_REFEREE_DECISION → x.refereeResolution = none ∧ x.resolutionPayloadHash = none ∧
    x.refereeId = none ∧ x.refereeKeyFingerprint = none
  amounts : s ∉ ALLOWS_SETTLEMENT → x.releaseAmountAtomic = none ∧ x.refundAmountAtomic = none
  transactions : s ∉ ALLOWS_SETTLEMENT_TX → x.releaseTxId = none ∧ x.refundTxId = none

/-- A recorded decision splits the locked amount, and its referee is registered. -/
def DecisionAmounts (b : TenderBinding) (a : AuctionFields) (d : PodFields) (x : SettlementFields)
    (resolution : JsString) : Prop :=
  x.releaseAmountAtomic.isSome ∧ x.refundAmountAtomic.isSome ∧ a.lockedAmountAtomic.isSome ∧
    ∃ rel, bigInt (x.releaseAmountAtomic.getD []) = some rel ∧
    ∃ ref, bigInt (x.refundAmountAtomic.getD []) = some ref ∧
    ∃ locked, bigInt (a.lockedAmountAtomic.getD []) = some locked ∧ rel + ref = locked ∧
    ¬ (resolution = js "RELEASE_FULL" ∧ ref ≠ 0) ∧ ¬ (resolution = js "REFUND_FULL" ∧ rel ≠ 0) ∧
    ¬ (resolution = js "PARTIAL" ∧ rel = 0 ∧ ref = 0) ∧ d.disputeId.isSome ∧
    ∀ refereeId ∈ x.refereeId, b.trust.referees.any fun r => r.refereeId = refereeId

structure DecidedAt (s : V2LifecycleState) (b : TenderBinding) (a : AuctionFields) (d : PodFields)
    (x : SettlementFields) : Prop where
  recorded : s ∈ REQUIRES_REFEREE_DECISION → x.refereeResolution.isSome ∧ x.resolutionPayloadHash.isSome ∧
    x.refereeId.isSome ∧ x.refereeKeyFingerprint.isSome
  amounts : ∀ resolution ∈ x.refereeResolution, DecisionAmounts b a d x resolution

structure ReleasedAt (s : V2LifecycleState) (a : AuctionFields) (x : SettlementFields) : Prop where
  settled : s = .paymentReleased ∨ s = .partialRelease →
    x.releaseTxId.isSome ∧ x.releaseAmountAtomic.isSome ∧ a.lockedAmountAtomic.isSome
  full : s = .paymentReleased → x.releaseAmountAtomic = a.lockedAmountAtomic ∧
    x.refundAmountAtomic = some (js "0") ∧
    (x.refereeResolution = none ∨ x.refereeResolution = some (js "RELEASE_FULL"))
  split : s = .partialRelease → x.refundTxId.isSome ∧ x.refereeResolution = some (js "PARTIAL") ∧
    ∃ rel, bigInt (x.releaseAmountAtomic.getD []) = some rel ∧
    ∃ ref, bigInt (x.refundAmountAtomic.getD []) = some ref ∧
    ∃ locked, bigInt (a.lockedAmountAtomic.getD []) = some locked ∧ rel + ref = locked

/-- What a refund returns: the budget where nothing was ever locked, the locked amount after a decision. -/
def RefundedAmount (b : TenderBinding) (a : AuctionFields) (x : SettlementFields) : Prop :=
  match x.refereeResolution with
  | none => a.lockedAmountAtomic = none ∧ x.refundAmountAtomic = some b.maximumFreightBudgetAtomic
  | some resolution => resolution = js "REFUND_FULL" ∧ x.refundAmountAtomic = a.lockedAmountAtomic ∧
      x.releaseAmountAtomic = some (js "0")

structure RefundedAt (s : V2LifecycleState) (b : TenderBinding) (a : AuctionFields) (x : SettlementFields) :
    Prop where
  refunded : s = .refunded → x.refundTxId.isSome ∧ x.refundAmountAtomic.isSome ∧ RefundedAmount b a x
  completed : ¬ (s = .tenderCompleted ∧ x.releaseTxId = none ∧ x.refundTxId = none)

/-! ## The parts of the validator -/

section Parts
variable {p : Platform} {t : JsString} {r : LifecycleRecord}

theorem validateHeader_eq_ok : validateHeader t r = .ok () ↔
    BindingFormat t r.toTenderBinding ∧ (1 ≤ r.recordVersion ∧ r.recordVersion ≤ MAX_SAFE_INTEGER) ∧
      isUtcIsoTimestamp r.updatedAt ∧ NotAfter r.createdAt r.updatedAt ∧ ∀ a ∈ r.lastActionId, Text 128 a := by
  simp only [validateHeader, check_eq_ok, nullable_eq_ok, assertSafeTenderId_eq_ok, expect_eq_ok, safeInt_eq_ok,
    hash_eq_ok, positiveAtomic_eq_ok, utc_eq_ok, expectNotAfter_eq_ok, str_eq_ok]
  constructor
  · rintro ⟨h1, h2, h3, h4, h5, h6, h7, h8, h9, h10, h11⟩
    exact ⟨⟨h1, h2, h3, h4, h5, h6, h8⟩, h7, h9, h10, h11⟩
  · rintro ⟨⟨h1, h2, h3, h4, h5, h6, h8⟩, h7, h9, h10, h11⟩
    exact ⟨h1, h2, h3, h4, h5, h6, h7, h8, h9, h10, h11⟩

theorem validateCommitted_eq_ok {entry : LifecycleTransitionRecord} {u : Unit} :
    validateCommitted t r entry = .ok u ↔ Committed r.processedActions entry := by
  unfold validateCommitted Committed
  cases (rebuiltActions r.processedActions).read PROCESSED_ACTION_KEYS entry.actionId with
  | undefined => simp
  | inherited => simp
  | value a => simp [check_eq_ok]

theorem validateActions_eq_ok : validateActions t r = .ok () ↔
    (∀ e ∈ r.processedActions.entries, ActionFormat r.recordVersion e.1 e.2) ∧
      r.history.length = (rebuiltActions r.processedActions).own.keys.length ∧
      r.recordVersion = r.history.length + 1 ∧ FinalEntry r.toProgress := by
  have haction : ∀ e ∈ r.processedActions.entries,
      validateProcessedAction t r.recordVersion e.1 e.2 = .ok () ↔ ActionFormat r.recordVersion e.1 e.2 := by
    intro e _
    simp only [validateProcessedAction, check_eq_ok, str_eq_ok, require_eq_ok, hash_eq_ok, safeInt_eq_ok, utc_eq_ok]
    constructor
    · rintro ⟨h1, h2, h3, h4, h5, h6⟩
      exact ⟨h1, h2, h3, h4, h5, h6⟩
    · rintro ⟨h1, h2, h3, h4, h5, h6⟩
      exact ⟨h1, h2, h3, h4, h5, h6⟩
  simp only [validateActions, check_eq_ok, each_eq_ok, expect_eq_ok, FinalEntry, forall₂_congr haction]
  cases r.history.getLast? with
  | none => simp only [check_eq_ok, expect_eq_ok]
  | some last => simp only [check_eq_ok, expect_eq_ok, each_eq_ok, validateCommitted_eq_ok]

/-- The header, the history and the processed actions: what is fixed, and what every event moves. -/
theorem validateProgress_eq_ok :
    (validateHeader t r = .ok () ∧ validateHistory t r = .ok () ∧ validateActions t r = .ok ()) ↔
      BindingFormat t r.toTenderBinding ∧ ProgressFormat t r.createdAt r.toProgress := by
  rw [validateHeader_eq_ok, validateActions_eq_ok]
  simp only [validateHistory, check_eq_ok, expect_eq_ok]
  constructor
  · rintro ⟨⟨hb, h1, h2, h3, h4⟩, ⟨h5, h6, h7⟩, h8, h9, h10, h11⟩
    exact ⟨hb, h1, h2, h3, h4, h5, h6, h7, h8, h9, h10, h11⟩
  · rintro ⟨hb, h1, h2, h3, h4, h5, h6, h7, h8, h9, h10, h11⟩
    exact ⟨⟨hb, h1, h2, h3, h4⟩, ⟨h5, h6, h7⟩, h8, h9, h10, h11⟩

theorem validateFunding_eq_ok :
    validateFunding t r = .ok () ↔ FundingFormat t r.toTenderBinding r.toFundingFields := by
  simp only [validateFunding, check_eq_ok, nullable_eq_ok, str_eq_ok, nonNegAtomic_eq_ok]
  constructor
  · rintro ⟨h1, h2, h3, h4, h5, h6⟩
    exact ⟨h1, h2, h3, h4, h5, h6⟩
  · rintro ⟨h1, h2, h3, h4, h5, h6⟩
    exact ⟨h1, h2, h3, h4, h5, h6⟩

theorem validateAuction_eq_ok : validateAuction t r = .ok () ↔ AuctionFormat r.toAuctionFields := by
  simp only [validateAuction, check_eq_ok, nullable_eq_ok, str_eq_ok, hash_eq_ok, account_eq_ok, nonNegAtomic_eq_ok]
  constructor
  · rintro ⟨h1, h2, h3, h4, h5, h6, h7, h8, h9, h10, h11, h12⟩
    exact ⟨h1, h2, h3, h4, h5, h6, h7, h8, h9, h10, h11, h12⟩
  · rintro ⟨h1, h2, h3, h4, h5, h6, h7, h8, h9, h10, h11, h12⟩
    exact ⟨h1, h2, h3, h4, h5, h6, h7, h8, h9, h10, h11, h12⟩

theorem validatePod_eq_ok : validatePod t r = .ok () ↔ PodFormat r.toPodFields := by
  simp only [validatePod, check_eq_ok, nullable_eq_ok, str_eq_ok, safeInt_eq_ok, hash_eq_ok, utc_eq_ok,
    fingerprint_eq_ok]
  constructor
  · rintro ⟨h1, h2, h3, h4, h5, h6, h7, h8, h9, h10, h11⟩
    exact ⟨h1, h2, h3, h4, h5, h6, h7, h8, h9, h10, h11⟩
  · rintro ⟨h1, h2, h3, h4, h5, h6, h7, h8, h9, h10, h11⟩
    exact ⟨h1, h2, h3, h4, h5, h6, h7, h8, h9, h10, h11⟩

theorem validateSettlement_eq_ok : validateSettlement t r = .ok () ↔ SettlementFormat r.toSettlementFields := by
  simp only [validateSettlement, check_eq_ok, nullable_eq_ok, str_eq_ok, expect_eq_ok, nonNegAtomic_eq_ok, hash_eq_ok,
    fingerprint_eq_ok]
  constructor
  · rintro ⟨h1, h2, h3, h4, h5, h6, h7, h8, h9⟩
    exact ⟨h1, h2, h3, h4, h5, h6, h7, h8, h9⟩
  · rintro ⟨h1, h2, h3, h4, h5, h6, h7, h8, h9⟩
    exact ⟨h1, h2, h3, h4, h5, h6, h7, h8, h9⟩

theorem requireFunding_eq_ok :
    requireFunding t r = .ok () ↔ FundedAt r.state r.toTenderBinding r.toFundingFields := by
  unfold requireFunding
  split
  · next hs =>
    simp only [check_eq_ok, requirePresent_eq_ok, expect_eq_ok]
    constructor
    · rintro ⟨h1, -, h3⟩
      exact ⟨fun _ => ⟨h1, h3⟩, fun h => absurd hs h⟩
    · intro h
      obtain ⟨h1, h3⟩ := h.funded hs
      exact ⟨h1, Option.isSome_of_mem h3, h3⟩
  · next hs =>
    simp only [check_eq_ok, requireAbsent_eq_ok]
    exact ⟨fun h => ⟨fun h' => absurd h' hs, fun _ => h⟩, fun h => h.unfunded hs⟩

theorem requireActivation_eq_ok : requireActivation t r = .ok () ↔ ActivatedAt r.state r.toFundingFields := by
  unfold requireActivation
  split
  · next hs =>
    simp only [check_eq_ok, requirePresent_eq_ok]
    exact ⟨fun h => ⟨fun _ => h, fun h' => absurd hs h'⟩, fun h => h.activated hs⟩
  · next hs =>
    simp only [check_eq_ok, requireAbsent_eq_ok, require_eq_ok]
    exact ⟨fun h => ⟨fun h' => absurd h' hs, fun _ => h⟩, fun h => h.unactivated hs⟩

theorem requireReceipt_eq_ok : requireReceipt t r = .ok () ↔ ReceiptMatched r.toFundingFields := by
  unfold requireReceipt ReceiptMatched
  cases r.accessReceipt <;> simp only [check_eq_ok, expect_eq_ok]

theorem requireBidPaid_eq_ok {bid : LifecycleBidEntry} {u : Unit} :
    requireBidPaid t r bid = .ok u ↔ BidPaid r.accessPayments r.processedActions bid := by
  unfold requireBidPaid BidPaid
  cases bidPayment r.accessPayments bid.bidId <;> simp [check_eq_ok]

theorem requireBids_eq_ok :
    requireBids t r = .ok () ↔ BidsAt r.state r.toFundingFields r.processedActions := by
  simp only [requireBids, check_eq_ok, expect_eq_ok, each_eq_ok, requireBidPaid_eq_ok, require_eq_ok]
  constructor
  · rintro ⟨h1, h2, h3, h4⟩
    exact ⟨h1, h2, h3, h4⟩
  · rintro ⟨h1, h2, h3, h4⟩
    exact ⟨h1, h2, h3, h4⟩

theorem requireAward_eq_ok :
    requireAward t r = .ok () ↔ AwardedAt r.state r.toTenderBinding r.toAuctionFields := by
  simp only [requireAward, provided_eq_ok, requirePresent_eq_ok, nullable_eq_ok, bind_eq_ok, amount_eq_ok,
    expect_eq_ok, exists_const]
  constructor
  · rintro ⟨h1, h2, h3⟩
    exact ⟨h1, h2, h3⟩
  · rintro ⟨h1, h2, h3⟩
    exact ⟨h1, h2, h3⟩

theorem requireLock_eq_ok :
    requireLock t r = .ok () ↔ LockedAt r.state r.toTenderBinding r.toAuctionFields := by
  have hamount : ∀ locked ∈ r.lockedAmountAtomic,
      requireLockedAmount t r locked = .ok () ↔ LockedAmount r.toTenderBinding r.toAuctionFields locked := by
    intro locked _
    simp only [requireLockedAmount, bind_eq_ok, amount_eq_ok, expect_eq_ok, exists_const, nullable_eq_ok]
    exact Iff.rfl
  simp only [requireLock, check_eq_ok, provided_eq_ok, requirePresent_eq_ok, requireAbsent_eq_ok, nullable_eq_ok,
    forall₂_congr hamount]
  constructor
  · rintro ⟨h1, h2, h3⟩
    exact ⟨h1, h2, h3⟩
  · rintro ⟨h1, h2, h3⟩
    exact ⟨h1, h2, h3⟩

theorem requireReviewWindow_eq_ok {started deadline : JsString} {u : Unit} :
    requireReviewWindow t started deadline = .ok u ↔ Before started deadline := by
  simp only [requireReviewWindow, bind_eq_ok, mapError_eq_ok, expect_eq_ok, compareUtc_eq_ok, Before]
  constructor
  · rintro ⟨c, ⟨x, y, hx, hy, rfl⟩, hc⟩
    refine ⟨x, y, hx, hy, ?_⟩
    by_contra hlt
    rw [if_neg hlt] at hc
    split at hc
    · exact hc (by decide)
    · exact hc (by decide)
  · rintro ⟨x, y, hx, hy, hlt⟩
    exact ⟨_, ⟨x, y, hx, hy, rfl⟩, by rw [if_pos hlt]; decide⟩

theorem requirePod_eq_ok : requirePod t r = .ok () ↔ PodAt r.state r.toPodFields := by
  simp only [requirePod, check_eq_ok, provided_eq_ok, requirePresent_eq_ok, requireReviewWindow_eq_ok]
  constructor
  · rintro ⟨h1, h2, h3, h4⟩
    exact ⟨h1, h2, h3, h4⟩
  · rintro ⟨h1, h2, h3, h4⟩
    exact ⟨h1, h2, h3, h4⟩

theorem requireNoSettlement_eq_ok : requireNoSettlement t r = .ok () ↔ UnsettledAt r.state r.toSettlementFields := by
  simp only [requireNoSettlement, check_eq_ok, provided_eq_ok, requireAbsent_eq_ok]
  constructor
  · rintro ⟨h1, h2, h3⟩
    exact ⟨h1, h2, h3⟩
  · rintro ⟨h1, h2, h3⟩
    exact ⟨h1, h2, h3⟩

theorem requireDecision_eq_ok : requireDecision t r = .ok () ↔
    DecidedAt r.state r.toTenderBinding r.toAuctionFields r.toPodFields r.toSettlementFields := by
  have hamounts : ∀ resolution ∈ r.refereeResolution, requireDecisionAmounts t r resolution = .ok () ↔
      DecisionAmounts r.toTenderBinding r.toAuctionFields r.toPodFields r.toSettlementFields resolution := by
    intro resolution _
    simp only [requireDecisionAmounts, bind_eq_ok, requirePresent_eq_ok, amount_eq_ok, expect_eq_ok, exists_const]
    exact Iff.rfl
  simp only [requireDecision, check_eq_ok, provided_eq_ok, requirePresent_eq_ok, nullable_eq_ok,
    forall₂_congr hamounts]
  constructor
  · rintro ⟨h1, h2⟩
    exact ⟨h1, h2⟩
  · rintro ⟨h1, h2⟩
    exact ⟨h1, h2⟩

theorem requireReleased_eq_ok :
    requireReleased t r = .ok () ↔ ReleasedAt r.state r.toAuctionFields r.toSettlementFields := by
  simp only [requireReleased, provided_eq_ok, requirePresent_eq_ok, expect_eq_ok, bind_eq_ok, amount_eq_ok,
    exists_const]
  constructor
  · rintro ⟨h1, h2, h3⟩
    exact ⟨h1, h2, h3⟩
  · rintro ⟨h1, h2, h3⟩
    exact ⟨h1, h2, h3⟩

theorem requireRefunded_eq_ok :
    requireRefunded t r = .ok () ↔
      RefundedAt r.state r.toTenderBinding r.toAuctionFields r.toSettlementFields := by
  simp only [requireRefunded, check_eq_ok, provided_eq_ok, requirePresent_eq_ok, expect_eq_ok]
  constructor
  · rintro ⟨h1, h2⟩
    refine ⟨fun hs => ?_, h2⟩
    obtain ⟨h3, h4, h5⟩ := h1 hs
    refine ⟨h3, h4, ?_⟩
    unfold RefundedAmount
    split at h5 <;> simp_all [check_eq_ok]
  · rintro ⟨h1, h2⟩
    refine ⟨fun hs => ?_, h2⟩
    obtain ⟨h3, h4, h5⟩ := h1 hs
    refine ⟨h3, h4, ?_⟩
    unfold RefundedAmount at h5
    split <;> simp_all [check_eq_ok]

end Parts

/-! ## The validator -/

/-- A record that passes every part of the validator. -/
structure Accepted (p : Platform) (t : JsString) (r : LifecycleRecord) : Prop where
  safeId : isSafeTenderId t
  binding : BindingFormat t r.toTenderBinding
  progress : ProgressFormat t r.createdAt r.toProgress
  trust : validateTrustSnapshot p t (js "trust") r.trust = .ok ()
  funding : FundingFormat t r.toTenderBinding r.toFundingFields
  auction : AuctionFormat r.toAuctionFields
  pod : PodFormat r.toPodFields
  settlement : SettlementFormat r.toSettlementFields
  funded : FundedAt r.state r.toTenderBinding r.toFundingFields
  activated : ActivatedAt r.state r.toFundingFields
  receipt : ReceiptMatched r.toFundingFields
  bids : BidsAt r.state r.toFundingFields r.processedActions
  award : AwardedAt r.state r.toTenderBinding r.toAuctionFields
  lock : LockedAt r.state r.toTenderBinding r.toAuctionFields
  delivered : PodAt r.state r.toPodFields
  unsettled : UnsettledAt r.state r.toSettlementFields
  decision : DecidedAt r.state r.toTenderBinding r.toAuctionFields r.toPodFields r.toSettlementFields
  released : ReleasedAt r.state r.toAuctionFields r.toSettlementFields
  refunded : RefundedAt r.state r.toTenderBinding r.toAuctionFields r.toSettlementFields

/-- **The validator accepts exactly the records that pass its parts**, and returns them as they are. -/
theorem assertValidLifecycleRecord_eq_ok {p : Platform} {t : JsString} {r r' : LifecycleRecord} :
    assertValidLifecycleRecord p t r = .ok r' ↔ Accepted p t r ∧ r = r' := by
  simp only [assertValidLifecycleRecord, check_eq_ok, pure_eq_ok, assertSafeTenderId_eq_ok, validateFunding_eq_ok,
    validateAuction_eq_ok, validatePod_eq_ok, validateSettlement_eq_ok, requireFunding_eq_ok, requireActivation_eq_ok,
    requireReceipt_eq_ok, requireBids_eq_ok, requireAward_eq_ok, requireLock_eq_ok, requirePod_eq_ok,
    requireNoSettlement_eq_ok, requireDecision_eq_ok, requireReleased_eq_ok, requireRefunded_eq_ok]
  constructor
  · rintro ⟨h1, h2, h3, h4, h5, h6, h7, h8, h9, h10, h11, h12, h13, h14, h15, h16, h17, h18, h19, h20, rfl⟩
    obtain ⟨hb, hg⟩ := validateProgress_eq_ok.mp ⟨h2, h3, h4⟩
    exact ⟨⟨h1, hb, hg, h5, h6, h7, h8, h9, h10, h11, h12, h13, h14, h15, h16, h17, h18, h19, h20⟩, rfl⟩
  · rintro ⟨⟨h1, hb, hg, h5, h6, h7, h8, h9, h10, h11, h12, h13, h14, h15, h16, h17, h18, h19, h20⟩, rfl⟩
    obtain ⟨h2, h3, h4⟩ := validateProgress_eq_ok.mpr ⟨hb, hg⟩
    exact ⟨h1, h2, h3, h4, h5, h6, h7, h8, h9, h10, h11, h12, h13, h14, h15, h16, h17, h18, h19, h20, rfl⟩

end RouteGuard.Store
