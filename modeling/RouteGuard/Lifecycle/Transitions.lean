import RouteGuard.Lib.System
import RouteGuard.Lifecycle.Reducer

/-!
# What a successful event does

* `Reduces` : the transitions, one constructor per event, with the guards that let the event pass and the
  record it leaves;
* `reduceLifecycle_ok` : a successful `reduceLifecycle` is one of them;
* `lifecycleSystem` : the runs of the reducer from a created record.

Every invariant of the lifecycle is proved by cases on `Reduces`.
-/

namespace RouteGuard.Lifecycle
open JsString Guarded Access Auth Trust

/-! ## The checks -/

/-- Both timestamps parse, and the first is not later. -/
def NotAfter (a b : JsString) : Prop := ∃ x y, instant a = some x ∧ instant b = some y ∧ x ≤ y

@[simp] theorem rethrow_eq_ok {α : Type} {x : Except JsString α} {a : α} :
    rethrow x = .ok a ↔ x = .ok a := mapError_eq_ok

@[simp] theorem toBigInt_eq_ok {s : JsString} {n : Int} : toBigInt s = .ok n ↔ bigInt s = some n := by
  unfold toBigInt
  split <;> simp_all

@[simp] theorem requireText_eq_ok {v : Option JsString} {e : LifecycleError} {s : JsString} :
    requireText v e = .ok s ↔ v = some s ∧ s ≠ [] := by
  unfold requireText
  split
  · next u rest =>
    simp only [Except.ok.injEq, Option.some.injEq]
    constructor
    · rintro rfl
      exact ⟨rfl, List.cons_ne_nil _ _⟩
    · exact fun h => h.1
  · next h =>
    simp only [reduceCtorEq, false_iff]
    rintro ⟨rfl, hs⟩
    obtain ⟨u, rest, rfl⟩ := List.exists_cons_of_ne_nil hs
    exact h u rest rfl

@[simp] theorem requireBeforeOrEqual_eq_ok {a b : JsString} {e : LifecycleError} {u : Unit} :
    requireBeforeOrEqual a b e = .ok u ↔ NotAfter a b := by
  simp only [requireBeforeOrEqual, bind_eq_ok, rethrow_eq_ok, require_eq_ok, isBeforeOrEqualUtc_eq_ok, NotAfter]
  constructor
  · rintro ⟨r, ⟨x, y, hx, hy, hr⟩, rfl⟩
    exact ⟨x, y, hx, hy, hr.mpr rfl⟩
  · rintro ⟨x, y, hx, hy, h⟩
    exact ⟨true, ⟨x, y, hx, hy, by simpa using h⟩, rfl⟩

/-- A payment that an access event may consume. -/
structure AccessPaidFor (record : LifecycleRecord) (e : AccessPaid) (resource : Except JsString JsString) :
    Prop where
  asset : e.asset = ACCESS_FEE_TOKEN_ID
  amount : e.amountAtomic = js "1000"
  resource : resource = .ok e.resource
  payTo : e.payTo = record.trust.accessTreasuryAccountId
  transaction : e.paymentTransactionId ≠ []
  payload : e.paymentPayloadHash ≠ []
  payer : isValidHederaAccountId e.payerAccount
  unused : ∀ payment ∈ record.accessPayments, payment.paymentTransactionId ≠ e.paymentTransactionId

theorem assertAccessPaid_ok {record : LifecycleRecord} {e : AccessPaid} {resource : Except JsString JsString}
    {message : JsString → JsString} {u : Unit} (h : assertAccessPaid record e resource message = .ok u) :
    AccessPaidFor record e resource := by
  simp only [assertAccessPaid, assertUnusedAccessSettlement, bind_eq_ok, rethrow_eq_ok, require_eq_ok,
    exists_const, deriveAccessFeeAtomic_eq, Except.ok.injEq] at h
  obtain ⟨h1, _, rfl, h2, r, hr, rfl, h4, ⟨h5, h6⟩, h7, h8⟩ := h
  simp only [List.any_eq_true, decide_eq_true_eq, not_exists, not_and] at h8
  exact ⟨h1, h2, hr, h4, h5, h6, h7, h8⟩

/-- The event names the review deadline of the record and is not later. -/
def WithinReview (record : LifecycleRecord) (event : LifecycleEvent) (signed : ShipperSigned) : Prop :=
  record.reviewDeadlineAt = some signed.reviewDeadlineAt ∧ NotAfter event.eventTime signed.reviewDeadlineAt

theorem requireReviewDeadline_ok {record : LifecycleRecord} {event : LifecycleEvent} {signed : ShipperSigned}
    {late : String} {u : Unit} (h : requireReviewDeadline record event signed late = .ok u) :
    WithinReview record event signed := by
  simp only [requireReviewDeadline, bind_eq_ok, requireText_eq_ok, require_eq_ok, exists_const,
    requireBeforeOrEqual_eq_ok] at h
  obtain ⟨d, ⟨hd, -⟩, rfl, hle⟩ := h
  exact ⟨hd, hle⟩

/-- The context carries a sealed review of the bound POD of this tender for this action. -/
structure ShipperReviewed {p : Platform} (context : LifecycleReduceContext p) (record : LifecycleRecord)
    (event : LifecycleEvent) (action : ShipperReviewActionKind) (auth : VerifiedShipperReviewAuth) : Prop where
  sealed : context.sealedAuth = some (.shipperPodReview auth)
  actionId : auth.actionId = event.actionId
  action : auth.reviewAction = action
  podId : record.podId = some auth.signPayload.podId
  tenderId : auth.signPayload.tenderId = record.tenderId
  tenderVersion : auth.signPayload.tenderVersion = record.tenderVersion

theorem requireShipperReview_ok {p : Platform} {context : LifecycleReduceContext p} {record : LifecycleRecord}
    {event : LifecycleEvent} {action : ShipperReviewActionKind} {auth : VerifiedShipperReviewAuth}
    (h : requireShipperReview record event context action = .ok auth) :
    ShipperReviewed context record event action auth := by
  simp only [requireShipperReview, bind_eq_ok, requireText_eq_ok, require_eq_ok, exists_const, pure_eq_ok] at h
  obtain ⟨pod, ⟨hpod, -⟩, auth', hauth, rfl, ⟨ht, hv⟩, rfl⟩ := h
  unfold requireSealedShipperAuth at hauth
  split at hauth
  · next a ha =>
    simp only [bind_eq_ok, require_eq_ok, exists_const, pure_eq_ok] at hauth
    obtain ⟨h1, h2, rfl⟩ := hauth
    exact ⟨ha, h1, h2, hpod, ht, hv⟩
  · cases hauth

theorem requireSealedCarrierBidAuth_ok {p : Platform} {context : LifecycleReduceContext p}
    {event : LifecycleEvent} {auth : VerifiedCarrierBidAuth}
    (h : requireSealedCarrierBidAuth context event = .ok auth) :
    context.sealedAuth = some (.carrierBid auth) ∧ auth.actionId = event.actionId := by
  unfold requireSealedCarrierBidAuth at h
  split at h
  · next a ha =>
    simp only [bind_eq_ok, require_eq_ok, exists_const, pure_eq_ok] at h
    obtain ⟨h1, rfl⟩ := h
    exact ⟨ha, h1⟩
  · cases h

theorem requireSealedRefereeAuth_ok {p : Platform} {context : LifecycleReduceContext p}
    {event : LifecycleEvent} {auth : VerifiedRefereeResolutionAuth}
    (h : requireSealedRefereeAuth context event = .ok auth) :
    context.sealedAuth = some (.refereeResolution auth) ∧ auth.actionId = event.actionId := by
  unfold requireSealedRefereeAuth at h
  split at h
  · next a ha =>
    simp only [bind_eq_ok, require_eq_ok, exists_const, pure_eq_ok] at h
    obtain ⟨h1, rfl⟩ := h
    exact ⟨ha, h1⟩
  · cases h

/-! ## The transitions -/

/-- The record after a transition with patched fields. -/
def moved (p : Platform) (record : LifecycleRecord) (target : V2LifecycleState) (event : LifecycleEvent)
    (patched : LifecycleRecord) : LifecycleRecord :=
  { patched with toProgress := record.toProgress.advance p target event none }

/-- A committed action id: not empty and at most 128 characters. -/
def NamedAction (event : LifecycleEvent) : Prop := event.actionId ≠ [] ∧ event.actionId.length ≤ 128

/-- A carrier bid that the context authorizes and the auction still takes. -/
structure BidAdmitted {p : Platform} (context : LifecycleReduceContext p) (record : LifecycleRecord)
    (event : LifecycleEvent) (e : BidSubmissionPaid) (auth : VerifiedCarrierBidAuth) : Prop where
  sealed : context.sealedAuth = some (.carrierBid auth)
  actionId : auth.actionId = event.actionId
  tender : auth.signPayload.tenderId = record.tenderId ∧ auth.signPayload.tenderVersion = record.tenderVersion
  bid : auth.bidId = e.bidId ∧ auth.carrierId = e.carrierId ∧ auth.carrierAccountId = e.carrierAccountId ∧
    auth.bidHash = e.bidHash
  account : isValidHederaAccountId e.carrierAccountId
  inTime : NotAfter event.eventTime record.auctionEndsAt
  fresh : ∀ entry ∈ record.bidRegistry, entry.bidId ≠ e.bidId

/-- The amounts of an allocation. -/
structure Allocates (record : LifecycleRecord) (e : WinningAmountAllocationConfirmed) : Prop where
  transaction : e.allocateTxId ≠ []
  budget : e.maxBudgetAtomic = record.maximumFreightBudgetAtomic
  positiveBudget : isPositiveAtomicString e.maxBudgetAtomic
  positive : isPositiveAtomicString e.winningAmountAtomic
  excess : isNonNegativeAtomicString e.excessRefundAtomic
  winner : ∀ winning ∈ record.winningAmountAtomic, winning = [] ∨ e.winningAmountAtomic = winning
  manifest : ∀ manifest ∈ record.decisionManifestHash, manifest = [] ∨ e.decisionManifestHash = manifest
  conserved : digitsValue e.winningAmountAtomic + digitsValue e.excessRefundAtomic = digitsValue e.maxBudgetAtomic
  noRefund : digitsValue e.excessRefundAtomic = 0 → e.refundExcessTxId = none
  refund : 0 < digitsValue e.excessRefundAtomic → ∃ tx, e.refundExcessTxId = some tx ∧ tx ≠ []

/-- A resolution that the context authorizes, over the dispute, the POD and the locked amount of the
record. -/
structure Resolves {p : Platform} (context : LifecycleReduceContext p) (record : LifecycleRecord)
    (event : LifecycleEvent) (e : RefereeResolutionRecorded) (auth : VerifiedRefereeResolutionAuth) : Prop where
  human : e.signerKind = js "HUMAN_REFEREE"
  sealed : context.sealedAuth = some (.refereeResolution auth)
  actionId : auth.actionId = event.actionId
  referee : auth.refereeId = e.refereeId
  dispute : auth.disputeId = e.disputeId ∧ auth.podId = e.podId
  amounts : auth.resolution = e.resolution ∧ auth.releaseAmountAtomic = e.releaseAmountAtomic ∧
    auth.refundAmountAtomic = e.refundAmountAtomic
  recordDispute : ∀ disputeId ∈ record.disputeId, disputeId = [] ∨ e.disputeId = disputeId
  recordPod : ∀ podId ∈ record.podId, podId = [] ∨ e.podId = podId
  tender : auth.signPayload.tenderId = record.tenderId ∧ auth.signPayload.tenderVersion = record.tenderVersion
  release : isNonNegativeAtomicString e.releaseAmountAtomic
  refund : isNonNegativeAtomicString e.refundAmountAtomic
  conserved : bigInt (record.lockedAmountAtomic.getD (js "0")) =
    some (digitsValue e.releaseAmountAtomic + digitsValue e.refundAmountAtomic : Int)
  full : e.resolution = .releaseFull → digitsValue e.refundAmountAtomic = 0
  none : e.resolution = .refundFull → digitsValue e.releaseAmountAtomic = 0
  split : e.resolution = .partialSplit →
    ¬ (digitsValue e.releaseAmountAtomic = 0 ∧ digitsValue e.refundAmountAtomic = 0)

/-- The transitions by event. -/
inductive Reduces (p : Platform) (context : LifecycleReduceContext p) (record : LifecycleRecord)
    (event : LifecycleEvent) : EventBody → LifecycleRecord → Prop
  | escrowFundingConfirmed {e : EscrowFundingConfirmed} (hstate : record.state = .draft)
      (htender : e.tenderId = record.tenderId ∧ e.tenderVersion = record.tenderVersion)
      (htoken : e.tokenId = ACCESS_FEE_TOKEN_ID) (htx : e.fundingTxId ≠ [])
      (hamount : e.fundedAmountAtomic = record.maximumFreightBudgetAtomic)
      (hpositive : isPositiveAtomicString e.fundedAmountAtomic) :
      Reduces p context record event (.escrowFundingConfirmed e) (moved p record .escrowFunded event
        { record with fundingTxId := some e.fundingTxId, fundedAmountAtomic := some e.fundedAmountAtomic })
  | tenderActivationPaid {e : TenderActivationPaid} (hstate : record.state = .escrowFunded)
      (htype : e.accessActionType = .tenderActivate)
      (hpaid : AccessPaidFor record e.toAccessPaid (tenderActivateResource record.tenderId record.tenderVersion)) :
      Reduces p context record event (.tenderActivationPaid e) (moved p record .tenderOpened event
        { record with
          activationPaymentTxId := some e.paymentTransactionId
          accessReceipt := some
            ⟨e.asset, e.amountAtomic, e.resource, e.payTo, e.payerAccount, e.paymentTransactionId,
             e.paymentPayloadHash, event.eventTime⟩
          accessPayments := record.accessPayments ++ [e.toAccessPaid.payment event .tenderActivate none] })
  | bidSubmissionPaid {e : BidSubmissionPaid} {auth : VerifiedCarrierBidAuth}
      (hstate : record.state = .tenderOpened ∨ record.state = .bidding)
      (htype : e.accessActionType = .bidSubmit) (hbid : BidAdmitted context record event e auth)
      (hpaid : AccessPaidFor record e.toAccessPaid
        (bidSubmitResource record.tenderId record.tenderVersion e.bidId)) :
      Reduces p context record event (.bidSubmissionPaid e) (moved p record .bidding event
        { record with
          bidRegistry := record.bidRegistry ++
            [⟨e.bidId, e.carrierId, e.carrierAccountId, e.bidHash, e.signedBidEnvelopeHash,
              e.commitmentPayloadHash, auth.trustedKeyFingerprint, auth.payloadHash, e.paymentTransactionId,
              event.actionId, event.eventTime⟩]
          accessPayments := record.accessPayments ++
            [e.toAccessPaid.payment event .bidSubmit (some e.bidId)] })
  | biddingStarted (hstate : record.state = .tenderOpened) :
      Reduces p context record event .biddingStarted (moved p record .bidding event record)
  | auctionCloseConfirmed {e : AuctionCloseConfirmed} (hstate : record.state = .bidding)
      (hends : e.auctionEndsAt = record.auctionEndsAt) (hover : NotAfter record.auctionEndsAt event.eventTime)
      (hproof : e.closureProofRef ≠ [] ∧ e.authoritativeBidSetHash ≠ []) :
      Reduces p context record event (.auctionCloseConfirmed e) (moved p record .auctionClosed event
        { record with
          closureProofRef := some e.closureProofRef
          authoritativeBidSetHash := some e.authoritativeBidSetHash })
  | noQualifiedBidConfirmed {e : NoQualifiedBidConfirmed} (hstate : record.state = .auctionClosed)
      (hmanifest : e.decisionManifestHash ≠ []) :
      Reduces p context record event (.noQualifiedBidConfirmed e) (moved p record .noQualifiedBid event
        { record with
          decisionManifestHash := some e.decisionManifestHash
          winningBidId := none
          winningAmountAtomic := none })
  | winnerSelectionConfirmed {e : WinnerSelectionConfirmed} {budget : Int} (hstate : record.state = .auctionClosed)
      (hfields : e.decisionManifestHash ≠ [] ∧ e.winningBidId ≠ [] ∧ e.winningCarrierId ≠ [] ∧
        e.winningCarrierAccount ≠ [])
      (hpositive : isPositiveAtomicString e.winningAmountAtomic)
      (hpolicy : e.selectionPolicy = js "LOWEST_QUALIFIED_PRICE_V1")
      (hbudget : bigInt record.maximumFreightBudgetAtomic = some budget)
      (hle : (digitsValue e.winningAmountAtomic : Int) ≤ budget) :
      Reduces p context record event (.winnerSelectionConfirmed e) (moved p record .winnerSelected event
        { record with
          decisionManifestHash := some e.decisionManifestHash
          winningBidId := some e.winningBidId
          winningCarrierId := some e.winningCarrierId
          winningCarrierAccount := some e.winningCarrierAccount
          winningAmountAtomic := some e.winningAmountAtomic })
  | winningAmountAllocationConfirmed {e : WinningAmountAllocationConfirmed}
      (hstate : record.state = .winnerSelected) (hamounts : Allocates record e) :
      Reduces p context record event (.winningAmountAllocationConfirmed e)
        (moved p record .winningAmountLocked event
          { record with
            lockedAmountAtomic := some e.winningAmountAtomic
            excessRefundAtomic := some e.excessRefundAtomic
            allocateTxId := some e.allocateTxId
            refundExcessTxId := e.refundExcessTxId
            decisionManifestHash := some e.decisionManifestHash
            winningAmountAtomic := some e.winningAmountAtomic })
  | routeReservationPublished {e : RouteReservationPublished} (hstate : record.state = .winningAmountLocked)
      (hrefs : e.reservationEvidenceRef ≠ [] ∧ e.hcsPublicationRef ≠ []) :
      Reduces p context record event (.routeReservationPublished e) (moved p record .routeReserved event
        { record with reservationEvidenceRef := some e.reservationEvidenceRef })
  | transitStarted (hstate : record.state = .routeReserved) :
      Reduces p context record event .transitStarted (moved p record .inTransit event record)
  | deliveryReported (hstate : record.state = .inTransit) :
      Reduces p context record event .deliveryReported (moved p record .deliveryReported event record)
  | podPackageSubmitted {e : PodPackage} (hstate : record.state = .deliveryReported)
      (hpod : e.podId ≠ [] ∧ e.podVersion = 1 ∧ e.contentHash ≠ [] ∧ e.ciphertextHash ≠ []) :
      Reduces p context record event (.podPackageSubmitted e) (moved p record .podSubmitted event
        { record with
          podId := some e.podId
          podVersion := some e.podVersion
          podContentHash := some e.contentHash
          podCiphertextHash := some e.ciphertextHash })
  | podReviewStarted {window : Nat} {deadline : JsString}
      (hstate : record.state = .podSubmitted ∧ window = REVIEW_WINDOW_SECONDS ∨
        record.state = .podResubmitted ∧ window = POST_RESUBMIT_REVIEW_WINDOW_SECONDS)
      (hdeadline : addUtcSeconds event.eventTime window = .ok deadline) :
      Reduces p context record event .podReviewStarted (moved p record .podUnderReview event
        { record with
          reviewStartedAt := some event.eventTime
          reviewDeadlineAt := some deadline
          shipperActionTaken := false
          correctionDeadlineAt := none })
  | podCorrectionRequested {e : PodCorrectionRequested} {auth : VerifiedShipperReviewAuth} {deadline : JsString}
      (hstate : record.state = .podUnderReview) (hreasons : 1 ≤ e.reasons.length)
      (hwithin : WithinReview record event e.toShipperSigned)
      (hauth : ShipperReviewed context record event .requestCorrection auth)
      (hdeadline : addUtcSeconds event.eventTime CORRECTION_WINDOW_SECONDS = .ok deadline) :
      Reduces p context record event (.podCorrectionRequested e) (moved p record .podCorrectionRequested event
        { record with
          correctionDeadlineAt := some deadline
          shipperActionTaken := true
          lastShipperAuthPayloadHash := some auth.payloadHash
          lastShipperKeyFingerprint := some auth.trustedKeyFingerprint })
  | podPackageResubmitted {e : PodPackage} {deadline : JsString} (hstate : record.state = .podCorrectionRequested)
      (hdeadline : record.correctionDeadlineAt = some deadline) (hwithin : NotAfter event.eventTime deadline)
      (hpod : e.podId ≠ [] ∧ e.contentHash ≠ [] ∧ e.ciphertextHash ≠ []) (hid : record.podId = some e.podId)
      (hversion : e.podVersion = record.podVersion.getD 0 + 1) :
      Reduces p context record event (.podPackageResubmitted e) (moved p record .podResubmitted event
        { record with
          podId := some e.podId
          podVersion := some e.podVersion
          podContentHash := some e.contentHash
          podCiphertextHash := some e.ciphertextHash })
  | podAcceptedByShipper {e : PodAcceptedByShipper} {auth : VerifiedShipperReviewAuth}
      (hstate : record.state = .podUnderReview) (hwithin : WithinReview record event e.toShipperSigned)
      (hauth : ShipperReviewed context record event .accept auth) :
      Reduces p context record event (.podAcceptedByShipper e) (moved p record .podAccepted event
        { record with
          shipperActionTaken := true
          lastShipperAuthPayloadHash := some auth.payloadHash
          lastShipperKeyFingerprint := some auth.trustedKeyFingerprint })
  | podReviewDeadlineExpired {deadline : JsString} (hstate : record.state = .podUnderReview)
      (hdeadline : record.reviewDeadlineAt = some deadline) (hover : NotAfter deadline event.eventTime)
      (haction : record.shipperActionTaken = false) :
      Reduces p context record event .podReviewDeadlineExpired (moved p record .podDeemedAccepted event record)
  | podCorrectionDeadlineExpired {deadline : JsString} (hstate : record.state = .podCorrectionRequested)
      (hdeadline : record.correctionDeadlineAt = some deadline) (hover : NotAfter deadline event.eventTime) :
      Reduces p context record event .podCorrectionDeadlineExpired (moved p record .podDisputed event
        { record with disputeId := some (js "dispute-timeout-" ++ event.actionId) })
  | podRejectedToDispute {e : PodRejectedToDispute} {auth : VerifiedShipperReviewAuth}
      (hstate : record.state = .podUnderReview) (hreasons : 1 ≤ e.reasons.length) (hdispute : e.disputeId ≠ [])
      (hwithin : WithinReview record event e.toShipperSigned)
      (hauth : ShipperReviewed context record event .rejectDispute auth) :
      Reduces p context record event (.podRejectedToDispute e) (moved p record .podDisputed event
        { record with
          disputeId := some e.disputeId
          shipperActionTaken := true
          lastShipperAuthPayloadHash := some auth.payloadHash
          lastShipperKeyFingerprint := some auth.trustedKeyFingerprint })
  | refereeResolutionRecorded {e : RefereeResolutionRecorded} {auth : VerifiedRefereeResolutionAuth}
      (hstate : record.state = .podDisputed) (hresolves : Resolves context record event e auth) :
      Reduces p context record event (.refereeResolutionRecorded e) (moved p record .refereeDecision event
        { record with
          refereeResolution := some e.resolution.text
          releaseAmountAtomic := some e.releaseAmountAtomic
          refundAmountAtomic := some e.refundAmountAtomic
          resolutionPayloadHash := some auth.payloadHash
          refereeId := some auth.refereeId
          refereeKeyFingerprint := some auth.trustedKeyFingerprint
          disputeId := some e.disputeId })
  | escrowReleaseConfirmed {e : EscrowReleaseConfirmed}
      (hstate : record.state = .podAccepted ∨ record.state = .podDeemedAccepted ∨ decided record .releaseFull)
      (htx : e.releaseTxId ≠ []) (hpositive : isPositiveAtomicString e.releaseAmountAtomic)
      (hlocked : record.lockedAmountAtomic.or record.winningAmountAtomic = some e.releaseAmountAtomic)
      (hdecision : record.state = .refereeDecision →
        record.releaseAmountAtomic = some e.releaseAmountAtomic ∧ record.refundAmountAtomic = some (js "0")) :
      Reduces p context record event (.escrowReleaseConfirmed e) (moved p record .paymentReleased event
        { record with
          releaseTxId := some e.releaseTxId
          releaseAmountAtomic := some e.releaseAmountAtomic
          refundAmountAtomic := some (js "0") })
  | escrowPartialReleaseConfirmed {e : EscrowPartialReleaseConfirmed} (hstate : decided record .partialSplit)
      (hrelease : record.releaseAmountAtomic = some e.releaseAmountAtomic ∧
        isNonNegativeAtomicString e.releaseAmountAtomic)
      (hrefund : record.refundAmountAtomic = some e.refundAmountAtomic ∧
        isNonNegativeAtomicString e.refundAmountAtomic)
      (hconserved : bigInt (record.lockedAmountAtomic.getD (js "0")) =
        some (digitsValue e.releaseAmountAtomic + digitsValue e.refundAmountAtomic : Int))
      (htx : e.releaseTxId ≠ [] ∧ e.refundTxId ≠ []) :
      Reduces p context record event (.escrowPartialReleaseConfirmed e) (moved p record .partialRelease event
        { record with
          releaseTxId := some e.releaseTxId
          refundTxId := some e.refundTxId
          releaseAmountAtomic := some e.releaseAmountAtomic
          refundAmountAtomic := some e.refundAmountAtomic })
  | escrowRefundConfirmed {e : EscrowRefundConfirmed}
      (hstate : record.state = .noQualifiedBid ∧ e.refundAmountAtomic = record.maximumFreightBudgetAtomic ∨
        decided record .refundFull ∧ record.refundAmountAtomic = some e.refundAmountAtomic ∧
          record.releaseAmountAtomic = some (js "0") ∧
          ∀ locked ∈ record.lockedAmountAtomic, locked = [] ∨ e.refundAmountAtomic = locked)
      (htx : e.refundTxId ≠ []) (hpositive : isPositiveAtomicString e.refundAmountAtomic) :
      Reduces p context record event (.escrowRefundConfirmed e) (moved p record .refunded event
        { record with
          refundTxId := some e.refundTxId
          refundAmountAtomic := some e.refundAmountAtomic
          releaseAmountAtomic := some (js "0") })
  | tenderCompletionConfirmed
      (hstate : record.state = .paymentReleased ∨ record.state = .partialRelease ∨ record.state = .refunded) :
      Reduces p context record event .tenderCompletionConfirmed (moved p record .tenderCompleted event record)
  | podAdvisoryAnchored {e : PodAdvisoryAnchored} (hbinding : e.binding = js "NON_BINDING_ADVISORY")
      (hstate : record.state ≠ .tenderCompleted) :
      Reduces p context record event (.podAdvisoryAnchored e)
        { record with
          advisoryReportHash := some e.reportHash
          toProgress := record.toProgress.advance p record.state event
            (some (js "NON_BINDING_ADVISORY_HASH_ONLY")) }

/-! ## From the reducer to the transitions -/

section Inversion
variable {p : Platform} {context : LifecycleReduceContext p} {record next : LifecycleRecord}
  {event : LifecycleEvent}

theorem withTransition_eq_ok {target : V2LifecycleState} {patched : LifecycleRecord} :
    withTransition p record target event patched = .ok next ↔
      (record.state = target ∨ target ∈ LEGAL record.state) ∧ isUtcIsoTimestamp event.eventTime ∧
        NamedAction event ∧ moved p record target event patched = next := by
  simp only [withTransition, assertLegalTransition, requireUtc, bind_eq_ok, require_eq_ok, exists_const,
    pure_eq_ok]
  rfl

theorem reduceEscrowFundingConfirmed_ok {e : EscrowFundingConfirmed}
    (h : reduceEscrowFundingConfirmed p record event e = .ok next) :
    NamedAction event ∧ Reduces p context record event (.escrowFundingConfirmed e) next := by
  simp only [reduceEscrowFundingConfirmed, requireState, requirePositiveAtomic, bind_eq_ok, require_eq_ok,
    exists_const, withTransition_eq_ok] at h
  obtain ⟨hs, ht, hv, htok, htx, hp, ha, -, -, hn, rfl⟩ := h
  exact ⟨hn, .escrowFundingConfirmed hs ⟨ht, hv⟩ htok htx ha hp⟩

theorem reduceTenderActivationPaid_ok {e : TenderActivationPaid}
    (h : reduceTenderActivationPaid p record event e = .ok next) :
    NamedAction event ∧ Reduces p context record event (.tenderActivationPaid e) next := by
  simp only [reduceTenderActivationPaid, requireState, bind_eq_ok, require_eq_ok, exists_const,
    withTransition_eq_ok] at h
  obtain ⟨hs, ht, _, hpaid, -, -, hn, rfl⟩ := h
  exact ⟨hn, .tenderActivationPaid hs ht (assertAccessPaid_ok hpaid)⟩

theorem reduceBidSubmissionPaid_ok {e : BidSubmissionPaid}
    (h : reduceBidSubmissionPaid p record event context e = .ok next) :
    NamedAction event ∧ Reduces p context record event (.bidSubmissionPaid e) next := by
  simp only [reduceBidSubmissionPaid, bind_eq_ok, require_eq_ok, exists_const, requireBeforeOrEqual_eq_ok,
    withTransition_eq_ok] at h
  obtain ⟨hs, ht, auth, hauth, htender, hbid, hacc, htime, hfresh, _, hpaid, -, -, hn, rfl⟩ := h
  obtain ⟨hseal, hid⟩ := requireSealedCarrierBidAuth_ok hauth
  simp only [List.any_eq_true, decide_eq_true_eq, not_exists, not_and] at hfresh
  exact ⟨hn, .bidSubmissionPaid hs ht ⟨hseal, hid, htender, hbid, hacc, htime, hfresh⟩
    (assertAccessPaid_ok hpaid)⟩

theorem reduceAuctionCloseConfirmed_ok {e : AuctionCloseConfirmed}
    (h : reduceAuctionCloseConfirmed p record event e = .ok next) :
    NamedAction event ∧ Reduces p context record event (.auctionCloseConfirmed e) next := by
  simp only [reduceAuctionCloseConfirmed, requireState, requireUtc, bind_eq_ok, require_eq_ok, exists_const,
    requireBeforeOrEqual_eq_ok, withTransition_eq_ok] at h
  obtain ⟨hs, -, hends, hover, hproof, -, -, hn, rfl⟩ := h
  exact ⟨hn, .auctionCloseConfirmed hs hends hover hproof⟩

theorem reduceNoQualifiedBidConfirmed_ok {e : NoQualifiedBidConfirmed}
    (h : reduceNoQualifiedBidConfirmed p record event e = .ok next) :
    NamedAction event ∧ Reduces p context record event (.noQualifiedBidConfirmed e) next := by
  simp only [reduceNoQualifiedBidConfirmed, requireState, bind_eq_ok, require_eq_ok, exists_const,
    withTransition_eq_ok] at h
  obtain ⟨hs, hm, -, -, hn, rfl⟩ := h
  exact ⟨hn, .noQualifiedBidConfirmed hs hm⟩

theorem reduceWinnerSelectionConfirmed_ok {e : WinnerSelectionConfirmed}
    (h : reduceWinnerSelectionConfirmed p record event e = .ok next) :
    NamedAction event ∧ Reduces p context record event (.winnerSelectionConfirmed e) next := by
  simp only [reduceWinnerSelectionConfirmed, requireState, requirePositiveAtomic, bind_eq_ok, require_eq_ok,
    exists_const, toBigInt_eq_ok, withTransition_eq_ok] at h
  obtain ⟨hs, hf, hp, hpol, win, hwin, budget, hbudget, hle, -, -, hn, rfl⟩ := h
  rw [bigInt_of_atomic (isNonNegativeAtomicString_of_positive hp)] at hwin
  cases hwin
  exact ⟨hn, .winnerSelectionConfirmed hs hf hp hpol hbudget hle⟩

theorem reduceWinningAmountAllocationConfirmed_ok {e : WinningAmountAllocationConfirmed}
    (h : reduceWinningAmountAllocationConfirmed p record event e = .ok next) :
    NamedAction event ∧ Reduces p context record event (.winningAmountAllocationConfirmed e) next := by
  simp only [reduceWinningAmountAllocationConfirmed, requireState, requirePositiveAtomic, requireNonNegAtomic,
    bind_eq_ok, require_eq_ok, exists_const, toBigInt_eq_ok, withTransition_eq_ok] at h
  obtain ⟨hs, htx, hmax, hwin, hexc, hbud, hwinner, hman, max, hmax', win, hwin', exc, hexc', hsum, hno, hyes, -, -,
    hn, rfl⟩ := h
  rw [bigInt_of_atomic (isNonNegativeAtomicString_of_positive hmax)] at hmax'
  rw [bigInt_of_atomic (isNonNegativeAtomicString_of_positive hwin)] at hwin'
  rw [bigInt_of_atomic hexc] at hexc'
  cases hmax'
  cases hwin'
  cases hexc'
  refine ⟨hn, .winningAmountAllocationConfirmed hs
    ⟨htx, hbud, hmax, hwin, hexc, hwinner, hman, by exact_mod_cast hsum, ?_, ?_⟩⟩
  · intro hz
    by_contra hne
    exact hno ⟨by exact_mod_cast hz, hne⟩
  · intro hpos
    cases htx' : e.refundExcessTxId with
    | none => exact absurd ⟨by exact_mod_cast hpos, .inl htx'⟩ hyes
    | some tx =>
      refine ⟨tx, rfl, ?_⟩
      rintro rfl
      exact hyes ⟨by exact_mod_cast hpos, .inr htx'⟩

theorem reduceRouteReservationPublished_ok {e : RouteReservationPublished}
    (h : reduceRouteReservationPublished p record event e = .ok next) :
    NamedAction event ∧ Reduces p context record event (.routeReservationPublished e) next := by
  simp only [reduceRouteReservationPublished, requireState, bind_eq_ok, require_eq_ok, exists_const,
    withTransition_eq_ok] at h
  obtain ⟨hs, hr, -, -, hn, rfl⟩ := h
  exact ⟨hn, .routeReservationPublished hs hr⟩

theorem reducePodPackageSubmitted_ok {e : PodPackage}
    (h : reducePodPackageSubmitted p record event e = .ok next) :
    NamedAction event ∧ Reduces p context record event (.podPackageSubmitted e) next := by
  simp only [reducePodPackageSubmitted, requireState, bind_eq_ok, require_eq_ok, exists_const,
    withTransition_eq_ok] at h
  obtain ⟨hs, hpod, -, -, hn, rfl⟩ := h
  exact ⟨hn, .podPackageSubmitted hs hpod⟩

theorem startReview_ok {window : Nat}
    (hstate : record.state = .podSubmitted ∧ window = REVIEW_WINDOW_SECONDS ∨
      record.state = .podResubmitted ∧ window = POST_RESUBMIT_REVIEW_WINDOW_SECONDS)
    (h : startReview p record event (addUtcSeconds · window) = .ok next) :
    NamedAction event ∧ Reduces p context record event .podReviewStarted next := by
  simp only [startReview, bind_eq_ok, rethrow_eq_ok, withTransition_eq_ok] at h
  obtain ⟨deadline, hd, -, -, hn, rfl⟩ := h
  exact ⟨hn, .podReviewStarted hstate hd⟩

theorem reducePodReviewStarted_ok (h : reducePodReviewStarted p record event = .ok next) :
    NamedAction event ∧ Reduces p context record event .podReviewStarted next := by
  unfold reducePodReviewStarted at h
  split at h
  · next hs => exact startReview_ok (.inl ⟨hs, rfl⟩) h
  · split at h
    · next hs => exact startReview_ok (.inr ⟨hs, rfl⟩) h
    · cases h

theorem reducePodCorrectionRequested_ok {e : PodCorrectionRequested}
    (h : reducePodCorrectionRequested p record event context e = .ok next) :
    NamedAction event ∧ Reduces p context record event (.podCorrectionRequested e) next := by
  simp only [reducePodCorrectionRequested, requireState, bind_eq_ok, require_eq_ok, exists_const, rethrow_eq_ok,
    withTransition_eq_ok] at h
  obtain ⟨hs, hr, _, hw, auth, hauth, deadline, hd, -, -, hn, rfl⟩ := h
  exact ⟨hn, .podCorrectionRequested hs hr (requireReviewDeadline_ok hw) (requireShipperReview_ok hauth) hd⟩

theorem reducePodPackageResubmitted_ok {e : PodPackage}
    (h : reducePodPackageResubmitted p record event e = .ok next) :
    NamedAction event ∧ Reduces p context record event (.podPackageResubmitted e) next := by
  simp only [reducePodPackageResubmitted, requireState, bind_eq_ok, require_eq_ok, exists_const,
    requireText_eq_ok, requireBeforeOrEqual_eq_ok, withTransition_eq_ok] at h
  obtain ⟨hs, deadline, ⟨hd, -⟩, hw, hpod, hid, hv, -, -, hn, rfl⟩ := h
  exact ⟨hn, .podPackageResubmitted hs hd hw hpod hid.symm hv⟩

theorem reducePodAcceptedByShipper_ok {e : PodAcceptedByShipper}
    (h : reducePodAcceptedByShipper p record event context e = .ok next) :
    NamedAction event ∧ Reduces p context record event (.podAcceptedByShipper e) next := by
  simp only [reducePodAcceptedByShipper, requireState, bind_eq_ok, require_eq_ok, exists_const,
    withTransition_eq_ok] at h
  obtain ⟨hs, _, hw, auth, hauth, -, -, hn, rfl⟩ := h
  exact ⟨hn, .podAcceptedByShipper hs (requireReviewDeadline_ok hw) (requireShipperReview_ok hauth)⟩

theorem reducePodReviewDeadlineExpired_ok (h : reducePodReviewDeadlineExpired p record event = .ok next) :
    NamedAction event ∧ Reduces p context record event .podReviewDeadlineExpired next := by
  simp only [reducePodReviewDeadlineExpired, requireState, bind_eq_ok, require_eq_ok, exists_const,
    requireText_eq_ok, requireBeforeOrEqual_eq_ok, withTransition_eq_ok] at h
  obtain ⟨hs, deadline, ⟨hd, -⟩, hover, hact, -, -, hn, rfl⟩ := h
  exact ⟨hn, .podReviewDeadlineExpired hs hd hover (by simpa using hact)⟩

theorem reducePodCorrectionDeadlineExpired_ok
    (h : reducePodCorrectionDeadlineExpired p record event = .ok next) :
    NamedAction event ∧ Reduces p context record event .podCorrectionDeadlineExpired next := by
  simp only [reducePodCorrectionDeadlineExpired, requireState, bind_eq_ok, require_eq_ok, exists_const,
    requireText_eq_ok, requireBeforeOrEqual_eq_ok, withTransition_eq_ok] at h
  obtain ⟨hs, deadline, ⟨hd, -⟩, hover, -, -, hn, rfl⟩ := h
  exact ⟨hn, .podCorrectionDeadlineExpired hs hd hover⟩

theorem reducePodRejectedToDispute_ok {e : PodRejectedToDispute}
    (h : reducePodRejectedToDispute p record event context e = .ok next) :
    NamedAction event ∧ Reduces p context record event (.podRejectedToDispute e) next := by
  simp only [reducePodRejectedToDispute, requireState, bind_eq_ok, require_eq_ok, exists_const,
    withTransition_eq_ok] at h
  obtain ⟨hs, hr, hd, _, hw, auth, hauth, -, -, hn, rfl⟩ := h
  exact ⟨hn, .podRejectedToDispute hs hr hd (requireReviewDeadline_ok hw) (requireShipperReview_ok hauth)⟩

theorem reduceRefereeResolutionRecorded_ok {e : RefereeResolutionRecorded}
    (h : reduceRefereeResolutionRecorded p record event context e = .ok next) :
    NamedAction event ∧ Reduces p context record event (.refereeResolutionRecorded e) next := by
  simp only [reduceRefereeResolutionRecorded, requireState, requireNonNegAtomic, bind_eq_ok, require_eq_ok,
    exists_const, toBigInt_eq_ok, withTransition_eq_ok] at h
  obtain ⟨hs, hk, auth, hauth, href, hdp, ham, hrd, hrp, ht, hrel, hrfd, locked, hl, rel, hrel', rfd, hrfd', hsum, hf,
    hno, hsp, -, -, hn, rfl⟩ := h
  obtain ⟨hseal, hid⟩ := requireSealedRefereeAuth_ok hauth
  rw [bigInt_of_atomic hrel] at hrel'
  rw [bigInt_of_atomic hrfd] at hrfd'
  cases hrel'
  cases hrfd'
  refine ⟨hn, .refereeResolutionRecorded hs
    ⟨hk, hseal, hid, href, hdp, ham, hrd, hrp, ht, hrel, hrfd, hsum ▸ hl, ?_, ?_, ?_⟩⟩
  · intro hr
    by_contra hne
    exact hf ⟨hr, by exact_mod_cast hne⟩
  · intro hr
    by_contra hne
    exact hno ⟨hr, by exact_mod_cast hne⟩
  · rintro hr ⟨h1, h2⟩
    exact hsp ⟨hr, by exact_mod_cast h1, by exact_mod_cast h2⟩

theorem reduceEscrowReleaseConfirmed_ok {e : EscrowReleaseConfirmed}
    (h : reduceEscrowReleaseConfirmed p record event e = .ok next) :
    NamedAction event ∧ Reduces p context record event (.escrowReleaseConfirmed e) next := by
  simp only [reduceEscrowReleaseConfirmed, requirePositiveAtomic, bind_eq_ok, require_eq_ok, exists_const,
    requireText_eq_ok, withTransition_eq_ok] at h
  obtain ⟨hs, htx, hp, locked, ⟨hl, -⟩, rfl, -, hd, -, -, hn, rfl⟩ := h
  exact ⟨hn, .escrowReleaseConfirmed hs htx hp hl hd⟩

theorem reduceEscrowPartialReleaseConfirmed_ok {e : EscrowPartialReleaseConfirmed}
    (h : reduceEscrowPartialReleaseConfirmed p record event e = .ok next) :
    NamedAction event ∧ Reduces p context record event (.escrowPartialReleaseConfirmed e) next := by
  simp only [reduceEscrowPartialReleaseConfirmed, requireNonNegAtomic, bind_eq_ok, require_eq_ok, exists_const,
    toBigInt_eq_ok, withTransition_eq_ok] at h
  obtain ⟨hs, hrel, hrfd, locked, hl, rel, hrel', rfd, hrfd', hsum, ⟨hr1, hr2⟩, htx, -, -, hn, rfl⟩ := h
  rw [bigInt_of_atomic hrel] at hrel'
  rw [bigInt_of_atomic hrfd] at hrfd'
  cases hrel'
  cases hrfd'
  exact ⟨hn, .escrowPartialReleaseConfirmed hs ⟨hr1.symm, hrel⟩ ⟨hr2.symm, hrfd⟩ (hsum ▸ hl) htx⟩

theorem reduceEscrowRefundConfirmed_ok {e : EscrowRefundConfirmed}
    (h : reduceEscrowRefundConfirmed p record event e = .ok next) :
    NamedAction event ∧ Reduces p context record event (.escrowRefundConfirmed e) next := by
  simp only [reduceEscrowRefundConfirmed, requirePositiveAtomic, bind_eq_ok, require_eq_ok, exists_const] at h
  obtain ⟨hs, htx, hp, h⟩ := h
  split at h
  · next hno =>
    simp only [bind_eq_ok, require_eq_ok, exists_const, withTransition_eq_ok] at h
    obtain ⟨ha, -, -, hn, rfl⟩ := h
    exact ⟨hn, .escrowRefundConfirmed (.inl ⟨hno, ha⟩) htx hp⟩
  · next hno =>
    simp only [bind_eq_ok, require_eq_ok, exists_const, withTransition_eq_ok] at h
    obtain ⟨-, ⟨ha, hz⟩, hl, -, -, hn, rfl⟩ := h
    exact ⟨hn, .escrowRefundConfirmed (.inr ⟨hs.resolve_left hno, ha, hz, hl⟩) htx hp⟩

/-- **A successful event is one of the transitions**, it is not earlier than the last one, and, but for an
advisory, its action id is not empty and has at most 128 characters. -/
theorem reduceLifecycle_ok (h : reduceLifecycle p record event context = .ok next) :
    NotAfter record.updatedAt event.eventTime ∧ (event.type ≠ .podAdvisoryAnchored → NamedAction event) ∧
      Reduces p context record event event.body next := by
  simp only [reduceLifecycle, requireUtc, bind_eq_ok, require_eq_ok, exists_const,
    requireBeforeOrEqual_eq_ok] at h
  obtain ⟨-, htime, h⟩ := h
  refine ⟨htime, ?_⟩
  have named {b : EventBody} (hb : NamedAction event ∧ Reduces p context record event b next) :
      (event.type ≠ .podAdvisoryAnchored → NamedAction event) ∧ Reduces p context record event b next :=
    ⟨fun _ => hb.1, hb.2⟩
  have htype : event.type = event.body.type := rfl
  generalize event.body = b at h htype ⊢
  cases b with
  | escrowFundingConfirmed e => exact named (reduceEscrowFundingConfirmed_ok h)
  | tenderActivationPaid e => exact named (reduceTenderActivationPaid_ok h)
  | biddingStarted =>
    simp only [reduceBiddingStarted, requireState, bind_eq_ok, require_eq_ok, exists_const, withTransition_eq_ok] at h
    obtain ⟨hs, -, -, hn, rfl⟩ := h
    exact named ⟨hn, .biddingStarted hs⟩
  | bidSubmissionPaid e => exact named (reduceBidSubmissionPaid_ok h)
  | auctionCloseConfirmed e => exact named (reduceAuctionCloseConfirmed_ok h)
  | noQualifiedBidConfirmed e => exact named (reduceNoQualifiedBidConfirmed_ok h)
  | winnerSelectionConfirmed e => exact named (reduceWinnerSelectionConfirmed_ok h)
  | winningAmountAllocationConfirmed e => exact named (reduceWinningAmountAllocationConfirmed_ok h)
  | routeReservationPublished e => exact named (reduceRouteReservationPublished_ok h)
  | transitStarted =>
    simp only [reduceTransitStarted, requireState, bind_eq_ok, require_eq_ok, exists_const, withTransition_eq_ok] at h
    obtain ⟨hs, -, -, hn, rfl⟩ := h
    exact named ⟨hn, .transitStarted hs⟩
  | deliveryReported =>
    simp only [reduceDeliveryReported, requireState, bind_eq_ok, require_eq_ok, exists_const, withTransition_eq_ok] at h
    obtain ⟨hs, -, -, hn, rfl⟩ := h
    exact named ⟨hn, .deliveryReported hs⟩
  | podPackageSubmitted e => exact named (reducePodPackageSubmitted_ok h)
  | podReviewStarted => exact named (reducePodReviewStarted_ok h)
  | podCorrectionRequested e => exact named (reducePodCorrectionRequested_ok h)
  | podPackageResubmitted e => exact named (reducePodPackageResubmitted_ok h)
  | podAcceptedByShipper e => exact named (reducePodAcceptedByShipper_ok h)
  | podReviewDeadlineExpired => exact named (reducePodReviewDeadlineExpired_ok h)
  | podCorrectionDeadlineExpired => exact named (reducePodCorrectionDeadlineExpired_ok h)
  | podRejectedToDispute e => exact named (reducePodRejectedToDispute_ok h)
  | refereeResolutionRecorded e => exact named (reduceRefereeResolutionRecorded_ok h)
  | escrowReleaseConfirmed e => exact named (reduceEscrowReleaseConfirmed_ok h)
  | escrowPartialReleaseConfirmed e => exact named (reduceEscrowPartialReleaseConfirmed_ok h)
  | escrowRefundConfirmed e => exact named (reduceEscrowRefundConfirmed_ok h)
  | tenderCompletionConfirmed =>
    simp only [reduceTenderCompletionConfirmed, bind_eq_ok, require_eq_ok, exists_const,
      withTransition_eq_ok] at h
    obtain ⟨hs, -, -, hn, rfl⟩ := h
    exact named ⟨hn, .tenderCompletionConfirmed hs⟩
  | podAdvisoryAnchored e =>
    simp only [reducePodAdvisoryAnchored, bind_eq_ok, require_eq_ok, exists_const, pure_eq_ok] at h
    obtain ⟨hb, hs, rfl⟩ := h
    exact ⟨fun hne => absurd htype hne, .podAdvisoryAnchored hb hs⟩

/-- The committed move of every event: one version, and the action under its id; the binding stays. -/
theorem reduceLifecycle_progress (h : reduceLifecycle p record event context = .ok next) :
    next.toTenderBinding = record.toTenderBinding ∧
      ∃ reason, next.toProgress = record.toProgress.advance p next.state event reason := by
  obtain ⟨-, -, hreduces⟩ := reduceLifecycle_ok h
  generalize event.body = b at hreduces
  cases hreduces <;> exact ⟨rfl, _, rfl⟩

end Inversion

/-! ## Runs -/

/-- Successful events, each with the context it is reduced in. -/
def lifecycleSystem (p : Platform) : System LifecycleRecord (LifecycleEvent × LifecycleReduceContext p) where
  init record := ∃ input, createLifecycleRecord p input = .ok record
  step record l next := reduceLifecycle p record l.1 l.2 = .ok next

/-- An event of the given type was committed. -/
def HasEvent (record : LifecycleRecord) (type : LifecycleEventType) : Prop :=
  ∃ entry ∈ record.history, entry.eventType = type

instance (record : LifecycleRecord) (type : LifecycleEventType) : Decidable (HasEvent record type) :=
  inferInstanceAs (Decidable (∃ entry ∈ record.history, entry.eventType = type))

/-- Every transition commits its event, and no other. -/
theorem hasEvent_of_reduces {p : Platform} {context : LifecycleReduceContext p} {record next : LifecycleRecord}
    {event : LifecycleEvent} {b : EventBody} (h : Reduces p context record event b next)
    (type : LifecycleEventType) : HasEvent next type ↔ HasEvent record type ∨ event.type = type := by
  have happend : ∀ (target : V2LifecycleState) (reason : Option JsString),
      (∃ entry ∈ (record.toProgress.advance p target event reason).history, entry.eventType = type) ↔
        HasEvent record type ∨ event.type = type := by
    intro target reason
    simp only [Progress.advance, HasEvent, List.mem_append, List.mem_singleton, or_and_right, exists_or,
      exists_eq_left]
  cases h <;> exact happend _ _

end RouteGuard.Lifecycle
