import RouteGuard.Store.Persistable

/-!
# The reducer and the validator

A record is accepted part by part: what is fixed, the history and its index, and the fields of funding, auction,
proof of delivery and settlement.

* `FundingPart`, `AuctionPart`, `PodPart`, `SettlementPart` : the parts, each at a state;
* `move` : a part whose fields stay, at a later state;
* one lemma for each event that changes the fields of a part;
* `accepted_iff_persistable` : what the reducer makes of an accepted record is accepted exactly when the event is
  persistable.
-/

namespace RouteGuard.Store
open JsString Guarded Access Auth Trust Lifecycle V2LifecycleState

theorem forall_some {α : Type} {P : α → Prop} {a : α} (h : P a) : ∀ v ∈ some a, P v := by
  rintro v ⟨⟩
  exact h

/-! ## The parts of an accepted record -/

structure FundingPart (t : JsString) (s : V2LifecycleState) (b : TenderBinding) (f : FundingFields)
    (actions : PlainObject ProcessedActionRecord) : Prop where
  format : FundingFormat t b f
  funded : FundedAt s b f
  activated : ActivatedAt s f
  receipt : ReceiptMatched f
  bids : BidsAt s f actions

structure AuctionPart (s : V2LifecycleState) (b : TenderBinding) (a : AuctionFields) : Prop where
  format : AuctionFormat a
  award : AwardedAt s b a
  lock : LockedAt s b a

structure PodPart (s : V2LifecycleState) (d : PodFields) : Prop where
  format : PodFormat d
  delivered : PodAt s d

structure SettlementPart (s : V2LifecycleState) (b : TenderBinding) (a : AuctionFields) (d : PodFields)
    (x : SettlementFields) : Prop where
  format : SettlementFormat x
  unsettled : UnsettledAt s x
  decision : DecidedAt s b a d x
  released : ReleasedAt s a x
  refunded : RefundedAt s b a x

section Parts
variable {p : Platform} {t : JsString} {r next : LifecycleRecord}

theorem Accepted.fundingPart (h : Accepted p t r) :
    FundingPart t r.state r.toTenderBinding r.toFundingFields r.processedActions :=
  ⟨h.funding, h.funded, h.activated, h.receipt, h.bids⟩

theorem Accepted.auctionPart (h : Accepted p t r) : AuctionPart r.state r.toTenderBinding r.toAuctionFields :=
  ⟨h.auction, h.award, h.lock⟩

theorem Accepted.podPart (h : Accepted p t r) : PodPart r.state r.toPodFields := ⟨h.pod, h.delivered⟩

theorem Accepted.settlementPart (h : Accepted p t r) :
    SettlementPart r.state r.toTenderBinding r.toAuctionFields r.toPodFields r.toSettlementFields :=
  ⟨h.settlement, h.unsettled, h.decision, h.released, h.refunded⟩

/-- The record after a step is accepted when its parts are. -/
theorem Accepted.of_parts (h : Accepted p t r) (hbinding : next.toTenderBinding = r.toTenderBinding)
    (hprogress : ProgressFormat t next.createdAt next.toProgress)
    (hfunding : FundingPart t next.state next.toTenderBinding next.toFundingFields next.processedActions)
    (hauction : AuctionPart next.state next.toTenderBinding next.toAuctionFields)
    (hpod : PodPart next.state next.toPodFields)
    (hsettlement : SettlementPart next.state next.toTenderBinding next.toAuctionFields next.toPodFields
      next.toSettlementFields) : Accepted p t next :=
  ⟨h.safeId, hbinding ▸ h.binding, hprogress, hbinding ▸ h.trust, hfunding.format, hauction.format, hpod.format,
   hsettlement.format, hfunding.funded, hfunding.activated, hfunding.receipt, hfunding.bids, hauction.award,
   hauction.lock, hpod.delivered, hsettlement.unsettled, hsettlement.decision, hsettlement.released,
   hsettlement.refunded⟩

end Parts

/-! ## Fields that stay -/

section Moves
variable {t : JsString} {s s' : V2LifecycleState} {b : TenderBinding} {f : FundingFields}
  {actions : PlainObject ProcessedActionRecord} {a a' : AuctionFields} {d d' : PodFields} {x : SettlementFields}

/-- What the funding fields meet at the first state, they meet at the second. -/
def FundingKept (s s' : V2LifecycleState) : Prop :=
  (s' ∈ POST_FUNDING ↔ s ∈ POST_FUNDING) ∧ (s' ∈ POST_ACTIVATION ↔ s ∈ POST_ACTIVATION) ∧
    (s ∈ BIDDING_REACHED → s' ∈ BIDDING_REACHED)

def AuctionKept (s s' : V2LifecycleState) : Prop :=
  (s' ∈ POST_AUCTION_CLOSE → s ∈ POST_AUCTION_CLOSE) ∧ (s' ∈ REQUIRES_WINNER → s ∈ REQUIRES_WINNER) ∧
    (s' ∈ REQUIRES_LOCK → s ∈ REQUIRES_LOCK) ∧
    (s' ∉ REQUIRES_LOCK ∧ s' ∉ ALLOWS_SETTLEMENT_TX → s ∉ REQUIRES_LOCK ∧ s ∉ ALLOWS_SETTLEMENT_TX)

def PodKept (s s' : V2LifecycleState) : Prop :=
  (s' ∈ REQUIRES_POD → s ∈ REQUIRES_POD) ∧ (s' ∈ REQUIRES_REVIEW_WINDOW → s ∈ REQUIRES_REVIEW_WINDOW) ∧
    (s' ∈ REQUIRES_CORRECTION_DEADLINE → s ∈ REQUIRES_CORRECTION_DEADLINE) ∧
    (s' ∈ REQUIRES_DISPUTE → s ∈ REQUIRES_DISPUTE)

instance : Decidable (FundingKept s s') := inferInstanceAs (Decidable (_ ∧ _))
instance : Decidable (AuctionKept s s') := inferInstanceAs (Decidable (_ ∧ _))
instance : Decidable (PodKept s s') := inferInstanceAs (Decidable (_ ∧ _))

/-- The payments of the accepted bids after an action was added. -/
theorem bidPaid_insert {bid : LifecycleBidEntry} (hproto : protoName ∉ actions.keys) {name : JsString}
    (hname : name ≠ protoName) (action : ProcessedActionRecord) (h : BidPaid f.accessPayments actions bid) :
    BidPaid f.accessPayments (actions.insert name action) bid := by
  obtain ⟨payment, hpayment, htx, hid, hread⟩ := h
  refine ⟨payment, hpayment, htx, hid, ?_⟩
  rw [read_rebuilt_insert hproto hname]
  split
  · exact nofun
  · exact hread

theorem FundingPart.move (h : FundingPart t s b f actions) (hkept : FundingKept s s')
    (hproto : protoName ∉ actions.keys) {name : JsString} (hname : name ≠ protoName) (action : ProcessedActionRecord) :
    FundingPart t s' b f (actions.insert name action) where
  format := h.format
  funded := ⟨fun hs => h.funded.funded (hkept.1.mp hs), fun hs => h.funded.unfunded fun hs' => hs (hkept.1.mpr hs')⟩
  activated := ⟨fun hs => h.activated.activated (hkept.2.1.mp hs),
    fun hs => h.activated.unactivated fun hs' => hs (hkept.2.1.mpr hs')⟩
  receipt := h.receipt
  bids := ⟨h.bids.unique, h.bids.count, fun bid hbid => bidPaid_insert hproto hname action (h.bids.paid bid hbid),
    h.bids.stage.imp id hkept.2.2⟩

theorem AuctionPart.move (h : AuctionPart s b a) (hkept : AuctionKept s s') : AuctionPart s' b a where
  format := h.format
  award := ⟨fun hs => h.award.closed (hkept.1 hs), fun hs => h.award.winner (hkept.2.1 hs), h.award.budget⟩
  lock := ⟨fun hs => h.lock.locked (hkept.2.2.1 hs), fun hs => h.lock.unlocked (hkept.2.2.2 hs), h.lock.amount⟩

theorem PodPart.move (h : PodPart s d) (hkept : PodKept s s') : PodPart s' d where
  format := h.format
  delivered := ⟨fun hs => h.delivered.package (hkept.1 hs), fun hs => h.delivered.window (hkept.2.1 hs),
    fun hs => h.delivered.correction (hkept.2.2.1 hs), fun hs => h.delivered.dispute (hkept.2.2.2 hs)⟩

/-- Before the settlement its fields are empty, whatever else changes. -/
theorem SettlementPart.early (h : SettlementPart s b a d x) (hs : s ∉ ALLOWS_SETTLEMENT)
    (hs' : s' ∉ ALLOWS_SETTLEMENT) : SettlementPart s' b a' d' x := by
  have hstates : ∀ s ∉ ALLOWS_SETTLEMENT, s ∉ ALLOWS_REFEREE_DECISION ∧ s ∉ ALLOWS_SETTLEMENT_TX ∧
      s ∉ REQUIRES_REFEREE_DECISION ∧ s ≠ .paymentReleased ∧ s ≠ .partialRelease ∧ s ≠ .refunded ∧
      s ≠ .tenderCompleted := by
    intro s
    cases s <;> decide
  obtain ⟨hr, ht, -⟩ := hstates s hs
  obtain ⟨hr', ht', hq, hpaid, hpartial, hrefunded, hcompleted⟩ := hstates s' hs'
  have hdecision := h.unsettled.decision hr
  refine ⟨h.format, ⟨fun _ => hdecision, fun _ => h.unsettled.amounts hs, fun _ => h.unsettled.transactions ht⟩,
    ⟨fun hs => absurd hs hq, ?_⟩, ⟨?_, fun hs => absurd hs hpaid, fun hs => absurd hs hpartial⟩,
    ⟨fun hs => absurd hs hrefunded, fun hs => hcompleted hs.1⟩⟩
  · intro resolution hres
    rw [hdecision.1] at hres
    cases hres
  · rintro (hs | hs)
    · exact absurd hs hpaid
    · exact absurd hs hpartial

end Moves

/-! ## Funding, activation and bids -/

section Funding
variable {p : Platform} {t : JsString} {r : LifecycleRecord} {event : LifecycleEvent}

/-- The payment that an access event consumes passes the checks of the index. -/
theorem validateAccessPayment_paid {e : AccessPaid} {resource : Except JsString JsString} {type : AccessActionType}
    {bidId : Option JsString} (hpaid : AccessPaidFor r e resource) (hformat : AccessPaid.Format e)
    (hid : Text 128 event.actionId) (htime : isUtcIsoTimestamp event.eventTime)
    (hfresh : ∀ payment ∈ r.accessPayments, payment.actionId ≠ event.actionId) (hbid : ∀ id ∈ bidId, Text 128 id)
    (htype : type = .bidSubmit → bidId ≠ none) (htype' : type = .tenderActivate → bidId = none)
    (hresource : paymentResource r.toTenderBinding (e.payment event type bidId) = resource) :
    validateAccessPayment t r.toTenderBinding r.accessPayments (e.payment event type bidId) = .ok () := by
  simp only [validateAccessPayment, bind_eq_ok, str_eq_ok, require_eq_ok, nullable_eq_ok, mapError_eq_ok,
    exists_const, deriveAccessFeeAtomic_eq, hresource, account_eq_ok, hash_eq_ok, utc_eq_ok, Except.ok.injEq,
    exists_eq_left', List.any_eq_true, decide_eq_true_eq, not_exists, not_and]
  exact ⟨hid, hfresh, hbid, htype, htype', hpaid.asset, hpaid.amount, e.resource, hpaid.resource, rfl, hpaid.payTo,
    hpaid.payer, hformat.1, hpaid.unused, hformat.2.1, htime⟩

/-- The deposit of the budget. -/
theorem fundingPart_funded {e : EscrowFundingConfirmed} {actions : PlainObject ProcessedActionRecord}
    (h : FundingPart t .draft r.toTenderBinding r.toFundingFields r.processedActions) (hformat : BodyFormat (.escrowFundingConfirmed e))
    (hamount : e.fundedAmountAtomic = r.maximumFreightBudgetAtomic) :
    FundingPart t .escrowFunded r.toTenderBinding
      { r.toFundingFields with fundingTxId := some e.fundingTxId, fundedAmountAtomic := some e.fundedAmountAtomic }
      actions := by
  have hbids : r.bidRegistry = [] := h.bids.stage.resolve_right (by decide)
  have hunactivated := h.activated.unactivated (by decide)
  refine ⟨{ h.format with fundingTxId := forall_some hformat.1, fundedAmountAtomic := forall_some hformat.2 },
    ⟨fun _ => ⟨rfl, by rw [hamount]⟩, fun hs => absurd (by decide) hs⟩,
    ⟨fun hs => absurd hs (by decide), fun _ => hunactivated⟩, h.receipt, ⟨h.bids.unique, h.bids.count, ?_, .inl hbids⟩⟩
  show ∀ bid ∈ r.bidRegistry, _
  rw [hbids]
  exact List.forall_mem_nil _

/-- The paid activation is the first payment. -/
theorem fundingPart_activated {e : TenderActivationPaid} {actions : PlainObject ProcessedActionRecord}
    (h : FundingPart t .escrowFunded r.toTenderBinding r.toFundingFields r.processedActions)
    (hid : Text 128 event.actionId) (htime : isUtcIsoTimestamp event.eventTime)
    (hformat : AccessPaid.Format e.toAccessPaid)
    (hpaid : AccessPaidFor r e.toAccessPaid (tenderActivateResource r.tenderId r.tenderVersion)) :
    FundingPart t .tenderOpened r.toTenderBinding
      { r.toFundingFields with
        activationPaymentTxId := some e.paymentTransactionId
        accessReceipt := some
          ⟨e.asset, e.amountAtomic, e.resource, e.payTo, e.payerAccount, e.paymentTransactionId,
           e.paymentPayloadHash, event.eventTime⟩
        accessPayments := r.accessPayments ++ [e.toAccessPaid.payment event .tenderActivate none] } actions := by
  have hbids : r.bidRegistry = [] := h.bids.stage.resolve_right (by decide)
  have hnone : r.accessPayments = [] := (h.activated.unactivated (by decide)).2.2
  have hpayment : validateAccessPayment t r.toTenderBinding r.accessPayments
      (e.toAccessPaid.payment event .tenderActivate none) = .ok () :=
    validateAccessPayment_paid hpaid hformat hid htime (by simp [hnone]) (by simp) (by simp) (fun _ => rfl) rfl
  refine ⟨{ h.format with activationPaymentTxId := forall_some hformat.1, accessReceipt := ?_, accessPayments := ?_ },
    ⟨fun _ => h.funded.funded (by decide), fun hs => absurd (by decide) hs⟩,
    ⟨fun _ => ⟨rfl, rfl⟩, fun hs => absurd (by decide) hs⟩, ?_, ⟨?_, ?_, ?_, .inl hbids⟩⟩
  · rintro receipt ⟨⟩
    simp only [validateAccessReceipt, bind_eq_ok, require_eq_ok, mapError_eq_ok, exists_const,
      deriveAccessFeeAtomic_eq, expect_eq_ok, account_eq_ok, str_eq_ok, hash_eq_ok, utc_eq_ok, Except.ok.injEq,
      exists_eq_left']
    refine ⟨hpaid.asset, hpaid.amount, e.resource, hpaid.resource, rfl, hpaid.payTo, hpaid.payer, hformat.1, ?_,
      hformat.2.1, htime⟩
    rintro tx ⟨⟩
    rfl
  · simp only [validateAccessPayments, check_eq_ok, expect_eq_ok]
    refine ⟨?_, eachAfter_concat.mpr ⟨by rw [hnone]; rfl, hpayment⟩⟩
    rw [hnone]
    show 1 ≤ MAX_HISTORY
    decide
  · simp only [ReceiptMatched, hnone]
    refine ⟨rfl, ?_⟩
    rintro activation ⟨⟩
    exact ⟨rfl, rfl, rfl, rfl, rfl, rfl, rfl⟩
  · simp only [hnone]
    rfl
  · simp only [hnone, hbids]
    rfl
  · show ∀ bid ∈ r.bidRegistry, _
    rw [hbids]
    exact List.forall_mem_nil _

/-- One more bid payment, of a bid without one. -/
theorem bidPaymentCount_concat {payments : List LifecycleAccessPayment} {payment : LifecycleAccessPayment}
    (htype : payment.accessActionType = .bidSubmit)
    (hnew : ∀ payment' ∈ payments, payment'.accessActionType = .bidSubmit → payment'.bidId ≠ payment.bidId) :
    bidPaymentCount (payments ++ [payment]) = bidPaymentCount payments + 1 := by
  have hfilter : (payments ++ [payment]).filter (fun payment => payment.accessActionType = .bidSubmit) =
      payments.filter (fun payment => payment.accessActionType = .bidSubmit) ++ [payment] := by
    simp [htype]
  unfold bidPaymentCount
  rw [hfilter, List.map_append, ← List.card_toFinset, ← List.card_toFinset, List.toFinset_append,
    Finset.card_union_of_disjoint]
  · rfl
  · rw [Finset.disjoint_left]
    intro id hid hid'
    simp only [List.mem_toFinset, List.mem_map, List.mem_filter, decide_eq_true_eq] at hid
    obtain ⟨payment', ⟨hmem, htype'⟩, rfl⟩ := hid
    simp only [List.map_cons, List.map_nil, List.mem_toFinset, List.mem_singleton] at hid'
    exact hnew payment' hmem htype' hid'

theorem activationPayments_concat {payments : List LifecycleAccessPayment} {payment : LifecycleAccessPayment}
    (htype : payment.accessActionType = .bidSubmit) :
    activationPayments (payments ++ [payment]) = activationPayments payments := by
  simp [activationPayments, htype]

/-- Another bid's payment is found as before. -/
theorem bidPayment_concat_of_ne {payments : List LifecycleAccessPayment} {payment : LifecycleAccessPayment}
    {bidId : JsString} (h : payment.bidId ≠ some bidId) :
    bidPayment (payments ++ [payment]) bidId = bidPayment payments bidId := by
  unfold bidPayment
  rw [List.reverse_append, List.reverse_singleton, List.singleton_append, List.find?_cons_of_neg]
  simp [h]

theorem bidPayment_concat {payments : List LifecycleAccessPayment} {payment : LifecycleAccessPayment} {bidId : JsString}
    (htype : payment.accessActionType = .bidSubmit) (h : payment.bidId = some bidId) :
    bidPayment (payments ++ [payment]) bidId = some payment := by
  unfold bidPayment
  rw [List.reverse_append, List.reverse_singleton, List.singleton_append, List.find?_cons_of_pos]
  simp [h, htype]

/-- A paid bid adds one entry and one payment. -/
theorem fundingPart_bid {e : BidSubmissionPaid} {auth : VerifiedCarrierBidAuth}
    {context : LifecycleReduceContext p} (h : FundingPart t r.state r.toTenderBinding r.toFundingFields r.processedActions)
    (hbook : Bookkeeping r) (hlen : r.history.length < MAX_HISTORY)
    (hstate : r.state = .tenderOpened ∨ r.state = .bidding) (hid : Text 128 event.actionId)
    (htime : isUtcIsoTimestamp event.eventTime) (hformat : BodyFormat (.bidSubmissionPaid e))
    (hauth : isSha256 auth.payloadHash ∧ isFingerprint auth.trustedKeyFingerprint)
    (hproto : protoName ∉ r.processedActions.keys) (hfresh : event.actionId ∉ r.processedActions.keys)
    (hplain : event.actionId ≠ protoName) (hbid : BidAdmitted context r event e auth)
    (hpaid : AccessPaidFor r e.toAccessPaid (bidSubmitResource r.tenderId r.tenderVersion e.bidId))
    (action : ProcessedActionRecord) :
    FundingPart t .bidding r.toTenderBinding
      { r.toFundingFields with
        bidRegistry := r.bidRegistry ++
          [⟨e.bidId, e.carrierId, e.carrierAccountId, e.bidHash, e.signedBidEnvelopeHash, e.commitmentPayloadHash,
            auth.trustedKeyFingerprint, auth.payloadHash, e.paymentTransactionId, event.actionId, event.eventTime⟩]
        accessPayments := r.accessPayments ++ [e.toAccessPaid.payment event .bidSubmit (some e.bidId)] }
      (r.processedActions.insert event.actionId action) := by
  obtain ⟨haccess, hbidId, hcarrier, haccount, hhash, henvelope, hcommitment⟩ := hformat
  have hactivated : r.state ∈ POST_FUNDING ∧ r.state ∈ POST_ACTIVATION := by
    rcases hstate with hs | hs <;> rw [hs] <;> decide
  have hnewBid : ∀ payment ∈ r.accessPayments, payment.accessActionType = .bidSubmit → payment.bidId ≠ some e.bidId := by
    intro payment hmem htype heq
    obtain ⟨bid, hbidmem, hbideq⟩ := hbook.paidBids payment hmem htype
    exact hbid.fresh bid hbidmem (Option.some.inj (hbideq.symm.trans heq))
  have hnewAction : ∀ payment ∈ r.accessPayments, payment.actionId ≠ event.actionId := by
    intro payment hmem heq
    exact hfresh (heq ▸ hbook.paidActions payment hmem)
  have hpayment : validateAccessPayment t r.toTenderBinding r.accessPayments
      (e.toAccessPaid.payment event .bidSubmit (some e.bidId)) = .ok () := by
    refine validateAccessPayment_paid hpaid haccess hid htime hnewAction ?_ (by simp) (by simp) rfl
    rintro id ⟨⟩
    exact hbidId
  have hactivations : activationPayments
      (r.accessPayments ++ [e.toAccessPaid.payment event .bidSubmit (some e.bidId)]) =
      activationPayments r.accessPayments := activationPayments_concat rfl
  have hbidCount : bidPaymentCount (r.accessPayments ++ [e.toAccessPaid.payment event .bidSubmit (some e.bidId)]) =
      bidPaymentCount r.accessPayments + 1 := bidPaymentCount_concat rfl hnewBid
  have hpayments := h.format.accessPayments
  have hregistry := h.format.bidRegistry
  simp only [validateAccessPayments, validateBidRegistry, check_eq_ok, expect_eq_ok] at hpayments hregistry
  have hcount := h.bids.count
  have hunique := h.bids.unique
  have hbooked := hbook.payments
  refine ⟨{ h.format with accessPayments := ?_, bidRegistry := ?_ },
    ⟨fun _ => h.funded.funded hactivated.1, fun hs => absurd (by decide) hs⟩,
    ⟨fun _ => h.activated.activated hactivated.2, fun hs => absurd (by decide) hs⟩, ?_, ⟨?_, ?_, ?_, .inr (by decide)⟩⟩
  · simp only [validateAccessPayments, check_eq_ok, expect_eq_ok, List.length_append, List.length_singleton]
    exact ⟨by omega, eachAfter_concat.mpr ⟨hpayments.2, hpayment⟩⟩
  · simp only [validateBidRegistry, check_eq_ok, expect_eq_ok, List.length_append, List.length_singleton]
    refine ⟨by omega, eachAfter_concat.mpr ⟨hregistry.2, ?_⟩⟩
    simp only [validateBid, check_eq_ok, str_eq_ok, require_eq_ok, account_eq_ok, hash_eq_ok, fingerprint_eq_ok,
      utc_eq_ok, List.nil_append, List.any_eq_true, decide_eq_true_eq, not_exists, not_and]
    have hfingerprint : auth.trustedKeyFingerprint.length = 64 := by
      have := hauth.2
      simp only [isFingerprint, Bool.and_eq_true, decide_eq_true_eq] at this
      exact this.1
    refine ⟨hbidId, hbid.fresh, hcarrier, haccount, hhash, henvelope, hcommitment, ⟨?_, by omega⟩, hauth.2, hauth.1,
      haccess.1, hid, htime⟩
    exact List.ne_nil_of_length_pos (by omega)
  · unfold ReceiptMatched
    simp only [hactivations]
    exact h.receipt
  · simp only [hbidCount, hactivations, List.length_append, List.length_singleton]
    omega
  · simp only [hbidCount, List.length_append, List.length_singleton]
    omega
  · intro bid hmem
    rcases List.mem_append.mp hmem with hmem | hmem
    · have hne : (e.toAccessPaid.payment event .bidSubmit (some e.bidId)).bidId ≠ some bid.bidId :=
        fun heq => hbid.fresh bid hmem (Option.some.inj heq).symm
      have hpaidBid := bidPaid_insert hproto hplain action (h.bids.paid bid hmem)
      obtain ⟨payment, hfound, hrest⟩ := hpaidBid
      exact ⟨payment, (bidPayment_concat_of_ne hne).trans hfound, hrest⟩
    · rw [List.mem_singleton.mp hmem]
      refine ⟨_, bidPayment_concat rfl rfl, rfl, rfl, ?_⟩
      rw [read_rebuilt_insert hproto hplain, if_pos rfl]
      intro hundefined
      cases hundefined

end Funding

/-! ## Auction and award -/

section Auction
variable {b : TenderBinding} {a : AuctionFields}

theorem auctionPart_closed {e : AuctionCloseConfirmed} (h : AuctionPart .bidding b a)
    (hformat : BodyFormat (.auctionCloseConfirmed e)) :
    AuctionPart .auctionClosed b
      { a with
        closureProofRef := some e.closureProofRef
        authoritativeBidSetHash := some e.authoritativeBidSetHash } := by
  have hf := h.format
  refine ⟨{ hf with closureProofRef := forall_some hformat.1, authoritativeBidSetHash := forall_some hformat.2 },
    ⟨fun _ => ⟨rfl, rfl⟩, fun hs => absurd hs (by decide), h.award.budget⟩,
    ⟨fun hs => absurd hs (by decide), fun _ => h.lock.unlocked (by decide), h.lock.amount⟩⟩

theorem auctionPart_noQualifiedBid {e : NoQualifiedBidConfirmed} (h : AuctionPart .auctionClosed b a)
    (hformat : BodyFormat (.noQualifiedBidConfirmed e)) :
    AuctionPart .noQualifiedBid b
      { a with
        decisionManifestHash := some e.decisionManifestHash
        winningBidId := none
        winningAmountAtomic := none } := by
  have hf := h.format
  have hunlocked : a.lockedAmountAtomic = none := h.lock.unlocked (by decide)
  refine ⟨{ hf with decisionManifestHash := forall_some hformat, winningBidId := nofun, winningAmountAtomic := nofun },
    ⟨fun _ => h.award.closed (by decide), fun hs => absurd hs (by decide), nofun⟩,
    ⟨fun hs => absurd hs (by decide), fun _ => hunlocked, ?_⟩⟩
  intro locked hlocked
  rw [hunlocked] at hlocked
  cases hlocked

theorem auctionPart_winner {e : WinnerSelectionConfirmed} {budget : Int} (h : AuctionPart .auctionClosed b a)
    (hformat : BodyFormat (.winnerSelectionConfirmed e)) (hbudget : bigInt b.maximumFreightBudgetAtomic = some budget)
    (hle : (digitsValue e.winningAmountAtomic : Int) ≤ budget) :
    AuctionPart .winnerSelected b
      { a with
        decisionManifestHash := some e.decisionManifestHash
        winningBidId := some e.winningBidId
        winningCarrierId := some e.winningCarrierId
        winningCarrierAccount := some e.winningCarrierAccount
        winningAmountAtomic := some e.winningAmountAtomic } := by
  have hf := h.format
  have hunlocked : a.lockedAmountAtomic = none := h.lock.unlocked (by decide)
  obtain ⟨hmanifest, hbid, hcarrier, haccount, hamount⟩ := hformat
  refine ⟨{ hf with
      decisionManifestHash := forall_some hmanifest, winningBidId := forall_some hbid,
      winningCarrierId := forall_some hcarrier, winningCarrierAccount := forall_some haccount,
      winningAmountAtomic := forall_some hamount },
    ⟨fun _ => h.award.closed (by decide), fun _ => ⟨rfl, rfl, rfl, rfl, rfl⟩, ?_⟩,
    ⟨fun hs => absurd hs (by decide), fun _ => hunlocked, ?_⟩⟩
  · rintro winning ⟨⟩
    exact ⟨_, bigInt_of_atomic hamount, budget, hbudget, hle⟩
  · intro locked hlocked
    rw [hunlocked] at hlocked
    cases hlocked

/-- The lock: winning amount and excess are the budget. -/
theorem auctionPart_locked {r : LifecycleRecord} {e : WinningAmountAllocationConfirmed}
    (h : AuctionPart .winnerSelected r.toTenderBinding r.toAuctionFields)
    (hformat : BodyFormat (.winningAmountAllocationConfirmed e)) (hamounts : Allocates r e) :
    AuctionPart .winningAmountLocked r.toTenderBinding
      { r.toAuctionFields with
        lockedAmountAtomic := some e.winningAmountAtomic
        excessRefundAtomic := some e.excessRefundAtomic
        allocateTxId := some e.allocateTxId
        refundExcessTxId := e.refundExcessTxId
        decisionManifestHash := some e.decisionManifestHash
        winningAmountAtomic := some e.winningAmountAtomic } := by
  have hf := h.format
  obtain ⟨htx, hrefundTx, hmanifest⟩ := hformat
  have hwinning := isNonNegativeAtomicString_of_positive hamounts.positive
  have hwin := bigInt_of_atomic hwinning
  have hexcess := bigInt_of_atomic hamounts.excess
  have hbudget : bigInt r.maximumFreightBudgetAtomic = some (digitsValue e.maxBudgetAtomic : Int) := by
    rw [← hamounts.budget]
    exact bigInt_of_atomic (isNonNegativeAtomicString_of_positive hamounts.positiveBudget)
  have hsum := hamounts.conserved
  obtain ⟨hbid, hcarrier, haccount, -, -⟩ := h.award.winner (by decide)
  refine ⟨{ hf with
      decisionManifestHash := forall_some hmanifest, winningAmountAtomic := forall_some hwinning,
      lockedAmountAtomic := forall_some hwinning, excessRefundAtomic := forall_some hamounts.excess,
      allocateTxId := forall_some htx, refundExcessTxId := hrefundTx },
    ⟨fun _ => h.award.closed (by decide), fun _ => ⟨hbid, hcarrier, haccount, rfl, rfl⟩, ?_⟩,
    ⟨fun _ => ⟨rfl, rfl, rfl⟩, fun hs => absurd (by decide) hs.1, ?_⟩⟩
  · rintro winning ⟨⟩
    exact ⟨_, hwin, _, hbudget, by omega⟩
  · rintro locked ⟨⟩
    refine ⟨_, hwin, _, hbudget, by omega, ?_, ?_⟩
    · rintro winning ⟨⟩
      rfl
    · rintro excess ⟨⟩
      exact ⟨_, hexcess, by omega⟩

theorem auctionPart_reserved {e : RouteReservationPublished} (h : AuctionPart .winningAmountLocked b a)
    (hformat : BodyFormat (.routeReservationPublished e)) :
    AuctionPart .routeReserved b { a with reservationEvidenceRef := some e.reservationEvidenceRef } := by
  have hf := h.format
  refine ⟨{ hf with reservationEvidenceRef := forall_some hformat },
    ⟨fun _ => h.award.closed (by decide), fun _ => h.award.winner (by decide), h.award.budget⟩,
    ⟨fun _ => h.lock.locked (by decide), fun hs => absurd (by decide) hs.1, h.lock.amount⟩⟩

end Auction

/-! ## Sealed authorizations -/

section Sealed
variable {p : Platform} {context : LifecycleReduceContext p}

/-- The hashes that the record keeps of an authorization. -/
def authHashes : VerifiedAuth → JsString × JsString
  | .shipperPodReview auth => (auth.payloadHash, auth.trustedKeyFingerprint)
  | .refereeResolution auth => (auth.payloadHash, auth.trustedKeyFingerprint)
  | .carrierBid auth => (auth.payloadHash, auth.trustedKeyFingerprint)
  | .carrierPodSubmission auth => (auth.payloadHash, auth.trustedKeyFingerprint)

theorem verified_hashes (hp : p.HexDigest) {auth : VerifiedAuth} (h : Verified p auth) :
    isSha256 (authHashes auth).1 ∧ isFingerprint (authHashes auth).2 := by
  cases h with
  | shipperPodReview h =>
    obtain ⟨-, rfl⟩ := verifyShipperPodReview_ok h
    exact ⟨isSha256_canonicalSha256 hp _, isFingerprint_publicKeyFingerprint hp _⟩
  | refereeResolution h =>
    obtain ⟨referee, -, -, -, rfl⟩ := verifyRefereeResolution_ok h
    exact ⟨isSha256_canonicalSha256 hp _, isFingerprint_publicKeyFingerprint hp _⟩
  | carrierBid h =>
    obtain ⟨-, rfl⟩ := verifyCarrierBid_ok h
    exact ⟨isSha256_canonicalSha256 hp _, isFingerprint_publicKeyFingerprint hp _⟩
  | carrierPodSubmission h =>
    simp only [verifyCarrierPodSubmission, bind_eq_ok, require_eq_ok, exists_const, pure_eq_ok] at h
    obtain ⟨-, -, -, rfl⟩ := h
    exact ⟨isSha256_canonicalSha256 hp _, isFingerprint_publicKeyFingerprint hp _⟩

theorem sealedAuth_hashes (hp : p.HexDigest) {auth : VerifiedAuth} (h : context.sealedAuth = some auth) :
    isSha256 (authHashes auth).1 ∧ isFingerprint (authHashes auth).2 := by
  unfold LifecycleReduceContext.sealedAuth at h
  split at h
  · next s _ =>
    cases h
    exact verified_hashes hp s.verified
  · cases h

end Sealed

/-! ## Proof of delivery -/

section Pod
variable {d : PodFields} {event : LifecycleEvent}

/-- A deadline is a timestamp, and later than its start, exactly while its year has four digits. -/
theorem deadline_format {start deadline : JsString} {window : Nat} (hstart : isUtcIsoTimestamp start)
    (h : addUtcSeconds start window = .ok deadline) :
    isUtcIsoTimestamp deadline ↔ ∀ x ∈ instant start, x + window * 1000000000 < YEAR_10000 := by
  obtain ⟨x, hx⟩ := isUtcIsoTimestamp_iff.mp hstart
  rw [isUtcIsoTimestamp_iff, instant_addUtcSeconds hx h, hx]
  constructor
  · rintro ⟨n, hn⟩ _ ⟨⟩
    by_contra hlt
    rw [if_neg hlt] at hn
    cases hn
  · intro hlt
    rw [if_pos (hlt x rfl)]
    exact ⟨_, rfl⟩

theorem before_deadline {start deadline : JsString} {window : Nat} (hwindow : 0 < window)
    (h : addUtcSeconds start window = .ok deadline) (hstart : isUtcIsoTimestamp start)
    (hdeadline : isUtcIsoTimestamp deadline) : Before start deadline := by
  obtain ⟨x, hx⟩ := isUtcIsoTimestamp_iff.mp hstart
  have hlt := (deadline_format hstart h).mp hdeadline x hx
  refine ⟨x, _, hx, by rw [instant_addUtcSeconds hx h, if_pos hlt], ?_⟩
  omega

theorem podPart_submitted {e : PodPackage} (h : PodPart .deliveryReported d)
    (hformat : PodPackage.Format e) (hversion : e.podVersion = 1) :
    PodPart .podSubmitted
      { d with
        podId := some e.podId
        podVersion := some e.podVersion
        podContentHash := some e.contentHash
        podCiphertextHash := some e.ciphertextHash } := by
  have hf := h.format
  refine ⟨{ hf with
      podId := forall_some hformat.1, podVersion := ?_, podContentHash := forall_some hformat.2.1,
      podCiphertextHash := forall_some hformat.2.2 },
    ⟨fun _ => ⟨rfl, rfl, rfl, rfl⟩, fun hs => absurd hs (by decide), fun hs => absurd hs (by decide),
      fun hs => absurd hs (by decide)⟩⟩
  rintro v ⟨⟩
  rw [hversion]
  decide

/-- The review window opens; its deadline has to be a timestamp. -/
theorem podPart_underReview {s : V2LifecycleState} {deadline : JsString} {window : Nat} (h : PodPart s d)
    (hs : s = .podSubmitted ∨ s = .podResubmitted) (hwindow : 0 < window) (htime : isUtcIsoTimestamp event.eventTime)
    (hdeadline : addUtcSeconds event.eventTime window = .ok deadline) :
    PodPart .podUnderReview
      { d with
        reviewStartedAt := some event.eventTime
        reviewDeadlineAt := some deadline
        shipperActionTaken := false
        correctionDeadlineAt := none } ↔ isUtcIsoTimestamp deadline := by
  have hf := h.format
  constructor
  · intro hnext
    exact hnext.format.reviewDeadlineAt deadline rfl
  · intro hutc
    refine ⟨{ hf with
        reviewStartedAt := forall_some htime, reviewDeadlineAt := forall_some hutc, correctionDeadlineAt := nofun },
      ⟨fun _ => h.delivered.package ?_, fun _ => ⟨rfl, rfl, before_deadline hwindow hdeadline htime hutc⟩,
        fun hs => absurd hs (by decide), fun hs => absurd hs (by decide)⟩⟩
    rcases hs with rfl | rfl <;> decide

/-- The shipper asks for a correction; its deadline has to be a timestamp. -/
theorem podPart_correctionRequested {auth : VerifiedShipperReviewAuth} {deadline : JsString}
    (h : PodPart .podUnderReview d) (hauth : isSha256 auth.payloadHash ∧ isFingerprint auth.trustedKeyFingerprint) :
    PodPart .podCorrectionRequested
      { d with
        correctionDeadlineAt := some deadline
        shipperActionTaken := true
        lastShipperAuthPayloadHash := some auth.payloadHash
        lastShipperKeyFingerprint := some auth.trustedKeyFingerprint } ↔ isUtcIsoTimestamp deadline := by
  have hf := h.format
  constructor
  · intro hnext
    exact hnext.format.correctionDeadlineAt deadline rfl
  · intro hutc
    refine ⟨{ hf with
        correctionDeadlineAt := forall_some hutc, lastShipperAuthPayloadHash := forall_some hauth.1,
        lastShipperKeyFingerprint := forall_some hauth.2 },
      ⟨fun _ => h.delivered.package (by decide), fun _ => h.delivered.window (by decide), fun _ => rfl,
        fun hs => absurd hs (by decide)⟩⟩

theorem podPart_resubmitted {e : PodPackage} (h : PodPart .podCorrectionRequested d) (hformat : PodPackage.Format e)
    (hversion : 1 ≤ e.podVersion ∧ e.podVersion ≤ MAX_SAFE_INTEGER) :
    PodPart .podResubmitted
      { d with
        podId := some e.podId
        podVersion := some e.podVersion
        podContentHash := some e.contentHash
        podCiphertextHash := some e.ciphertextHash } := by
  have hf := h.format
  refine ⟨{ hf with
      podId := forall_some hformat.1, podVersion := forall_some hversion, podContentHash := forall_some hformat.2.1,
      podCiphertextHash := forall_some hformat.2.2 },
    ⟨fun _ => ⟨rfl, rfl, rfl, rfl⟩, fun _ => h.delivered.window (by decide),
      fun _ => h.delivered.correction (by decide), fun hs => absurd hs (by decide)⟩⟩

theorem podPart_accepted {auth : VerifiedShipperReviewAuth} (h : PodPart .podUnderReview d)
    (hauth : isSha256 auth.payloadHash ∧ isFingerprint auth.trustedKeyFingerprint) :
    PodPart .podAccepted
      { d with
        shipperActionTaken := true
        lastShipperAuthPayloadHash := some auth.payloadHash
        lastShipperKeyFingerprint := some auth.trustedKeyFingerprint } := by
  have hf := h.format
  refine ⟨{ hf with
      lastShipperAuthPayloadHash := forall_some hauth.1, lastShipperKeyFingerprint := forall_some hauth.2 },
    ⟨fun _ => h.delivered.package (by decide), fun _ => h.delivered.window (by decide),
      fun hs => absurd hs (by decide), fun hs => absurd hs (by decide)⟩⟩

/-- No correction in time: the id of the dispute is made from the action id. -/
theorem podPart_timedOut {disputeId : JsString} (h : PodPart .podCorrectionRequested d) :
    PodPart .podDisputed { d with disputeId := some disputeId } ↔ Text 128 disputeId := by
  have hf := h.format
  constructor
  · intro hnext
    exact hnext.format.disputeId disputeId rfl
  · intro htext
    refine ⟨{ hf with disputeId := forall_some htext },
      ⟨fun _ => h.delivered.package (by decide), fun _ => h.delivered.window (by decide),
        fun hs => absurd hs (by decide), fun _ => rfl⟩⟩

theorem podPart_rejected {e : PodRejectedToDispute} {auth : VerifiedShipperReviewAuth} (h : PodPart .podUnderReview d)
    (hformat : BodyFormat (.podRejectedToDispute e))
    (hauth : isSha256 auth.payloadHash ∧ isFingerprint auth.trustedKeyFingerprint) :
    PodPart .podDisputed
      { d with
        disputeId := some e.disputeId
        shipperActionTaken := true
        lastShipperAuthPayloadHash := some auth.payloadHash
        lastShipperKeyFingerprint := some auth.trustedKeyFingerprint } := by
  have hf := h.format
  refine ⟨{ hf with
      disputeId := forall_some hformat, lastShipperAuthPayloadHash := forall_some hauth.1,
      lastShipperKeyFingerprint := forall_some hauth.2 },
    ⟨fun _ => h.delivered.package (by decide), fun _ => h.delivered.window (by decide),
      fun hs => absurd hs (by decide), fun _ => rfl⟩⟩

theorem podPart_decided {disputeId : JsString} (h : PodPart .podDisputed d) (htext : Text 128 disputeId) :
    PodPart .refereeDecision { d with disputeId := some disputeId } := by
  have hf := h.format
  refine ⟨{ hf with disputeId := forall_some htext },
    ⟨fun _ => h.delivered.package (by decide), fun hs => absurd hs (by decide), fun hs => absurd hs (by decide),
      fun _ => rfl⟩⟩

/-- An advisory report changes no other field. -/
theorem podPart_advised {s : V2LifecycleState} {e : PodAdvisoryAnchored} (h : PodPart s d)
    (hformat : BodyFormat (.podAdvisoryAnchored e)) : PodPart s { d with advisoryReportHash := some e.reportHash } := by
  have hf := h.format
  refine ⟨{ hf with advisoryReportHash := forall_some hformat },
    ⟨h.delivered.package, h.delivered.window, h.delivered.correction, h.delivered.dispute⟩⟩

end Pod

/-! ## Settlement -/

section Settlement
variable {b : TenderBinding} {a : AuctionFields} {d : PodFields} {x : SettlementFields}

/-- The settlement fields after a resolution. -/
def resolvedFields (x : SettlementFields) (e : RefereeResolutionRecorded) (auth : VerifiedRefereeResolutionAuth) :
    SettlementFields :=
  { x with
    refereeResolution := some e.resolution.text
    releaseAmountAtomic := some e.releaseAmountAtomic
    refundAmountAtomic := some e.refundAmountAtomic
    resolutionPayloadHash := some auth.payloadHash
    refereeId := some auth.refereeId
    refereeKeyFingerprint := some auth.trustedKeyFingerprint }

/-- A decision splits the locked amount; its referee has to be registered under the id of the event. -/
theorem decisionAmounts_resolved {p : Platform} {context : LifecycleReduceContext p} {r : LifecycleRecord}
    {event : LifecycleEvent} {e : RefereeResolutionRecorded} {auth : VerifiedRefereeResolutionAuth}
    (hlocked : r.lockedAmountAtomic.isSome) (h : Resolves context r event e auth) :
    DecisionAmounts r.toTenderBinding r.toAuctionFields { r.toPodFields with disputeId := some e.disputeId }
        (resolvedFields r.toSettlementFields e auth) e.resolution.text ↔
      ∃ referee ∈ r.trust.referees, referee.refereeId = e.refereeId := by
  obtain ⟨locked, hl⟩ := Option.isSome_iff_exists.mp hlocked
  have hsum := h.conserved
  rw [hl, Option.getD_some] at hsum
  have hrel := bigInt_of_atomic h.release
  have href := bigInt_of_atomic h.refund
  have hfull := h.full
  have hnone := h.none
  have hsplit := h.split
  constructor
  · rintro ⟨-, -, -, _, -, _, -, _, -, -, -, -, -, -, hreferee⟩
    have hany := hreferee auth.refereeId rfl
    simp only [List.any_eq_true, decide_eq_true_eq, h.referee] at hany
    exact hany
  · rintro ⟨referee, hmem, hid⟩
    refine ⟨rfl, rfl, hlocked, _, hrel, _, href, _, by rw [hl]; exact hsum, rfl, ?_, ?_, ?_, rfl, ?_⟩
    · rintro ⟨hres, hne⟩
      have : e.resolution = .releaseFull := by
        cases hr : e.resolution <;> rw [hr] at hres <;> revert hres <;> decide
      exact hne (by exact_mod_cast hfull this)
    · rintro ⟨hres, hne⟩
      have : e.resolution = .refundFull := by
        cases hr : e.resolution <;> rw [hr] at hres <;> revert hres <;> decide
      exact hne (by exact_mod_cast hnone this)
    · rintro ⟨hres, hz, hz'⟩
      have : e.resolution = .partialSplit := by
        cases hr : e.resolution <;> rw [hr] at hres <;> revert hres <;> decide
      exact hsplit this ⟨by exact_mod_cast hz, by exact_mod_cast hz'⟩
    · rintro refereeId ⟨⟩
      rw [List.any_eq_true]
      exact ⟨referee, hmem, by simp [hid, h.referee]⟩

theorem settlementPart_decided {p : Platform} {context : LifecycleReduceContext p} {r : LifecycleRecord}
    {event : LifecycleEvent} {e : RefereeResolutionRecorded} {auth : VerifiedRefereeResolutionAuth}
    (h : SettlementPart .podDisputed r.toTenderBinding r.toAuctionFields r.toPodFields r.toSettlementFields)
    (hlocked : r.lockedAmountAtomic.isSome) (hformat : BodyFormat (.refereeResolutionRecorded e))
    (hauth : isSha256 auth.payloadHash ∧ isFingerprint auth.trustedKeyFingerprint)
    (hresolves : Resolves context r event e auth) :
    SettlementPart .refereeDecision r.toTenderBinding r.toAuctionFields
        { r.toPodFields with disputeId := some e.disputeId } (resolvedFields r.toSettlementFields e auth) ↔
      ∃ referee ∈ r.trust.referees, referee.refereeId = e.refereeId := by
  have hf := h.format
  have htx := h.unsettled.transactions (by decide)
  have hamounts := decisionAmounts_resolved hlocked hresolves
  constructor
  · exact fun hnext => hamounts.mp (hnext.decision.amounts _ rfl)
  · intro hreferee
    refine ⟨{ hf with
        refereeResolution := ?_, resolutionKind := ?_, releaseAmountAtomic := forall_some hresolves.release,
        refundAmountAtomic := forall_some hresolves.refund,
        resolutionPayloadHash := forall_some hauth.1, refereeId := ?_, refereeKeyFingerprint := forall_some hauth.2 },
      ⟨fun hs => absurd (by decide) hs, fun hs => absurd (by decide) hs, fun _ => htx⟩,
      ⟨fun _ => ⟨rfl, rfl, rfl, rfl⟩, ?_⟩, ⟨fun hs => absurd hs (by decide), nofun, nofun⟩,
      ⟨nofun, fun hs => absurd hs.1 (by decide)⟩⟩
    · rintro v ⟨⟩
      cases e.resolution <;> decide
    · rintro v ⟨⟩
      cases e.resolution <;> decide
    · rintro v ⟨⟩
      rw [hresolves.referee]
      exact hformat.2
    · rintro resolution ⟨⟩
      exact hamounts.mpr hreferee

/-- The same amounts by the same referee. -/
theorem DecisionAmounts.congr {x' : SettlementFields} {resolution : JsString} (h : DecisionAmounts b a d x resolution)
    (hrelease : x'.releaseAmountAtomic = x.releaseAmountAtomic) (hrefund : x'.refundAmountAtomic = x.refundAmountAtomic)
    (hreferee : x'.refereeId = x.refereeId) : DecisionAmounts b a d x' resolution := by
  unfold DecisionAmounts at h ⊢
  rw [hrelease, hrefund, hreferee]
  exact h

/-- A full release is the whole locked amount. -/
theorem settlementPart_released {r : LifecycleRecord} {e : EscrowReleaseConfirmed}
    (h : SettlementPart r.state r.toTenderBinding r.toAuctionFields r.toPodFields r.toSettlementFields)
    (hlock : r.lockedAmountAtomic.isSome) (hformat : BodyFormat (.escrowReleaseConfirmed e))
    (hstate : r.state = .podAccepted ∨ r.state = .podDeemedAccepted ∨ decided r .releaseFull)
    (hpositive : isPositiveAtomicString e.releaseAmountAtomic)
    (hlocked : r.lockedAmountAtomic.or r.winningAmountAtomic = some e.releaseAmountAtomic)
    (hdecision : r.state = .refereeDecision →
      r.releaseAmountAtomic = some e.releaseAmountAtomic ∧ r.refundAmountAtomic = some (js "0")) :
    SettlementPart .paymentReleased r.toTenderBinding r.toAuctionFields r.toPodFields
      { r.toSettlementFields with
        releaseTxId := some e.releaseTxId
        releaseAmountAtomic := some e.releaseAmountAtomic
        refundAmountAtomic := some (js "0") } := by
  have hf := h.format
  have hl : r.lockedAmountAtomic = some e.releaseAmountAtomic := by
    obtain ⟨l, hl⟩ := Option.isSome_iff_exists.mp hlock
    rw [hl, Option.some_or] at hlocked
    rw [hl, hlocked]
  have hresolution : r.refereeResolution = none ∨ decided r .releaseFull := by
    rcases hstate with hs | hs | hs
    · exact .inl (h.unsettled.decision (by rw [hs]; decide)).1
    · exact .inl (h.unsettled.decision (by rw [hs]; decide)).1
    · exact .inr hs
  refine ⟨{ hf with releaseAmountAtomic := ?_, refundAmountAtomic := ?_, releaseTxId := forall_some hformat },
    ⟨fun hs => absurd (by decide) hs, fun hs => absurd (by decide) hs, fun hs => absurd (by decide) hs⟩,
    ⟨fun hs => absurd hs (by decide), ?_⟩,
    ⟨fun _ => ⟨rfl, rfl, hlock⟩, fun _ => ⟨hl.symm, rfl, hresolution.imp id And.right⟩, nofun⟩,
    ⟨nofun, fun hs => absurd hs.1 (by decide)⟩⟩
  · rintro v ⟨⟩
    exact isNonNegativeAtomicString_of_positive hpositive
  · rintro v ⟨⟩
    decide
  · intro resolution hres
    rcases hresolution with hnone | hdecided
    · rw [hnone] at hres
      cases hres
    · obtain ⟨hrel, href⟩ := hdecision hdecided.1
      exact (h.decision.amounts resolution hres).congr hrel.symm href.symm rfl

/-- A split pays out the decided amounts. -/
theorem settlementPart_split {r : LifecycleRecord} {e : EscrowPartialReleaseConfirmed}
    (h : SettlementPart r.state r.toTenderBinding r.toAuctionFields r.toPodFields r.toSettlementFields)
    (hlock : r.lockedAmountAtomic.isSome) (hformat : BodyFormat (.escrowPartialReleaseConfirmed e))
    (hstate : decided r .partialSplit)
    (hrelease : r.releaseAmountAtomic = some e.releaseAmountAtomic ∧ isNonNegativeAtomicString e.releaseAmountAtomic)
    (hrefund : r.refundAmountAtomic = some e.refundAmountAtomic ∧ isNonNegativeAtomicString e.refundAmountAtomic)
    (hconserved : bigInt (r.lockedAmountAtomic.getD (js "0")) =
      some (digitsValue e.releaseAmountAtomic + digitsValue e.refundAmountAtomic : Int)) :
    SettlementPart .partialRelease r.toTenderBinding r.toAuctionFields r.toPodFields
      { r.toSettlementFields with
        releaseTxId := some e.releaseTxId
        refundTxId := some e.refundTxId
        releaseAmountAtomic := some e.releaseAmountAtomic
        refundAmountAtomic := some e.refundAmountAtomic } := by
  have hf := h.format
  have hlocked : bigInt (r.lockedAmountAtomic.getD []) =
      some (digitsValue e.releaseAmountAtomic + digitsValue e.refundAmountAtomic : Int) := by
    obtain ⟨l, hl⟩ := Option.isSome_iff_exists.mp hlock
    rw [hl, Option.getD_some] at hconserved
    rw [hl, Option.getD_some, hconserved]
  have hrecorded := h.decision.recorded (by rw [hstate.1]; decide)
  refine ⟨{ hf with
      releaseAmountAtomic := forall_some hrelease.2, refundAmountAtomic := forall_some hrefund.2,
      releaseTxId := forall_some hformat.1, refundTxId := forall_some hformat.2 },
    ⟨fun hs => absurd (by decide) hs, fun hs => absurd (by decide) hs, fun hs => absurd (by decide) hs⟩,
    ⟨fun _ => hrecorded, fun resolution hres =>
      (h.decision.amounts resolution hres).congr hrelease.1.symm hrefund.1.symm rfl⟩,
    ⟨fun _ => ⟨rfl, rfl, hlock⟩, nofun, fun _ => ⟨rfl, hstate.2, _, bigInt_of_atomic hrelease.2, _,
      bigInt_of_atomic hrefund.2, _, hlocked, rfl⟩⟩,
    ⟨nofun, fun hs => absurd hs.1 (by decide)⟩⟩

/-- A refund returns the budget where nothing was locked, and the locked amount after a decision. -/
theorem settlementPart_refunded {r : LifecycleRecord} {e : EscrowRefundConfirmed}
    (h : SettlementPart r.state r.toTenderBinding r.toAuctionFields r.toPodFields r.toSettlementFields)
    (hauction : AuctionPart r.state r.toTenderBinding r.toAuctionFields) (hformat : BodyFormat (.escrowRefundConfirmed e))
    (hstate : r.state = .noQualifiedBid ∧ e.refundAmountAtomic = r.maximumFreightBudgetAtomic ∨
      decided r .refundFull ∧ r.refundAmountAtomic = some e.refundAmountAtomic ∧
        r.releaseAmountAtomic = some (js "0") ∧ ∀ locked ∈ r.lockedAmountAtomic, locked = [] ∨ e.refundAmountAtomic = locked)
    (hpositive : isPositiveAtomicString e.refundAmountAtomic) :
    SettlementPart .refunded r.toTenderBinding r.toAuctionFields r.toPodFields
      { r.toSettlementFields with
        refundTxId := some e.refundTxId
        refundAmountAtomic := some e.refundAmountAtomic
        releaseAmountAtomic := some (js "0") } := by
  have hf := h.format
  have hamounts : ∀ resolution ∈ r.refereeResolution, decided r .refundFull ∧
      r.refundAmountAtomic = some e.refundAmountAtomic ∧ r.releaseAmountAtomic = some (js "0") ∧
      ∀ locked ∈ r.lockedAmountAtomic, locked = [] ∨ e.refundAmountAtomic = locked := by
    intro resolution hres
    refine hstate.resolve_left ?_
    rintro ⟨hs, -⟩
    rw [(h.unsettled.decision (by rw [hs]; decide)).1] at hres
    cases hres
  refine ⟨{ hf with releaseAmountAtomic := ?_, refundAmountAtomic := ?_, refundTxId := forall_some hformat },
    ⟨fun hs => absurd (by decide) hs, fun hs => absurd (by decide) hs, fun hs => absurd (by decide) hs⟩,
    ⟨fun hs => absurd hs (by decide), ?_⟩, ⟨fun hs => absurd hs (by decide), nofun, nofun⟩,
    ⟨fun _ => ⟨rfl, rfl, ?_⟩, fun hs => absurd hs.1 (by decide)⟩⟩
  · rintro v ⟨⟩
    decide
  · rintro v ⟨⟩
    exact isNonNegativeAtomicString_of_positive hpositive
  · intro resolution hres
    obtain ⟨-, href, hrel, -⟩ := hamounts resolution hres
    exact (h.decision.amounts resolution hres).congr hrel.symm href.symm rfl
  · unfold RefundedAmount
    cases hres : r.refereeResolution with
    | none =>
      have hs : r.state = .noQualifiedBid ∧ e.refundAmountAtomic = r.maximumFreightBudgetAtomic := by
        refine hstate.resolve_right ?_
        rintro ⟨hdecided, -⟩
        exact absurd (hres.symm.trans hdecided.2) nofun
      have hunlocked := hauction.lock.unlocked (by rw [hs.1]; decide)
      exact ⟨hunlocked, by rw [hs.2]⟩
    | some resolution =>
      obtain ⟨hdecided, href, hrel, hlocked⟩ := hamounts resolution hres
      have htext : resolution = RefereeResolution.refundFull.text :=
        Option.some.inj (hres.symm.trans hdecided.2)
      obtain ⟨hlock, -⟩ := hauction.lock.locked (by rw [hdecided.1]; decide)
      obtain ⟨l, hl⟩ := Option.isSome_iff_exists.mp hlock
      have hne : l ≠ [] := by
        rintro rfl
        exact absurd (hauction.format.lockedAmountAtomic [] hl) (by decide)
      have hamount : e.refundAmountAtomic = l := (hlocked l hl).resolve_left hne
      exact ⟨htext, by rw [hl, hamount], rfl⟩

/-- The completed tender keeps its settlement. -/
theorem settlementPart_completed {r : LifecycleRecord}
    (h : SettlementPart r.state r.toTenderBinding r.toAuctionFields r.toPodFields r.toSettlementFields)
    (hstate : r.state = .paymentReleased ∨ r.state = .partialRelease ∨ r.state = .refunded) :
    SettlementPart .tenderCompleted r.toTenderBinding r.toAuctionFields r.toPodFields r.toSettlementFields := by
  refine ⟨h.format, ⟨fun hs => absurd (by decide) hs, fun hs => absurd (by decide) hs, fun hs => absurd (by decide) hs⟩,
    ⟨fun hs => absurd hs (by decide), h.decision.amounts⟩, ⟨fun hs => absurd hs (by decide), nofun, nofun⟩, ⟨nofun, ?_⟩⟩
  rintro ⟨-, hrelease, hrefund⟩
  rcases hstate with hs | hs | hs
  · have := (h.released.settled (.inl hs)).1
    rw [hrelease] at this
    cases this
  · have := (h.released.settled (.inr hs)).1
    rw [hrelease] at this
    cases this
  · have := (h.refunded.refunded hs).1
    rw [hrefund] at this
    cases this

end Settlement

/-! ## Every event -/

section Steps
variable {p : Platform} {t : JsString} {r next : LifecycleRecord} {event : LifecycleEvent}

/-- The parts of a record beyond its history. -/
structure Parts (t : JsString) (r : LifecycleRecord) : Prop where
  funding : FundingPart t r.state r.toTenderBinding r.toFundingFields r.processedActions
  auction : AuctionPart r.state r.toTenderBinding r.toAuctionFields
  pod : PodPart r.state r.toPodFields
  settlement : SettlementPart r.state r.toTenderBinding r.toAuctionFields r.toPodFields r.toSettlementFields

def specialTypes : List LifecycleEventType :=
  [.podCorrectionDeadlineExpired, .podReviewStarted, .podCorrectionRequested, .refereeResolutionRecorded]

/-- An event of any other type only needs its action id. -/
theorem persistable_iff_of_plain (type : LifecycleEventType) (htype : event.body.type = type)
    (hplain : type ∉ specialTypes) :
    Persistable r event ↔
      (event.actionId ∉ r.processedActions.keys ∧ event.actionId ≠ protoName) ∧ True := by
  have hne (special : LifecycleEventType) (hspecial : special ∈ specialTypes) : event.type ≠ special := by
    rintro rfl
    exact hplain (htype ▸ hspecial)
  constructor
  · exact fun h => ⟨⟨h.fresh, h.plain⟩, trivial⟩
  · rintro ⟨⟨hfresh, hproto⟩, -⟩
    refine ⟨hfresh, hproto, fun h => absurd h (hne _ (by decide)), ?_, ?_⟩
    · intro window hwindow
      have hreview := hne .podReviewStarted (by decide)
      have hcorrection := hne .podCorrectionRequested (by decide)
      unfold deadlineWindow at hwindow
      split at hwindow
      · next h => exact absurd h hreview
      · next h => exact absurd h hcorrection
      · cases hwindow
    · intro e he
      exact absurd (congrArg EventBody.type he) (hne .refereeResolutionRecorded (by decide))

/-- An event that sets a deadline. -/
theorem persistable_iff_of_deadline {window : Nat} (hwindow : deadlineWindow r.state event.type = some window) :
    Persistable r event ↔
      (event.actionId ∉ r.processedActions.keys ∧ event.actionId ≠ protoName) ∧
        ∀ x ∈ instant event.eventTime, x + window * 1000000000 < YEAR_10000 := by
  constructor
  · exact fun h => ⟨⟨h.fresh, h.plain⟩, h.deadline window hwindow⟩
  · rintro ⟨⟨hfresh, hproto⟩, hdeadline⟩
    refine ⟨hfresh, hproto, fun h => ?_, ?_, fun e he => ?_⟩
    · rw [h] at hwindow
      cases hwindow
    · intro window' hwindow'
      rw [hwindow] at hwindow'
      cases hwindow'
      exact hdeadline
    · rw [LifecycleEvent.type, he] at hwindow
      cases hwindow

/-- A step that advances the history and leaves parts that meet a condition of the event. -/
theorem Accepted.step_iff {C : Prop} {s : V2LifecycleState} {reason : Option JsString} (hp : p.HexDigest)
    (h : Accepted p t r) (hbook : Bookkeeping r) (hid : Text 128 event.actionId)
    (htime : NotAfter r.updatedAt event.eventTime) (hlen : r.history.length < MAX_HISTORY)
    (hbinding : next.toTenderBinding = r.toTenderBinding)
    (hprogress : next.toProgress = r.toProgress.advance p s event reason) (hreason : ∀ x ∈ reason, Text MAX_STRING x)
    (hC : Persistable r event ↔ (event.actionId ∉ r.processedActions.keys ∧ event.actionId ≠ protoName) ∧ C)
    (hparts : event.actionId ∉ r.processedActions.keys → event.actionId ≠ protoName → (C ↔ Parts t next)) :
    Accepted p t next ↔ Persistable r event := by
  have hcreated : next.createdAt = r.createdAt := congrArg TenderBinding.createdAt hbinding
  have hadvance : ProgressFormat t next.createdAt next.toProgress ↔
      event.actionId ∉ r.processedActions.keys ∧ event.actionId ≠ protoName := by
    rw [hprogress, hcreated]
    exact progress_advance_iff hp h.progress hbook.actions hid htime hlen hreason
  rw [hC]
  constructor
  · intro hnext
    obtain ⟨hfresh, hplain⟩ := hadvance.mp hnext.progress
    exact ⟨⟨hfresh, hplain⟩, (hparts hfresh hplain).mpr
      ⟨hnext.fundingPart, hnext.auctionPart, hnext.podPart, hnext.settlementPart⟩⟩
  · rintro ⟨⟨hfresh, hplain⟩, hc⟩
    obtain ⟨hfunding, hauction, hpod, hsettlement⟩ := (hparts hfresh hplain).mp hc
    exact h.of_parts hbinding (hadvance.mpr ⟨hfresh, hplain⟩) hfunding hauction hpod hsettlement

/-- **What the reducer makes of an accepted record is accepted exactly when the event is persistable.** -/
theorem accepted_iff_persistable {context : LifecycleReduceContext p} (hp : p.HexDigest) (h : Accepted p t r)
    (hbook : Bookkeeping r) (hformat : EventFormat event) (hlen : r.history.length < MAX_HISTORY)
    (hreduce : reduceLifecycle p r event context = .ok next) : Accepted p t next ↔ Persistable r event := by
  obtain ⟨hid, hutc, hbody⟩ := hformat
  obtain ⟨htime, -, hreduces⟩ := reduceLifecycle_ok hreduce
  have hproto := protoName_not_mem h.progress hbook.actions
  -- the parts an event leaves alone, at its target state
  have funding {s : V2LifecycleState} (hs : r.state = s) (s' : V2LifecycleState) (hkept : FundingKept s s')
      (hplain : event.actionId ≠ protoName) (action : ProcessedActionRecord) :
      FundingPart t s' r.toTenderBinding r.toFundingFields (r.processedActions.insert event.actionId action) :=
    h.fundingPart.move (hs ▸ hkept) hproto hplain action
  have auction {s : V2LifecycleState} (hs : r.state = s) (s' : V2LifecycleState) (hkept : AuctionKept s s') :
      AuctionPart s' r.toTenderBinding r.toAuctionFields := h.auctionPart.move (hs ▸ hkept)
  have pod {s : V2LifecycleState} (hs : r.state = s) (s' : V2LifecycleState) (hkept : PodKept s s') :
      PodPart s' r.toPodFields := h.podPart.move (hs ▸ hkept)
  have early {s : V2LifecycleState} (hs : r.state = s) (s' : V2LifecycleState)
      (hearly : s ∉ ALLOWS_SETTLEMENT ∧ s' ∉ ALLOWS_SETTLEMENT) {a : AuctionFields} {d : PodFields} :
      SettlementPart s' r.toTenderBinding a d r.toSettlementFields :=
    h.settlementPart.early (hs ▸ hearly.1) hearly.2
  have step {C : Prop} {s' : V2LifecycleState} {patched : LifecycleRecord}
      (hbinding : patched.toTenderBinding = r.toTenderBinding)
      (hC : Persistable r event ↔ (event.actionId ∉ r.processedActions.keys ∧ event.actionId ≠ protoName) ∧ C)
      (hparts : event.actionId ∉ r.processedActions.keys → event.actionId ≠ protoName →
        (C ↔ Parts t (moved p r s' event patched))) :
      Accepted p t (moved p r s' event patched) ↔ Persistable r event :=
    h.step_iff hp hbook hid htime hlen hbinding rfl nofun hC hparts
  -- an event that needs nothing but its action id
  have plain (type : LifecycleEventType) (htype : event.body.type = type) (hplain : type ∉ specialTypes)
      {s' : V2LifecycleState} {patched : LifecycleRecord} (hbinding : patched.toTenderBinding = r.toTenderBinding)
      (hparts : event.actionId ∉ r.processedActions.keys → event.actionId ≠ protoName →
        Parts t (moved p r s' event patched)) :
      Accepted p t (moved p r s' event patched) ↔ Persistable r event :=
    step hbinding (persistable_iff_of_plain type htype hplain) fun hf hn => iff_of_true trivial (hparts hf hn)
  generalize hb : event.body = b at hreduces
  rw [hb] at hbody
  cases hreduces with
  | escrowFundingConfirmed hs _ _ _ hamount =>
    refine plain .escrowFundingConfirmed (congrArg _ hb) (by decide) rfl fun hf hn => ?_
    exact ⟨fundingPart_funded (r := r) (hs ▸ h.fundingPart) hbody hamount, auction hs .escrowFunded (by decide),
      pod hs .escrowFunded (by decide), early hs .escrowFunded (by decide)⟩
  | tenderActivationPaid hs _ hpaid =>
    refine plain .tenderActivationPaid (congrArg _ hb) (by decide) rfl fun hf hn => ?_
    exact ⟨fundingPart_activated (hs ▸ h.fundingPart) hid hutc hbody hpaid, auction hs .tenderOpened (by decide),
      pod hs .tenderOpened (by decide), early hs .tenderOpened (by decide)⟩
  | bidSubmissionPaid hs _ hbid hpaid =>
    have hauth := sealedAuth_hashes hp hbid.sealed
    refine plain .bidSubmissionPaid (congrArg _ hb) (by decide) rfl fun hf hn => ?_
    have hfunding := fundingPart_bid h.fundingPart hbook hlen hs hid hutc hbody hauth hproto hf hn hbid hpaid
    rcases hs with hs | hs
    · exact ⟨hfunding _, auction hs .bidding (by decide), pod hs .bidding (by decide), early hs .bidding (by decide)⟩
    · exact ⟨hfunding _, auction hs .bidding (by decide), pod hs .bidding (by decide), early hs .bidding (by decide)⟩
  | biddingStarted hs =>
    refine plain .biddingStarted (congrArg _ hb) (by decide) rfl fun hf hn => ?_
    exact ⟨funding hs .bidding (by decide) hn _, auction hs .bidding (by decide), pod hs .bidding (by decide),
      early hs .bidding (by decide)⟩
  | auctionCloseConfirmed hs =>
    refine plain .auctionCloseConfirmed (congrArg _ hb) (by decide) rfl fun hf hn => ?_
    exact ⟨funding hs .auctionClosed (by decide) hn _, auctionPart_closed (hs ▸ h.auctionPart) hbody,
      pod hs .auctionClosed (by decide), early hs .auctionClosed (by decide)⟩
  | noQualifiedBidConfirmed hs =>
    refine plain .noQualifiedBidConfirmed (congrArg _ hb) (by decide) rfl fun hf hn => ?_
    exact ⟨funding hs .noQualifiedBid (by decide) hn _, auctionPart_noQualifiedBid (hs ▸ h.auctionPart) hbody,
      pod hs .noQualifiedBid (by decide), early hs .noQualifiedBid (by decide)⟩
  | winnerSelectionConfirmed hs _ _ _ hbudget hle =>
    refine plain .winnerSelectionConfirmed (congrArg _ hb) (by decide) rfl fun hf hn => ?_
    exact ⟨funding hs .winnerSelected (by decide) hn _, auctionPart_winner (hs ▸ h.auctionPart) hbody hbudget hle,
      pod hs .winnerSelected (by decide), early hs .winnerSelected (by decide)⟩
  | winningAmountAllocationConfirmed hs hamounts =>
    refine plain .winningAmountAllocationConfirmed (congrArg _ hb) (by decide) rfl fun hf hn => ?_
    exact ⟨funding hs .winningAmountLocked (by decide) hn _,
      auctionPart_locked (r := r) (hs ▸ h.auctionPart) hbody hamounts, pod hs .winningAmountLocked (by decide),
      early hs .winningAmountLocked (by decide)⟩
  | routeReservationPublished hs =>
    refine plain .routeReservationPublished (congrArg _ hb) (by decide) rfl fun hf hn => ?_
    exact ⟨funding hs .routeReserved (by decide) hn _, auctionPart_reserved (hs ▸ h.auctionPart) hbody,
      pod hs .routeReserved (by decide), early hs .routeReserved (by decide)⟩
  | transitStarted hs =>
    refine plain .transitStarted (congrArg _ hb) (by decide) rfl fun hf hn => ?_
    exact ⟨funding hs .inTransit (by decide) hn _, auction hs .inTransit (by decide), pod hs .inTransit (by decide),
      early hs .inTransit (by decide)⟩
  | deliveryReported hs =>
    refine plain .deliveryReported (congrArg _ hb) (by decide) rfl fun hf hn => ?_
    exact ⟨funding hs .deliveryReported (by decide) hn _, auction hs .deliveryReported (by decide),
      pod hs .deliveryReported (by decide), early hs .deliveryReported (by decide)⟩
  | podPackageSubmitted hs hpod =>
    refine plain .podPackageSubmitted (congrArg _ hb) (by decide) rfl fun hf hn => ?_
    exact ⟨funding hs .podSubmitted (by decide) hn _, auction hs .podSubmitted (by decide),
      podPart_submitted (hs ▸ h.podPart) hbody hpod.2.1, early hs .podSubmitted (by decide)⟩
  | @podReviewStarted window deadline hs hdeadline =>
    have htype : event.type = .podReviewStarted := by rw [LifecycleEvent.type, hb]; rfl
    have hwindow : deadlineWindow r.state event.type = some window := by
      rcases hs with ⟨hs, rfl⟩ | ⟨hs, rfl⟩ <;> rw [hs, htype] <;> rfl
    have hpositive : 0 < window := by
      rcases hs with ⟨-, rfl⟩ | ⟨-, rfl⟩ <;> decide
    have hpod := podPart_underReview h.podPart (hs.imp And.left And.left) hpositive hutc hdeadline
    refine step rfl (persistable_iff_of_deadline hwindow) fun hf hn => ?_
    rw [← deadline_format hutc hdeadline, ← hpod]
    refine ⟨fun hp => ?_, fun hparts => hparts.pod⟩
    rcases hs with ⟨hs, -⟩ | ⟨hs, -⟩
    · exact ⟨funding hs .podUnderReview (by decide) hn _, auction hs .podUnderReview (by decide), hp,
        early hs .podUnderReview (by decide)⟩
    · exact ⟨funding hs .podUnderReview (by decide) hn _, auction hs .podUnderReview (by decide), hp,
        early hs .podUnderReview (by decide)⟩
  | podCorrectionRequested hs _ _ hreviewed hdeadline =>
    have hauth := sealedAuth_hashes hp hreviewed.sealed
    have hwindow : deadlineWindow r.state event.type = some CORRECTION_WINDOW_SECONDS := by
      rw [LifecycleEvent.type, hb]
      rfl
    refine step rfl (persistable_iff_of_deadline hwindow) fun hf hn => ?_
    rw [← deadline_format hutc hdeadline, ← podPart_correctionRequested (hs ▸ h.podPart) hauth]
    refine ⟨fun hp => ?_, fun hparts => hparts.pod⟩
    exact ⟨funding hs .podCorrectionRequested (by decide) hn _, auction hs .podCorrectionRequested (by decide), hp,
      early hs .podCorrectionRequested (by decide)⟩
  | @podPackageResubmitted e _ hs _ _ _ _ hversion =>
    have hbound : 1 ≤ e.podVersion ∧ e.podVersion ≤ MAX_SAFE_INTEGER := by
      have hmax : (MAX_HISTORY : Int) + 2 ≤ MAX_SAFE_INTEGER := by decide
      rw [hversion]
      cases hv : r.podVersion with
      | none => exact ⟨by decide, by decide⟩
      | some v =>
        have := hbook.podVersion v hv
        simp only [Option.getD_some]
        omega
    refine plain .podPackageResubmitted (congrArg _ hb) (by decide) rfl fun hf hn => ?_
    exact ⟨funding hs .podResubmitted (by decide) hn _, auction hs .podResubmitted (by decide),
      podPart_resubmitted (hs ▸ h.podPart) hbody hbound, early hs .podResubmitted (by decide)⟩
  | podAcceptedByShipper hs _ hreviewed =>
    have hauth := sealedAuth_hashes hp hreviewed.sealed
    refine plain .podAcceptedByShipper (congrArg _ hb) (by decide) rfl fun hf hn => ?_
    exact ⟨funding hs .podAccepted (by decide) hn _, auction hs .podAccepted (by decide),
      podPart_accepted (hs ▸ h.podPart) hauth, early hs .podAccepted (by decide)⟩
  | podReviewDeadlineExpired hs =>
    refine plain .podReviewDeadlineExpired (congrArg _ hb) (by decide) rfl fun hf hn => ?_
    exact ⟨funding hs .podDeemedAccepted (by decide) hn _, auction hs .podDeemedAccepted (by decide),
      pod hs .podDeemedAccepted (by decide), early hs .podDeemedAccepted (by decide)⟩
  | podCorrectionDeadlineExpired hs =>
    have htype : event.type = .podCorrectionDeadlineExpired := by rw [LifecycleEvent.type, hb]; rfl
    have hC : Persistable r event ↔ (event.actionId ∉ r.processedActions.keys ∧ event.actionId ≠ protoName) ∧
        Text 128 (js "dispute-timeout-" ++ event.actionId) := by
      have hlength : (js "dispute-timeout-" ++ event.actionId).length = 16 + event.actionId.length := by
        rw [List.length_append]
        rfl
      constructor
      · intro hpers
        have := hpers.dispute htype
        exact ⟨⟨hpers.fresh, hpers.plain⟩, List.append_ne_nil_of_left_ne_nil (by decide) _, by omega⟩
      · rintro ⟨⟨hf, hn⟩, -, hle⟩
        refine ⟨hf, hn, fun _ => by omega, ?_, fun e he => ?_⟩
        · rw [htype]
          exact nofun
        · rw [hb] at he
          cases he
    refine step rfl hC fun hf hn => ?_
    rw [← podPart_timedOut (hs ▸ h.podPart)]
    refine ⟨fun hp => ?_, fun hparts => hparts.pod⟩
    exact ⟨funding hs .podDisputed (by decide) hn _, auction hs .podDisputed (by decide), hp,
      early hs .podDisputed (by decide)⟩
  | podRejectedToDispute hs _ _ _ hreviewed =>
    have hauth := sealedAuth_hashes hp hreviewed.sealed
    refine plain .podRejectedToDispute (congrArg _ hb) (by decide) rfl fun hf hn => ?_
    exact ⟨funding hs .podDisputed (by decide) hn _, auction hs .podDisputed (by decide),
      podPart_rejected (hs ▸ h.podPart) hbody hauth, early hs .podDisputed (by decide)⟩
  | @refereeResolutionRecorded e _ hs hresolves =>
    have hauth := sealedAuth_hashes hp hresolves.sealed
    have hlock := (h.lock.locked (by rw [hs]; decide)).1
    have htype : event.type = .refereeResolutionRecorded := by rw [LifecycleEvent.type, hb]; rfl
    have hC : Persistable r event ↔ (event.actionId ∉ r.processedActions.keys ∧ event.actionId ≠ protoName) ∧
        ∃ referee ∈ r.trust.referees, referee.refereeId = e.refereeId := by
      constructor
      · exact fun hpers => ⟨⟨hpers.fresh, hpers.plain⟩, hpers.referee e hb⟩
      · rintro ⟨⟨hf, hn⟩, hreferee⟩
        refine ⟨hf, hn, fun hty => ?_, ?_, fun e' he => ?_⟩
        · rw [htype] at hty
          cases hty
        · rw [htype]
          exact nofun
        · rw [hb] at he
          cases he
          exact hreferee
    have hsettlement := settlementPart_decided (hs ▸ h.settlementPart) hlock hbody hauth hresolves
    refine step rfl hC fun hf hn => ?_
    rw [← hsettlement]
    refine ⟨fun hx => ?_, fun hparts => hparts.settlement⟩
    exact ⟨funding hs .refereeDecision (by decide) hn _, auction hs .refereeDecision (by decide),
      podPart_decided (hs ▸ h.podPart) hbody.1, hx⟩
  | escrowReleaseConfirmed hs _ hpositive hlocked hdecision =>
    have hlock (hs : r.state ∈ REQUIRES_LOCK) := (h.lock.locked hs).1
    refine plain .escrowReleaseConfirmed (congrArg _ hb) (by decide) rfl fun hf hn => ?_
    rcases id hs with hs' | hs' | ⟨hs', -⟩
    all_goals
      have hx := settlementPart_released h.settlementPart (hlock (by rw [hs']; decide)) hbody hs hpositive hlocked
        hdecision
      exact ⟨funding hs' .paymentReleased (by decide) hn _, auction hs' .paymentReleased (by decide),
        pod hs' .paymentReleased (by decide), hx⟩
  | escrowPartialReleaseConfirmed hs hrelease hrefund hconserved =>
    have hlock := (h.lock.locked (by rw [hs.1]; decide)).1
    refine plain .escrowPartialReleaseConfirmed (congrArg _ hb) (by decide) rfl fun hf hn => ?_
    exact ⟨funding hs.1 .partialRelease (by decide) hn _, auction hs.1 .partialRelease (by decide),
      pod hs.1 .partialRelease (by decide),
      settlementPart_split (r := r) h.settlementPart hlock hbody hs hrelease hrefund hconserved⟩
  | escrowRefundConfirmed hs _ hpositive =>
    refine plain .escrowRefundConfirmed (congrArg _ hb) (by decide) rfl fun hf hn => ?_
    have hx := settlementPart_refunded h.settlementPart h.auctionPart hbody hs hpositive
    rcases id hs with ⟨hs', -⟩ | ⟨⟨hs', -⟩, -⟩
    · exact ⟨funding hs' .refunded (by decide) hn _, auction hs' .refunded (by decide), pod hs' .refunded (by decide), hx⟩
    · exact ⟨funding hs' .refunded (by decide) hn _, auction hs' .refunded (by decide), pod hs' .refunded (by decide), hx⟩
  | tenderCompletionConfirmed hs =>
    refine plain .tenderCompletionConfirmed (congrArg _ hb) (by decide) rfl fun hf hn => ?_
    have hx := settlementPart_completed h.settlementPart hs
    rcases hs with hs' | hs' | hs'
    all_goals
      exact ⟨funding hs' .tenderCompleted (by decide) hn _, auction hs' .tenderCompleted (by decide),
        pod hs' .tenderCompleted (by decide), hx⟩
  | podAdvisoryAnchored _ _ =>
    have hx := h.settlementPart
    refine h.step_iff hp hbook hid htime hlen rfl rfl ?_
      (persistable_iff_of_plain .podAdvisoryAnchored (congrArg _ hb) (by decide)) fun hf hn => iff_of_true trivial ?_
    · rintro reason ⟨⟩
      decide
    · exact ⟨h.fundingPart.move ⟨Iff.rfl, Iff.rfl, id⟩ hproto hn _, h.auctionPart, podPart_advised h.podPart hbody,
        hx.format, hx.unsettled, ⟨hx.decision.recorded, hx.decision.amounts⟩, hx.released, hx.refunded⟩

end Steps

end RouteGuard.Store
