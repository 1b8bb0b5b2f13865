import RouteGuard.Reservation.RecordSchema

/-!
# What the validator accepts

The check of a record says two things: its parts are well formed and bound to each other, whatever the state, and the
state has the parts it requires.

* `Shaped` : the first, part by part;
* `Meets` : the second, with `Meets.weaken` for a state that requires no more than another;
* `valid_iff_shaped` : a record is valid exactly if it is both.
-/

namespace RouteGuard.Reservation
open JsString Guarded Lifecycle Store ReservationState

/-! ## Parts -/

/-- The record as it was created: what no commit changes. -/
def ReservationRecord.origin (r : ReservationRecord) : ReservationRecord :=
  { r with
    recordVersion := 1, state := offerCreated, selected := none, attemptNumber := 0, paymentChallenge := none
    paymentChallengeHash := none, paymentPayloadHash := none, clientTransaction := none, facilitatorVerify := none
    settleClaim := none, facilitatorSettle := none, transactionId := none, mirrorConfirmation := none
    mirrorPoll := none, confirmationDeadline := none, routeReserved := none, webhookEvents := [], webhooks := []
    hcsPublicationClaim := none, hcsEvidence := none, history := [], updatedAt := r.createdAt, failureCode := none
    failureReason := none }

/-- The identity, the offer and the fingerprint of a record. -/
def Originated (c : Crypto) (r : ReservationRecord) : Prop :=
  checkIdentity r.reservationId r = .ok () ∧ checkOffer c r = .ok ()

/-- A transaction reference names the transaction of the record, where there is one. -/
structure Referenced (transactionId : Option JsString) (id validStart : JsString) (duration : Int) : Prop where
  sdk : (matchSdkTxId id).isSome
  start : isUtcIsoTimestamp validStart
  short : 1 ≤ duration ∧ duration ≤ 180
  own : truthy transactionId → normalizeTxIdForm (transactionId.getD []) = normalizeTxIdForm id

theorem checkReference_eq_ok {name : String} {transactionId : Option JsString} {id validStart : JsString}
    {duration : Int} {u : Unit} :
    checkReference name transactionId id validStart duration = .ok u ↔
      Referenced transactionId id validStart duration := by
  simp only [checkReference, check_eq_ok, require_eq_ok]
  constructor
  · intro h
    exact ⟨h.1, h.2.1, h.2.2.1, h.2.2.2⟩
  · intro h
    exact ⟨h.sdk, h.start, h.short, h.own⟩

/-- A settle claim binds the selection, the payload, the challenge and the transaction of its record. -/
structure ClaimBinds (reservationId : JsString) (payloadHash challengeHash : Option JsString) (attemptNumber : Nat)
    (transactionId : Option JsString) (client : Option ClientTransactionRef) (version : Nat)
    (selected : SelectedPaymentOption) (claim : SettleClaim) : Prop where
  hashes : truthy payloadHash ∧ truthy challengeHash
  reservation : claim.reservationId = reservationId
  option : claim.selectedOptionId = selected.optionId
  payment : claim.asset = selected.asset ∧ claim.amountAtomic = selected.amountAtomic ∧
    claim.payerAccount = selected.payerAccount ∧ claim.payTo = selected.payTo ∧ claim.network = RESERVATION_NETWORK
  challenge : some claim.challengeHash = challengeHash
  payload : some claim.paymentPayloadHash = payloadHash
  attempt : claim.attemptNumber = attemptNumber
  reference : Referenced transactionId claim.transactionId claim.validStartTimestamp
    claim.transactionValidDurationSeconds
  client : ∀ t ∈ client, normalizeTxIdForm t.transactionId = normalizeTxIdForm claim.transactionId
  time : isUtcIsoTimestamp claim.claimedAt
  safe : 1 ≤ (claim.recordVersion : Int) ∧ (claim.recordVersion : Int) ≤ MAX_SAFE_INTEGER
  version : claim.recordVersion ≤ version

theorem checkClaim_eq_ok {r : ReservationRecord} {claim : SettleClaim} {u : Unit} :
    checkClaim r claim = .ok u ↔ ∃ selected ∈ r.selected, ClaimBinds r.reservationId r.paymentPayloadHash
      r.paymentChallengeHash r.attemptNumber r.transactionId r.clientTransaction r.recordVersion selected claim := by
  unfold checkClaim
  cases r.selected with
  | none => simp
  | some selected =>
    simp only [check_eq_ok, binding, require_eq_ok, checkReference_eq_ok, nullable_eq_ok, assertUtc, assertSafeInt,
      Option.mem_def, Option.some.injEq, exists_eq_left']
    constructor
    · rintro ⟨h1, h2, h3, h4, h5, h6, h7, h8, h9, h10, h11, h12⟩
      exact ⟨h1, h2, h3, h4, h5, h6, h7, h8, h9, h10, h11, h12⟩
    · rintro ⟨h1, h2, h3, h4, h5, h6, h7, h8, h9, h10, h11, h12⟩
      exact ⟨h1, h2, h3, h4, h5, h6, h7, h8, h9, h10, h11, h12⟩

/-- A poll is about the transaction of its record, within the window of the record. -/
structure PollBinds (poll : MirrorPollRecord) (transactionId : JsString) (deadline : Option JsString) : Prop where
  started : isUtcIsoTimestamp poll.confirmationStartedAt
  due : isUtcIsoTimestamp poll.confirmationDeadline
  window : isBeforeUtc poll.confirmationStartedAt poll.confirmationDeadline
  deadline : truthy deadline → deadline = some poll.confirmationDeadline
  count : (poll.pollAttemptCount : Int) ≤ MAX_SAFE_INTEGER
  last : ∀ t ∈ poll.lastPollAt, isUtcIsoTimestamp t
  transaction : poll.transactionId = transactionId
  error : ∀ e ∈ poll.lastMirrorError, e.length ≤ 1000
  code : ∀ e ∈ poll.lastMirrorErrorCode, e.length ≤ 128
  consensus : ∀ t ∈ poll.consensusTimestamp, isUtcIsoTimestamp t

theorem validateMirrorPoll_eq_ok {poll : MirrorPollRecord} {transactionId : JsString} {deadline : Option JsString}
    {u : Unit} :
    validateMirrorPoll poll transactionId deadline = .ok u ↔ PollBinds poll transactionId deadline := by
  simp only [validateMirrorPoll, check_eq_ok, binding, require_eq_ok, nullable_eq_ok, assertUtc, assertSafeInt]
  constructor
  · rintro ⟨h1, h2, h3, h4, h5, h6, h7, h8, h9, h10⟩
    exact ⟨h1, h2, h3, h4, h5.2, h6, h7, h8, h9, h10⟩
  · rintro ⟨h1, h2, h3, h4, h5, h6, h7, h8, h9, h10⟩
    exact ⟨h1, h2, h3, h4, ⟨Int.natCast_nonneg _, h5⟩, h6, h7, h8, h9, h10⟩

/-- A successful answer of the facilitator belongs to the transaction and to the selection. -/
structure SettleBinds (transactionId : Option JsString) (selected : Option SelectedPaymentOption)
    (settle : FacilitatorSettleResult) : Prop where
  transaction : settle.success → ∀ id ∈ settle.transactionId,
    normalizeTxIdForm id = normalizeTxIdForm (transactionId.getD [])
  network : ∀ s ∈ selected, settle.success → settle.network = s.network
  payer : ∀ s ∈ selected, settle.success → settle.payerAccountId = s.payerAccount

theorem checkSettleResult_eq_ok {r : ReservationRecord} {settle : FacilitatorSettleResult} {u : Unit} :
    checkSettleResult r settle = .ok u ↔ SettleBinds r.transactionId r.selected settle := by
  simp only [checkSettleResult, check_eq_ok, binding, require_eq_ok, nullable_eq_ok]
  constructor
  · rintro ⟨h1, h2⟩
    exact ⟨h1, fun s hs => (h2 s hs).1, fun s hs => (h2 s hs).2⟩
  · rintro ⟨h1, h2, h3⟩
    exact ⟨h1, fun s hs => ⟨h2 s hs, h3 s hs⟩⟩

/-- A confirmation is a success of the transaction, and the verified transfer is the selected one. -/
structure MirrorBinds (transactionId : Option JsString) (selected : Option SelectedPaymentOption)
    (poll : Option MirrorPollRecord) (m : MirrorConfirmation) : Prop where
  status : m.status = .success
  result : truthy m.result → m.result = some (js "SUCCESS")
  transaction : some m.transactionId = transactionId
  consensus : isUtcIsoTimestamp (m.consensusTimestamp.getD [])
  transfer : ∀ p ∈ poll, ∀ v ∈ p.verifiedTransfer, ∀ s ∈ selected,
    v = ⟨s.optionId, s.asset, s.amountAtomic, s.payerAccount, s.payTo⟩

theorem checkMirrorSuccess_eq_ok {r : ReservationRecord} {u : Unit} :
    checkMirrorSuccess r = .ok u ↔
      ∃ m ∈ r.mirrorConfirmation, MirrorBinds r.transactionId r.selected r.mirrorPoll m := by
  unfold checkMirrorSuccess
  cases r.mirrorConfirmation with
  | none => simp
  | some m =>
    simp only [check_eq_ok, binding, require_eq_ok, nullable_eq_ok, assertUtc, Option.mem_def, Option.some.injEq,
      exists_eq_left']
    constructor
    · rintro ⟨h1, h2, h3, h4, h5⟩
      exact ⟨h1, h2, h3, h4, h5⟩
    · rintro ⟨h1, h2, h3, h4, h5⟩
      exact ⟨h1, h2, h3, h4, h5⟩

/-! ## The two halves -/

section Halves
variable (c : Crypto)

/-- The parts of a record are well formed and bound to each other. -/
structure Shaped (r : ReservationRecord) : Prop where
  origin : Originated c r.origin
  version : 1 ≤ (r.recordVersion : Int) ∧ (r.recordVersion : Int) ≤ MAX_SAFE_INTEGER
  attempt : (r.attemptNumber : Int) ≤ MAX_SAFE_INTEGER
  updated : isUtcIsoTimestamp r.updatedAt ∧ ¬ isAfterUtc r.createdAt r.updatedAt
  selection : ∀ s ∈ r.selected, checkSelection r.reservationId r.offer s = .ok ()
  challenge : ∀ ch ∈ r.paymentChallenge, ∃ s ∈ r.selected,
    validateChallengeRecord c ch s r.paymentChallengeHash = .ok ()
  unchallenged : r.paymentChallenge = none → ¬ truthy r.paymentChallengeHash
  payload : truthy r.paymentPayloadHash → isSha256 (r.paymentPayloadHash.getD [])
  client : ∀ t ∈ r.clientTransaction, Referenced r.transactionId t.transactionId t.validStartTimestamp
    t.transactionValidDurationSeconds
  claim : ∀ claim ∈ r.settleClaim, ∃ s ∈ r.selected, ClaimBinds r.reservationId r.paymentPayloadHash
    r.paymentChallengeHash r.attemptNumber r.transactionId r.clientTransaction r.recordVersion s claim
  poll : ∀ poll ∈ r.mirrorPoll, PollBinds poll (r.transactionId.getD poll.transactionId) r.confirmationDeadline
  due : truthy r.confirmationDeadline → isUtcIsoTimestamp (r.confirmationDeadline.getD [])
  route : ∀ rr ∈ r.routeReserved, checkRoute c r rr = .ok ()
  outboxed : r.webhookEvents ≠ [] ∨ r.webhooks ≠ [] → r.routeReserved.isSome
  events : eachAfter (checkWebhookEvent c r.reservationId r.routeReserved) [] r.webhookEvents = .ok ()
  deliveries : each (checkDelivery r.webhookEvents) r.webhooks = .ok ()
  hcs : checkHcs c r = .ok ()
  reason : ∀ reason ∈ r.failureReason, reason.length ≤ 2000

end Halves

/-- The state of a record has the parts it requires. -/
structure Meets (s : ReservationState) (r : ReservationRecord) : Prop where
  selected : s ∈ REQUIRES_SELECTED → r.selected.isSome
  challenged : s ∈ REQUIRES_CHALLENGE → r.paymentChallenge.isSome ∧ truthy r.paymentChallengeHash
  submitted : s ∈ REQUIRES_PAYLOAD → truthy r.paymentPayloadHash ∧ r.attemptNumber = 1 ∧ r.clientTransaction.isSome
  verified : s ∈ REQUIRES_VERIFY_OK → r.facilitatorVerify.any FacilitatorVerifyResult.isValid
  claimed : s ∈ REQUIRES_SETTLE_CLAIM → r.settleClaim.isSome
  paid : s ∈ REQUIRES_SETTLED_TX → truthy r.transactionId ∧
    (∀ settle ∈ r.facilitatorSettle, SettleBinds r.transactionId r.selected settle)
  settled : s = facilitatorSettled → r.facilitatorSettle.any FacilitatorSettleResult.success
  polled : s ∈ REQUIRES_MIRROR_POLL → truthy r.confirmationDeadline ∧ r.mirrorPoll.isSome
  confirmed : s ∈ REQUIRES_MIRROR_SUCCESS →
    ∃ m ∈ r.mirrorConfirmation, MirrorBinds r.transactionId r.selected r.mirrorPoll m
  reserved : r.routeReserved.isSome ↔ s ∈ POST_RESERVATION_STATES

/-- All requirements of the target hold at the source. -/
def RequiresNoMore (s t : ReservationState) : Prop :=
  (t ∈ REQUIRES_SELECTED → s ∈ REQUIRES_SELECTED) ∧ (t ∈ REQUIRES_CHALLENGE → s ∈ REQUIRES_CHALLENGE) ∧
  (t ∈ REQUIRES_PAYLOAD → s ∈ REQUIRES_PAYLOAD) ∧ (t ∈ REQUIRES_VERIFY_OK → s ∈ REQUIRES_VERIFY_OK) ∧
  (t ∈ REQUIRES_SETTLE_CLAIM → s ∈ REQUIRES_SETTLE_CLAIM) ∧ (t ∈ REQUIRES_SETTLED_TX → s ∈ REQUIRES_SETTLED_TX) ∧
  (t = facilitatorSettled → s = facilitatorSettled) ∧ (t ∈ REQUIRES_MIRROR_POLL → s ∈ REQUIRES_MIRROR_POLL) ∧
  (t ∈ REQUIRES_MIRROR_SUCCESS → s ∈ REQUIRES_MIRROR_SUCCESS) ∧
  (s ∈ POST_RESERVATION_STATES ↔ t ∈ POST_RESERVATION_STATES)

instance (s t : ReservationState) : Decidable (RequiresNoMore s t) := by
  unfold RequiresNoMore
  infer_instance

theorem Meets.weaken {s t : ReservationState} {r : ReservationRecord} (h : Meets s r) (hst : RequiresNoMore s t) :
    Meets t r := by
  obtain ⟨h1, h2, h3, h4, h5, h6, h7, h8, h9, h10⟩ := hst
  exact ⟨fun ht => h.selected (h1 ht), fun ht => h.challenged (h2 ht), fun ht => h.submitted (h3 ht),
    fun ht => h.verified (h4 ht), fun ht => h.claimed (h5 ht), fun ht => h.paid (h6 ht), fun ht => h.settled (h7 ht),
    fun ht => h.polled (h8 ht), fun ht => h.confirmed (h9 ht), h.reserved.trans h10⟩

section Accepted
variable {c : Crypto} {r : ReservationRecord}

theorem checkIdentity_eq_ok {u : Unit} :
    checkIdentity r.reservationId r = .ok u ↔
      checkIdentity r.reservationId r.origin = .ok () ∧
        (1 ≤ (r.recordVersion : Int) ∧ (r.recordVersion : Int) ≤ MAX_SAFE_INTEGER) ∧
        (r.attemptNumber : Int) ≤ MAX_SAFE_INTEGER ∧
        isUtcIsoTimestamp r.updatedAt ∧ ¬ isAfterUtc r.createdAt r.updatedAt := by
  have hself : isAfterUtc r.createdAt r.createdAt = false := by
    unfold isAfterUtc
    cases hc : compareUtc r.createdAt r.createdAt with
    | error e => rfl
    | ok order =>
      obtain ⟨x, y, hx, hy, rfl⟩ := compareUtc_eq_ok.mp hc
      rw [hx] at hy
      cases hy
      simp [Except.toOption]
  have hone : ((1 : Nat) : Int) ≤ MAX_SAFE_INTEGER := by decide
  simp only [checkIdentity, check_eq_ok, binding, require_eq_ok, assertSafeReservationId, assertSafeInt, assertHash,
    assertUtc, assertAccount]
  simp only [ReservationRecord.origin, hself]
  constructor
  · rintro ⟨h1, h2, h3, h4, h5, h6, h7, h8, h9, h10, h11, h12, h13, h14, h15, h16, h17, h18, h19, h20, h21, h22, h23, h24⟩
    exact ⟨⟨h1, h2, ⟨le_refl _, hone⟩, h4, h5, ⟨le_refl _, Int.natCast_nonneg _⟩, h7, h8, h9, h10, h11, h12, h13, h14,
      h15, h16, h17, h18, h19, h19, h21, Bool.false_ne_true, h23, h24⟩, h3, h6.2, h20, h22⟩
  · rintro ⟨⟨h1, h2, -, h4, h5, -, h7, h8, h9, h10, h11, h12, h13, h14, h15, h16, h17, h18, h19, -, h21, -, h23, h24⟩,
      h3, h6, h20, h22⟩
    exact ⟨h1, h2, h3, h4, h5, ⟨Int.natCast_nonneg _, h6⟩, h7, h8, h9, h10, h11, h12, h13, h14, h15, h16, h17, h18, h19,
      h20, h21, h22, h23, h24⟩

theorem checkChallenge_eq_ok {u : Unit} :
    checkChallenge c r = .ok u ↔
      (r.state ∈ REQUIRES_CHALLENGE → r.paymentChallenge.isSome ∧ truthy r.paymentChallengeHash) ∧
        (∀ ch ∈ r.paymentChallenge, ∃ s ∈ r.selected,
          validateChallengeRecord c ch s r.paymentChallengeHash = .ok ()) ∧
        (r.paymentChallenge = none → ¬ truthy r.paymentChallengeHash) := by
  unfold checkChallenge
  cases r.paymentChallenge with
  | none => simp [check_eq_ok, requirePart, binding]
  | some ch => cases r.selected <;> simp [check_eq_ok, requirePart]

/-- **The validator, in two halves.** -/
theorem valid_iff_shaped : Valid c r ↔ Shaped c r ∧ Meets r.state r := by
  have htimed : confirmationTimedOut ∈ REQUIRES_SELECTED ∧ confirmationTimedOut ∈ REQUIRES_SETTLED_TX := by decide
  have hpolled : ∀ s ∈ REQUIRES_MIRROR_POLL, s ∈ REQUIRES_SETTLED_TX := by decide
  have hclaimed : ∀ s ∈ REQUIRES_SETTLED_TX, s ∈ REQUIRES_SETTLE_CLAIM := by decide
  have hunreserved : ∀ s ∈ [settlementFailed, confirmationTimedOut, confirmationFailed],
      s ∉ POST_RESERVATION_STATES := by decide
  rw [valid_iff]
  constructor
  · intro h
    obtain ⟨horigin, hversion, hattempt, hupdated⟩ := checkIdentity_eq_ok.mp h.identity
    have hselected := h.selected
    obtain ⟨hchallenged, hchallenge, hunchallenged⟩ := checkChallenge_eq_ok.mp h.challenge
    have hpayload := h.payload
    have hclient := h.clientTransaction
    have hclaim := h.settleClaim
    have hsettlement := h.settlement
    have hmirror := h.mirror
    have hfree := h.unreserved
    have hwebhooks := h.webhooks
    have hverify := h.verify
    simp only [checkSelected, check_eq_ok, requirePart, require_eq_ok, nullable_eq_ok] at hselected
    simp only [checkPayload, check_eq_ok, requirePart, require_eq_ok, binding, provided_eq_ok, assertHash] at hpayload
    simp only [checkClientTransaction, check_eq_ok, requirePart, require_eq_ok, nullable_eq_ok,
      checkReference_eq_ok] at hclient
    simp only [checkSettleClaim, check_eq_ok, requirePart, require_eq_ok, nullable_eq_ok, checkClaim_eq_ok] at hclaim
    simp only [checkSettlement, check_eq_ok, requirePart, require_eq_ok, binding, provided_eq_ok, nullable_eq_ok,
      checkSettleResult_eq_ok, List.mem_singleton] at hsettlement
    simp only [checkMirror, check_eq_ok, requirePart, require_eq_ok, provided_eq_ok, nullable_eq_ok,
      validateMirrorPoll_eq_ok, assertUtc] at hmirror
    simp only [checkUnreserved, check_eq_ok, requirePart, require_eq_ok, binding] at hfree
    simp only [checkWebhooks, check_eq_ok, require_eq_ok, binding] at hwebhooks
    simp only [checkVerify, requirePart, require_eq_ok] at hverify
    refine ⟨?_, ?_⟩
    · exact ⟨⟨horigin, h.offer⟩, hversion, hattempt, hupdated, hselected.2, hchallenge, hunchallenged, hpayload.2.1,
        hclient.2, hclaim.2, hmirror.2.2.2.1, hmirror.2.2.2.2, h.route, hwebhooks.1, hwebhooks.2.1, hwebhooks.2.2, h.hcs,
        h.reason⟩
    · refine ⟨hselected.1, hchallenged, fun hs => ⟨hpayload.1 hs, hpayload.2.2 hs, hclient.1 hs⟩, hverify, hclaim.1,
        fun hs => ⟨hsettlement.1 hs, hsettlement.2.2.1 hs⟩, hsettlement.2.1, fun hs => ⟨hmirror.2.1 hs, hmirror.2.2.1 hs⟩,
        fun hs => checkMirrorSuccess_eq_ok.mp (h.mirrorSuccess hs), ?_⟩
      exact Valid.reserved_iff (valid_iff.mpr h)
  · rintro ⟨h, hm⟩
    have hnone (hs : r.state ∉ POST_RESERVATION_STATES) : r.routeReserved = none := by
      by_contra hne
      exact hs (hm.reserved.mp (Option.isSome_iff_ne_none.mpr hne))
    have hfailed {t : ReservationState} (ht : t ∈ [settlementFailed, confirmationTimedOut, confirmationFailed])
        (hs : r.state = t) : r.routeReserved = none := hnone (by rw [hs]; exact hunreserved t ht)
    refine ⟨checkIdentity_eq_ok.mpr ⟨h.origin.1, h.version, h.attempt, h.updated⟩, h.origin.2, ?_,
      checkChallenge_eq_ok.mpr ⟨hm.challenged, h.challenge, h.unchallenged⟩, ?_, ?_, ?_, ?_, ?_, ?_,
      fun hs => checkMirrorSuccess_eq_ok.mpr (hm.confirmed hs), ?_, h.route, ?_, h.hcs, h.reason⟩
    · simp only [checkSelected, check_eq_ok, requirePart, require_eq_ok, nullable_eq_ok]
      exact ⟨hm.selected, h.selection⟩
    · simp only [checkPayload, check_eq_ok, requirePart, require_eq_ok, binding, provided_eq_ok, assertHash]
      exact ⟨fun hs => (hm.submitted hs).1, h.payload, fun hs => (hm.submitted hs).2.1⟩
    · simp only [checkClientTransaction, check_eq_ok, requirePart, require_eq_ok, nullable_eq_ok, checkReference_eq_ok]
      exact ⟨fun hs => (hm.submitted hs).2.2, h.client⟩
    · simp only [checkVerify, requirePart, require_eq_ok]
      exact hm.verified
    · simp only [checkSettleClaim, check_eq_ok, requirePart, require_eq_ok, nullable_eq_ok, checkClaim_eq_ok]
      exact ⟨hm.claimed, h.claim⟩
    · simp only [checkSettlement, check_eq_ok, requirePart, require_eq_ok, binding, provided_eq_ok, nullable_eq_ok,
        checkSettleResult_eq_ok, List.mem_singleton]
      refine ⟨fun hs => (hm.paid hs).1, hm.settled, fun hs => (hm.paid hs).2, ?_, ?_⟩
      · intro hs
        rw [hm.claimed (hclaimed _ hs), Bool.or_true]
      · rintro ⟨hs, hsome⟩
        rw [hfailed (by decide) hs] at hsome
        cases hsome
    · simp only [checkMirror, check_eq_ok, requirePart, require_eq_ok, provided_eq_ok, nullable_eq_ok,
        validateMirrorPoll_eq_ok, assertUtc]
      exact ⟨fun hs => (hm.paid (hpolled _ hs)).1, fun hs => (hm.polled hs).1, fun hs => (hm.polled hs).2, h.poll, h.due⟩
    · simp only [checkUnreserved, check_eq_ok, requirePart, require_eq_ok, binding]
      refine ⟨hfailed (by decide), ?_, ?_, hfailed (by decide), hm.reserved.mpr, hnone⟩
      · intro hs
        exact hm.selected (by rw [hs]; exact htimed.1)
      · intro hs
        exact (hm.paid (by rw [hs]; exact htimed.2)).1
    · simp only [checkWebhooks, check_eq_ok, require_eq_ok, binding]
      exact ⟨h.outboxed, h.events, h.deliveries⟩

end Accepted

end RouteGuard.Reservation
