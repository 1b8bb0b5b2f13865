import RouteGuard.Reservation.Versions

/-!
# What a commit leaves alone

The life of a record has three phases: the submission of its payment, its confirmation, and the outbox after the
reservation. A commit belongs to one phase and leaves the parts of the others as they are.

* `Submits`, `Confirms`, `Notifies` : what the commits of a phase may change, and from which states;
* `Change.phase` : every commit is of one of the three kinds;
* `SettledSince` : from the settled payment on, the payment stays as it is.
-/

namespace RouteGuard.Reservation
open JsString Guarded ReservationState

/-- The states before a settled payment, and those in which an attempt ended. -/
def SUBMISSION_STATES : List ReservationState :=
  [offerCreated, optionSelected, paymentChallengeIssued, paymentSubmissionStarted, facilitatorVerified,
   facilitatorSettleClaimed, paymentRejected, settlementFailed, expired, manualReviewRequired]

def CONFIRMING_STATES : List ReservationState :=
  [facilitatorSettled, mirrorConfirmationPending, confirmationTimedOut, confirmationFailed, paymentConfirmed]

/-- A commit of the submission: the identity, the reserved route and the outbox stay. -/
structure Submits (cur next : ReservationRecord) : Prop where
  source : cur.state ∈ SUBMISSION_STATES
  target : next.state ∈ facilitatorSettled :: mirrorConfirmationPending :: SUBMISSION_STATES
  rest : next = { cur with
    state := next.state, history := next.history, updatedAt := next.updatedAt, selected := next.selected
    attemptNumber := next.attemptNumber, paymentChallenge := next.paymentChallenge
    paymentChallengeHash := next.paymentChallengeHash, paymentPayloadHash := next.paymentPayloadHash
    clientTransaction := next.clientTransaction, facilitatorVerify := next.facilitatorVerify
    settleClaim := next.settleClaim, facilitatorSettle := next.facilitatorSettle
    transactionId := next.transactionId, mirrorConfirmation := next.mirrorConfirmation
    mirrorPoll := next.mirrorPoll, confirmationDeadline := next.confirmationDeadline
    failureCode := next.failureCode, failureReason := next.failureReason }

/-- A commit of the confirmation: the payment stays too. -/
structure Confirms (cur next : ReservationRecord) : Prop where
  source : cur.state ∈ CONFIRMING_STATES
  target : next.state ∈ manualReviewRequired :: routeReserved :: CONFIRMING_STATES
  rest : next = { cur with
    state := next.state, history := next.history, updatedAt := next.updatedAt
    mirrorConfirmation := next.mirrorConfirmation, mirrorPoll := next.mirrorPoll
    confirmationDeadline := next.confirmationDeadline, routeReserved := next.routeReserved
    failureCode := next.failureCode, failureReason := next.failureReason }

/-- A commit of the outbox: nothing else changes. -/
structure Notifies (cur next : ReservationRecord) : Prop where
  source : cur.state ∈ POST_RESERVATION_STATES
  target : next.state ∈ POST_RESERVATION_STATES
  rest : next = { cur with
    state := next.state, history := next.history, updatedAt := next.updatedAt
    webhookEvents := next.webhookEvents, webhooks := next.webhooks
    hcsPublicationClaim := next.hcsPublicationClaim, hcsEvidence := next.hcsEvidence }

section Phases
variable {deps : ServiceDeps} {w : Trace} {site : CommitSite} {cur next : ReservationRecord}

/-- The target of a failed settlement. -/
theorem SettleFails.target {claim : SettleClaim} {selected : SelectedPaymentOption} {result : FacilitatorSettleResult}
    {f : SettleFailure} (h : SettleFails claim selected result f) :
    f.target = settlementFailed ∨ f.target = manualReviewRequired := by
  cases h with
  | refused => exact .inl rfl
  | mismatch => exact .inr rfl
  | network => exact .inl rfl
  | payer => exact .inl rfl

theorem preClaimTarget_cases (r : ReservationRecord) :
    preClaimTarget r = settlementFailed ∨ preClaimTarget r = paymentRejected := by
  unfold preClaimTarget
  split
  · exact .inl rfl
  · exact .inr rfl

/-- From a known state to a known state. -/
theorem between {s t : ReservationState} {sources targets : List ReservationState} {P : Prop} (hsource : cur.state = s)
    (htarget : next.state = t) (hs : s ∈ sources) (ht : t ∈ targets)
    (h : cur.state ∈ sources → next.state ∈ targets → P) : P :=
  h (hsource ▸ hs) (htarget ▸ ht)

theorem SubmissionChange.submits (h : SubmissionChange deps w site cur next) (hvalid : Valid deps.crypto cur) :
    Submits cur next := by
  cases h with
  | selectFirst hstate => exact between (t := optionSelected) hstate rfl (by decide) (by decide) (⟨·, ·, rfl⟩)
  | selectAgain hunlocked =>
    have hs : cur.state ∈ SUBMISSION_STATES := by
      revert hunlocked
      cases cur.state <;> decide
    exact ⟨hs, List.mem_cons_of_mem _ (List.mem_cons_of_mem _ hs), rfl⟩
  | challengeFirst hstate => exact between (t := paymentChallengeIssued) hstate rfl (by decide) (by decide) (⟨·, ·, rfl⟩)
  | challengeAgain hstate hselected hnone =>
    -- the states that require a challenge have one
    have hs : cur.state ∈ SUBMISSION_STATES := by
      have hchallenge : cur.state ∉ REQUIRES_CHALLENGE := by
        intro hmem
        have := hvalid.challenge_isSome hmem
        rw [hnone] at this
        cases this
      revert hchallenge
      cases cur.state <;> decide
    exact ⟨hs, List.mem_cons_of_mem _ (List.mem_cons_of_mem _ hs), rfl⟩
  | startSubmission hstate => exact between (t := paymentSubmissionStarted) hstate rfl (by decide) (by decide) (⟨·, ·, rfl⟩)
  | rejectPayment hstate => exact between (t := paymentRejected) hstate rfl (by decide) (by decide) (⟨·, ·, rfl⟩)
  | verifyPayment hstate => exact between (t := facilitatorVerified) hstate rfl (by decide) (by decide) (⟨·, ·, rfl⟩)
  | claimSettle hstate => exact between (t := facilitatorSettleClaimed) hstate rfl (by decide) (by decide) (⟨·, ·, rfl⟩)
  | failSettlement hstate hclaim hselected hfails =>
    rcases hfails.target with ht | ht
    · exact between (t := settlementFailed) hstate ht (by decide) (by decide) (⟨·, ·, rfl⟩)
    · exact between (t := manualReviewRequired) hstate ht (by decide) (by decide) (⟨·, ·, rfl⟩)
  | settlePayment hstate => exact between (t := facilitatorSettled) hstate rfl (by decide) (by decide) (⟨·, ·, rfl⟩)
  | unauthorizedSettlement hstate =>
    rcases hstate with hstate | hstate <;>
      exact between (t := manualReviewRequired) hstate rfl (by decide) (by decide) (⟨·, ·, rfl⟩)
  | preClaimFailed hstate | preClaimConclusive hstate =>
    rcases hstate with hstate | hstate <;> rcases preClaimTarget_cases cur with ht | ht <;>
      exact between hstate ht (by decide) (by decide) (⟨·, ·, rfl⟩)
  | adopt hstate | recoverAdopt hstate =>
    exact between (t := mirrorConfirmationPending) hstate rfl (by decide) (by decide) (⟨·, ·, rfl⟩)
  | claimedFailed hstate | claimedConclusive hstate =>
    exact between (t := settlementFailed) hstate rfl (by decide) (by decide) (⟨·, ·, rfl⟩)
  | authorizeReplacement hstate =>
    rcases hstate with hstate | hstate <;> exact between (t := offerCreated) hstate rfl (by decide) (by decide) (⟨·, ·, rfl⟩)
  | recoverSubmitted hambiguous =>
    rcases hambiguous with ⟨hstate, -⟩ | ⟨hstate | hstate, -⟩ <;>
      exact between (t := manualReviewRequired) hstate rfl (by decide) (by decide) (⟨·, ·, rfl⟩)

/-- Which states lead to a failed, confirmed or timed-out confirmation. -/
theorem Moved.source {target : ReservationState} (h : Moved w cur target next)
    (ht : target ∈ [confirmationFailed, paymentConfirmed, confirmationTimedOut]) :
    cur.state = target ∨ cur.state = mirrorConfirmationPending := by
  cases h with
  | stays h => exact .inl h
  | enters hne hlegal =>
    right
    revert hlegal ht
    cases target <;> cases cur.state <;> decide

theorem Moved.rest {target : ReservationState} (h : Moved w cur target next) :
    next.state = target ∧
      next = { cur with state := next.state, history := next.history, updatedAt := next.updatedAt } := by
  cases h with
  | stays h => exact ⟨h, rfl⟩
  | enters => exact ⟨rfl, rfl⟩

/-- A confirmation that is over was one, and still is. -/
theorem Moved.ends {mid : ReservationRecord} {target : ReservationState} (h : Moved w cur target mid)
    (ht : target ∈ [confirmationFailed, paymentConfirmed, confirmationTimedOut]) :
    cur.state ∈ CONFIRMING_STATES ∧ mid.state ∈ manualReviewRequired :: routeReserved :: CONFIRMING_STATES := by
  have hof : target ∈ CONFIRMING_STATES := by
    revert ht
    cases target <;> decide
  rw [h.rest.1]
  refine ⟨?_, List.mem_cons_of_mem _ (List.mem_cons_of_mem _ hof)⟩
  rcases h.source ht with hs | hs <;> rw [hs]
  · exact hof
  · decide

theorem ConfirmationChange.confirms (h : ConfirmationChange deps w site cur next) : Confirms cur next := by
  cases h with
  | beginConfirmation hstate | recoverTimedOut hstate =>
    exact between (t := mirrorConfirmationPending) hstate rfl (by decide) (by decide) (⟨·, ·, rfl⟩)
  | renewDeadline hstate | rebuildPoll hstate =>
    exact between (t := mirrorConfirmationPending) hstate hstate (by decide) (by decide) (⟨·, ·, rfl⟩)
  | poll hpolled =>
    rcases hpolled.confirming with hstate | hstate
    · exact between (t := mirrorConfirmationPending) hstate hstate (by decide) (by decide) (⟨·, ·, rfl⟩)
    · exact between (t := facilitatorSettled) hstate hstate (by decide) (by decide) (⟨·, ·, rfl⟩)
  | mirrorFailed hmoved | confirm hmoved | failConfirmation hmoved | timeOut hmoved | pollBound hmoved =>
    obtain ⟨hs, ht⟩ := hmoved.ends (by decide)
    exact ⟨hs, ht, by rw [hmoved.rest.2]⟩
  | reserve hstate =>
    exact between (t := routeReserved) hstate rfl (by decide) (by decide) (⟨·, ·, rfl⟩)
  | blockRecovery hstate =>
    exact between (t := manualReviewRequired) hstate rfl (by decide) (by decide) (⟨·, ·, rfl⟩)
  | recoverFailed hstate =>
    rcases hstate with hstate | hstate <;>
      exact between (t := confirmationFailed) hstate rfl (by decide) (by decide) (⟨·, ·, rfl⟩)
  | recoverSettled hstate =>
    rcases hstate with hstate | hstate <;>
      exact between (t := manualReviewRequired) hstate rfl (by decide) (by decide) (⟨·, ·, rfl⟩)

theorem MovedFrom.rest {sources : List ReservationState} {target : ReservationState}
    (h : MovedFrom w sources target cur next) :
    (next.state = cur.state ∨ next.state = target) ∧
      next = { cur with state := next.state, history := next.history, updatedAt := next.updatedAt } := by
  cases h with
  | stays => exact ⟨.inl rfl, rfl⟩
  | enters => exact ⟨.inr rfl, rfl⟩

theorem DeliveryMoved.rest {allOk : Bool} (h : DeliveryMoved w allOk cur next) :
    (next.state = cur.state ∨ next.state = webhooksDispatched ∨ next.state = webhookDeliveryFailed) ∧
      next = { cur with state := next.state, history := next.history, updatedAt := next.updatedAt } := by
  cases allOk with
  | true =>
    obtain ⟨ht, hrest⟩ := MovedFrom.rest h
    exact ⟨ht.imp_right .inl, hrest⟩
  | false =>
    obtain ⟨ht, hrest⟩ := MovedFrom.rest h
    exact ⟨ht.imp_right .inr, hrest⟩

theorem OutboxChange.notifies (h : OutboxChange deps w site cur next) (hvalid : Valid deps.crypto cur) :
    Notifies cur next := by
  have hreserved (hsome : cur.routeReserved.isSome) : cur.state ∈ POST_RESERVATION_STATES :=
    hvalid.reserved_iff.mp hsome
  have htarget {t : ReservationState} (hs : cur.state ∈ POST_RESERVATION_STATES)
      (ht : next.state = cur.state ∨ next.state = t) (hmem : t ∈ POST_RESERVATION_STATES) :
      next.state ∈ POST_RESERVATION_STATES := by
    rcases ht with ht | ht
    · rw [ht]
      exact hs
    · rw [ht]
      exact hmem
  cases h with
  | webhookEvents hrr =>
    have hs := hreserved (Option.isSome_of_eq_some hrr)
    exact ⟨hs, hs, rfl⟩
  | deliveries hevents hdelivered hnow hmoved =>
    -- webhook events exist only beside a reserved route
    have hs : cur.state ∈ POST_RESERVATION_STATES := by
      have hpart := (valid_iff.mp hvalid).webhooks
      simp only [checkWebhooks, check_eq_ok, binding, require_eq_ok] at hpart
      exact hreserved (hpart.1 (.inl hevents))
    obtain ⟨ht, hrest⟩ := hmoved.rest
    rcases ht with ht | ht | ht
    · exact ⟨hs, htarget (t := routeReserved) hs (.inl ht) (by decide), by rw [hrest]⟩
    · exact ⟨hs, htarget hs (.inr ht) (by decide), by rw [hrest]⟩
    · exact ⟨hs, htarget hs (.inr ht) (by decide), by rw [hrest]⟩
  | claimHcs hrr =>
    have hs := hreserved (Option.isSome_of_eq_some hrr)
    exact ⟨hs, hs, rfl⟩
  | resolving hrr =>
    have hs := hreserved hrr
    exact ⟨hs, hs, rfl⟩
  | hcsPublished hrr hclaim hunpublished hsame hresult hnow hmoved =>
    have hs := hreserved hrr
    obtain ⟨ht, hrest⟩ := hmoved.rest
    exact ⟨hs, htarget hs ht (by decide), by rw [hrest]⟩
  | hcsFailed hrr hclaim hunpublished hnow hmoved =>
    have hs := hreserved hrr
    obtain ⟨ht, hrest⟩ := hmoved.rest
    exact ⟨hs, htarget hs ht (by decide), by rw [hrest]⟩
  | hcsRecorded hstate =>
    have hs : cur.state ∈ POST_RESERVATION_STATES := by
      revert hstate
      cases cur.state <;> decide
    exact ⟨hs, htarget (t := hcsEvidenceRecorded) hs (.inr rfl) (by decide), rfl⟩
  | complete hstate =>
    have hs : cur.state ∈ POST_RESERVATION_STATES := by
      rcases hstate with hstate | hstate <;> rw [hstate] <;> decide
    exact ⟨hs, htarget (t := completed) hs (.inr rfl) (by decide), rfl⟩

/-- Every commit is of one phase. -/
theorem Change.phase (h : Change deps w site cur next) (hvalid : Valid deps.crypto cur) :
    Submits cur next ∨ Confirms cur next ∨ Notifies cur next := by
  cases h with
  | submission h => exact .inl (h.submits hvalid)
  | confirmation h => exact .inr (.inl h.confirms)
  | outbox h => exact .inr (.inr (h.notifies hvalid))

end Phases

/-! ## The settled payment -/

/-- The states from the settled payment on. -/
def SETTLED_STATES : List ReservationState := CONFIRMING_STATES ++ POST_RESERVATION_STATES

/-- The payment of two records is one and the same. -/
structure SamePayment (a b : ReservationRecord) : Prop where
  selected : b.selected = a.selected
  paymentChallenge : b.paymentChallenge = a.paymentChallenge
  paymentChallengeHash : b.paymentChallengeHash = a.paymentChallengeHash
  paymentPayloadHash : b.paymentPayloadHash = a.paymentPayloadHash
  clientTransaction : b.clientTransaction = a.clientTransaction
  settleClaim : b.settleClaim = a.settleClaim
  facilitatorSettle : b.facilitatorSettle = a.facilitatorSettle
  transactionId : b.transactionId = a.transactionId

theorem SamePayment.refl (a : ReservationRecord) : SamePayment a a := ⟨rfl, rfl, rfl, rfl, rfl, rfl, rfl, rfl⟩

theorem SamePayment.trans {a b c : ReservationRecord} (h : SamePayment a b) (h' : SamePayment b c) : SamePayment a c :=
  ⟨h'.selected.trans h.selected, h'.paymentChallenge.trans h.paymentChallenge,
    h'.paymentChallengeHash.trans h.paymentChallengeHash, h'.paymentPayloadHash.trans h.paymentPayloadHash,
    h'.clientTransaction.trans h.clientTransaction, h'.settleClaim.trans h.settleClaim,
    h'.facilitatorSettle.trans h.facilitatorSettle, h'.transactionId.trans h.transactionId⟩

/-- A later version of a settled record: settled too, or in review, with the same payment. -/
structure SettledSince (r r' : ReservationRecord) : Prop where
  payment : SamePayment r r'
  state : r'.state ∈ SETTLED_STATES ∨ (r'.state = manualReviewRequired ∧ r'.paymentChallenge.isSome)

section Settled
variable {deps : ServiceDeps} {auction : Auction} {w : Trace} {site : CommitSite} {cur next : ReservationRecord}

theorem Confirms.samePayment (h : Confirms cur next) : SamePayment cur next := by
  rw [h.rest]
  exact ⟨rfl, rfl, rfl, rfl, rfl, rfl, rfl, rfl⟩

theorem Notifies.samePayment (h : Notifies cur next) : SamePayment cur next := by
  rw [h.rest]
  exact ⟨rfl, rfl, rfl, rfl, rfl, rfl, rfl, rfl⟩

theorem mem_settled_of_reserved {s : ReservationState} (h : s ∈ POST_RESERVATION_STATES) : s ∈ SETTLED_STATES :=
  List.mem_append_right _ h

/-- A review ends the life of a record that had its challenge. -/
theorem Change.review_final (h : Change deps w site cur next) (hvalid : Valid deps.crypto cur)
    (hstate : cur.state = manualReviewRequired) : cur.paymentChallenge = none := by
  cases h with
  | submission h =>
    cases h with
    | challengeAgain hne hselected hnone => exact hnone
    | selectAgain hunlocked =>
      rw [hstate] at hunlocked
      exact absurd rfl hunlocked
    | recoverSubmitted hambiguous => simp [hstate] at hambiguous
    | _ => simp_all
  | confirmation h =>
    have := h.confirms.source
    rw [hstate] at this
    exact absurd this (by decide)
  | outbox h =>
    have := (h.notifies hvalid).source
    rw [hstate] at this
    exact absurd this (by decide)

theorem Change.settled (h : Change deps w site cur next) (hvalid : Valid deps.crypto cur)
    (hs : cur.state ∈ SETTLED_STATES) : SettledSince cur next := by
  have hchallenge : cur.paymentChallenge.isSome := by
    refine hvalid.challenge_isSome ?_
    revert hs
    cases cur.state <;> decide
  rcases h.phase hvalid with h | h | h
  · -- no state of the submission is settled
    exfalso
    have hsource := h.source
    revert hs hsource
    cases cur.state <;> decide
  · refine ⟨h.samePayment, ?_⟩
    have htarget := h.target
    rw [← h.samePayment.paymentChallenge] at hchallenge
    rcases List.mem_cons.mp htarget with ht | ht
    · exact .inr ⟨ht, hchallenge⟩
    · left
      revert ht
      cases next.state <;> decide
  · exact ⟨h.samePayment, .inl (mem_settled_of_reserved h.target)⟩

/-- From the settled payment on, the payment stays as it is. -/
theorem Lawful.settled_later {id : JsString} (hw : Lawful deps auction w) {r r' : ReservationRecord}
    (hr : r ∈ versions w id) (hr' : r' ∈ versions w id) (hle : r.recordVersion ≤ r'.recordVersion)
    (hs : r.state ∈ SETTLED_STATES) : SettledSince r r' := by
  refine Lawful.later_induction (R := fun r r' => r.state ∈ SETTLED_STATES → SettledSince r r') ?_ ?_ hw r hr r' hr'
    hle hs
  · intro r hs
    exact ⟨.refl r, .inl hs⟩
  · intro w site r cur next hw hr hcur ih hchange hid hvalid hs
    have hsince := ih hs
    have hcurValid := hw.valid (mem_versions_of_stored hcur)
    rcases hsince.state with hstate | ⟨hstate, hchallenge⟩
    · have hnext := hchange.settled hcurValid hstate
      exact ⟨hsince.payment.trans ⟨hnext.payment.1, hnext.payment.2, hnext.payment.3, hnext.payment.4,
        hnext.payment.5, hnext.payment.6, hnext.payment.7, hnext.payment.8⟩, hnext.state⟩
    · rw [hchange.review_final hcurValid hstate] at hchallenge
      cases hchallenge

/-! ## The payment that is not settled -/

def UNSETTLED_STATES : List ReservationState :=
  [offerCreated, optionSelected, paymentChallengeIssued, paymentSubmissionStarted, facilitatorVerified,
   facilitatorSettleClaimed, expired]

/-- A payment on its way has no transaction yet. -/
theorem Change.transactionId_none (h : Change deps w site cur next) (hvalid : Valid deps.crypto cur)
    (hcur : cur.state ∈ UNSETTLED_STATES → cur.transactionId = none) (hs : next.state ∈ UNSETTLED_STATES) :
    next.transactionId = none := by
  have hsame {s : ReservationState} (hstate : cur.state = s) (hmem : s ∈ UNSETTLED_STATES) :
      cur.transactionId = none := by
    rw [← hstate] at hmem
    exact hcur hmem
  have hleft {t : ReservationState} (ht : next.state = t) (hmem : t ∉ UNSETTLED_STATES) : next.transactionId = none := by
    rw [ht] at hs
    exact absurd hs hmem
  cases h with
  | submission h =>
    cases h with
    | selectFirst hstate => exact hsame hstate (by decide)
    | selectAgain => exact hcur hs
    | challengeFirst hstate => exact hsame hstate (by decide)
    | challengeAgain => exact hcur hs
    | startSubmission hstate => exact hsame hstate (by decide)
    | rejectPayment hstate => exact hsame hstate (by decide)
    | verifyPayment hstate => exact hsame hstate (by decide)
    | claimSettle hstate => exact hsame hstate (by decide)
    | failSettlement hstate => exact hsame hstate (by decide)
    | settlePayment => exact hleft (t := facilitatorSettled) rfl (by decide)
    | unauthorizedSettlement => exact hleft (t := manualReviewRequired) rfl (by decide)
    | preClaimFailed hstate => rcases hstate with hstate | hstate <;> exact hsame hstate (by decide)
    | preClaimConclusive hstate => rcases hstate with hstate | hstate <;> exact hsame hstate (by decide)
    | adopt => exact hleft (t := mirrorConfirmationPending) rfl (by decide)
    | claimedFailed hstate => exact hsame hstate (by decide)
    | claimedConclusive hstate => exact hsame hstate (by decide)
    | authorizeReplacement => rfl
    | recoverAdopt => exact hleft (t := mirrorConfirmationPending) rfl (by decide)
    | recoverSubmitted => exact hleft (t := manualReviewRequired) rfl (by decide)
  | confirmation h =>
    exfalso
    have htarget := h.confirms.target
    revert hs htarget
    cases next.state <;> decide
  | outbox h =>
    exfalso
    have htarget := (h.notifies hvalid).target
    revert hs htarget
    cases next.state <;> decide

theorem Lawful.transactionId_none {id : JsString} (hw : Lawful deps auction w) {r : ReservationRecord}
    (hr : r ∈ versions w id) (hs : r.state ∈ UNSETTLED_STATES) : r.transactionId = none := by
  refine Lawful.versions_induction (P := fun r => r.state ∈ UNSETTLED_STATES → r.transactionId = none) ?_ ?_ hw r hr hs
  · intro input tender record hrecord _ _ _
    obtain ⟨offer, rfl⟩ := reservationOf_spec hrecord
    rfl
  · intro w site cur next hw hcur ih hchange _ _ hs
    exact hchange.transactionId_none (hw.valid (mem_versions_of_stored hcur)) ih hs

/-! ## The reserved route -/

theorem Change.reserved (h : Change deps w site cur next) (hvalid : Valid deps.crypto cur)
    (hs : cur.state ∈ POST_RESERVATION_STATES) : Notifies cur next := by
  rcases h.phase hvalid with h | h | h
  · exfalso
    have hsource := h.source
    revert hs hsource
    cases cur.state <;> decide
  · exfalso
    have hsource := h.source
    revert hs hsource
    cases cur.state <;> decide
  · exact h

/-- A reserved route stays reserved. -/
theorem Lawful.reserved_later {id : JsString} (hw : Lawful deps auction w) {r r' : ReservationRecord}
    (hr : r ∈ versions w id) (hr' : r' ∈ versions w id) (hle : r.recordVersion ≤ r'.recordVersion)
    (hs : r.state ∈ POST_RESERVATION_STATES) :
    r'.state ∈ POST_RESERVATION_STATES ∧ r'.routeReserved = r.routeReserved ∧
      r'.mirrorConfirmation = r.mirrorConfirmation := by
  refine Lawful.later_induction (R := fun r r' => r.state ∈ POST_RESERVATION_STATES →
    r'.state ∈ POST_RESERVATION_STATES ∧ r'.routeReserved = r.routeReserved ∧
      r'.mirrorConfirmation = r.mirrorConfirmation) ?_ ?_ hw r hr r' hr' hle hs
  · intro r hs
    exact ⟨hs, rfl, rfl⟩
  · intro w site r cur next hw hr hcur ih hchange hid hvalid hs
    obtain ⟨hstate, hreserved, hmirror⟩ := ih hs
    have hnext := hchange.reserved (hw.valid (mem_versions_of_stored hcur)) hstate
    refine ⟨hnext.target, ?_, ?_⟩
    · rw [← hreserved, hnext.rest]
    · rw [← hmirror, hnext.rest]

end Settled

end RouteGuard.Reservation
