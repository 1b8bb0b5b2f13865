import RouteGuard.Reservation.Acceptance
import RouteGuard.Reservation.Frames

/-!
# Invariants of the stored records

What the validator does not ask for, and every record the service stores has all the same.

* `Sound` : the invariant of one record, kept by every change (`Change.sound`);
* `Polled.pending` : only a pending confirmation is polled;
* `Lawful.sound` : it holds of every stored record;
* `Lawful.startedAt_eq` : the confirmation of a reservation has one start.
-/

namespace RouteGuard.Reservation
open JsString Guarded ReservationState

/-- The states before a settle claim. -/
def UNCLAIMED_STATES : List ReservationState :=
  [offerCreated, optionSelected, paymentChallengeIssued, paymentSubmissionStarted, facilitatorVerified]

/-- The states before a confirmation, and those in which an attempt ended. -/
def UNPOLLED_STATES : List ReservationState :=
  facilitatorSettled :: settlementFailed :: paymentRejected :: UNSETTLED_STATES

/-- The invariant of a stored record. -/
structure Sound (r : ReservationRecord) : Prop where
  fresh : r.state = offerCreated → r.selected = none
  unclaimed : r.state ∈ UNCLAIMED_STATES → r.settleClaim = none
  unanswered : r.state ∈ UNSETTLED_STATES → r.facilitatorSettle = none
  unpolled : r.state ∈ UNPOLLED_STATES → r.mirrorPoll = none
  window : r.confirmationDeadline.isSome = r.mirrorPoll.isSome
  trimmed : r.facilitatorSettle.isSome → ∀ tx ∈ r.transactionId, trim tx = tx
  evidence : r.hcsEvidence.any HcsEvidenceRecord.published →
    r.hcsPublicationClaim.any fun claim => claim.status = .published
  sequence : ∀ claim ∈ r.hcsPublicationClaim, claim.status ≠ .published → claim.sequence = none

theorem requireTransactionIdForSettlement_eq_ok {transactionId : Option JsString} {txId : JsString} :
    requireTransactionIdForSettlement transactionId = .ok txId ↔
      ∃ id, transactionId = some id ∧ trim id = txId ∧ txId ≠ [] := by
  unfold requireTransactionIdForSettlement
  cases transactionId with
  | none => simp
  | some id =>
    by_cases h : trim id = []
    · simp only [h, if_pos, reduceCtorEq, Option.some.injEq, exists_eq_left', false_iff, not_and, not_not]
      exact fun heq => heq.symm
    · simp only [h, if_false, Except.ok.injEq, Option.some.injEq, exists_eq_left']
      constructor
      · intro heq
        exact ⟨heq, heq ▸ h⟩
      · exact fun heq => heq.1

section Step
variable {deps : ServiceDeps} {auction : Auction} {w : Trace} {site : CommitSite} {cur next r : ReservationRecord}

/-! ## One change -/

/-- The invariant of a record in a known state. -/
theorem Sound.of {t : ReservationState} (ht : r.state = t) (hfresh : t ≠ offerCreated ∨ r.selected = none)
    (hunclaimed : t ∉ UNCLAIMED_STATES ∨ r.settleClaim = none)
    (hunanswered : t ∉ UNSETTLED_STATES ∨ r.facilitatorSettle = none)
    (hunpolled : t ∉ UNPOLLED_STATES ∨ r.mirrorPoll = none)
    (hwindow : r.confirmationDeadline.isSome = r.mirrorPoll.isSome)
    (htrimmed : r.facilitatorSettle.isSome → ∀ tx ∈ r.transactionId, trim tx = tx)
    (hevidence : r.hcsEvidence.any HcsEvidenceRecord.published →
      r.hcsPublicationClaim.any fun claim => claim.status = .published)
    (hsequence : ∀ claim ∈ r.hcsPublicationClaim, claim.status ≠ .published → claim.sequence = none) : Sound r := by
  subst ht
  exact ⟨fun h => hfresh.resolve_left (fun hne => hne h), fun h => hunclaimed.resolve_left (fun hne => hne h),
    fun h => hunanswered.resolve_left (fun hne => hne h), fun h => hunpolled.resolve_left (fun hne => hne h), hwindow,
    htrimmed, hevidence, hsequence⟩

/-- A change of the submission that leaves the claim, the settlement and the confirmation alone. -/
theorem Sound.keep (h : Sound cur) {s t : ReservationState} (hs : cur.state = s) (ht : next.state = t)
    (hfresh : t ≠ offerCreated ∨ (s = t ∧ next.selected = cur.selected))
    (hunclaimed : t ∈ UNCLAIMED_STATES → s ∈ UNCLAIMED_STATES) (hunsettled : t ∈ UNSETTLED_STATES → s ∈ UNSETTLED_STATES)
    (hunpolled : t ∈ UNPOLLED_STATES → s ∈ UNPOLLED_STATES)
    (hkept : next.settleClaim = cur.settleClaim ∧ next.facilitatorSettle = cur.facilitatorSettle ∧
      next.mirrorPoll = cur.mirrorPoll ∧ next.confirmationDeadline = cur.confirmationDeadline ∧
      next.transactionId = cur.transactionId ∧ next.hcsEvidence = cur.hcsEvidence ∧
      next.hcsPublicationClaim = cur.hcsPublicationClaim) : Sound next := by
  obtain ⟨h1, h2, h3, h4, h5, h6, h7⟩ := hkept
  subst hs ht
  refine ⟨?_, ?_, ?_, ?_, ?_, ?_, ?_, ?_⟩
  · intro hnew
    rcases hfresh with hne | ⟨hsame, hselected⟩
    · exact absurd hnew hne
    · rw [hselected]
      exact h.fresh (hsame.trans hnew)
  · intro hmem
    rw [h1]
    exact h.unclaimed (hunclaimed hmem)
  · intro hmem
    rw [h2]
    exact h.unanswered (hunsettled hmem)
  · intro hmem
    rw [h3]
    exact h.unpolled (hunpolled hmem)
  · rw [h3, h4]
    exact h.window
  · rw [h2, h5]
    exact h.trimmed
  · rw [h6, h7]
    exact h.evidence
  · rw [h7]
    exact h.sequence

theorem SubmissionChange.sound (h : SubmissionChange deps w site cur next) (hcur : Sound cur)
    (htx : cur.state ∈ UNSETTLED_STATES → cur.transactionId = none) : Sound next := by
  have hnone {s : ReservationState} (hs : cur.state = s) (hmem : s ∈ UNPOLLED_STATES) :
      cur.mirrorPoll = none ∧ cur.confirmationDeadline = none := by
    have hpoll := hcur.unpolled (hs ▸ hmem)
    have hwindow := hcur.window
    rw [hpoll] at hwindow
    exact ⟨hpoll, Option.not_isSome_iff_eq_none.mp (by rw [hwindow]; exact Bool.false_ne_true)⟩
  cases h with
  | selectFirst hstate =>
    exact hcur.keep hstate (t := optionSelected) rfl (.inl (by decide)) (by decide) (by decide) (by decide)
      ⟨rfl, rfl, rfl, rfl, rfl, rfl, rfl⟩
  | selectAgain hunlocked hstate =>
    exact hcur.keep rfl rfl (.inl hstate) (fun h => h) (fun h => h) (fun h => h)
      ⟨rfl, rfl, rfl, rfl, rfl, rfl, rfl⟩
  | challengeFirst hstate =>
    exact hcur.keep hstate (t := paymentChallengeIssued) rfl (.inl (by decide)) (by decide) (by decide) (by decide)
      ⟨rfl, rfl, rfl, rfl, rfl, rfl, rfl⟩
  | challengeAgain hstate =>
    exact hcur.keep rfl rfl (.inr ⟨rfl, rfl⟩) (fun h => h) (fun h => h) (fun h => h) ⟨rfl, rfl, rfl, rfl, rfl, rfl, rfl⟩
  | startSubmission hstate =>
    exact hcur.keep hstate (t := paymentSubmissionStarted) rfl (.inl (by decide)) (by decide) (by decide) (by decide)
      ⟨rfl, rfl, rfl, rfl, rfl, rfl, rfl⟩
  | rejectPayment hstate =>
    exact hcur.keep hstate (t := paymentRejected) rfl (.inl (by decide)) (by decide) (by decide) (by decide)
      ⟨rfl, rfl, rfl, rfl, rfl, rfl, rfl⟩
  | verifyPayment hstate =>
    exact hcur.keep hstate (t := facilitatorVerified) rfl (.inl (by decide)) (by decide) (by decide) (by decide)
      ⟨rfl, rfl, rfl, rfl, rfl, rfl, rfl⟩
  | claimSettle hstate =>
    obtain ⟨hpoll, hdeadline⟩ := hnone hstate (by decide)
    have hsettle := hcur.unanswered (by rw [hstate]; decide)
    exact .of (t := facilitatorSettleClaimed) rfl (.inl (by decide)) (.inl (by decide)) (.inr hsettle) (.inr hpoll)
      hcur.window hcur.trimmed hcur.evidence hcur.sequence
  | @failSettlement _ claim selected result f now hstate hclaim hselected hfails =>
    obtain ⟨hpoll, hdeadline⟩ := hnone hstate (by decide)
    have hleft {L : List ReservationState} (hsf : settlementFailed ∉ L) (hmr : manualReviewRequired ∉ L) :
        f.target ∉ L := by
      rcases hfails.target with ht | ht <;> rw [ht]
      · exact hsf
      · exact hmr
    have htxNone := htx (by rw [hstate]; decide)
    refine .of (t := f.target) rfl (.inl ?_) (.inl (hleft (by decide) (by decide))) (.inl (hleft (by decide) (by decide)))
      (.inr hpoll) hcur.window ?_ hcur.evidence hcur.sequence
    · rcases hfails.target with ht | ht <;> rw [ht] <;> decide
    · intro _ tx hmem
      rw [show cur.transactionId = none from htxNone] at hmem
      cases hmem
  | @settlePayment _ claim selected result txId now hstate hclaim hselected hsuccess htxId =>
    obtain ⟨hpoll, hdeadline⟩ := hnone hstate (by decide)
    refine .of (t := facilitatorSettled) rfl (.inl (by decide)) (.inl (by decide)) (.inl (by decide)) (.inr hpoll)
      hcur.window ?_ hcur.evidence hcur.sequence
    intro _ tx hmem
    obtain ⟨id, -, htrim, -⟩ := requireTransactionIdForSettlement_eq_ok.mp htxId
    have hmem : txId = tx := Option.some.inj hmem
    rw [← hmem, ← htrim, trim_trim]
  | unauthorizedSettlement hstate =>
    rcases hstate with hstate | hstate <;>
    exact hcur.keep hstate (t := manualReviewRequired) rfl (.inl (by decide)) (by decide) (by decide) (by decide)
      ⟨rfl, rfl, rfl, rfl, rfl, rfl, rfl⟩
  | preClaimFailed hstate | preClaimConclusive hstate =>
    rcases hstate with hstate | hstate <;> rcases preClaimTarget_cases cur with ht | ht <;>
    exact hcur.keep hstate ht (.inl (by decide)) (by decide) (by decide) (by decide) ⟨rfl, rfl, rfl, rfl, rfl, rfl, rfl⟩
  | adopt hstate | recoverAdopt hstate =>
    have hsettle := hcur.unanswered (by rw [hstate]; decide)
    refine .of (t := mirrorConfirmationPending) rfl (.inl (by decide)) (.inl (by decide)) (.inr hsettle)
      (.inl (by decide)) rfl ?_ hcur.evidence hcur.sequence
    intro hsome
    have hsome : cur.facilitatorSettle.isSome := hsome
    rw [hsettle] at hsome
    cases hsome
  | claimedFailed hstate | claimedConclusive hstate =>
    exact hcur.keep hstate (t := settlementFailed) rfl (.inl (by decide)) (by decide) (by decide) (by decide)
      ⟨rfl, rfl, rfl, rfl, rfl, rfl, rfl⟩
  | authorizeReplacement =>
    exact .of (t := offerCreated) rfl (.inr rfl) (.inr rfl) (.inr rfl) (.inr rfl) rfl
      (fun h => absurd h Bool.false_ne_true) hcur.evidence hcur.sequence
  | recoverSubmitted hambiguous =>
    rcases hambiguous with ⟨hstate, -⟩ | ⟨hstate | hstate, -⟩ <;>
    exact hcur.keep hstate (t := manualReviewRequired) rfl (.inl (by decide)) (by decide) (by decide) (by decide)
      ⟨rfl, rfl, rfl, rfl, rfl, rfl, rfl⟩

/-! ## Confirmation -/

/-- The states from the confirmation on. -/
def CONFIRMATION_REACHED : List ReservationState :=
  [mirrorConfirmationPending, confirmationTimedOut, confirmationFailed, paymentConfirmed, manualReviewRequired] ++
    POST_RESERVATION_STATES

/-- A confirmation never goes back to the settlement. -/
theorem ConfirmationChange.reached (h : ConfirmationChange deps w site cur next)
    (hs : cur.state ∈ CONFIRMATION_REACHED) : next.state ∈ CONFIRMATION_REACHED := by
  have hof {t : ReservationState} (ht : next.state = t) (hmem : t ∈ CONFIRMATION_REACHED) :
      next.state ∈ CONFIRMATION_REACHED := ht ▸ hmem
  cases h with
  | renewDeadline => exact hs
  | rebuildPoll => exact hs
  | poll => exact hs
  | beginConfirmation => exact hof (t := mirrorConfirmationPending) rfl (by decide)
  | mirrorFailed hmoved => exact hof hmoved.rest.1 (by decide)
  | confirm hmoved => exact hof hmoved.rest.1 (by decide)
  | failConfirmation hmoved => exact hof hmoved.rest.1 (by decide)
  | timeOut hmoved => exact hof hmoved.rest.1 (by decide)
  | pollBound hmoved => exact hof hmoved.rest.1 (by decide)
  | reserve => exact hof (t := routeReserved) rfl (by decide)
  | blockRecovery => exact hof (t := manualReviewRequired) rfl (by decide)
  | recoverTimedOut => exact hof (t := mirrorConfirmationPending) rfl (by decide)
  | recoverFailed => exact hof (t := confirmationFailed) rfl (by decide)
  | recoverSettled => exact hof (t := manualReviewRequired) rfl (by decide)

theorem Change.reached (h : Change deps w site cur next) (hvalid : Valid deps.crypto cur)
    (hs : cur.state ∈ CONFIRMATION_REACHED) : next.state ∈ CONFIRMATION_REACHED := by
  cases h with
  | submission h =>
    -- only a review is a state of both, and it keeps its state
    have hreview : cur.state = manualReviewRequired := by
      have hsource := (h.submits hvalid).source
      revert hs hsource
      cases cur.state <;> decide
    cases h with
    | selectAgain => exact hs
    | challengeAgain => exact hs
    | recoverSubmitted hambiguous => simp [hreview] at hambiguous
    | _ => simp_all
  | confirmation h => exact h.reached hs
  | outbox h =>
    have htarget := (h.notifies hvalid).target
    revert htarget
    cases next.state <;> decide

theorem Lawful.reached_later {id : JsString} (hw : Lawful deps auction w) {r r' : ReservationRecord}
    (hr : r ∈ versions w id) (hr' : r' ∈ versions w id) (hle : r.recordVersion ≤ r'.recordVersion)
    (hs : r.state ∈ CONFIRMATION_REACHED) : r'.state ∈ CONFIRMATION_REACHED := by
  refine Lawful.later_induction (R := fun r r' => r.state ∈ CONFIRMATION_REACHED → r'.state ∈ CONFIRMATION_REACHED)
    (fun r h => h) ?_ hw r hr r' hr' hle hs
  intro w site r cur next hw hr hcur ih hchange hid hvalid hs
  exact hchange.reached (hw.valid (mem_versions_of_stored hcur)) (ih hs)

/-- A record with a poll has reached its confirmation. -/
theorem Sound.reached (h : Sound r) (hpoll : r.mirrorPoll.isSome) : r.state ∈ CONFIRMATION_REACHED := by
  have hunpolled : r.state ∉ UNPOLLED_STATES := by
    intro hmem
    rw [h.unpolled hmem] at hpoll
    cases hpoll
  revert hunpolled
  cases r.state <;> decide

/-- A durable deadline belongs to a poll. -/
theorem Sound.poll_of_deadline (h : Sound r) {deadline : JsString} (hdeadline : durableDeadline r = .ok deadline) :
    r.mirrorPoll.isSome := by
  have hwindow := h.window
  unfold durableDeadline at hdeadline
  cases hpoll : r.mirrorPoll with
  | some poll => rfl
  | none =>
    rw [hpoll] at hwindow hdeadline
    have hnone : r.confirmationDeadline = none :=
      Option.not_isSome_iff_eq_none.mp (by rw [hwindow]; exact Bool.false_ne_true)
    rw [hnone] at hdeadline
    cases hdeadline

/-- Only a pending confirmation is polled. -/
theorem Polled.pending {before : ReservationRecord} {txId deadline pollAt : JsString}
    {answer : Except ServiceError MirrorConfirmation} (hw : Lawful deps auction w)
    (hsound : ∀ r ∈ versions w cur.reservationId, Sound r) (h : Polled w cur before txId deadline pollAt answer) :
    before.state = mirrorConfirmationPending := by
  obtain ⟨r, hr, hle, hdeadline⟩ := h.durable
  have hreached := hw.reached_later hr h.loaded hle ((hsound r hr).reached ((hsound r hr).poll_of_deadline hdeadline))
  rcases h.confirming with hs | hs
  · exact hs
  · rw [hs] at hreached
    exact absurd hreached (by decide)

/-- The settlement and the outbox stay as they are; only the confirmation changes. -/
theorem Sound.confirm (h : Sound cur) (hconfirms : Confirms cur next)
    (hunpolled : next.state ≠ facilitatorSettled ∨ next.mirrorPoll = none)
    (hwindow : next.confirmationDeadline.isSome = next.mirrorPoll.isSome) : Sound next := by
  have htarget := hconfirms.target
  have hpayment := hconfirms.samePayment
  have hsettle := hpayment.facilitatorSettle
  have htx := hpayment.transactionId
  have hleft {L : List ReservationState} (hL : ∀ t ∈ manualReviewRequired :: routeReserved :: CONFIRMING_STATES, t ∉ L) :
      next.state ∉ L := hL _ htarget
  refine .of rfl (.inl ?_) (.inl (hleft (by decide))) (.inl (hleft (by decide))) ?_ hwindow ?_ ?_ ?_
  · intro ht
    rw [ht] at htarget
    exact absurd htarget (by decide)
  · rcases hunpolled with hne | hnone
    · left
      intro hmem
      have hrest : next.state ∈ UNPOLLED_STATES.tail := (List.mem_cons.mp hmem).resolve_left hne
      revert hrest htarget
      cases next.state <;> decide
    · exact .inr hnone
  · rw [hsettle, htx]
    exact h.trimmed
  · rw [hconfirms.rest]
    exact h.evidence
  · rw [hconfirms.rest]
    exact h.sequence

theorem isSome_of_truthy {o : Option JsString} (h : truthy o) : o.isSome := by
  cases o with
  | none => cases h
  | some _ => rfl

theorem ConfirmationChange.sound (h : ConfirmationChange deps w site cur next) (hw : Lawful deps auction w)
    (hvalid : Valid deps.crypto cur) (hsound : ∀ r ∈ versions w cur.reservationId, Sound r) (hcur : Sound cur) :
    Sound next := by
  have hconfirms := h.confirms
  have hother {t : ReservationState} (ht : next.state = t) (hne : t ≠ facilitatorSettled) :
      next.state ≠ facilitatorSettled := ht ▸ hne
  -- a record that a confirmation ends has its window
  have hdeadline {base : ReservationRecord} {target : ReservationState} {mid : ReservationRecord}
      (hmoved : Moved w base target mid) (hbase : base.state = cur.state)
      (ht : target ∈ [confirmationFailed, paymentConfirmed, confirmationTimedOut]) : cur.confirmationDeadline.isSome := by
    refine isSome_of_truthy (hvalid.confirming ?_).1
    rcases hmoved.source ht with hs | hs
    · rw [← hbase, hs]
      revert ht
      cases target <;> decide
    · rw [← hbase, hs]
      decide
  cases h with
  | beginConfirmation => exact hcur.confirm hconfirms (.inl (hother (t := mirrorConfirmationPending) rfl (by decide))) rfl
  | renewDeadline hstate =>
    exact hcur.confirm hconfirms (.inl (hother (t := mirrorConfirmationPending) hstate (by decide))) rfl
  | rebuildPoll hstate hmissing =>
    have hpoll := (hvalid.confirming (by rw [hstate]; decide)).2
    rw [hmissing] at hpoll
    cases hpoll
  | poll hpolled =>
    have hpending : cur.state = mirrorConfirmationPending := hpolled.pending hw hsound
    exact hcur.confirm hconfirms (.inl (hother (t := mirrorConfirmationPending) hpending (by decide))) rfl
  | mirrorFailed hmoved | failConfirmation hmoved | timeOut hmoved =>
    refine hcur.confirm hconfirms (.inl (hother hmoved.rest.1 (by decide))) ?_
    show Option.isSome (ReservationRecord.confirmationDeadline _) = true
    rw [hmoved.rest.2]
    exact hdeadline hmoved rfl (by decide)
  | confirm hmoved =>
    refine hcur.confirm hconfirms (.inl (hother hmoved.rest.1 (by decide))) ?_
    rw [hmoved.rest.2]
    exact hdeadline hmoved rfl (by decide)
  | pollBound hmoved =>
    refine hcur.confirm hconfirms (.inl (hother hmoved.rest.1 (by decide))) ?_
    rw [hmoved.rest.2]
    exact hcur.window
  | reserve => exact hcur.confirm hconfirms (.inl (hother (t := routeReserved) rfl (by decide))) hcur.window
  | blockRecovery =>
    exact hcur.confirm hconfirms (.inl (hother (t := manualReviewRequired) rfl (by decide))) hcur.window
  | recoverTimedOut =>
    exact hcur.confirm hconfirms (.inl (hother (t := mirrorConfirmationPending) rfl (by decide))) rfl
  | recoverFailed =>
    exact hcur.confirm hconfirms (.inl (hother (t := confirmationFailed) rfl (by decide))) hcur.window
  | recoverSettled =>
    exact hcur.confirm hconfirms (.inl (hother (t := manualReviewRequired) rfl (by decide))) hcur.window

/-! ## Outbox -/

/-- The payment and its confirmation stay as they are; only the outbox changes. -/
theorem Sound.notify (h : Sound cur) (hnotifies : Notifies cur next)
    (hevidence : next.hcsEvidence.any HcsEvidenceRecord.published →
      next.hcsPublicationClaim.any fun claim => claim.status = .published)
    (hsequence : ∀ claim ∈ next.hcsPublicationClaim, claim.status ≠ .published → claim.sequence = none) : Sound next := by
  have htarget := hnotifies.target
  have hleft {L : List ReservationState} (hL : ∀ t ∈ POST_RESERVATION_STATES, t ∉ L) : next.state ∉ L := hL _ htarget
  refine .of rfl (.inl ?_) (.inl (hleft (by decide))) (.inl (hleft (by decide))) (.inl (hleft (by decide))) ?_ ?_
    hevidence hsequence
  · intro ht
    rw [ht] at htarget
    exact absurd htarget (by decide)
  · rw [hnotifies.rest]
    exact h.window
  · rw [hnotifies.rest]
    exact h.trimmed

theorem OutboxChange.sound (h : OutboxChange deps w site cur next) (hvalid : Valid deps.crypto cur) (hcur : Sound cur) :
    Sound next := by
  have hnotifies := h.notifies hvalid
  cases h with
  | webhookEvents => exact hcur.notify hnotifies hcur.evidence hcur.sequence
  | deliveries hevents hdelivered hnow hmoved =>
    have hrest := hmoved.rest.2
    refine hcur.notify hnotifies ?_ ?_
    · rw [hrest]
      exact hcur.evidence
    · rw [hrest]
      exact hcur.sequence
  | claimHcs hreserved hnone =>
    refine hcur.notify hnotifies ?_ ?_
    · intro hpublished
      have hclaim := hcur.evidence hpublished
      rw [hnone] at hclaim
      cases hclaim
    · intro claim hclaim _
      cases hclaim
      rfl
  | @resolving _ before claim now hreserved hclaim hunpublished hsame hresult =>
    refine hcur.notify hnotifies ?_ ?_
    · intro hpublished
      have hpub := hcur.evidence hpublished
      rw [hclaim] at hpub
      exact absurd (by simpa using hpub) hunpublished
    · intro c hc _
      cases hc
      exact hresult.trans (hcur.sequence before hclaim hunpublished)
  | hcsPublished hreserved hclaim hunpublished hsame hresult hnow hmoved =>
    have hrest := hmoved.rest.2
    refine hcur.notify hnotifies ?_ ?_
    · rw [hrest]
      intro _
      rfl
    · rw [hrest]
      intro claim hc hne
      cases hc
      exact absurd rfl hne
  | @hcsFailed _ _ claim envelopeHash lastError now hreserved hfailed hunpublished hnow hmoved =>
    have hrest := hmoved.rest.2
    refine hcur.notify hnotifies ?_ ?_
    · rw [hrest]
      intro hpublished
      cases hpublished
    · rw [hrest]
      cases hfailed with
      | absent hnone =>
        intro c hc
        simp [hnone] at hc
      | present hclaim hne hsame hstatus hresult =>
        intro c hc _
        cases hc
        exact hresult.trans (hcur.sequence _ hclaim hne)
  | hcsRecorded => exact hcur.notify hnotifies hcur.evidence hcur.sequence
  | complete => exact hcur.notify hnotifies hcur.evidence hcur.sequence

end Step

/-! ## Every stored record -/

section Stored
variable {deps : ServiceDeps} {auction : Auction} {w : Trace} {site : CommitSite} {cur next r : ReservationRecord}

theorem Change.sound (h : Change deps w site cur next) (hw : Lawful deps auction w) {id : JsString}
    (hcur : cur ∈ versions w id) (hsound : ∀ r ∈ versions w id, Sound r) : Sound next := by
  have hvalid := hw.valid hcur
  cases h with
  | submission h => exact h.sound (hsound cur hcur) (hw.transactionId_none hcur)
  | confirmation h =>
    have hid := hw.reservationId_eq hcur
    subst hid
    exact h.sound hw hvalid hsound (hsound cur hcur)
  | outbox h => exact h.sound hvalid (hsound cur hcur)

/-- **The invariant holds of every stored record.** -/
theorem Lawful.sound {id : JsString} (hw : Lawful deps auction w) (hr : r ∈ versions w id) : Sound r := by
  refine Lawful.versions_strong (P := fun _ r => Sound r) (fun _ h => h) ?_ ?_ hw r hr
  · intro w input tender record hrecord _ _
    obtain ⟨offer, rfl⟩ := reservationOf_spec hrecord
    exact .of (t := offerCreated) rfl (.inr rfl) (.inr rfl) (.inr rfl) (.inr rfl) rfl
      (fun h => absurd h Bool.false_ne_true) (fun h => absurd h Bool.false_ne_true) fun claim hclaim => by cases hclaim
  · intro w site cur next hw hcur ih hchange _ _
    have hnext := hchange.sound hw (mem_versions_of_stored hcur) ih
    exact ⟨hnext.1, hnext.2, hnext.3, hnext.4, hnext.5, hnext.6, hnext.7, hnext.8⟩

/-! ## The start of the confirmation -/

/-- The poll after a change starts where a poll before it started, unless there was none. -/
theorem Change.startedAt (h : Change deps w site cur next) (hw : Lawful deps auction w) {id : JsString}
    (hcur : cur ∈ versions w id) {poll : MirrorPollRecord} (hpoll : next.mirrorPoll = some poll) :
    (∃ q ∈ versions w id, ∃ p ∈ q.mirrorPoll, poll.confirmationStartedAt = p.confirmationStartedAt) ∨
      cur.state ∈ UNPOLLED_STATES := by
  have hvalid := hw.valid hcur
  have hid := hw.reservationId_eq hcur
  have hsame (h : next.mirrorPoll = cur.mirrorPoll) :
      ∃ q ∈ versions w id, ∃ p ∈ q.mirrorPoll, poll.confirmationStartedAt = p.confirmationStartedAt :=
    ⟨cur, hcur, poll, h ▸ hpoll, rfl⟩
  have hin {s : ReservationState} (hs : cur.state = s) (hmem : s ∈ UNPOLLED_STATES) : cur.state ∈ UNPOLLED_STATES :=
    hs ▸ hmem
  -- what a lookup leaves starts where the loaded poll started
  have hpolled {before : ReservationRecord} {txId deadline pollAt : JsString}
      {answer : Except ServiceError MirrorConfirmation} (h : Polled w cur before txId deadline pollAt answer) :
      ∃ q ∈ versions w id, ∃ p ∈ q.mirrorPoll,
        (pollOf before txId deadline pollAt answer).confirmationStartedAt = p.confirmationStartedAt := by
    have hloaded := h.loaded
    rw [hid] at hloaded
    have hpending := h.pending hw fun r hr => hw.sound hr
    obtain ⟨p, hp⟩ := Option.isSome_iff_exists.mp ((hw.valid hloaded).confirming (by rw [hpending]; decide)).2
    refine ⟨before, hloaded, p, hp, ?_⟩
    simp [pollOf, hp]
  cases h with
  | submission h =>
    cases h with
    | adopt hstate => exact .inr (hin hstate (by decide))
    | recoverAdopt hstate => exact .inr (hin hstate (by decide))
    | authorizeReplacement => cases hpoll
    | _ => exact .inl (hsame rfl)
  | confirmation h =>
    cases h with
    | beginConfirmation hstate => exact .inr (hin hstate (by decide))
    | renewDeadline hstate hmissing => exact absurd (hvalid.confirming (by rw [hstate]; decide)).1 hmissing
    | rebuildPoll hstate hmissing =>
      have := (hvalid.confirming (by rw [hstate]; decide)).2
      rw [hmissing] at this
      cases this
    | poll h =>
      cases hpoll
      exact .inl (hpolled h)
    | mirrorFailed hmoved h =>
      cases hpoll
      exact .inl (hpolled h)
    | confirm hmoved h =>
      rw [hmoved.rest.2] at hpoll
      cases hpoll
      exact .inl (hpolled h)
    | failConfirmation hmoved h =>
      cases hpoll
      exact .inl (hpolled h)
    | timeOut hmoved h =>
      cases hpoll
      exact .inl (hpolled h)
    | pollBound hmoved =>
      have hkept := congrArg ReservationRecord.mirrorPoll hmoved.rest.2
      exact .inl (hsame hkept)
    | recoverTimedOut hstate =>
      obtain ⟨p, hp⟩ := Option.isSome_iff_exists.mp (hvalid.confirming (by rw [hstate]; decide)).2
      cases hpoll
      refine .inl ⟨cur, hcur, p, hp, ?_⟩
      simp [resumedPoll, hp]
    | _ => exact .inl (hsame rfl)
  | outbox h =>
    have hkept := congrArg ReservationRecord.mirrorPoll (h.notifies hvalid).rest
    exact .inl (hsame hkept)

/-- The confirmation of a reservation has one start. -/
theorem Lawful.startedAt_eq {id : JsString} (hw : Lawful deps auction w) {r r' : ReservationRecord}
    (hr : r ∈ versions w id) (hr' : r' ∈ versions w id) {p p' : MirrorPollRecord} (hp : r.mirrorPoll = some p)
    (hp' : r'.mirrorPoll = some p') : p'.confirmationStartedAt = p.confirmationStartedAt := by
  induction hw generalizing r r' p p' with
  | nil => cases hr
  | @snoc w call answer hw hallowed hanswer ih =>
    have hwritten := written_of_call hw.numbered hallowed hanswer id
    rw [versions_snoc, List.mem_append] at hr hr'
    -- what a new record's poll starts with, against the records before it
    have hnew {n q : ReservationRecord} {pn pq : MirrorPollRecord} (hn : n ∈ (CallRecord.written id ⟨call, answer⟩).toList)
        (hq : q ∈ versions w id) (hpn : n.mirrorPoll = some pn) (hpq : q.mirrorPoll = some pq) :
        pn.confirmationStartedAt = pq.confirmationStartedAt := by
      rw [Option.mem_toList.mp hn] at hwritten
      cases hwritten with
      | created hrecord =>
        obtain ⟨offer, rfl⟩ := reservationOf_spec hrecord
        cases hpn
      | changed hcur hid hchange hvalid =>
        have hmem := mem_versions_of_stored hcur
        rcases hchange.startedAt hw hmem hpn with ⟨q', hq', p', hp', heq⟩ | hunpolled
        · exact heq.trans (ih hq hq' hpq hp')
        · have hreached := hw.reached_later hq hmem (hw.le_stored hq hcur)
            ((hw.sound hq).reached (by rw [hpq]; rfl))
          exfalso
          revert hreached hunpolled
          cases (ReservationRecord.state _) <;> decide
    rcases hr with hr | hr <;> rcases hr' with hr' | hr'
    · exact ih hr hr' hp hp'
    · exact hnew hr' hr hp' hp
    · exact (hnew hr hr' hp hp').symm
    · have heq : r = r' := Option.some.inj ((Option.mem_toList.mp hr).symm.trans (Option.mem_toList.mp hr'))
      subst heq
      rw [hp] at hp'
      cases hp'
      rfl

end Stored

end RouteGuard.Reservation
