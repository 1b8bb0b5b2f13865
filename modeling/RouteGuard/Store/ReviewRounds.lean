import RouteGuard.Store.CheckedRuns

/-!
# Review rounds and their signatures

A signed review names the POD and the review deadline, not the version of the POD. It can serve only one version
while no two review rounds end at the same instant.

* `roundEnds` : the ends of the review rounds of a run;
* `Rounds` : the version under review is the number of the round, and the review deadline is the end of the round;
* `review_signature_binds_version` : with different ends, a signed review of one version is refused for any other;
* `review_signature_reused` : two rounds that end together, and one acceptance that both take.
-/

namespace RouteGuard.Store
open JsString Guarded Access Auth Trust Lifecycle V2LifecycleState

/-! ## Rounds -/

/-- The times at which reviews were started. -/
def reviewStarts (es : List LifecycleEvent) : List JsString :=
  (es.filter fun e => e.type = .podReviewStarted).map (·.eventTime)

/-- The window of a round: 48 hours for the first, 24 hours after a resubmission. -/
def reviewWindow (round : Nat) : Nat :=
  if round = 0 then REVIEW_WINDOW_SECONDS else POST_RESUBMIT_REVIEW_WINDOW_SECONDS

/-- The end of a round that starts at the given time. -/
def roundEnd (round : Nat) (start : JsString) : Option Int :=
  (instant start).map fun x => x + reviewWindow round * 1000000000

/-- The instants at which the rounds end. -/
def roundEnds (es : List LifecycleEvent) : List (Option Int) := (reviewStarts es).mapIdx roundEnd

theorem length_roundEnds (es : List LifecycleEvent) : (roundEnds es).length = (reviewStarts es).length :=
  List.length_mapIdx

theorem reviewStarts_append (es es' : List LifecycleEvent) :
    reviewStarts (es ++ es') = reviewStarts es ++ reviewStarts es' := by
  simp [reviewStarts]

theorem reviewStarts_snoc {es : List LifecycleEvent} {event : LifecycleEvent} (h : event.type ≠ .podReviewStarted) :
    reviewStarts (es ++ [event]) = reviewStarts es := by
  simp [reviewStarts, h]

theorem reviewStarts_started {es : List LifecycleEvent} {event : LifecycleEvent}
    (h : event.type = .podReviewStarted) : reviewStarts (es ++ [event]) = reviewStarts es ++ [event.eventTime] := by
  simp [reviewStarts, h]

theorem roundEnds_getElem? (es : List LifecycleEvent) (round : Nat) :
    (roundEnds es)[round]? = (reviewStarts es)[round]?.map (roundEnd round) := by
  rw [roundEnds, List.getElem?_mapIdx]

/-- Later events do not change the ends of earlier rounds. -/
theorem roundEnds_append {es : List LifecycleEvent} {round : Nat} (h : round < (reviewStarts es).length)
    (es' : List LifecycleEvent) : (roundEnds (es ++ es'))[round]? = (roundEnds es)[round]? := by
  rw [roundEnds_getElem?, roundEnds_getElem?, reviewStarts_append, List.getElem?_append_left h]

/-! ## The round of a record -/

def beforeReview : List V2LifecycleState :=
  [draft, escrowFunded, tenderOpened, bidding, auctionClosed, noQualifiedBid, winnerSelected, winningAmountLocked,
   routeReserved, inTransit, deliveryReported, podSubmitted]

/-- The round under review is the last one: its number is the version, its end the review deadline. -/
def InRound (es : List LifecycleEvent) (r : LifecycleRecord) : Prop :=
  ∃ round deadline, (reviewStarts es).length = round + 1 ∧ r.podVersion = some (round + 1 : Int) ∧
    r.reviewDeadlineAt = some deadline ∧ (roundEnds es)[round]? = some (instant deadline) ∧ (instant deadline).isSome

/-- The rounds so far and the version of the POD. -/
structure Rounds (es : List LifecycleEvent) (r : LifecycleRecord) : Prop where
  unstarted : r.state ∈ beforeReview → reviewStarts es = []
  submitted : r.state = .podSubmitted → r.podVersion = some 1
  review : r.state = .podUnderReview → InRound es r
  correction : r.state = .podCorrectionRequested →
    ∃ round, (reviewStarts es).length = round + 1 ∧ r.podVersion = some (round + 1 : Int)
  resubmitted : r.state = .podResubmitted →
    ∃ round, (reviewStarts es).length = round + 1 ∧ r.podVersion = some (round + 2 : Int)

section Rounds
variable {p : Platform} {carriers : Option CarrierRegistry} {es : List LifecycleEvent} {r next : LifecycleRecord}
  {event : LifecycleEvent}

/-- A step outside the review loop. -/
theorem Rounds.outside (h : Rounds es r) (htype : event.type ≠ .podReviewStarted)
    (hbefore : next.state ∈ beforeReview → r.state ∈ beforeReview)
    (hnext : next.state ∉ [podSubmitted, podUnderReview, podCorrectionRequested, podResubmitted]) :
    Rounds (es ++ [event]) next := by
  simp only [List.mem_cons, List.not_mem_nil, or_false, not_or] at hnext
  obtain ⟨h1, h2, h3, h4⟩ := hnext
  refine ⟨fun hs => ?_, fun hs => absurd hs h1, fun hs => absurd hs h2, fun hs => absurd hs h3, fun hs => absurd hs h4⟩
  rw [reviewStarts_snoc htype]
  exact h.unstarted (hbefore hs)

/-- A step that only adds to the history. -/
theorem Rounds.keep (h : Rounds es r) (htype : event.type ≠ .podReviewStarted) (hstate : next.state = r.state)
    (hversion : next.podVersion = r.podVersion) (hdeadline : next.reviewDeadlineAt = r.reviewDeadlineAt) :
    Rounds (es ++ [event]) next := by
  have hstarts : reviewStarts (es ++ [event]) = reviewStarts es := reviewStarts_snoc htype
  have hends (round : Nat) (hround : round < (reviewStarts es).length) :
      (roundEnds (es ++ [event]))[round]? = (roundEnds es)[round]? := roundEnds_append hround [event]
  refine ⟨fun hs => ?_, fun hs => ?_, fun hs => ?_, fun hs => ?_, fun hs => ?_⟩
  · rw [hstarts]
    exact h.unstarted (hstate ▸ hs)
  · rw [hversion]
    exact h.submitted (hstate ▸ hs)
  · obtain ⟨round, deadline, hlength, hv, hd, hend, hsome⟩ := h.review (hstate ▸ hs)
    exact ⟨round, deadline, hstarts ▸ hlength, hversion.trans hv, hdeadline.trans hd,
      (hends round (by omega)).trans hend, hsome⟩
  · obtain ⟨round, hlength, hv⟩ := h.correction (hstate ▸ hs)
    exact ⟨round, hstarts ▸ hlength, hversion.trans hv⟩
  · obtain ⟨round, hlength, hv⟩ := h.resubmitted (hstate ▸ hs)
    exact ⟨round, hstarts ▸ hlength, hversion.trans hv⟩

/-- A review starts: one more round, whose end is the deadline. -/
theorem Rounds.started (h : Rounds es r) {window : Nat} {deadline : JsString} (htype : event.type = .podReviewStarted)
    (hstate : r.state = .podSubmitted ∧ window = REVIEW_WINDOW_SECONDS ∨
      r.state = .podResubmitted ∧ window = POST_RESUBMIT_REVIEW_WINDOW_SECONDS)
    (hdeadline : addUtcSeconds event.eventTime window = .ok deadline) (hutc : isUtcIsoTimestamp deadline)
    (htime : isUtcIsoTimestamp event.eventTime) (hnext : next.state = .podUnderReview)
    (hversion : next.podVersion = r.podVersion) (hreview : next.reviewDeadlineAt = some deadline) :
    Rounds (es ++ [event]) next := by
  have hstarts : reviewStarts (es ++ [event]) = reviewStarts es ++ [event.eventTime] := reviewStarts_started htype
  obtain ⟨round, hlength, hv, hwindow⟩ : ∃ round, (reviewStarts es).length = round ∧
      r.podVersion = some (round + 1 : Int) ∧ window = reviewWindow round := by
    rcases hstate with ⟨hs, rfl⟩ | ⟨hs, rfl⟩
    · exact ⟨0, by rw [h.unstarted (by rw [hs]; decide)]; rfl, h.submitted hs, rfl⟩
    · obtain ⟨round, hlength, hv⟩ := h.resubmitted hs
      refine ⟨round + 1, hlength, hv.trans ?_, by simp [reviewWindow]⟩
      push_cast
      rw [add_assoc]
      rfl
  obtain ⟨x, hx⟩ := isUtcIsoTimestamp_iff.mp htime
  have hlt := (deadline_format htime hdeadline).mp hutc x hx
  have hinstant : instant deadline = some (x + window * 1000000000) := by
    rw [instant_addUtcSeconds hx hdeadline, if_pos hlt]
  have hend : (roundEnds (es ++ [event]))[round]? = some (instant deadline) := by
    rw [roundEnds_getElem?, hstarts, ← hlength, List.getElem?_concat_length, hlength, hinstant, hwindow]
    simp only [Option.map_some, roundEnd, hx]
  refine ⟨fun hs => ?_, fun hs => ?_, fun _ => ⟨round, deadline, ?_, hversion.trans hv, hreview, hend, ?_⟩,
    fun hs => ?_, fun hs => ?_⟩
  · rw [hnext] at hs
    exact absurd hs (by decide)
  · rw [hnext] at hs
    cases hs
  · rw [hstarts, List.length_append, hlength, List.length_singleton]
  · rw [hinstant]
    rfl
  · rw [hnext] at hs
    cases hs
  · rw [hnext] at hs
    cases hs

/-- **What one successful call does to the rounds.** -/
theorem rounds_step (h : Rounds es r) (happlies : Applies p carriers r event next) : Rounds (es ++ [event]) next := by
  obtain ⟨auth, -, hreduce⟩ := happlies.reduces
  obtain ⟨htime, -, hreduces⟩ := reduceLifecycle_ok hreduce
  have hpod := happlies.accepted.pod
  have htypes (type : LifecycleEventType) (htype : event.body.type = type) (hne : type ≠ .podReviewStarted) :
      event.type ≠ .podReviewStarted := by
    rw [LifecycleEvent.type, htype]
    exact hne
  -- steps that lead neither into the review loop nor through it
  have outside (type : LifecycleEventType) (htype : event.body.type = type) (hne : type ≠ .podReviewStarted)
      {s s' : V2LifecycleState} {patched : LifecycleRecord} (hs : r.state = s)
      (hnext : (s' ∈ beforeReview → s ∈ beforeReview) ∧
        s' ∉ [podSubmitted, podUnderReview, podCorrectionRequested, podResubmitted]) :
      Rounds (es ++ [event]) (moved p r s' event patched) :=
    h.outside (htypes type htype hne) (fun hb => hs ▸ hnext.1 hb) hnext.2
  have out (s : V2LifecycleState) {s' : V2LifecycleState} {P : Prop} (hne : s ≠ s') (hs : s = s') : P := absurd hs hne
  generalize hb : event.body = b at hreduces
  cases hreduces with
  | escrowFundingConfirmed hs => exact outside .escrowFundingConfirmed (congrArg _ hb) (by decide) hs (by decide)
  | tenderActivationPaid hs => exact outside .tenderActivationPaid (congrArg _ hb) (by decide) hs (by decide)
  | bidSubmissionPaid hs =>
    rcases hs with hs | hs
    · exact outside .bidSubmissionPaid (congrArg _ hb) (by decide) hs (by decide)
    · exact outside .bidSubmissionPaid (congrArg _ hb) (by decide) hs (by decide)
  | biddingStarted hs => exact outside .biddingStarted (congrArg _ hb) (by decide) hs (by decide)
  | auctionCloseConfirmed hs => exact outside .auctionCloseConfirmed (congrArg _ hb) (by decide) hs (by decide)
  | noQualifiedBidConfirmed hs => exact outside .noQualifiedBidConfirmed (congrArg _ hb) (by decide) hs (by decide)
  | winnerSelectionConfirmed hs => exact outside .winnerSelectionConfirmed (congrArg _ hb) (by decide) hs (by decide)
  | winningAmountAllocationConfirmed hs =>
    exact outside .winningAmountAllocationConfirmed (congrArg _ hb) (by decide) hs (by decide)
  | routeReservationPublished hs => exact outside .routeReservationPublished (congrArg _ hb) (by decide) hs (by decide)
  | transitStarted hs => exact outside .transitStarted (congrArg _ hb) (by decide) hs (by decide)
  | deliveryReported hs => exact outside .deliveryReported (congrArg _ hb) (by decide) hs (by decide)
  | @podPackageSubmitted e hs hpackage =>
    have hstarts : reviewStarts (es ++ [event]) = reviewStarts es :=
      reviewStarts_snoc (htypes .podPackageSubmitted (congrArg _ hb) (by decide))
    refine ⟨fun _ => ?_, fun _ => ?_, out podSubmitted (by decide), out podSubmitted (by decide),
      out podSubmitted (by decide)⟩
    · rw [hstarts]
      exact h.unstarted (by rw [hs]; decide)
    · show some e.podVersion = some 1
      rw [hpackage.2.1]
  | podReviewStarted hs hdeadline =>
    have hutc := hpod.reviewDeadlineAt _ rfl
    exact h.started (by rw [LifecycleEvent.type, hb]; rfl) hs hdeadline hutc (isUtcIsoTimestamp_of_notAfter htime)
      rfl rfl rfl
  | podCorrectionRequested hs =>
    have hstarts : reviewStarts (es ++ [event]) = reviewStarts es :=
      reviewStarts_snoc (htypes .podCorrectionRequested (congrArg _ hb) (by decide))
    obtain ⟨round, deadline, hlength, hv, -⟩ := h.review hs
    have hlater : podCorrectionRequested ∉ beforeReview := by decide
    exact ⟨fun hs => absurd hs hlater, out podCorrectionRequested (by decide), out podCorrectionRequested (by decide),
      fun _ => ⟨round, hstarts ▸ hlength, hv⟩, out podCorrectionRequested (by decide)⟩
  | @podPackageResubmitted e _ hs _ _ _ _ hversion =>
    have hstarts : reviewStarts (es ++ [event]) = reviewStarts es :=
      reviewStarts_snoc (htypes .podPackageResubmitted (congrArg _ hb) (by decide))
    obtain ⟨round, hlength, hv⟩ := h.correction hs
    have hlater : podResubmitted ∉ beforeReview := by decide
    refine ⟨fun hs => absurd hs hlater, out podResubmitted (by decide), out podResubmitted (by decide),
      out podResubmitted (by decide), fun _ => ⟨round, hstarts ▸ hlength, ?_⟩⟩
    show some e.podVersion = _
    rw [hversion, hv, Option.getD_some, add_assoc]
    rfl
  | podAcceptedByShipper hs => exact outside .podAcceptedByShipper (congrArg _ hb) (by decide) hs (by decide)
  | podReviewDeadlineExpired hs => exact outside .podReviewDeadlineExpired (congrArg _ hb) (by decide) hs (by decide)
  | podCorrectionDeadlineExpired hs =>
    exact outside .podCorrectionDeadlineExpired (congrArg _ hb) (by decide) hs (by decide)
  | podRejectedToDispute hs => exact outside .podRejectedToDispute (congrArg _ hb) (by decide) hs (by decide)
  | refereeResolutionRecorded hs => exact outside .refereeResolutionRecorded (congrArg _ hb) (by decide) hs (by decide)
  | escrowReleaseConfirmed hs =>
    rcases hs with hs | hs | hs
    · exact outside .escrowReleaseConfirmed (congrArg _ hb) (by decide) hs (by decide)
    · exact outside .escrowReleaseConfirmed (congrArg _ hb) (by decide) hs (by decide)
    · exact outside .escrowReleaseConfirmed (congrArg _ hb) (by decide) hs.1 (by decide)
  | escrowPartialReleaseConfirmed hs =>
    exact outside .escrowPartialReleaseConfirmed (congrArg _ hb) (by decide) hs.1 (by decide)
  | escrowRefundConfirmed hs =>
    rcases hs with ⟨hs, -⟩ | ⟨hs, -⟩
    · exact outside .escrowRefundConfirmed (congrArg _ hb) (by decide) hs (by decide)
    · exact outside .escrowRefundConfirmed (congrArg _ hb) (by decide) hs.1 (by decide)
  | tenderCompletionConfirmed hs =>
    rcases hs with hs | hs | hs
    · exact outside .tenderCompletionConfirmed (congrArg _ hb) (by decide) hs (by decide)
    · exact outside .tenderCompletionConfirmed (congrArg _ hb) (by decide) hs (by decide)
    · exact outside .tenderCompletionConfirmed (congrArg _ hb) (by decide) hs (by decide)
  | podAdvisoryAnchored =>
    exact h.keep (htypes .podAdvisoryAnchored (congrArg _ hb) (by decide)) rfl rfl rfl

theorem rounds_of_run (h : (applySystem p carriers).Run es r) : Rounds es r := by
  refine System.Run.induction (S := applySystem p carriers) (I := Rounds) ?_ ?_ h
  · rintro s ⟨⟨input, hcreate⟩, -⟩
    simp only [createLifecycleRecord, bind_eq_ok, require_eq_ok, exists_const, pure_eq_ok] at hcreate
    obtain ⟨-, rfl⟩ := hcreate
    refine ⟨fun _ => rfl, ?_, ?_, ?_, ?_⟩ <;>
    · intro hs
      cases hs
  · intro es r event next _ ih hstep
    exact rounds_step ih hstep

end Rounds

/-! ## Signed reviews -/

/-- The payload and the signature that a review event carries for a record. -/
def signedReview (r : LifecycleRecord) (event : LifecycleEvent) : Option (ShipperPodReviewSignPayload × JsString) :=
  let signed (action : ShipperReviewActionKind) (reasons : List ReviewReason) (e : ShipperSigned) :=
    (present r.podId).map fun podId =>
      (buildShipperPodReviewSignPayload (reviewPayload r event podId action reasons e), e.shipperSignature)
  match event.body with
  | .podAcceptedByShipper e => signed .accept [] e.toShipperSigned
  | .podCorrectionRequested e => signed .requestCorrection e.reasons e.toShipperSigned
  | .podRejectedToDispute e => signed .rejectDispute e.reasons e.toShipperSigned
  | _ => none

/-- The signed payload verifies for the review of the record: it is of its tender, its POD and its review deadline,
and its signature verifies under the shipper key of the record. -/
structure VerifiesFor (p : Platform) (r : LifecycleRecord) (payload : ShipperPodReviewSignPayload)
    (signature : JsString) : Prop where
  tender : payload.tenderId = r.tenderId ∧ payload.tenderVersion = r.tenderVersion
  pod : r.podId = some payload.podId
  deadline : r.reviewDeadlineAt = some payload.reviewDeadlineAt
  signed : verifyCanonicalPayload p payload.toJson signature r.trust.shipperPublicKey

section Signed
variable {p : Platform} {carriers : Option CarrierRegistry} {es es' : List LifecycleEvent}
  {r r' next : LifecycleRecord} {event : LifecycleEvent} {payload : ShipperPodReviewSignPayload} {signature : JsString}

theorem reviewDeadlineAt_of_map {podId : Option JsString} {action : ShipperReviewActionKind}
    {reasons : List ReviewReason} {e : ShipperSigned}
    (h : (podId.map fun podId =>
      (buildShipperPodReviewSignPayload (reviewPayload r event podId action reasons e), e.shipperSignature)) =
        some (payload, signature)) : payload.reviewDeadlineAt = e.reviewDeadlineAt := by
  obtain ⟨_, -, heq⟩ := Option.map_eq_some_iff.mp h
  cases heq
  rfl

/-- An applied review names the review deadline of the record. -/
theorem reviewDeadlineAt_of_applies (h : Applies p carriers r event next)
    (hsigned : signedReview r event = some (payload, signature)) :
    r.reviewDeadlineAt = some payload.reviewDeadlineAt := by
  obtain ⟨auth, -, hreduce⟩ := h.reduces
  obtain ⟨-, -, hreduces⟩ := reduceLifecycle_ok hreduce
  simp only [signedReview] at hsigned
  generalize event.body = b at hreduces hsigned
  cases hreduces with
  | podAcceptedByShipper _ hwithin =>
    rw [reviewDeadlineAt_of_map hsigned]
    exact hwithin.1
  | podCorrectionRequested _ _ hwithin =>
    rw [reviewDeadlineAt_of_map hsigned]
    exact hwithin.1
  | podRejectedToDispute _ _ _ hwithin =>
    rw [reviewDeadlineAt_of_map hsigned]
    exact hwithin.1
  | _ => cases hsigned

/-- Two reviews of one run with one deadline are the same round. -/
theorem version_eq_of_deadline (hrun : (applySystem p carriers).Run es r)
    (hsteps : (applySystem p carriers).Steps r es' r') (hapart : (roundEnds (es ++ es')).Nodup)
    (hreview : r.state = .podUnderReview) (hreview' : r'.state = .podUnderReview)
    (hdeadline : r.reviewDeadlineAt = r'.reviewDeadlineAt) : r.podVersion = r'.podVersion := by
  obtain ⟨round, deadline, hlength, hv, hd, hend, -⟩ := (rounds_of_run hrun).review hreview
  obtain ⟨round', deadline', hlength', hv', hd', hend', -⟩ := (rounds_of_run (hrun.append hsteps)).review hreview'
  have hsame : deadline = deadline' := Option.some.inj (hd.symm.trans (hdeadline.trans hd'))
  have hin : (roundEnds (es ++ es'))[round]? = some (instant deadline) := by
    rw [roundEnds_append (by omega)]
    exact hend
  have hround : round = round' := by
    refine (List.getElem?_inj ?_ hapart).mp (hin.trans (hsame ▸ hend'.symm))
    rw [length_roundEnds, reviewStarts_append, List.length_append]
    omega
  rw [hv, hv', hround]

/-- **A signed review serves one version.** In a run whose review rounds end at different instants, a signed payload
that verifies for the review of one version of the POD is refused for the review of any other, earlier or later. -/
theorem review_signature_binds_version (hrun : (applySystem p carriers).Run es r)
    (hsteps : (applySystem p carriers).Steps r es' r') (hapart : (roundEnds (es ++ es')).Nodup)
    (hreview : r.state = .podUnderReview) (hreview' : r'.state = .podUnderReview)
    (hversion : r.podVersion ≠ r'.podVersion) (payload : ShipperPodReviewSignPayload) (signature : JsString)
    (event : LifecycleEvent) (next : LifecycleRecord) :
    (VerifiesFor p r payload signature → signedReview r' event = some (payload, signature) →
      ¬ Applies p carriers r' event next) ∧
    (VerifiesFor p r' payload signature → signedReview r event = some (payload, signature) →
      ¬ Applies p carriers r event next) := by
  constructor
  · intro hverifies hsigned happlies
    refine hversion (version_eq_of_deadline hrun hsteps hapart hreview hreview' ?_)
    rw [hverifies.deadline, reviewDeadlineAt_of_applies happlies hsigned]
  · intro hverifies hsigned happlies
    refine hversion (version_eq_of_deadline hrun hsteps hapart hreview hreview' ?_)
    rw [hverifies.deadline, reviewDeadlineAt_of_applies happlies hsigned]

end Signed

/-! ## Two rounds of the sample tender -/

namespace Sample
open Lifecycle.Sample

/-- The acceptance that the shipper signed in the first round. -/
def acceptance (eventTime : JsString) : LifecycleEvent :=
  ⟨js "a15", eventTime,
   .podAcceptedByShipper ⟨⟨signature, js "2026-01-04T02:40:00Z", js "2026-01-06T02:00:00.000Z"⟩⟩⟩

/-- The correction, the second version, and its review from the given time on. -/
def secondRound (eventTime : JsString) : List LifecycleEvent :=
  [correction, ⟨js "a13", js "2026-01-05T01:00:00Z", .podPackageResubmitted ⟨js "pod-1", 2, manifest, manifest⟩⟩,
   ⟨js "a14", eventTime, .podReviewStarted⟩]

/-- The two reviews, and what the signed acceptance is to each. -/
structure TwoRounds (eventTime : JsString) (r r' : LifecycleRecord) : Prop where
  run : (applySystem signedReviews none).Run (events.take 11) r
  steps : (applySystem signedReviews none).Steps r (secondRound eventTime) r'
  review : r.state = .podUnderReview ∧ r'.state = .podUnderReview
  versions : r.podVersion = some 1 ∧ r'.podVersion = some 2
  verifies : VerifiesFor signedReviews r acceptPayload signature
  signed : signedReview r (acceptance (js "2026-01-04T02:50:00Z")) = some (acceptPayload, signature) ∧
    signedReview r' (acceptance (js "2026-01-05T03:30:00Z")) = some (acceptPayload, signature)

/-- What is computed of the two reviews. -/
def twoRoundsCheck (r r' : LifecycleRecord) : Prop :=
  (r.state = .podUnderReview ∧ r'.state = .podUnderReview) ∧ (r.podVersion = some 1 ∧ r'.podVersion = some 2) ∧
    (acceptPayload.tenderId = r.tenderId ∧ acceptPayload.tenderVersion = r.tenderVersion) ∧
    r.podId = some acceptPayload.podId ∧ r.reviewDeadlineAt = some acceptPayload.reviewDeadlineAt ∧
    verifyCanonicalPayload signedReviews acceptPayload.toJson signature r.trust.shipperPublicKey ∧
    signedReview r (acceptance (js "2026-01-04T02:50:00Z")) = some (acceptPayload, signature) ∧
    signedReview r' (acceptance (js "2026-01-05T03:30:00Z")) = some (acceptPayload, signature)

instance (r r' : LifecycleRecord) : Decidable (twoRoundsCheck r r') := inferInstanceAs (Decidable (_ ∧ _))

theorem twoRounds_of_check {eventTime : JsString} {r r' : LifecycleRecord}
    (hr : checkedRun signedReviews none input (events.take 11) = some r)
    (hr' : System.execute (checkedStep signedReviews none) (secondRound eventTime) r = some r')
    (h : twoRoundsCheck r r') : TwoRounds eventTime r r' := by
  have hp : signedReviews.HexDigest := hexDigest_asciiPlatform _
  have hrun := run_of_checked hp inputFormat hr
  obtain ⟨hreview, hversions, htender, hpod, hdeadline, hsigned, hsigned1, hsigned2⟩ := h
  exact ⟨hrun, steps_of_checked hp hrun hr', hreview, hversions, ⟨htender, hpod, hdeadline, hsigned⟩,
    ⟨hsigned1, hsigned2⟩⟩

end Sample

open Lifecycle.Sample Sample in
/-- The second review starts 24 hours after the first, and ends with it: the acceptance signed for the first version
is applied to either. -/
theorem review_signature_reused :
    ∃ r r' next next', TwoRounds (js "2026-01-05T02:00:00Z") r r' ∧
      Applies signedReviews none r (acceptance (js "2026-01-04T02:50:00Z")) next ∧
      Applies signedReviews none r' (acceptance (js "2026-01-05T03:30:00Z")) next' := by
  have h : ∃ r ∈ checkedRun signedReviews none input (events.take 11),
      ∃ r' ∈ System.execute (checkedStep signedReviews none) (secondRound (js "2026-01-05T02:00:00Z")) r,
        twoRoundsCheck r r' ∧
        (∃ next ∈ checkedStep signedReviews none r (acceptance (js "2026-01-04T02:50:00Z")), True) ∧
        ∃ next ∈ checkedStep signedReviews none r' (acceptance (js "2026-01-05T03:30:00Z")), True := by
    decide +kernel
  obtain ⟨r, hr, r', hr', hcheck, ⟨next, hnext, -⟩, next', hnext', -⟩ := h
  have hp : signedReviews.HexDigest := hexDigest_asciiPlatform _
  have hrounds := twoRounds_of_check hr hr' hcheck
  exact ⟨r, r', next, next', hrounds, applies_of_checked hp hrounds.run hnext,
    applies_of_checked hp (hrounds.run.append hrounds.steps) hnext'⟩

open Lifecycle.Sample Sample in
/-- The second review starts an hour later: the acceptance of the first version is refused. -/
theorem review_signature_binds_sample :
    ∃ r r', TwoRounds (js "2026-01-05T03:00:00Z") r r' ∧
      ∀ next, ¬ Applies signedReviews none r' (acceptance (js "2026-01-05T03:30:00Z")) next := by
  have h : ∃ r ∈ checkedRun signedReviews none input (events.take 11),
      ∃ r' ∈ System.execute (checkedStep signedReviews none) (secondRound (js "2026-01-05T03:00:00Z")) r,
        twoRoundsCheck r r' := by
    decide +kernel
  obtain ⟨r, hr, r', hr', hcheck⟩ := h
  have hrounds := twoRounds_of_check hr hr' hcheck
  have hapart : (roundEnds (events.take 11 ++ secondRound (js "2026-01-05T03:00:00Z"))).Nodup := by decide
  have hversions : r.podVersion ≠ r'.podVersion := by
    rw [hrounds.versions.1, hrounds.versions.2]
    decide
  exact ⟨r, r', hrounds, fun next => (review_signature_binds_version hrounds.run hrounds.steps hapart hrounds.review.1
    hrounds.review.2 hversions acceptPayload signature _ next).1 hrounds.verifies hrounds.signed.2⟩

end RouteGuard.Store
