import RouteGuard.Store.CheckedRuns

/-!
# No settlement without authorization

* `Terminates`, `Settles` : the events that authorize a settlement, and those that settle;
* `Authorizes` : what the authorizing event proves, against the record it was applied to;
* `Stage` : the events committed so far and the state: nothing authorized yet, authorized once, or settled after
  exactly one authorization;
* `settlement_authorized` : every settled record has its one authorization before the settlement;
* `service_settlement_authorized` : the same of the record of a tender in a store.
-/

namespace RouteGuard.Store
open JsString Guarded Trust Auth Lifecycle V2LifecycleState

/-! ## Events and states -/

def terminatingTypes : List LifecycleEventType :=
  [.podAcceptedByShipper, .podReviewDeadlineExpired, .refereeResolutionRecorded, .noQualifiedBidConfirmed]

/-- The events that end a tender's review or auction. -/
def Terminates (event : LifecycleEvent) : Prop := event.type ∈ terminatingTypes

/-- The events that move the money. -/
def Settles (event : LifecycleEvent) : Prop :=
  event.type ∈ [.escrowReleaseConfirmed, .escrowPartialReleaseConfirmed, .escrowRefundConfirmed]

def openStates : List V2LifecycleState :=
  [draft, escrowFunded, tenderOpened, bidding, auctionClosed, winnerSelected, winningAmountLocked, routeReserved,
   inTransit, deliveryReported, podSubmitted, podUnderReview, podCorrectionRequested, podResubmitted, podDisputed]

def authorizedStates : List V2LifecycleState := [noQualifiedBid, podAccepted, podDeemedAccepted, refereeDecision]

def settledStates : List V2LifecycleState := [paymentReleased, partialRelease, refunded, tenderCompleted]

/-! ## Authorizations -/

/-- The last review round: it started with the given deadline, and only advisories followed. -/
def ReviewRound (es : List LifecycleEvent) (deadline : JsString) : Prop :=
  ∃ earlier start advisories window, es = earlier ++ start :: advisories ∧ start.type = .podReviewStarted ∧
    addUtcSeconds start.eventTime window = .ok deadline ∧ ∀ e ∈ advisories, e.type = .podAdvisoryAnchored

/-- The decision of the record is the resolution of the event, with its amounts. -/
def DecidedAs (x : SettlementFields) (e : RefereeResolutionRecorded) : Prop :=
  x.refereeResolution = some e.resolution.text ∧ x.releaseAmountAtomic = some e.releaseAmountAtomic ∧
    x.refundAmountAtomic = some e.refundAmountAtomic

/-- The event, applied to `before` after the events `es`, authorizes the settlement of a record with the given
trust snapshot and settlement fields. -/
inductive Authorizes (p : Platform) (es : List LifecycleEvent) (before : LifecycleRecord) (event : LifecycleEvent)
    (trust : TrustPolicySnapshot) (x : SettlementFields) : Prop
  | accepted {e : PodAcceptedByShipper} {podId : JsString} (hbody : event.body = .podAcceptedByShipper e)
      (hpod : before.podId = some podId)
      (hsigned : verifyCanonicalPayload p
        (buildShipperPodReviewSignPayload
          (reviewPayload before event podId .accept [] e.toShipperSigned)).toJson e.shipperSignature
        trust.shipperPublicKey)
  | deemed {deadline : JsString} (hbody : event.body = .podReviewDeadlineExpired)
      (hdeadline : before.reviewDeadlineAt = some deadline) (hover : NotAfter deadline event.eventTime)
      (hround : ReviewRound es deadline)
  | resolved {e : RefereeResolutionRecorded} {referee : TrustedRefereeEntry}
      (hbody : event.body = .refereeResolutionRecorded e) (hreferee : referee ∈ trust.referees)
      (hid : referee.refereeId = trim e.refereeId)
      (hsigned : verifyCanonicalPayload p (resolutionPayload before event e).toJson e.signature referee.publicKey)
      (hdecided : DecidedAs x e)
  | noQualifiedBid {e : NoQualifiedBidConfirmed} (hbody : event.body = .noQualifiedBidConfirmed e)

/-- The settlement of the record is what the event confirmed. -/
def SettledBy (x : SettlementFields) (event : LifecycleEvent) : Prop :=
  match event.body with
  | .escrowReleaseConfirmed e =>
    x.releaseAmountAtomic = some e.releaseAmountAtomic ∧ x.refundAmountAtomic = some (js "0") ∧
      (x.refereeResolution = none ∨ x.refereeResolution = some RefereeResolution.releaseFull.text)
  | .escrowPartialReleaseConfirmed e =>
    x.releaseAmountAtomic = some e.releaseAmountAtomic ∧ x.refundAmountAtomic = some e.refundAmountAtomic ∧
      x.refereeResolution = some RefereeResolution.partialSplit.text
  | .escrowRefundConfirmed e =>
    x.refundAmountAtomic = some e.refundAmountAtomic ∧ x.releaseAmountAtomic = some (js "0") ∧
      (x.refereeResolution = none ∨ x.refereeResolution = some RefereeResolution.refundFull.text)
  | _ => False

/-- Other settlement fields with the same decision, where there is one. -/
theorem Authorizes.congr {p : Platform} {es : List LifecycleEvent} {before : LifecycleRecord}
    {event : LifecycleEvent} {trust : TrustPolicySnapshot} {x x' : SettlementFields}
    (h : Authorizes p es before event trust x) (hx : ∀ e, DecidedAs x e → DecidedAs x' e) :
    Authorizes p es before event trust x' := by
  cases h with
  | accepted hbody hpod hsigned => exact .accepted hbody hpod hsigned
  | deemed hbody hdeadline hover hround => exact .deemed hbody hdeadline hover hround
  | resolved hbody hreferee hid hsigned hdecided => exact .resolved hbody hreferee hid hsigned (hx _ hdecided)
  | noQualifiedBid hbody => exact .noQualifiedBid hbody

/-! ## Stages -/

section Stage
variable (p : Platform) (carriers : Option CarrierRegistry)

/-- One authorization among the events: what it proves, and no other terminating event. -/
structure AuthorizedOnce (es : List LifecycleEvent) (trust : TrustPolicySnapshot) (x : SettlementFields)
    (pre : List LifecycleEvent) (auth : LifecycleEvent) (mid : List LifecycleEvent) (before : LifecycleRecord) :
    Prop where
  events : es = pre ++ auth :: mid
  run : (applySystem p carriers).Run pre before
  authorizes : Authorizes p pre before auth trust x
  once : ∀ e ∈ pre ++ mid, ¬ Terminates e

/-- How far a record is. -/
inductive Stage (es : List LifecycleEvent) (r : LifecycleRecord) : Prop
  | opened (hstate : r.state ∈ openStates) (hnone : ∀ e ∈ es, ¬ Terminates e)
      (hround : r.state = .podUnderReview → ∃ deadline, r.reviewDeadlineAt = some deadline ∧ ReviewRound es deadline)
  | authorized {pre : List LifecycleEvent} {auth : LifecycleEvent} {mid : List LifecycleEvent}
      {before : LifecycleRecord} (hstate : r.state ∈ authorizedStates)
      (honce : AuthorizedOnce p carriers es r.trust r.toSettlementFields pre auth mid before)
  | settled {pre : List LifecycleEvent} {auth : LifecycleEvent} {mid : List LifecycleEvent} {settle : LifecycleEvent}
      {post : List LifecycleEvent} {before : LifecycleRecord} (hstate : r.state ∈ settledStates)
      (hsettles : Settles settle) (hsettled : SettledBy r.toSettlementFields settle)
      (honce : AuthorizedOnce p carriers es r.trust r.toSettlementFields pre auth (mid ++ settle :: post) before)

variable {p carriers} {es : List LifecycleEvent} {r next : LifecycleRecord} {event : LifecycleEvent}

/-- Another event after the authorization. -/
theorem AuthorizedOnce.snoc {trust : TrustPolicySnapshot} {x x' : SettlementFields} {pre mid : List LifecycleEvent}
    {auth : LifecycleEvent} {before : LifecycleRecord} (h : AuthorizedOnce p carriers es trust x pre auth mid before)
    (hevent : ¬ Terminates event) (hx : ∀ e, DecidedAs x e → DecidedAs x' e) :
    AuthorizedOnce p carriers (es ++ [event]) trust x' pre auth (mid ++ [event]) before := by
  refine ⟨by simp [h.events], h.run, h.authorizes.congr hx, ?_⟩
  intro e he
  rw [← List.append_assoc, List.mem_append] at he
  rcases he with he | he
  · exact h.once e he
  · rw [List.mem_singleton.mp he]
    exact hevent

theorem ReviewRound.snoc {deadline : JsString} (h : ReviewRound es deadline)
    (hevent : event.type = .podAdvisoryAnchored) : ReviewRound (es ++ [event]) deadline := by
  obtain ⟨earlier, start, advisories, window, rfl, hstart, hdeadline, hadvisories⟩ := h
  refine ⟨earlier, start, advisories ++ [event], window, by simp, hstart, hdeadline, ?_⟩
  intro e he
  rcases List.mem_append.mp he with he | he
  · exact hadvisories e he
  · rw [List.mem_singleton.mp he]
    exact hevent

theorem Stage.of_open (h : Stage p carriers es r) (hs : r.state ∈ openStates) :
    (∀ e ∈ es, ¬ Terminates e) ∧
      (r.state = .podUnderReview → ∃ deadline, r.reviewDeadlineAt = some deadline ∧ ReviewRound es deadline) := by
  cases h with
  | opened _ hnone hround => exact ⟨hnone, hround⟩
  | authorized hstate _ =>
    have hdisjoint : ∀ s ∈ openStates, s ∉ authorizedStates := by decide
    exact absurd hstate (hdisjoint _ hs)
  | settled hstate _ _ _ =>
    have hdisjoint : ∀ s ∈ openStates, s ∉ settledStates := by decide
    exact absurd hstate (hdisjoint _ hs)

theorem Stage.of_authorized (h : Stage p carriers es r) (hs : r.state ∈ authorizedStates) :
    ∃ pre auth mid before, AuthorizedOnce p carriers es r.trust r.toSettlementFields pre auth mid before := by
  cases h with
  | opened hstate _ _ =>
    have hdisjoint : ∀ s ∈ openStates, s ∉ authorizedStates := by decide
    exact absurd hs (hdisjoint _ hstate)
  | authorized _ honce => exact ⟨_, _, _, _, honce⟩
  | settled hstate _ _ _ =>
    have hdisjoint : ∀ s ∈ settledStates, s ∉ authorizedStates := by decide
    exact absurd hs (hdisjoint _ hstate)

/-- A step between open states. -/
theorem Stage.proceed (h : Stage p carriers es r) (hs : r.state ∈ openStates) (hnext : next.state ∈ openStates)
    (hevent : ¬ Terminates event)
    (hround : next.state = .podUnderReview →
      ∃ deadline, next.reviewDeadlineAt = some deadline ∧ ReviewRound (es ++ [event]) deadline) :
    Stage p carriers (es ++ [event]) next := by
  refine .opened hnext ?_ hround
  intro e he
  rcases List.mem_append.mp he with he | he
  · exact (h.of_open hs).1 e he
  · rw [List.mem_singleton.mp he]
    exact hevent

/-- The step that authorizes. -/
theorem Stage.authorize (h : Stage p carriers es r) (hs : r.state ∈ openStates)
    (hrun : (applySystem p carriers).Run es r) (hnext : next.state ∈ authorizedStates)
    (hauth : Authorizes p es r event next.trust next.toSettlementFields) : Stage p carriers (es ++ [event]) next := by
  refine .authorized hnext ⟨rfl, hrun, hauth, ?_⟩
  intro e he
  rw [List.append_nil] at he
  exact (h.of_open hs).1 e he

/-- The step that settles. -/
theorem Stage.settle (h : Stage p carriers es r) (hs : r.state ∈ authorizedStates) (hnext : next.state ∈ settledStates)
    (htrust : next.trust = r.trust) (hevent : Settles event) (hterminates : ¬ Terminates event)
    (hsettled : SettledBy next.toSettlementFields event)
    (hdecided : ∀ e, DecidedAs r.toSettlementFields e → DecidedAs next.toSettlementFields e) :
    Stage p carriers (es ++ [event]) next := by
  obtain ⟨pre, auth, mid, before, honce⟩ := h.of_authorized hs
  exact .settled hnext hevent hsettled (htrust ▸ honce.snoc hterminates hdecided)

/-- A step that changes neither the state's kind nor the settlement. -/
theorem Stage.keep (h : Stage p carriers es r) (hevent : event.type = .podAdvisoryAnchored)
    (hstate : next.state = r.state) (htrust : next.trust = r.trust)
    (hdeadline : next.reviewDeadlineAt = r.reviewDeadlineAt)
    (hsettlement : next.toSettlementFields = r.toSettlementFields) : Stage p carriers (es ++ [event]) next := by
  have hterminates : ¬ Terminates event := by simp [Terminates, terminatingTypes, hevent]
  cases h with
  | opened hs hnone hround =>
    refine Stage.proceed (.opened hs hnone hround) hs (hstate ▸ hs) hterminates fun hnext => ?_
    obtain ⟨deadline, hd, hr⟩ := hround (hstate ▸ hnext)
    exact ⟨deadline, hdeadline.trans hd, hr.snoc hevent⟩
  | authorized hs honce =>
    have hsnoc := honce.snoc hterminates fun _ h => h
    rw [← htrust, ← hsettlement] at hsnoc
    exact .authorized (hstate ▸ hs) hsnoc
  | settled hs hsettles hsettled honce =>
    have hsnoc := honce.snoc hterminates fun _ h => h
    rw [← htrust, ← hsettlement, List.append_assoc, List.cons_append] at hsnoc
    exact .settled (hstate ▸ hs) hsettles (hsettlement ▸ hsettled) hsnoc

/-- The completion of a settled tender. -/
theorem Stage.complete (h : Stage p carriers es r) (hs : r.state ∈ settledStates) (hnext : next.state ∈ settledStates)
    (hevent : ¬ Terminates event) (htrust : next.trust = r.trust)
    (hsettlement : next.toSettlementFields = r.toSettlementFields) : Stage p carriers (es ++ [event]) next := by
  cases h with
  | opened hstate _ _ =>
    have hdisjoint : ∀ s ∈ openStates, s ∉ settledStates := by decide
    exact absurd hs (hdisjoint _ hstate)
  | authorized hstate _ =>
    have hdisjoint : ∀ s ∈ settledStates, s ∉ authorizedStates := by decide
    exact absurd hstate (hdisjoint _ hs)
  | settled _ hsettles hsettled honce =>
    have hsnoc := honce.snoc hevent fun _ h => h
    rw [← htrust, ← hsettlement, List.append_assoc, List.cons_append] at hsnoc
    exact .settled hnext hsettles (hsettlement ▸ hsettled) hsnoc

/-! ## Signatures -/

section Signatures
variable {auth : Option (SealedAuth p)}

theorem sealedAuth_eq_some {a : VerifiedAuth}
    (h : (LifecycleReduceContext.mk (auth.map AuthObject.sealed)).sealedAuth = some a) :
    ∃ s, auth = some s ∧ s.auth = a := by
  cases auth with
  | none => cases h
  | some s => exact ⟨s, rfl, Option.some.inj h⟩

/-- An accepted POD: the service verified the signature of the shipper over the bound POD. -/
theorem accepted_signed {e : PodAcceptedByShipper} {review : VerifiedShipperReviewAuth}
    (hbody : event.body = .podAcceptedByShipper e)
    (hverify : verifyEventIfNeeded p r event (trustPolicyFromRecord r) carriers = .ok auth)
    (hreviewed : ShipperReviewed ⟨auth.map .sealed⟩ r event .accept review) :
    ∃ podId, r.podId = some podId ∧
      verifyCanonicalPayload p
        (buildShipperPodReviewSignPayload (reviewPayload r event podId .accept [] e.toShipperSigned)).toJson
        e.shipperSignature r.trust.shipperPublicKey := by
  obtain ⟨s, rfl, -⟩ := sealedAuth_eq_some hreviewed.sealed
  simp only [verifyEventIfNeeded, hbody] at hverify
  split at hverify
  · next podId _ hpod _ =>
    obtain ⟨s', hs', -⟩ := map_eq_ok.mp hverify
    obtain ⟨a, ha, -⟩ := sealing_eq_ok hs'
    refine ⟨podId, ?_, (verifyShipperPodReview_ok ha).1⟩
    unfold present at hpod
    split at hpod
    · next hr => exact hr.trans hpod
    · cases hpod
  · cases hverify

/-- A recorded resolution: the service verified its signature under the key of a registered referee. -/
theorem resolved_signed {e : RefereeResolutionRecorded} (hbody : event.body = .refereeResolutionRecorded e)
    (hverify : verifyEventIfNeeded p r event (trustPolicyFromRecord r) carriers = .ok auth) :
    ∃ referee ∈ r.trust.referees, referee.refereeId = trim e.refereeId ∧
      verifyCanonicalPayload p (resolutionPayload r event e).toJson e.signature referee.publicKey := by
  simp only [verifyEventIfNeeded, hbody] at hverify
  obtain ⟨s, hs, -⟩ := map_eq_ok.mp hverify
  obtain ⟨a, ha, -⟩ := sealing_eq_ok hs
  obtain ⟨referee, hmem, hid, hsigned, -⟩ := verifyRefereeResolution_ok ha
  exact ⟨referee, hmem, hid, hsigned⟩

end Signatures

/-! ## Every step -/

/-- Without a decision there is nothing that a settlement could contradict. -/
theorem not_decidedAs {x : SettlementFields} (h : x.refereeResolution = none) (e : RefereeResolutionRecorded) :
    ¬ DecidedAs x e := by
  rintro ⟨hdecided, -⟩
  rw [h] at hdecided
  cases hdecided

/-- A record outside the decided states has no decision. -/
theorem undecided {t : JsString} (h : Accepted p t r) (hs : r.state ∉ ALLOWS_REFEREE_DECISION) :
    r.refereeResolution = none := (h.unsettled.decision hs).1

/-- **What one successful call does to the stage.** -/
theorem stage_step (hrun : (applySystem p carriers).Run es r) (h : Stage p carriers es r)
    (happlies : Applies p carriers r event next) : Stage p carriers (es ++ [event]) next := by
  have haccepted := applySystem_accepted hrun
  obtain ⟨auth, hverify, hreduce⟩ := happlies.reduces
  obtain ⟨-, -, hreduces⟩ := reduceLifecycle_ok hreduce
  have terminates (type : LifecycleEventType) (htype : event.body.type = type) (hno : type ∉ terminatingTypes) :
      ¬ Terminates event := by
    rw [Terminates, LifecycleEvent.type, htype]
    exact hno
  -- a step between two open states, other than the start of a review
  have proceed (type : LifecycleEventType) (htype : event.body.type = type) (hno : type ∉ terminatingTypes)
      {s : V2LifecycleState} {patched : LifecycleRecord} (hs : r.state ∈ openStates)
      (hnext : s ∈ openStates ∧ s ≠ .podUnderReview) :
      Stage p carriers (es ++ [event]) (moved p r s event patched) :=
    h.proceed hs hnext.1 (terminates type htype hno) fun hstate => absurd hstate hnext.2
  generalize hb : event.body = b at hreduces
  cases hreduces with
  | escrowFundingConfirmed hs =>
    exact proceed .escrowFundingConfirmed (congrArg _ hb) (by decide) (by rw [hs]; decide) (by decide)
  | tenderActivationPaid hs =>
    exact proceed .tenderActivationPaid (congrArg _ hb) (by decide) (by rw [hs]; decide) (by decide)
  | bidSubmissionPaid hs =>
    refine proceed .bidSubmissionPaid (congrArg _ hb) (by decide) ?_ (by decide)
    rcases hs with hs | hs <;> rw [hs] <;> decide
  | biddingStarted hs =>
    exact proceed .biddingStarted (congrArg _ hb) (by decide) (by rw [hs]; decide) (by decide)
  | auctionCloseConfirmed hs =>
    exact proceed .auctionCloseConfirmed (congrArg _ hb) (by decide) (by rw [hs]; decide) (by decide)
  | noQualifiedBidConfirmed hs =>
    exact h.authorize (by rw [hs]; decide) hrun (show noQualifiedBid ∈ authorizedStates by decide)
      (.noQualifiedBid hb)
  | winnerSelectionConfirmed hs =>
    exact proceed .winnerSelectionConfirmed (congrArg _ hb) (by decide) (by rw [hs]; decide) (by decide)
  | winningAmountAllocationConfirmed hs =>
    exact proceed .winningAmountAllocationConfirmed (congrArg _ hb) (by decide) (by rw [hs]; decide) (by decide)
  | routeReservationPublished hs =>
    exact proceed .routeReservationPublished (congrArg _ hb) (by decide) (by rw [hs]; decide) (by decide)
  | transitStarted hs =>
    exact proceed .transitStarted (congrArg _ hb) (by decide) (by rw [hs]; decide) (by decide)
  | deliveryReported hs =>
    exact proceed .deliveryReported (congrArg _ hb) (by decide) (by rw [hs]; decide) (by decide)
  | podPackageSubmitted hs =>
    exact proceed .podPackageSubmitted (congrArg _ hb) (by decide) (by rw [hs]; decide) (by decide)
  | @podReviewStarted window deadline hs hdeadline =>
    have hopen : r.state ∈ openStates := by
      rcases hs with ⟨hs, -⟩ | ⟨hs, -⟩ <;> rw [hs] <;> decide
    have hno := terminates .podReviewStarted (congrArg _ hb) (by decide)
    refine h.proceed hopen (show podUnderReview ∈ openStates by decide) hno fun _ => ⟨deadline, rfl, ?_⟩
    exact ⟨es, event, [], window, rfl, by rw [LifecycleEvent.type, hb]; rfl, hdeadline, by simp⟩
  | podCorrectionRequested hs =>
    exact proceed .podCorrectionRequested (congrArg _ hb) (by decide) (by rw [hs]; decide) (by decide)
  | podPackageResubmitted hs =>
    exact proceed .podPackageResubmitted (congrArg _ hb) (by decide) (by rw [hs]; decide) (by decide)
  | podAcceptedByShipper hs _ hreviewed =>
    obtain ⟨podId, hpod, hsigned⟩ := accepted_signed hb hverify hreviewed
    exact h.authorize (by rw [hs]; decide) hrun (show podAccepted ∈ authorizedStates by decide)
      (.accepted hb hpod hsigned)
  | podReviewDeadlineExpired hs hdeadline hover =>
    obtain ⟨deadline, hd, hround⟩ := (h.of_open (by rw [hs]; decide)).2 hs
    rw [hd] at hdeadline
    cases hdeadline
    exact h.authorize (by rw [hs]; decide) hrun (show podDeemedAccepted ∈ authorizedStates by decide)
      (.deemed hb hd hover hround)
  | podCorrectionDeadlineExpired hs =>
    exact proceed .podCorrectionDeadlineExpired (congrArg _ hb) (by decide) (by rw [hs]; decide) (by decide)
  | podRejectedToDispute hs =>
    exact proceed .podRejectedToDispute (congrArg _ hb) (by decide) (by rw [hs]; decide) (by decide)
  | refereeResolutionRecorded hs =>
    obtain ⟨referee, hmem, hid, hsigned⟩ := resolved_signed hb hverify
    exact h.authorize (by rw [hs]; decide) hrun (show refereeDecision ∈ authorizedStates by decide)
      (.resolved hb hmem hid hsigned ⟨rfl, rfl, rfl⟩)
  | @escrowReleaseConfirmed e hs _ _ _ hdecision =>
    have hno := terminates .escrowReleaseConfirmed (congrArg _ hb) (by decide)
    have hevent : Settles event := by simp [Settles, LifecycleEvent.type, hb, EventBody.type]
    have hcases : r.refereeResolution = none ∨ decided r .releaseFull := by
      rcases hs with hs | hs | hs
      · exact .inl (undecided haccepted (by rw [hs]; decide))
      · exact .inl (undecided haccepted (by rw [hs]; decide))
      · exact .inr hs
    have hauthorized : r.state ∈ authorizedStates := by
      rcases hs with hs | hs | hs
      · rw [hs]; decide
      · rw [hs]; decide
      · rw [hs.1]; decide
    refine h.settle hauthorized (show paymentReleased ∈ settledStates by decide) rfl hevent hno ?_ ?_
    · simp only [SettledBy, hb]
      exact ⟨rfl, rfl, hcases.imp id fun hd => hd.2⟩
    · intro e' he'
      rcases hcases with hnone | hd
      · exact absurd he' (not_decidedAs hnone e')
      · obtain ⟨hrel, href⟩ := hdecision hd.1
        exact ⟨he'.1, hrel ▸ he'.2.1, href ▸ he'.2.2⟩
  | escrowPartialReleaseConfirmed hs hrelease hrefund =>
    have hno := terminates .escrowPartialReleaseConfirmed (congrArg _ hb) (by decide)
    have hevent : Settles event := by simp [Settles, LifecycleEvent.type, hb, EventBody.type]
    refine h.settle (by rw [hs.1]; decide) (show partialRelease ∈ settledStates by decide) rfl hevent hno ?_ ?_
    · simp only [SettledBy, hb]
      exact ⟨rfl, rfl, hs.2⟩
    · intro e' he'
      exact ⟨he'.1, hrelease.1 ▸ he'.2.1, hrefund.1 ▸ he'.2.2⟩
  | @escrowRefundConfirmed e hs =>
    have hno := terminates .escrowRefundConfirmed (congrArg _ hb) (by decide)
    have hevent : Settles event := by simp [Settles, LifecycleEvent.type, hb, EventBody.type]
    have hauthorized : r.state ∈ authorizedStates := by
      rcases hs with ⟨hs, -⟩ | ⟨hs, -⟩
      · rw [hs]; decide
      · rw [hs.1]; decide
    have hundecided (hs : r.state = .noQualifiedBid) : r.refereeResolution = none :=
      undecided haccepted (by rw [hs]; decide)
    refine h.settle hauthorized (show refunded ∈ settledStates by decide) rfl hevent hno ?_ ?_
    · simp only [SettledBy, hb]
      exact ⟨rfl, rfl, hs.imp (fun hs => hundecided hs.1) fun hs => hs.1.2⟩
    · intro e' he'
      rcases hs with ⟨hs, -⟩ | ⟨-, href, hrel, -⟩
      · exact absurd he' (not_decidedAs (hundecided hs) e')
      · exact ⟨he'.1, hrel ▸ he'.2.1, href ▸ he'.2.2⟩
  | tenderCompletionConfirmed hs =>
    have hsettled : r.state ∈ settledStates := by
      rcases hs with hs | hs | hs <;> rw [hs] <;> decide
    have hno := terminates .tenderCompletionConfirmed (congrArg _ hb) (by decide)
    exact h.complete hsettled (show tenderCompleted ∈ settledStates by decide) hno rfl rfl
  | podAdvisoryAnchored _ _ =>
    exact h.keep (by rw [LifecycleEvent.type, hb]; rfl) rfl rfl rfl rfl

/-- Every record that successful calls reach is at some stage. -/
theorem stage_of_run (h : (applySystem p carriers).Run es r) : Stage p carriers es r := by
  refine System.Run.induction (S := applySystem p carriers) (I := Stage p carriers) ?_ ?_ h
  · rintro s ⟨⟨input, hcreate⟩, -⟩
    simp only [createLifecycleRecord, bind_eq_ok, require_eq_ok, exists_const, pure_eq_ok] at hcreate
    obtain ⟨-, rfl⟩ := hcreate
    refine .opened (List.mem_cons_self ..) (by simp) fun hreview => ?_
    cases hreview
  · intro es r event next hrun ih hstep
    exact stage_step hrun ih hstep

/-! ## The history of the record -/

/-- The history of a record lists its events. -/
def Lists (r : LifecycleRecord) (es : List LifecycleEvent) : Prop :=
  r.history.map (fun entry => (entry.eventType, entry.actionId, entry.at_)) =
    es.map fun e => (e.type, e.actionId, e.eventTime)

theorem lists_of_run (h : (applySystem p carriers).Run es r) : Lists r es := by
  refine System.Run.induction (S := applySystem p carriers) (I := fun es r => Lists r es) ?_ ?_ h
  · rintro s ⟨⟨input, hcreate⟩, -⟩
    simp only [createLifecycleRecord, bind_eq_ok, require_eq_ok, exists_const, pure_eq_ok] at hcreate
    obtain ⟨-, rfl⟩ := hcreate
    rfl
  · intro es r event next _ ih hstep
    obtain ⟨auth, -, hreduce⟩ := Applies.reduces hstep
    obtain ⟨-, reason, hprogress⟩ := reduceLifecycle_progress hreduce
    have hhistory : next.history = (r.toProgress.advance p next.state event reason).history :=
      congrArg Progress.history hprogress
    unfold Lists at ih ⊢
    rw [hhistory, Progress.advance, List.map_append, List.map_append, ih]
    rfl

/-- An advisory leaves the state and the settlement as they are. -/
theorem advisory_keeps (h : Applies p carriers r event next) (htype : event.type = .podAdvisoryAnchored) :
    next.state = r.state ∧ next.toSettlementFields = r.toSettlementFields := by
  obtain ⟨auth, -, hreduce⟩ := h.reduces
  obtain ⟨-, -, hreduces⟩ := reduceLifecycle_ok hreduce
  rw [LifecycleEvent.type] at htype
  generalize event.body = b at hreduces htype
  cases hreduces with
  | podAdvisoryAnchored => exact ⟨rfl, rfl⟩
  | _ => cases htype

/-- **No settlement without authorization.** The history of a record that successful calls reach lists its events;
when the record is settled, exactly one of them authorized it, before the settlement: an acceptance under the
shipper key of the snapshot, the end of a review without a reaction, a resolution under a registered key with the
settled amounts, or the confirmation that no bid qualified. An advisory changes neither the state nor the
settlement. -/
theorem settlement_authorized (h : (applySystem p carriers).Run es r) :
    Lists r es ∧
      (r.state ∈ settledStates → ∃ pre auth mid settle post before,
        AuthorizedOnce p carriers es r.trust r.toSettlementFields pre auth (mid ++ settle :: post) before ∧
          Settles settle ∧ SettledBy r.toSettlementFields settle) ∧
      ∀ event next, Applies p carriers r event next → event.type = .podAdvisoryAnchored →
        next.state = r.state ∧ next.toSettlementFields = r.toSettlementFields := by
  refine ⟨lists_of_run h, fun hsettled => ?_, fun event next happlies htype => advisory_keeps happlies htype⟩
  cases stage_of_run h with
  | opened hstate _ _ =>
    have hdisjoint : ∀ s ∈ openStates, s ∉ settledStates := by decide
    exact absurd hsettled (hdisjoint _ hstate)
  | authorized hstate _ =>
    have hdisjoint : ∀ s ∈ authorizedStates, s ∉ settledStates := by decide
    exact absurd hsettled (hdisjoint _ hstate)
  | settled _ hsettles hsettledBy honce => exact ⟨_, _, _, _, _, _, honce, hsettles, hsettledBy⟩

end Stage

open Lifecycle.Sample Sample in
/-- The sample tender is settled after the review deadline. -/
theorem settlement_authorized_sample :
    ∃ r, (applySystem platform none).Run events r ∧ r.state = .tenderCompleted ∧
      ∃ pre auth mid settle post before, AuthorizedOnce platform none events r.trust r.toSettlementFields pre auth
        (mid ++ settle :: post) before ∧ Settles settle ∧ SettledBy r.toSettlementFields settle := by
  have hrecord : ∃ r ∈ checkedRun platform none input events, r.state = .tenderCompleted := by
    decide
  obtain ⟨r, hr, hstate⟩ := hrecord
  have hrun := run_of_checked (hexDigest_asciiPlatform _) inputFormat hr
  exact ⟨r, hrun, hstate, (settlement_authorized hrun).2.1 (by rw [hstate]; decide)⟩

/-- In any run of the service, over either adapter, the events committed on a tender authorized its settlement. -/
theorem service_settlement_authorized {p : Platform} {carriers : Option CarrierRegistry} {kind : AdapterKind}
    (hp : p.HexDigest) {ls : List (ServiceCall × FileOutcome × FileOutcome)} {s : ServiceState (kind.adapter p)}
    (h : (serviceSystem p carriers kind).Run ls s) {t : JsString} {r : LifecycleRecord}
    (hr : (kind.adapter p).records s.store t = some r) : Stage p carriers (s.committedOn t) r :=
  stage_of_run ((serviceSystem_refines hp h).reached t r hr)

end RouteGuard.Store
