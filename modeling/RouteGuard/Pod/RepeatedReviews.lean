import RouteGuard.Pod.ReviewAnswers
import RouteGuard.Store.ReviewRounds

/-!
# Repeating a review

A repeated request is answered from the record as it is by then. Later events have moved the record on.

* `Remembered` : what every later state keeps of a committed decision;
* `ReleaseKept` : what it keeps of an acceptance, whose plan is kept or can be rebuilt;
* `SameAnswer` : when a repeated request has the first answer;
* `repeated_review_iff` : it has the first answer exactly then.
-/

namespace RouteGuard.Pod
open JsString Guarded Lifecycle Store Auth Hcs.V2 V2LifecycleState

/-! ## The message of a review -/

section Message
variable {p : Platform} {r r' : LifecycleRecord} {action : ShipperReviewActionKind} {reviewDeadlineAt : JsString}
  {item : PodOutboxItem}

/-- The message depends on the tender, the POD and the time of the record. -/
theorem reviewItem_congr (hbinding : r'.toTenderBinding = r.toTenderBinding) (hpod : r'.podId = r.podId)
    (htime : r'.updatedAt = r.updatedAt) :
    reviewItem p r' action reviewDeadlineAt = reviewItem p r action reviewDeadlineAt := by
  have hid : r'.tenderId = r.tenderId := congrArg TenderBinding.tenderId hbinding
  have hversion : r'.tenderVersion = r.tenderVersion := congrArg TenderBinding.tenderVersion hbinding
  have hhash : r'.tenderHash = r.tenderHash := congrArg TenderBinding.tenderHash hbinding
  simp only [reviewItem, buildPodReviewActionEnvelope, messageOf, hid, hversion, hhash, hpod, htime]

theorem reviewItem_eq_ok (h : reviewItem p r action reviewDeadlineAt = .ok item) :
    ∃ podId, present r.podId = some podId ∧
      item.envelope = (messageOf r .POD_REVIEW_ACTION r.updatedAt
        (podReviewActionPayload podId action reviewDeadlineAt)).envelope p := by
  obtain ⟨envelope, henvelope, rfl⟩ := map_eq_ok.mp h
  have hbuilt := mapError_eq_ok.mp henvelope
  unfold buildPodReviewActionEnvelope at hbuilt
  split at hbuilt
  · cases hbuilt
  · next podId hpod => exact ⟨podId, hpod, (buildHcsV2Envelope_eq_ok.mp hbuilt).2.symm⟩

/-- The message tells the time of the record and the deadline. -/
theorem reviewItem_inj {reviewDeadlineAt' : JsString} (h : reviewItem p r action reviewDeadlineAt = .ok item)
    (h' : reviewItem p r' action reviewDeadlineAt' = .ok item) :
    r'.updatedAt = r.updatedAt ∧ reviewDeadlineAt' = reviewDeadlineAt := by
  obtain ⟨podId, -, henvelope⟩ := reviewItem_eq_ok h
  obtain ⟨podId', -, henvelope'⟩ := reviewItem_eq_ok h'
  have hsame := henvelope'.symm.trans henvelope
  have hpayload : podReviewActionPayload podId' action reviewDeadlineAt' =
      podReviewActionPayload podId action reviewDeadlineAt := congrArg HcsV2Envelope.payload hsame
  refine ⟨congrArg HcsV2Envelope.createdAt hsame, ?_⟩
  simp only [podReviewActionPayload, List.cons.injEq, Prod.mk.injEq, Json.str.injEq, true_and, and_true] at hpayload
  exact hpayload.2

end Message

/-! ## Later records -/

section Later
variable {p : Platform} {carriers : Option CarrierRegistry} {context : LifecycleReduceContext p} {b : EventBody}
  {r next : LifecycleRecord} {event : LifecycleEvent}

theorem legal_of_reduces (h : Reduces p context r event b next) :
    next.state = r.state ∨ next.state ∈ LEGAL r.state := by
  have step {s s' : V2LifecycleState} {patched : LifecycleRecord} (hs : r.state = s)
      (hlegal : s' = s ∨ s' ∈ LEGAL s) : (moved p r s' event patched).state = r.state ∨
        (moved p r s' event patched).state ∈ LEGAL r.state := hs ▸ hlegal
  cases h with
  | bidSubmissionPaid hs =>
    rcases hs with hs | hs
    · exact step hs (by decide)
    · exact step hs (by decide)
  | podReviewStarted hs =>
    rcases hs with ⟨hs, -⟩ | ⟨hs, -⟩
    · exact step hs (by decide)
    · exact step hs (by decide)
  | escrowReleaseConfirmed hs =>
    rcases hs with hs | hs | hs
    · exact step hs (by decide)
    · exact step hs (by decide)
    · exact step hs.1 (by decide)
  | escrowPartialReleaseConfirmed hs => exact step hs.1 (by decide)
  | escrowRefundConfirmed hs =>
    rcases hs with ⟨hs, -⟩ | ⟨hs, -⟩
    · exact step hs (by decide)
    · exact step hs.1 (by decide)
  | tenderCompletionConfirmed hs =>
    rcases hs with hs | hs | hs
    · exact step hs (by decide)
    · exact step hs (by decide)
    · exact step hs (by decide)
  | podAdvisoryAnchored => exact .inl rfl
  | podPackageResubmitted hs => exact step hs (by decide)
  | _ => exact step ‹_› (by decide)

/-- No state after the review leads back before it. -/
theorem afterReview_of_reduces (h : Reduces p context r event b next) (hstate : r.state ∉ beforeReview) :
    next.state ∉ beforeReview := by
  have hclosed (s : V2LifecycleState) : ∀ s' ∈ LEGAL s, s' ∈ beforeReview → s ∈ beforeReview := by cases s <;> decide
  rcases legal_of_reduces h with heq | hlegal
  · rw [heq]
    exact hstate
  · exact fun hnext => hstate (hclosed _ _ hlegal hnext)

/-- An event after the review keeps the tender and the POD. -/
theorem podId_of_reduces (h : Reduces p context r event b next) (hstate : r.state ∉ beforeReview) :
    next.podId = r.podId := by
  cases h with
  | podPackageSubmitted hs =>
    rw [hs] at hstate
    exact absurd (show deliveryReported ∈ beforeReview by decide) hstate
  | podPackageResubmitted _ _ _ _ hid _ => exact hid.symm
  | _ => rfl

/-- The states that an acceptance leads to. -/
def afterAcceptance : List V2LifecycleState := [podAccepted, paymentReleased, tenderCompleted]

theorem afterAcceptance_of_reduces (h : Reduces p context r event b next) (hstate : r.state ∈ afterAcceptance) :
    next.state ∈ afterAcceptance := by
  have hclosed (s : V2LifecycleState) : ∀ s' ∈ LEGAL s, s ∈ afterAcceptance → s' ∈ afterAcceptance := by
    cases s <;> decide
  rcases legal_of_reduces h with heq | hlegal
  · rw [heq]
    exact hstate
  · exact hclosed _ _ hlegal hstate

/-- An event after an acceptance keeps what the plan is made of. -/
theorem samePod_of_reduces (h : Reduces p context r event b next) (hstate : r.state ∈ afterAcceptance) :
    SamePod r next := by
  have out {s : V2LifecycleState} (hs : r.state = s) (hnot : s ∉ afterAcceptance) : SamePod r next :=
    absurd (hs ▸ hstate) hnot
  cases h with
  | winningAmountAllocationConfirmed hs => exact out hs (by decide)
  | podPackageSubmitted hs => exact out hs (by decide)
  | podReviewStarted hs =>
    rcases hs with ⟨hs, -⟩ | ⟨hs, -⟩
    · exact out hs (by decide)
    · exact out hs (by decide)
  | podPackageResubmitted hs => exact out hs (by decide)
  | _ => exact ⟨rfl, rfl, rfl, rfl, rfl, rfl⟩

end Later

/-! ## Answers -/

section Answers
variable {s : PodService} {r r' next : LifecycleRecord} {input : ShipperReviewInput} {reviewDeadlineAt actionId : JsString}
  {plans : EscrowPlans} {plan plan' : BoundEscrowPlan} {result : ShipperReviewResult}

theorem replayReview_eq_ok :
    (replayReview s.p s.ethers s.sha256Hex s.bindings r input plans).1 = .ok result ↔
      ∃ replayed, replayedPlan s.p s.ethers s.sha256Hex s.bindings r input plans = .ok replayed ∧ ∃ outbox,
        replayedOutbox s.p r input.action = .ok outbox ∧ ⟨r, input.action, replayed.1, outbox, .replayed⟩ = result := by
  unfold replayReview
  cases replayedPlan s.p s.ethers s.sha256Hex s.bindings r input plans with
  | error e => simp only [reduceCtorEq, false_and, exists_false]
  | ok replayed =>
    simp only [Except.ok.injEq, exists_eq_left']
    exact map_eq_ok

/-- A repeated request is told the message of the record as it is. -/
theorem replayedOutbox_eq {podId : JsString} {action : ShipperReviewActionKind} (hpod : present r.podId = some podId)
    (hdeadline : present r.reviewDeadlineAt = some reviewDeadlineAt) :
    replayedOutbox s.p r action = (reviewItem s.p r action reviewDeadlineAt).map ([·]) := by
  simp only [replayedOutbox, hpod, hdeadline]
  rfl

/-- It is told at most one message. -/
theorem replayedOutbox_cases {action : ShipperReviewActionKind} {outbox : List PodOutboxItem}
    (h : replayedOutbox s.p r action = .ok outbox) :
    outbox = [] ∨ ∃ reviewDeadlineAt item, present r.reviewDeadlineAt = some reviewDeadlineAt ∧
      reviewItem s.p r action reviewDeadlineAt = .ok item ∧ outbox = [item] := by
  unfold replayedOutbox at h
  split at h
  · next deadline _ hdeadline =>
    simp only [bind_eq_ok, pure_eq_ok] at h
    obtain ⟨item, hitem, rfl⟩ := h
    exact .inr ⟨deadline, item, hdeadline, hitem, rfl⟩
  · cases h
    exact .inl rfl

/-! ### The plan of an acceptance -/

/-- The release that the record authorizes under the action. -/
def Releases (s : PodService) (r : LifecycleRecord) (actionId : JsString) (plan : BoundEscrowPlan) : Prop :=
  ∃ podId tenderKey, present r.podId = some podId ∧ tenderKeyOf s.ethers r = .ok tenderKey ∧
    releasePlan s.p s.ethers s.sha256Hex s.bindings r podId actionId tenderKey false = .ok plan

theorem Releases.unique (h : Releases s r actionId plan) (h' : Releases s r actionId plan') : plan = plan' := by
  obtain ⟨podId, tenderKey, hpod, hkey, hplan⟩ := h
  obtain ⟨podId', tenderKey', hpod', hkey', hplan'⟩ := h'
  cases hpod.symm.trans hpod'
  cases hkey.symm.trans hkey'
  exact Except.ok.inj (hplan.symm.trans hplan')

/-- The same POD authorizes the same release. -/
theorem releases_congr (h : SamePod r r') : Releases s r' actionId plan ↔ Releases s r actionId plan := by
  have hid : r'.tenderId = r.tenderId := congrArg TenderBinding.tenderId h.binding
  have hversion : r'.tenderVersion = r.tenderVersion := congrArg TenderBinding.tenderVersion h.binding
  simp only [Releases, tenderKeyOf, releasePlan, planInput, acceptanceHash, hid, hversion, h.podId, h.podVersion,
    h.podContentHash, h.lockedAmountAtomic]

/-- The plan that a repeated request finds or rebuilds. -/
theorem replayedPlan_of_releases (hcontent : ∃ hash, present r.podContentHash = some hash)
    (haction : input.action = .accept) (hrelease : Releases s r input.actionId plan)
    (hkept : plans.release (planKey input.tenderId input.actionId) = none ∨
      plans.release (planKey input.tenderId input.actionId) = some plan)
    (hdispute : plans.dispute (planKey input.tenderId input.actionId) = none) :
    ∃ plans', replayedPlan s.p s.ethers s.sha256Hex s.bindings r input plans = .ok (some plan, plans') := by
  obtain ⟨hash, hhash⟩ := hcontent
  obtain ⟨podId, tenderKey, hpod, hkey, hplan⟩ := hrelease
  rcases hkept with hnone | hsome
  · refine ⟨{ plans with release := Function.update plans.release (planKey input.tenderId input.actionId) (some plan) }, ?_⟩
    simp only [replayedPlan, hnone, hdispute, haction, hpod, hhash, bind_eq_ok, hkey, hplan, Except.ok.injEq,
      exists_eq_left', mapError_eq_ok, pure_eq_ok]
  · exact ⟨plans, by simp only [replayedPlan, hsome]⟩

/-- What a repeated request keeps under its key is the release of the record. -/
theorem replayReview_release {key : JsString} :
    (replayReview s.p s.ethers s.sha256Hex s.bindings r input plans).2.release key = plans.release key ∨
      key = planKey input.tenderId input.actionId ∧ ∃ plan, Releases s r input.actionId plan ∧
        (replayReview s.p s.ethers s.sha256Hex s.bindings r input plans).2.release key = some plan := by
  by_cases hkey : key = planKey input.tenderId input.actionId
  · subst hkey
    unfold replayReview
    split
    · exact .inl rfl
    · next hreplayed =>
      simp only [replayedPlan] at hreplayed
      split at hreplayed
      · cases hreplayed
        exact .inl rfl
      · cases hreplayed
        exact .inl rfl
      · split at hreplayed
        · next podId _ _ hpod _ =>
          simp only [bind_eq_ok, pure_eq_ok, mapError_eq_ok] at hreplayed
          obtain ⟨tenderKey, htender, plan, hplan, heq⟩ := hreplayed
          cases heq
          exact .inr ⟨rfl, plan, ⟨podId, tenderKey, hpod, htender, hplan⟩, Function.update_self _ _ _⟩
        · cases hreplayed
          exact .inl rfl
  · exact .inl (replayReview_agree.2 hkey)

/-- The plan that an acceptance was answered with is the release of the record before it. -/
theorem decidedPlan_accept {tenderKey : JsString} {decided : Option BoundEscrowPlan} {plans' : EscrowPlans}
    (haction : input.action = .accept) (hpod : present r.podId = some input.podId)
    (hkey : tenderKeyOf s.ethers r = .ok tenderKey)
    (hfresh : plans.release (planKey input.tenderId input.actionId) = none)
    (h : decidedPlan s.p s.ethers s.sha256Hex s.bindings r next input tenderKey plans = .ok (decided, plans')) :
    ∃ plan, decided = some plan ∧ Releases s r input.actionId plan ∧
      plans'.release (planKey input.tenderId input.actionId) = some plan ∧ plans'.dispute = plans.dispute := by
  simp only [decidedPlan, haction, keepPlan, hfresh] at h
  obtain ⟨⟨plan, release⟩, hkept, heq⟩ := map_eq_ok.mp h
  cases heq
  obtain ⟨_, hbuilt, heq⟩ := map_eq_ok.mp hkept
  cases heq
  have hplan := buildBoundPlan_unchecked (mapError_eq_ok.mp hbuilt)
  exact ⟨plan, rfl, ⟨input.podId, tenderKey, hpod, hkey, hplan⟩, Function.update_self _ _ _, rfl⟩

end Answers

/-! ## After a decision -/

/-- What every later state keeps of a decision on the record. -/
structure Remembered (r : LifecycleRecord) (input : ShipperReviewInput) (w : PodWorld) : Prop where
  binding : w.record.toTenderBinding = r.toTenderBinding
  podId : w.record.podId = r.podId
  state : w.record.state ∉ beforeReview
  processed : isProcessed w.record input.actionId = true
  undisputed : input.action ≠ .rejectDispute → w.plans.dispute (planKey input.tenderId input.actionId) = none

/-- What every later state keeps of an acceptance: its release, kept or forgotten. -/
structure ReleaseKept (r : LifecycleRecord) (input : ShipperReviewInput) (plan : BoundEscrowPlan) (w : PodWorld) :
    Prop where
  state : w.record.state ∈ afterAcceptance
  same : SamePod r w.record
  kept : w.plans.release (planKey input.tenderId input.actionId) = none ∨
    w.plans.release (planKey input.tenderId input.actionId) = some plan

section After
variable {s : PodService} {r next : LifecycleRecord} {input : ShipperReviewInput} {w w' : PodWorld} {l : PodLabel}
  {ls : List PodLabel} {plan : BoundEscrowPlan} {reviewDeadlineAt : JsString}

theorem isProcessed_of_applies {p : Platform} {carriers : Option CarrierRegistry} {event : LifecycleEvent}
    {actionId : JsString} (h : Applies p carriers r event next) (hprocessed : isProcessed r actionId = true) :
    isProcessed next actionId = true := by
  by_contra hnot
  rw [Bool.not_eq_true] at hnot
  cases hprocessed.symm.trans (not_isProcessed_of_applies h hnot).1

/-- A call keeps the plans of an action that is processed, apart from a release that is built again. -/
theorem plans_of_call (hfound : recordOf w.record input.tenderId input.tenderVersion = .ok ())
    (hprocessed : isProcessed w.record input.actionId = true) (call : PodServiceCall) :
    (s.serve call w).2.plans.dispute (planKey input.tenderId input.actionId) =
        w.plans.dispute (planKey input.tenderId input.actionId) ∧
      ((s.serve call w).2.plans.release (planKey input.tenderId input.actionId) =
          w.plans.release (planKey input.tenderId input.actionId) ∨
        ∃ plan, Releases s w.record input.actionId plan ∧
          (s.serve call w).2.plans.release (planKey input.tenderId input.actionId) = some plan) := by
  cases call with
  | submit input' secrets => exact ⟨rfl, .inl rfl⟩
  | review input' =>
    have hplans : (s.serve (.review input') w).2.plans = (s.review input' ⟨w.record, w.plans⟩).2.plans := rfl
    rw [hplans]
    rcases review_cases (s := s) input' ⟨w.record, w.plans⟩ with
      ⟨e, hrefused⟩ | ⟨hfound', hprocessed'⟩ | ⟨reviewDeadlineAt, next, hcommits⟩
    · rw [hrefused]
      exact ⟨rfl, .inl rfl⟩
    · rw [review_of_processed hfound' hprocessed']
      have hdispute : (replayReview s.p s.ethers s.sha256Hex s.bindings w.record input' w.plans).2.dispute =
          w.plans.dispute := (@replayReview_agree s _ (planKey input.tenderId input.actionId) w.record w.plans).1
      refine ⟨congrFun hdispute _, ?_⟩
      have hrelease : (replayReview s.p s.ethers s.sha256Hex s.bindings w.record input' w.plans).2.release
            (planKey input.tenderId input.actionId) = w.plans.release (planKey input.tenderId input.actionId) ∨
          planKey input.tenderId input.actionId = planKey input'.tenderId input'.actionId ∧
            ∃ plan, Releases s w.record input'.actionId plan ∧
              (replayReview s.p s.ethers s.sha256Hex s.bindings w.record input' w.plans).2.release
                (planKey input.tenderId input.actionId) = some plan := replayReview_release
      rcases hrelease with hsame | ⟨hkey, plan, hplan, hkept⟩
      · exact .inl hsame
      · rw [← (recordOf_eq_ok.mp hfound).1, ← (recordOf_eq_ok.mp hfound').1] at hkey
        have hid : input.actionId = input'.actionId := List.append_cancel_left hkey
        exact .inr ⟨plan, hid ▸ hplan, hkept⟩
    · have hne : planKey input.tenderId input.actionId ≠ planKey input'.tenderId input'.actionId := by
        rw [← (recordOf_eq_ok.mp hfound).1, ← (recordOf_eq_ok.mp hcommits.found).1]
        intro hkey
        have hid : input.actionId = input'.actionId := List.append_cancel_left hkey
        cases (hid ▸ hprocessed).symm.trans hcommits.fresh
      obtain ⟨hrelease, hdispute⟩ := review_agree (s := s) (w := ⟨w.record, w.plans⟩) hne
      exact ⟨hdispute, .inl hrelease⟩

/-- What is remembered of the tender finds its record. -/
theorem Remembered.found (h : Remembered r input w) (hfound : recordOf r input.tenderId input.tenderVersion = .ok ()) :
    recordOf w.record input.tenderId input.tenderVersion = .ok () := by
  obtain ⟨hid, hversion⟩ := recordOf_eq_ok.mp hfound
  exact recordOf_eq_ok.mpr
    ⟨(congrArg TenderBinding.tenderId h.binding).trans hid, (congrArg TenderBinding.tenderVersion h.binding).trans hversion⟩

theorem remembered_step (hfound : recordOf r input.tenderId input.tenderVersion = .ok ()) (h : Remembered r input w)
    (hstep : PodStep s w l w') : Remembered r input w' := by
  have hplans : w'.plans.dispute (planKey input.tenderId input.actionId) =
      w.plans.dispute (planKey input.tenderId input.actionId) ∨
        w'.plans.dispute (planKey input.tenderId input.actionId) = none := by
    cases hstep with
    | event => exact .inl rfl
    | stored => exact .inl rfl
    | restarted => exact .inr rfl
    | call call => exact .inl (plans_of_call (h.found hfound) h.processed call).1
  have hundisputed (haction : input.action ≠ .rejectDispute) :
      w'.plans.dispute (planKey input.tenderId input.actionId) = none :=
    hplans.elim (fun hsame => hsame.trans (h.undisputed haction)) id
  rcases podStep_record hstep with hsame | ⟨event, happlies⟩
  · exact ⟨hsame ▸ h.binding, hsame ▸ h.podId, hsame ▸ h.state, hsame ▸ h.processed, hundisputed⟩
  · obtain ⟨_, -, hreduce⟩ := happlies.reduces
    obtain ⟨-, -, hreduces⟩ := reduceLifecycle_ok hreduce
    exact ⟨(reduceLifecycle_progress hreduce).1.trans h.binding, (podId_of_reduces hreduces h.state).trans h.podId,
      afterReview_of_reduces hreduces h.state, isProcessed_of_applies happlies h.processed, hundisputed⟩

theorem remembered_of_steps (hfound : recordOf r input.tenderId input.tenderVersion = .ok ()) (h : Remembered r input w)
    (hsteps : (podSystem s).Steps w ls w') : Remembered r input w' := by
  induction hsteps with
  | nil => exact h
  | snoc _ hstep ih => exact remembered_step hfound ih hstep

theorem releaseKept_step (hfound : recordOf r input.tenderId input.tenderVersion = .ok ()) (hr : Remembered r input w)
    (hplan : Releases s r input.actionId plan) (h : ReleaseKept r input plan w) (hstep : PodStep s w l w') :
    ReleaseKept r input plan w' := by
  have hkept : w'.plans.release (planKey input.tenderId input.actionId) = none ∨
      w'.plans.release (planKey input.tenderId input.actionId) = some plan := by
    cases hstep with
    | event => exact h.kept
    | stored => exact h.kept
    | restarted => exact .inl rfl
    | call call =>
      rcases (plans_of_call (hr.found hfound) hr.processed call).2 with hsame | ⟨rebuilt, hrebuilt, hkept⟩
      · rw [hsame]
        exact h.kept
      · rw [hkept, ((releases_congr h.same).mp hrebuilt).unique hplan]
        exact .inr rfl
  rcases podStep_record hstep with hsame | ⟨event, happlies⟩
  · exact ⟨hsame ▸ h.state, hsame ▸ h.same, hkept⟩
  · obtain ⟨_, -, hreduce⟩ := happlies.reduces
    obtain ⟨-, -, hreduces⟩ := reduceLifecycle_ok hreduce
    exact ⟨afterAcceptance_of_reduces hreduces h.state, h.same.trans (samePod_of_reduces hreduces h.state), hkept⟩

theorem releaseKept_of_steps (hfound : recordOf r input.tenderId input.tenderVersion = .ok ())
    (hr : Remembered r input w) (hplan : Releases s r input.actionId plan) (h : ReleaseKept r input plan w)
    (hsteps : (podSystem s).Steps w ls w') : ReleaseKept r input plan w' := by
  induction hsteps with
  | nil => exact h
  | snoc hpre hstep ih => exact releaseKept_step hfound (remembered_of_steps hfound hr hpre) hplan ih hstep

end After

/-! ## The repeated request -/

/-- When a request that decided on the record `r` has its first answer again. No state gives the answer of a rejection. -/
def SameAnswer (r : LifecycleRecord) (input : ShipperReviewInput) (w : PodWorld) : Prop :=
  match input.action with
  | .accept => w.record.updatedAt = input.signedAt
  | .requestCorrection =>
    w.record.updatedAt = input.signedAt ∧ w.record.reviewDeadlineAt = r.reviewDeadlineAt ∧
      w.plans.release (planKey input.tenderId input.actionId) = none
  | .rejectDispute => False

section Again
variable {s : PodService} {r next : LifecycleRecord} {input : ShipperReviewInput} {w w' : PodWorld}
  {ls ls' : List PodLabel} {reviewDeadlineAt : JsString} {item : PodOutboxItem} {result : ShipperReviewResult}

theorem serve_review_eq_ok :
    (s.serve (.review input) w).1 = .ok (.reviewed result) ↔ (s.review input ⟨w.record, w.plans⟩).1 = .ok result := by
  have hserve : (s.serve (.review input) w).1 = .reviewed <$> (s.review input ⟨w.record, w.plans⟩).1 := rfl
  rw [hserve, map_eq_ok]
  simp only [PodServiceResult.reviewed.injEq, exists_eq_right]

/-- An answer that something was applied comes with a commit. -/
theorem commits_of_applied (hfirst : (s.serve (.review input) w).1 = .ok (.reviewed result))
    (hcommitted : result.outcome = .applied) :
    ∃ reviewDeadlineAt next, ReviewCommits s w.record input reviewDeadlineAt next ∧
      (answerReview s.p s.ethers s.sha256Hex s.bindings w.record next input reviewDeadlineAt .applied w.plans).1 =
        .ok result ∧
      (s.serve (.review input) w).2.record = next ∧
      (s.serve (.review input) w).2.plans =
        (answerReview s.p s.ethers s.sha256Hex s.bindings w.record next input reviewDeadlineAt .applied w.plans).2 := by
  rw [serve_review_eq_ok] at hfirst
  rcases review_cases (s := s) input ⟨w.record, w.plans⟩ with
    ⟨e, hrefused⟩ | ⟨hfound, hprocessed⟩ | ⟨reviewDeadlineAt, next, hcommits⟩
  · rw [hrefused] at hfirst
    cases hfirst
  · rw [review_of_processed hfound hprocessed] at hfirst
    obtain ⟨_, -, _, -, rfl⟩ := replayReview_eq_ok.mp hfirst
    cases hcommitted
  · have hserve : (s.serve (.review input) w).2 =
        { w with
          record := (s.review input ⟨w.record, w.plans⟩).2.record
          plans := (s.review input ⟨w.record, w.plans⟩).2.plans } := rfl
    rw [review_of_commits hcommits] at hfirst hserve
    exact ⟨reviewDeadlineAt, next, hcommits, hfirst, congrArg PodWorld.record hserve, congrArg PodWorld.plans hserve⟩

/-- The answer to a repeated request. -/
theorem again_iff {plan : Option BoundEscrowPlan} {outbox : List PodOutboxItem}
    (hfound : recordOf w.record input.tenderId input.tenderVersion = .ok ())
    (hprocessed : isProcessed w.record input.actionId = true) :
    (∃ again, (s.serve (.review input) w).1 = .ok (.reviewed again) ∧ again.outcome = .replayed ∧
        again.escrowPlan = plan ∧ again.outbox = outbox) ↔
      (∃ replayed, replayedPlan s.p s.ethers s.sha256Hex s.bindings w.record input w.plans = .ok replayed ∧
        replayed.1 = plan) ∧ replayedOutbox s.p w.record input.action = .ok outbox := by
  have hreview := review_of_processed (s := s) (w := ⟨w.record, w.plans⟩) hfound hprocessed
  simp only [serve_review_eq_ok, hreview, replayReview_eq_ok]
  constructor
  · rintro ⟨_, ⟨replayed, hplan, outbox, houtbox, rfl⟩, -, rfl, rfl⟩
    exact ⟨⟨replayed, hplan, rfl⟩, houtbox⟩
  · rintro ⟨⟨replayed, hplan, rfl⟩, houtbox⟩
    exact ⟨_, ⟨replayed, hplan, outbox, houtbox, rfl⟩, rfl, rfl, rfl⟩

/-- The message is the same exactly when the record still has the time of the decision and its deadline. -/
theorem message_iff (hdecided : Decided r input next) (hunder : UnderReview r input reviewDeadlineAt)
    (hr : Remembered r input w) (hitem : reviewItem s.p next input.action reviewDeadlineAt = .ok item) :
    replayedOutbox s.p w.record input.action = .ok [item] ↔
      w.record.updatedAt = input.signedAt ∧ w.record.reviewDeadlineAt = r.reviewDeadlineAt := by
  rw [hunder.deadline.1]
  constructor
  · intro h
    rcases replayedOutbox_cases h with hempty | ⟨deadline, item', hdeadline, hitem', hsame⟩
    · cases hempty
    · cases hsame
      obtain ⟨htime, rfl⟩ := reviewItem_inj hitem hitem'
      exact ⟨htime.trans hdecided.updatedAt, (present_eq_some.mp hdeadline).1⟩
  · rintro ⟨htime, hdeadline⟩
    have hpod : present w.record.podId = some input.podId :=
      present_eq_some.mpr ⟨hr.podId.trans hunder.pod.1, hunder.pod.2⟩
    rw [replayedOutbox_eq hpod (present_eq_some.mpr ⟨hdeadline, hunder.deadline.2⟩),
      reviewItem_congr (hr.binding.trans hdecided.same.binding.symm) (hr.podId.trans hdecided.same.podId.symm)
        (htime.trans hdecided.updatedAt.symm), hitem]
    rfl

/-- A state that a decision has just led to remembers it. -/
theorem remembered_of_decided (hdecided : Decided r input next)
    (happlies : Applies s.p s.lifecycleCarriers r (reviewEvent input reviewDeadlineAt) next) (hw : w.record = next)
    (hdispute : input.action ≠ .rejectDispute → w.plans.dispute (planKey input.tenderId input.actionId) = none) :
    Remembered r input w := by
  subst hw
  have hstate : ∀ action : ShipperReviewActionKind, decidedState action ∉ beforeReview := by
    intro action
    cases action <;> decide
  refine ⟨hdecided.same.binding, hdecided.same.podId, hdecided.state ▸ hstate _, ?_, hdispute⟩
  by_contra hnot
  rw [Bool.not_eq_true] at hnot
  exact (not_isProcessed_of_applies happlies hnot).2 rfl

/-- A rejection was told two messages, and a replay is told one at most. -/
theorem rejection_not_repeated (haction : input.action = .rejectDispute)
    (hcommits : ReviewCommits s w.record input reviewDeadlineAt next)
    (hanswer : (answerReview s.p s.ethers s.sha256Hex s.bindings w.record next input reviewDeadlineAt .applied
      w.plans).1 = .ok result)
    (hrecord : (s.serve (.review input) w).2.record = next)
    (hlater : (podSystem s).Steps (s.serve (.review input) w).2 ls' w') :
    ¬ ∃ again, (s.serve (.review input) w').1 = .ok (.reviewed again) ∧ again.outcome = .replayed ∧
      again.escrowPlan = result.escrowPlan ∧ again.outbox = result.outbox := by
  obtain ⟨_, -, _, -, outbox, houtbox, rfl, -⟩ := answerReview_eq_ok.mp hanswer
  simp only [reviewOutbox, haction, bind_eq_ok, pure_eq_ok] at houtbox
  obtain ⟨opened, -, reviewed, -, rfl⟩ := houtbox
  have hdecided := decided_of_applies hcommits.applies
  have hr := remembered_of_decided hdecided hcommits.applies hrecord fun hne => absurd haction hne
  have hr' := remembered_of_steps hcommits.found hr hlater
  rw [again_iff (hr'.found hcommits.found) hr'.processed]
  rintro ⟨-, hmessages⟩
  rcases replayedOutbox_cases hmessages with hempty | ⟨_, _, -, -, hone⟩
  · cases hempty
  · cases hone

/-- An acceptance has its first answer again as long as the record has the time of the decision. -/
theorem acceptance_repeated_iff (haction : input.action = .accept) (haccepted : Accepted s.p w.record.tenderId w.record)
    (hcommits : ReviewCommits s w.record input reviewDeadlineAt next)
    (hanswer : (answerReview s.p s.ethers s.sha256Hex s.bindings w.record next input reviewDeadlineAt .applied
      w.plans).1 = .ok result)
    (hrecord : (s.serve (.review input) w).2.record = next)
    (hplans : (s.serve (.review input) w).2.plans =
      (answerReview s.p s.ethers s.sha256Hex s.bindings w.record next input reviewDeadlineAt .applied w.plans).2)
    (hrelease : w.plans.release (planKey input.tenderId input.actionId) = none)
    (hdispute : w.plans.dispute (planKey input.tenderId input.actionId) = none)
    (hlater : (podSystem s).Steps (s.serve (.review input) w).2 ls' w') :
    (∃ again, (s.serve (.review input) w').1 = .ok (.reviewed again) ∧ again.outcome = .replayed ∧
        again.escrowPlan = result.escrowPlan ∧ again.outbox = result.outbox) ↔
      w'.record.updatedAt = input.signedAt := by
  have happlies := hcommits.applies
  have hunder := underReview_of_checked hcommits.checked
  have hdecided := decided_of_applies happlies
  obtain ⟨tenderKey, hkey, ⟨decided, plans⟩, hplan, outbox, houtbox, rfl, hkept⟩ := answerReview_eq_ok.mp hanswer
  rw [hkept] at hplans
  obtain ⟨plan, rfl, hreleases, hnew, hsame⟩ := decidedPlan_accept haction (present_eq_some.mpr hunder.pod) hkey
    hrelease hplan
  simp only [reviewOutbox, haction, bind_eq_ok, pure_eq_ok] at houtbox
  obtain ⟨item, hitem, rfl⟩ := houtbox
  have hr := remembered_of_decided hdecided happlies hrecord fun _ => by rw [hplans, hsame, hdispute]
  have hfirstKept : ReleaseKept w.record input plan (s.serve (.review input) w).2 := by
    refine ⟨?_, hrecord ▸ hdecided.same, .inr (by rw [hplans, hnew])⟩
    rw [hrecord, hdecided.state, haction]
    decide
  have hlaterKept := releaseKept_of_steps hcommits.found hr hreleases hfirstKept hlater
  have hr' := remembered_of_steps hcommits.found hr hlater
  have hcontent : ∃ hash, present w'.record.podContentHash = some hash := by
    obtain ⟨hash, hhash⟩ := Option.isSome_iff_exists.mp
      (haccepted.delivered.package (by rw [hunder.state]; decide)).2.2.1
    have hformat := haccepted.pod.podContentHash _ hhash
    refine ⟨hash, present_eq_some.mpr ⟨hlaterKept.same.podContentHash.trans hhash, ?_⟩⟩
    rintro rfl
    exact absurd hformat (by decide)
  obtain ⟨plans', hreplayed⟩ := replayedPlan_of_releases hcontent haction ((releases_congr hlaterKept.same).mpr hreleases)
    hlaterKept.kept (hr'.undisputed (by rw [haction]; decide))
  rw [← haction] at hitem
  rw [again_iff (hr'.found hcommits.found) hr'.processed, and_iff_right ⟨_, hreplayed, rfl⟩,
    message_iff hdecided hunder hr' hitem, and_iff_left hlaterKept.same.reviewDeadlineAt]

end Again

/-- **When a repeated review has its first answer.** A request that committed a decision and was answered is repeated in
any later state, also after restarts: the answer is a replay with the same plan and the same messages exactly when the
record still has the time of the decision, and, for a correction, its deadline and no release under its action. A
rejection never has its first answer again. -/
theorem repeated_review_iff {s : PodService} {ls ls' : List PodLabel} {w w' : PodWorld} {input : ShipperReviewInput}
    {result : ShipperReviewResult} (hrun : (podSystem s).Run ls w)
    (hfirst : (s.serve (.review input) w).1 = .ok (.reviewed result)) (hcommitted : result.outcome = .applied)
    (hlater : (podSystem s).Steps (s.serve (.review input) w).2 ls' w') :
    (∃ again, (s.serve (.review input) w').1 = .ok (.reviewed again) ∧ again.outcome = .replayed ∧
        again.escrowPlan = result.escrowPlan ∧ again.outbox = result.outbox) ↔
      SameAnswer w.record input w' := by
  obtain ⟨reviewDeadlineAt, next, hcommits, hanswer, hrecord, hplans⟩ := commits_of_applied hfirst hcommitted
  have happlies := hcommits.applies
  have hunder := underReview_of_checked hcommits.checked
  have hdecided := decided_of_applies happlies
  -- no plan was kept under the fresh action
  obtain ⟨hrelease, hdispute⟩ := plansOwned_of_run hrun _ hcommits.fresh
  rw [(recordOf_eq_ok.mp hcommits.found).1] at hrelease hdispute
  cases haction : input.action with
  | accept =>
    rw [SameAnswer, haction]
    exact acceptance_repeated_iff haction (accepted_of_run hrun) hcommits hanswer hrecord hplans hrelease hdispute hlater
  | requestCorrection =>
    obtain ⟨tenderKey, hkey, ⟨decided, plans⟩, hplan, outbox, houtbox, rfl, hkept⟩ := answerReview_eq_ok.mp hanswer
    rw [hkept] at hplans
    simp only [decidedPlan, haction, Except.ok.injEq, Prod.mk.injEq] at hplan
    obtain ⟨rfl, rfl⟩ := hplan
    simp only [reviewOutbox, haction, bind_eq_ok, pure_eq_ok] at houtbox
    obtain ⟨item, hitem, rfl⟩ := houtbox
    have hr := remembered_of_decided hdecided happlies hrecord fun _ => by rw [hplans, hdispute]
    have hr' := remembered_of_steps hcommits.found hr hlater
    have hnone : (∃ replayed, replayedPlan s.p s.ethers s.sha256Hex s.bindings w'.record input w'.plans = .ok replayed ∧
        replayed.1 = none) ↔ w'.plans.release (planKey input.tenderId input.actionId) = none := by
      have hundisputed := hr'.undisputed (by rw [haction]; decide)
      cases hkept : w'.plans.release (planKey input.tenderId input.actionId) with
      | none => simp only [replayedPlan, hkept, hundisputed, haction, Except.ok.injEq, exists_eq_left']
      | some plan => simp only [replayedPlan, hkept, Except.ok.injEq, exists_eq_left', reduceCtorEq]
    rw [← haction] at hitem
    rw [again_iff (hr'.found hcommits.found) hr'.processed, hnone, message_iff hdecided hunder hr' hitem, SameAnswer,
      haction, and_comm, and_assoc]
  | rejectDispute =>
    have hnot := rejection_not_repeated haction hcommits hanswer hrecord hlater
    rw [SameAnswer, haction, iff_false]
    exact hnot

/-! ## Repeated at once -/

namespace ReviewSample

/-- A committed request that can be answered has an answer, and was applied. -/
theorem answered {request : ShipperReviewInput} {r : LifecycleRecord} {ls : List PodLabel}
    (hrun : (podSystem service).Run ls ⟨r, .empty, fun _ => none⟩)
    (hcommits : ∃ reviewDeadlineAt next, ReviewCommits service r request reviewDeadlineAt next)
    (hadmissible : ReviewAdmissible service r request) :
    ∃ result, (service.serve (.review request) ⟨r, .empty, fun _ => none⟩).1 = .ok (.reviewed result) ∧
      result.outcome = .applied := by
  obtain ⟨reviewDeadlineAt, next, hcommits⟩ := hcommits
  have hanswer : (∃ result, (answerReview service.p service.ethers service.sha256Hex service.bindings r next request
      reviewDeadlineAt .applied .empty).1 = .ok result) ↔ ReviewAdmissible service r request :=
    answerReview_iff (hexDigest_asciiPlatform _) (accepted_of_run hrun) hcommits ⟨rfl, rfl⟩
  obtain ⟨result, hresult⟩ := hanswer.mpr hadmissible
  refine ⟨result, serve_review_eq_ok.mpr ?_, ?_⟩
  · rw [review_of_commits (w := ⟨r, .empty⟩) hcommits]
    exact hresult
  · obtain ⟨_, -, _, -, _, -, rfl, -⟩ := answerReview_eq_ok.mp hresult
    rfl

end ReviewSample

open ReviewSample in
/-- An acceptance that is repeated at once has its first answer. -/
theorem repeated_review_acceptance : ∃ ls w result, (podSystem service).Run ls w ∧
    (service.serve (.review acceptInput) w).1 = .ok (.reviewed result) ∧ result.outcome = .applied ∧
    ∃ again, (service.serve (.review acceptInput) (service.serve (.review acceptInput) w).2).1 = .ok (.reviewed again) ∧
      again.outcome = .replayed ∧ again.escrowPlan = result.escrowPlan ∧ again.outbox = result.outbox := by
  obtain ⟨r, ls, hrun, hcommits, hadmissible⟩ := ReviewSample.acceptance
  obtain ⟨result, hfirst, happlied⟩ := answered hrun hcommits hadmissible
  refine ⟨ls, _, result, hrun, hfirst, happlied, (repeated_review_iff hrun hfirst happlied (.nil _)).mpr ?_⟩
  obtain ⟨_, _, hcommits, -, hrecord, -⟩ := commits_of_applied hfirst happlied
  show (service.serve (.review acceptInput) _).2.record.updatedAt = acceptInput.signedAt
  rw [hrecord]
  exact (decided_of_applies hcommits.applies).updatedAt

open ReviewSample in
/-- A rejection that is repeated at once has another answer. -/
theorem repeated_rejection_differs : ∃ ls w result, (podSystem service).Run ls w ∧
    (service.serve (.review (rejectInput (js "dispute-1"))) w).1 = .ok (.reviewed result) ∧ result.outcome = .applied ∧
    ¬ ∃ again, (service.serve (.review (rejectInput (js "dispute-1")))
          (service.serve (.review (rejectInput (js "dispute-1"))) w).2).1 = .ok (.reviewed again) ∧
        again.outcome = .replayed ∧ again.escrowPlan = result.escrowPlan ∧ again.outbox = result.outbox := by
  obtain ⟨r, ls, hrun, hcommits, hadmissible⟩ := rejection
  obtain ⟨result, hfirst, happlied⟩ := answered hrun hcommits hadmissible
  obtain ⟨_, _, hcommits, hanswer, hrecord, -⟩ := commits_of_applied hfirst happlied
  exact ⟨ls, _, result, hrun, hfirst, happlied, rejection_not_repeated rfl hcommits hanswer hrecord (.nil _)⟩

end RouteGuard.Pod
