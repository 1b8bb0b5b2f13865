import RouteGuard.Pod.RepeatedReviews

/-!
# Plans without a decision

A repeated request is known by its action id alone: whatever event the action committed, an acceptance is answered with a
release and a message of its own.

* `Warranted` : an answer whose plan and messages have their decision in the history;
* `OwnDecision` : an acceptance does not repeat the action of another event;
* `Indexed` : what the index of actions tells of the history;
* `plans_warranted` : in every run of such requests, every answer is warranted;
* `replay_unwarranted` : a run in which the start of the review is repeated as an acceptance.
-/

namespace RouteGuard.Pod
open JsString Guarded Lifecycle Store Auth Hcs.V2

/-- An event of the type was committed under the action. -/
def CommittedUnder (r : LifecycleRecord) (actionId : JsString) (type : LifecycleEventType) : Prop :=
  ∃ entry ∈ r.history, entry.actionId = actionId ∧ entry.eventType = type

/-- The decision that a plan carries out. -/
def BoundPlanKind.decision : BoundPlanKind → LifecycleEventType
  | .RELEASE_FULL => .podAcceptedByShipper
  | .OPEN_DISPUTE => .podRejectedToDispute

/-- The plan, and an acceptance that is told, have their decision in the history. -/
structure Warranted (input : ShipperReviewInput) (result : ShipperReviewResult) : Prop where
  plan : ∀ bound ∈ result.escrowPlan, CommittedUnder result.record input.actionId bound.kind.decision
  message : ∀ item ∈ result.outbox, item.kind = .POD_REVIEW_ACTION →
    (js "action", .str (js "ACCEPT")) ∈ item.envelope.payload →
      CommittedUnder result.record input.actionId .podAcceptedByShipper

/-- Once a POD is bound, an acceptance whose action is processed finds an acceptance in the index. -/
def OwnDecision (r : LifecycleRecord) (input : ShipperReviewInput) : Prop :=
  input.action = .accept → recordOf r input.tenderId input.tenderVersion = .ok () → isProcessed r input.actionId →
    r.podId.isSome →
      ∃ action ∈ r.processedActions.lookup input.actionId, action.eventType = .podAcceptedByShipper

def OwnStep (w : PodWorld) : PodLabel → Prop
  | .call (.review input) => OwnDecision w.record input
  | _ => True

/-- Every action of the index was committed under its type. -/
def Indexed (r : LifecycleRecord) : Prop :=
  ∀ actionId, ∀ action ∈ r.processedActions.lookup actionId, CommittedUnder r actionId action.eventType

/-- The plans that are kept are of the kind, and have their decision in the history. -/
def KindWarranted (r : LifecycleRecord) (kind : BoundPlanKind) (kept : JsString → Option BoundEscrowPlan) : Prop :=
  ∀ actionId bound, kept (planKey r.tenderId actionId) = some bound →
    bound.kind = kind ∧ CommittedUnder r actionId kind.decision

structure PlansWarranted (r : LifecycleRecord) (plans : EscrowPlans) : Prop where
  release : KindWarranted r .RELEASE_FULL plans.release
  dispute : KindWarranted r .OPEN_DISPUTE plans.dispute

section Plans
variable {p : Platform} {carriers : Option CarrierRegistry} {s : PodService} {r next : LifecycleRecord}
  {input : ShipperReviewInput} {plans plans' : EscrowPlans} {answer : Option BoundEscrowPlan} {kind : BoundPlanKind}
  {bound : BoundEscrowPlan} {kept kept' : JsString → Option BoundEscrowPlan} {actionId reviewDeadlineAt : JsString}
  {event : LifecycleEvent} {w w' : PodWorld} {bindings : BoundPlanInput}
  {buildPlan : JsString → Int → JsString → Except Escrow.PlanError Escrow.EscrowTransactionPlan}

/-- An applied event is committed under its action, and the others stay. -/
theorem committedUnder_of_applies (h : Applies p carriers r event next) :
    CommittedUnder next event.actionId event.type ∧
      ∀ actionId type, CommittedUnder r actionId type → CommittedUnder next actionId type := by
  obtain ⟨_, -, hreduce⟩ := h.reduces
  obtain ⟨-, reason, hprogress⟩ := reduceLifecycle_progress hreduce
  have hhistory : next.history = r.history ++
      [⟨r.state, next.state, event.type, event.actionId, event.eventTime, reason⟩] := congrArg Progress.history hprogress
  simp only [CommittedUnder, hhistory, List.mem_append, List.mem_singleton]
  refine ⟨⟨_, .inr rfl, rfl, rfl⟩, ?_⟩
  rintro _ _ ⟨entry, hentry, hof⟩
  exact ⟨entry, .inl hentry, hof⟩

theorem indexed_of_applies (hr : Indexed r) (h : Applies p carriers r event next) : Indexed next := by
  obtain ⟨hnew, hold⟩ := committedUnder_of_applies h
  intro actionId action haction
  rw [lookup_of_prepared h.prepared] at haction
  split at haction
  · next hid =>
    cases haction
    exact hid ▸ hnew
  · exact hold _ _ (hr actionId action haction)

/-- **The index tells the history.** -/
theorem indexed_of_run {es : List LifecycleEvent} (h : (applySystem p carriers).Run es r) : Indexed r := by
  refine System.Run.induction (S := applySystem p carriers) (I := fun _ r => Indexed r) ?_ ?_ h
  · rintro r ⟨⟨input, hcreate⟩, -⟩ actionId action haction
    simp only [createLifecycleRecord, bind_eq_ok, pure_eq_ok] at hcreate
    obtain ⟨-, -, rfl⟩ := hcreate
    cases haction
  · exact fun _ _ _ _ _ ih hstep => indexed_of_applies ih hstep

/-- An acceptance of its own was committed as one. -/
theorem OwnDecision.committed (h : OwnDecision r input) (hr : Indexed r) (haction : input.action = .accept)
    (hfound : recordOf r input.tenderId input.tenderVersion = .ok ()) (hprocessed : isProcessed r input.actionId)
    (hpod : r.podId.isSome) : CommittedUnder r input.actionId .podAcceptedByShipper := by
  obtain ⟨action, hmem, htype⟩ := h haction hfound hprocessed hpod
  exact htype ▸ hr _ action hmem

theorem plansWarranted_empty : PlansWarranted r .empty := by
  constructor <;>
    · intro _ _ hkept
      cases hkept

theorem PlansWarranted.applies (h : PlansWarranted r plans) (happlies : Applies p carriers r event next) :
    PlansWarranted next plans := by
  have grown {kind kept} (h : KindWarranted r kind kept) : KindWarranted next kind kept := by
    intro actionId bound hkept
    rw [tenderId_of_applies happlies] at hkept
    exact (h actionId bound hkept).imp_right ((committedUnder_of_applies happlies).2 _ _)
  exact ⟨grown h.release, grown h.dispute⟩

theorem KindWarranted.told (h : KindWarranted r kind kept)
    (hkept : kept (planKey r.tenderId actionId) = some bound) :
    ∀ b ∈ some bound, CommittedUnder r actionId b.kind.decision := by
  rintro _ ⟨⟩
  obtain ⟨hkind, hcommitted⟩ := h actionId bound hkept
  exact hkind ▸ hcommitted

/-- A new plan of a decision in the history is warranted. -/
theorem KindWarranted.update (h : KindWarranted r kind kept) (hkind : bound.kind = kind)
    (hcommitted : CommittedUnder r actionId kind.decision) :
    KindWarranted r kind (Function.update kept (planKey r.tenderId actionId) (some bound)) := by
  intro actionId' bound' hbound
  by_cases hkey : planKey r.tenderId actionId' = planKey r.tenderId actionId
  · rw [hkey, Function.update_self] at hbound
    cases hbound
    exact List.append_cancel_left hkey ▸ ⟨hkind, hcommitted⟩
  · rw [Function.update_of_ne hkey] at hbound
    exact h actionId' bound' hbound

theorem kind_of_built (h : buildBoundPlan p kind buildPlan bindings = .ok bound) : bound.kind = kind := by
  simp only [buildBoundPlan, bind_eq_ok, pure_eq_ok] at h
  obtain ⟨_, -, _, -, _, -, _, -, rfl⟩ := h
  rfl

theorem keepPlan_warranted (h : KindWarranted r kind kept) (hcommitted : CommittedUnder r actionId kind.decision)
    (hkeep : keepPlan kept (planKey r.tenderId actionId) (buildBoundPlan p kind buildPlan bindings) =
      .ok (bound, kept')) :
    KindWarranted r kind kept' ∧ ∀ b ∈ some bound, CommittedUnder r actionId b.kind.decision := by
  unfold keepPlan at hkeep
  split at hkeep
  · next hexisting =>
    cases hkeep
    exact ⟨h, h.told hexisting⟩
  · obtain ⟨_, hplan, heq⟩ := map_eq_ok.mp hkeep
    cases heq
    have hall := h.update (kind_of_built (mapError_eq_ok.mp hplan)) hcommitted
    exact ⟨hall, hall.told (Function.update_self _ _ _)⟩

/-- What a decision is answered with. -/
theorem decidedPlan_warranted {tenderKey : JsString} (h : PlansWarranted next plans)
    (hid : next.tenderId = input.tenderId)
    (hcommitted : CommittedUnder next input.actionId (reviewBody input reviewDeadlineAt).type)
    (hplan : decidedPlan s.p s.ethers s.sha256Hex s.bindings r next input tenderKey plans = .ok (answer, plans')) :
    PlansWarranted next plans' ∧ ∀ bound ∈ answer, CommittedUnder next input.actionId bound.kind.decision := by
  simp only [decidedPlan, ← hid] at hplan
  cases haction : input.action <;> simp only [reviewBody, haction] at hplan hcommitted
  case requestCorrection =>
    cases hplan
    exact ⟨h, by simp⟩
  -- either decision keeps its plan and answers with it
  all_goals
    obtain ⟨_, hkeep, heq⟩ := map_eq_ok.mp hplan
    cases heq
  case accept =>
    obtain ⟨hall, hbound⟩ := keepPlan_warranted h.release hcommitted hkeep
    exact ⟨⟨hall, h.dispute⟩, hbound⟩
  case rejectDispute =>
    obtain ⟨hall, hbound⟩ := keepPlan_warranted h.dispute hcommitted hkeep
    exact ⟨⟨h.release, hall⟩, hbound⟩

/-- What a processed action is answered with. -/
theorem replayedPlan_warranted (h : PlansWarranted r plans) (hid : r.tenderId = input.tenderId)
    (hown : input.action = .accept → r.podId.isSome → CommittedUnder r input.actionId .podAcceptedByShipper)
    (hplan : replayedPlan s.p s.ethers s.sha256Hex s.bindings r input plans = .ok (answer, plans')) :
    PlansWarranted r plans' ∧ ∀ bound ∈ answer, CommittedUnder r input.actionId bound.kind.decision := by
  simp only [replayedPlan, ← hid] at hplan
  split at hplan
  · next hrelease =>
    cases hplan
    exact ⟨h, h.release.told hrelease⟩
  · next hdispute =>
    cases hplan
    exact ⟨h, h.dispute.told hdispute⟩
  · split at hplan
    · next podId _ haction hpod _ =>
      simp only [bind_eq_ok, pure_eq_ok, mapError_eq_ok] at hplan
      obtain ⟨_, -, bound, hbuilt, heq⟩ := hplan
      cases heq
      have hall := h.release.update (kind_of_built hbuilt) (hown haction (by rw [(present_eq_some.mp hpod).1]; rfl))
      exact ⟨⟨hall, h.dispute⟩, hall.told (Function.update_self _ _ _)⟩
    · cases hplan
      exact ⟨h, by simp⟩

/-- An acceptance is told for an acceptance, once a POD is bound. -/
theorem accept_of_item {action : ShipperReviewActionKind} {item : PodOutboxItem}
    (h : reviewItem p r action reviewDeadlineAt = .ok item)
    (haccept : (js "action", .str (js "ACCEPT")) ∈ item.envelope.payload) : action = .accept ∧ r.podId.isSome := by
  obtain ⟨podId, hpod, henvelope⟩ := reviewItem_eq_ok h
  have hpayload : item.envelope.payload = podReviewActionPayload podId action reviewDeadlineAt := by rw [henvelope]; rfl
  have htext : js "ACCEPT" = action.text := by
    simpa [hpayload, podReviewActionPayload, show js "action" ≠ js "podId" by decide,
      show js "action" ≠ js "reviewDeadlineAt" by decide] using haccept
  refine ⟨?_, by rw [(present_eq_some.mp hpod).1]; rfl⟩
  revert htext
  cases action <;> decide

/-- **What a review makes of the plans, and its answer, are warranted.** -/
theorem review_warranted {w : Reviewed} (hr : Indexed w.record) (h : PlansWarranted w.record w.plans)
    (hown : OwnDecision w.record input) :
    PlansWarranted (s.review input w).2.record (s.review input w).2.plans ∧
      ∀ result, (s.review input w).1 = .ok result → Warranted input result := by
  rcases review_cases (s := s) input w with ⟨e, hrefused⟩ | ⟨hfound, hprocessed⟩ | ⟨reviewDeadlineAt, next, hcommits⟩
  · rw [hrefused]
    exact ⟨h, fun _ hresult => by cases hresult⟩
  · have hown' := fun haction => hown.committed hr haction hfound hprocessed
    rw [review_of_processed hfound hprocessed]
    unfold replayReview
    split
    · exact ⟨h, fun _ hresult => by cases hresult⟩
    · next hplan =>
      obtain ⟨hall, hanswer⟩ := replayedPlan_warranted h (recordOf_eq_ok.mp hfound).1 hown' hplan
      refine ⟨hall, fun _ hresult => ?_⟩
      obtain ⟨outbox, houtbox, rfl⟩ := map_eq_ok.mp hresult
      refine ⟨hanswer, fun item hitem _ haccept => ?_⟩
      rcases replayedOutbox_cases houtbox with rfl | ⟨deadline, told, -, htold, rfl⟩
      · cases hitem
      · cases List.mem_singleton.mp hitem
        obtain ⟨haction, hpod⟩ := accept_of_item htold haccept
        exact hown' haction hpod
  · have hnext := h.applies hcommits.applies
    have hcommitted := (committedUnder_of_applies hcommits.applies).1
    rw [review_of_commits hcommits]
    unfold answerReview
    split
    · exact ⟨hnext, fun _ hresult => by cases hresult⟩
    · split
      · exact ⟨hnext, fun _ hresult => by cases hresult⟩
      · next hplan =>
        obtain ⟨hall, hanswer⟩ := decidedPlan_warranted hnext
          ((tenderId_of_applies hcommits.applies).trans (recordOf_eq_ok.mp hcommits.found).1) hcommitted hplan
        refine ⟨hall, fun _ hresult => ?_⟩
        obtain ⟨outbox, houtbox, rfl⟩ := map_eq_ok.mp hresult
        refine ⟨hanswer, fun item hitem hkind haccept => ?_⟩
        have htold : reviewItem s.p next input.action reviewDeadlineAt = .ok item := by
          simp only [reviewOutbox] at houtbox
          split at houtbox <;> simp only [bind_eq_ok, pure_eq_ok] at houtbox
          · obtain ⟨_, hopened, _, htold, rfl⟩ := houtbox
            obtain ⟨_, -, rfl⟩ := map_eq_ok.mp hopened
            rcases List.mem_pair.mp hitem with rfl | rfl
            · cases hkind
            · exact htold
          · obtain ⟨_, htold, rfl⟩ := houtbox
            cases List.mem_singleton.mp hitem
            exact htold
        have htype : (reviewEvent input reviewDeadlineAt).type = .podAcceptedByShipper := by
          simp only [LifecycleEvent.type, reviewEvent, reviewBody, (accept_of_item htold haccept).1]
          rfl
        exact htype ▸ hcommitted

theorem plansWarranted_step {l : PodLabel} (hr : Indexed w.record) (h : PlansWarranted w.record w.plans)
    (hstep : PodStep s w l w') (hown : OwnStep w l) : PlansWarranted w'.record w'.plans := by
  cases hstep with
  | event happlies => exact h.applies happlies
  | stored => exact h
  | restarted => exact plansWarranted_empty
  | call call =>
    cases call with
    | review input => exact (review_warranted (w := ⟨w.record, w.plans⟩) hr h hown).1
    | submit input secrets =>
      rcases serve_record (s := s) (.submit input secrets) w with hsame | ⟨event, happlies⟩
      · rw [hsame]
        exact h
      · exact h.applies happlies

end Plans

/-- **Plans and acceptances have their decision.** In every run in which no acceptance repeats the action of another
event, a review that does not either answers with plans and messages of decisions in the history. -/
theorem plans_warranted {s : PodService} {ls : List PodLabel} {w : PodWorld}
    (hrun : ((podSystem s).restrict OwnStep).Run ls w) {input : ShipperReviewInput} (hown : OwnDecision w.record input)
    {result : ShipperReviewResult} (h : (s.serve (.review input) w).1 = .ok (.reviewed result)) :
    Warranted input result := by
  have hindexed {ls : List PodLabel} {w : PodWorld} (h : ((podSystem s).restrict OwnStep).Run ls w) : Indexed w.record := by
    obtain ⟨_, hes⟩ := record_of_run h.of_restrict
    exact indexed_of_run hes
  have hplans : PlansWarranted w.record w.plans := by
    refine System.Run.induction (S := (podSystem s).restrict OwnStep) (I := fun _ w => PlansWarranted w.record w.plans)
      ?_ ?_ hrun
    · rintro w ⟨-, hplans⟩
      rw [hplans]
      exact plansWarranted_empty
    · exact fun _ _ _ _ hls ih hstep => plansWarranted_step (hindexed hls) ih hstep.1 hstep.2
  exact (review_warranted (w := ⟨w.record, w.plans⟩) (hindexed hrun) hplans hown).2 result (serve_review_eq_ok.mp h)

/-- The acceptance is committed on the record, and the process starts again. -/
def ReviewSample.afterRestart (r : LifecycleRecord) : PodWorld :=
  { (service.serve (.review acceptInput) ⟨r, .empty, fun _ => none⟩).2 with plans := .empty }

open ReviewSample in
/-- An acceptance that is repeated after a restart is answered with the release that was decided. -/
theorem plans_warranted_acceptance : ∃ ls w again, ((podSystem service).restrict OwnStep).Run ls w ∧
    isProcessed w.record acceptInput.actionId ∧ OwnDecision w.record acceptInput ∧
    (service.serve (.review acceptInput) w).1 = .ok (.reviewed again) ∧ again.escrowPlan.isSome ∧
    Warranted acceptInput again := by
  obtain ⟨r, ls, hrun, hcommits, hadmissible⟩ := ReviewSample.acceptance
  obtain ⟨result, hfirst, happlied⟩ := answered hrun hcommits hadmissible
  obtain ⟨_, _, hcommits, hanswer, hrecord, hplans⟩ := commits_of_applied hfirst happlied
  have happlies := hcommits.applies
  have hdecided := decided_of_applies happlies
  have hrestarted : (afterRestart r).record = _ := hrecord
  -- the first request was fresh, and the repeated one finds its own acceptance
  have hfresh : OwnDecision r acceptInput := fun _ _ hprocessed _ => by cases hcommits.fresh.symm.trans hprocessed
  have hown : OwnDecision (afterRestart r).record acceptInput := by
    rw [hrestarted]
    exact fun _ _ _ _ => ⟨_, lookup_of_prepared happlies.prepared _, rfl⟩
  obtain ⟨_, hes⟩ := record_of_run hrun
  obtain ⟨_, hrun'⟩ := podRun_of_events (C := OwnStep) (fun _ _ => trivial) hes fun _ => none
  have hcalled := hrun'.snoc ⟨PodStep.call (.review acceptInput), hfresh⟩
  have hagainRun := hcalled.snoc ⟨PodStep.restarted, trivial⟩
  have hremembered : Remembered r acceptInput (afterRestart r) :=
    remembered_of_decided hdecided happlies hrestarted fun _ => rfl
  have htime : (afterRestart r).record.updatedAt = acceptInput.signedAt := by
    rw [hrestarted]
    exact hdecided.updatedAt
  obtain ⟨again, hagain, -, hplan, -⟩ := (acceptance_repeated_iff rfl (accepted_of_run hrun) hcommits hanswer hrecord
    hplans rfl rfl ((System.Steps.nil _).snoc .restarted)).mpr htime
  -- the plan is that of the first answer
  obtain ⟨_, hkey, ⟨_, _⟩, hbuilt, _, -, hresult, -⟩ := answerReview_eq_ok.mp hanswer
  obtain ⟨plan, rfl, -⟩ := decidedPlan_accept rfl
    (present_eq_some.mpr (underReview_of_checked hcommits.checked).pod) hkey rfl hbuilt
  have hsome : again.escrowPlan = some plan := by rw [hplan, ← hresult]
  exact ⟨_, afterRestart r, again, hagainRun, hremembered.processed, hown, hagain, hsome ▸ rfl,
    plans_warranted hagainRun hown hagain⟩

/-! ## The start of the review, repeated -/

namespace ReviewSample
open Lifecycle.Sample Escrow

/-- An acceptance under the action that started the review, which nobody has signed. -/
def repeatedStart : ShipperReviewInput := { acceptInput with actionId := js "a11", signature := [] }

/-- What is computed of the record under review. -/
def startCheck (r : LifecycleRecord) : Prop :=
  (r.tenderId = js "T-1" ∧ r.tenderVersion = 1) ∧ isProcessed r repeatedStart.actionId = true ∧
    (r.podId = some (js "pod-1") ∧ (present r.podContentHash).isSome) ∧
    r.reviewDeadlineAt = some (js "2026-01-06T02:00:00.000Z") ∧
    (∀ entry ∈ r.history, entry.eventType ≠ .podAcceptedByShipper) ∧
    IsAuthorization (acceptanceHash service.sha256Hex r (js "pod-1") repeatedStart.actionId)

instance (r : LifecycleRecord) : Decidable (startCheck r) := inferInstanceAs (Decidable (_ ∧ _))

theorem startChecked : ∃ r ∈ checkedRun signedDecisions none input (events.take 11), startCheck r := by
  decide +kernel

end ReviewSample

open ReviewSample in
/-- The start of the review is repeated as an acceptance: a release is answered that the shipper has not decided. -/
theorem replay_unwarranted : ∃ ls w result bound, (podSystem service).Run ls w ∧
    (service.serve (.review repeatedStart) w).1 = .ok (.reviewed result) ∧ bound ∈ result.escrowPlan ∧
    bound.kind = .RELEASE_FULL ∧ ∀ entry ∈ result.record.history, entry.eventType ≠ .podAcceptedByShipper := by
  obtain ⟨r, hr, htender, hprocessed, ⟨hpodId, hcontent⟩, hdeadline, hunaccepted, hhash⟩ := startChecked
  have hp : signedDecisions.HexDigest := hexDigest_asciiPlatform _
  have hrun := run_of_checked hp Store.Sample.inputFormat hr
  obtain ⟨ls, hls⟩ := podRun_of_events (s := service) (C := fun _ _ => True) (fun _ _ => trivial) hrun fun _ => none
  have hpublic : isPublicId r.tenderId := by
    rw [htender.1]
    decide
  have hpod : present r.podId = some repeatedStart.podId := present_eq_some.mpr ⟨hpodId, by decide⟩
  have hpresent : present r.reviewDeadlineAt = some (js "2026-01-06T02:00:00.000Z") :=
    present_eq_some.mpr ⟨hdeadline, by decide⟩
  -- the plan is rebuilt from the record, and the message tells an acceptance
  obtain ⟨tenderKey, hkey⟩ := ReviewSample.tenderKey htender
  have hbuilt : ∃ bound, releasePlan service.p service.ethers service.sha256Hex service.bindings r repeatedStart.podId
      repeatedStart.actionId tenderKey false = .ok bound :=
    (buildBoundReleaseFullPlan_iff hkey).mpr ⟨fun hlive => absurd hlive Bool.false_ne_true, hhash⟩
  obtain ⟨bound, hbound⟩ := hbuilt
  have hreplayed : ∃ plans, replayedPlan service.p service.ethers service.sha256Hex service.bindings r repeatedStart
      .empty = .ok (some bound, plans) :=
    replayedPlan_of_releases (Option.isSome_iff_exists.mp hcontent) rfl
      ⟨_, tenderKey, hpod, mapError_eq_ok.mpr hkey, hbound⟩ (.inl rfl) rfl
  obtain ⟨plans, hplan⟩ := hreplayed
  have hutc : isUtcIsoTimestamp (js "2026-01-06T02:00:00.000Z") := by decide
  have hpublicPod : isPublicId repeatedStart.podId := by decide
  have haccept : repeatedStart.action = .accept := rfl
  have hdispute : repeatedStart.action ≠ .rejectDispute := by decide
  have htold : ∃ outbox, reviewOutbox service.p r repeatedStart (js "2026-01-06T02:00:00.000Z") = .ok outbox :=
    (reviewOutbox_iff hp (applySystem_accepted hrun) hpodId hutc fun haction => absurd haction hdispute).mpr
      ⟨hpublic, hpublicPod, fun haction => absurd haction hdispute⟩
  obtain ⟨outbox, houtbox⟩ := htold
  simp only [reviewOutbox, haccept, bind_eq_ok, pure_eq_ok] at houtbox
  obtain ⟨item, hitem, -⟩ := houtbox
  have hanswer : (service.review repeatedStart ⟨r, .empty⟩).1 =
      .ok ⟨r, repeatedStart.action, some bound, [item], .replayed⟩ := by
    rw [review_of_processed (w := ⟨r, .empty⟩) (recordOf_eq_ok.mpr htender) hprocessed]
    refine replayReview_eq_ok.mpr ⟨_, hplan, [item], ?_, rfl⟩
    rw [replayedOutbox_eq hpod hpresent]
    exact map_eq_ok.mpr ⟨item, hitem, rfl⟩
  exact ⟨ls, ⟨r, .empty, fun _ => none⟩, _, bound, hls.of_restrict, serve_review_eq_ok.mpr hanswer, rfl,
    kind_of_built hbound, hunaccepted⟩

end RouteGuard.Pod
