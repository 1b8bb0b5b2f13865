import RouteGuard.Pod.Submission

/-!
# Runs of the POD service

* `PodService` : the service with what it depends on;
* `PodServiceCall`, `PodService.serve` : a review or a submission, on the record, the plans and the packages;
* `podSystem` : one tender from its creation: calls, other events, and restarts that empty the plans;
* `review_cases`, `submit_cases` : a call commits one event, or leaves the record as it is;
* `Decided` : what a committed decision makes of the record;
* `PlansOwned` : every plan that is kept belongs to a processed action.
-/

namespace RouteGuard.Pod
open JsString Guarded Lifecycle Store Auth Hcs.V2

/-! ## The service -/

structure PodService where
  p : Platform
  lifecycleCarriers : Option CarrierRegistry
  ethers : Escrow.Ethers
  sha256Hex : List UInt8 → JsString
  bindings : EscrowBindings
  deps : PodServiceDeps

/-- The record of a tender, the plans in memory, and the stored packages. -/
structure PodWorld where
  record : LifecycleRecord
  plans : EscrowPlans
  packages : Packages

/-- `secrets` are drawn at random. -/
inductive PodServiceCall where
  | review (input : ShipperReviewInput)
  | submit (input : SubmitPodInput) (secrets : RecordSecrets)

inductive PodServiceResult where
  | reviewed (result : ShipperReviewResult)
  | submitted (result : PodSubmitResult)

namespace PodService
variable (s : PodService)

def review (input : ShipperReviewInput) : Reviewed → Except ReviewError ShipperReviewResult × Reviewed :=
  shipperReview s.p s.lifecycleCarriers s.ethers s.sha256Hex s.bindings input

def submit (input : SubmitPodInput) (secrets : RecordSecrets) :
    Submitted → Except ReviewError PodSubmitResult × Submitted :=
  submitPod s.p s.lifecycleCarriers s.ethers s.sha256Hex s.deps secrets input

def serve : PodServiceCall → PodWorld → Except ReviewError PodServiceResult × PodWorld
  | .review input, w =>
    let (result, after) := s.review input ⟨w.record, w.plans⟩
    (result.map .reviewed, { w with record := after.record, plans := after.plans })
  | .submit input secrets, w =>
    let (result, after) := s.submit input secrets ⟨w.record, w.packages⟩
    (result.map .submitted, { w with record := after.record, packages := after.packages })

end PodService

/-! ## Runs -/

inductive PodLabel where
  | event (event : LifecycleEvent)
  | stored (packages : Packages)
  | restarted
  | call (call : PodServiceCall)

/-- An event of another caller, packages that other calls store, a restart of the process, or a call. -/
inductive PodStep (s : PodService) (w : PodWorld) : PodLabel → PodWorld → Prop
  | event {event : LifecycleEvent} {next : LifecycleRecord} (h : Applies s.p s.lifecycleCarriers w.record event next) :
      PodStep s w (.event event) { w with record := next }
  | stored (packages : Packages) : PodStep s w (.stored packages) { w with packages := packages }
  | restarted : PodStep s w .restarted { w with plans := .empty }
  | call (call : PodServiceCall) : PodStep s w (.call call) (s.serve call w).2

/-- One tender from its creation. Calls of the tender do not overlap. -/
def podSystem (s : PodService) : System PodWorld PodLabel where
  init w := (applySystem s.p s.lifecycleCarriers).init w.record ∧ w.plans = .empty
  step := PodStep s

/-! ## What a call commits -/

section Commits
variable {p : Platform} {carriers : Option CarrierRegistry} {r next : LifecycleRecord} {event : LifecycleEvent}

/-- A replay makes nothing new of the record. -/
theorem preparedEvent_of_replayed {records : Records} {t : JsString}
    (h : (apply p carriers (inMemoryLifecycleStore p) (inMemoryLifecycleStore p) t event records).1 =
      .ok ⟨next, .replayed⟩) :
    ∃ current, records t = some current ∧ preparedEvent p carriers current event = .ok none := by
  unfold apply at h
  split at h
  · cases h
  · cases h
  · next current hget =>
    refine ⟨current, memory_get hget, ?_⟩
    cases hprepared : preparedEvent p carriers current event with
    | error e =>
      rw [hprepared] at h
      cases h
    | ok prepared =>
      cases prepared with
      | none => rfl
      | some fresh =>
        rw [hprepared] at h
        obtain ⟨persisted, -, hanswer⟩ := map_eq_ok.mp h
        cases hanswer

/-- An event is applied to the record, or replayed. -/
theorem applyRecord_eq_ok {outcome : ApplyOutcome} (h : applyRecord p carriers r event = .ok ⟨next, outcome⟩) :
    outcome = .applied ∧ Applies p carriers r event next ∨
      outcome = .replayed ∧ preparedEvent p carriers r event = .ok none := by
  let records : Records := fun t => if t = r.tenderId then some r else none
  have hrecord : records r.tenderId = some r := if_pos rfl
  cases outcome with
  | applied =>
    let store := inMemoryLifecycleStore p
    have heffect : ApplyEffect p carriers r.tenderId event records
        (apply p carriers store store r.tenderId event records).2
        (apply p carriers store store r.tenderId event records).1 :=
      apply_effect (a := memoryAdapter p) (fun _ hget => memory_get hget) fun v next => memory_compareAndSet v next
    cases heffect with
    | kept _ hresult => exact absurd h (hresult next)
    | applied hcurrent happlies _ hresult =>
      cases hrecord.symm.trans hcurrent
      cases hresult _ h
      exact .inl ⟨rfl, happlies⟩
  | replayed =>
    obtain ⟨current, hcurrent, hprepared⟩ := preparedEvent_of_replayed h
    cases hrecord.symm.trans hcurrent
    exact .inr ⟨rfl, hprepared⟩

theorem not_isProcessed {actionId : JsString} :
    isProcessed r actionId = false ↔ r.processedActions.read actionId = .undefined := by
  simp [isProcessed]

theorem applies_of_applyRecord {outcome : ApplyOutcome} (hfresh : isProcessed r event.actionId = false)
    (h : applyRecord p carriers r event = .ok ⟨next, outcome⟩) :
    outcome = .applied ∧ Applies p carriers r event next := by
  rcases applyRecord_eq_ok h with happlied | ⟨-, hreplayed⟩
  · exact happlied
  · obtain ⟨prior, hread, -⟩ := preparedEvent_eq_none.mp hreplayed
    cases hread.symm.trans (not_isProcessed.mp hfresh)

/-- An applied event leaves its action processed, and every action that was. -/
theorem not_isProcessed_of_applies {actionId : JsString} (h : Applies p carriers r event next)
    (hnot : isProcessed next actionId = false) : isProcessed r actionId = false ∧ actionId ≠ event.actionId := by
  obtain ⟨_, -, hreduce⟩ := h.reduces
  obtain ⟨-, _, hprogress⟩ := reduceLifecycle_progress hreduce
  have hindex : ∃ action, next.processedActions = r.processedActions.insert event.actionId action :=
    ⟨_, congrArg Progress.processedActions hprogress⟩
  obtain ⟨action, hindex⟩ := hindex
  rw [not_isProcessed, PlainObject.read_eq_undefined, hindex] at hnot
  have hne : actionId ≠ event.actionId := by
    rintro rfl
    cases (AList.lookup_insert _).symm.trans hnot.1
  refine ⟨not_isProcessed.mpr (PlainObject.read_eq_undefined.mpr ⟨?_, hnot.2⟩), hne⟩
  exact (AList.lookup_insert_ne hne).symm.trans hnot.1

end Commits

/-! ## The cases of a call -/

section Cases
variable (s : PodService)

/-- A review that commits the decision. -/
structure ReviewCommits (r : LifecycleRecord) (input : ShipperReviewInput) (reviewDeadlineAt : JsString)
    (next : LifecycleRecord) : Prop where
  found : recordOf r input.tenderId input.tenderVersion = .ok ()
  fresh : isProcessed r input.actionId = false
  checked : checkReview s.p r input = .ok reviewDeadlineAt
  applied : applyRecord s.p s.lifecycleCarriers r (reviewEvent input reviewDeadlineAt) = .ok ⟨next, .applied⟩

/-- A submission that stores the package and commits. -/
structure SubmitCommits (w : Submitted) (input : SubmitPodInput) (secrets : RecordSecrets) (checked : CheckedPackage)
    (stored : StoredPodRecord) (packages : Packages) (next : LifecycleRecord) : Prop where
  found : recordOf w.record input.tenderId input.tenderVersion = .ok ()
  checks : checkSubmission s.p s.ethers s.sha256Hex s.deps w.record input = .ok checked
  fresh : isProcessed w.record input.package.actionId = false
  encrypted : encryptSubmission s.p s.sha256Hex s.deps input.package checked secrets = .ok stored
  absent : s.deps.podStore.get w.packages input.package.toPodPackageFields.key = .ok none
  kept : s.deps.podStore.put w.packages stored = (.ok (), packages)
  applied : applyRecord s.p s.lifecycleCarriers w.record
    (submissionEvent input.package.toPodPackageFields checked.packageContentHash stored.envelope.ciphertextHash) =
      .ok ⟨next, .applied⟩

variable {s} {r next : LifecycleRecord} {input : ShipperReviewInput} {reviewDeadlineAt : JsString}

theorem ReviewCommits.applies (h : ReviewCommits s r input reviewDeadlineAt next) :
    Applies s.p s.lifecycleCarriers r (reviewEvent input reviewDeadlineAt) next :=
  (applies_of_applyRecord h.fresh h.applied).2

/-- How a committed decision is answered. -/
theorem review_of_commits {w : Reviewed} (h : ReviewCommits s w.record input reviewDeadlineAt next) :
    s.review input w =
      ((answerReview s.p s.ethers s.sha256Hex s.bindings w.record next input reviewDeadlineAt .applied w.plans).1,
       ⟨next, (answerReview s.p s.ethers s.sha256Hex s.bindings w.record next input reviewDeadlineAt .applied
        w.plans).2⟩) := by
  simp only [PodService.review, shipperReview, h.found, h.fresh, h.checked, h.applied, Bool.false_eq_true, if_false]

/-- How a request is answered whose action is processed. -/
theorem review_of_processed {w : Reviewed} (hfound : recordOf w.record input.tenderId input.tenderVersion = .ok ())
    (h : isProcessed w.record input.actionId = true) :
    s.review input w =
      ((replayReview s.p s.ethers s.sha256Hex s.bindings w.record input w.plans).1,
       ⟨w.record, (replayReview s.p s.ethers s.sha256Hex s.bindings w.record input w.plans).2⟩) := by
  simp only [PodService.review, shipperReview, hfound, h, if_true]

/-- **What a review does.** It is refused, repeats an answer, or commits the decision. -/
theorem review_cases (input : ShipperReviewInput) (w : Reviewed) :
    (∃ e, s.review input w = (.error e, w)) ∨
    (recordOf w.record input.tenderId input.tenderVersion = .ok () ∧ isProcessed w.record input.actionId = true) ∨
    ∃ reviewDeadlineAt next, ReviewCommits s w.record input reviewDeadlineAt next := by
  cases hfound : recordOf w.record input.tenderId input.tenderVersion with
  | error e => exact .inl ⟨e, by simp only [PodService.review, shipperReview, hfound]⟩
  | ok =>
    cases hprocessed : isProcessed w.record input.actionId with
    | true => exact .inr (.inl ⟨rfl, rfl⟩)
    | false =>
      cases hchecked : checkReview s.p w.record input with
      | error e =>
        refine .inl ⟨e, ?_⟩
        simp only [PodService.review, shipperReview, hfound, hprocessed, hchecked, Bool.false_eq_true, if_false]
      | ok reviewDeadlineAt =>
        cases happly : applyRecord s.p s.lifecycleCarriers w.record (reviewEvent input reviewDeadlineAt) with
        | error e =>
          refine .inl ⟨reviewApplyError e, ?_⟩
          simp only [PodService.review, shipperReview, hfound, hprocessed, hchecked, happly, Bool.false_eq_true, if_false]
        | ok applied =>
          obtain ⟨next, outcome⟩ := applied
          obtain ⟨rfl, -⟩ := applies_of_applyRecord hprocessed happly
          exact .inr (.inr ⟨reviewDeadlineAt, next, hfound, hprocessed, hchecked, happly⟩)

/-- How a committed submission is answered. -/
theorem submit_of_commits {w : Submitted} {input : SubmitPodInput} {secrets : RecordSecrets} {checked : CheckedPackage}
    {stored : StoredPodRecord} {packages : Packages}
    (h : SubmitCommits s w input secrets checked stored packages next) :
    s.submit input secrets w =
      (submitted s.p next input.package.toPodPackageFields checked.manifestHash checked.packageContentHash
        stored.envelope.ciphertextHash input.package.submittedAt checked.manifest.totalBytes .applied,
       ⟨next, packages⟩) := by
  simp only [PodService.submit, submitPod, commitSubmission, h.found, h.checks, h.fresh, h.encrypted, h.absent, h.kept,
    h.applied, Bool.false_eq_true, if_false]

/-- **What a submission does.** It leaves the record as it is, or commits. -/
theorem submit_cases (input : SubmitPodInput) (secrets : RecordSecrets) (w : Submitted) :
    (s.submit input secrets w).2.record = w.record ∨
    ∃ checked stored packages next, SubmitCommits s w input secrets checked stored packages next := by
  cases hfound : recordOf w.record input.tenderId input.tenderVersion with
  | error e => exact .inl (by simp only [PodService.submit, submitPod, hfound])
  | ok =>
    cases hchecked : checkSubmission s.p s.ethers s.sha256Hex s.deps w.record input with
    | error e => exact .inl (by simp only [PodService.submit, submitPod, hfound, hchecked])
    | ok checked =>
      cases hfresh : isProcessed w.record input.package.actionId with
      | true => exact .inl (by simp only [PodService.submit, submitPod, hfound, hchecked, hfresh, if_true])
      | false =>
        have hsubmit : s.submit input secrets w = submitPod s.p s.lifecycleCarriers s.ethers s.sha256Hex s.deps secrets
          input w := rfl
        simp only [submitPod, hfound, hchecked, hfresh, Bool.false_eq_true, if_false] at hsubmit
        rw [hsubmit]
        split
        · exact .inl rfl
        · next stored hencrypted =>
          split
          · exact .inl rfl
          · exact .inl rfl
          · next habsent =>
            cases hkept : s.deps.podStore.put w.packages stored with
            | mk kept packages =>
              cases kept with
              | error e => exact .inl (by simp only [commitSubmission, hkept])
              | ok =>
                cases happly : applyRecord s.p s.lifecycleCarriers w.record (submissionEvent
                    input.package.toPodPackageFields checked.packageContentHash stored.envelope.ciphertextHash) with
                | error e => exact .inl (by simp only [commitSubmission, hkept, happly])
                | ok applied =>
                  obtain ⟨next, outcome⟩ := applied
                  obtain ⟨rfl, -⟩ := applies_of_applyRecord hfresh happly
                  exact .inr ⟨checked, stored, packages, next, hfound, hchecked, hfresh, hencrypted, habsent, hkept, happly⟩

end Cases

/-! ## What a decision makes of the record -/

theorem present_eq_some {v : Option JsString} {s : JsString} : present v = some s ↔ v = some s ∧ s ≠ [] := by
  constructor
  · intro h
    unfold present at h
    split at h
    · cases h
      exact ⟨rfl, List.cons_ne_nil _ _⟩
    · cases h
  · rintro ⟨rfl, hs⟩
    exact present_some hs

/-- What the checks of a review have found. -/
structure UnderReview (r : LifecycleRecord) (input : ShipperReviewInput) (reviewDeadlineAt : JsString) : Prop where
  state : r.state = .podUnderReview
  deadline : r.reviewDeadlineAt = some reviewDeadlineAt ∧ reviewDeadlineAt ≠ []
  pod : r.podId = some input.podId ∧ input.podId ≠ []

theorem underReview_of_checked {p : Platform} {r : LifecycleRecord} {input : ShipperReviewInput}
    {reviewDeadlineAt : JsString} (h : checkReview p r input = .ok reviewDeadlineAt) :
    UnderReview r input reviewDeadlineAt := by
  simp only [checkReview, check_eq_ok, require_eq_ok] at h
  obtain ⟨hstate, h⟩ := h
  split at h
  · next deadline podId hdeadline hpod =>
    simp only [require_eq_ok, bind_eq_ok, pure_eq_ok] at h
    obtain ⟨-, rfl, -, -, -, -, -, -, -, -, rfl⟩ := h
    exact ⟨hstate, present_eq_some.mp hdeadline, present_eq_some.mp hpod⟩
  · cases h

/-- The state a decision leads to. -/
def decidedState : ShipperReviewActionKind → V2LifecycleState
  | .accept => .podAccepted
  | .requestCorrection => .podCorrectionRequested
  | .rejectDispute => .podDisputed

/-- What a plan or a message is made of, apart from the time. -/
structure SamePod (r r' : LifecycleRecord) : Prop where
  binding : r'.toTenderBinding = r.toTenderBinding
  podId : r'.podId = r.podId
  podVersion : r'.podVersion = r.podVersion
  podContentHash : r'.podContentHash = r.podContentHash
  reviewDeadlineAt : r'.reviewDeadlineAt = r.reviewDeadlineAt
  lockedAmountAtomic : r'.lockedAmountAtomic = r.lockedAmountAtomic

theorem SamePod.trans {r r' r'' : LifecycleRecord} (h : SamePod r r') (h' : SamePod r' r'') : SamePod r r'' :=
  ⟨h'.binding.trans h.binding, h'.podId.trans h.podId, h'.podVersion.trans h.podVersion,
   h'.podContentHash.trans h.podContentHash, h'.reviewDeadlineAt.trans h.reviewDeadlineAt,
   h'.lockedAmountAtomic.trans h.lockedAmountAtomic⟩

/-- The record after a decision. -/
structure Decided (r : LifecycleRecord) (input : ShipperReviewInput) (next : LifecycleRecord) : Prop where
  same : SamePod r next
  state : next.state = decidedState input.action
  updatedAt : next.updatedAt = input.signedAt
  disputeId : input.action = .rejectDispute → next.disputeId = some (disputeIdOf input)

theorem decided_of_applies {p : Platform} {carriers : Option CarrierRegistry} {r next : LifecycleRecord}
    {input : ShipperReviewInput} {reviewDeadlineAt : JsString}
    (h : Applies p carriers r (reviewEvent input reviewDeadlineAt) next) : Decided r input next := by
  obtain ⟨_, -, hreduce⟩ := h.reduces
  obtain ⟨-, -, hreduces⟩ := reduceLifecycle_ok hreduce
  have hbody : (reviewEvent input reviewDeadlineAt).body = reviewBody input reviewDeadlineAt := rfl
  rw [hbody] at hreduces
  cases haction : input.action with
  | accept =>
    simp only [reviewBody, haction] at hreduces
    cases hreduces
    exact ⟨⟨rfl, rfl, rfl, rfl, rfl, rfl⟩, by rw [haction]; rfl, rfl,
      fun h => absurd (haction.symm.trans h) (by decide)⟩
  | requestCorrection =>
    simp only [reviewBody, haction] at hreduces
    cases hreduces
    exact ⟨⟨rfl, rfl, rfl, rfl, rfl, rfl⟩, by rw [haction]; rfl, rfl,
      fun h => absurd (haction.symm.trans h) (by decide)⟩
  | rejectDispute =>
    simp only [reviewBody, haction] at hreduces
    cases hreduces
    exact ⟨⟨rfl, rfl, rfl, rfl, rfl, rfl⟩, by rw [haction]; rfl, rfl, fun _ => rfl⟩

/-! ## The plans of a review -/

section Plans
variable {s : PodService} {w : Reviewed} {input : ShipperReviewInput} {key : JsString}

theorem keepPlan_of_ne {kept kept' : JsString → Option BoundEscrowPlan} {key' : JsString} {plan : BoundEscrowPlan}
    {built : Except BoundPlanError BoundEscrowPlan} (h : keepPlan kept key' built = .ok (plan, kept')) (hne : key ≠ key') :
    kept' key = kept key := by
  unfold keepPlan at h
  split at h
  · cases h
    rfl
  · obtain ⟨_, -, heq⟩ := map_eq_ok.mp h
    cases heq
    exact Function.update_of_ne hne _ _

/-- Two plans maps agree at a key. -/
def AgreeAt (key : JsString) (plans plans' : EscrowPlans) : Prop :=
  plans'.release key = plans.release key ∧ plans'.dispute key = plans.dispute key

theorem decidedPlan_agree {r next : LifecycleRecord} {tenderKey : JsString} {plans plans' : EscrowPlans}
    {plan : Option BoundEscrowPlan}
    (h : decidedPlan s.p s.ethers s.sha256Hex s.bindings r next input tenderKey plans = .ok (plan, plans'))
    (hne : key ≠ planKey input.tenderId input.actionId) : AgreeAt key plans plans' := by
  unfold decidedPlan at h
  cases haction : input.action with
  | accept =>
    rw [haction] at h
    obtain ⟨⟨_, release⟩, hkept, heq⟩ := map_eq_ok.mp h
    cases heq
    exact ⟨keepPlan_of_ne hkept hne, rfl⟩
  | requestCorrection =>
    rw [haction] at h
    cases h
    exact ⟨rfl, rfl⟩
  | rejectDispute =>
    rw [haction] at h
    obtain ⟨⟨_, dispute⟩, hkept, heq⟩ := map_eq_ok.mp h
    cases heq
    exact ⟨rfl, keepPlan_of_ne hkept hne⟩

theorem answerReview_agree {r next : LifecycleRecord} {reviewDeadlineAt : JsString} {outcome : ApplyOutcome}
    {plans : EscrowPlans} (hne : key ≠ planKey input.tenderId input.actionId) :
    AgreeAt key plans
      (answerReview s.p s.ethers s.sha256Hex s.bindings r next input reviewDeadlineAt outcome plans).2 := by
  unfold answerReview
  split
  · exact ⟨rfl, rfl⟩
  · split
    · exact ⟨rfl, rfl⟩
    · next hdecided => exact decidedPlan_agree hdecided hne

/-- A replay keeps at most one new plan, the one of a release under its own key. -/
theorem replayReview_agree {r : LifecycleRecord} {plans : EscrowPlans} :
    (replayReview s.p s.ethers s.sha256Hex s.bindings r input plans).2.dispute = plans.dispute ∧
      (key ≠ planKey input.tenderId input.actionId →
        (replayReview s.p s.ethers s.sha256Hex s.bindings r input plans).2.release key = plans.release key) := by
  unfold replayReview
  split
  · exact ⟨rfl, fun _ => rfl⟩
  · next hreplayed =>
    simp only [replayedPlan] at hreplayed
    split at hreplayed
    · cases hreplayed
      exact ⟨rfl, fun _ => rfl⟩
    · cases hreplayed
      exact ⟨rfl, fun _ => rfl⟩
    · split at hreplayed
      · simp only [bind_eq_ok, pure_eq_ok] at hreplayed
        obtain ⟨_, -, _, -, heq⟩ := hreplayed
        cases heq
        exact ⟨rfl, fun hne => Function.update_of_ne hne _ _⟩
      · cases hreplayed
        exact ⟨rfl, fun _ => rfl⟩

/-- A review touches the plans of its own action only. -/
theorem review_agree (hne : key ≠ planKey input.tenderId input.actionId) :
    AgreeAt key w.plans (s.review input w).2.plans := by
  rcases review_cases input w with ⟨e, h⟩ | ⟨hfound, hprocessed⟩ | ⟨reviewDeadlineAt, next, hcommits⟩
  · rw [h]
    exact ⟨rfl, rfl⟩
  · rw [review_of_processed hfound hprocessed]
    obtain ⟨hdispute, hrelease⟩ := @replayReview_agree s input key w.record w.plans
    exact ⟨hrelease hne, congrFun hdispute key⟩
  · rw [review_of_commits hcommits]
    exact answerReview_agree hne

end Plans

/-! ## What holds in every run -/

/-- A plan is kept only under a processed action. -/
def PlansOwned (w : PodWorld) : Prop :=
  ∀ actionId, isProcessed w.record actionId = false →
    w.plans.release (planKey w.record.tenderId actionId) = none ∧
      w.plans.dispute (planKey w.record.tenderId actionId) = none

section Runs
variable {s : PodService} {w w' : PodWorld}

theorem recordOf_eq_ok {r : LifecycleRecord} {tenderId : JsString} {tenderVersion : Int} :
    recordOf r tenderId tenderVersion = .ok () ↔ r.tenderId = tenderId ∧ r.tenderVersion = tenderVersion := by
  simp only [recordOf, check_eq_ok, require_eq_ok]

theorem tenderId_of_applies {p : Platform} {carriers : Option CarrierRegistry} {r next : LifecycleRecord}
    {event : LifecycleEvent} (h : Applies p carriers r event next) : next.tenderId = r.tenderId := by
  obtain ⟨_, -, hreduce⟩ := h.reduces
  exact congrArg TenderBinding.tenderId (reduceLifecycle_progress hreduce).1

/-- A call leaves the record as it is, or applies one event to it. -/
theorem serve_record (call : PodServiceCall) (w : PodWorld) :
    (s.serve call w).2.record = w.record ∨
      ∃ event, Applies s.p s.lifecycleCarriers w.record event (s.serve call w).2.record := by
  cases call with
  | review input =>
    show (s.review input ⟨w.record, w.plans⟩).2.record = _ ∨ ∃ event, Applies _ _ _ event
      (s.review input ⟨w.record, w.plans⟩).2.record
    rcases review_cases input ⟨w.record, w.plans⟩ with ⟨e, h⟩ | ⟨hfound, hprocessed⟩ | ⟨reviewDeadlineAt, next, hcommits⟩
    · exact .inl (by rw [h])
    · exact .inl (by rw [review_of_processed hfound hprocessed])
    · refine .inr ⟨reviewEvent input reviewDeadlineAt, ?_⟩
      rw [review_of_commits hcommits]
      exact hcommits.applies
  | submit input secrets =>
    show (s.submit input secrets ⟨w.record, w.packages⟩).2.record = _ ∨ ∃ event, Applies _ _ _ event
      (s.submit input secrets ⟨w.record, w.packages⟩).2.record
    rcases submit_cases input secrets ⟨w.record, w.packages⟩ with h | ⟨checked, stored, packages, next, hcommits⟩
    · exact .inl h
    · refine .inr ⟨submissionEvent input.package.toPodPackageFields checked.packageContentHash
        stored.envelope.ciphertextHash, ?_⟩
      rw [submit_of_commits hcommits]
      exact (applies_of_applyRecord hcommits.fresh hcommits.applied).2

/-- What a step does to the record. -/
theorem podStep_record {l : PodLabel} (h : PodStep s w l w') :
    w'.record = w.record ∨ ∃ event, Applies s.p s.lifecycleCarriers w.record event w'.record := by
  cases h with
  | event h => exact .inr ⟨_, h⟩
  | stored => exact .inl rfl
  | restarted => exact .inl rfl
  | call call => exact serve_record call w

/-- The record of a run is one that events lead to. -/
theorem record_of_run {ls : List PodLabel} (hrun : (podSystem s).Run ls w) :
    ∃ es, (applySystem s.p s.lifecycleCarriers).Run es w.record := by
  refine System.Run.induction (S := podSystem s)
    (I := fun _ w => ∃ es, (applySystem s.p s.lifecycleCarriers).Run es w.record) ?_ ?_ hrun
  · rintro w ⟨hinit, -⟩
    exact ⟨[], .start hinit⟩
  · rintro _ w l w' _ ⟨es, hes⟩ hstep
    rcases podStep_record hstep with hsame | ⟨event, happlies⟩
    · exact ⟨es, hsame ▸ hes⟩
    · exact ⟨_, hes.snoc happlies⟩

theorem accepted_of_run {ls : List PodLabel} (hrun : (podSystem s).Run ls w) :
    Accepted s.p w.record.tenderId w.record := by
  obtain ⟨es, hes⟩ := record_of_run hrun
  exact applySystem_accepted hes

theorem plansOwned_of_applies {event : LifecycleEvent} (h : PlansOwned w)
    (happlies : Applies s.p s.lifecycleCarriers w.record event w'.record) (hplans : w'.plans = w.plans) :
    PlansOwned w' := by
  intro actionId hnot
  rw [hplans, tenderId_of_applies happlies]
  exact h actionId (not_isProcessed_of_applies happlies hnot).1

theorem plansOwned_of_review {input : ShipperReviewInput} (h : PlansOwned w) :
    PlansOwned (s.serve (.review input) w).2 := by
  intro actionId hnot
  have hrecord : (s.serve (.review input) w).2.record = (s.review input ⟨w.record, w.plans⟩).2.record := rfl
  have hplans : (s.serve (.review input) w).2.plans = (s.review input ⟨w.record, w.plans⟩).2.plans := rfl
  rw [hrecord] at hnot ⊢
  rw [hplans]
  rcases review_cases (s := s) input ⟨w.record, w.plans⟩ with
    ⟨e, hrefused⟩ | ⟨hfound, hprocessed⟩ | ⟨reviewDeadlineAt, next, hcommits⟩
  · rw [hrefused] at hnot ⊢
    exact h actionId hnot
  · rw [review_of_processed hfound hprocessed] at hnot
    have hrecord : (s.review input ⟨w.record, w.plans⟩).2.record = w.record := by
      rw [review_of_processed hfound hprocessed]
    have hne : planKey w.record.tenderId actionId ≠ planKey input.tenderId input.actionId := by
      rw [(recordOf_eq_ok.mp hfound).1]
      intro heq
      rw [List.append_cancel_left heq] at hnot
      cases hnot.symm.trans hprocessed
    obtain ⟨hrelease, hdispute⟩ := review_agree (s := s) (w := ⟨w.record, w.plans⟩) hne
    rw [hrecord, hrelease, hdispute]
    exact h actionId hnot
  · have hrecord : (s.review input ⟨w.record, w.plans⟩).2.record = next := by rw [review_of_commits hcommits]
    rw [hrecord] at hnot ⊢
    obtain ⟨hbefore, hother⟩ := not_isProcessed_of_applies hcommits.applies hnot
    have hne : planKey w.record.tenderId actionId ≠ planKey input.tenderId input.actionId := by
      rw [(recordOf_eq_ok.mp hcommits.found).1]
      exact fun heq => hother (List.append_cancel_left heq)
    obtain ⟨hrelease, hdispute⟩ := review_agree (s := s) (w := ⟨w.record, w.plans⟩) hne
    rw [tenderId_of_applies hcommits.applies, hrelease, hdispute]
    exact h actionId hbefore

/-- **Plans belong to processed actions.** -/
theorem plansOwned_of_run {ls : List PodLabel} (hrun : (podSystem s).Run ls w) : PlansOwned w := by
  refine System.Run.induction (S := podSystem s) (I := fun _ w => PlansOwned w) ?_ ?_ hrun
  · rintro w ⟨-, hplans⟩ actionId -
    rw [hplans]
    exact ⟨rfl, rfl⟩
  · rintro _ w l w' _ ih hstep
    cases hstep with
    | event happlies => exact plansOwned_of_applies ih happlies rfl
    | stored => exact ih
    | restarted => exact fun _ _ => ⟨rfl, rfl⟩
    | call call =>
      cases call with
      | review input => exact plansOwned_of_review ih
      | submit input secrets =>
        rcases serve_record (s := s) (.submit input secrets) w with hsame | ⟨event, happlies⟩
        · intro actionId hnot
          rw [hsame] at hnot ⊢
          exact ih actionId hnot
        · exact plansOwned_of_applies ih happlies rfl

end Runs

end RouteGuard.Pod
