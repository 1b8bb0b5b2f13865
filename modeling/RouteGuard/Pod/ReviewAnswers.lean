import RouteGuard.Escrow.Escrowable
import RouteGuard.Pod.ReviewRuns
import RouteGuard.Pod.StoredPackages
import RouteGuard.Store.Idempotency

/-!
# The answer to a committed review

The plan and the messages of a decision are built once it is committed, and each has checks of its own.

* `ReviewAdmissible` : what they ask of the tender, the POD and the request;
* `answerReview_iff` : a committed decision is answered exactly when this holds.
-/

namespace RouteGuard.Pod
open JsString Guarded Lifecycle Store Auth Hcs.V2 Escrow

/-- The live bindings hold where the service asks for them. -/
def PodService.Bound (s : PodService) (kind : BoundPlanKind) (r : LifecycleRecord) : Prop :=
  s.bindings.requirePhaseC2LiveBindings →
    LiveBindings s.p kind (s.bindings.escrowContractId.getD (js "0.0.0"))
      (s.bindings.escrowContractEvm.getD (js "0x0000000000000000000000000000000000000001"))
      (r.lockedAmountAtomic.getD (js "0"))

/-- What the plan and the messages of a decision ask for. -/
structure ReviewAdmissible (s : PodService) (r : LifecycleRecord) (input : ShipperReviewInput) : Prop where
  tenderKey : ∃ key, escrowTenderKey s.ethers r.tenderId r.tenderVersion = .ok key
  tenderId : isPublicId r.tenderId
  podId : isPublicId input.podId
  release : input.action = .accept →
    s.Bound .RELEASE_FULL r ∧ IsAuthorization (acceptanceHash s.sha256Hex r input.podId input.actionId)
  dispute : input.action = .rejectDispute → isPublicId (disputeIdOf input) ∧
    s.Bound .OPEN_DISPUTE r ∧ IsAuthorization (disputeHash s.sha256Hex r input.podId input.actionId (disputeIdOf input))

section Answer
variable {s : PodService} {r next : LifecycleRecord} {input : ShipperReviewInput} {reviewDeadlineAt tenderKey : JsString}
  {outcome : ApplyOutcome} {plans : EscrowPlans} {result : ShipperReviewResult}

theorem answerReview_eq_ok :
    (answerReview s.p s.ethers s.sha256Hex s.bindings r next input reviewDeadlineAt outcome plans).1 = .ok result ↔
      ∃ tenderKey, tenderKeyOf s.ethers r = .ok tenderKey ∧ ∃ decided,
        decidedPlan s.p s.ethers s.sha256Hex s.bindings r next input tenderKey plans = .ok decided ∧ ∃ outbox,
        reviewOutbox s.p next input reviewDeadlineAt = .ok outbox ∧
        ⟨next, input.action, decided.1, outbox, outcome⟩ = result ∧
        (answerReview s.p s.ethers s.sha256Hex s.bindings r next input reviewDeadlineAt outcome plans).2 = decided.2 := by
  unfold answerReview
  cases hkey : tenderKeyOf s.ethers r with
  | error e => simp only [reduceCtorEq, false_and, exists_false]
  | ok tenderKey =>
    simp only [Except.ok.injEq, exists_eq_left']
    cases decidedPlan s.p s.ethers s.sha256Hex s.bindings r next input tenderKey plans with
    | error e => simp only [reduceCtorEq, false_and, exists_false]
    | ok decided =>
      simp only [Except.ok.injEq, exists_eq_left', and_true]
      exact map_eq_ok

/-! ## The plan -/

theorem keepPlan_iff {kept : JsString → Option BoundEscrowPlan} {key : JsString}
    {built : Except BoundPlanError BoundEscrowPlan} (hfresh : kept key = none) :
    (∃ answer, keepPlan kept key built = .ok answer) ↔ ∃ plan, built = .ok plan := by
  rw [keepPlan, hfresh]
  constructor
  · rintro ⟨_, h⟩
    obtain ⟨plan, hplan, -⟩ := map_eq_ok.mp h
    exact ⟨plan, mapError_eq_ok.mp hplan⟩
  · rintro ⟨plan, rfl⟩
    exact ⟨_, rfl⟩

/-- The plan of a fresh decision is built exactly when its bindings and its digest are in order. -/
theorem decidedPlan_iff (hkey : escrowTenderKey s.ethers r.tenderId r.tenderVersion = .ok tenderKey)
    (hdecided : Decided r input next)
    (hfresh : plans.release (planKey input.tenderId input.actionId) = none ∧
      plans.dispute (planKey input.tenderId input.actionId) = none) :
    (∃ answer, decidedPlan s.p s.ethers s.sha256Hex s.bindings r next input tenderKey plans = .ok answer) ↔
      (input.action = .accept →
        s.Bound .RELEASE_FULL r ∧ IsAuthorization (acceptanceHash s.sha256Hex r input.podId input.actionId)) ∧
      (input.action = .rejectDispute → s.Bound .OPEN_DISPUTE r ∧
        IsAuthorization (disputeHash s.sha256Hex r input.podId input.actionId (disputeIdOf input))) := by
  have mapped {α β : Type} {x : Except ReviewError α} {f : α → β} :
      (∃ b, x.map f = .ok b) ↔ ∃ a, x = .ok a := by
    constructor
    · rintro ⟨_, h⟩
      obtain ⟨a, ha, -⟩ := map_eq_ok.mp h
      exact ⟨a, ha⟩
    · rintro ⟨a, rfl⟩
      exact ⟨_, rfl⟩
  cases haction : input.action with
  | accept =>
    simp only [decidedPlan, haction, mapped, keepPlan_iff hfresh.1, releasePlan, forall_const, reduceCtorEq, false_implies,
      and_true]
    exact buildBoundReleaseFullPlan_iff hkey
  | requestCorrection =>
    simp only [decidedPlan, haction, Except.ok.injEq, exists_eq', reduceCtorEq, false_implies, and_self]
  | rejectDispute =>
    simp only [decidedPlan, haction, mapped, keepPlan_iff hfresh.2, hdecided.disputeId haction, Option.getD_some,
      disputePlan, forall_const, reduceCtorEq, false_implies, true_and]
    exact buildBoundOpenDisputePlan_iff hkey

/-! ## The messages -/

theorem disputeReasonCode_mem (input : ShipperReviewInput) : disputeReasonCode input ∈ HCS_V2_DISPUTE_REASON_CODES := by
  unfold disputeReasonCode
  dsimp only
  split
  · assumption
  · decide

/-- The messages of a decision are built exactly from public identifiers. -/
theorem reviewOutbox_iff (hp : s.p.HexDigest) (hnext : Accepted s.p next.tenderId next)
    (hpod : next.podId = some input.podId) (hdeadline : isUtcIsoTimestamp reviewDeadlineAt)
    (hdispute : input.action = .rejectDispute → next.disputeId = some (disputeIdOf input)) :
    (∃ outbox, reviewOutbox s.p next input reviewDeadlineAt = .ok outbox) ↔
      isPublicId next.tenderId ∧ isPublicId input.podId ∧
        (input.action = .rejectDispute → isPublicId (disputeIdOf input)) := by
  have hreview {action : ShipperReviewActionKind} :
      (∃ item, reviewItem s.p next action reviewDeadlineAt = .ok item) ↔
        isPublicId next.tenderId ∧ isPublicId input.podId := by
    have hbuilt : (∃ envelope, buildPodReviewActionEnvelope s.p next action reviewDeadlineAt = .ok envelope) ↔
        isPublicId next.tenderId ∧ isPublicId input.podId := buildPodReviewAction_iff hp hnext hpod hdeadline
    rw [← hbuilt]
    constructor
    · rintro ⟨_, h⟩
      obtain ⟨envelope, henvelope, -⟩ := map_eq_ok.mp h
      exact ⟨envelope, mapError_eq_ok.mp henvelope⟩
    · rintro ⟨envelope, henvelope⟩
      exact ⟨_, map_eq_ok.mpr ⟨envelope, mapError_eq_ok.mpr henvelope, rfl⟩⟩
  have hopened (haction : input.action = .rejectDispute) : (∃ item, disputeItem s.p next input = .ok item) ↔
      isPublicId next.tenderId ∧ isPublicId (disputeIdOf input) ∧ isPublicId input.podId := by
    rw [← buildDisputeOpened_iff hp hnext hpod (disputeReasonCode_mem input), disputeItem, hdispute haction,
      Option.getD_some]
    constructor
    · rintro ⟨_, h⟩
      obtain ⟨envelope, henvelope, -⟩ := map_eq_ok.mp h
      exact ⟨envelope, mapError_eq_ok.mp henvelope⟩
    · rintro ⟨envelope, henvelope⟩
      exact ⟨_, map_eq_ok.mpr ⟨envelope, mapError_eq_ok.mpr henvelope, rfl⟩⟩
  cases haction : input.action with
  | accept =>
    simp only [reviewOutbox, haction, bind_eq_ok, pure_eq_ok, exists_comm (α := List PodOutboxItem), exists_and_left,
      exists_eq', and_true, hreview, reduceCtorEq, false_implies]
  | requestCorrection =>
    simp only [reviewOutbox, haction, bind_eq_ok, pure_eq_ok, exists_comm (α := List PodOutboxItem), exists_and_left,
      exists_eq', and_true, hreview, reduceCtorEq, false_implies]
  | rejectDispute =>
    simp only [reviewOutbox, haction, bind_eq_ok, pure_eq_ok, forall_const]
    constructor
    · rintro ⟨_, opened, hopen, reviewed, hitem, -⟩
      obtain ⟨htender, hid, hpodId⟩ := (hopened haction).mp ⟨opened, hopen⟩
      exact ⟨htender, hpodId, hid⟩
    · rintro ⟨htender, hpodId, hid⟩
      obtain ⟨opened, hopen⟩ := (hopened haction).mpr ⟨htender, hid, hpodId⟩
      obtain ⟨reviewed, hitem⟩ := hreview.mpr ⟨htender, hpodId⟩
      exact ⟨_, opened, hopen, reviewed, hitem, rfl⟩

/-! ## The answer -/

/-- **When a committed decision is answered.** -/
theorem answerReview_iff (hp : s.p.HexDigest) (hr : Accepted s.p r.tenderId r)
    (hcommits : ReviewCommits s r input reviewDeadlineAt next)
    (hfresh : plans.release (planKey input.tenderId input.actionId) = none ∧
      plans.dispute (planKey input.tenderId input.actionId) = none) :
    (∃ result, (answerReview s.p s.ethers s.sha256Hex s.bindings r next input reviewDeadlineAt outcome plans).1 =
      .ok result) ↔ ReviewAdmissible s r input := by
  have hunder := underReview_of_checked hcommits.checked
  have hdecided := decided_of_applies hcommits.applies
  have htender : next.tenderId = r.tenderId := tenderId_of_applies hcommits.applies
  have hdeadline : isUtcIsoTimestamp reviewDeadlineAt := hr.pod.reviewDeadlineAt _ hunder.deadline.1
  have houtbox := reviewOutbox_iff hp hcommits.applies.accepted (hdecided.same.podId.trans hunder.pod.1) hdeadline
    hdecided.disputeId
  rw [htender] at houtbox
  have hkeys {key : JsString} : tenderKeyOf s.ethers r = .ok key ↔
      escrowTenderKey s.ethers r.tenderId r.tenderVersion = .ok key := mapError_eq_ok
  simp only [answerReview_eq_ok]
  constructor
  · rintro ⟨_, tenderKey, hkey, decided, hplan, outbox, hbuilt, -⟩
    obtain ⟨hrelease, hdispute⟩ := (decidedPlan_iff (hkeys.mp hkey) hdecided hfresh).mp ⟨decided, hplan⟩
    obtain ⟨htenderId, hpodId, hid⟩ := houtbox.mp ⟨outbox, hbuilt⟩
    exact ⟨⟨tenderKey, hkeys.mp hkey⟩, htenderId, hpodId, hrelease, fun haction => ⟨hid haction, hdispute haction⟩⟩
  · rintro ⟨⟨tenderKey, hkey⟩, htenderId, hpodId, hrelease, hdispute⟩
    obtain ⟨decided, hplan⟩ := (decidedPlan_iff hkey hdecided hfresh).mpr ⟨hrelease, fun haction => (hdispute haction).2⟩
    obtain ⟨outbox, hbuilt⟩ := houtbox.mpr ⟨htenderId, hpodId, fun haction => (hdispute haction).1⟩
    obtain ⟨result, hresult⟩ : ∃ result,
        (answerReview s.p s.ethers s.sha256Hex s.bindings r next input reviewDeadlineAt outcome plans).1 = .ok result := by
      refine ⟨⟨next, input.action, decided.1, outbox, outcome⟩, ?_⟩
      simp only [answerReview, hkeys.mpr hkey, hplan, hbuilt]
      rfl
    exact ⟨result, answerReview_eq_ok.mp hresult⟩

end Answer

/-! ## A tender under review -/

/-- The receipt of the activation stays. -/
theorem accessReceipt_of_applies {p : Platform} {carriers : Option CarrierRegistry} {r next : LifecycleRecord}
    {event : LifecycleEvent} (hr : Accepted p r.tenderId r) (h : Applies p carriers r event next) :
    ∀ receipt ∈ r.accessReceipt, next.accessReceipt = some receipt := by
  obtain ⟨_, -, hreduce⟩ := h.reduces
  obtain ⟨-, -, hreduces⟩ := reduceLifecycle_ok hreduce
  intro receipt hreceipt
  generalize event.body = b at hreduces
  cases hreduces with
  | tenderActivationPaid hstate =>
    have hnone := (hr.activated.unactivated (by rw [hstate]; decide)).2.1
    cases hnone.symm.trans hreceipt
  | _ => exact hreceipt

/-- An event that applies to the record is applied by the service. -/
theorem applyRecord_of_applies {p : Platform} {carriers : Option CarrierRegistry} {r next : LifecycleRecord}
    {event : LifecycleEvent} (hr : Accepted p r.tenderId r) (h : Applies p carriers r event next) :
    applyRecord p carriers r event = .ok ⟨next, .applied⟩ := by
  obtain ⟨_, -, hreduce⟩ := h.reduces
  have hbinding := (reduceLifecycle_progress hreduce).1
  have hid : next.tenderId = r.tenderId := congrArg TenderBinding.tenderId hbinding
  let records : Records := fun t => if t = r.tenderId then some r else none
  have hrecord : records r.tenderId = some r := if_pos rfl
  have hget : InMemoryLifecycleStore.get p r.tenderId records = .ok (some r) := by
    rw [InMemoryLifecycleStore.get, hrecord]
    exact map_eq_ok.mpr ⟨r, assertValidLifecycleRecord_eq_ok.mpr ⟨hr, rfl⟩, rfl⟩
  have hpre : assertCasPreconditions p r.tenderId r r.recordVersion next = .ok () := by
    refine assertCasPreconditions_eq_ok.mpr ⟨hr.progress.version, rfl, hid.symm,
      (congrArg TenderBinding.tenderVersion hbinding).symm, (congrArg TenderBinding.tenderHash hbinding).symm,
      (congrArg TenderBinding.maximumFreightBudgetAtomic hbinding).symm, ?_, ?_, actionsKept_of_prepared h.prepared⟩
    · rw [show next.trust = r.trust from congrArg TenderBinding.trust hbinding]
    · intro receipt hreceipt
      rw [accessReceipt_of_applies hr h receipt hreceipt]
      rfl
  have hprepared : preparedRecord p r.tenderId (some r) r.recordVersion next = .ok next := by
    rw [preparedRecord, hpre, withStoreVersion_of_applies h.prepared]
    exact assertValidLifecycleRecord_eq_ok.mpr ⟨hid ▸ h.accepted, rfl⟩
  have hcas : (InMemoryLifecycleStore.compareAndSet p r.tenderId r.recordVersion next records).1 = .ok next := by
    have hsafe : assertSafeTenderId r.tenderId = .ok () := assertSafeTenderId_eq_ok.mpr hr.safeId
    rw [InMemoryLifecycleStore.compareAndSet, hrecord, hprepared, hsafe]
    rfl
  show (apply p carriers (inMemoryLifecycleStore p) (inMemoryLifecycleStore p) r.tenderId event records).1 = _
  have hread : (inMemoryLifecycleStore p).get r.tenderId records = .ok (some r) := hget
  have hwrite : ((inMemoryLifecycleStore p).compareAndSet r.tenderId r.recordVersion next records).1 = .ok next := hcas
  simp only [apply, hread, h.prepared, commitPrepared, hwrite]
  rfl

/-- Events are a run of the service, which keeps no plan yet; a condition on its calls does not concern them. -/
theorem podRun_of_events {s : PodService} {C : PodWorld → PodLabel → Prop} (hC : ∀ w event, C w (.event event))
    {es : List LifecycleEvent} {r : LifecycleRecord} (h : (applySystem s.p s.lifecycleCarriers).Run es r)
    (packages : Packages) : ∃ ls, ((podSystem s).restrict C).Run ls ⟨r, .empty, packages⟩ := by
  refine System.Run.induction (S := applySystem s.p s.lifecycleCarriers)
    (I := fun _ r => ∃ ls, ((podSystem s).restrict C).Run ls ⟨r, .empty, packages⟩) ?_ ?_ h
  · exact fun r hr => ⟨[], .start (S := (podSystem s).restrict C) ⟨hr, rfl⟩⟩
  · rintro _ r event next _ ⟨ls, hls⟩ hstep
    exact ⟨_, hls.snoc ⟨.event hstep, hC _ _⟩⟩

namespace ReviewSample
open Lifecycle.Sample Store.Sample

def rejectPayload : ShipperPodReviewSignPayload :=
  ⟨js "T-1", 1, js "pod-1", .rejectDispute, [js "DAMAGED"], js "2026-01-04T02:40:00Z", js "2026-01-06T02:00:00.000Z",
   js "a15"⟩

/-- The shipper signed an acceptance and a rejection. -/
def signedDecisions : Platform :=
  signing [(input.trust.shipperPublicKey, acceptPayload.toJson.canonicalize, signature),
    (input.trust.shipperPublicKey, rejectPayload.toJson.canonicalize, signature)]

/-- A service in memory, without live bindings. -/
def service : PodService where
  p := signedDecisions
  lifecycleCarriers := none
  ethers := asciiEthers
  sha256Hex := fun bytes => Sha256.sha256Hex (bytes.map fun b => UInt16.ofNat b.toNat)
  bindings := ⟨none, none, false⟩
  deps :=
    { podStore := memoryPodStore signedDecisions, keyProtector := ⟨List.replicate 32 0x0B, rfl⟩, carriers := fun _ => none,
      scanner := fun _ => .ok, filePolicy := DEFAULT_POD_FILE_POLICY }

def acceptInput : ShipperReviewInput :=
  ⟨js "T-1", 1, js "pod-1", .accept, js "a15", js "2026-01-04T02:40:00Z", none, signature, none⟩

def rejectInput (disputeId : JsString) : ShipperReviewInput :=
  ⟨js "T-1", 1, js "pod-1", .rejectDispute, js "a15", js "2026-01-04T02:40:00Z", some [⟨js "DAMAGED", js "crushed"⟩],
   signature, some disputeId⟩

/-- What is computed of the record, and of a request that it takes. -/
def decisionCheck (input : ShipperReviewInput) (r : LifecycleRecord) : Prop :=
  (r.tenderId = js "T-1" ∧ r.tenderVersion = 1) ∧
    (r.tenderId = input.tenderId ∧ r.tenderVersion = input.tenderVersion) ∧ isProcessed r input.actionId = false ∧
    (checkReview signedDecisions r input).toOption = some (js "2026-01-06T02:00:00.000Z") ∧
    ∃ next ∈ checkedStep signedDecisions none r (reviewEvent input (js "2026-01-06T02:00:00.000Z")), True

instance (input : ShipperReviewInput) (r : LifecycleRecord) : Decidable (decisionCheck input r) :=
  inferInstanceAs (Decidable (_ ∧ _))

instance (value : JsString) : Decidable (IsAuthorization value) := inferInstanceAs (Decidable (_ ∧ _))

/-- The record under review takes the request. -/
theorem commits_of_check {request : ShipperReviewInput} {r : LifecycleRecord}
    (hr : checkedRun signedDecisions none input (events.take 11) = some r) (h : decisionCheck request r) :
    (r.tenderId = js "T-1" ∧ r.tenderVersion = 1) ∧
      (∃ ls, (podSystem service).Run ls ⟨r, .empty, fun _ => none⟩) ∧
      ∃ reviewDeadlineAt next, ReviewCommits service r request reviewDeadlineAt next := by
  obtain ⟨htender, hfound, hfresh, hchecked, next, hnext, -⟩ := h
  have hp : signedDecisions.HexDigest := hexDigest_asciiPlatform _
  have hrun := run_of_checked hp Store.Sample.inputFormat hr
  obtain ⟨ls, hls⟩ := podRun_of_events (s := service) (C := fun _ _ => True) (fun _ _ => trivial) hrun fun _ => none
  exact ⟨htender, ⟨ls, hls.of_restrict⟩, _, next, recordOf_eq_ok.mpr hfound, hfresh,
    toOption_eq_some.mp hchecked, applyRecord_of_applies (applySystem_accepted hrun) (applies_of_checked hp hrun hnext)⟩

/-- The tender has an escrow key. -/
theorem tenderKey {r : LifecycleRecord} (h : r.tenderId = js "T-1" ∧ r.tenderVersion = 1) :
    ∃ key, escrowTenderKey service.ethers r.tenderId r.tenderVersion = .ok key := by
  rw [h.1, h.2]
  have hid : Identified asciiEthers (js "T-1") 1 (asciiEthers.keccak256 ((js "T-1").map UInt16.toNat)) :=
    ⟨by decide, ⟨_, by decide, rfl⟩, by decide⟩
  exact ⟨_, hid.tenderKey⟩

/-- A record under review that takes the acceptance, which can be answered. -/
theorem acceptance : ∃ r ls, (podSystem service).Run ls ⟨r, .empty, fun _ => none⟩ ∧
    (∃ reviewDeadlineAt next, ReviewCommits service r acceptInput reviewDeadlineAt next) ∧
    ReviewAdmissible service r acceptInput := by
  have h : ∃ r ∈ checkedRun signedDecisions none input (events.take 11), decisionCheck acceptInput r ∧
      IsAuthorization (acceptanceHash service.sha256Hex r (js "pod-1") (js "a15")) := by
    decide +kernel
  obtain ⟨r, hr, hcheck, hhash⟩ := h
  obtain ⟨htender, ⟨ls, hrun⟩, hcommits⟩ := commits_of_check hr hcheck
  have hpublic : isPublicId r.tenderId := by
    rw [htender.1]
    decide
  exact ⟨r, ls, hrun, hcommits, tenderKey htender, hpublic, by decide,
    fun _ => ⟨fun hlive => absurd hlive (by decide), hhash⟩, fun haction => absurd haction (by decide)⟩

/-- A record under review that takes the rejection, which can be answered. -/
theorem rejection : ∃ r ls, (podSystem service).Run ls ⟨r, .empty, fun _ => none⟩ ∧
    (∃ reviewDeadlineAt next, ReviewCommits service r (rejectInput (js "dispute-1")) reviewDeadlineAt next) ∧
    ReviewAdmissible service r (rejectInput (js "dispute-1")) := by
  have h : ∃ r ∈ checkedRun signedDecisions none input (events.take 11), decisionCheck (rejectInput (js "dispute-1")) r ∧
      IsAuthorization (disputeHash service.sha256Hex r (js "pod-1") (js "a15") (js "dispute-1")) := by
    decide +kernel
  obtain ⟨r, hr, hcheck, hhash⟩ := h
  obtain ⟨htender, ⟨ls, hrun⟩, hcommits⟩ := commits_of_check hr hcheck
  have hpublic : isPublicId r.tenderId := by
    rw [htender.1]
    decide
  exact ⟨r, ls, hrun, hcommits, tenderKey htender, hpublic, by decide, fun haction => absurd haction (by decide),
    fun _ => ⟨by decide, fun hlive => absurd hlive (by decide), hhash⟩⟩

end ReviewSample

end RouteGuard.Pod
