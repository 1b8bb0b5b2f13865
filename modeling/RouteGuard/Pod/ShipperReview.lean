import RouteGuard.Lib.AesGcm
import RouteGuard.Pod.EscrowPlans
import RouteGuard.Pod.ReviewStart

/-!
# The review of the shipper

`PodService.shipperReview` commits the decision first, and then builds the escrow plan and the messages that announce it.
A request whose action is processed already is answered from the record as it is by then.

* `ServiceError.message` : the texts that the service looks at;
* `EscrowPlans` : the plans that are kept in memory;
* `shipperReview` : the service method, on the record of a tender and the plans.
-/

namespace RouteGuard.Store
open JsString Lifecycle

/-! ## Messages -/

def StoreError.message : StoreError → JsString
  | .corrupt tenderId reason =>
    js "Corrupt persisted lifecycle record for tender \"" ++ tenderId ++ js "\": " ++ reason ++
      js " — manual operator recovery required"
  | .notFound tenderId => js "Lifecycle record not found: " ++ tenderId
  | .versionConflict tenderId expectedVersion actualVersion =>
    js "Lifecycle CAS conflict for " ++ tenderId ++ js ": expected version " ++ decimalInt expectedVersion ++
      js ", actual " ++ decimalInt actualVersion
  | .immutableField tenderId field =>
    js "Lifecycle record \"" ++ tenderId ++ js "\" cannot change immutable field \"" ++ field ++ js "\""
  | .actionConflict _ message => message
  | .atomicWrite tenderId reason =>
    js "Atomic persistence failed for lifecycle record \"" ++ tenderId ++ js "\": " ++ reason ++
      js " — previous authoritative state preserved"
  | .failed message => message

def ServiceError.message : ServiceError → JsString
  | .store e => e.message
  | .auth e => e.message
  | .lifecycle (.illegalTransition source target) =>
    js "Illegal lifecycle transition: " ++ source.text ++ js " → " ++ target.text
  | .lifecycle (.guardFailed _ message) => message
  | .lifecycle (.failed message) => message

end RouteGuard.Store

namespace RouteGuard.Pod
open JsString Guarded Access Lifecycle Store Auth Hcs.V2

/-! ## The service -/

/-- The optional bindings of the escrow. -/
structure EscrowBindings where
  escrowContractId : Option JsString
  escrowContractEvm : Option JsString
  requirePhaseC2LiveBindings : Bool
  deriving DecidableEq, Repr

/-- `releasePlans` and `disputePlans`. -/
structure EscrowPlans where
  release : JsString → Option BoundEscrowPlan
  dispute : JsString → Option BoundEscrowPlan

def EscrowPlans.empty : EscrowPlans := ⟨fun _ => none, fun _ => none⟩

/-- `${tenderId}|${actionId}`. -/
def planKey (tenderId actionId : JsString) : JsString := tenderId ++ js "|" ++ actionId

structure ShipperReviewInput where
  tenderId : JsString
  tenderVersion : Int
  podId : JsString
  action : ShipperReviewActionKind
  actionId : JsString
  signedAt : JsString
  reasons : Option (List ReviewReason)
  signature : JsString
  disputeId : Option JsString
  deriving DecidableEq, Repr

structure ShipperReviewResult where
  record : LifecycleRecord
  action : ShipperReviewActionKind
  escrowPlan : Option BoundEscrowPlan
  outbox : List PodOutboxItem
  outcome : ApplyOutcome

/-- The record of a tender, and the plans of the process. -/
structure Reviewed where
  record : LifecycleRecord
  plans : EscrowPlans

def podFailed (code : PodErrorCode) (message : String) : ReviewError := .pod ⟨code, js message⟩

/-- `requireRecord`, on the record of a tender. -/
def recordOf (record : LifecycleRecord) (tenderId : JsString) (tenderVersion : Int) : Except ReviewError Unit := do
  require (record.tenderId = tenderId) (podFailed .POD_NOT_FOUND "tender not found")
  require (record.tenderVersion = tenderVersion) (podFailed .POD_INVALID "tender version mismatch")

def BoundPlanError.thrown : BoundPlanError → ReviewError
  | .pod e => .pod e
  | .plan (.identity _ message) => .failed message
  | .plan (.amount _ message) => .failed message
  | .plan (.invalidString _) => .failed (js "invalid string")

section Service
variable (p : Platform) (carriers : Option CarrierRegistry) (ethers : Escrow.Ethers)
  (sha256Hex : List UInt8 → JsString) (bindings : EscrowBindings)

/-- `LifecycleService.apply` on a store that holds the record of the tender. -/
def applyRecord (record : LifecycleRecord) (event : LifecycleEvent) : Except ServiceError ApplyLifecycleResult :=
  (apply p carriers (inMemoryLifecycleStore p) (inMemoryLifecycleStore p) record.tenderId event
    fun t => if t = record.tenderId then some record else none).1

/-- What the service makes of an error of `apply`. -/
def reviewApplyError (e : ServiceError) : ReviewError :=
  if includes (js "AFTER_REVIEW") e.message then podFailed .POD_REVIEW_DEADLINE_EXPIRED "review deadline expired"
  else if includes (js "conflict") (Escrow.lowerAscii e.message) then podFailed .ACTION_ID_CONFLICT "actionId conflict"
  else .service e

/-! ### The checks -/

/-- What the shipper has signed. -/
def reviewSigned (record : LifecycleRecord) (input : ShipperReviewInput) (reviewDeadlineAt : JsString) :
    ShipperPodReviewSignPayload :=
  ⟨record.tenderId, record.tenderVersion, input.podId, input.action, (input.reasons.getD []).map (·.code), input.signedAt,
   reviewDeadlineAt, input.actionId⟩

/-- The checks of a fresh action, with the deadline of the review. -/
def checkReview (record : LifecycleRecord) (input : ShipperReviewInput) : Except ReviewError JsString := do
  require (record.state = .podUnderReview) (podFailed .POD_REVIEW_NOT_ALLOWED "not under review")
  match present record.reviewDeadlineAt, present record.podId with
  | some reviewDeadlineAt, some podId => do
    require (podId = input.podId) (podFailed .POD_INVALID "podId mismatch")
    let inTime ← (isBeforeOrEqualUtc input.signedAt reviewDeadlineAt).mapError .failed
    require inTime (podFailed .POD_REVIEW_DEADLINE_EXPIRED "review deadline expired")
    require (input.action = .accept ∨ input.reasons.getD [] ≠ [])
      (podFailed .POD_INVALID "structured reasons required")
    let _ ← (verifyShipperPodReview p (trustPolicyFromRecord record) (reviewSigned record input reviewDeadlineAt)
      input.signature).mapError fun _ => podFailed .SHIPPER_AUTHORIZATION_INVALID "shipper signature invalid"
    pure reviewDeadlineAt
  | _, _ => .error (podFailed .POD_REVIEW_NOT_ALLOWED "review binding incomplete")

def disputeIdOf (input : ShipperReviewInput) : JsString := input.disputeId.getD (js "dispute-" ++ input.actionId)

def reviewBody (input : ShipperReviewInput) (reviewDeadlineAt : JsString) : EventBody :=
  let signed : ShipperSigned := ⟨input.signature, input.signedAt, reviewDeadlineAt⟩
  match input.action with
  | .accept => .podAcceptedByShipper ⟨signed⟩
  | .requestCorrection => .podCorrectionRequested ⟨signed, input.reasons.getD []⟩
  | .rejectDispute => .podRejectedToDispute ⟨signed, input.reasons.getD [], disputeIdOf input⟩

def reviewEvent (input : ShipperReviewInput) (reviewDeadlineAt : JsString) : LifecycleEvent :=
  ⟨input.actionId, input.signedAt, reviewBody input reviewDeadlineAt⟩

/-! ### The plans -/

/-- The digest of the bytes of a label. -/
def labelHash (bytes : List Nat) : JsString := sha256Hex (AesGcm.ofNats bytes)

def acceptanceHash (record : LifecycleRecord) (podId actionId : JsString) : JsString :=
  shipperAcceptanceAuthorizationHash (labelHash sha256Hex)
    ⟨record.tenderId, podId, record.podVersion.getD 1, actionId, record.podContentHash.getD []⟩

def disputeHash (record : LifecycleRecord) (podId actionId disputeId : JsString) : JsString :=
  disputeAuthorizationHash (labelHash sha256Hex)
    ⟨record.tenderId, podId, record.podVersion.getD 1, actionId, disputeId⟩

/-- What a plan of the record is bound to. -/
def planInput (record : LifecycleRecord) (podId tenderKey authorizationHash : JsString) (live : Bool) :
    BoundPlanInput where
  tenderId := record.tenderId
  tenderVersion := record.tenderVersion
  tenderKey := tenderKey
  podId := podId
  podVersion := record.podVersion.getD 1
  lockedAmountAtomic := record.lockedAmountAtomic.getD (js "0")
  authorizationHash := authorizationHash
  contractId := bindings.escrowContractId.getD (js "0.0.0")
  contractEvmAddress := bindings.escrowContractEvm.getD (js "0x0000000000000000000000000000000000000001")
  requirePhaseC2LiveBindings := live

def releasePlan (record : LifecycleRecord) (podId actionId tenderKey : JsString) (live : Bool) :
    Except BoundPlanError BoundEscrowPlan :=
  buildBoundReleaseFullPlan p ethers
    (planInput bindings record podId tenderKey (acceptanceHash sha256Hex record podId actionId) live)

def disputePlan (record : LifecycleRecord) (podId actionId disputeId tenderKey : JsString) (live : Bool) :
    Except BoundPlanError BoundEscrowPlan :=
  buildBoundOpenDisputePlan p ethers
    (planInput bindings record podId tenderKey (disputeHash sha256Hex record podId actionId disputeId) live)

/-- A plan that is kept under the key stays; otherwise the new one is kept. -/
def keepPlan (kept : JsString → Option BoundEscrowPlan) (key : JsString) (built : Except BoundPlanError BoundEscrowPlan) :
    Except ReviewError (BoundEscrowPlan × (JsString → Option BoundEscrowPlan)) :=
  match kept key with
  | some existing => .ok (existing, kept)
  | none => (built.mapError BoundPlanError.thrown).map fun plan => (plan, Function.update kept key (some plan))

/-- The plan of a committed decision, and the plans that are kept after it. -/
def decidedPlan (record next : LifecycleRecord) (input : ShipperReviewInput) (tenderKey : JsString) (plans : EscrowPlans) :
    Except ReviewError (Option BoundEscrowPlan × EscrowPlans) :=
  let key := planKey input.tenderId input.actionId
  let live := bindings.requirePhaseC2LiveBindings
  match input.action with
  | .accept =>
    (keepPlan plans.release key (releasePlan p ethers sha256Hex bindings record input.podId input.actionId tenderKey
      live)).map fun (plan, release) => (some plan, { plans with release })
  | .requestCorrection => .ok (none, plans)
  | .rejectDispute =>
    let disputeId := next.disputeId.getD (disputeIdOf input)
    (keepPlan plans.dispute key (disputePlan p ethers sha256Hex bindings record input.podId input.actionId disputeId
      tenderKey live)).map fun (plan, dispute) => (some plan, { plans with dispute })

/-! ### The messages -/

/-- The code of the first reason; one that the messages do not know is not told. -/
def disputeReasonCode (input : ShipperReviewInput) : JsString :=
  let rawCode := ((input.reasons.getD []).head?.map (·.code)).getD (js "OTHER_STRUCTURED")
  if rawCode ∈ HCS_V2_DISPUTE_REASON_CODES then rawCode else js "OTHER_STRUCTURED"

def reviewItem (record : LifecycleRecord) (action : ShipperReviewActionKind) (reviewDeadlineAt : JsString) :
    Except ReviewError PodOutboxItem :=
  ((buildPodReviewActionEnvelope p record action reviewDeadlineAt).mapError .failed).map (⟨.POD_REVIEW_ACTION, ·⟩)

def disputeItem (next : LifecycleRecord) (input : ShipperReviewInput) : Except ReviewError PodOutboxItem :=
  ((buildDisputeOpenedEnvelope p next (next.disputeId.getD (disputeIdOf input))
    (disputeReasonCode input)).mapError .failed).map (⟨.DISPUTE_OPENED, ·⟩)

def reviewOutbox (next : LifecycleRecord) (input : ShipperReviewInput) (reviewDeadlineAt : JsString) :
    Except ReviewError (List PodOutboxItem) :=
  match input.action with
  | .rejectDispute => do
    let opened ← disputeItem p next input
    let reviewed ← reviewItem p next input.action reviewDeadlineAt
    pure [opened, reviewed]
  | _ => do
    let reviewed ← reviewItem p next input.action reviewDeadlineAt
    pure [reviewed]

/-! ### The answers -/

/-- The answer to a decision that was committed: first the plan, then the messages. -/
def answerReview (record next : LifecycleRecord) (input : ShipperReviewInput) (reviewDeadlineAt : JsString)
    (outcome : ApplyOutcome) (plans : EscrowPlans) : Except ReviewError ShipperReviewResult × EscrowPlans :=
  match tenderKeyOf ethers record with
  | .error e => (.error e, plans)
  | .ok tenderKey =>
    match decidedPlan p ethers sha256Hex bindings record next input tenderKey plans with
    | .error e => (.error e, plans)
    | .ok (escrowPlan, plans) =>
      ((reviewOutbox p next input reviewDeadlineAt).map fun outbox =>
        ⟨next, input.action, escrowPlan, outbox, outcome⟩, plans)

/-- The plan of a processed action: one that is kept, or that of the record as it is now. -/
def replayedPlan (record : LifecycleRecord) (input : ShipperReviewInput) (plans : EscrowPlans) :
    Except ReviewError (Option BoundEscrowPlan × EscrowPlans) :=
  let key := planKey input.tenderId input.actionId
  match plans.release key, plans.dispute key with
  | some plan, _ => .ok (some plan, plans)
  | none, some plan => .ok (some plan, plans)
  | none, none =>
    match input.action, present record.podId, present record.podContentHash with
    | .accept, some podId, some _ => do
      let tenderKey ← tenderKeyOf ethers record
      let plan ← (releasePlan p ethers sha256Hex bindings record podId input.actionId tenderKey false).mapError
        BoundPlanError.thrown
      pure (some plan, { plans with release := Function.update plans.release key (some plan) })
    | _, _, _ => .ok (none, plans)

def replayedOutbox (record : LifecycleRecord) (action : ShipperReviewActionKind) :
    Except ReviewError (List PodOutboxItem) :=
  match present record.podId, present record.reviewDeadlineAt with
  | some _, some reviewDeadlineAt => do
    let reviewed ← reviewItem p record action reviewDeadlineAt
    pure [reviewed]
  | _, _ => pure []

/-- The answer to a request whose action is processed. -/
def replayReview (record : LifecycleRecord) (input : ShipperReviewInput) (plans : EscrowPlans) :
    Except ReviewError ShipperReviewResult × EscrowPlans :=
  match replayedPlan p ethers sha256Hex bindings record input plans with
  | .error e => (.error e, plans)
  | .ok (escrowPlan, plans) =>
    ((replayedOutbox p record input.action).map fun outbox => ⟨record, input.action, escrowPlan, outbox, .replayed⟩, plans)

def shipperReview (input : ShipperReviewInput) (w : Reviewed) : Except ReviewError ShipperReviewResult × Reviewed :=
  match recordOf w.record input.tenderId input.tenderVersion with
  | .error e => (.error e, w)
  | .ok () =>
    if isProcessed w.record input.actionId then
      let (result, plans) := replayReview p ethers sha256Hex bindings w.record input w.plans
      (result, { w with plans })
    else
      match checkReview p w.record input with
      | .error e => (.error e, w)
      | .ok reviewDeadlineAt =>
        match applyRecord p carriers w.record (reviewEvent input reviewDeadlineAt) with
        | .error e => (.error (reviewApplyError e), w)
        | .ok applied =>
          let (result, plans) := answerReview p ethers sha256Hex bindings w.record applied.record input reviewDeadlineAt
            applied.outcome w.plans
          (result, ⟨applied.record, plans⟩)

end Service

end RouteGuard.Pod
