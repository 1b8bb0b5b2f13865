import RouteGuard.Demo.Acting

/-!
# The live actions

Every live action is a list of sub-steps, each of them submitted once and recorded in the receipt journal.

* `planStep`, `recordReceipt`, `findSuccessfulReceipt` : the journal;
* `journaled` : one sub-step: found in the journal, or planned, submitted and recorded, then verified;
* `liveSubSteps`, `executeLive` : the actions;
* `liveSystem` : any interleaving of live `act` calls on one session.
-/

namespace RouteGuard.Demo
open JsString Json Guarded

namespace DemoM

def submit (actionId subStep : JsString) : DemoM (JsString × Option Nat) :=
  ExceptT.mk (Prog.perform (DemoOp.submit actionId subStep))

def verifyOnMirror (actionId subStep transactionId : JsString) : DemoM JsString :=
  ExceptT.mk (Prog.perform (DemoOp.verifyOnMirror actionId subStep transactionId))

def elsewhere : DemoM Unit := ExceptT.mk (Prog.perform DemoOp.elsewhere)

end DemoM

/-! ## The journal -/

def findSuccessfulReceipt (session : OperationsDemoSession) (actionId subStep : JsString) : Option DemoStepRecord :=
  session.steps.find? fun step => step.isFor actionId subStep && step.receiptStatusSuccess

section Journal
variable (deps : DemoDeps) (sessionId : JsString)

/-- `journal.progress`. -/
def recordProgress (actionId : JsString) (progress : DemoProgress) : DemoM Unit := do
  let _ ← DemoM.mutate sessionId (.journal (.progress actionId progress))
  pure ()

/-- `journal.plan`. -/
def planStep (request : DemoActionRequest) (previous intended : DemoWorkflowState) (subStep : JsString) :
    DemoM DemoStepRecord := do
  let idempotencyKeyHash := canonicalSha256 deps.sha256Hex (.str request.idempotencyKey)
  let payloadHash := canonicalSha256 deps.sha256Hex request.payload
  let found ← DemoM.get sessionId
  match found.bind fun session => session.steps.find? (DemoStepRecord.isFor request.actionId subStep) with
  | some existing =>
    if existing.idempotencyKeyHash = idempotencyKeyHash ∧ existing.payloadHash = payloadHash then pure existing
    else throw (.demo .demoActionConflict (js "step identity conflicts with its journal"))
  | none =>
    let time ← DemoM.now
    let planned : DemoStepRecord :=
      { action := request.action, actionId := request.actionId, idempotencyKeyHash := idempotencyKeyHash,
        payloadHash := payloadHash, expectedPreviousState := previous, intendedNextState := intended,
        subStep := subStep, status := .planned, publicTransactionId := none, receiptStatusSuccess := false,
        verificationStatus := none, hcsSequence := none, safeEvidenceHash := none, createdAt := time,
        updatedAt := time }
    let _ ← DemoM.mutate sessionId (.journal (.plan planned))
    pure planned

/-- `journal.receipt`. -/
def recordReceipt (actionId subStep transactionId : JsString) (hcsSequence : Option Nat) : DemoM Unit := do
  match ← DemoM.get sessionId with
  | none => throw (.demo .demoSessionNotFound (js "session not found"))
  | some current =>
    match findSuccessfulReceipt current actionId subStep with
    | some prior =>
      if prior.publicTransactionId = some transactionId then pure ()
      else throw (.demo .demoPersistenceConflict (js "receipt transaction identity changed"))
    | none =>
      if current.writeBudget.perSessionCeiling < current.writesUsed + 1 then
        throw (.demo .demoWriteBudgetExceeded (js "session write ceiling exceeded"))
      else
        let daily ← DemoM.dailySuccessfulWrites
        if current.writeBudget.dailyCeiling < daily + 1 then
          throw (.demo .demoDailyLimitReached (js "daily write ceiling exceeded"))
        else
          DemoM.recordDailyWriteSuccess 1
          let _ ← DemoM.mutate sessionId (.journal (.receipt actionId subStep transactionId hcsSequence))
          pure ()

end Journal

/-! ## One sub-step -/

/-- What a sub-step came to. -/
structure StepOutcome where
  reference : PublicTransactionReference
  hcsSequence : Option Nat
  evidenceHash : JsString

def transactionRef (action : DemoAction) (transactionId : JsString) : PublicTransactionReference :=
  ⟨action, transactionId, some (hashScanTransactionUrl transactionId), false, true, true⟩

section SubStep
variable (deps : DemoDeps) (session : OperationsDemoSession) (request : DemoActionRequest)
  (intendedState : DemoWorkflowState) (subStep : JsString)

/-- The `submit` callbacks: a transaction, which is recorded as soon as its receipt is there. -/
def submitAndRecord : DemoM (JsString × Option Nat) := do
  let (transactionId, hcsSequence) ← DemoM.submit request.actionId subStep
  recordReceipt session.sessionId request.actionId subStep transactionId hcsSequence
  pure (transactionId, hcsSequence)

/-- The sub-step of a journaled receipt is verified. -/
def verifyJournaled (prior : DemoStepRecord) (transactionId : JsString) : DemoM StepOutcome := do
  recordProgress session.sessionId request.actionId .verifyingThroughMirror
  let evidenceHash ← DemoM.verifyOnMirror request.actionId subStep transactionId
  let _ ← DemoM.mutate session.sessionId (.journal (.verify request.actionId subStep evidenceHash prior.hcsSequence))
  pure ⟨transactionRef request.action transactionId, prior.hcsSequence, evidenceHash⟩

/-- A sub-step without a receipt is planned, submitted and recorded. -/
def submitJournaled : DemoM (DemoStepRecord × JsString) := do
  let _ ← planStep deps session.sessionId request session.lastConfirmedState intendedState subStep
  recordProgress session.sessionId request.actionId .signing
  recordProgress session.sessionId request.actionId .submitting
  let (transactionId, _) ← submitAndRecord session request subStep
  let latest ← DemoM.get session.sessionId
  match latest.bind fun latest => findSuccessfulReceipt latest request.actionId subStep with
  | none => throw .other
  | some prior => if prior.publicTransactionId = some transactionId then pure (prior, transactionId) else throw .other

/-- The outcome a verified step has recorded. -/
def DemoStepRecord.outcome (step : DemoStepRecord) : Option StepOutcome :=
  match step.status, step.verificationStatus, step.publicTransactionId, step.safeEvidenceHash with
  | .verified, some .verified, some transactionId, some evidenceHash =>
    if transactionId = [] ∨ evidenceHash = [] then none
    else some ⟨transactionRef request.action transactionId, step.hcsSequence, evidenceHash⟩
  | _, _, _, _ => none

def journaled : DemoM StepOutcome := do
  let latest := (← DemoM.get session.sessionId).getD session
  match findSuccessfulReceipt latest request.actionId subStep with
  | some prior =>
    match prior.outcome request, prior.publicTransactionId with
    | some outcome, _ => pure outcome
    | none, some transactionId => verifyJournaled session request subStep prior transactionId
    | none, none => throw .other
  | none =>
    let (prior, transactionId) ← submitJournaled deps session request intendedState subStep
    verifyJournaled session request subStep prior transactionId

end SubStep

/-! ## The actions -/

/-- The sub-steps of an action, in order. -/
def liveSubSteps : DemoAction → List JsString
  | .fundEscrow => [js "register-tender", js "approve-exact-allowance", js "fund-escrow"]
  | .openTender => [js "x402-tender-access"]
  | .submitOffer => [js "x402-carrier-offer"]
  | .selectWinner => [js "allocate-winner"]
  | .submitPod => [js "pod-submitted-hcs"]
  | .runAdvisory => [js "pod-advisory-hcs"]
  | .acceptPod => [js "pod-review-action-hcs"]
  | .releaseFreight => [js "release-full", js "escrow-released-hcs", js "tender-completed-hcs"]
  | .requestCorrection | .openDispute => []

section Actions
variable (deps : DemoDeps)

/-- The sub-steps one after the other. What an action does around them, with the lifecycle, the plan builders and the
Mirror, touches no session; it may fail at any point. -/
def executeSubSteps (session : OperationsDemoSession) (request : DemoActionRequest) (intendedState : DemoWorkflowState) :
    List JsString → DemoM (List StepOutcome)
  | [] => do
    DemoM.elsewhere
    pure []
  | subStep :: rest => do
    DemoM.elsewhere
    let outcome ← journaled deps session request intendedState subStep
    let outcomes ← executeSubSteps session request intendedState rest
    pure (outcome :: outcomes)

def executeLive : Adapter := fun session request intendedState _ =>
  if liveSubSteps request.action = [] then throw (.demo .demoActionNotAllowed (js "unsupported live action"))
  else do
    let outcomes ← executeSubSteps deps session request intendedState (liveSubSteps request.action)
    pure ⟨[], outcomes.map StepOutcome.reference, outcomes.filterMap StepOutcome.hcsSequence,
      outcomes.map StepOutcome.evidenceHash, 0⟩

/-- Any interleaving of live `act` calls on the session. -/
def liveSystem (sid : JsString) : System ActPool ActLabel :=
  poolSystem (fun request => (act deps (executeLive deps) sid request).run) (DemoEffect deps sid)
    (FreshSession deps sid .live)

end Actions

/-- A sub-step tells its action. -/
theorem liveSubSteps_injective {subStep : JsString} {action action' : DemoAction} (h : subStep ∈ liveSubSteps action)
    (h' : subStep ∈ liveSubSteps action') : action = action' := by
  have hdistinct : ∀ action action' : DemoAction, action ≠ action' →
      ∀ subStep ∈ liveSubSteps action, subStep ∉ liveSubSteps action' := by
    intro action action' hne
    cases action <;> cases action' <;> first | exact absurd rfl hne | decide
  by_contra hne
  exact hdistinct action action' hne subStep h h'

end RouteGuard.Demo
