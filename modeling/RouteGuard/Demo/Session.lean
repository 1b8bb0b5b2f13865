import RouteGuard.Domain.CanonicalHash
import RouteGuard.Lib.Guarded
import RouteGuard.Lib.PlainObject

/-!
# Sessions of the operations demo

A session walks through eight actions, one after the other. Its record is only ever replaced through a callback of
`OperationsDemoStore.mutate`; this module has the record, the transitions and those callbacks.

Times are the milliseconds of the ISO texts the source keeps. A callback that reads the clock several times gets its
readings as a function of their number.

* `ACTION_TRANSITIONS`, `transitionFor` : which action leads where;
* `OperationsDemoSession`, `initialSession` : the record, and how it starts;
* `expireSession`, `reserveAction`, `commitAction`, `failAction` : the callbacks of the orchestrator;
* `SessionChange` : all callbacks, with those of the receipt journal.
-/

namespace RouteGuard.Demo
open JsString Json Guarded

inductive DemoMode where
  | replay | live | simulation
  deriving DecidableEq, Repr

def DemoMode.text : DemoMode → JsString
  | .replay => js "REPLAY"
  | .live => js "LIVE"
  | .simulation => js "SIMULATION"

inductive DemoAction where
  | openTender | fundEscrow | submitOffer | selectWinner | submitPod | runAdvisory | acceptPod | releaseFreight
  | requestCorrection | openDispute
  deriving DecidableEq, Repr

def DemoAction.text : DemoAction → JsString
  | .openTender => js "OPEN_TENDER"
  | .fundEscrow => js "FUND_ESCROW"
  | .submitOffer => js "SUBMIT_OFFER"
  | .selectWinner => js "SELECT_WINNER"
  | .submitPod => js "SUBMIT_POD"
  | .runAdvisory => js "RUN_ADVISORY"
  | .acceptPod => js "ACCEPT_POD"
  | .releaseFreight => js "RELEASE_FREIGHT"
  | .requestCorrection => js "REQUEST_CORRECTION"
  | .openDispute => js "OPEN_DISPUTE"

inductive DemoProgress where
  | ready | validating | signing | submitting | awaitingConsensus | verifyingThroughMirror | confirmed | failed
  | recoverable
  deriving DecidableEq, Repr

def DemoProgress.text : DemoProgress → JsString
  | .ready => js "READY"
  | .validating => js "VALIDATING"
  | .signing => js "SIGNING"
  | .submitting => js "SUBMITTING"
  | .awaitingConsensus => js "AWAITING_CONSENSUS"
  | .verifyingThroughMirror => js "VERIFYING_THROUGH_MIRROR"
  | .confirmed => js "CONFIRMED"
  | .failed => js "FAILED"
  | .recoverable => js "RECOVERABLE"

inductive DemoWorkflowState where
  | created | escrowFunded | accessActivated | offerAccepted | winnerAllocated | podSubmitted | advisoryAnchored
  | podAccepted | completed | failed | expired | aborted
  deriving DecidableEq, Repr

def DemoWorkflowState.text : DemoWorkflowState → JsString
  | .created => js "CREATED"
  | .escrowFunded => js "ESCROW_FUNDED"
  | .accessActivated => js "ACCESS_ACTIVATED"
  | .offerAccepted => js "OFFER_ACCEPTED"
  | .winnerAllocated => js "WINNER_ALLOCATED"
  | .podSubmitted => js "POD_SUBMITTED"
  | .advisoryAnchored => js "ADVISORY_ANCHORED"
  | .podAccepted => js "POD_ACCEPTED"
  | .completed => js "COMPLETED"
  | .failed => js "FAILED"
  | .expired => js "EXPIRED"
  | .aborted => js "ABORTED"

/-- `["COMPLETED", "EXPIRED", "ABORTED"].includes(state)`. -/
def DemoWorkflowState.isTerminal (state : DemoWorkflowState) : Bool := state ∈ [.completed, .expired, .aborted]

inductive DemoErrorCode where
  | demoLiveDisabled | demoInfrastructurePending | demoAdminRequired | demoSessionActive | demoSessionNotFound
  | demoActionNotAllowed | demoActionInProgress | demoActionConflict | demoWriteBudgetExceeded | demoDailyLimitReached
  | demoPersistenceConflict | demoTransactionSubmittedVerificationPending | demoMirrorUnavailable | demoConfigInvalid
  | demoOperatorRecoveryRequired | demoRateLimited
  deriving DecidableEq, Repr

def DemoErrorCode.text : DemoErrorCode → JsString
  | .demoLiveDisabled => js "DEMO_LIVE_DISABLED"
  | .demoInfrastructurePending => js "DEMO_INFRASTRUCTURE_PENDING"
  | .demoAdminRequired => js "DEMO_ADMIN_REQUIRED"
  | .demoSessionActive => js "DEMO_SESSION_ACTIVE"
  | .demoSessionNotFound => js "DEMO_SESSION_NOT_FOUND"
  | .demoActionNotAllowed => js "DEMO_ACTION_NOT_ALLOWED"
  | .demoActionInProgress => js "DEMO_ACTION_IN_PROGRESS"
  | .demoActionConflict => js "DEMO_ACTION_CONFLICT"
  | .demoWriteBudgetExceeded => js "DEMO_WRITE_BUDGET_EXCEEDED"
  | .demoDailyLimitReached => js "DEMO_DAILY_LIMIT_REACHED"
  | .demoPersistenceConflict => js "DEMO_PERSISTENCE_CONFLICT"
  | .demoTransactionSubmittedVerificationPending => js "DEMO_TRANSACTION_SUBMITTED_VERIFICATION_PENDING"
  | .demoMirrorUnavailable => js "DEMO_MIRROR_UNAVAILABLE"
  | .demoConfigInvalid => js "DEMO_CONFIG_INVALID"
  | .demoOperatorRecoveryRequired => js "DEMO_OPERATOR_RECOVERY_REQUIRED"
  | .demoRateLimited => js "DEMO_RATE_LIMITED"

/-- What a call of the demo throws: a `DemoError`, or anything else. -/
inductive DemoThrown where
  | demo (code : DemoErrorCode) (message : JsString)
  | other
  deriving DecidableEq, Repr

/-! ## Transitions -/

def ACTION_TRANSITIONS : DemoAction → Option (DemoWorkflowState × DemoWorkflowState)
  | .fundEscrow => some (.created, .escrowFunded)
  | .openTender => some (.escrowFunded, .accessActivated)
  | .submitOffer => some (.accessActivated, .offerAccepted)
  | .selectWinner => some (.offerAccepted, .winnerAllocated)
  | .submitPod => some (.winnerAllocated, .podSubmitted)
  | .runAdvisory => some (.podSubmitted, .advisoryAnchored)
  | .acceptPod => some (.advisoryAnchored, .podAccepted)
  | .releaseFreight => some (.podAccepted, .completed)
  | .requestCorrection | .openDispute => none

def transitionFor (state : DemoWorkflowState) (action : DemoAction) : Except DemoThrown DemoWorkflowState :=
  if state.isTerminal then .error (.demo .demoActionNotAllowed (state.text ++ js " is terminal"))
  else
    match ACTION_TRANSITIONS action with
    | some (source, target) =>
      if source = state then .ok target
      else .error (.demo .demoActionNotAllowed (action.text ++ js " is not allowed from " ++ state.text))
    | none => .error (.demo .demoActionNotAllowed (action.text ++ js " is not allowed from " ++ state.text))

/-- The actions in the order of `ACTION_TRANSITIONS`. -/
def transitionOrder : List DemoAction :=
  [.fundEscrow, .openTender, .submitOffer, .selectWinner, .submitPod, .runAdvisory, .acceptPod, .releaseFreight,
   .requestCorrection, .openDispute]

def availableActions (state : DemoWorkflowState) : List DemoAction :=
  if state = .podSubmitted then [.runAdvisory]
  else transitionOrder.filter fun action => (ACTION_TRANSITIONS action).map Prod.fst = some state

/-- The confirmed states of a complete session, in order. -/
def workflowChain : List DemoWorkflowState :=
  [.created, .escrowFunded, .accessActivated, .offerAccepted, .winnerAllocated, .podSubmitted, .advisoryAnchored,
   .podAccepted, .completed]

/-! ## The record -/

structure PublicTransactionReference where
  action : DemoAction
  transactionId : JsString
  hashScanUrl : Option JsString
  simulated : Bool
  receiptStatusSuccess : Bool
  mirrorVerified : Bool
  deriving DecidableEq, Repr

inductive DemoStepStatus where
  | planned | receiptConfirmed | verified
  deriving DecidableEq, Repr

inductive VerificationStatus where
  | pending | verified
  deriving DecidableEq, Repr

/-- A step of the receipt journal; `receiptStatusSuccess` is `receiptStatus === "SUCCESS"`, the alternative being
`null`. -/
structure DemoStepRecord where
  action : DemoAction
  actionId : JsString
  idempotencyKeyHash : JsString
  payloadHash : JsString
  expectedPreviousState : DemoWorkflowState
  intendedNextState : DemoWorkflowState
  subStep : JsString
  status : DemoStepStatus
  publicTransactionId : Option JsString
  receiptStatusSuccess : Bool
  verificationStatus : Option VerificationStatus
  hcsSequence : Option Nat
  safeEvidenceHash : Option JsString
  createdAt : Int
  updatedAt : Int
  deriving DecidableEq, Repr

inductive DemoEventType where
  | sessionSnapshot | progressChange | transactionSubmitted | mirrorVerification | confirmedState | recoverableError
  | terminalState | sessionExpiry
  deriving DecidableEq, Repr

structure DemoEvent where
  id : Nat
  type : DemoEventType
  time : Int
  data : Json
  deriving DecidableEq

structure WriteBudgetSnapshot where
  projectedWrites : Nat
  attemptedWrites : Nat
  successfulStateChangingWrites : Nat
  currentAction : Option DemoAction
  perSessionCeiling : Nat
  dailySuccessfulWrites : Nat
  dailyCeiling : Nat
  deriving DecidableEq, Repr

inductive DemoEscrowState where
  | unfunded | funded | allocated | released
  deriving DecidableEq, Repr

structure RecoverableError where
  code : JsString
  message : JsString
  deriving DecidableEq, Repr

inductive DemoActionOutcome where
  | applied | replayed | recoverable
  deriving DecidableEq, Repr

structure DemoActionResult where
  outcome : DemoActionOutcome
  sessionId : JsString
  action : DemoAction
  workflowState : DemoWorkflowState
  progress : DemoProgress
  writesUsed : Nat
  transactions : List PublicTransactionReference
  deriving DecidableEq, Repr

structure CommittedAction where
  identityHash : JsString
  response : DemoActionResult
  deriving DecidableEq, Repr

structure OperationsDemoSession where
  recordVersion : Nat
  sessionId : JsString
  mode : DemoMode
  workflowState : DemoWorkflowState
  lastConfirmedState : DemoWorkflowState
  progress : DemoProgress
  updatedAt : Int
  idleExpiresAt : Int
  absoluteExpiresAt : Int
  writesUsed : Nat
  writeBudget : WriteBudgetSnapshot
  availableActions : List DemoAction
  transactions : List PublicTransactionReference
  hcsSequences : List Nat
  escrowState : DemoEscrowState
  lockedAmountAtomic : JsString
  publicEvidenceHashes : List JsString
  recoverableError : Option RecoverableError
  operatorRecoveryRequired : Bool
  inFlightActionId : Option JsString
  steps : List DemoStepRecord
  events : List DemoEvent
  actionResults : PlainObject CommittedAction
  deriving DecidableEq

structure DemoActionRequest where
  action : DemoAction
  actionId : JsString
  idempotencyKey : JsString
  payload : Json

structure OperationsDemoConfig where
  maxWritesPerSession : Nat
  maxWritesPerDay : Nat
  idleTtlMinutes : Nat
  absoluteTtlMinutes : Nat

structure AdapterActionResult where
  steps : List DemoStepRecord
  transactions : List PublicTransactionReference
  hcsSequences : List Nat
  evidenceHashes : List JsString
  writes : Nat

def DEMO_MAX_BUDGET_ATOMIC : JsString := js "20000"
def DEMO_WINNING_AMOUNT_ATOMIC : JsString := js "15000"

def addMinutes (time : Int) (minutes : Nat) : Int := time + minutes * 60000

/-- A nullable text is truthy when it is there and not empty. -/
def truthy (text : Option JsString) : Bool := text.any (· ≠ [])

/-- The readings of the clock in one callback, by their number. -/
abbrev Clock := Nat → Int

namespace OperationsDemoSession

/-- `(session.events.at(-1)?.id ?? 0) + 1`. -/
def nextEventId (session : OperationsDemoSession) : Nat := (session.events.getLast?.map DemoEvent.id).getD 0 + 1

/-- `this.event(session, type, data)`. -/
def event (session : OperationsDemoSession) (type : DemoEventType) (data : List (JsString × Json)) (time : Int) :
    DemoEvent :=
  ⟨session.nextEventId, type, time, .obj data⟩

/-- The session with one more event. -/
def withEvent (session : OperationsDemoSession) (type : DemoEventType) (data : List (JsString × Json)) (time : Int) :
    OperationsDemoSession :=
  { session with events := session.events ++ [session.event type data time] }

section WithEvent
variable (session : OperationsDemoSession) (type : DemoEventType) (data : List (JsString × Json)) (time : Int)

@[simp] theorem withEvent_mode : (session.withEvent type data time).mode = session.mode := rfl
@[simp] theorem withEvent_workflowState : (session.withEvent type data time).workflowState = session.workflowState := rfl
@[simp] theorem withEvent_actionResults : (session.withEvent type data time).actionResults = session.actionResults := rfl

end WithEvent

def expiresAt (session : OperationsDemoSession) : Int := min session.idleExpiresAt session.absoluteExpiresAt

/-- Whether an expired session still has money in escrow. -/
def financial (session : OperationsDemoSession) : Bool :=
  session.lastConfirmedState ∈ [.escrowFunded, .winnerAllocated, .podSubmitted, .advisoryAnchored, .podAccepted]

end OperationsDemoSession

def recoveryRequired (financial : Bool) : Option RecoverableError :=
  if financial then
    some ⟨DemoErrorCode.demoOperatorRecoveryRequired.text, js "expired financial session requires operator recovery"⟩
  else none

/-! ## The callbacks of the orchestrator -/

section Callbacks
variable (config : OperationsDemoConfig) (clock : Clock)

/-- The callback of `getSession` for a session that has expired. -/
def expireSession (current : OperationsDemoSession) : OperationsDemoSession :=
  let financial := current.financial
  let next :=
    { current with
      recordVersion := current.recordVersion + 1, workflowState := .expired, progress := .failed,
      updatedAt := clock 0, availableActions := [], operatorRecoveryRequired := financial,
      recoverableError := recoveryRequired financial }
  next.withEvent .sessionExpiry [(js "operatorRecoveryRequired", .bool financial)] (clock 1)

/-- What `activeLive` writes for an expired session: no event, and the available actions stay. -/
def expireActive (nowMs : Int) (session : OperationsDemoSession) : OperationsDemoSession :=
  let financial := session.financial
  { session with
    recordVersion := session.recordVersion + 1, workflowState := .expired, progress := .failed, updatedAt := nowMs,
    operatorRecoveryRequired := financial, recoverableError := recoveryRequired financial }

/-- The callback that marks an action as in flight, or finds it committed. -/
def reserveAction (request : DemoActionRequest) (identityHash : JsString) (current : OperationsDemoSession) :
    Except DemoThrown OperationsDemoSession :=
  match current.actionResults.read request.actionId with
  | .value existing =>
    if existing.identityHash ≠ identityHash then
      .error (.demo .demoActionConflict (js "action identity conflicts with the committed action"))
    else .ok { current with recordVersion := current.recordVersion + 1 }
  | .inherited => .error (.demo .demoActionConflict (js "action identity conflicts with the committed action"))
  | .undefined =>
    if truthy current.inFlightActionId then
      .error (.demo .demoActionInProgress (js "another action is in progress"))
    else
      let next :=
        { current with
          recordVersion := current.recordVersion + 1, inFlightActionId := some request.actionId,
          progress := .validating, updatedAt := clock 0 }
      .ok (next.withEvent .progressChange
        [(js "action", .str request.action.text), (js "progress", .str DemoProgress.validating.text)] (clock 1))

/-- The escrow as the session shows it after an action. -/
def escrowAfter (current : OperationsDemoSession) : DemoWorkflowState → DemoEscrowState × JsString
  | .escrowFunded => (.funded, DEMO_MAX_BUDGET_ATOMIC)
  | .winnerAllocated => (.allocated, DEMO_WINNING_AMOUNT_ATOMIC)
  | .completed => (.released, js "0")
  | _ => (current.escrowState, current.lockedAmountAtomic)

/-- The callback that commits an executed action. -/
def commitAction (request : DemoActionRequest) (identityHash : JsString) (intendedState : DemoWorkflowState)
    (executed : AdapterActionResult) (current : OperationsDemoSession) : Except DemoThrown OperationsDemoSession := do
  require (current.inFlightActionId = some request.actionId)
    (.demo .demoPersistenceConflict (js "in-flight action ownership changed"))
  let writesUsed := current.writesUsed + executed.writes
  require (writesUsed ≤ config.maxWritesPerSession)
    (.demo .demoWriteBudgetExceeded (js "session write ceiling exceeded"))
  let response : DemoActionResult :=
    { outcome := .applied, sessionId := current.sessionId, action := request.action, workflowState := intendedState,
      progress := .confirmed, writesUsed := writesUsed, transactions := executed.transactions }
  let next :=
    { current with
      recordVersion := current.recordVersion + 1, workflowState := intendedState, lastConfirmedState := intendedState,
      progress := .confirmed, updatedAt := clock 0, idleExpiresAt := addMinutes (clock 1) config.idleTtlMinutes,
      availableActions := availableActions intendedState,
      transactions := current.transactions ++ executed.transactions,
      hcsSequences := current.hcsSequences ++ executed.hcsSequences,
      publicEvidenceHashes := current.publicEvidenceHashes ++ executed.evidenceHashes,
      steps := current.steps ++ executed.steps, writesUsed := writesUsed,
      writeBudget :=
        { current.writeBudget with
          attemptedWrites := current.writeBudget.attemptedWrites + executed.writes,
          successfulStateChangingWrites := writesUsed, currentAction := none },
      escrowState := (escrowAfter current intendedState).1, lockedAmountAtomic := (escrowAfter current intendedState).2,
      inFlightActionId := none, recoverableError := none,
      actionResults := current.actionResults.insert request.actionId ⟨identityHash, response⟩ }
  pure (next.withEvent (if intendedState = .completed then .terminalState else .confirmedState)
    [(js "action", .str request.action.text), (js "workflowState", .str intendedState.text)] (clock 2))

/-- Whether a transaction of the action has a successful receipt. -/
def recoverable (request : DemoActionRequest) (current : OperationsDemoSession) : Bool :=
  current.steps.any fun step => step.actionId = request.actionId && step.receiptStatusSuccess

/-- The code a failed action leaves: the one of the error, unless a submitted transaction awaits verification. -/
def failureCode (recoverable : Bool) : DemoThrown → DemoErrorCode
  | .demo code _ => if recoverable then .demoTransactionSubmittedVerificationPending else code
  | .other => if recoverable then .demoTransactionSubmittedVerificationPending else .demoConfigInvalid

/-- The callback of the failure path. -/
def failAction (request : DemoActionRequest) (error : DemoThrown) (current : OperationsDemoSession) :
    OperationsDemoSession :=
  let recoverable := recoverable request current
  let code := failureCode recoverable error
  let next :=
    { current with
      recordVersion := current.recordVersion + 1, inFlightActionId := none,
      workflowState := if recoverable then current.lastConfirmedState else .failed,
      progress := if recoverable then .recoverable else .failed, updatedAt := clock 0,
      recoverableError :=
        some ⟨code.text, if recoverable then js "submitted transaction awaits verification" else js "action failed safely"⟩ }
  next.withEvent (if recoverable then .recoverableError else .progressChange)
    [(js "action", .str request.action.text), (js "code", .str code.text)] (clock 1)

end Callbacks

/-! ## The callbacks of the receipt journal -/

section Journal
variable (clock : Clock)

/-- The callback of `journal.progress`. -/
def journalProgress (actionId : JsString) (progress : DemoProgress) (session : OperationsDemoSession) :
    Except DemoThrown OperationsDemoSession := do
  require (session.inFlightActionId = some actionId)
    (.demo .demoPersistenceConflict (js "progress action ownership changed"))
  let next :=
    { session with recordVersion := session.recordVersion + 1, updatedAt := clock 0, progress := progress }
  pure (next.withEvent .progressChange [(js "actionId", .str actionId), (js "progress", .str progress.text)] (clock 0))

/-- The callback of `journal.plan`. -/
def journalPlan (planned : DemoStepRecord) (session : OperationsDemoSession) : OperationsDemoSession :=
  { session with
    recordVersion := session.recordVersion + 1, updatedAt := planned.createdAt, steps := session.steps ++ [planned] }

/-- `step.actionId === actionId && step.subStep === subStep`. -/
def DemoStepRecord.isFor (actionId subStep : JsString) (step : DemoStepRecord) : Bool :=
  step.actionId = actionId && step.subStep = subStep

def hashScanTransactionUrl (transactionId : JsString) : JsString :=
  js "https://hashscan.io/testnet/transaction/" ++ transactionId

/-- The step after its receipt; `evidenceHash` is the canonical hash of the step's identity. -/
def DemoStepRecord.receipted (step : DemoStepRecord) (transactionId : JsString) (hcsSequence : Option Nat)
    (evidenceHash : JsString) (now : Int) : DemoStepRecord :=
  { step with
    status := .receiptConfirmed, publicTransactionId := some transactionId, receiptStatusSuccess := true,
    verificationStatus := some .pending, hcsSequence := hcsSequence, safeEvidenceHash := some evidenceHash,
    updatedAt := now }

/-- What is hashed for a receipt. -/
def receiptIdentity (step : DemoStepRecord) (transactionId : JsString) (hcsSequence : Option Nat) : Json :=
  .obj
    [(js "action", .str step.action.text), (js "actionId", .str step.actionId), (js "subStep", .str step.subStep),
     (js "transactionId", .str transactionId), (js "hcsSequence", Json.ofOption (fun n => .num n) hcsSequence)]

/-- The callback of `journal.receipt`. -/
def journalReceipt (sha256Hex : JsString → JsString) (actionId subStep transactionId : JsString)
    (hcsSequence : Option Nat) (session : OperationsDemoSession) : Except DemoThrown OperationsDemoSession :=
  let index := session.steps.findIdx (DemoStepRecord.isFor actionId subStep)
  match session.steps[index]? with
  | none => .error (.demo .demoPersistenceConflict (js "receipt has no planned journal step"))
  | some step =>
    let evidenceHash := canonicalSha256 sha256Hex (receiptIdentity step transactionId hcsSequence)
    let next :=
      { session with
        recordVersion := session.recordVersion + 1, updatedAt := clock 0,
        steps := session.steps.set index (step.receipted transactionId hcsSequence evidenceHash (clock 0)),
        writesUsed := session.writesUsed + 1,
        writeBudget :=
          { session.writeBudget with
            attemptedWrites := session.writeBudget.attemptedWrites + 1,
            successfulStateChangingWrites := session.writesUsed + 1,
            dailySuccessfulWrites := session.writeBudget.dailySuccessfulWrites + 1, currentAction := some step.action } }
    .ok (next.withEvent .transactionSubmitted
      [(js "action", .str step.action.text), (js "transactionId", .str transactionId),
       (js "hashScanUrl", .str (hashScanTransactionUrl transactionId))] (clock 0))

/-- The callback of `journal.verify`. -/
def journalVerify (actionId subStep evidenceHash : JsString) (hcsSequence : Option Nat)
    (session : OperationsDemoSession) : Except DemoThrown OperationsDemoSession :=
  let index := session.steps.findIdx (DemoStepRecord.isFor actionId subStep)
  match session.steps[index]? with
  | none => .error (.demo .demoPersistenceConflict (js "verification requires a successful receipt"))
  | some step => do
    require step.receiptStatusSuccess
      (.demo .demoPersistenceConflict (js "verification requires a successful receipt"))
    let next :=
      { session with
        recordVersion := session.recordVersion + 1, updatedAt := clock 0,
        steps := session.steps.set index
          { step with
            status := .verified, verificationStatus := some .verified, safeEvidenceHash := some evidenceHash,
            hcsSequence := hcsSequence.or step.hcsSequence, updatedAt := clock 0 } }
    pure (next.withEvent .mirrorVerification
      [(js "action", .str step.action.text), (js "transactionId", Json.ofOption .str step.publicTransactionId),
       (js "verified", .bool true)] (clock 0))

end Journal

/-! ## All callbacks -/

/-- A call of the receipt journal that writes. -/
inductive JournalChange where
  | progress (actionId : JsString) (progress : DemoProgress)
  | plan (planned : DemoStepRecord)
  | receipt (actionId subStep transactionId : JsString) (hcsSequence : Option Nat)
  | verify (actionId subStep evidenceHash : JsString) (hcsSequence : Option Nat)

/-- The callbacks handed to `mutate`. -/
inductive SessionChange where
  | expire
  | reserve (request : DemoActionRequest) (identityHash : JsString)
  | commit (request : DemoActionRequest) (identityHash : JsString) (intendedState : DemoWorkflowState)
      (executed : AdapterActionResult)
  | fail (request : DemoActionRequest) (error : DemoThrown)
  | journal (change : JournalChange)

section Apply
variable (sha256Hex : JsString → JsString) (config : OperationsDemoConfig) (clock : Clock)

def JournalChange.apply (session : OperationsDemoSession) : JournalChange → Except DemoThrown OperationsDemoSession
  | .progress actionId stage => journalProgress clock actionId stage session
  | .plan planned => .ok (journalPlan planned session)
  | .receipt actionId subStep transactionId hcsSequence =>
    journalReceipt clock sha256Hex actionId subStep transactionId hcsSequence session
  | .verify actionId subStep evidenceHash hcsSequence =>
    journalVerify clock actionId subStep evidenceHash hcsSequence session

def SessionChange.apply (session : OperationsDemoSession) : SessionChange → Except DemoThrown OperationsDemoSession
  | .expire => .ok (expireSession clock session)
  | .reserve request identityHash => reserveAction clock request identityHash session
  | .commit request identityHash intendedState executed =>
    commitAction config clock request identityHash intendedState executed session
  | .fail request error => .ok (failAction clock request error session)
  | .journal change => change.apply sha256Hex clock session

end Apply

end RouteGuard.Demo
