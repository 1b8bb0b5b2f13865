import RouteGuard.Demo.Session
import RouteGuard.Lib.Monitor

/-!
# The orchestrator of the operations demo

`getSession`, `act` and `createSession` as programs over the calls they await: the session store, the clock, the
adapter of the session's mode. What the adapter does is a parameter of `act`.

* `DemoOp` : the awaited calls;
* `getSession`, `act`, `createSession` : the programs;
* `anyAdapter` : an adapter that makes any calls of the receipt journal and ends in any way;
* `DemoCall`, `serve` : the calls of a client.
-/

namespace RouteGuard.Demo
open JsString Json Guarded

/-! ## Requests -/

def FORBIDDEN_NETWORK_FIELDS : List JsString :=
  ["amount", "amountAtomic", "token", "tokenId", "recipient", "payTo", "winner", "winnerAccount", "account", "accountId",
   "address", "contract", "contractId", "contractAddress", "topic", "topicId", "network", "allowance", "allowanceAmount",
   "settlementAmount", "privateKey", "mnemonic"].map js

/-- `/^[a-zA-Z0-9][a-zA-Z0-9._:-]{0,127}$/`. -/
def isActionId : JsString → Bool
  | [] => false
  | u :: rest =>
    let alphanumeric (u : UInt16) : Bool := (0x30 ≤ u && u ≤ 0x39) || (0x41 ≤ u && u ≤ 0x5A) || (0x61 ≤ u && u ≤ 0x7A)
    rest.length ≤ 127 && alphanumeric u && rest.all fun v => alphanumeric v || v ∈ js "._:-"

mutual

/-- The first server-controlled field of a payload, in the order of the inspection. Arrays are not looked into. -/
def forbiddenField : Json → Option JsString
  | .obj fields => forbiddenFieldIn fields
  | _ => none

def forbiddenFieldIn : List (JsString × Json) → Option JsString
  | [] => none
  | (key, nested) :: rest =>
    if key ∈ FORBIDDEN_NETWORK_FIELDS then some key else (forbiddenField nested).or (forbiddenFieldIn rest)

end

def assertSafeActionRequest (request : DemoActionRequest) : Except DemoThrown Unit := do
  require (isActionId request.actionId) (.demo .demoActionConflict (js "actionId is invalid"))
  require (8 ≤ request.idempotencyKey.length ∧ request.idempotencyKey.length ≤ 256)
    (.demo .demoActionConflict (js "idempotencyKey is invalid"))
  match forbiddenField request.payload with
  | some key => .error (.demo .demoActionConflict (key ++ js " is server-controlled"))
  | none => pure ()

def actionIdentityHash (sha256Hex : JsString → JsString) (request : DemoActionRequest) : JsString :=
  canonicalSha256 sha256Hex
    (.obj
      [(js "action", .str request.action.text), (js "actionId", .str request.actionId),
       (js "idempotencyKey", .str request.idempotencyKey), (js "payload", request.payload)])

/-! ## The awaited calls -/

structure ActiveLiveRecord where
  sessionId : JsString
  idleExpiresAt : Int
  absoluteExpiresAt : Int
  deriving DecidableEq, Repr

def ActiveLiveRecord.expiresAt (record : ActiveLiveRecord) : Int := min record.idleExpiresAt record.absoluteExpiresAt

/-- The identity of a new session, as far as it is read here. -/
structure DemoIdentity where
  sessionId : JsString
  tenderId : JsString
  deriving DecidableEq, Repr

/-- The calls of the orchestrator and of the live adapter. -/
inductive DemoOp where
  | get (sessionId : JsString)
  | now
  | mutate (sessionId : JsString) (change : SessionChange)
  | create (session : OperationsDemoSession)
  | activeLive
  | newIdentity
  | dailySuccessfulWrites
  | recordDailyWriteSuccess (count : Nat)
  /-- The pod workflow: `buildSubmission` and `submitPod`, or the like for the other two actions. -/
  | podService (session : OperationsDemoSession) (request : DemoActionRequest)
  /-- `adapter.execute` is invoked. -/
  | execute (session : OperationsDemoSession) (request : DemoActionRequest) (intendedState : DemoWorkflowState)
      (podResult : Option Json)
  /-- The `submit` callback of a sub-step reaches the network. -/
  | submit (actionId subStep : JsString)
  /-- The `verify` callback of a sub-step. -/
  | verifyOnMirror (actionId subStep transactionId : JsString)
  /-- Anything else an adapter awaits. -/
  | elsewhere

/-- The answers. An invoked adapter answers with what it will do: the journal writes it makes, and how it ends. -/
def DemoOp.Ans : DemoOp → Type
  | .get _ => Except DemoThrown (Option OperationsDemoSession)
  | .now => Int
  | .mutate .. => Except DemoThrown OperationsDemoSession
  | .create _ => Except DemoThrown Unit
  | .activeLive => Except DemoThrown (Option ActiveLiveRecord)
  | .newIdentity => DemoIdentity
  | .dailySuccessfulWrites => Except DemoThrown Nat
  | .recordDailyWriteSuccess _ => Except DemoThrown Unit
  | .podService .. => Except DemoThrown Json
  | .execute .. => List JournalChange × Except DemoThrown AdapterActionResult
  | .submit .. => Except DemoThrown (JsString × Option Nat)
  | .verifyOnMirror .. => Except DemoThrown JsString
  | .elsewhere => Except DemoThrown Unit

abbrev DemoM (α : Type) := ExceptT DemoThrown (Prog DemoOp DemoOp.Ans) α

namespace DemoM

def get (sessionId : JsString) : DemoM (Option OperationsDemoSession) :=
  ExceptT.mk (Prog.perform (DemoOp.get sessionId))

def now : DemoM Int := ExceptT.lift (Prog.perform DemoOp.now)

def mutate (sessionId : JsString) (change : SessionChange) : DemoM OperationsDemoSession :=
  ExceptT.mk (Prog.perform (DemoOp.mutate sessionId change))

def create (session : OperationsDemoSession) : DemoM Unit := ExceptT.mk (Prog.perform (DemoOp.create session))

def activeLive : DemoM (Option ActiveLiveRecord) := ExceptT.mk (Prog.perform DemoOp.activeLive)

def newIdentity : DemoM DemoIdentity := ExceptT.lift (Prog.perform DemoOp.newIdentity)

def dailySuccessfulWrites : DemoM Nat := ExceptT.mk (Prog.perform DemoOp.dailySuccessfulWrites)

def recordDailyWriteSuccess (count : Nat) : DemoM Unit :=
  ExceptT.mk (Prog.perform (DemoOp.recordDailyWriteSuccess count))

def podService (session : OperationsDemoSession) (request : DemoActionRequest) : DemoM Json :=
  ExceptT.mk (Prog.perform (DemoOp.podService session request))

def execute (session : OperationsDemoSession) (request : DemoActionRequest) (intendedState : DemoWorkflowState)
    (podResult : Option Json) : DemoM (List JournalChange × Except DemoThrown AdapterActionResult) :=
  ExceptT.lift (Prog.perform (DemoOp.execute session request intendedState podResult))

/-- A write of the journal, whatever comes of it. -/
def journal (sessionId : JsString) (change : JournalChange) : DemoM Unit := do
  let _ ← (ExceptT.lift (Prog.perform (DemoOp.mutate sessionId (.journal change))) :
    DemoM (Except DemoThrown OperationsDemoSession))
  pure ()

end DemoM

/-! ## The programs -/

/-- What the orchestrator is built with. -/
structure DemoDeps where
  config : OperationsDemoConfig
  liveEnabled : Bool
  /-- The code and reason of a disabled live mode. -/
  liveDisabledCode : DemoErrorCode
  liveAdapter : Bool
  podWorkflow : Bool
  adminTokenMatches : Option JsString → Bool
  sha256Hex : JsString → JsString

/-- An adapter as `act` sees it. -/
abbrev Adapter :=
  OperationsDemoSession → DemoActionRequest → DemoWorkflowState → Option Json → DemoM AdapterActionResult

def getSession (sessionId : JsString) : DemoM OperationsDemoSession := do
  match ← DemoM.get sessionId with
  | none => throw (.demo .demoSessionNotFound (js "session not found"))
  | some session =>
    if session.workflowState.isTerminal then pure session
    else
      let now ← DemoM.now
      if now < session.expiresAt then pure session else DemoM.mutate sessionId .expire

/-- The actions that go through the pod workflow in live mode. -/
def usesPodWorkflow (session : OperationsDemoSession) (request : DemoActionRequest) : Bool :=
  session.mode = .live && request.action ∈ [.submitPod, .runAdvisory, .acceptPod]

def podResult (deps : DemoDeps) (session : OperationsDemoSession) (request : DemoActionRequest) :
    DemoM (Option Json) :=
  if usesPodWorkflow session request then
    if deps.podWorkflow then some <$> DemoM.podService session request
    else throw (.demo .demoInfrastructurePending (js "direct POD service composition is pending"))
  else pure none

/-- The body of the `try`: execute and commit. -/
def executeAndCommit (deps : DemoDeps) (adapter : Adapter) (sessionId : JsString) (session : OperationsDemoSession)
    (request : DemoActionRequest) (identityHash : JsString) (intendedState : DemoWorkflowState) :
    DemoM DemoActionResult := do
  let pod ← podResult deps session request
  let executed ← adapter session request intendedState pod
  let committed ← DemoM.mutate sessionId (.commit request identityHash intendedState executed)
  if 0 < executed.writes then DemoM.recordDailyWriteSuccess executed.writes
  match committed.actionResults.read request.actionId with
  | .value result => pure result.response
  | _ => throw .other

/-- The rest of `act` once the action is in flight. -/
def runReserved (deps : DemoDeps) (adapter : Adapter) (sessionId : JsString) (session : OperationsDemoSession)
    (request : DemoActionRequest) (identityHash : JsString) (intendedState : DemoWorkflowState) :
    DemoM DemoActionResult :=
  if session.mode = .simulation ∨ deps.liveAdapter then
    tryCatch (executeAndCommit deps adapter sessionId session request identityHash intendedState) fun error => do
      let _ ← DemoM.mutate sessionId (.fail request error)
      throw error
  else throw (.demo .demoInfrastructurePending (js "live adapter infrastructure is pending"))

/-- The state a transition is checked from. -/
def OperationsDemoSession.transitionState (session : OperationsDemoSession) : DemoWorkflowState :=
  if session.workflowState = .failed then session.lastConfirmedState else session.workflowState

def act (deps : DemoDeps) (adapter : Adapter) (sessionId : JsString) (request : DemoActionRequest) :
    DemoM DemoActionResult := do
  assertSafeActionRequest request
  let session ← getSession sessionId
  if session.mode = .replay then throw (.demo .demoActionNotAllowed (js "replay is immutable"))
  else
    let identityHash := actionIdentityHash deps.sha256Hex request
    match session.actionResults.read request.actionId with
    | .value prior =>
      if prior.identityHash = identityHash then pure prior.response
      else throw (.demo .demoActionConflict (js "action identity conflicts with the committed action"))
    | .inherited => throw (.demo .demoActionConflict (js "action identity conflicts with the committed action"))
    | .undefined =>
      let intendedState ← (transitionFor session.transitionState request.action : Except DemoThrown _)
      let session ← DemoM.mutate sessionId (.reserve request identityHash)
      match session.actionResults.read request.actionId with
      | .value committed => pure committed.response
      | _ => runReserved deps adapter sessionId session request identityHash intendedState

/-- An adapter that makes any writes of the journal and ends in any way. -/
def anyAdapter : Adapter := fun session request intendedState pod => do
  let (work, outcome) ← DemoM.execute session request intendedState pod
  work.forM (DemoM.journal session.sessionId)
  (outcome : Except DemoThrown AdapterActionResult)

/-! ## Creating a session -/

/-- `LIVE_PROJECTED_WRITES`. -/
def LIVE_PROJECTED_WRITES : Nat := 12

/-- `new WriteBudget(..)`, with its checks, and its snapshot. -/
def newWriteBudget (projected perSessionCeiling daily dailyCeiling : Nat) : Except DemoThrown WriteBudgetSnapshot := do
  require (projected ≤ perSessionCeiling) .other
  require (daily + projected ≤ dailyCeiling) .other
  pure ⟨projected, 0, 0, none, perSessionCeiling, daily, dailyCeiling⟩

/-- `initialSession` for a fresh identity. -/
def initialSession (deps : DemoDeps) (mode : DemoMode) (sessionId : JsString) (now eventTime : Int)
    (writeBudget : WriteBudgetSnapshot) (evidenceHashes : List JsString) : OperationsDemoSession :=
  let base : OperationsDemoSession :=
    { recordVersion := 1, sessionId := sessionId, mode := mode, workflowState := .created,
      lastConfirmedState := .created, progress := .ready, updatedAt := now,
      idleExpiresAt := addMinutes now deps.config.idleTtlMinutes,
      absoluteExpiresAt := addMinutes now deps.config.absoluteTtlMinutes, writesUsed := 0, writeBudget := writeBudget,
      availableActions := [.fundEscrow], transactions := [], hcsSequences := [], escrowState := .unfunded,
      lockedAmountAtomic := js "0", publicEvidenceHashes := evidenceHashes, recoverableError := none,
      operatorRecoveryRequired := false, inFlightActionId := none, steps := [], events := [], actionResults := ∅ }
  base.withEvent .sessionSnapshot [(js "workflowState", .str base.workflowState.text), (js "mode", .str mode.text)]
    eventTime

/-- The replay of the completed proof, whose sequence numbers and evidence hash are given. -/
def replaySession (session : OperationsDemoSession) (hcsSequences : List Nat) (evidenceHash : JsString) :
    OperationsDemoSession :=
  { session with
    workflowState := .completed, lastConfirmedState := .completed, progress := .confirmed, availableActions := [],
    hcsSequences := hcsSequences, escrowState := .released, lockedAmountAtomic := js "0",
    publicEvidenceHashes := session.publicEvidenceHashes ++ [evidenceHash] }

/-- The checks of a live creation. -/
def assertLiveAllowed (deps : DemoDeps) (adminToken : Option JsString) : Except DemoThrown Unit := do
  require deps.liveEnabled (.demo deps.liveDisabledCode (js "live Operations Demo is disabled"))
  require deps.liveAdapter (.demo .demoInfrastructurePending (js "live adapter infrastructure is pending"))
  require (deps.adminTokenMatches adminToken) (.demo .demoAdminRequired (js "live demo authorization is required"))

/-- The evidence the replay proof brings. -/
structure ReplayProof where
  hcsSequences : List Nat
  evidenceHash : JsString

/-- The evidence hashes of a new session: its identity under three domains. -/
def creationEvidence (deps : DemoDeps) (identity : DemoIdentity) : List JsString :=
  ["ROUTEGUARD_DEMO_CREATION", "ROUTEGUARD_DEMO_ALLOCATION", "ROUTEGUARD_DEMO_RELEASE"].map fun domain =>
    canonicalSha256 deps.sha256Hex
      (.obj
        [(js "domain", .str (js domain)), (js "sessionId", .str identity.sessionId),
         (js "tenderId", .str identity.tenderId), (js "tenderVersion", .num 1)])

def createSession (deps : DemoDeps) (proof : ReplayProof) (mode : DemoMode) (adminToken : Option JsString) :
    DemoM OperationsDemoSession := do
  (if mode = .live then assertLiveAllowed deps adminToken else pure () : Except DemoThrown Unit)
  let now ← DemoM.now
  let identity ← DemoM.newIdentity
  let daily ← DemoM.dailySuccessfulWrites
  let budget ←
    (newWriteBudget (if mode = .live then LIVE_PROJECTED_WRITES else 0) deps.config.maxWritesPerSession daily
      deps.config.maxWritesPerDay : Except DemoThrown WriteBudgetSnapshot)
  let eventTime ← DemoM.now
  let session := initialSession deps mode identity.sessionId now eventTime budget (creationEvidence deps identity)
  let session := if mode = .replay then replaySession session proof.hcsSequences proof.evidenceHash else session
  DemoM.create session
  pure session

/-! ## The calls of a client -/

inductive DemoCall where
  | act (sessionId : JsString) (request : DemoActionRequest)
  | getSession (sessionId : JsString)
  | createSession (mode : DemoMode) (adminToken : Option JsString)
  | activeLive

inductive DemoReply where
  | result (result : DemoActionResult)
  | session (session : OperationsDemoSession)
  | active (record : Option ActiveLiveRecord)

def serve (deps : DemoDeps) (proof : ReplayProof) (adapter : Adapter) : DemoCall → DemoM DemoReply
  | .act sessionId request => .result <$> act deps adapter sessionId request
  | .getSession sessionId => .session <$> getSession sessionId
  | .createSession mode adminToken => .session <$> createSession deps proof mode adminToken
  | .activeLive => .active <$> DemoM.activeLive

end RouteGuard.Demo
