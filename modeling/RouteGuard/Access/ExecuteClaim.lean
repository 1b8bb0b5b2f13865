import RouteGuard.Lib.Coroutine
import RouteGuard.Store.PaymentClaimStore

/-!
# Executing a payment claim

`executePaymentClaim` as a program whose every await is a call: the claim journal, the payment gate, the
reconciler, the lifecycle. Requests share the journal and interleave at their awaits.

* `ClaimOp` : the awaited calls;
* `executePaymentClaim` : the request, branch by branch;
* `ClaimEffect` : what a call may answer and what it does to the shared world;
* `claimSystem` : any number of requests, started and lost at any await.
-/

namespace RouteGuard.Access
open JsString Store

/-- The codes with which a request fails in its own name. -/
inductive V2AccessErrorCode where
  | paymentRequired | actionIdConflict | paymentRecoveryFailed | paymentSettlementFailed
  | paymentSettlementUnknown | paymentClaimConflict | resourceCommitFailed
  deriving DecidableEq, Repr

inductive AccessPaymentErrorCode where
  | paymentInvalid | paymentSchemeMismatch | paymentNetworkMismatch | paymentAssetMismatch
  | paymentAmountMismatch | paymentRecipientMismatch | paymentResourceMismatch | paymentSettlementFailed
  deriving DecidableEq, Repr

def AccessPaymentErrorCode.text : AccessPaymentErrorCode → JsString
  | .paymentInvalid => js "PAYMENT_INVALID"
  | .paymentSchemeMismatch => js "PAYMENT_SCHEME_MISMATCH"
  | .paymentNetworkMismatch => js "PAYMENT_NETWORK_MISMATCH"
  | .paymentAssetMismatch => js "PAYMENT_ASSET_MISMATCH"
  | .paymentAmountMismatch => js "PAYMENT_AMOUNT_MISMATCH"
  | .paymentRecipientMismatch => js "PAYMENT_RECIPIENT_MISMATCH"
  | .paymentResourceMismatch => js "PAYMENT_RESOURCE_MISMATCH"
  | .paymentSettlementFailed => js "PAYMENT_SETTLEMENT_FAILED"

/-- What a request can throw: a `V2AccessError`, an `AccessPaymentError` of the gate, an error of the
claim store, or anything else. -/
inductive AccessError where
  | access (code : V2AccessErrorCode) (message : String)
  | payment (code : AccessPaymentErrorCode)
  | store (error : PaymentClaimStoreError)
  | other
  deriving DecidableEq, Repr

structure AccessActionBinding where
  actionType : AccessActionType
  tenderId : JsString
  tenderVersion : Nat
  bidId : Option JsString
  resource : JsString
  deriving DecidableEq, Repr

structure AccessConfig where
  accessTreasuryAccountId : JsString
  asset : JsString
  amountAtomic : JsString
  deriving DecidableEq, Repr

/-- A verified payment; `payload` is the header it was decoded from, the next three are the matched
payment requirements. -/
structure VerifiedAccessPayment where
  payload : JsString
  payTo : JsString
  asset : JsString
  amount : JsString
  payerAccount : JsString
  paymentPayloadHash : JsString
  binding : AccessActionBinding
  deriving DecidableEq, Repr

inductive PaymentReconciliationResult where
  | confirmed (settlement : SettledAccessPayment)
  | failed (failureCode : JsString)
  | unknown
  deriving DecidableEq, Repr

inductive PaymentRecoveryFaultBoundary where
  | afterClaimCreated | afterSettlement | beforeResourceCommit | afterResourceCommit
  | beforeClaimFinalization
  deriving DecidableEq, Repr

/-! ## The awaited calls -/

/-- The calls of a request. `C` is the protected write a commit applies. A settlement call names the
action it is made for. -/
inductive ClaimOp (C : Type) where
  | getByActionId (actionId : JsString)
  | verify (rawPayment : JsString) (binding : AccessActionBinding)
  | now
  | acquire (binding : PaymentClaimBinding) (now : JsString)
  | transition (input : TransitionInput)
  | paymentFault (boundary : PaymentRecoveryFaultBoundary) (claim : PaymentClaim)
  | reconcile (claim : PaymentClaim)
  | settleVerified (actionId : JsString) (verified : VerifiedAccessPayment)
  | getRecord (tenderId : JsString)
  | commit (write : C)

/-- The answers; `R` is a lifecycle record. Decoding the payment header is part of `verify`. -/
def ClaimOp.Ans (R C : Type) : ClaimOp C → Type
  | .getByActionId _ => Except AccessError (Option PaymentClaim)
  | .verify .. => Except AccessError VerifiedAccessPayment
  | .now => JsString
  | .acquire .. => Except AccessError AcquirePaymentClaimResult
  | .transition _ => Except AccessError PaymentClaim
  | .paymentFault .. => Except AccessError Unit
  | .reconcile _ => Except AccessError PaymentReconciliationResult
  | .settleVerified .. => Except AccessError SettledAccessPayment
  | .getRecord _ => Except AccessError (Option R)
  | .commit _ => Except AccessError R

structure ExecuteClaimInput (C : Type) where
  config : AccessConfig
  actionId : JsString
  binding : AccessActionBinding
  requestHash : JsString
  rawPayment : Option JsString
  commit : SettledAccessPayment → C
  resultRef : PaymentClaimResultRef

section Request
variable {R C : Type}

/-- A program of a request, before its result is taken apart. -/
abbrev ClaimProg (R C α : Type) := Prog (ClaimOp C) (ClaimOp.Ans R C) α

abbrev ClaimM (R C α : Type) := ExceptT AccessError (Prog (ClaimOp C) (ClaimOp.Ans R C)) α

namespace ClaimM

def getByActionId (actionId : JsString) : ClaimM R C (Option PaymentClaim) :=
  ExceptT.mk (Prog.perform (ClaimOp.getByActionId actionId))

def verify (rawPayment : JsString) (binding : AccessActionBinding) : ClaimM R C VerifiedAccessPayment :=
  ExceptT.mk (Prog.perform (ClaimOp.verify rawPayment binding))

def now : ClaimM R C JsString := ExceptT.lift (Prog.perform ClaimOp.now)

def acquire (binding : PaymentClaimBinding) (now : JsString) : ClaimM R C AcquirePaymentClaimResult :=
  ExceptT.mk (Prog.perform (ClaimOp.acquire binding now))

def transition (input : TransitionInput) : ClaimM R C PaymentClaim :=
  ExceptT.mk (Prog.perform (ClaimOp.transition input))

def paymentFault (boundary : PaymentRecoveryFaultBoundary) (claim : PaymentClaim) : ClaimM R C Unit :=
  ExceptT.mk (Prog.perform (ClaimOp.paymentFault boundary claim))

def reconcile (claim : PaymentClaim) : ClaimM R C PaymentReconciliationResult :=
  ExceptT.mk (Prog.perform (ClaimOp.reconcile claim))

/-- The settlement call with its outcome, for the `try` around it. -/
def settleVerified (actionId : JsString) (verified : VerifiedAccessPayment) :
    ClaimM R C (Except AccessError SettledAccessPayment) :=
  ExceptT.lift (Prog.perform (ClaimOp.settleVerified actionId verified))

def getRecord (tenderId : JsString) : ClaimM R C (Option R) :=
  ExceptT.mk (Prog.perform (ClaimOp.getRecord tenderId))

/-- The resource commit with its outcome, for the `try` around it. -/
def commit (write : C) : ClaimM R C (Except AccessError R) := ExceptT.lift (Prog.perform (ClaimOp.commit write))

end ClaimM

/-! ## The request -/

/-- The payment header, when there is one: an empty header counts as absent. -/
def ExecuteClaimInput.payment (input : ExecuteClaimInput C) : Option JsString :=
  input.rawPayment.filter (· ≠ [])

def fullClaimBinding (input : ExecuteClaimInput C) (verified : VerifiedAccessPayment) :
    PaymentClaimBinding where
  actionType := input.binding.actionType
  actionId := input.actionId
  tenderId := input.binding.tenderId
  tenderVersion := input.binding.tenderVersion
  bidId := input.binding.bidId
  payerAccount := verified.payerAccount
  payTo := input.config.accessTreasuryAccountId
  asset := input.config.asset
  amountAtomic := input.config.amountAtomic
  resource := input.binding.resource
  paymentPayloadHash := verified.paymentPayloadHash
  requestHash := input.requestHash

def assertClaimMatches (input : ExecuteClaimInput C) (claim : PaymentClaim) : Except AccessError Unit :=
  let b := claim.binding
  Guarded.require
    (b.actionType = input.binding.actionType ∧ b.actionId = input.actionId ∧
      b.tenderId = input.binding.tenderId ∧ b.tenderVersion = input.binding.tenderVersion ∧
      b.bidId = input.binding.bidId ∧ b.resource = input.binding.resource ∧
      b.requestHash = input.requestHash)
    (.access .actionIdConflict "actionId is bound to a different protected action")

def assertSettlementMatchesClaim (claim : PaymentClaim) (settlement : SettledAccessPayment) :
    Except AccessError Unit :=
  let b := claim.binding
  Guarded.require
    (settlement.payerAccount = b.payerAccount ∧ settlement.payTo = b.payTo ∧
      settlement.asset = b.asset ∧ settlement.amountAtomic = b.amountAtomic ∧
      settlement.resource = b.resource ∧ settlement.paymentPayloadHash = b.paymentPayloadHash)
    (.access .paymentRecoveryFailed "reconciled settlement does not match the durable claim")

variable (sha256Hex : JsString → JsString) (processed : R → JsString → Bool)

/-- The claim of the action: found, or acquired for a payment that verifies. -/
def findOrAcquire (input : ExecuteClaimInput C) :
    ClaimM R C (PaymentClaim × Option VerifiedAccessPayment) := do
  match ← ClaimM.getByActionId input.actionId with
  | some claim => pure (claim, none)
  | none =>
    match input.payment with
    | none => throw (.access .paymentRequired "payment is required")
    | some rawPayment =>
      let verified ← ClaimM.verify rawPayment input.binding
      let now ← ClaimM.now
      let acquired ← ClaimM.acquire (fullClaimBinding input verified) now
      if acquired.outcome = .created then
        ClaimM.paymentFault .afterClaimCreated acquired.claim
      pure (acquired.claim, some verified)

/-- The `COMMITTED` branch. -/
def committedRecord (claim : PaymentClaim) : ClaimM R C R := do
  match ← ClaimM.getRecord claim.binding.tenderId with
  | some record =>
    if processed record claim.binding.actionId then pure record
    else throw (.access .paymentRecoveryFailed "committed payment claim has no protected resource")
  | none => throw (.access .paymentRecoveryFailed "committed payment claim has no protected resource")

/-- The `SETTLING` branch: reconcile, never settle again. -/
def reconcileClaim (input : ExecuteClaimInput C) (claim : PaymentClaim) : ClaimM R C PaymentClaim := do
  match ← ClaimM.reconcile claim with
  | .unknown =>
    throw (.access .paymentSettlementUnknown "settlement outcome is unknown; reconciliation is required")
  | .failed failureCode =>
    let now ← ClaimM.now
    let _ ← ClaimM.transition
      { actionId := input.actionId, fromStates := [.settling], toState := .failed, now := now,
        failureCode := some failureCode, retryable := some false }
    throw (.access .paymentSettlementFailed "reconciliation confirmed settlement failure")
  | .confirmed settlement =>
    assertSettlementMatchesClaim claim settlement
    let now ← ClaimM.now
    ClaimM.transition
      { actionId := input.actionId, fromStates := [.settling], toState := .settledPendingCommit, now := now,
        settlement := some settlement }

/-- The payment of a `CLAIMED` claim: the one just verified, or the original one verified again. -/
def resumePayment (input : ExecuteClaimInput C) (claim : PaymentClaim) :
    Option VerifiedAccessPayment → ClaimM R C VerifiedAccessPayment
  | some verified => pure verified
  | none =>
    match input.payment with
    | none =>
      throw (.access .paymentRecoveryFailed "claimed payment requires the original payment for safe resume")
    | some rawPayment => do
      let verified ← ClaimM.verify rawPayment input.binding
      if sameBinding sha256Hex (fullClaimBinding input verified) claim.binding then pure verified
      else throw (.access .paymentClaimConflict "payment claim binding conflicts")

/-- The settlement call and what follows it. -/
def settleAndRecord (input : ExecuteClaimInput C) (claim : PaymentClaim)
    (verified : VerifiedAccessPayment) : ClaimM R C PaymentClaim := do
  match ← ClaimM.settleVerified input.actionId verified with
  | .error (.payment code) =>
    let now ← ClaimM.now
    let _ ← ClaimM.transition
      { actionId := input.actionId, fromStates := [.settling], toState := .failed, now := now,
        failureCode := some code.text, retryable := some false }
    throw (.payment code)
  | .error _ =>
    throw (.access .paymentSettlementUnknown "settlement outcome is unknown; reconciliation is required")
  | .ok settled =>
    assertSettlementMatchesClaim claim settled
    let now ← ClaimM.now
    let claim ← ClaimM.transition
      { actionId := input.actionId, fromStates := [.settling], toState := .settledPendingCommit, now := now,
        settlement := some settled }
    ClaimM.paymentFault .afterSettlement claim
    pure claim

/-- The transition that precedes a settlement call. -/
def startSettling (actionId now : JsString) : TransitionInput :=
  { actionId := actionId, fromStates := [.claimed], toState := .settling, now := now }

/-- The `CLAIMED` branch. -/
def settleClaim (input : ExecuteClaimInput C) (claim : PaymentClaim)
    (verified : Option VerifiedAccessPayment) : ClaimM R C PaymentClaim := do
  let verified ← resumePayment sha256Hex input claim verified
  let now ← ClaimM.now
  let claim ← ClaimM.transition (startSettling input.actionId now)
  settleAndRecord input claim verified

/-- The commit of a settled claim. -/
def commitClaim (input : ExecuteClaimInput C) (claim : PaymentClaim) : ClaimM R C R := do
  match claim.state, claim.settlement with
  | .settledPendingCommit, some settlement =>
    ClaimM.paymentFault .beforeResourceCommit claim
    match ← ClaimM.commit (input.commit settlement) with
    | .error (.access code message) => throw (.access code message)
    | .error _ => throw (.access .resourceCommitFailed "protected resource commit failed")
    | .ok record =>
      ClaimM.paymentFault .afterResourceCommit claim
      ClaimM.paymentFault .beforeClaimFinalization claim
      let now ← ClaimM.now
      let _ ← ClaimM.transition
        { actionId := input.actionId, fromStates := [.settledPendingCommit], toState := .committed, now := now,
          resultRef := some input.resultRef }
      pure record
  | _, _ => throw (.access .paymentRecoveryFailed "payment claim cannot be committed")

def executePaymentClaim (input : ExecuteClaimInput C) : ClaimM R C R := do
  let (claim, verified) ← findOrAcquire input
  assertClaimMatches input claim
  if claim.state = .committed then committedRecord processed claim
  else if claim.state = .failed then
    throw (.access (if claim.retryable = some true then .paymentRecoveryFailed else .paymentSettlementFailed)
      "payment claim is in a failed state")
  else
    let claim ← (if claim.state = .settling then reconcileClaim input claim else pure claim)
    let claim ← (if claim.state = .claimed then settleClaim sha256Hex input claim verified else pure claim)
    commitClaim input claim

/-! ## The shared world -/

/-- One call of `gate.settleVerified`. -/
structure SettleCall where
  actionId : JsString
  verified : VerifiedAccessPayment
  outcome : Except AccessError SettledAccessPayment

/-- What the requests share: the journal, and the settlement calls made so far. -/
structure ClaimWorld where
  journal : ClaimJournal
  settleCalls : List SettleCall

/-- A mutation of the journal. Besides its own result it may fail on the storage, before or after the
journal was replaced. -/
inductive StoreEffect {β : Type} (w : ClaimWorld) :
    Except PaymentClaimStoreError (β × ClaimJournal) → Except AccessError β → ClaimWorld → Prop
  | applied {b : β} {journal : ClaimJournal} :
      StoreEffect w (.ok (b, journal)) (.ok b) { w with journal := journal }
  | refused {e : PaymentClaimStoreError} : StoreEffect w (.error e) (.error (.store e)) w
  | failed {x : Except PaymentClaimStoreError (β × ClaimJournal)} : StoreEffect w x (.error .other) w
  | unacknowledged {b : β} {journal : ClaimJournal} :
      StoreEffect w (.ok (b, journal)) (.error .other) { w with journal := journal }

/-- A mutation that is answered with success was applied; any other was applied or not. -/
theorem StoreEffect.cases {β : Type} {w w' : ClaimWorld}
    {x : Except PaymentClaimStoreError (β × ClaimJournal)} {r : Except AccessError β}
    (h : StoreEffect w x r w') :
    (∃ b journal, x = .ok (b, journal) ∧ r = .ok b ∧ w' = { w with journal := journal }) ∨
      (∃ e, r = .error e) ∧ (w' = w ∨ ∃ b journal, x = .ok (b, journal) ∧ w' = { w with journal := journal }) := by
  cases h with
  | applied => exact .inl ⟨_, _, rfl, rfl, rfl⟩
  | refused => exact .inr ⟨⟨_, rfl⟩, .inl rfl⟩
  | failed => exact .inr ⟨⟨_, rfl⟩, .inl rfl⟩
  | unacknowledged => exact .inr ⟨⟨_, rfl⟩, .inr ⟨_, _, rfl, rfl⟩⟩

/-- The journal is what it was, or what the mutation made of it. -/
theorem StoreEffect.journal {β : Type} {w w' : ClaimWorld}
    {x : Except PaymentClaimStoreError (β × ClaimJournal)} {r : Except AccessError β}
    (h : StoreEffect w x r w') : w'.journal = w.journal ∨ ∃ b, x = .ok (b, w'.journal) := by
  rcases h.cases with ⟨b, journal, hx, -, rfl⟩ | ⟨-, rfl | ⟨b, journal, hx, rfl⟩⟩
  · exact .inr ⟨b, hx⟩
  · exact .inl rfl
  · exact .inr ⟨b, hx⟩

/-- What a call may answer and leave behind. The gate, the reconciler, the lifecycle and the clock
answer as they like. -/
def ClaimEffect (w : ClaimWorld) : (op : ClaimOp C) → ClaimOp.Ans R C op → ClaimWorld → Prop
  | .getByActionId actionId, r, w' =>
    (r = .ok (Store.getByActionId w.journal actionId) ∨ r = .error .other) ∧ w' = w
  | .acquire binding now, r, w' => StoreEffect w (acquireIn sha256Hex w.journal binding now) r w'
  | .transition input, r, w' => StoreEffect w (transitionIn w.journal input) r w'
  | .settleVerified actionId verified, r, w' =>
    w' = { w with settleCalls := w.settleCalls ++ [⟨actionId, verified, r⟩] }
  | .verify .., _, w' | .now, _, w' | .paymentFault .., _, w' | .reconcile _, _, w' | .getRecord _, _, w'
  | .commit _, _, w' => w' = w

/-- The start of the service over an empty journal. -/
def ClaimWorld.IsEmpty (w : ClaimWorld) : Prop := w.journal = [] ∧ w.settleCalls = []

abbrev ClaimPool (R C : Type) := Pool ClaimWorld (ClaimOp C) (ClaimOp.Ans R C) (Except AccessError R)

abbrev ClaimLabel (R C : Type) := PoolLabel (ExecuteClaimInput C) (ClaimOp C) (ClaimOp.Ans R C)

/-- Any number of requests over one journal. -/
def claimSystem : System (ClaimPool R C) (ClaimLabel R C) :=
  poolSystem (fun input => (executePaymentClaim sha256Hex processed input).run) (ClaimEffect sha256Hex)
    ClaimWorld.IsEmpty

/-- The settlement calls made for an action. -/
def settleCount (actionId : JsString) (w : ClaimWorld) : Nat :=
  w.settleCalls.countP fun c => c.actionId = actionId

end Request

end RouteGuard.Access
