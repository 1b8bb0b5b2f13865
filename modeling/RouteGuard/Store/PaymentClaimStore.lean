import RouteGuard.Domain.CanonicalHash
import RouteGuard.Lib.Guarded

/-!
# The payment-claim journal

One claim per protected action, in a list that is only appended to and updated in place.

* `acquireIn` : create the claim of an action, or find it again under the same binding;
* `transitionIn` : move a claim from one of the expected states; a claim that is already in the target
  state is returned as it is.
-/

namespace RouteGuard
open JsString Json Guarded

inductive AccessActionType where
  | tenderActivate | bidSubmit
  deriving DecidableEq, Repr

def AccessActionType.text : AccessActionType → JsString
  | .tenderActivate => js "TENDER_ACTIVATE"
  | .bidSubmit => js "BID_SUBMIT"

namespace Store

inductive PaymentClaimState where
  | claimed | settling | settledPendingCommit | committed | failed
  deriving DecidableEq, Repr

structure PaymentClaimBinding where
  actionType : AccessActionType
  actionId : JsString
  tenderId : JsString
  tenderVersion : Nat
  bidId : Option JsString
  payerAccount : JsString
  payTo : JsString
  asset : JsString
  amountAtomic : JsString
  resource : JsString
  paymentPayloadHash : JsString
  requestHash : JsString
  deriving DecidableEq, Repr

/-- A settled access payment, ready to be committed durably. -/
structure SettledAccessPayment where
  transactionId : JsString
  payerAccount : JsString
  payTo : JsString
  asset : JsString
  amountAtomic : JsString
  resource : JsString
  paymentPayloadHash : JsString
  consensusTimestamp : JsString
  settledAt : JsString
  deriving DecidableEq, Repr

inductive PaymentClaimResultKind where
  | tenderActivation | carrierBid
  deriving DecidableEq, Repr

structure PaymentClaimResultRef where
  kind : PaymentClaimResultKind
  tenderId : JsString
  tenderVersion : Nat
  bidId : Option JsString
  actionId : JsString
  deriving DecidableEq, Repr

structure PaymentClaim where
  claimVersion : Nat
  binding : PaymentClaimBinding
  state : PaymentClaimState
  settlement : Option SettledAccessPayment
  resultRef : Option PaymentClaimResultRef
  failureCode : Option JsString
  retryable : Option Bool
  createdAt : JsString
  updatedAt : JsString
  deriving DecidableEq, Repr

inductive PaymentClaimStoreErrorCode where
  | paymentClaimConflict | paymentAlreadyUsed | paymentRecoveryFailed
  deriving DecidableEq, Repr

structure PaymentClaimStoreError where
  code : PaymentClaimStoreErrorCode
  message : String
  deriving DecidableEq, Repr

inductive AcquireOutcome where
  | created | existing
  deriving DecidableEq, Repr

structure AcquirePaymentClaimResult where
  claim : PaymentClaim
  outcome : AcquireOutcome
  deriving DecidableEq, Repr

/-- The argument of `transition`. -/
structure TransitionInput where
  actionId : JsString
  fromStates : List PaymentClaimState
  toState : PaymentClaimState
  now : JsString
  settlement : Option SettledAccessPayment := none
  resultRef : Option PaymentClaimResultRef := none
  failureCode : Option JsString := none
  retryable : Option Bool := none
  deriving DecidableEq, Repr

abbrev ClaimJournal := List PaymentClaim

/-- The claim of an action. -/
def getByActionId (claims : ClaimJournal) (actionId : JsString) : Option PaymentClaim :=
  claims.find? fun claim => claim.binding.actionId = actionId

def PaymentClaimBinding.toJson (b : PaymentClaimBinding) : Json :=
  .obj
    [(js "actionType", .str b.actionType.text), (js "actionId", .str b.actionId),
     (js "tenderId", .str b.tenderId), (js "tenderVersion", .num b.tenderVersion),
     (js "bidId", Json.ofOption .str b.bidId), (js "payerAccount", .str b.payerAccount),
     (js "payTo", .str b.payTo), (js "asset", .str b.asset), (js "amountAtomic", .str b.amountAtomic),
     (js "resource", .str b.resource), (js "paymentPayloadHash", .str b.paymentPayloadHash),
     (js "requestHash", .str b.requestHash)]

def createClaim (binding : PaymentClaimBinding) (now : JsString) : PaymentClaim where
  claimVersion := 1
  binding := binding
  state := .claimed
  settlement := none
  resultRef := none
  failureCode := none
  retryable := none
  createdAt := now
  updatedAt := now

section Journal
variable (sha256Hex : JsString → JsString)

def sameBinding (a b : PaymentClaimBinding) : Bool :=
  canonicalSha256 sha256Hex a.toJson = canonicalSha256 sha256Hex b.toJson

def acquireIn (claims : ClaimJournal) (binding : PaymentClaimBinding) (now : JsString) :
    Except PaymentClaimStoreError (AcquirePaymentClaimResult × ClaimJournal) :=
  match getByActionId claims binding.actionId with
  | some action => do
    require (sameBinding sha256Hex action.binding binding)
      ⟨.paymentClaimConflict, "actionId is bound to a different payment claim"⟩
    pure (⟨action, .existing⟩, claims)
  | none => do
    require (¬ claims.any fun claim => claim.binding.paymentPayloadHash = binding.paymentPayloadHash)
      ⟨.paymentAlreadyUsed, "payment payload is already claimed by another action"⟩
    let claim := createClaim binding now
    pure (⟨claim, .created⟩, claims ++ [claim])

end Journal

/-- The claim after an applied transition. -/
def PaymentClaim.advance (current : PaymentClaim) (input : TransitionInput) : PaymentClaim :=
  { current with
    claimVersion := current.claimVersion + 1
    state := input.toState
    settlement := input.settlement.or current.settlement
    resultRef := input.resultRef.or current.resultRef
    failureCode := input.failureCode.or current.failureCode
    retryable := input.retryable.or current.retryable
    updatedAt := input.now }

/-- Another claim carries the settlement already. -/
def settlementTaken (claims : ClaimJournal) (index : Nat) : Option SettledAccessPayment → Bool
  | some settlement =>
    (claims.eraseIdx index).any fun claim =>
      claim.settlement.map SettledAccessPayment.transactionId = some settlement.transactionId
  | none => false

def transitionIn (claims : ClaimJournal) (input : TransitionInput) :
    Except PaymentClaimStoreError (PaymentClaim × ClaimJournal) :=
  let index := claims.findIdx fun claim => claim.binding.actionId = input.actionId
  match claims[index]? with
  | none => .error ⟨.paymentRecoveryFailed, "payment claim was not found"⟩
  | some current =>
    if current.state ∉ input.fromStates then
      if current.state = input.toState then .ok (current, claims)
      else .error ⟨.paymentRecoveryFailed, "payment claim state changed concurrently"⟩
    else do
      require (¬ settlementTaken claims index input.settlement)
        ⟨.paymentAlreadyUsed, "settlement is already bound to another action"⟩
      let next := current.advance input
      pure (next, claims.set index next)

/-! ## What the two mutations do to the claim of an action -/

theorem getByActionId_append (claims : ClaimJournal) (claim : PaymentClaim) (a : JsString) :
    getByActionId (claims ++ [claim]) a =
      (getByActionId claims a).or (if claim.binding.actionId = a then some claim else none) := by
  unfold getByActionId
  rw [List.find?_append]
  by_cases h : claim.binding.actionId = a <;> simp [h]

/-- The claim an index search finds is the one `getByActionId` finds. -/
theorem getElem?_findIdx (claims : ClaimJournal) (a : JsString) :
    claims[claims.findIdx fun claim => claim.binding.actionId = a]? = getByActionId claims a := by
  unfold getByActionId
  induction claims with
  | nil => rfl
  | cons c rest ih =>
    rw [List.findIdx_cons, List.find?_cons]
    by_cases h : c.binding.actionId = a
    · simp [h]
    · simpa [h] using ih

theorem getByActionId_set {claims : ClaimJournal} {a : JsString} {current next : PaymentClaim}
    (hcurrent : getByActionId claims a = some current) (hnext : next.binding = current.binding)
    (b : JsString) :
    getByActionId (claims.set (claims.findIdx fun claim => claim.binding.actionId = a) next) b =
      if b = a then some next else getByActionId claims b := by
  unfold getByActionId at *
  induction claims with
  | nil => cases hcurrent
  | cons c rest ih =>
    rw [List.find?_cons] at hcurrent
    rw [List.findIdx_cons]
    by_cases hc : c.binding.actionId = a
    · simp only [hc, decide_true, Option.some.injEq] at hcurrent
      subst hcurrent
      by_cases hb : b = a
      · simp [hc, hnext, hb]
      · simp [hc, hnext, hb, Ne.symm hb]
    · simp only [hc, decide_false] at hcurrent
      have := ih hcurrent
      by_cases hb : c.binding.actionId = b
      · have hba : b ≠ a := fun h => hc (hb.trans h)
        simp [hb, hba]
      · simpa [hc, hb] using this

theorem acquireIn_ok {sha256Hex : JsString → JsString} {claims claims' : ClaimJournal}
    {binding : PaymentClaimBinding} {now : JsString} {result : AcquirePaymentClaimResult}
    (h : acquireIn sha256Hex claims binding now = .ok (result, claims')) :
    claims' = claims ∨
      (getByActionId claims binding.actionId = none ∧ claims' = claims ++ [createClaim binding now]) := by
  unfold acquireIn at h
  split at h
  · simp only [bind_eq_ok, require_eq_ok, exists_const, pure_eq_ok, Prod.mk.injEq] at h
    exact .inl h.2.2.symm
  · next hnone =>
    simp only [bind_eq_ok, require_eq_ok, exists_const, pure_eq_ok, Prod.mk.injEq] at h
    exact .inr ⟨hnone, h.2.2.symm⟩

/-- An applied transition advances the claim of its action and no other; a transition whose target is
already reached changes nothing. -/
theorem transitionIn_ok {claims claims' : ClaimJournal} {input : TransitionInput} {claim : PaymentClaim}
    (h : transitionIn claims input = .ok (claim, claims')) :
    ∃ current, getByActionId claims input.actionId = some current ∧
      ((current.state ∉ input.fromStates ∧ current.state = input.toState ∧ claims' = claims) ∨
        (current.state ∈ input.fromStates ∧ ∀ a, getByActionId claims' a =
          if a = input.actionId then some (current.advance input) else getByActionId claims a)) := by
  simp only [transitionIn, getElem?_findIdx] at h
  split at h
  · cases h
  · next current hcurrent =>
    refine ⟨current, hcurrent, ?_⟩
    split at h
    · next hstate =>
      split at h
      · next hto =>
        cases h
        exact .inl ⟨hstate, hto, rfl⟩
      · cases h
    · next hstate =>
      simp only [bind_eq_ok, require_eq_ok, exists_const, pure_eq_ok, Prod.mk.injEq] at h
      obtain ⟨-, -, rfl⟩ := h
      exact .inr ⟨not_not.mp hstate, getByActionId_set hcurrent rfl⟩

end Store

end RouteGuard
