import RouteGuard.Escrow.Plans
import RouteGuard.Pod.EscrowAuthorization

/-!
# Escrow plans of a reviewed POD

An acceptance releases the escrow and a rejection opens a dispute. The plan is bound to the contract, the tender and the
POD; for the live tender the bindings are compared with fixed ones.

* `BoundEscrowPlan` : a transaction plan and what it is bound to;
* `buildBoundReleaseFullPlan`, `buildBoundOpenDisputePlan` : the two builders;
* `buildBoundPlan_iff` : when a plan is built.
-/

namespace RouteGuard.Pod
open JsString Guarded Escrow

def PHASE_C2_ESCROW_CONTRACT_ID : JsString := js "0.0.9861047"

def PHASE_C2_ESCROW_CONTRACT_EVM : JsString := js "0x00000000000000000000000000000000009677b7"

def PHASE_C2_LOCKED_AMOUNT_ATOMIC : JsString := js "750000"

inductive BoundPlanKind where
  | RELEASE_FULL | OPEN_DISPUTE
  deriving DecidableEq, Repr

structure BoundEscrowPlan where
  plan : EscrowTransactionPlan
  contractId : JsString
  contractEvmAddress : JsString
  tenderId : JsString
  tenderVersion : Int
  tenderKey : JsString
  lockedAmountAtomic : JsString
  authorizationHash : JsString
  podId : JsString
  podVersion : Int
  kind : BoundPlanKind
  deriving DecidableEq, Repr

structure BoundPlanInput where
  tenderId : JsString
  tenderVersion : Int
  tenderKey : JsString
  podId : JsString
  podVersion : Int
  lockedAmountAtomic : JsString
  authorizationHash : JsString
  contractId : JsString
  contractEvmAddress : JsString
  requirePhaseC2LiveBindings : Bool
  deriving DecidableEq, Repr

/-- What a bound builder throws: an error of its own, or of the plan builder it calls. -/
inductive BoundPlanError where
  | pod (e : PodError)
  | plan (e : PlanError)
  deriving DecidableEq, Repr

def bindingFailed (message : String) : BoundPlanError := .pod ⟨.ESCROW_PLAN_BINDING_FAILED, js message⟩

section Builders
variable (p : Platform) (ethers : Ethers)

/-- The bindings of the live tender; the amount is compared for a release only. -/
def LiveBindings (kind : BoundPlanKind) (contractId contractEvmAddress lockedAmountAtomic : JsString) : Prop :=
  contractId = PHASE_C2_ESCROW_CONTRACT_ID ∧
    p.toLowerCase contractEvmAddress = p.toLowerCase PHASE_C2_ESCROW_CONTRACT_EVM ∧
    (kind = .RELEASE_FULL → lockedAmountAtomic = PHASE_C2_LOCKED_AMOUNT_ATOMIC)

/-- The input has the bindings of the live tender, where they are asked for. -/
def BoundPlanInput.Bound (kind : BoundPlanKind) (input : BoundPlanInput) : Prop :=
  input.requirePhaseC2LiveBindings →
    LiveBindings p kind input.contractId input.contractEvmAddress input.lockedAmountAtomic

def requireLiveBindings (kind : BoundPlanKind) (input : BoundPlanInput) : Except BoundPlanError Unit := do
  require (input.contractId = PHASE_C2_ESCROW_CONTRACT_ID) (bindingFailed "contract id mismatch")
  require (p.toLowerCase input.contractEvmAddress = p.toLowerCase PHASE_C2_ESCROW_CONTRACT_EVM)
    (bindingFailed "contract EVM mismatch")
  require (kind = .RELEASE_FULL → input.lockedAmountAtomic = PHASE_C2_LOCKED_AMOUNT_ATOMIC)
    (bindingFailed "locked amount mismatch")

/-- The common body of the two builders. A release also checks a marker that every plan has. -/
def buildBoundPlan (kind : BoundPlanKind)
    (buildPlan : JsString → Int → JsString → Except PlanError EscrowTransactionPlan) (input : BoundPlanInput) :
    Except BoundPlanError BoundEscrowPlan := do
  provided input.requirePhaseC2LiveBindings (requireLiveBindings p kind input)
  let authorizationHash ← (assertAuthorizationHash input.authorizationHash (js "authorizationHash")).mapError
    fun _ => bindingFailed "authorization hash invalid"
  let plan ← (buildPlan input.tenderId input.tenderVersion authorizationHash).mapError .plan
  require (plan.tenderKey = input.tenderKey) (bindingFailed "tender key mismatch")
  pure
    { plan, contractId := input.contractId, contractEvmAddress := p.toLowerCase input.contractEvmAddress,
      tenderId := input.tenderId, tenderVersion := input.tenderVersion, tenderKey := input.tenderKey,
      lockedAmountAtomic := input.lockedAmountAtomic, authorizationHash, podId := input.podId,
      podVersion := input.podVersion, kind }

def buildBoundReleaseFullPlan : BoundPlanInput → Except BoundPlanError BoundEscrowPlan :=
  buildBoundPlan p .RELEASE_FULL (buildReleaseFullPlan ethers)

def buildBoundOpenDisputePlan : BoundPlanInput → Except BoundPlanError BoundEscrowPlan :=
  buildBoundPlan p .OPEN_DISPUTE (buildOpenDisputePlan ethers)

end Builders

/-! ## When a plan is built -/

section Built
variable {p : Platform} {ethers : Ethers} {kind : BoundPlanKind} {input : BoundPlanInput} {bound : BoundEscrowPlan}
  {buildPlan : JsString → Int → JsString → Except PlanError EscrowTransactionPlan}

theorem requireLiveBindings_eq_ok : requireLiveBindings p kind input = .ok () ↔
    LiveBindings p kind input.contractId input.contractEvmAddress input.lockedAmountAtomic := by
  simp only [requireLiveBindings, LiveBindings, check_eq_ok, require_eq_ok]

theorem simpleAuthorizedPlan_eq_ok {operation : EscrowOperation} {contractFunction functionSignature tenderId
    authorizationHash tenderKey : JsString} {tenderVersion : Int}
    (hkey : escrowTenderKey ethers tenderId tenderVersion = .ok tenderKey) (hhash : IsAuthorization authorizationHash) :
    ∃ plan, simpleAuthorizedPlan ethers operation contractFunction functionSignature tenderId tenderVersion
      authorizationHash = .ok plan ∧ plan.tenderKey = tenderKey := by
  obtain ⟨identity, hid, -⟩ := escrowTenderKey_eq_ok.mp hkey
  have hversion : assertTenderVersion tenderVersion = .ok tenderVersion := assertTenderVersion_eq_ok.mpr ⟨hid.version, rfl⟩
  have hauth : assertAuthorizationHash authorizationHash (js "authorizationHash") = .ok authorizationHash :=
    assertAuthorizationHash_eq_ok.mpr ⟨hhash, rfl⟩
  refine ⟨plan operation contractFunction functionSignature tenderKey .OPERATOR
    [.bytes32 tenderKey, .bytes32 authorizationHash], ?_, rfl⟩
  simp only [simpleAuthorizedPlan, bind_eq_ok, hversion, hkey, hauth, Except.ok.injEq, exists_eq_left', pure_eq_ok]

/-- A plan of a tender with an escrow key is built exactly when the authorization is one, and the live bindings hold
where they are asked for. -/
theorem buildBoundPlan_iff
    (hbuild : ∀ hash, IsAuthorization hash →
      ∃ plan, buildPlan input.tenderId input.tenderVersion hash = .ok plan ∧ plan.tenderKey = input.tenderKey) :
    (∃ bound, buildBoundPlan p kind buildPlan input = .ok bound) ↔
      input.Bound p kind ∧ IsAuthorization input.authorizationHash := by
  simp only [buildBoundPlan, BoundPlanInput.Bound, bind_eq_ok, exists_const, provided_eq_ok, requireLiveBindings_eq_ok,
    mapError_eq_ok, assertAuthorizationHash_eq_ok, require_eq_ok, pure_eq_ok]
  constructor
  · rintro ⟨_, hlive, _, ⟨hhash, -⟩, -⟩
    exact ⟨hlive, hhash⟩
  · rintro ⟨hlive, hhash⟩
    obtain ⟨plan, hplan, hkey⟩ := hbuild _ hhash
    exact ⟨_, hlive, _, ⟨hhash, rfl⟩, plan, hplan, hkey, rfl⟩

theorem buildBoundReleaseFullPlan_iff
    (hkey : escrowTenderKey ethers input.tenderId input.tenderVersion = .ok input.tenderKey) :
    (∃ bound, buildBoundReleaseFullPlan p ethers input = .ok bound) ↔
      input.Bound p .RELEASE_FULL ∧ IsAuthorization input.authorizationHash :=
  buildBoundPlan_iff fun _ hhash => simpleAuthorizedPlan_eq_ok hkey hhash

theorem buildBoundOpenDisputePlan_iff
    (hkey : escrowTenderKey ethers input.tenderId input.tenderVersion = .ok input.tenderKey) :
    (∃ bound, buildBoundOpenDisputePlan p ethers input = .ok bound) ↔
      input.Bound p .OPEN_DISPUTE ∧ IsAuthorization input.authorizationHash :=
  buildBoundPlan_iff fun _ hhash => simpleAuthorizedPlan_eq_ok hkey hhash

/-- The live bindings are compared, and leave no mark on the plan. -/
theorem buildBoundPlan_unchecked (h : buildBoundPlan p kind buildPlan input = .ok bound) :
    buildBoundPlan p kind buildPlan { input with requirePhaseC2LiveBindings := false } = .ok bound := by
  simp only [buildBoundPlan, check_eq_ok, provided_eq_ok] at h ⊢
  exact ⟨fun hlive => absurd hlive (by decide), h.2⟩

end Built

end RouteGuard.Pod
