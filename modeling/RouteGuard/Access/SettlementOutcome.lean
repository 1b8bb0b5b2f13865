import RouteGuard.Lib.Monitor
import RouteGuard.Access.Settlement
import RouteGuard.Domain.PaymentOption
import RouteGuard.Domain.Time

/-!
# What a request is told about the money

`X402AccessGate.settleVerified` throws the same class of error when the facilitator reports a settlement as
unsuccessful and when the report of a successful one does not pass a later check. `executePaymentClaim` moves the claim
to `FAILED` on either.

* `settleVerified` : the gate over the answer of the facilitator;
* `settlementSystem` : the requests of `executePaymentClaim` with the gate inside;
* `Phase` : what a request has been told about the money so far, `moneyWatch` the monitor over it;
* `WellReported` : a successful settlement whose report passes the checks;
* `settlementRequest_follows` : where successes are well reported, a request moves its claim to `FAILED` only when it was
  told so.
-/

namespace RouteGuard.Access
open JsString Store Guarded

/-! ## The gate -/

/-- A field of the facilitator's answer that should hold a text: absent (or null), a text, or something else. -/
inductive TextField where
  | missing
  | text (value : JsString)
  | other
  deriving DecidableEq, Repr

/-- What `server.settlePayment` resolves to; `consensusTimestamp` is the one of `extra`. -/
structure SettleResponse where
  success : Bool
  transaction : TextField
  network : TextField
  payer : TextField
  consensusTimestamp : TextField
  deriving DecidableEq, Repr

structure GateConfig where
  network : JsString
  accessTreasuryAccountId : JsString
  deriving DecidableEq, Repr

/-- `TRANSACTION_REF_RE`. -/
def isTransactionRef (value : JsString) : Bool :=
  value ≠ [] && value.length ≤ 128 &&
    value.all fun u => (0x41 ≤ u && u ≤ 0x5A) || (0x61 ≤ u && u ≤ 0x7A) || (0x30 ≤ u && u ≤ 0x39) ||
      u ∈ js "._@:-"

/-- `settled.payer ?? verifiedPayment.payerAccount`. -/
def payerOf (verified : VerifiedAccessPayment) (settled : SettleResponse) : TextField :=
  match settled.payer with
  | .missing => .text verified.payerAccount
  | payer => payer

/-- A text that passes the check. -/
def TextField.get (p : JsString → Bool) (code : AccessPaymentErrorCode) : TextField → Except AccessError JsString
  | .text value => if p value then .ok value else .error (.payment code)
  | _ => .error (.payment code)

/-- The checks between the facilitator's answer and the settled payment: its transaction and its payer. -/
def checkSettlement (gate : GateConfig) (verified : VerifiedAccessPayment) (settled : SettleResponse) :
    Except AccessError (JsString × JsString) := do
  require settled.success (.payment .paymentSettlementFailed)
  let transactionId ← settled.transaction.get isTransactionRef .paymentInvalid
  require (settled.network = .text gate.network) (.payment .paymentNetworkMismatch)
  let payerAccount ← (payerOf verified settled).get isValidHederaAccountId .paymentInvalid
  require (payerAccount ≠ gate.accessTreasuryAccountId) (.payment .paymentRecipientMismatch)
  pure (transactionId, payerAccount)

def consensusTimestampOf (settled : SettleResponse) (observedAt : JsString) : JsString :=
  match settled.consensusTimestamp with
  | .text value => if isUtcIsoTimestamp value then value else observedAt
  | _ => observedAt

/-- The calls of a request with the gate inside: the facilitator, the clock of the gate, and the calls outside the
gate. -/
inductive SettleOp (C : Type) where
  | settlePayment (actionId : JsString) (verified : VerifiedAccessPayment)
  | gateNow
  | claim (op : ClaimOp C)

/-- A call of the facilitator answers, or throws. -/
def SettleOp.Ans (R C : Type) : SettleOp C → Type
  | .settlePayment .. => Option SettleResponse
  | .gateNow => JsString
  | .claim op => ClaimOp.Ans R C op

section Request
variable {R C : Type}

abbrev SettleM (R C α : Type) := ExceptT AccessError (Prog (SettleOp C) (SettleOp.Ans R C)) α

/-- Settle a verified payment, for the action `actionId`. -/
def settleVerified (gate : GateConfig) (actionId : JsString) (verified : VerifiedAccessPayment) :
    SettleM R C SettledAccessPayment := do
  match ← (ExceptT.lift (Prog.perform (SettleOp.settlePayment actionId verified)) : SettleM R C _) with
  | none => throw .other
  | some settled => do
    let (transactionId, payerAccount) ← checkSettlement gate verified settled
    let observedAt ← (ExceptT.lift (Prog.perform SettleOp.gateNow) : SettleM R C JsString)
    pure
      { transactionId, payerAccount, payTo := verified.payTo, asset := verified.asset,
        amountAtomic := verified.amount, resource := verified.binding.resource,
        paymentPayloadHash := verified.paymentPayloadHash,
        consensusTimestamp := consensusTimestampOf settled observedAt, settledAt := observedAt }

/-- A settlement goes through the gate, every other call is made as it is. -/
def throughGate (gate : GateConfig) :
    (op : ClaimOp C) → Prog (SettleOp C) (SettleOp.Ans R C) (ClaimOp.Ans R C op)
  | .settleVerified actionId verified => (settleVerified gate actionId verified).run
  | op => Prog.perform (SettleOp.claim op)

/-- What a call does to the journal. The facilitator and the clocks answer as they like; the calls outside the gate are
those of `ClaimEffect`. -/
def SettleEffect (sha256Hex : JsString → JsString) (w : ClaimJournal) :
    (op : SettleOp C) → SettleOp.Ans R C op → ClaimJournal → Prop
  | .settlePayment .., _, w' | .gateNow, _, w' => w' = w
  | .claim op, r, w' => ClaimEffect sha256Hex ⟨w, []⟩ op r ⟨w', []⟩

abbrev SettlePool (R C : Type) := Pool ClaimJournal (SettleOp C) (SettleOp.Ans R C) (Except AccessError R)

abbrev SettleLabel (R C : Type) := PoolLabel (ExecuteClaimInput C) (SettleOp C) (SettleOp.Ans R C)

/-- `executePaymentClaim` with the gate inside. -/
def settlementRequest (gate : GateConfig) (sha256Hex : JsString → JsString) (processed : R → JsString → Bool)
    (input : ExecuteClaimInput C) : Prog (SettleOp C) (SettleOp.Ans R C) (Except AccessError R) :=
  (executePaymentClaim sha256Hex processed input).run.handle (throughGate gate)

/-- Any number of requests over one journal, started and lost at any await. -/
def settlementSystem (gate : GateConfig) (sha256Hex : JsString → JsString) (processed : R → JsString → Bool) :
    System (SettlePool R C) (SettleLabel R C) :=
  poolSystem (settlementRequest gate sha256Hex processed) (SettleEffect sha256Hex) fun journal => journal = []

/-! ## What a request has been told -/

/-- What a request knows about the money of its claim: nothing yet; it has moved the claim to `SETTLING`; the
settlement was reported unsuccessful or reconciled as failed; it was reported successful; anything else. -/
inductive Phase where
  | idle
  | settling (actionId : JsString)
  | refused (actionId : JsString)
  | paid (actionId : JsString)
  | unclear
  deriving DecidableEq, Repr

/-- What an answered call outside the gate tells. -/
def Phase.afterClaim : Phase → (op : ClaimOp C) → ClaimOp.Ans R C op → Phase
  | .idle, .transition input, .ok _ => if input.toState = .settling then .settling input.actionId else .idle
  | .idle, .reconcile claim, .ok (.failed _) => .refused claim.binding.actionId
  | .idle, .reconcile _, _ => .unclear
  | phase, _, _ => phase

/-- A settlement is tried by who has moved its claim to `SETTLING`, a reconciliation by who has done nothing yet, and a
claim is moved to `FAILED` by who was told so. -/
def Phase.allows (phase : Phase) : ClaimOp C → Prop
  | .transition input => input.toState ≠ .claimed ∧ (input.toState = .failed → phase = .refused input.actionId)
  | .settleVerified actionId _ => phase = .settling actionId
  | .reconcile _ => phase = .idle
  | _ => True

/-- A transition that succeeds returns the claim in its target state. -/
def moved : (op : ClaimOp C) → ClaimOp.Ans R C op → Prop
  | .transition input, .ok claim => claim.state = input.toState
  | _, _ => True

/-- The facilitator's answer as the outcome of a settlement. -/
def Phase.settled (actionId : JsString) : Option SettleResponse → Phase
  | none => .unclear
  | some settled => if settled.success then .paid actionId else .refused actionId

def Phase.afterSettlement (actionId : JsString) (answer : Option SettleResponse) : Phase → Phase
  | .settling _ => .settled actionId answer
  | phase => phase

/-- A success whose report passes the checks of the gate: a transaction reference, the configured network, a payer that
is an account other than the treasury. -/
def WellReported (gate : GateConfig) (verified : VerifiedAccessPayment) (settled : SettleResponse) : Prop :=
  (∃ id, settled.transaction = .text id ∧ isTransactionRef id) ∧ settled.network = .text gate.network ∧
    ∃ payer, payerOf verified settled = .text payer ∧ isValidHederaAccountId payer ∧
      payer ≠ gate.accessTreasuryAccountId

/-- The condition on a step: a success is well reported. -/
def wellReported (gate : GateConfig) : SettleLabel R C → Prop
  | .call _ (.settlePayment _ verified) (some settled) => settled.success → WellReported gate verified settled
  | _ => True

/-- What is watched of a request. -/
def moneyWatch (R C : Type) (gate : GateConfig) : Monitor Phase (SettleOp C) (SettleOp.Ans R C) where
  start := .idle
  next phase op r :=
    match op, r with
    | .settlePayment actionId _, answer => phase.afterSettlement actionId answer
    | .gateNow, _ => phase
    | .claim op, r => phase.afterClaim op r
  may
    | .settlePayment _ verified, some settled => settled.success → WellReported gate verified settled
    | .claim op, r => moved op r
    | _, _ => True
  ok
    | phase, .settlePayment actionId _ => phase = .settling actionId
    | phase, .claim op => phase.allows op
    | _, .gateNow => True

/-- The same seen from `executePaymentClaim`, for which a settlement is one call. -/
def claimWatch (R C : Type) : Monitor Phase (ClaimOp C) (ClaimOp.Ans R C) where
  start := .idle
  next
    | .settling _, .settleVerified actionId _, .ok _ => .paid actionId
    | .settling _, .settleVerified actionId _, .error (.payment _) => .refused actionId
    | .settling _, .settleVerified _ _, _ => .unclear
    | phase, op, r => phase.afterClaim op r
  may := moved
  ok := Phase.allows

/-! ## The gate reports what the facilitator reported -/

variable {gate : GateConfig} {verified : VerifiedAccessPayment} {settled : SettleResponse}

theorem TextField.get_eq_ok {p : JsString → Bool} {code : AccessPaymentErrorCode} {field : TextField}
    {value : JsString} : field.get p code = .ok value ↔ field = .text value ∧ p value := by
  cases field with
  | text v =>
    rw [TextField.get]
    by_cases hp : p v
    · simp only [if_pos hp, Except.ok.injEq, TextField.text.injEq]
      constructor
      · rintro rfl
        exact ⟨rfl, hp⟩
      · exact And.left
    · simp only [if_neg hp, reduceCtorEq, TextField.text.injEq, false_iff, not_and]
      rintro rfl
      exact hp
  | missing | other => simp [TextField.get]

/-- The checks pass exactly on a success that is well reported. -/
theorem checkSettlement_ok_iff :
    (∃ found, checkSettlement gate verified settled = .ok found) ↔ settled.success ∧ WellReported gate verified settled := by
  simp only [checkSettlement, bind_eq_ok, require_eq_ok, exists_const, pure_eq_ok, TextField.get_eq_ok, WellReported]
  constructor
  · rintro ⟨_, hsuccess, id, hid, hnetwork, payer, hpayer, htreasury, -⟩
    exact ⟨hsuccess, ⟨id, hid⟩, hnetwork, payer, hpayer.1, hpayer.2, htreasury⟩
  · rintro ⟨hsuccess, ⟨id, hid⟩, hnetwork, payer, htext, hvalid, htreasury⟩
    exact ⟨_, hsuccess, id, hid, hnetwork, payer, ⟨htext, hvalid⟩, htreasury, rfl⟩

theorem checkSettlement_refused (h : settled.success = false) :
    checkSettlement gate verified settled = .error (.payment .paymentSettlementFailed) := by
  simp [checkSettlement, require, h]
  rfl

/-- A settlement call leaves the request with what the facilitator said. -/
theorem settleVerified_follows (actionId : JsString) :
    Prog.FollowsM (moneyWatch R C gate) (fun phase _ => phase = .paid actionId)
      (fun phase e => phase = (claimWatch R C).next (.settling actionId) (.settleVerified actionId verified) (.error e))
      (settleVerified gate actionId verified) (.settling actionId) := by
  refine Prog.FollowsM.bind (Prog.FollowsM.lift (Prog.Follows.perform rfl fun answer hanswer => ?_))
  cases answer with
  | none => exact Eq.refl Phase.unclear
  | some settled =>
    cases hsuccess : settled.success with
    | false =>
      have hrefused : Phase.settled actionId (some settled) = .refused actionId := by
        rw [Phase.settled, hsuccess]
        rfl
      refine Prog.FollowsM.bind (Prog.FollowsM.ofExcept ?_ ?_)
      · intro found hfound
        rw [checkSettlement_refused hsuccess] at hfound
        cases hfound
      · intro e he
        rw [checkSettlement_refused hsuccess] at he
        cases he
        exact hrefused
    | true =>
      have hpaid : Phase.settled actionId (some settled) = .paid actionId := by
        rw [Phase.settled, hsuccess]
        rfl
      obtain ⟨found, hfound⟩ := checkSettlement_ok_iff.mpr ⟨hsuccess, hanswer hsuccess⟩
      refine Prog.FollowsM.bind (Prog.FollowsM.ofExcept ?_ ?_)
      · intro _ _
        refine Prog.FollowsM.bind (Prog.FollowsM.lift (Prog.Follows.perform trivial fun observedAt _ => ?_))
        exact hpaid
      · intro e he
        rw [hfound] at he
        cases he

/-- The gate shows the monitor of the request what the request sees. -/
theorem throughGate_follows (phase : Phase) (op : ClaimOp C) (hop : phase.allows op) :
    (throughGate (R := R) gate op).Follows (moneyWatch R C gate)
      (fun phase' r => phase' = (claimWatch R C).next phase op r ∧ moved op r) phase := by
  cases op with
  | settleVerified actionId verified =>
    obtain rfl : phase = .settling actionId := hop
    refine Prog.Follows.mono (settleVerified_follows actionId) ?_
    intro phase' r hr
    cases r with
    | ok settled => exact ⟨hr, trivial⟩
    | error e => exact ⟨hr, trivial⟩
  | _ => exact ⟨hop, fun r hr => ⟨by cases phase <;> rfl, hr⟩⟩

/-! ## A request keeps to the order -/

variable {sha256Hex : JsString → JsString} {processed : R → JsString → Bool} {input : ExecuteClaimInput C}

theorem findOrAcquire_follows (input : ExecuteClaimInput C) :
    Prog.FollowsM (claimWatch R C) (fun phase _ => phase = .idle) (fun _ _ => True) (findOrAcquire input) .idle := by
  refine Prog.FollowsM.bind (Prog.FollowsM.call (M := claimWatch R C) (.getByActionId _) (fun r => r) rfl trivial ?_ fun _ _ _ _ => trivial)
  rintro _ found - rfl
  cases found with
  | some claim => exact Eq.refl Phase.idle
  | none =>
    dsimp only
    cases input.payment with
    | none => trivial
    | some rawPayment =>
      refine Prog.FollowsM.bind (Prog.FollowsM.call (M := claimWatch R C) (.verify _ _) (fun r => r) rfl trivial ?_ fun _ _ _ _ => trivial)
      rintro _ verified - rfl
      refine Prog.FollowsM.bind (Prog.FollowsM.lift (Prog.Follows.perform trivial fun now _ => ?_))
      refine Prog.FollowsM.bind (Prog.FollowsM.call (M := claimWatch R C) (.acquire _ _) (fun r => r) rfl trivial ?_ fun _ _ _ _ => trivial)
      rintro _ acquired - rfl
      show Prog.FollowsM _ _ _ (if acquired.outcome = .created then _ else _) Phase.idle
      split
      · refine Prog.FollowsM.bind (Prog.FollowsM.call (M := claimWatch R C) (.paymentFault _ _) (fun r => r) rfl trivial ?_ fun _ _ _ _ => trivial)
        rintro _ _ - rfl
        exact Eq.refl Phase.idle
      · exact Eq.refl Phase.idle

theorem committedRecord_follows (claim : PaymentClaim) (phase : Phase) :
    Prog.FollowsM (claimWatch R C) (fun _ _ => True) (fun _ _ => True) (committedRecord processed claim) phase := by
  refine Prog.FollowsM.bind (Prog.FollowsM.call (M := claimWatch R C) (.getRecord _) (fun r => r) rfl trivial ?_ fun _ _ _ _ => trivial)
  rintro _ found - rfl
  cases found with
  | none => trivial
  | some record =>
    dsimp only
    split <;> trivial

/-- A reconciliation ends with the claim in `SETTLED_PENDING_COMMIT`, or with an error. -/
theorem reconcileClaim_follows (claim : PaymentClaim) (hid : claim.binding.actionId = input.actionId) :
    Prog.FollowsM (claimWatch R C) (fun _ c => c.state = .settledPendingCommit) (fun _ _ => True)
      (reconcileClaim input claim) .idle := by
  refine Prog.FollowsM.bind (Prog.FollowsM.call (M := claimWatch R C) (.reconcile _) (fun r => r) rfl rfl ?_ fun _ _ _ _ => trivial)
  rintro _ result - rfl
  cases result with
  | unknown => trivial
  | failed failureCode =>
    refine Prog.FollowsM.bind (Prog.FollowsM.lift (Prog.Follows.perform trivial fun now _ => ?_))
    refine Prog.FollowsM.bind (Prog.FollowsM.call (M := claimWatch R C) (.transition _) (fun r => r) rfl ⟨by simp, fun _ => ?_⟩ ?_ fun _ _ _ _ => trivial)
    · exact congrArg Phase.refused hid
    · intro _ _ _ _
      trivial
  | confirmed settlement =>
    refine Prog.FollowsM.bind (Prog.FollowsM.ofExcept ?_ fun _ _ => trivial)
    intro _ _
    refine Prog.FollowsM.bind (Prog.FollowsM.lift (Prog.Follows.perform trivial fun now _ => ?_))
    refine Prog.FollowsM.call (M := claimWatch R C) (.transition _) (fun r => r) rfl ⟨by simp, by simp⟩ ?_ fun _ _ _ _ => trivial
    rintro _ c hc rfl
    exact hc

theorem resumePayment_follows (claim : PaymentClaim) (verified : Option VerifiedAccessPayment) :
    Prog.FollowsM (claimWatch R C) (fun phase _ => phase = .idle) (fun _ _ => True)
      (resumePayment sha256Hex input claim verified) .idle := by
  unfold resumePayment
  split
  · exact Eq.refl Phase.idle
  · split
    · trivial
    · refine Prog.FollowsM.bind (Prog.FollowsM.call (M := claimWatch R C) (.verify _ _) (fun r => r) rfl trivial ?_ fun _ _ _ _ => trivial)
      rintro _ verified - rfl
      split
      · exact Eq.refl Phase.idle
      · trivial

/-- The claim is moved to `FAILED` where the settlement was reported unsuccessful. -/
theorem settleAndRecord_follows (claim : PaymentClaim) (verified : VerifiedAccessPayment) :
    Prog.FollowsM (claimWatch R C) (fun _ _ => True) (fun _ _ => True) (settleAndRecord input claim verified)
      (.settling input.actionId) := by
  refine Prog.FollowsM.bind (Prog.FollowsM.lift (Prog.Follows.perform rfl fun outcome _ => ?_))
  cases outcome with
  | error e =>
    cases e with
    | payment code =>
      refine Prog.FollowsM.bind (Prog.FollowsM.lift (Prog.Follows.perform trivial fun now _ => ?_))
      refine Prog.FollowsM.bind (Prog.FollowsM.call (M := claimWatch R C) (.transition _) (fun r => r) rfl ⟨by simp, fun _ => ?_⟩ ?_ fun _ _ _ _ => trivial)
      · exact Eq.refl (Phase.refused input.actionId)
      · intro _ _ _ _
        trivial
    | access | store | other => trivial
  | ok settled =>
    refine Prog.FollowsM.bind (Prog.FollowsM.ofExcept ?_ fun _ _ => trivial)
    intro _ _
    refine Prog.FollowsM.bind (Prog.FollowsM.lift (Prog.Follows.perform trivial fun now _ => ?_))
    refine Prog.FollowsM.bind (Prog.FollowsM.call (M := claimWatch R C) (.transition _) (fun r => r) rfl ⟨by simp, by simp⟩ ?_ fun _ _ _ _ => trivial)
    rintro _ c - rfl
    refine Prog.FollowsM.bind (Prog.FollowsM.call (M := claimWatch R C) (.paymentFault _ _) (fun r => r) rfl trivial ?_ fun _ _ _ _ => trivial)
    intro _ _ _ _
    trivial

theorem settleClaim_follows (claim : PaymentClaim) (verified : Option VerifiedAccessPayment) :
    Prog.FollowsM (claimWatch R C) (fun _ _ => True) (fun _ _ => True)
      (settleClaim sha256Hex input claim verified) .idle := by
  refine Prog.FollowsM.bind (Prog.FollowsM.mono (resumePayment_follows claim verified) ?_)
  rintro _ verified rfl
  refine Prog.FollowsM.bind (Prog.FollowsM.lift (Prog.Follows.perform trivial fun now _ => ?_))
  refine Prog.FollowsM.bind (Prog.FollowsM.call (M := claimWatch R C) (.transition _) (fun r => r) rfl ⟨by simp [startSettling], by simp [startSettling]⟩ ?_
    fun _ _ _ _ => trivial)
  rintro _ c - rfl
  exact settleAndRecord_follows c verified

theorem commitClaim_follows (claim : PaymentClaim) (phase : Phase) :
    Prog.FollowsM (claimWatch R C) (fun _ _ => True) (fun _ _ => True) (commitClaim input claim) phase := by
  unfold commitClaim
  split
  · refine Prog.FollowsM.bind (Prog.FollowsM.call (M := claimWatch R C) (.paymentFault _ _) (fun r => r) rfl trivial ?_
      fun _ _ _ _ => trivial)
    rintro _ _ - rfl
    refine Prog.FollowsM.bind (Prog.FollowsM.lift (Prog.Follows.perform trivial fun outcome _ => ?_))
    cases outcome with
    | error e => cases e <;> trivial
    | ok record =>
      refine Prog.FollowsM.bind (Prog.FollowsM.call (M := claimWatch R C) (.paymentFault _ _) (fun r => r) rfl trivial
        ?_ fun _ _ _ _ => trivial)
      rintro _ _ - rfl
      refine Prog.FollowsM.bind (Prog.FollowsM.call (M := claimWatch R C) (.paymentFault _ _) (fun r => r) rfl trivial
        ?_ fun _ _ _ _ => trivial)
      rintro _ _ - rfl
      refine Prog.FollowsM.bind (Prog.FollowsM.lift (Prog.Follows.perform trivial fun now _ => ?_))
      refine Prog.FollowsM.bind (Prog.FollowsM.call (M := claimWatch R C) (.transition _) (fun r => r) rfl
        ⟨by simp, by simp⟩ ?_ fun _ _ _ _ => trivial)
      intro _ _ _ _
      trivial
  · trivial

theorem assertClaimMatches_actionId {claim : PaymentClaim} {u : Unit} (h : assertClaimMatches input claim = .ok u) :
    claim.binding.actionId = input.actionId := by
  rw [assertClaimMatches, require_eq_ok] at h
  exact h.2.1

theorem executePaymentClaim_follows (input : ExecuteClaimInput C) :
    Prog.FollowsM (claimWatch R C) (fun _ _ => True) (fun _ _ => True)
      (executePaymentClaim sha256Hex processed input) .idle := by
  refine Prog.FollowsM.bind (Prog.FollowsM.mono (findOrAcquire_follows input) ?_)
  rintro _ ⟨claim, verified⟩ rfl
  refine Prog.FollowsM.bind (Prog.FollowsM.ofExcept ?_ fun _ _ => trivial)
  intro _ hmatch
  have hid := assertClaimMatches_actionId hmatch
  split
  · exact committedRecord_follows _ _
  · split
    · trivial
    · by_cases hsettling : claim.state = .settling
      · -- a reconciled claim is not settled again
        rw [if_pos hsettling]
        refine Prog.FollowsM.bind (Prog.FollowsM.mono (reconcileClaim_follows claim hid) ?_)
        intro phase reconciled hstate
        rw [if_neg (by simp [hstate])]
        exact commitClaim_follows reconciled phase
      · rw [if_neg hsettling]
        refine Prog.FollowsM.bind (Prog.FollowsM.pure ?_)
        by_cases hclaimed : claim.state = .claimed
        · rw [if_pos hclaimed]
          refine Prog.FollowsM.bind (Prog.FollowsM.mono (settleClaim_follows claim verified) ?_)
          intro phase settled _
          exact commitClaim_follows settled phase
        · rw [if_neg hclaimed]
          exact Prog.FollowsM.bind (Prog.FollowsM.pure (commitClaim_follows claim _))

theorem settlementRequest_follows (gate : GateConfig) (sha256Hex : JsString → JsString)
    (processed : R → JsString → Bool) (input : ExecuteClaimInput C) :
    (settlementRequest gate sha256Hex processed input).Follows (moneyWatch R C gate) (fun _ _ => True) .idle := by
  refine Prog.Follows.handle (N := claimWatch R C) ?_ ?_
  · exact throughGate_follows
  · refine Prog.Follows.mono (executePaymentClaim_follows input) ?_
    intro _ _ _
    trivial

end Request

end RouteGuard.Access
