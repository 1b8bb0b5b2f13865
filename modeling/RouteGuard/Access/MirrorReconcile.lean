import RouteGuard.Access.SettlementOutcome
import RouteGuard.Hcs.MirrorTimestamp
import RouteGuard.Lib.ToNumber

/-!
# Reconciling an access payment with the Mirror node

A claim that is `SETTLING` when its request is lost is reconciled when the request is made again. The reconciler looks
up the transaction of the claim's settlement; a claim has its settlement from the move out of `SETTLING` on.

* `verifyUsdcAccessPaymentOnMirror` : what the Mirror node shows of one payment;
* `MirrorAccessPaymentReconciler.reconcile` : the reconciler;
* `recoverySystem` : the requests of `executePaymentClaim` with the reconciler inside;
* `Unrecorded` : a claim has no settlement before it has left `SETTLING`; `unrecorded_of_run`;
* `settling_claim_stays` : a claim that is left `SETTLING` stays so, whatever the Mirror node shows.
-/

namespace RouteGuard.Access
open JsString Json Store Guarded Hcs

/-! ## What the Mirror node shows -/

def toMirrorTransactionId (sdkId : JsString) : JsString :=
  if sdkId.contains 0x2D && !sdkId.contains 0x40 then sdkId
  else
    match Reservation.matchSdkTxId (trim sdkId) with
    | none => sdkId
    | some m => m.mirrorForm

def hashScanTransactionUrl (txId : JsString) : JsString := js "https://hashscan.io/testnet/transaction/" ++ txId

/-- An entry of `token_transfers`; an amount that is no number counts as absent. -/
structure MirrorTokenTransfer where
  tokenId : Option JsString
  account : Option JsString
  amount : Option Int
  deriving DecidableEq, Repr

/-- An entry of `transactions`; a result that is no text counts as absent. -/
structure MirrorTx where
  result : Option JsString
  consensusTimestamp : Option JsString
  tokenTransfers : Option (List MirrorTokenTransfer)
  deriving DecidableEq, Repr

structure MirrorTransactionsResponse where
  status : Nat
  transactions : Option (List MirrorTx)
  deriving DecidableEq, Repr

inductive MirrorUsdcStatus where
  | success | failed | notFound | pending
  deriving DecidableEq, Repr

structure MirrorUsdcVerification where
  status : MirrorUsdcStatus
  transactionId : JsString
  mirrorTransactionId : JsString
  consensusTimestamp : Option JsString
  result : Option JsString
  payerTransfer : Option Int
  treasuryTransfer : Option Int
  tokenId : Option JsString
  amountAtomicMatch : Bool
  payerMatch : Bool
  treasuryMatch : Bool
  hashScanUrl : JsString
  deriving DecidableEq, Repr

structure MirrorUsdcQuery where
  transactionId : JsString
  payerAccount : JsString
  treasuryAccount : JsString
  asset : JsString
  amountAtomic : JsString
  deriving DecidableEq, Repr

def notFoundOnMirror (input : MirrorUsdcQuery) : MirrorUsdcVerification where
  status := .notFound
  transactionId := input.transactionId
  mirrorTransactionId := toMirrorTransactionId input.transactionId
  consensusTimestamp := none
  result := none
  payerTransfer := none
  treasuryTransfer := none
  tokenId := none
  amountAtomicMatch := false
  payerMatch := false
  treasuryMatch := false
  hashScanUrl := hashScanTransactionUrl input.transactionId

/-- The amount of the one leg of an account in the asset. -/
def legOf (transfers : List MirrorTokenTransfer) (asset account : JsString) : Option Int :=
  match transfers.filter fun t => t.tokenId = some asset && t.account = some account with
  | [leg] => leg.amount
  | _ => none

/-- `result === "SUCCESS" ? "SUCCESS" : result ? "FAILED" : "PENDING"`. -/
def statusOf : Option JsString → MirrorUsdcStatus
  | none | some [] => .pending
  | some result => if result = js "SUCCESS" then .success else .failed

/-- A timestamp that is absent or empty is null; one that does not convert throws. -/
def consensusTimestampOnMirror : Option JsString → Except AccessError (Option JsString)
  | none | some [] => .ok none
  | some ts =>
    match mirrorTimestampToUtcIso ts with
    | .ok iso => .ok (some iso)
    | .error _ => .error .other

/-- The verification, given the response of the node. The amounts are compared as numbers. -/
def verifyUsdcAccessPaymentOnMirror (input : MirrorUsdcQuery) (response : MirrorTransactionsResponse) :
    Except AccessError MirrorUsdcVerification :=
  if response.status = 404 then .ok (notFoundOnMirror input)
  else if ¬ (200 ≤ response.status ∧ response.status ≤ 299) then .error .other
  else
    match (response.transactions.getD []).head? with
    | none => .ok (notFoundOnMirror input)
    | some tx =>
      match bigInt input.amountAtomic with
      | none => .error .other
      | some expected => do
        let transfers := tx.tokenTransfers.getD []
        let payerTransfer := legOf transfers input.asset input.payerAccount
        let treasuryTransfer := legOf transfers input.asset input.treasuryAccount
        let consensusTimestamp ← consensusTimestampOnMirror tx.consensusTimestamp
        pure
          { status := statusOf tx.result, transactionId := input.transactionId,
            mirrorTransactionId := toMirrorTransactionId input.transactionId, consensusTimestamp, result := tx.result,
            payerTransfer, treasuryTransfer, tokenId := some input.asset,
            amountAtomicMatch :=
              payerTransfer.any (fun n => (n : ℚ) = -roundToDouble expected) &&
                treasuryTransfer.any (fun n => (n : ℚ) = roundToDouble expected),
            payerMatch := isValidHederaAccountId input.payerAccount && payerTransfer.any (· < 0),
            treasuryMatch := isValidHederaAccountId input.treasuryAccount && treasuryTransfer.any (0 < ·),
            hashScanUrl := hashScanTransactionUrl input.transactionId }

/-- The payment went through as it was bound. -/
def MirrorUsdcVerification.paid (v : MirrorUsdcVerification) : Bool :=
  v.status = .success && v.amountAtomicMatch && v.payerMatch && v.treasuryMatch

/-! ## The reconciler -/

/-- The calls of a request with the reconciler inside: the Mirror node, by transaction id, the timer between two polls,
and the calls outside the reconciler. -/
inductive RecoveryOp (C : Type) where
  | fetchTransaction (mirrorTransactionId : JsString)
  | wait (ms : Nat)
  | claim (op : ClaimOp C)

/-- A fetch answers, or throws. -/
def RecoveryOp.Ans (R C : Type) : RecoveryOp C → Type
  | .fetchTransaction _ => Option MirrorTransactionsResponse
  | .wait _ => Unit
  | .claim op => ClaimOp.Ans R C op

structure ReconcilerOptions where
  maxPolls : Option Nat
  pollIntervalMs : Option Nat
  deriving DecidableEq, Repr

def SettledAccessPayment.query (settlement : SettledAccessPayment) : MirrorUsdcQuery where
  transactionId := settlement.transactionId
  payerAccount := settlement.payerAccount
  treasuryAccount := settlement.payTo
  asset := settlement.asset
  amountAtomic := settlement.amountAtomic

section Request
variable {R C : Type}

/-- A request that is under way. -/
abbrev RecoveryProg (R C : Type) := Prog (RecoveryOp C) (RecoveryOp.Ans R C) (Except AccessError R)

abbrev RecoveryM (R C α : Type) := ExceptT AccessError (Prog (RecoveryOp C) (RecoveryOp.Ans R C)) α

/-- What one look at the Mirror node decides; `none` where the loop goes on. -/
def lookAt (settlement : SettledAccessPayment) :
    Option MirrorTransactionsResponse → Except AccessError (Option PaymentReconciliationResult)
  | none => .error .other
  | some response => do
    let verified ← verifyUsdcAccessPaymentOnMirror (SettledAccessPayment.query settlement) response
    if verified.paid then
      pure (some (.confirmed
        { settlement with consensusTimestamp := verified.consensusTimestamp.getD settlement.consensusTimestamp }))
    else if verified.status = .failed then pure (some (.failed (js "MIRROR_FAILED")))
    else pure none

/-- Up to `polls` looks at the Mirror node. -/
def reconcileLoop (pollIntervalMs : Nat) (settlement : SettledAccessPayment) :
    Nat → RecoveryM R C PaymentReconciliationResult
  | 0 => pure .unknown
  | polls + 1 => do
    let fetched ← (ExceptT.lift (Prog.perform (RecoveryOp.fetchTransaction
      (toMirrorTransactionId settlement.transactionId))) : RecoveryM R C (Option MirrorTransactionsResponse))
    match ← (ExceptT.mk (pure (lookAt settlement fetched)) : RecoveryM R C (Option PaymentReconciliationResult)) with
    | some result => pure result
    | none => do
      (ExceptT.lift (Prog.perform (RecoveryOp.wait pollIntervalMs)) : RecoveryM R C Unit)
      reconcileLoop pollIntervalMs settlement polls

def MirrorAccessPaymentReconciler.reconcile (options : ReconcilerOptions) (claim : PaymentClaim) :
    RecoveryM R C PaymentReconciliationResult :=
  match claim.settlement with
  | none => pure .unknown
  | some settlement =>
    reconcileLoop (options.pollIntervalMs.getD 1500) settlement (options.maxPolls.getD 20)

/-- A reconciliation goes to the Mirror node, every other call is made as it is. -/
def throughMirror (options : ReconcilerOptions) :
    (op : ClaimOp C) → Prog (RecoveryOp C) (RecoveryOp.Ans R C) (ClaimOp.Ans R C op)
  | .reconcile claim => (MirrorAccessPaymentReconciler.reconcile options claim).run
  | op => Prog.perform (RecoveryOp.claim op)

/-- `executePaymentClaim` with the reconciler inside. -/
def recoveryRequest (options : ReconcilerOptions) (sha256Hex : JsString → JsString) (processed : R → JsString → Bool)
    (input : ExecuteClaimInput C) : RecoveryProg R C :=
  (executePaymentClaim sha256Hex processed input).run.handle (throughMirror options)

/-- The Mirror node shows what it likes. -/
def RecoveryEffect (sha256Hex : JsString → JsString) (w : ClaimWorld) :
    (op : RecoveryOp C) → RecoveryOp.Ans R C op → ClaimWorld → Prop
  | .fetchTransaction _, _, w' | .wait _, _, w' => w' = w
  | .claim op, r, w' => ClaimEffect sha256Hex w op r w'

abbrev RecoveryPool (R C : Type) := Pool ClaimWorld (RecoveryOp C) (RecoveryOp.Ans R C) (Except AccessError R)

abbrev RecoveryLabel (R C : Type) := PoolLabel (ExecuteClaimInput C) (RecoveryOp C) (RecoveryOp.Ans R C)

/-- Any number of requests over one journal, started and lost at any await. -/
def recoverySystem (options : ReconcilerOptions) (sha256Hex : JsString → JsString) (processed : R → JsString → Bool) :
    System (RecoveryPool R C) (RecoveryLabel R C) :=
  poolSystem (recoveryRequest options sha256Hex processed) (RecoveryEffect sha256Hex) ClaimWorld.IsEmpty

/-! ## The calls outside the reconciler -/

/-- A claim is moved to `SETTLING` without a settlement. -/
def OpensSettling (input : TransitionInput) : Prop :=
  input.toState ≠ .claimed ∧
    (input.toState = .settling → input.fromStates = [.claimed] ∧ input.settlement = none)

/-- What a request asks of the journal is for its own action. -/
def asksFor (input : ExecuteClaimInput C) : ClaimOp C → Prop
  | .transition t => t.actionId = input.actionId ∧ OpensSettling t
  | _ => True

/-- The answers that the request sees: without a settlement the reconciler knows nothing. -/
def seen (may : (op : ClaimOp C) → ClaimOp.Ans R C op → Prop) : (op : ClaimOp C) → ClaimOp.Ans R C op → Prop
  | .reconcile claim, r => claim.settlement = none → r = .ok .unknown
  | op, r => may op r

/-- A call of the Mirror node is always in order. -/
def RecoveryOp.Asks (ok : ClaimOp C → Prop) : RecoveryOp C → Prop
  | .claim op => ok op
  | _ => True

/-- A monitor of the calls outside the reconciler. -/
def outside (may : (op : ClaimOp C) → ClaimOp.Ans R C op → Prop) (ok : ClaimOp C → Prop) :
    Monitor Unit (RecoveryOp C) (RecoveryOp.Ans R C) :=
  Monitor.stateless
    (fun op r =>
      match op, r with
      | .claim op, r => may op r
      | _, _ => True)
    (RecoveryOp.Asks ok)

section Asking
variable {sha256Hex : JsString → JsString} {processed : R → JsString → Bool} {input : ExecuteClaimInput C}
  {may : (op : ClaimOp C) → ClaimOp.Ans R C op → Prop} {ok : ClaimOp C → Prop} {options : ReconcilerOptions}
  {claim : PaymentClaim} {α : Type}

/-! ## The reconciler seen from outside -/

theorem reconcileLoop_follows (pollIntervalMs : Nat) (settlement : SettledAccessPayment) (polls : Nat) :
    Prog.FollowsM (outside may ok) (fun _ _ => True) (fun _ _ => True) (reconcileLoop pollIntervalMs settlement polls)
      () := by
  induction polls with
  | zero => trivial
  | succ polls ih =>
    refine Prog.FollowsM.bind (Prog.FollowsM.lift (Prog.Follows.perform trivial fun fetched _ => ?_))
    refine Prog.FollowsM.bind (Prog.FollowsM.ofExcept (fun result _ => ?_) fun _ _ => trivial)
    cases result with
    | some result => trivial
    | none => exact Prog.FollowsM.bind (Prog.FollowsM.lift (Prog.Follows.perform trivial fun _ _ => ih))

/-- Without a settlement the Mirror node is not asked at all. -/
theorem reconcile_of_none (h : claim.settlement = none) :
    (MirrorAccessPaymentReconciler.reconcile (R := R) (C := C) options claim).run = .ret (.ok .unknown) := by
  rw [MirrorAccessPaymentReconciler.reconcile, h]
  rfl

theorem reconcile_follows (claim : PaymentClaim) :
    (MirrorAccessPaymentReconciler.reconcile options claim).run.Follows (outside may ok)
      (fun _ r => claim.settlement = none → r = .ok .unknown) () := by
  cases h : claim.settlement with
  | none =>
    rw [reconcile_of_none h]
    exact fun _ => rfl
  | some settlement =>
    rw [MirrorAccessPaymentReconciler.reconcile, h]
    refine Prog.Follows.mono (Prog.FollowsM.follows (reconcileLoop_follows _ settlement _)) ?_
    intro _ _ _ hnone
    cases hnone

/-- A program that follows a monitor of what it sees follows the monitor of what is made of it. -/
theorem follows_throughMirror {Q : Unit → α → Prop} {p : ClaimProg R C α}
    (h : p.Follows (Monitor.stateless (seen may) ok) Q ()) :
    (p.handle (throughMirror options)).Follows (outside may ok) Q () := by
  refine Prog.Follows.handle ?_ h
  intro _ op hop
  cases op with
  | reconcile claim => exact Prog.Follows.mono (reconcile_follows claim) fun _ r hr => ⟨rfl, hr⟩
  | _ => exact ⟨hop, fun r hr => ⟨rfl, hr⟩⟩

/-! ## What a request asks of the journal -/

/-- The program asks only for what its request may ask for. -/
def Asks (may : (op : ClaimOp C) → ClaimOp.Ans R C op → Prop) (input : ExecuteClaimInput C) (x : ClaimM R C α) : Prop :=
  Prog.FollowsM (Monitor.stateless (seen may) (asksFor input)) (fun _ _ => True) (fun _ _ => True) x ()

theorem Asks.pure (a : α) : Asks may input (Pure.pure a) := trivial

theorem Asks.throw (e : AccessError) : Asks may input (MonadExcept.throw e : ClaimM R C α) := trivial

theorem Asks.check (x : Except AccessError α) : Asks may input (ExceptT.mk (Pure.pure x) : ClaimM R C α) :=
  Prog.FollowsM.ofExcept (fun _ _ => trivial) fun _ _ => trivial

theorem Asks.bind {β : Type} {x : ClaimM R C α} {f : α → ClaimM R C β} (hx : Asks may input x)
    (hf : ∀ a, Asks may input (f a)) : Asks may input (x >>= f) :=
  Prog.FollowsM.bind (Prog.FollowsM.mono hx fun _ a _ => hf a)

/-- A call that may be made. -/
theorem Asks.call (op : ClaimOp C) {x : ClaimM R C α} (g : ClaimOp.Ans R C op → Except AccessError α)
    (hx : x = ExceptT.mk (Prog.call op fun r => .ret (g r))) (hop : asksFor input op) : Asks may input x :=
  Prog.FollowsM.call op g hx hop (fun _ _ _ _ => trivial) fun _ _ _ _ => trivial

theorem findOrAcquire_asks : Asks may input (findOrAcquire input) := by
  refine Asks.bind (Asks.call (.getByActionId _) (fun r => r) rfl trivial) fun found => ?_
  cases found with
  | some claim => exact Asks.pure _
  | none =>
    dsimp only
    cases input.payment with
    | none => exact Asks.throw _
    | some rawPayment =>
      refine Asks.bind (Asks.call (.verify _ _) (fun r => r) rfl trivial) fun verified => ?_
      refine Asks.bind (Asks.call .now .ok rfl trivial) fun now => ?_
      refine Asks.bind (Asks.call (.acquire _ _) (fun r => r) rfl trivial) fun acquired => ?_
      split
      · exact Asks.bind (Asks.call (.paymentFault _ _) (fun r => r) rfl trivial) fun _ => Asks.pure _
      · exact Asks.pure _

theorem committedRecord_asks (claim : PaymentClaim) : Asks may input (committedRecord (C := C) processed claim) := by
  refine Asks.bind (Asks.call (.getRecord _) (fun r => r) rfl trivial) fun found => ?_
  cases found with
  | none => exact Asks.throw _
  | some record =>
    dsimp only
    split
    · exact Asks.pure _
    · exact Asks.throw _

/-- A transition of the action to a state behind `SETTLING`. -/
theorem Asks.finish {t : TransitionInput} (hid : t.actionId = input.actionId)
    (hto : t.toState ≠ .claimed ∧ t.toState ≠ .settling) : Asks may input (ClaimM.transition t) :=
  Asks.call (.transition t) (fun r => r) rfl ⟨hid, hto.1, fun h => absurd h hto.2⟩

theorem reconcileClaim_asks (claim : PaymentClaim) : Asks may input (reconcileClaim input claim) := by
  refine Asks.bind (Asks.call (.reconcile _) (fun r => r) rfl trivial) fun result => ?_
  cases result with
  | unknown => exact Asks.throw _
  | failed failureCode =>
    refine Asks.bind (Asks.call .now .ok rfl trivial) fun now => ?_
    exact Asks.bind (Asks.finish rfl (by simp)) fun _ => Asks.throw _
  | confirmed settlement =>
    refine Asks.bind (Asks.check _) fun _ => ?_
    exact Asks.bind (Asks.call .now .ok rfl trivial) fun now => Asks.finish rfl (by simp)

theorem resumePayment_asks (claim : PaymentClaim) (verified : Option VerifiedAccessPayment) :
    Asks may input (resumePayment sha256Hex input claim verified) := by
  unfold resumePayment
  split
  · exact Asks.pure _
  · split
    · exact Asks.throw _
    · refine Asks.bind (Asks.call (.verify _ _) (fun r => r) rfl trivial) fun verified => ?_
      split
      · exact Asks.pure _
      · exact Asks.throw _

theorem settleAndRecord_asks (claim : PaymentClaim) (verified : VerifiedAccessPayment) :
    Asks may input (settleAndRecord input claim verified) := by
  refine Asks.bind (Asks.call (.settleVerified _ _) .ok rfl trivial) fun outcome => ?_
  cases outcome with
  | error e =>
    cases e with
    | payment code =>
      refine Asks.bind (Asks.call .now .ok rfl trivial) fun now => ?_
      exact Asks.bind (Asks.finish rfl (by simp)) fun _ => Asks.throw _
    | access | store | other => exact Asks.throw _
  | ok settled =>
    refine Asks.bind (Asks.check _) fun _ => ?_
    refine Asks.bind (Asks.call .now .ok rfl trivial) fun now => ?_
    refine Asks.bind (Asks.finish rfl (by simp)) fun claim => ?_
    exact Asks.bind (Asks.call (.paymentFault _ _) (fun r => r) rfl trivial) fun _ => Asks.pure _

theorem settleClaim_asks (claim : PaymentClaim) (verified : Option VerifiedAccessPayment) :
    Asks may input (settleClaim sha256Hex input claim verified) := by
  refine Asks.bind (resumePayment_asks claim verified) fun verified => ?_
  refine Asks.bind (Asks.call .now .ok rfl trivial) fun now => ?_
  refine Asks.bind (Asks.call (.transition _) (fun r => r) rfl ⟨rfl, by simp [startSettling], fun _ => ⟨rfl, rfl⟩⟩)
    fun claim => ?_
  exact settleAndRecord_asks claim verified

theorem commitClaim_asks (claim : PaymentClaim) : Asks may input (commitClaim input claim) := by
  unfold commitClaim
  split
  · refine Asks.bind (Asks.call (.paymentFault _ _) (fun r => r) rfl trivial) fun _ => ?_
    refine Asks.bind (Asks.call (.commit _) .ok rfl trivial) fun outcome => ?_
    cases outcome with
    | error e => cases e <;> exact Asks.throw _
    | ok record =>
      refine Asks.bind (Asks.call (.paymentFault _ _) (fun r => r) rfl trivial) fun _ => ?_
      refine Asks.bind (Asks.call (.paymentFault _ _) (fun r => r) rfl trivial) fun _ => ?_
      refine Asks.bind (Asks.call .now .ok rfl trivial) fun now => ?_
      exact Asks.bind (Asks.finish rfl (by simp)) fun _ => Asks.pure _
  · exact Asks.throw _

theorem executePaymentClaim_asks (input : ExecuteClaimInput C) :
    Asks may input (executePaymentClaim sha256Hex processed input) := by
  refine Asks.bind findOrAcquire_asks fun found => ?_
  refine Asks.bind (Asks.check _) fun _ => ?_
  split
  · exact committedRecord_asks _
  · split
    · exact Asks.throw _
    · refine Asks.bind ?_ fun claim => Asks.bind ?_ fun claim => commitClaim_asks claim
      · split
        · exact reconcileClaim_asks _
        · exact Asks.pure _
      · split
        · exact settleClaim_asks _ _
        · exact Asks.pure _

/-! ## A claim has no settlement before it has left `SETTLING` -/

/-- Every claim that has not left `SETTLING` is without a settlement. -/
def Unrecorded (journal : ClaimJournal) : Prop :=
  ∀ a claim, getByActionId journal a = some claim → claim.state = .claimed ∨ claim.state = .settling →
    claim.settlement = none

theorem Unrecorded.acquire {w w' : ClaimJournal} {binding : PaymentClaimBinding} {now : JsString}
    {result : AcquirePaymentClaimResult} (h : Unrecorded w)
    (hx : acquireIn sha256Hex w binding now = .ok (result, w')) :
    Unrecorded w' := by
  rcases acquireIn_ok hx with rfl | ⟨-, rfl⟩
  · exact h
  · intro a claim hclaim hstate
    rw [getByActionId_append, Option.or_eq_some_iff] at hclaim
    rcases hclaim with hclaim | ⟨-, hnew⟩
    · exact h a claim hclaim hstate
    · split at hnew
      · cases hnew
        rfl
      · cases hnew

theorem Unrecorded.transition {w w' : ClaimJournal} {t : TransitionInput} {claim : PaymentClaim} (h : Unrecorded w)
    (ht : OpensSettling t) (hx : transitionIn w t = .ok (claim, w')) : Unrecorded w' := by
  obtain ⟨current, hcurrent, ⟨-, -, rfl⟩ | ⟨hfrom, hget⟩⟩ := transitionIn_ok hx
  · exact h
  · intro a claim hclaim hstate
    rw [hget a] at hclaim
    split at hclaim
    · cases hclaim
      obtain ⟨hclaimed, hsettling⟩ := ht
      have hto : t.toState = .settling := hstate.resolve_left hclaimed
      obtain ⟨hstates, hnone⟩ := hsettling hto
      rw [hstates, List.mem_singleton] at hfrom
      show t.settlement.or current.settlement = none
      rw [hnone, Option.none_or]
      exact h _ current hcurrent (.inl hfrom)
    · exact h a claim hclaim hstate

/-- A call that is allowed keeps it. -/
theorem Unrecorded.of_effect {op : RecoveryOp C} {r : RecoveryOp.Ans R C op} {w w' : ClaimWorld}
    (h : Unrecorded w.journal) (hop : op.Asks (asksFor input)) (heffect : RecoveryEffect sha256Hex w op r w') :
    Unrecorded w'.journal := by
  cases op with
  | claim op =>
    cases op with
    | acquire binding now =>
      rcases StoreEffect.journal heffect with hw | ⟨result, hx⟩
      · rwa [hw]
      · exact h.acquire hx
    | transition t =>
      rcases StoreEffect.journal heffect with hw | ⟨claim, hx⟩
      · rwa [hw]
      · exact h.transition hop.2 hx
    | getByActionId b =>
      obtain rfl : w' = w := heffect.2
      exact h
    | settleVerified b verified =>
      obtain rfl : w' = _ := heffect
      exact h
    | _ =>
      obtain rfl : w' = w := heffect
      exact h
  | _ =>
    obtain rfl : w' = w := heffect
    exact h

theorem unrecorded_of_run {ls : List (RecoveryLabel R C)} {s : RecoveryPool R C}
    (h : (recoverySystem options sha256Hex processed).Run ls s) : Unrecorded s.shared.journal := by
  have hmain (input : ExecuteClaimInput C) :
      Asks (fun _ _ => True) input (executePaymentClaim sha256Hex processed input) := executePaymentClaim_asks input
  refine System.Run.induction (S := recoverySystem options sha256Hex processed)
    (I := fun _ s => Unrecorded s.shared.journal) ?_ ?_ h
  · rintro s ⟨⟨hjournal, -⟩, -⟩ a claim hclaim
    rw [hjournal] at hclaim
    cases hclaim
  · intro ls s l t hrun ih hstep
    have hnext := hrun.snoc hstep
    cases hstep with
    | start | lost => exact ih
    | @call n op k r w hn heffect =>
      obtain ⟨input, -, hop⟩ := Monitor.calls_of_run (fun input => follows_throughMirror (hmain input).follows)
        (fun _ _ op _ _ _ _ => by cases op <;> trivial) hnext n op r
        (List.mem_append_right _ (List.mem_singleton_self _))
      exact ih.of_effect hop heffect

/-! ## A claim that is left behind -/

/-- Who looks for the claim finds it. -/
def finds (R : Type) (a : JsString) (claim : PaymentClaim) : (op : ClaimOp C) → ClaimOp.Ans R C op → Prop
  | .getByActionId b, r => b = a → r = .ok (some claim) ∨ ∃ e, r = .error e
  | _, _ => True

/-- The claim is not moved. -/
def leaves (a : JsString) : ClaimOp C → Prop
  | .transition t => t.actionId ≠ a
  | _ => True

/-- What is watched of every request that comes after it. -/
abbrev leaving (R C : Type) (a : JsString) (claim : PaymentClaim) : Monitor Unit (ClaimOp C) (ClaimOp.Ans R C) :=
  Monitor.stateless (seen (finds R a claim)) (leaves a)

variable {a : JsString}

theorem findOrAcquire_finds (ha : input.actionId = a) :
    Prog.FollowsM (leaving R C a claim) (fun _ found => found = (claim, none))
      (fun _ _ => True) (findOrAcquire input) () := by
  refine Prog.FollowsM.bind (Prog.FollowsM.call (M := leaving R C a claim) (.getByActionId _) (fun r => r) rfl
    trivial ?_ fun _ _ _ _ => trivial)
  rintro _ found hr rfl
  rcases hr ha with hr | ⟨e, hr⟩
  · cases hr
    exact Eq.refl (claim, none)
  · cases hr

/-- A request for the claim fails. -/
theorem executePaymentClaim_fails (ha : input.actionId = a) (hstate : claim.state = .settling)
    (hnone : claim.settlement = none) :
    Prog.FollowsM (leaving R C a claim) (fun _ _ => False) (fun _ _ => True)
      (executePaymentClaim sha256Hex processed input) () := by
  refine Prog.FollowsM.bind (Prog.FollowsM.mono (findOrAcquire_finds ha) ?_)
  rintro _ _ rfl
  refine Prog.FollowsM.bind (Prog.FollowsM.ofExcept ?_ fun _ _ => trivial)
  intro _ _
  rw [if_neg (by simp [hstate]), if_neg (by simp [hstate]), if_pos hstate]
  refine Prog.FollowsM.bind (Prog.FollowsM.bind
    (Prog.FollowsM.call (M := leaving R C a claim) (.reconcile _) (fun r => r) rfl trivial ?_ fun _ _ _ _ => trivial))
  rintro _ result hr rfl
  cases hr hnone
  trivial

/-- Every request leaves the claim where it is. -/
theorem recoveryRequest_leaves (hstate : claim.state = .settling) (hnone : claim.settlement = none)
    (input : ExecuteClaimInput C) :
    (recoveryRequest options sha256Hex processed input).Follows (outside (finds R a claim) (leaves a))
      (fun _ r => input.actionId = a → ∃ e, r = .error e) () := by
  refine follows_throughMirror ?_
  by_cases ha : input.actionId = a
  · refine Prog.Follows.mono (executePaymentClaim_fails ha hstate hnone) ?_
    intro _ r hr _
    cases r with
    | ok record => exact hr.elim
    | error e => exact ⟨e, rfl⟩
  · -- it asks for another action
    have hother (op : ClaimOp C) (hop : asksFor input op) : leaves a op := by
      cases op with
      | transition t => exact fun h => ha (hop.1.symm.trans h)
      | _ => trivial
    refine Prog.Follows.weaken ?_ hother
    exact Prog.Follows.mono (executePaymentClaim_asks input).follows fun _ _ _ h => absurd h ha

/-- A call that leaves the claim finds it and keeps it. -/
theorem kept_of_effect {op : RecoveryOp C} {r : RecoveryOp.Ans R C op} {w w' : ClaimWorld}
    (hclaim : getByActionId w.journal a = some claim) (hop : op.Asks (leaves a))
    (heffect : RecoveryEffect sha256Hex w op r w') :
    getByActionId w'.journal a = some claim ∧ (outside (finds R a claim) (leaves a)).may op r := by
  cases op with
  | claim op =>
    cases op with
    | getByActionId b =>
      obtain ⟨hr, rfl⟩ := heffect
      refine ⟨hclaim, ?_⟩
      rintro rfl
      rw [hclaim] at hr
      exact hr.imp_right fun hr => ⟨_, hr⟩
    | acquire binding now =>
      refine ⟨?_, trivial⟩
      rcases StoreEffect.journal heffect with hw | ⟨result, hx⟩
      · rwa [hw]
      · rcases acquireIn_ok hx with hw | ⟨-, hw⟩
        · rwa [hw]
        · rw [hw, getByActionId_append, hclaim, Option.some_or]
    | transition t =>
      refine ⟨?_, trivial⟩
      rcases StoreEffect.journal heffect with hw | ⟨moved, hx⟩
      · rwa [hw]
      · obtain ⟨current, -, ⟨-, -, hw⟩ | ⟨-, hget⟩⟩ := transitionIn_ok hx
        · rwa [hw]
        · rwa [hget a, if_neg (Ne.symm hop)]
    | settleVerified b verified =>
      obtain rfl : w' = _ := heffect
      exact ⟨hclaim, trivial⟩
    | _ =>
      obtain rfl : w' = w := heffect
      exact ⟨hclaim, trivial⟩
  | _ =>
    obtain rfl : w' = w := heffect
    exact ⟨hclaim, trivial⟩

/-- While only later requests make calls, the claim is kept, and every later request leaves it. -/
theorem left_of_steps (hstate : claim.state = .settling) (hnone : claim.settlement = none)
    {s t : RecoveryPool R C} {ms : List (RecoveryLabel R C)}
    (hsteps : (recoverySystem options sha256Hex processed).Steps s ms t)
    (hclaim : getByActionId s.shared.journal a = some claim)
    (hlater : ∀ n op r, .call n op r ∈ ms → s.threads n = none) :
    getByActionId t.shared.journal a = some claim ∧
      ∀ n p, s.threads n = none → t.threads n = some p → ∃ input, .start n input ∈ ms ∧
        p.Follows (outside (finds R a claim) (leaves a)) (fun _ r => input.actionId = a → ∃ e, r = .error e) () := by
  induction hsteps with
  | nil =>
    refine ⟨hclaim, ?_⟩
    intro n p hn hp
    rw [hn] at hp
    cases hp
  | @snoc t u ms l hpre hstep ih =>
    obtain ⟨hkept, hthreads⟩ := ih fun n op r hl => hlater n op r (List.mem_append_left _ hl)
    -- the requests that do not move
    have hother {m n : Nat} {w : ClaimWorld} {q : Option (RecoveryProg R C)} {p : RecoveryProg R C} (hne : n ≠ m)
        (hn : s.threads n = none)
        (hp : (t.put w m q).threads n = some p) : ∃ input, .start n input ∈ ms ++ [l] ∧
          p.Follows (outside (finds R a claim) (leaves a)) (fun _ r => input.actionId = a → ∃ e, r = .error e) () := by
      rw [Pool.put_threads_of_ne _ _ _ hne] at hp
      obtain ⟨input, hinput, hfollows⟩ := hthreads n p hn hp
      exact ⟨input, List.mem_append_left _ hinput, hfollows⟩
    cases hstep with
    | @start m input hm =>
      refine ⟨hkept, fun n p hn hp => ?_⟩
      by_cases hne : n = m
      · subst hne
        rw [Pool.put_threads_self] at hp
        cases hp
        exact ⟨input, List.mem_append_right _ (List.mem_singleton_self _), recoveryRequest_leaves hstate hnone input⟩
      · exact hother hne hn hp
    | @call m op k r w hm heffect =>
      have hfree := hlater m op r (List.mem_append_right _ (List.mem_singleton_self _))
      obtain ⟨input, hinput, hop, hnext⟩ := hthreads m _ hfree hm
      obtain ⟨hclaim', hr⟩ := kept_of_effect hkept hop heffect
      refine ⟨hclaim', fun n p hn hp => ?_⟩
      by_cases hne : n = m
      · subst hne
        rw [Pool.put_threads_self] at hp
        cases hp
        exact ⟨input, List.mem_append_left _ hinput, hnext r hr⟩
      · exact hother hne hn hp
    | @lost m =>
      refine ⟨hkept, fun n p hn hp => ?_⟩
      by_cases hne : n = m
      · subst hne
        rw [Pool.put_threads_self] at hp
        cases hp
      · exact hother hne hn hp

end Asking

end Request

/-! ## A settlement whose answer is lost -/

namespace Ambiguous

def options : ReconcilerOptions := ⟨none, none⟩

/-- The payment of `Race.input`, as the Mirror node shows it. -/
def shown : MirrorTransactionsResponse where
  status := 200
  transactions := some
    [{ result := some (js "SUCCESS"), consensusTimestamp := some (js "1790000001.000000001"),
       tokenTransfers := some
        [⟨some (js "0.0.429274"), some (js "0.0.5001"), some (-1000)⟩,
         ⟨some (js "0.0.429274"), some (js "0.0.9001"), some 1000⟩] }]

/-- What the claim binds, under the id of the payment. -/
def query (claim : PaymentClaim) : MirrorUsdcQuery where
  transactionId := Race.settled.transactionId
  payerAccount := claim.binding.payerAccount
  treasuryAccount := claim.binding.payTo
  asset := claim.binding.asset
  amountAtomic := claim.binding.amountAtomic

/-- The facilitator settles, and its answer does not arrive. -/
def answer (w : ClaimWorld) : (op : RecoveryOp Unit) → Option (RecoveryOp.Ans Unit Unit op × ClaimWorld)
  | .fetchTransaction _ => some (some shown, w)
  | .wait _ => some ((), w)
  | .claim (.settleVerified actionId verified) =>
    some (.error .other, { w with settleCalls := w.settleCalls ++ [⟨actionId, verified, .error .other⟩] })
  | .claim op => Race.answer w op

theorem answer_effect (w : ClaimWorld) (op : RecoveryOp Unit) (r : RecoveryOp.Ans Unit Unit op × ClaimWorld)
    (h : answer w op = some r) : RecoveryEffect Race.sha256Hex w op r.1 r.2 := by
  cases op with
  | claim op =>
    have hrace := Race.answer_effect w op r
    cases op with
    | settleVerified actionId verified =>
      cases h
      rfl
    | _ => exact hrace h
  | _ =>
    cases h
    rfl

def main : ExecuteClaimInput Unit → RecoveryProg Unit Unit := recoveryRequest options Race.sha256Hex Race.processed

/-- The request, up to the answer that does not arrive. -/
def moves : List (Move (ExecuteClaimInput Unit)) := Move.request 0 Race.input 8

/-- The same request again. -/
def retry : List (Move (ExecuteClaimInput Unit)) := [.start 1 Race.input, .call 1]

/-- The request has failed with an unknown outcome. -/
def unknown : Option (RecoveryProg Unit Unit) → Bool
  | some (.ret (.error (.access .paymentSettlementUnknown _))) => true
  | _ => false

/-- The calls of the second request. -/
def second : RecoveryLabel Unit Unit → Bool
  | .call n _ _ => n = 1
  | _ => true

def idle : RecoveryPool Unit Unit := ⟨⟨[], []⟩, fun _ => none⟩

theorem played :
    ∃ r ∈ idle.play main answer (fun _ _ => true) moves, ∃ claim ∈ getByActionId r.2.shared.journal (js "act-1"),
      claim.state = .settling ∧ settleCount (js "act-1") r.2.shared = 1 ∧ (r.2.threads 1).isNone ∧
        (verifyUsdcAccessPaymentOnMirror (query claim) shown).toOption.any MirrorUsdcVerification.paid ∧
        ∃ r' ∈ r.2.play main answer (fun _ _ => true) retry, r'.1.all second ∧ unknown (r'.2.threads 1) ∧
          getByActionId r'.2.shared.journal (js "act-1") = some claim := by
  decide +kernel

theorem run_of_moves {ls : List (RecoveryLabel Unit Unit)} {s : RecoveryPool Unit Unit}
    (h : idle.play main answer (fun _ _ => true) moves = some (ls, s)) :
    (recoverySystem options Race.sha256Hex Race.processed).Run ls s := by
  have hempty : ClaimWorld.IsEmpty ⟨[], []⟩ := ⟨rfl, rfl⟩
  exact (run_of_play answer_effect hempty h).of_restrict

theorem steps_of_retry {ms : List (RecoveryLabel Unit Unit)} {s t : RecoveryPool Unit Unit}
    (h : s.play main answer (fun _ _ => true) retry = some (ms, t)) :
    (recoverySystem options Race.sha256Hex Race.processed).Steps s ms t :=
  System.Steps.of_restrict (steps_of_play answer_effect ClaimWorld.IsEmpty h)

theorem eq_one_of_second {ms : List (RecoveryLabel Unit Unit)} (h : ms.all second) {n : Nat} {op : RecoveryOp Unit}
    {r : RecoveryOp.Ans Unit Unit op} (hl : .call n op r ∈ ms) : n = 1 :=
  of_decide_eq_true (List.all_eq_true.mp h _ hl)

theorem exists_of_unknown {p : Option (RecoveryProg Unit Unit)} (h : unknown p) :
    ∃ message, p = some (.ret (.error (.access .paymentSettlementUnknown message))) := by
  unfold unknown at h
  split at h
  · exact ⟨_, rfl⟩
  · cases h

end Ambiguous

/-! ## The result -/

/-- **A claim that is left behind stays behind.** Once the requests that were under way make no further call, a claim
that is `SETTLING` stays exactly as it is in every continuation, however the requests are repeated and whatever the
Mirror node shows, and every later request for it fails. -/
theorem settling_claim_stays {R C : Type} (options : ReconcilerOptions) (sha256Hex : JsString → JsString)
    (processed : R → JsString → Bool) {ls ms : List (RecoveryLabel R C)} {s t : RecoveryPool R C}
    (h : (recoverySystem options sha256Hex processed).Run ls s) {a : JsString} {claim : PaymentClaim}
    (hclaim : getByActionId s.shared.journal a = some claim) (hstate : claim.state = .settling)
    (hsteps : (recoverySystem options sha256Hex processed).Steps s ms t)
    (hlater : ∀ n op r, .call n op r ∈ ms → s.threads n = none) :
    getByActionId t.shared.journal a = some claim ∧
      ∀ n r, s.threads n = none → t.threads n = some (.ret r) →
        ∃ input, .start n input ∈ ms ∧ (input.actionId = a → ∃ e, r = .error e) := by
  have hnone := unrecorded_of_run h a claim hclaim (.inr hstate)
  obtain ⟨hkept, hthreads⟩ := left_of_steps hstate hnone hsteps hclaim hlater
  exact ⟨hkept, fun n r hn hr => hthreads n (.ret r) hn hr⟩

/-- A retry after the answer of the facilitator was lost. -/
theorem settling_claim_stays_retry :
    ∃ (ls ms : List (RecoveryLabel Unit Unit)) (s t : RecoveryPool Unit Unit) (claim : PaymentClaim),
      (recoverySystem Ambiguous.options Race.sha256Hex Race.processed).Run ls s ∧
      (recoverySystem Ambiguous.options Race.sha256Hex Race.processed).Steps s ms t ∧ claim.state = .settling ∧
      getByActionId s.shared.journal (js "act-1") = some claim ∧
      getByActionId t.shared.journal (js "act-1") = some claim := by
  obtain ⟨⟨ls, s⟩, hs, claim, hclaim, hstate, -, hfree, -, ⟨ms, t⟩, ht, hsecond, -, -⟩ := Ambiguous.played
  have hrun := Ambiguous.run_of_moves hs
  have hsteps := Ambiguous.steps_of_retry ht
  have hlater : ∀ n op r, .call n op r ∈ ms → s.threads n = none := by
    intro n op r hl
    rw [Ambiguous.eq_one_of_second hsecond hl]
    exact Option.isNone_iff_eq_none.mp hfree
  exact ⟨ls, ms, s, t, claim, hrun, hsteps, hstate, hclaim, (settling_claim_stays Ambiguous.options Race.sha256Hex
    Race.processed hrun hclaim hstate hsteps hlater).1⟩

/-- The claim is `SETTLING`, the payment went through as the claim binds it, and the same request fails with an unknown
outcome and leaves the claim `SETTLING`. -/
theorem paid_claim_not_recovered :
    ∃ (ls ms : List (RecoveryLabel Unit Unit)) (s t : RecoveryPool Unit Unit) (claim : PaymentClaim),
      (recoverySystem Ambiguous.options Race.sha256Hex Race.processed).Run ls s ∧
      (recoverySystem Ambiguous.options Race.sha256Hex Race.processed).Steps s ms t ∧
      (∀ n input, .start n input ∈ ms → input = Race.input) ∧
      getByActionId s.shared.journal (js "act-1") = some claim ∧ claim.state = .settling ∧
      settleCount (js "act-1") s.shared = 1 ∧
      (∃ v, verifyUsdcAccessPaymentOnMirror (Ambiguous.query claim) Ambiguous.shown = .ok v ∧ v.paid) ∧
      (∃ message, t.threads 1 = some (.ret (.error (.access .paymentSettlementUnknown message)))) ∧
      getByActionId t.shared.journal (js "act-1") = some claim := by
  obtain ⟨⟨ls, s⟩, hs, claim, hclaim, hstate, hcount, -, hpaid, ⟨ms, t⟩, ht, -, hunknown, hkept⟩ := Ambiguous.played
  refine ⟨ls, ms, s, t, claim, Ambiguous.run_of_moves hs, Ambiguous.steps_of_retry ht, ?_, hclaim, hstate, hcount, ?_,
    Ambiguous.exists_of_unknown hunknown, hkept⟩
  · intro n input hl
    have hm := start_mem_of_play ht hl
    simp only [Ambiguous.retry, List.mem_cons, Move.start.injEq, reduceCtorEq, List.not_mem_nil, or_false] at hm
    exact hm.2
  · cases hv : verifyUsdcAccessPaymentOnMirror (Ambiguous.query claim) Ambiguous.shown with
    | ok v =>
      rw [hv] at hpaid
      exact ⟨v, rfl, hpaid⟩
    | error e =>
      rw [hv] at hpaid
      cases hpaid

end RouteGuard.Access
