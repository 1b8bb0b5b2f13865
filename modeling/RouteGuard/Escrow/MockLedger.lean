import RouteGuard.Escrow.Step

/-!
# The in-contract ledger

`MockLedgerFreightEscrow`: the token boundary as a balance map. A transfer fails for the failing account
or for want of balance, and an outbound transfer may call back into the escrow.

* `exec_entered` : while the guard is up every call reverts;
* `mockLedger` : the ledger is a `TokenBoundary`, callback included;
* `runCalls` : a list of calls, executed, with `run_of_runCalls` for the run it is.
-/

namespace RouteGuard.Escrow
open Guarded

/-! ## Reentrancy -/

theorem nonReentrant_entered {w : World} (body : World → Except EscrowError World)
    (hin : w.entered = true) : ∃ e, nonReentrant w body = .error e :=
  ⟨.reentrancyGuardReentrantCall, nonReentrant_eq_error.mpr (.inl ⟨hin, rfl⟩)⟩

theorem onlyOwner_nonReentrant_entered {w : World} {caller : Address}
    (body : World → Except EscrowError World) (hin : w.entered = true) :
    ∃ e, (onlyOwner caller w >>= fun _ => nonReentrant w body) = .error e := by
  by_cases hcaller : caller = w.owner
  · obtain ⟨e, he⟩ := nonReentrant_entered body hin
    exact ⟨e, bind_eq_error.mpr (.inr ⟨(), require_eq_ok.mpr hcaller, he⟩)⟩
  · exact ⟨_, bind_eq_error.mpr (.inl (require_eq_error.mpr ⟨hcaller, rfl⟩))⟩

/-- While the guard is up every call reverts, whoever makes it and whatever the token does. -/
theorem exec_entered {d : Deployment} (B : TokenBoundary d.self) (caller : Address) (call : EscrowCall)
    {w : World} (hin : w.entered = true) : ∃ e, exec d B caller call w = .error e := by
  cases call with
  | fundTender =>
    rw [exec, fundTender]
    exact nonReentrant_entered _ hin
  | registerTender => exact onlyOwner_nonReentrant_entered _ hin
  | allocateWinner => exact onlyOwner_nonReentrant_entered _ hin
  | refundNoQualifiedBid => exact onlyOwner_nonReentrant_entered _ hin
  | releaseFull => exact onlyOwner_nonReentrant_entered _ hin
  | openDispute => exact onlyOwner_nonReentrant_entered _ hin
  | resolveDisputeRelease => exact onlyOwner_nonReentrant_entered _ hin
  | refundFull => exact onlyOwner_nonReentrant_entered _ hin
  | partialRelease => exact onlyOwner_nonReentrant_entered _ hin

theorem submit_of_error {d : Deployment} {B : TokenBoundary d.self} {caller : Address}
    {call : EscrowCall} {w : World} {e : EscrowError} (hex : exec d B caller call w = .error e) :
    submit d B caller call w = w := by
  unfold submit
  rw [hex]

/-- A call made from inside a transfer changes nothing. -/
theorem submit_entered {d : Deployment} (B : TokenBoundary d.self) (caller : Address) (call : EscrowCall)
    {w : World} (hin : w.entered = true) : submit d B caller call w = w := by
  obtain ⟨e, he⟩ := exec_entered B caller call hin
  exact submit_of_error he

/-! ## The ledger -/

/-- Both transfers of the ledger: −1 for the failing account, −2 for want of balance. -/
def ledgerTransfer (failingAccount account : Address) (w : World) (sender receiver : Address)
    (amount : Nat) : Except Int World := do
  require (account ≠ failingAccount) (-1)
  require (amount ≤ w.ledger sender) (-2)
  pure { w with ledger := moveTokens w.ledger sender receiver amount }

theorem ledgerTransfer_eq_ok {failingAccount account : Address} {w w' : World} {sender receiver : Address}
    {amount : Nat} : ledgerTransfer failingAccount account w sender receiver amount = .ok w' ↔
      account ≠ failingAccount ∧ amount ≤ w.ledger sender ∧
        w' = { w with ledger := moveTokens w.ledger sender receiver amount } := by
  simp only [ledgerTransfer, bind_eq_ok, require_eq_ok, exists_const, pure_eq_ok, eq_comm (b := w')]

theorem ledgerTransfer_short {failingAccount account : Address} {w : World} {sender receiver : Address}
    {amount : Nat} (h : ledgerTransfer failingAccount account w sender receiver amount = .error (-2)) :
    w.ledger sender < amount := by
  simp only [ledgerTransfer, bind_eq_error, require_eq_error, pure_ne_error, and_false, exists_false,
    or_false] at h
  rcases h with ⟨-, h⟩ | ⟨_, -, h, -⟩
  · exact absurd h (by decide)
  · omega

/-- The ledger without a callback. -/
def plainLedger (escrow failingAccount : Address) : TokenBoundary escrow where
  transferIn w sender amount := ledgerTransfer failingAccount sender w sender escrow amount
  transferOut w receiver amount := ledgerTransfer failingAccount receiver w escrow receiver amount
  shortCode := -2
  transferIn_ok _ _ h := by
    obtain ⟨-, hle, rfl⟩ := ledgerTransfer_eq_ok.mp h
    exact ⟨hle, rfl⟩
  transferOut_ok _ h := by
    obtain ⟨-, hle, rfl⟩ := ledgerTransfer_eq_ok.mp h
    exact ⟨hle, rfl⟩
  transferOut_short _ h := ledgerTransfer_short h

/-- The callback of the recipient: `reentrantAccount` re-enters with its calldata, and its outcome is
its own affair. -/
def reenter (d : Deployment) (failingAccount : Address) (reentrant : Option (Address × EscrowCall))
    (receiver : Address) (w : World) : World :=
  match reentrant with
  | some (account, call) =>
    if receiver = account then submit d (plainLedger d.self failingAccount) account call w else w
  | none => w

theorem reenter_entered {d : Deployment} {failingAccount : Address}
    {reentrant : Option (Address × EscrowCall)} {receiver : Address} {w : World} (hin : w.entered = true) :
    reenter d failingAccount reentrant receiver w = w := by
  unfold reenter
  split
  · split
    · exact submit_entered _ _ _ hin
    · rfl
  · rfl

/-- `MockLedgerFreightEscrow`'s token boundary. -/
def mockLedger (d : Deployment) (failingAccount : Address) (reentrant : Option (Address × EscrowCall)) :
    TokenBoundary d.self where
  transferIn w sender amount := ledgerTransfer failingAccount sender w sender d.self amount
  transferOut w receiver amount := do
    let w' ← ledgerTransfer failingAccount receiver w d.self receiver amount
    pure (reenter d failingAccount reentrant receiver w')
  shortCode := -2
  transferIn_ok _ _ h := by
    obtain ⟨-, hle, rfl⟩ := ledgerTransfer_eq_ok.mp h
    exact ⟨hle, rfl⟩
  transferOut_ok hin h := by
    simp only [bind_eq_ok, pure_eq_ok, ledgerTransfer_eq_ok] at h
    obtain ⟨w₁, ⟨-, hle, rfl⟩, rfl⟩ := h
    rw [reenter_entered (by exact hin)]
    exact ⟨hle, rfl⟩
  transferOut_short _ h := by
    simp only [bind_eq_error, pure_ne_error, and_false, exists_false, or_false] at h
    exact ledgerTransfer_short h

/-! ## Running calls -/

/-- A list of calls, each of which must succeed. -/
def runCalls (d : Deployment) (B : TokenBoundary d.self) :
    List (Address × EscrowCall) → World → Except EscrowError World
  | [], w => pure w
  | (caller, call) :: rest, w => do
    let w' ← exec d B caller call w
    runCalls d B rest w'

theorem steps_of_runCalls {d : Deployment} {B : TokenBoundary d.self} {calls : List (Address × EscrowCall)}
    {w w' : World} (hself : ∀ c ∈ calls, c.1 ≠ d.self) (h : runCalls d B calls w = .ok w') :
    (escrowSystem d).Steps w (calls.map fun c => .success c.1 c.2) w' := by
  induction calls generalizing w with
  | nil =>
    rw [runCalls, pure_eq_ok] at h
    subst h
    exact .nil w
  | cons c rest ih =>
    obtain ⟨caller, call⟩ := c
    rw [runCalls, bind_eq_ok] at h
    obtain ⟨w₁, hex, hrest⟩ := h
    have hfirst : (escrowSystem d).Steps w [.success caller call] w₁ :=
      .single (.success B (hself _ List.mem_cons_self) hex)
    exact hfirst.trans (ih (fun c hc => hself c (List.mem_cons_of_mem _ hc)) hrest)

/-- The world after deployment, over a token ledger. -/
def deployed (owner : Address) (ledger : Address → Nat) : World where
  tenders _ := {}
  authorizationHashUsed _ := false
  totalEscrowedAmount := 0
  entered := false
  owner := owner
  ledger := ledger
  events := []
  payouts := []

/-- A list of calls that executes from deployment is a run, whose last world is what executing gives. -/
theorem run_of_runCalls {d : Deployment} (B : TokenBoundary d.self) (calls : List (Address × EscrowCall))
    (owner : Address) (ledger : Address → Nat) (P : World → Prop) (hself : ∀ c ∈ calls, c.1 ≠ d.self)
    (h : ∃ w ∈ (runCalls d B calls (deployed owner ledger)).toOption, P w) :
    ∃ w, (escrowSystem d).Run (calls.map fun c => .success c.1 c.2) w ∧ P w := by
  obtain ⟨w, hw, hP⟩ := h
  refine ⟨w, ⟨deployed owner ledger, ⟨rfl, rfl, rfl, rfl, rfl, rfl⟩, ?_⟩, hP⟩
  apply steps_of_runCalls hself
  cases hr : runCalls d B calls (deployed owner ledger) with
  | ok w₁ =>
    rw [hr] at hw
    cases hw
    rfl
  | error e =>
    rw [hr] at hw
    cases hw

/-! ## A sample run -/

namespace Sample

def operator : Address := 0xA11CE
def shipper : Address := 0xB0B
def carrier : Address := 0xCA221E2

/-- The key of version 1 of the tender with identity hash 1. -/
def tenderKey : Bytes32 := 0x315b80fd737ff36fcad72bb5342055225adc0dbea84caa07449a80975c7825e2

def deployment : Deployment where
  self := 0xE5C20
  escrowToken := 0x0DC
  keccak256 _ := tenderKey

/-- A disputed tender that ends in a split, up to the referee's decision. -/
def disputed : List (Address × EscrowCall) :=
  [(operator, .registerTender tenderKey 1 1 shipper 1000 0x0DC 11 99),
   (shipper, .fundTender tenderKey 1000),
   (operator, .allocateWinner tenderKey carrier 700 98 12),
   (operator, .openDispute tenderKey 13)]

def split : List (Address × EscrowCall) :=
  disputed ++ [(operator, .partialRelease tenderKey 450 250 14)]

/-- The carrier re-enters when it is paid. -/
def boundary : TokenBoundary deployment.self :=
  mockLedger deployment 0 (some (carrier, .releaseFull tenderKey 15))

def balances : Address → Nat := Function.update (fun _ => 0) shipper 5000

end Sample

end RouteGuard.Escrow
