import RouteGuard.Lib.Guarded
import RouteGuard.Lib.System

/-!
# The freight-principal escrow contract

`RouteGuardFreightEscrowBase`: one token, any number of tenders, one balance per tender.

* `TenderEscrow` : the storage of one tender; `World` : the contract's storage, the token ledger
  and the logs;
* `TokenBoundary` : the abstract `_transferIn` / `_transferOut`, which move exactly the requested
  amount or revert;
* `registerTender` .. `partialRelease` : the nine external operations, check by check;
* `exec` : one call, `submit` : one transaction (a reverted call leaves the world as it was);
* `escrowSystem` : every run of the deployed contract.
-/

namespace RouteGuard.Escrow
open Guarded

abbrev Bytes32 := BitVec 256
abbrev Address := BitVec 160

/-- Largest amount that can be narrowed to the HTS `int64` transfer type. -/
def maxHtsAmount : Nat := 2 ^ 63 - 1

/-- The Solidity narrowing `uint64(x)`. -/
def toUint64 (x : Nat) : Nat := x % 2 ^ 64

inductive EscrowState where
  | unregistered | registered | funded | allocated | disputed | released | refunded
  | partiallyReleased
  deriving DecidableEq, Repr

structure TenderEscrow where
  state : EscrowState := .unregistered
  tenderVersion : BitVec 32 := 0
  shipper : Address := 0
  winner : Address := 0
  maxBudget : Nat := 0
  fundedAmount : Nat := 0
  lockedAmount : Nat := 0
  excessRefunded : Nat := 0
  tenderIdHash : Bytes32 := 0
  manifestHash : Bytes32 := 0
  creationAuthHash : Bytes32 := 0
  decisionManifestHash : Bytes32 := 0
  disputeAuthHash : Bytes32 := 0
  settlementAuthHash : Bytes32 := 0
  deriving DecidableEq, Repr

inductive EscrowEvent where
  | tenderEscrowRegistered (tenderKey tenderIdHash : Bytes32) (tenderVersion : BitVec 32)
      (shipper : Address) (maxBudget : Nat) (token : Address) (creationAuthHash manifestHash : Bytes32)
  | tenderEscrowFunded (tenderKey : Bytes32) (shipper : Address) (fundedAmount : Nat)
  | winnerAllocated (tenderKey : Bytes32) (winner : Address) (winningAmount excessAmount : Nat)
      (decisionManifestHash allocationAuthHash : Bytes32)
  | excessRefunded (tenderKey : Bytes32) (shipper : Address) (excessAmount : Nat)
  | noWinnerRefunded (tenderKey : Bytes32) (shipper : Address) (amount : Nat) (authorizationHash : Bytes32)
  | disputeOpened (tenderKey disputeAuthHash : Bytes32)
  | freightReleased (tenderKey : Bytes32) (winner : Address) (amount : Nat)
      (authorizationHash : Bytes32) (fromDispute : Bool)
  | freightRefunded (tenderKey : Bytes32) (shipper : Address) (amount : Nat)
      (authorizationHash : Bytes32) (fromDispute : Bool)
  | freightPartiallyReleased (tenderKey : Bytes32) (winner shipper : Address)
      (winnerAmount shipperAmount : Nat) (authorizationHash : Bytes32)
  deriving DecidableEq, Repr

/-- The reasons a call reverts. Solidity reports both arithmetic cases as `Panic(0x11)`. -/
inductive EscrowError where
  | invalidState (tenderKey : Bytes32) (expected actual : EscrowState)
  | tenderAlreadyRegistered (tenderKey : Bytes32)
  | tenderNotRegistered (tenderKey : Bytes32)
  | zeroAddressNotAllowed
  | zeroAmountNotAllowed
  | zeroHashNotAllowed
  | amountExceedsHtsRange (amount : Nat)
  | unsupportedToken (token : Address)
  | notAuthorizedShipper (caller : Address)
  | fundingAmountMismatch (required supplied : Nat)
  | winningAmountExceedsBudget (budget winningAmount : Nat)
  | authorizationHashAlreadyUsed (authorizationHash : Bytes32)
  | partialAmountsDoNotConserve (locked supplied : Nat)
  | tokenTransferFailed (responseCode : Int)
  | ownableUnauthorizedAccount (caller : Address)
  | reentrancyGuardReentrantCall
  | arithmeticOverflow
  | arithmeticUnderflow
  deriving DecidableEq, Repr

/-- The role in which an account is paid. -/
inductive Party where
  | winner | shipper
  deriving DecidableEq, Repr

/-- One outbound transfer, with the tender it was made for. -/
structure Payout where
  tenderKey : Bytes32
  party : Party
  receiver : Address
  amount : Nat
  deriving DecidableEq, Repr

/-- The contract's storage, its owner, the token ledger and the two logs: the emitted events, and
every outbound transfer with the tender it served (kept for the statements, read by no operation). -/
structure World where
  tenders : Bytes32 → TenderEscrow
  authorizationHashUsed : Bytes32 → Bool
  totalEscrowedAmount : Nat
  entered : Bool
  owner : Address
  ledger : Address → Nat
  events : List EscrowEvent
  payouts : List Payout

/-- The 32 bytes of a word, the highest first. -/
def wordBytes (word : Nat) : List Nat := (List.range 32).map fun i => word >>> (8 * (31 - i)) % 256

/-- `abi.encode` of three static words. -/
def abiEncode (domain identityHash : Bytes32) (tenderVersion : Nat) : List Nat :=
  wordBytes domain.toNat ++ wordBytes identityHash.toNat ++ wordBytes tenderVersion

/-- The values fixed at construction, and the digest of the machine that runs the contract. -/
structure Deployment where
  self : Address
  escrowToken : Address
  keccak256 : List Nat → Bytes32

section TenderKey
variable (d : Deployment)

def Deployment.TENDER_KEY_DOMAIN : Bytes32 :=
  d.keccak256 ("ROUTEGUARD_V2_FREIGHT_ESCROW_TENDER_KEY_V1".toByteArray.data.toList.map UInt8.toNat)

def Deployment.computeTenderKey (tenderIdHash : Bytes32) (tenderVersion : BitVec 32) : Bytes32 :=
  d.keccak256 (abiEncode d.TENDER_KEY_DOMAIN tenderIdHash tenderVersion.toNat)

end TenderKey

/-- The ledger after `amount` went from `sender` to `receiver`. -/
def moveTokens (ledger : Address → Nat) (sender receiver : Address) (amount : Nat) : Address → Nat :=
  let debited := Function.update ledger sender (ledger sender - amount)
  Function.update debited receiver (debited receiver + amount)

/-- The token boundary of the contract at `escrow`. A transfer that succeeds has moved exactly the
requested amount; the escrow's storage is not the boundary's to change while the reentrancy guard is
up. `shortCode` is the code with which an outbound transfer reports a missing contract balance. -/
structure TokenBoundary (escrow : Address) where
  transferIn : World → Address → Nat → Except Int World
  transferOut : World → Address → Nat → Except Int World
  shortCode : Int
  transferIn_ok : ∀ {w w' : World} {sender : Address} {amount : Nat}, w.entered = true → sender ≠ escrow →
    transferIn w sender amount = .ok w' → amount ≤ w.ledger sender ∧
      w' = { w with ledger := moveTokens w.ledger sender escrow amount, owner := w'.owner }
  transferOut_ok : ∀ {w w' : World} {receiver : Address} {amount : Nat}, w.entered = true →
    transferOut w receiver amount = .ok w' → amount ≤ w.ledger escrow ∧
      w' = { w with ledger := moveTokens w.ledger escrow receiver amount, owner := w'.owner }
  transferOut_short : ∀ {w : World} {receiver : Address} {amount : Nat}, w.entered = true →
    transferOut w receiver amount = .error shortCode → w.ledger escrow < amount

/-! ## Views -/

/-- Amount the contract still holds for a tender with this storage. -/
def TenderEscrow.balance (t : TenderEscrow) : Nat :=
  match t.state with
  | .funded => t.fundedAmount
  | .allocated | .disputed => t.lockedAmount
  | _ => 0

def tenderBalance (w : World) (tenderKey : Bytes32) : Nat := (w.tenders tenderKey).balance

/-! ## Internals -/

namespace World

def setTender (w : World) (tenderKey : Bytes32) (t : TenderEscrow) : World :=
  { w with tenders := Function.update w.tenders tenderKey t }

def emit (w : World) (e : EscrowEvent) : World := { w with events := w.events ++ [e] }

end World

def requireState (tenderKey : Bytes32) (t : TenderEscrow) (expected : EscrowState) :
    Except EscrowError Unit :=
  require (t.state = expected) (.invalidState tenderKey expected t.state)

def consumeAuthorizationHash (w : World) (authorizationHash : Bytes32) : Except EscrowError World := do
  require (w.authorizationHashUsed authorizationHash = false)
    (.authorizationHashAlreadyUsed authorizationHash)
  pure { w with authorizationHashUsed := Function.update w.authorizationHashUsed authorizationHash true }

/-- `totalEscrowedAmount += amount`, checked. -/
def addEscrowed (w : World) (amount : Nat) : Except EscrowError World := do
  require (w.totalEscrowedAmount + amount < 2 ^ 256) .arithmeticOverflow
  pure { w with totalEscrowedAmount := w.totalEscrowedAmount + amount }

/-- `totalEscrowedAmount -= amount`, checked. -/
def subEscrowed (w : World) (amount : Nat) : Except EscrowError World := do
  require (amount ≤ w.totalEscrowedAmount) .arithmeticUnderflow
  pure { w with totalEscrowedAmount := w.totalEscrowedAmount - amount }

def onlyOwner (caller : Address) (w : World) : Except EscrowError Unit :=
  require (caller = w.owner) (.ownableUnauthorizedAccount caller)

/-- The `nonReentrant` modifier: the guard is up while the body runs. -/
def nonReentrant (w : World) (body : World → Except EscrowError World) : Except EscrowError World := do
  require (w.entered = false) .reentrancyGuardReentrantCall
  let w' ← body { w with entered := true }
  pure { w' with entered := false }

section Operations
variable (d : Deployment) (B : TokenBoundary d.self) (caller : Address)

def payIn (w : World) (sender : Address) (amount : Nat) : Except EscrowError World :=
  match B.transferIn w sender amount with
  | .ok w' => .ok w'
  | .error code => .error (.tokenTransferFailed code)

def payOut (w : World) (p : Payout) : Except EscrowError World :=
  match B.transferOut w p.receiver p.amount with
  | .ok w' => .ok { w' with payouts := w'.payouts ++ [p] }
  | .error code => .error (.tokenTransferFailed code)

/-! ## Registration, funding, allocation -/

def registerTender (tenderKey tenderIdHash : Bytes32) (tenderVersion : BitVec 32) (shipper : Address)
    (maxBudget : Nat) (token : Address) (creationAuthHash manifestHash : Bytes32) (w : World) :
    Except EscrowError World := do
  onlyOwner caller w
  nonReentrant w fun w => do
    require ((w.tenders tenderKey).state = .unregistered) (.tenderAlreadyRegistered tenderKey)
    require (shipper ≠ 0) .zeroAddressNotAllowed
    require (token = d.escrowToken) (.unsupportedToken token)
    require (tenderIdHash ≠ 0 ∧ creationAuthHash ≠ 0) .zeroHashNotAllowed
    require (tenderVersion ≠ 0) .zeroAmountNotAllowed
    require (maxBudget ≠ 0) .zeroAmountNotAllowed
    require (maxBudget ≤ maxHtsAmount) (.amountExceedsHtsRange maxBudget)
    require (tenderKey = d.computeTenderKey tenderIdHash tenderVersion) (.tenderNotRegistered tenderKey)
    let w ← consumeAuthorizationHash w creationAuthHash
    let t := w.tenders tenderKey
    pure ((w.setTender tenderKey
      { t with
        state := .registered
        tenderVersion := tenderVersion
        shipper := shipper
        maxBudget := toUint64 maxBudget
        tenderIdHash := tenderIdHash
        manifestHash := manifestHash
        creationAuthHash := creationAuthHash }).emit
      (.tenderEscrowRegistered tenderKey tenderIdHash tenderVersion shipper (toUint64 maxBudget) token
        creationAuthHash manifestHash))

def fundTender (tenderKey : Bytes32) (amount : Nat) (w : World) : Except EscrowError World :=
  nonReentrant w fun w => do
    let t := w.tenders tenderKey
    requireState tenderKey t .registered
    require (caller = t.shipper) (.notAuthorizedShipper caller)
    require (amount = t.maxBudget) (.fundingAmountMismatch t.maxBudget amount)
    let funded := toUint64 amount
    let w := w.setTender tenderKey { t with state := .funded, fundedAmount := funded }
    let w ← addEscrowed w funded
    let w ← payIn d B w caller funded
    pure (w.emit (.tenderEscrowFunded tenderKey caller funded))

def allocateWinner (tenderKey : Bytes32) (winner : Address) (winningAmount : Nat)
    (decisionManifestHash allocationAuthHash : Bytes32) (w : World) : Except EscrowError World := do
  onlyOwner caller w
  nonReentrant w fun w => do
    let t := w.tenders tenderKey
    requireState tenderKey t .funded
    require (winner ≠ 0) .zeroAddressNotAllowed
    require (winningAmount ≠ 0) .zeroAmountNotAllowed
    require (winningAmount ≤ maxHtsAmount) (.amountExceedsHtsRange winningAmount)
    require (winningAmount ≤ t.fundedAmount) (.winningAmountExceedsBudget t.fundedAmount winningAmount)
    require (decisionManifestHash ≠ 0 ∧ allocationAuthHash ≠ 0) .zeroHashNotAllowed
    let w ← consumeAuthorizationHash w allocationAuthHash
    let locked := toUint64 winningAmount
    -- the checked `uint64` subtraction
    require (locked ≤ t.fundedAmount) .arithmeticUnderflow
    let excess := t.fundedAmount - locked
    let w := w.setTender tenderKey
      { t with
        state := .allocated
        winner := winner
        lockedAmount := locked
        excessRefunded := excess
        decisionManifestHash := decisionManifestHash }
    let w ← subEscrowed w excess
    let w := w.emit
      (.winnerAllocated tenderKey winner locked excess decisionManifestHash allocationAuthHash)
    if 0 < excess then
      let w ← payOut d B w ⟨tenderKey, .shipper, t.shipper, excess⟩
      pure (w.emit (.excessRefunded tenderKey t.shipper excess))
    else pure w

/-! ## Settlement -/

/-- What distinguishes the four operations that settle a tender in full: the state they start from,
the state they end in, whom and how much they pay, and the event they emit. -/
structure FullSettlement where
  expected : EscrowState
  final : EscrowState
  party : Party
  payee : TenderEscrow → Address
  amount : TenderEscrow → Nat
  event : Bytes32 → Address → Nat → Bytes32 → EscrowEvent

/-- The common body of `refundNoQualifiedBid`, `releaseFull`, `resolveDisputeRelease` and
`refundFull`. -/
def settleFull (f : FullSettlement) (tenderKey authorizationHash : Bytes32) (w : World) :
    Except EscrowError World := do
  onlyOwner caller w
  nonReentrant w fun w => do
    let t := w.tenders tenderKey
    requireState tenderKey t f.expected
    require (authorizationHash ≠ 0) .zeroHashNotAllowed
    let w ← consumeAuthorizationHash w authorizationHash
    let w := w.setTender tenderKey { t with state := f.final, settlementAuthHash := authorizationHash }
    let w ← subEscrowed w (f.amount t)
    let w := w.emit (f.event tenderKey (f.payee t) (f.amount t) authorizationHash)
    payOut d B w ⟨tenderKey, f.party, f.payee t, f.amount t⟩

def noQualifiedBidRefund : FullSettlement where
  expected := .funded
  final := .refunded
  party := .shipper
  payee := TenderEscrow.shipper
  amount := TenderEscrow.fundedAmount
  event := .noWinnerRefunded

def fullRelease : FullSettlement where
  expected := .allocated
  final := .released
  party := .winner
  payee := TenderEscrow.winner
  amount := TenderEscrow.lockedAmount
  event k a n h := .freightReleased k a n h false

def disputeRelease : FullSettlement where
  expected := .disputed
  final := .released
  party := .winner
  payee := TenderEscrow.winner
  amount := TenderEscrow.lockedAmount
  event k a n h := .freightReleased k a n h true

def disputeRefund : FullSettlement where
  expected := .disputed
  final := .refunded
  party := .shipper
  payee := TenderEscrow.shipper
  amount := TenderEscrow.lockedAmount
  event k a n h := .freightRefunded k a n h true

def refundNoQualifiedBid (tenderKey authorizationHash : Bytes32) (w : World) : Except EscrowError World :=
  settleFull d B caller noQualifiedBidRefund tenderKey authorizationHash w

def releaseFull (tenderKey authorizationHash : Bytes32) (w : World) : Except EscrowError World :=
  settleFull d B caller fullRelease tenderKey authorizationHash w

def resolveDisputeRelease (tenderKey refereeAuthHash : Bytes32) (w : World) : Except EscrowError World :=
  settleFull d B caller disputeRelease tenderKey refereeAuthHash w

def refundFull (tenderKey refereeAuthHash : Bytes32) (w : World) : Except EscrowError World :=
  settleFull d B caller disputeRefund tenderKey refereeAuthHash w

def openDispute (tenderKey disputeAuthHash : Bytes32) (w : World) : Except EscrowError World := do
  onlyOwner caller w
  nonReentrant w fun w => do
    let t := w.tenders tenderKey
    requireState tenderKey t .allocated
    require (disputeAuthHash ≠ 0) .zeroHashNotAllowed
    let w ← consumeAuthorizationHash w disputeAuthHash
    let w := w.setTender tenderKey { t with state := .disputed, disputeAuthHash := disputeAuthHash }
    pure (w.emit (.disputeOpened tenderKey disputeAuthHash))

/-- The two transfers of a partial release: a zero share is not transferred. -/
def payOutPositive (w : World) (p : Payout) : Except EscrowError World :=
  if 0 < p.amount then payOut d B w p else pure w

def partialRelease (tenderKey : Bytes32) (winnerAmount shipperAmount : Nat) (refereeAuthHash : Bytes32)
    (w : World) : Except EscrowError World := do
  onlyOwner caller w
  nonReentrant w fun w => do
    let t := w.tenders tenderKey
    requireState tenderKey t .disputed
    require (refereeAuthHash ≠ 0) .zeroHashNotAllowed
    require (winnerAmount ≤ maxHtsAmount) (.amountExceedsHtsRange winnerAmount)
    require (shipperAmount ≤ maxHtsAmount) (.amountExceedsHtsRange shipperAmount)
    require (¬ (winnerAmount = 0 ∧ shipperAmount = 0)) .zeroAmountNotAllowed
    require (winnerAmount + shipperAmount = t.lockedAmount)
      (.partialAmountsDoNotConserve t.lockedAmount (winnerAmount + shipperAmount))
    let w ← consumeAuthorizationHash w refereeAuthHash
    let toWinner := toUint64 winnerAmount
    let toShipper := toUint64 shipperAmount
    let w := w.setTender tenderKey
      { t with state := .partiallyReleased, settlementAuthHash := refereeAuthHash }
    let w ← subEscrowed w t.lockedAmount
    let w := w.emit
      (.freightPartiallyReleased tenderKey t.winner t.shipper toWinner toShipper refereeAuthHash)
    let w ← payOutPositive d B w ⟨tenderKey, .winner, t.winner, toWinner⟩
    payOutPositive d B w ⟨tenderKey, .shipper, t.shipper, toShipper⟩

end Operations

/-! ## Calls, transactions, runs -/

inductive EscrowCall where
  | registerTender (tenderKey tenderIdHash : Bytes32) (tenderVersion : BitVec 32) (shipper : Address)
      (maxBudget : Nat) (token : Address) (creationAuthHash manifestHash : Bytes32)
  | fundTender (tenderKey : Bytes32) (amount : Nat)
  | allocateWinner (tenderKey : Bytes32) (winner : Address) (winningAmount : Nat)
      (decisionManifestHash allocationAuthHash : Bytes32)
  | refundNoQualifiedBid (tenderKey authorizationHash : Bytes32)
  | releaseFull (tenderKey authorizationHash : Bytes32)
  | openDispute (tenderKey disputeAuthHash : Bytes32)
  | resolveDisputeRelease (tenderKey refereeAuthHash : Bytes32)
  | refundFull (tenderKey refereeAuthHash : Bytes32)
  | partialRelease (tenderKey : Bytes32) (winnerAmount shipperAmount : Nat) (refereeAuthHash : Bytes32)
  deriving DecidableEq, Repr

namespace EscrowCall

def tenderKey : EscrowCall → Bytes32
  | registerTender k .. | fundTender k _ | allocateWinner k .. | refundNoQualifiedBid k _
  | releaseFull k _ | openDispute k _ | resolveDisputeRelease k _ | refundFull k _
  | partialRelease k .. => k

/-- The authorization hash the call consumes; funding consumes none. -/
def authorizationHash : EscrowCall → Option Bytes32
  | registerTender _ _ _ _ _ _ h _ => some h
  | fundTender .. => none
  | allocateWinner _ _ _ _ h => some h
  | refundNoQualifiedBid _ h | releaseFull _ h | openDispute _ h | resolveDisputeRelease _ h
  | refundFull _ h => some h
  | partialRelease _ _ _ h => some h

/-- The operations that end a tender. -/
def isSettlement : EscrowCall → Bool
  | refundNoQualifiedBid .. | releaseFull .. | resolveDisputeRelease .. | refundFull ..
  | partialRelease .. => true
  | _ => false

/-- The operations that may pay the winner. -/
def isRelease : EscrowCall → Bool
  | releaseFull .. | resolveDisputeRelease .. | partialRelease .. => true
  | _ => false

/-- What the call brings into the contract. -/
def received : EscrowCall → Nat
  | fundTender _ amount => toUint64 amount
  | _ => 0

end EscrowCall

/-- One external call. -/
def exec (d : Deployment) (B : TokenBoundary d.self) (caller : Address) (call : EscrowCall) (w : World) :
    Except EscrowError World :=
  match call with
  | .registerTender k i v s m t c h => registerTender d caller k i v s m t c h w
  | .fundTender k a => fundTender d B caller k a w
  | .allocateWinner k wn a m h => allocateWinner d B caller k wn a m h w
  | .refundNoQualifiedBid k h => refundNoQualifiedBid d B caller k h w
  | .releaseFull k h => releaseFull d B caller k h w
  | .openDispute k h => openDispute caller k h w
  | .resolveDisputeRelease k h => resolveDisputeRelease d B caller k h w
  | .refundFull k h => refundFull d B caller k h w
  | .partialRelease k a b h => partialRelease d B caller k a b h w

/-- One transaction: a call that reverts leaves the world as it was. -/
def submit (d : Deployment) (B : TokenBoundary d.self) (caller : Address) (call : EscrowCall) (w : World) :
    World :=
  match exec d B caller call w with
  | .ok w' => w'
  | .error _ => w

inductive EscrowLabel where
  | success (caller : Address) (call : EscrowCall)
  | reverted (caller : Address) (call : EscrowCall)
  | environment
  deriving DecidableEq, Repr

/-- The storage a constructor leaves, over any token ledger and owner. -/
def IsDeployed (w : World) : Prop :=
  w.tenders = (fun _ => {}) ∧ w.authorizationHashUsed = (fun _ => false) ∧
    w.totalEscrowedAmount = 0 ∧ w.entered = false ∧ w.events = [] ∧ w.payouts = []

/-- One step of the deployed contract. Every transaction may meet a different token boundary (accounts
are frozen, associated, emptied between transactions). The contract has no code that calls itself, so
it is never the caller. Between transactions ownership may move and anything may happen on the token
ledger, except that nobody else can spend the contract's balance. -/
inductive EscrowStep (d : Deployment) : World → EscrowLabel → World → Prop
  | success {w w' : World} (B : TokenBoundary d.self) {caller : Address} {call : EscrowCall}
      (hself : caller ≠ d.self) (h : exec d B caller call w = .ok w') :
      EscrowStep d w (.success caller call) w'
  | reverted {w : World} (B : TokenBoundary d.self) {caller : Address} {call : EscrowCall}
      {e : EscrowError} (hself : caller ≠ d.self) (h : exec d B caller call w = .error e) :
      EscrowStep d w (.reverted caller call) (submit d B caller call w)
  | environment {w : World} {owner : Address} {ledger : Address → Nat}
      (h : w.ledger d.self ≤ ledger d.self) :
      EscrowStep d w .environment { w with owner := owner, ledger := ledger }

def escrowSystem (d : Deployment) : System World EscrowLabel where
  init := IsDeployed
  step := EscrowStep d

end RouteGuard.Escrow
