import RouteGuard.Access.Fee
import RouteGuard.Domain.Signature
import RouteGuard.Escrow.Contract
import RouteGuard.Lib.Keccak

/-!
# Transaction plans

The boundary between the application's texts and the contract's words.

* `tenderIdHash`, `escrowTenderKey`, `assertEvmAddress`, .. : the identities, as hexadecimal texts;
* `assertPositiveEscrowAmount`, .. : the atomic amounts, bounded to the token's transfer range;
* `buildRegisterTenderPlan` .. `buildPartialReleasePlan` : the plan builders;
* `EscrowTransactionPlan.call` : the contract call a plan stands for.
-/

namespace RouteGuard.Escrow
open JsString Guarded Access

/-! ## Errors -/

inductive EscrowIdentityErrorCode where
  | INVALID_TENDER_ID | INVALID_TENDER_VERSION | INVALID_HASH | INVALID_ADDRESS | INVALID_ACCOUNT_ID
  deriving DecidableEq, Repr

inductive EscrowAmountErrorCode where
  | NOT_ATOMIC_STRING | NOT_POSITIVE | EXCEEDS_HTS_RANGE | CONSERVATION_FAILED
  deriving DecidableEq, Repr

/-- What a plan builder throws; `invalidString` comes from the encoder of the identity hash. -/
inductive PlanError where
  | identity (code : EscrowIdentityErrorCode) (message : JsString)
  | amount (code : EscrowAmountErrorCode) (message : JsString)
  | invalidString (value : JsString)
  deriving DecidableEq, Repr

/-! ## Identities -/

/-- The functions of the Ethereum library: the Keccak-256 digest of bytes, and the UTF-8 encoding of a
string, which refuses some strings that are no Unicode text. -/
structure Ethers where
  keccak256 : List Nat → Bytes32
  toUtf8Bytes : JsString → Option (List Nat)

def ESCROW_TENDER_KEY_DOMAIN_STRING : JsString := js "ROUTEGUARD_V2_FREIGHT_ESCROW_TENDER_KEY_V1"

/-- The text of a word of 32 bytes. -/
def bytes32Text (word : Bytes32) : JsString := js "0x" ++ Keccak.toHex 64 word.toNat

/-- The word of `width` bits that a hexadecimal text denotes. -/
def hexValue (width : Nat) (value : JsString) : Option (BitVec width) :=
  (radixValue 16 (value.drop 2)).map (BitVec.ofNat width)

def ZERO_HASH : JsString := js "0x" ++ List.replicate 64 0x30

def ZERO_ADDRESS : JsString := js "0x" ++ List.replicate 40 0x30

/-- `BYTES32_RE`. -/
def isBytes32 (value : JsString) : Bool :=
  value.length = 66 && value.take 2 = js "0x" && (value.drop 2).all isLowerHex

/-- `EVM_ADDRESS_RE`. -/
def isEvmAddress (value : JsString) : Bool :=
  value.length = 42 && value.take 2 = js "0x" && (value.drop 2).all isHex

/-- `toLowerCase` of a text of ASCII letters. -/
def lowerAscii (value : JsString) : JsString := value.map fun u => if 0x41 ≤ u && u ≤ 0x5A then u + 0x20 else u

def assertBytes32 (value label : JsString) : Except PlanError JsString := do
  require (isBytes32 value)
    (.identity .INVALID_HASH (label ++ js " must be 0x-prefixed 32-byte lowercase hex"))
  pure value

def assertAuthorizationHash (value label : JsString) : Except PlanError JsString := do
  let hash ← assertBytes32 value label
  require (hash ≠ ZERO_HASH) (.identity .INVALID_HASH (label ++ js " must not be zero"))
  pure hash

def assertEvmAddress (value label : JsString) : Except PlanError JsString := do
  require (isEvmAddress value)
    (.identity .INVALID_ADDRESS (label ++ js " must be a 20-byte 0x-prefixed EVM address"))
  require (lowerAscii value ≠ ZERO_ADDRESS)
    (.identity .INVALID_ADDRESS (label ++ js " must not be the zero address"))
  pure (lowerAscii value)

def assertTenderVersion (tenderVersion : Int) : Except PlanError Int := do
  require (1 ≤ tenderVersion ∧ tenderVersion ≤ 0xffffffff)
    (.identity .INVALID_TENDER_VERSION (js "tenderVersion must be a uint32 >= 1"))
  pure tenderVersion

section Keys
variable (e : Ethers)

/-- The separator is a constant of ASCII characters. -/
def tenderKeyDomain : Bytes32 := e.keccak256 (ESCROW_TENDER_KEY_DOMAIN_STRING.map UInt16.toNat)

def tenderIdHash (tenderId : JsString) : Except PlanError JsString := do
  require (tenderId.length ≠ 0 ∧ tenderId.length ≤ 128)
    (.identity .INVALID_TENDER_ID (js "tenderId must be a non-empty string of at most 128 characters"))
  match e.toUtf8Bytes tenderId with
  | none => .error (.invalidString tenderId)
  | some bytes => pure (bytes32Text (e.keccak256 bytes))

def escrowTenderKeyFromHash (identityHash : JsString) (tenderVersion : Int) : Except PlanError JsString := do
  let identityHash ← assertBytes32 identityHash (js "tenderIdHash")
  let version ← assertTenderVersion tenderVersion
  let identity := (hexValue 256 identityHash).getD 0
  pure (bytes32Text (e.keccak256 (abiEncode (tenderKeyDomain e) identity version.toNat)))

def escrowTenderKey (tenderId : JsString) (tenderVersion : Int) : Except PlanError JsString := do
  let identityHash ← tenderIdHash e tenderId
  escrowTenderKeyFromHash e identityHash tenderVersion

/-- The contract runs where the digest is that of the library: both are Keccak-256. -/
def Ethers.Deploys (d : Deployment) : Prop := d.keccak256 = e.keccak256

end Keys

/-! ## Amounts -/

/-- The common body of the two amount checks. -/
def assertEscrowAmount (isAtomic : JsString → Bool) (kind value label : JsString) : Except PlanError Nat := do
  require (isAtomic value)
    (.amount .NOT_ATOMIC_STRING (label ++ js " must be a " ++ kind ++ js " atomic integer string"))
  require (digitsValue value ≤ maxHtsAmount)
    (.amount .EXCEEDS_HTS_RANGE (label ++ js " exceeds the HTS int64 transfer range"))
  pure (digitsValue value)

def assertPositiveEscrowAmount (value label : JsString) : Except PlanError Nat :=
  assertEscrowAmount isPositiveAtomicString (js "positive") value label

def assertNonNegativeEscrowAmount (value label : JsString) : Except PlanError Nat :=
  assertEscrowAmount isNonNegativeAtomicString (js "non-negative") value label

/-- Partial settlement conservation against the locked amount. -/
def assertPartialConservation (lockedAmountAtomic winnerAmountAtomic shipperAmountAtomic : JsString) :
    Except PlanError Unit := do
  let locked ← assertPositiveEscrowAmount lockedAmountAtomic (js "lockedAmountAtomic")
  let toWinner ← assertNonNegativeEscrowAmount winnerAmountAtomic (js "winnerAmountAtomic")
  let toShipper ← assertNonNegativeEscrowAmount shipperAmountAtomic (js "shipperAmountAtomic")
  require (¬ (toWinner = 0 ∧ toShipper = 0))
    (.amount .NOT_POSITIVE (js "a partial release must move a positive amount to at least one party"))
  require (toWinner + toShipper = locked)
    (.amount .CONSERVATION_FAILED
      (js "winnerAmountAtomic + shipperAmountAtomic must equal lockedAmountAtomic"))

def deriveExcessRefundAtomic (fundedAmountAtomic winningAmountAtomic : JsString) : Except PlanError JsString := do
  let funded ← assertPositiveEscrowAmount fundedAmountAtomic (js "fundedAmountAtomic")
  let winning ← assertPositiveEscrowAmount winningAmountAtomic (js "winningAmountAtomic")
  require (winning ≤ funded)
    (.amount .CONSERVATION_FAILED (js "winningAmountAtomic must not exceed fundedAmountAtomic"))
  pure (decimal (funded - winning))

/-! ## Plans -/

inductive EscrowOperation where
  | REGISTER_TENDER | FUND_TENDER | ALLOCATE_WINNER | REFUND_NO_QUALIFIED_BID | RELEASE_FULL | OPEN_DISPUTE
  | RESOLVE_DISPUTE_RELEASE | REFUND_FULL | PARTIAL_RELEASE
  deriving DecidableEq, Repr

/-- Who must sign the resulting transaction. -/
inductive EscrowSignerRole where
  | OPERATOR | SHIPPER
  deriving DecidableEq, Repr

/-- A `uint256` is an atomic integer string. -/
inductive EscrowArgument where
  | bytes32 (value : JsString)
  | address (value : JsString)
  | uint32 (value : Int)
  | uint256 (value : JsString)
  deriving DecidableEq, Repr

structure EscrowTransactionPlan where
  operation : EscrowOperation
  contractFunction : JsString
  functionSignature : JsString
  args : List EscrowArgument
  tenderKey : JsString
  signerRole : EscrowSignerRole
  gasLimit : Nat
  deriving DecidableEq, Repr

def GAS : EscrowOperation → Nat
  | .REGISTER_TENDER => 400000
  | .FUND_TENDER => 900000
  | .ALLOCATE_WINNER => 1200000
  | .REFUND_NO_QUALIFIED_BID => 900000
  | .RELEASE_FULL => 900000
  | .OPEN_DISPUTE => 300000
  | .RESOLVE_DISPUTE_RELEASE => 900000
  | .REFUND_FULL => 900000
  | .PARTIAL_RELEASE => 1400000

def plan (operation : EscrowOperation) (contractFunction functionSignature tenderKey : JsString)
    (signerRole : EscrowSignerRole) (args : List EscrowArgument) : EscrowTransactionPlan :=
  { operation, contractFunction, functionSignature, args, tenderKey, signerRole, gasLimit := GAS operation }

section Builders
variable (e : Ethers)

/-- A missing manifest hash is sent as zero. -/
def assertManifestHash : Option JsString → Except PlanError JsString
  | none => pure ZERO_HASH
  | some hash => assertBytes32 hash (js "manifestHash")

def buildRegisterTenderPlan (tenderId : JsString) (tenderVersion : Int) (shipperAddress
    maximumFreightBudgetAtomic escrowTokenAddress creationAuthorizationHash : JsString)
    (manifestHash : Option JsString) : Except PlanError EscrowTransactionPlan := do
  let version ← assertTenderVersion tenderVersion
  let identityHash ← tenderIdHash e tenderId
  let tenderKey ← escrowTenderKey e tenderId version
  let budget ← assertPositiveEscrowAmount maximumFreightBudgetAtomic (js "maximumFreightBudgetAtomic")
  let manifest ← assertManifestHash manifestHash
  let shipper ← assertEvmAddress shipperAddress (js "shipperAddress")
  let token ← assertEvmAddress escrowTokenAddress (js "escrowTokenAddress")
  let creation ← assertAuthorizationHash creationAuthorizationHash (js "creationAuthorizationHash")
  pure (plan .REGISTER_TENDER (js "registerTender")
    (js "registerTender(bytes32,bytes32,uint32,address,uint256,address,bytes32,bytes32)") tenderKey .OPERATOR
    [.bytes32 tenderKey, .bytes32 identityHash, .uint32 version, .address shipper, .uint256 (decimal budget),
     .address token, .bytes32 creation, .bytes32 manifest])

/-- The amount is the whole budget. -/
def buildFundTenderPlan (tenderId : JsString) (tenderVersion : Int) (maximumFreightBudgetAtomic : JsString) :
    Except PlanError EscrowTransactionPlan := do
  let version ← assertTenderVersion tenderVersion
  let tenderKey ← escrowTenderKey e tenderId version
  let budget ← assertPositiveEscrowAmount maximumFreightBudgetAtomic (js "maximumFreightBudgetAtomic")
  pure (plan .FUND_TENDER (js "fundTender") (js "fundTender(bytes32,uint256)") tenderKey .SHIPPER
    [.bytes32 tenderKey, .uint256 (decimal budget)])

/-- With the excess that the contract returns to the shipper during allocation. -/
structure AllocationPlan where
  plan : EscrowTransactionPlan
  excessRefundAtomic : JsString
  deriving DecidableEq, Repr

def buildAllocateWinnerPlan (tenderId : JsString) (tenderVersion : Int) (winnerAddress fundedAmountAtomic
    winningAmountAtomic decisionManifestHash allocationAuthorizationHash : JsString) :
    Except PlanError AllocationPlan := do
  let version ← assertTenderVersion tenderVersion
  let tenderKey ← escrowTenderKey e tenderId version
  let winning ← assertPositiveEscrowAmount winningAmountAtomic (js "winningAmountAtomic")
  let excessRefundAtomic ← deriveExcessRefundAtomic fundedAmountAtomic winningAmountAtomic
  let _ ← assertNonNegativeEscrowAmount excessRefundAtomic (js "excessRefundAtomic")
  let winner ← assertEvmAddress winnerAddress (js "winnerAddress")
  let manifest ← assertAuthorizationHash decisionManifestHash (js "decisionManifestHash")
  let authorization ← assertAuthorizationHash allocationAuthorizationHash (js "allocationAuthorizationHash")
  pure
    { excessRefundAtomic
      plan := plan .ALLOCATE_WINNER (js "allocateWinner")
        (js "allocateWinner(bytes32,address,uint256,bytes32,bytes32)") tenderKey .OPERATOR
        [.bytes32 tenderKey, .address winner, .uint256 (decimal winning), .bytes32 manifest,
         .bytes32 authorization] }

def simpleAuthorizedPlan (operation : EscrowOperation) (contractFunction functionSignature : JsString)
    (tenderId : JsString) (tenderVersion : Int) (authorizationHash : JsString) :
    Except PlanError EscrowTransactionPlan := do
  let version ← assertTenderVersion tenderVersion
  let tenderKey ← escrowTenderKey e tenderId version
  let authorization ← assertAuthorizationHash authorizationHash (js "authorizationHash")
  pure (plan operation contractFunction functionSignature tenderKey .OPERATOR
    [.bytes32 tenderKey, .bytes32 authorization])

def buildNoQualifiedBidRefundPlan : JsString → Int → JsString → Except PlanError EscrowTransactionPlan :=
  simpleAuthorizedPlan e .REFUND_NO_QUALIFIED_BID (js "refundNoQualifiedBid")
    (js "refundNoQualifiedBid(bytes32,bytes32)")

def buildReleaseFullPlan : JsString → Int → JsString → Except PlanError EscrowTransactionPlan :=
  simpleAuthorizedPlan e .RELEASE_FULL (js "releaseFull") (js "releaseFull(bytes32,bytes32)")

def buildOpenDisputePlan : JsString → Int → JsString → Except PlanError EscrowTransactionPlan :=
  simpleAuthorizedPlan e .OPEN_DISPUTE (js "openDispute") (js "openDispute(bytes32,bytes32)")

def buildResolveDisputeReleasePlan : JsString → Int → JsString → Except PlanError EscrowTransactionPlan :=
  simpleAuthorizedPlan e .RESOLVE_DISPUTE_RELEASE (js "resolveDisputeRelease")
    (js "resolveDisputeRelease(bytes32,bytes32)")

def buildRefundFullPlan : JsString → Int → JsString → Except PlanError EscrowTransactionPlan :=
  simpleAuthorizedPlan e .REFUND_FULL (js "refundFull") (js "refundFull(bytes32,bytes32)")

def buildPartialReleasePlan (tenderId : JsString) (tenderVersion : Int) (lockedAmountAtomic winnerAmountAtomic
    shipperAmountAtomic refereeAuthorizationHash : JsString) : Except PlanError EscrowTransactionPlan := do
  let version ← assertTenderVersion tenderVersion
  let tenderKey ← escrowTenderKey e tenderId version
  assertPartialConservation lockedAmountAtomic winnerAmountAtomic shipperAmountAtomic
  let authorization ← assertAuthorizationHash refereeAuthorizationHash (js "refereeAuthorizationHash")
  pure (plan .PARTIAL_RELEASE (js "partialRelease") (js "partialRelease(bytes32,uint256,uint256,bytes32)")
    tenderKey .OPERATOR
    [.bytes32 tenderKey, .uint256 (decimal (digitsValue winnerAmountAtomic)),
     .uint256 (decimal (digitsValue shipperAmountAtomic)), .bytes32 authorization])

end Builders

/-! ## The call of a plan -/

/-- The contract call that a plan encodes. -/
def EscrowTransactionPlan.call (p : EscrowTransactionPlan) : Option EscrowCall :=
  match p.operation, p.args with
  | .REGISTER_TENDER, [.bytes32 key, .bytes32 identity, .uint32 version, .address shipper, .uint256 budget,
      .address token, .bytes32 creation, .bytes32 manifest] => do
    let key ← hexValue 256 key
    let identity ← hexValue 256 identity
    let shipper ← hexValue 160 shipper
    let token ← hexValue 160 token
    let creation ← hexValue 256 creation
    let manifest ← hexValue 256 manifest
    some (.registerTender key identity (BitVec.ofInt 32 version) shipper (digitsValue budget) token creation
      manifest)
  | .FUND_TENDER, [.bytes32 key, .uint256 amount] => do
    let key ← hexValue 256 key
    some (.fundTender key (digitsValue amount))
  | .ALLOCATE_WINNER, [.bytes32 key, .address winner, .uint256 amount, .bytes32 manifest,
      .bytes32 authorization] => do
    let key ← hexValue 256 key
    let winner ← hexValue 160 winner
    let manifest ← hexValue 256 manifest
    let authorization ← hexValue 256 authorization
    some (.allocateWinner key winner (digitsValue amount) manifest authorization)
  | .PARTIAL_RELEASE, [.bytes32 key, .uint256 toWinner, .uint256 toShipper, .bytes32 authorization] => do
    let key ← hexValue 256 key
    let authorization ← hexValue 256 authorization
    some (.partialRelease key (digitsValue toWinner) (digitsValue toShipper) authorization)
  | operation, [.bytes32 key, .bytes32 authorization] => do
    let key ← hexValue 256 key
    let authorization ← hexValue 256 authorization
    match operation with
    | .REFUND_NO_QUALIFIED_BID => some (.refundNoQualifiedBid key authorization)
    | .RELEASE_FULL => some (.releaseFull key authorization)
    | .OPEN_DISPUTE => some (.openDispute key authorization)
    | .RESOLVE_DISPUTE_RELEASE => some (.resolveDisputeRelease key authorization)
    | .REFUND_FULL => some (.refundFull key authorization)
    | _ => none
  | _, _ => none

/-! ## Texts and words -/

theorem isLowerHex_isHex {u : UInt16} (h : isLowerHex u) : isHex u := by simp [isHex, h]

theorem isHex_iff {u : UInt16} : isHex u ↔ (0x30 ≤ u.toNat ∧ u.toNat ≤ 0x39) ∨
    (0x61 ≤ u.toNat ∧ u.toNat ≤ 0x66) ∨ (0x41 ≤ u.toNat ∧ u.toNat ≤ 0x46) := by
  simp only [isHex, isLowerHex, Bool.or_eq_true, Bool.and_eq_true, decide_eq_true_eq, UInt16.le_iff_toNat_le,
    UInt16.reduceToNat, or_assoc]

theorem radixDigit_of_isHex {u : UInt16} (h : isHex u) :
    ∃ v, radixDigit u = some v ∧ v < 16 ∧ (v = 0 → u = 0x30) := by
  rw [isHex_iff] at h
  have hzero : u.toNat = 0x30 → u = 0x30 := fun h => UInt16.toNat_inj.mp h
  simp only [radixDigit, isDigit, Bool.and_eq_true, decide_eq_true_eq, UInt16.le_iff_toNat_le, UInt16.reduceToNat]
  split_ifs
  · exact ⟨_, rfl, by omega, fun h0 => hzero (by omega)⟩
  · exact ⟨_, rfl, by omega, fun h0 => by omega⟩
  · exact ⟨_, rfl, by omega, fun h0 => by omega⟩
  · omega

/-- Hexadecimal digits are read, and read as zero only when all of them are. -/
theorem radixValue_of_isHex {s : JsString} (h : s.all isHex) :
    ∃ v, radixValue 16 s = some v ∧ v < 16 ^ s.length ∧ (v = 0 → s = List.replicate s.length 0x30) := by
  induction s using List.reverseRecOn with
  | nil => exact ⟨0, rfl, by simp, fun _ => rfl⟩
  | append_singleton s u ih =>
    rw [List.all_append, Bool.and_eq_true] at h
    obtain ⟨v, hv, hlt, hzero⟩ := ih h.1
    obtain ⟨n, hn, hn16, hnzero⟩ := radixDigit_of_isHex (u := u) (by simpa using h.2)
    refine ⟨16 * v + n, ?_, ?_, fun h0 => ?_⟩
    · rw [Keccak.radixValue_concat, hv, Option.bind_some, hn, Option.bind_some, if_pos hn16]
    · rw [List.length_append, List.length_singleton, Nat.pow_succ]
      omega
    · rw [List.length_append, List.length_singleton, List.replicate_succ', ← hzero (by omega), ← hnzero (by omega)]

theorem drop_bytes32Text (word : Bytes32) : (bytes32Text word).drop 2 = Keccak.toHex 64 word.toNat :=
  List.drop_left' (by rfl)

@[simp] theorem hexValue_bytes32Text (word : Bytes32) : hexValue 256 (bytes32Text word) = some word := by
  have hlt : word.toNat < 16 ^ 64 := lt_of_lt_of_eq word.isLt (by norm_num)
  rw [hexValue, drop_bytes32Text, Keccak.radixValue_toHex, Nat.mod_eq_of_lt hlt, Option.map_some,
    BitVec.ofNat_toNat, BitVec.setWidth_eq]

theorem all_isLowerHex_toHex (k n : Nat) : (Keccak.toHex k n).all isLowerHex := by
  induction k generalizing n with
  | zero => rfl
  | succ k ih =>
    rw [Keccak.toHex, List.all_append, ih, Bool.true_and, List.all_cons, List.all_nil, Bool.and_true]
    exact isLowerHex_hexDigit (Nat.mod_lt _ (by omega))

theorem isBytes32_bytes32Text (word : Bytes32) : isBytes32 (bytes32Text word) := by
  have hlen : (bytes32Text word).length = 66 := by
    rw [bytes32Text, List.length_append, Keccak.length_toHex]
    rfl
  have htake : (bytes32Text word).take 2 = js "0x" := List.take_left' (by rfl)
  rw [isBytes32, hlen, htake, drop_bytes32Text, all_isLowerHex_toHex]
  rfl

/-- A text of `k` hexadecimal digits denotes a word, which is zero only for the zero text. -/
theorem hexValue_of_digits {value : JsString} {k width : Nat} (hwidth : 2 ^ width = 16 ^ k)
    (hlen : value.length = k + 2) (hhead : value.take 2 = js "0x") (hhex : (value.drop 2).all isHex) :
    ∃ word : BitVec width, hexValue width value = some word ∧
      (word = 0 → value = js "0x" ++ List.replicate k 0x30) := by
  obtain ⟨v, hv, hlt, hzero⟩ := radixValue_of_isHex hhex
  rw [List.length_drop, hlen, Nat.add_sub_cancel] at hlt hzero
  refine ⟨BitVec.ofNat width v, by rw [hexValue, hv, Option.map_some], fun h0 => ?_⟩
  have hval : v = 0 := by
    have := congrArg BitVec.toNat h0
    rw [BitVec.toNat_ofNat, hwidth, Nat.mod_eq_of_lt hlt] at this
    simpa using this
  rw [← List.take_append_drop 2 value, hhead, hzero hval]

theorem hexValue_of_isBytes32 {value : JsString} (h : isBytes32 value) :
    ∃ word : Bytes32, hexValue 256 value = some word ∧ (word = 0 → value = ZERO_HASH) := by
  simp only [isBytes32, Bool.and_eq_true, decide_eq_true_eq] at h
  refine hexValue_of_digits (k := 64) (by norm_num) h.1.1 h.1.2 ?_
  rw [List.all_eq_true]
  exact fun u hu => isLowerHex_isHex (List.all_eq_true.mp h.2 u hu)

theorem isHex_lower {u : UInt16} (h : isHex u) : isHex (if 0x41 ≤ u && u ≤ 0x5A then u + 0x20 else u) := by
  rw [isHex_iff] at *
  have hlt := u.toNat_lt
  split
  next hu =>
    simp only [Bool.and_eq_true, decide_eq_true_eq, UInt16.le_iff_toNat_le, UInt16.reduceToNat] at hu
    rw [UInt16.toNat_add]
    simp only [UInt16.reduceToNat]
    omega
  next => exact h

theorem hexValue_of_isEvmAddress {value : JsString} (h : isEvmAddress value) :
    ∃ word : Address, hexValue 160 (lowerAscii value) = some word ∧ (word = 0 → lowerAscii value = ZERO_ADDRESS) := by
  simp only [isEvmAddress, Bool.and_eq_true, decide_eq_true_eq] at h
  refine hexValue_of_digits (k := 40) (by norm_num) (by simp [lowerAscii, h.1.1]) ?_ ?_
  · rw [lowerAscii, ← List.map_take, h.1.2]
    rfl
  · rw [lowerAscii, ← List.map_drop, List.all_map, List.all_eq_true]
    exact fun u hu => isHex_lower (List.all_eq_true.mp h.2 u hu)

/-! ## What the checks accept -/

theorem assertBytes32_eq_ok {value label hash : JsString} :
    assertBytes32 value label = .ok hash ↔ isBytes32 value ∧ value = hash := by
  simp only [assertBytes32, bind_eq_ok, require_eq_ok, exists_const, pure_eq_ok]

theorem assertTenderVersion_eq_ok {tenderVersion version : Int} :
    assertTenderVersion tenderVersion = .ok version ↔
      (1 ≤ tenderVersion ∧ tenderVersion ≤ 0xffffffff) ∧ tenderVersion = version := by
  simp only [assertTenderVersion, bind_eq_ok, require_eq_ok, exists_const, pure_eq_ok]

theorem assertEscrowAmount_eq_ok {isAtomic : JsString → Bool} {kind value label : JsString} {amount : Nat} :
    assertEscrowAmount isAtomic kind value label = .ok amount ↔
      isAtomic value ∧ digitsValue value ≤ maxHtsAmount ∧ digitsValue value = amount := by
  simp only [assertEscrowAmount, bind_eq_ok, require_eq_ok, exists_const, pure_eq_ok]

/-- A non-zero address, in upper or lower case. -/
def IsAddress (value : JsString) : Prop := isEvmAddress value ∧ lowerAscii value ≠ ZERO_ADDRESS

/-- A non-zero authorization hash. -/
def IsAuthorization (value : JsString) : Prop := isBytes32 value ∧ value ≠ ZERO_HASH

/-- The address that a text denotes. -/
def addressWord (value : JsString) : Address := (hexValue 160 (lowerAscii value)).getD 0

/-- The hash that a text denotes. -/
def hashWord (value : JsString) : Bytes32 := (hexValue 256 value).getD 0

theorem IsAddress.hexValue_eq {value : JsString} (h : IsAddress value) :
    hexValue 160 (lowerAscii value) = some (addressWord value) ∧ addressWord value ≠ 0 := by
  obtain ⟨word, hword, hzero⟩ := hexValue_of_isEvmAddress h.1
  have heq : addressWord value = word := by rw [addressWord, hword, Option.getD_some]
  exact ⟨by rw [heq, hword], fun h0 => h.2 (hzero (heq ▸ h0))⟩

theorem hexValue_hashWord {value : JsString} (h : isBytes32 value) : hexValue 256 value = some (hashWord value) := by
  obtain ⟨word, hword, -⟩ := hexValue_of_isBytes32 h
  rw [hashWord, hword, Option.getD_some]

theorem IsAuthorization.hashWord_ne_zero {value : JsString} (h : IsAuthorization value) : hashWord value ≠ 0 := by
  obtain ⟨word, hword, hzero⟩ := hexValue_of_isBytes32 h.1
  intro h0
  rw [hashWord, hword, Option.getD_some] at h0
  exact h.2 (hzero h0)

theorem assertEvmAddress_eq_ok {value label address : JsString} :
    assertEvmAddress value label = .ok address ↔ IsAddress value ∧ lowerAscii value = address := by
  simp only [assertEvmAddress, IsAddress, bind_eq_ok, require_eq_ok, exists_const, pure_eq_ok, and_assoc]

theorem assertAuthorizationHash_eq_ok {value label hash : JsString} :
    assertAuthorizationHash value label = .ok hash ↔ IsAuthorization value ∧ value = hash := by
  simp only [assertAuthorizationHash, IsAuthorization, bind_eq_ok, assertBytes32_eq_ok, require_eq_ok, exists_const,
    pure_eq_ok]
  constructor
  · rintro ⟨_, ⟨hv, rfl⟩, hz, rfl⟩
    exact ⟨⟨hv, hz⟩, rfl⟩
  · rintro ⟨⟨hv, hz⟩, rfl⟩
    exact ⟨_, ⟨hv, rfl⟩, hz, rfl⟩

/-! ## What the builders return -/

section Identity
variable (e : Ethers)

/-- The id and the version pass the checks, the id can be encoded, and `identity` is its hash. -/
structure Identified (tenderId : JsString) (tenderVersion : Int) (identity : Bytes32) : Prop where
  length : tenderId.length ≠ 0 ∧ tenderId.length ≤ 128
  encoded : ∃ bytes, e.toUtf8Bytes tenderId = some bytes ∧ e.keccak256 bytes = identity
  version : 1 ≤ tenderVersion ∧ tenderVersion ≤ 0xffffffff

def tenderKeyOf (identity : Bytes32) (tenderVersion : Int) : Bytes32 :=
  e.keccak256 (abiEncode (tenderKeyDomain e) identity tenderVersion.toNat)

variable {e} {tenderId : JsString} {tenderVersion : Int}

theorem tenderIdHash_eq_ok {hash : JsString} :
    tenderIdHash e tenderId = .ok hash ↔ (tenderId.length ≠ 0 ∧ tenderId.length ≤ 128) ∧
      ∃ bytes, e.toUtf8Bytes tenderId = some bytes ∧ bytes32Text (e.keccak256 bytes) = hash := by
  simp only [tenderIdHash, bind_eq_ok, require_eq_ok, exists_const]
  cases e.toUtf8Bytes tenderId <;> simp [pure_eq_ok]

theorem escrowTenderKey_eq_ok {key : JsString} :
    escrowTenderKey e tenderId tenderVersion = .ok key ↔
      ∃ identity, Identified e tenderId tenderVersion identity ∧ bytes32Text (tenderKeyOf e identity tenderVersion) = key := by
  simp only [escrowTenderKey, escrowTenderKeyFromHash, bind_eq_ok, tenderIdHash_eq_ok, assertBytes32_eq_ok,
    assertTenderVersion_eq_ok, pure_eq_ok]
  constructor
  · rintro ⟨_, ⟨hlen, bytes, hbytes, rfl⟩, _, ⟨-, rfl⟩, _, ⟨hversion, rfl⟩, rfl⟩
    refine ⟨e.keccak256 bytes, ⟨hlen, ⟨bytes, hbytes, rfl⟩, hversion⟩, ?_⟩
    rw [hexValue_bytes32Text]
    rfl
  · rintro ⟨_, ⟨hlen, ⟨bytes, hbytes, rfl⟩, hversion⟩, rfl⟩
    refine ⟨_, ⟨hlen, bytes, hbytes, rfl⟩, _, ⟨isBytes32_bytes32Text _, rfl⟩, _, ⟨hversion, rfl⟩, ?_⟩
    rw [hexValue_bytes32Text]
    rfl

theorem Identified.tenderKey {identity : Bytes32} (h : Identified e tenderId tenderVersion identity) :
    escrowTenderKey e tenderId tenderVersion = .ok (bytes32Text (tenderKeyOf e identity tenderVersion)) :=
  escrowTenderKey_eq_ok.mpr ⟨identity, h, rfl⟩

end Identity

section Builders
variable {e : Ethers} {tenderId : JsString} {tenderVersion : Int} {identity : Bytes32}

theorem buildRegisterTenderPlan_eq_ok (hid : Identified e tenderId tenderVersion identity)
    {shipper budget token creation : JsString} {manifest : Option JsString} (hshipper : IsAddress shipper)
    (hbudget : isPositiveAtomicString budget) (hmax : digitsValue budget ≤ maxHtsAmount) (htoken : IsAddress token)
    (hcreation : IsAuthorization creation) (hmanifest : ∀ m ∈ manifest, isBytes32 m) :
    ∃ p, buildRegisterTenderPlan e tenderId tenderVersion shipper budget token creation manifest = .ok p ∧
      p.call = some (.registerTender (tenderKeyOf e identity tenderVersion) identity (BitVec.ofInt 32 tenderVersion)
        (addressWord shipper) (digitsValue budget) (addressWord token) (hashWord creation)
        (hashWord (manifest.getD ZERO_HASH))) := by
  obtain ⟨bytes, hbytes, hidentity⟩ := hid.encoded
  have hhash : tenderIdHash e tenderId = .ok (bytes32Text identity) :=
    tenderIdHash_eq_ok.mpr ⟨hid.length, bytes, hbytes, by rw [hidentity]⟩
  have hzero : isBytes32 ZERO_HASH := by decide
  have hread : hexValue 256 (manifest.getD ZERO_HASH) = some (hashWord (manifest.getD ZERO_HASH)) := by
    cases manifest with
    | none => exact hexValue_hashWord hzero
    | some m => exact hexValue_hashWord (hmanifest m rfl)
  have hchecked : assertManifestHash manifest = .ok (manifest.getD ZERO_HASH) := by
    cases manifest with
    | none => rfl
    | some m => exact assertBytes32_eq_ok.mpr ⟨hmanifest m rfl, rfl⟩
  simp only [buildRegisterTenderPlan, bind_eq_ok, pure_eq_ok]
  refine ⟨_, ⟨_, assertTenderVersion_eq_ok.mpr ⟨hid.version, rfl⟩, _, hhash, _, hid.tenderKey, _,
    assertEscrowAmount_eq_ok.mpr ⟨hbudget, hmax, rfl⟩, _, hchecked, _, assertEvmAddress_eq_ok.mpr ⟨hshipper, rfl⟩, _,
    assertEvmAddress_eq_ok.mpr ⟨htoken, rfl⟩, _, assertAuthorizationHash_eq_ok.mpr ⟨hcreation, rfl⟩, rfl⟩, ?_⟩
  simp [EscrowTransactionPlan.call, plan, hshipper.hexValue_eq.1, htoken.hexValue_eq.1,
    hexValue_hashWord hcreation.1, hread]

theorem buildFundTenderPlan_eq_ok (hid : Identified e tenderId tenderVersion identity) {budget : JsString}
    (hbudget : isPositiveAtomicString budget) (hmax : digitsValue budget ≤ maxHtsAmount) :
    ∃ p, buildFundTenderPlan e tenderId tenderVersion budget = .ok p ∧
      p.call = some (.fundTender (tenderKeyOf e identity tenderVersion) (digitsValue budget)) := by
  simp only [buildFundTenderPlan, bind_eq_ok, pure_eq_ok]
  refine ⟨_, ⟨_, assertTenderVersion_eq_ok.mpr ⟨hid.version, rfl⟩, _, hid.tenderKey, _,
    assertEscrowAmount_eq_ok.mpr ⟨hbudget, hmax, rfl⟩, rfl⟩, ?_⟩
  simp [EscrowTransactionPlan.call, plan]

theorem isNonNegativeAtomicString_decimal {n : Nat} (h : n ≤ maxHtsAmount) : isNonNegativeAtomicString (decimal n) := by
  have hlen : (decimal n).length ≤ 78 :=
    (length_decimal_le_iff (by omega)).mpr (lt_of_le_of_lt h (by norm_num [maxHtsAmount]))
  simp [isNonNegativeAtomicString, hlen, isDecimal_decimal]

theorem buildAllocateWinnerPlan_eq_ok (hid : Identified e tenderId tenderVersion identity)
    {winner funded winning manifest authorization : JsString} (hwinner : IsAddress winner)
    (hfunded : isPositiveAtomicString funded) (hmax : digitsValue funded ≤ maxHtsAmount)
    (hwinning : isPositiveAtomicString winning) (hle : digitsValue winning ≤ digitsValue funded)
    (hmanifest : IsAuthorization manifest) (hauthorization : IsAuthorization authorization) :
    ∃ p, buildAllocateWinnerPlan e tenderId tenderVersion winner funded winning manifest authorization = .ok p ∧
      p.excessRefundAtomic = decimal (digitsValue funded - digitsValue winning) ∧
      p.plan.call = some (.allocateWinner (tenderKeyOf e identity tenderVersion) (addressWord winner)
        (digitsValue winning) (hashWord manifest) (hashWord authorization)) := by
  have hexcess : deriveExcessRefundAtomic funded winning = .ok (decimal (digitsValue funded - digitsValue winning)) := by
    simp only [deriveExcessRefundAtomic, bind_eq_ok, require_eq_ok, exists_const, pure_eq_ok]
    exact ⟨_, assertEscrowAmount_eq_ok.mpr ⟨hfunded, hmax, rfl⟩, _,
      assertEscrowAmount_eq_ok.mpr ⟨hwinning, hle.trans hmax, rfl⟩, hle, rfl⟩
  have hleft : digitsValue (decimal (digitsValue funded - digitsValue winning)) ≤ maxHtsAmount := by
    rw [digitsValue_decimal]
    omega
  simp only [buildAllocateWinnerPlan, bind_eq_ok, pure_eq_ok]
  refine ⟨_, ⟨_, assertTenderVersion_eq_ok.mpr ⟨hid.version, rfl⟩, _, hid.tenderKey, _,
    assertEscrowAmount_eq_ok.mpr ⟨hwinning, hle.trans hmax, rfl⟩, _, hexcess, _,
    assertEscrowAmount_eq_ok.mpr ⟨isNonNegativeAtomicString_decimal (by omega), hleft, rfl⟩, _,
    assertEvmAddress_eq_ok.mpr ⟨hwinner, rfl⟩, _, assertAuthorizationHash_eq_ok.mpr ⟨hmanifest, rfl⟩, _,
    assertAuthorizationHash_eq_ok.mpr ⟨hauthorization, rfl⟩, rfl⟩, rfl, ?_⟩
  simp [EscrowTransactionPlan.call, plan, hwinner.hexValue_eq.1, hexValue_hashWord hmanifest.1,
    hexValue_hashWord hauthorization.1]

end Builders

end RouteGuard.Escrow
