import RouteGuard.Domain.Time
import RouteGuard.Reservation.Types

/-!
# Exact payment verification

A payment is accepted only if Mirror shows one transfer of the exact fee from the payer and one to the carrier. Legs
are never added up.

* `verifyMirrorPayment` : the verification, with the errors it throws;
* `verifyMirrorPayment_spec` : what an accepted confirmation says.
-/

namespace RouteGuard.Reservation
open JsString Guarded

def USDC_TESTNET_ASSET : JsString := js "0.0.429274"

def HBAR_ASSET : JsString := js "0.0.0"

structure VerifiedPaymentResult where
  transactionId : JsString
  consensusTimestamp : JsString
  optionId : ReservationOptionId
  asset : JsString
  amountAtomic : JsString
  payerAccount : JsString
  payTo : JsString
  feeTransfers : List MirrorTransfer
  deriving DecidableEq, Repr

/-- `BigInt(amount)`. -/
def amountOf (amount : JsString) : Except ServiceError Int :=
  match bigInt amount with
  | some n => .ok n
  | none => .error (.other (js "Cannot convert " ++ amount ++ js " to a BigInt"))

/-- A nullable token id that is there: the empty string counts as absent. -/
def hasToken (t : MirrorTransfer) : Bool := truthy t.tokenId

/-- HBAR entries of an account. -/
def hbarEntries (transfers : List MirrorTransfer) (account : JsString) : List MirrorTransfer :=
  transfers.filter fun t => t.account = account && !hasToken t

/-- Entries of an account in one token. -/
def tokenEntries (transfers : List MirrorTransfer) (account tokenId : JsString) : List MirrorTransfer :=
  transfers.filter fun t => t.account = account && t.tokenId = some tokenId

/-- Exactly one entry, of exactly the expected amount. The two legs of both assets are checked alike; the side names
the codes and texts. -/
def assertLeg (asset side sideText : String) (legs : List MirrorTransfer) (expected : Int) : Except ServiceError Unit :=
  match legs with
  | [leg] => do
    let amount ← amountOf leg.amount
    require (amount = expected)
      (.reservation (js asset ++ js "_" ++ js side ++ js "_AMOUNT")
        (js sideText ++ js " " ++ js asset ++ js " transfer " ++ leg.amount ++ js " !== " ++ decimalInt expected))
  | legs =>
    .error (.reservation (js asset ++ js "_" ++ js side ++ js "_SHAPE")
      (js sideText ++ js " " ++ js asset ++ js " must be exactly one transfer entry, found " ++ decimal legs.length ++
        js " (no split/duplicate legs)"))

/-- The account is the payer or the carrier. -/
def isParty (selected : SelectedPaymentOption) (t : MirrorTransfer) : Bool :=
  t.account = selected.payerAccount || t.account = selected.payTo

def feeTransfersOf (selected : SelectedPaymentOption) (confirmation : MirrorConfirmation) : List MirrorTransfer :=
  confirmation.hbarTransfers.filter fun t => !hasToken t && !isParty selected t

def verifiedResult (selected : SelectedPaymentOption) (confirmation : MirrorConfirmation)
    (transactionId consensusTimestamp : JsString) : VerifiedPaymentResult where
  transactionId := transactionId
  consensusTimestamp := consensusTimestamp
  optionId := selected.optionId
  asset := selected.asset
  amountAtomic := selected.amountAtomic
  payerAccount := selected.payerAccount
  payTo := selected.payTo
  feeTransfers := feeTransfersOf selected confirmation

def verifyHbar (selected : SelectedPaymentOption) (confirmation : MirrorConfirmation) : Except ServiceError Unit := do
  require (selected.asset = HBAR_ASSET) (err "ASSET_MISMATCH" "Selected asset is not HBAR")
  require (selected.amountAtomic = HBAR_RESERVATION_OPTION.amountAtomic)
    (err "AMOUNT_MISMATCH" "HBAR amount not fixed demo fee")
  assertLeg "HBAR" "PAYER" "Payer" (hbarEntries confirmation.hbarTransfers selected.payerAccount) (-1000000)
  assertLeg "HBAR" "RECEIVER" "Receiver" (hbarEntries confirmation.hbarTransfers selected.payTo) 1000000
  -- the filter runs over every entry before the check looks at what it found
  let partyTokens ← confirmation.tokenTransfers.filterM fun t =>
    if isParty selected t && t.amount ≠ js "0" then do
      let amount ← amountOf t.amount
      pure (amount ≠ 0 : Bool)
    else pure false
  require (partyTokens = [])
    (err "UNEXPECTED_TOKEN_TRANSFER" "HBAR payment must not include token transfers for payer/carrier")

def verifyUsdc (selected : SelectedPaymentOption) (confirmation : MirrorConfirmation) : Except ServiceError Unit := do
  require (selected.asset = USDC_TESTNET_ASSET) (err "ASSET_MISMATCH" "Selected asset is not USDC")
  require (selected.amountAtomic = USDC_RESERVATION_OPTION.amountAtomic)
    (err "AMOUNT_MISMATCH" "USDC amount not fixed demo fee")
  each (fun t =>
    provided (isParty selected t ∧ hasToken t ∧ t.tokenId ≠ some USDC_TESTNET_ASSET) do
      let amount ← amountOf t.amount
      require (amount = 0)
        (.reservation (js "WRONG_TOKEN") (js "Unexpected token " ++ t.tokenId.getD [] ++ js " for payer/carrier")))
    confirmation.tokenTransfers
  assertLeg "USDC" "PAYER" "Payer"
    (tokenEntries confirmation.tokenTransfers selected.payerAccount USDC_TESTNET_ASSET) (-10000)
  assertLeg "USDC" "RECEIVER" "Receiver"
    (tokenEntries confirmation.tokenTransfers selected.payTo USDC_TESTNET_ASSET) 10000
  each (fun t =>
    provided (t.tokenId = some USDC_TESTNET_ASSET ∧ ¬ isParty selected t) do
      let amount ← amountOf t.amount
      require (amount = 0)
        (.reservation (js "USDC_THIRD_PARTY_TRANSFER")
          (js "Unexpected third-party USDC transfer for " ++ t.account)))
    confirmation.tokenTransfers

/-- The transfers of the selected option. -/
def verifyTransfers (selected : SelectedPaymentOption) (confirmation : MirrorConfirmation) : Except ServiceError Unit :=
  match selected.optionId with
  | .hbar => verifyHbar selected confirmation
  | .usdc => verifyUsdc selected confirmation

/-- The consensus timestamp, when it is there and valid. -/
def consensusOf (confirmation : MirrorConfirmation) (message : String) : Except ServiceError JsString :=
  match confirmation.consensusTimestamp with
  | none => .error (err "MISSING_CONSENSUS_TIMESTAMP" message)
  | some t =>
    if isUtcIsoTimestamp t then .ok t else .error (err "MISSING_CONSENSUS_TIMESTAMP" message)

/-- Verify Mirror confirmation against the locked selected payment option. -/
def verifyMirrorPayment (selected : SelectedPaymentOption) (confirmation : MirrorConfirmation)
    (expectedTransactionId : JsString) : Except ServiceError VerifiedPaymentResult := do
  require (confirmation.status = .success)
    (.reservation (js "MIRROR_NOT_SUCCESS")
      (js "Mirror status is " ++ confirmation.status.text ++ js ", not SUCCESS"))
  require (truthy confirmation.result → confirmation.result = some (js "SUCCESS"))
    (.reservation (js "MIRROR_RESULT_FAILED") (js "Mirror result " ++ confirmation.result.getD []))
  require (confirmation.transactionId ≠ [] ∧ expectedTransactionId ≠ [])
    (err "MISSING_TRANSACTION_ID" "Transaction ID required for payment confirmation")
  require (confirmation.transactionId = expectedTransactionId)
    (err "TRANSACTION_ID_MISMATCH" "Mirror transaction ID does not match settlement transaction ID")
  let consensusTimestamp ← consensusOf confirmation "Consensus timestamp required"
  require (selected.payerAccount ≠ selected.payTo) (err "SELF_PAYMENT" "Payer and carrier accounts must differ")
  verifyTransfers selected confirmation
  pure (verifiedResult selected confirmation expectedTransactionId consensusTimestamp)

/-- An accepted confirmation is a success of exactly the expected transaction, at a valid consensus time. -/
theorem verifyMirrorPayment_spec {selected : SelectedPaymentOption} {confirmation : MirrorConfirmation}
    {transactionId : JsString} {v : VerifiedPaymentResult}
    (h : verifyMirrorPayment selected confirmation transactionId = .ok v) :
    confirmation.status = .success ∧ confirmation.transactionId = transactionId ∧ transactionId ≠ [] ∧
      (truthy confirmation.result → confirmation.result = some (js "SUCCESS")) ∧
      confirmation.consensusTimestamp = some v.consensusTimestamp ∧ isUtcIsoTimestamp v.consensusTimestamp ∧
      v = verifiedResult selected confirmation transactionId v.consensusTimestamp := by
  simp only [verifyMirrorPayment, bind_eq_ok, require_eq_ok, exists_const, pure_eq_ok] at h
  obtain ⟨hstatus, hresult, ⟨-, hne⟩, hid, t, ht, -, -, -, rfl⟩ := h
  have hconsensus : confirmation.consensusTimestamp = some t ∧ isUtcIsoTimestamp t := by
    unfold consensusOf at ht
    split at ht
    · cases ht
    · next s hs =>
      split at ht
      · next hutc =>
        cases ht
        exact ⟨hs, hutc⟩
      · cases ht
  exact ⟨hstatus, hid, hne, hresult, hconsensus.1, hconsensus.2, rfl⟩

end RouteGuard.Reservation
