import RouteGuard.Domain.PaymentOption
import RouteGuard.Lifecycle.Deadlines
import RouteGuard.Reservation.Types

/-!
# Client-frozen transactions

A payment is bound to the transaction id and the validity window that the client froze before signing.

* `parseClientTransactionRef` : the check of a reference: the id in SDK form, the valid start embedded in it, a
  duration of 1 to 180 seconds;
* `normalizeTransactionId`, `transactionIdsEqual` : ids up to SDK and Mirror form;
* `conclusiveFailureBoundaryMs` : the instant after which a missing transaction cannot appear any more.
-/

namespace RouteGuard.Reservation
open JsString Guarded Calendar Lifecycle

def SETTLEMENT_SAFETY_BUFFER_SECONDS : Int := 60

def EXPECTED_TRANSACTION_VALID_DURATION_SECONDS : Int := 180

/-! ## Dates -/

/-- `Date.parse` of a UTC timestamp, in milliseconds; `none` for a string that is none. -/
def dateParse (s : JsString) : Option Int := (instant s).map (· / 1000000)

def pad3 (n : Int) : JsString := padStart (decimalInt n) 3 0x30

/-- The year as `toISOString` writes it: four digits, or a sign and six. -/
def isoYear (y : Int) : JsString :=
  if 0 ≤ y ∧ y ≤ 9999 then padStart (decimalInt y) 4 0x30
  else if y < 0 then js "-" ++ padStart (decimalInt (-y)) 6 0x30
  else js "+" ++ padStart (decimalInt y) 6 0x30

/-- `new Date(ms).toISOString()`. -/
def toISOString (ms : Int) : Except ServiceError JsString :=
  if -8640000000000000 ≤ ms ∧ ms ≤ 8640000000000000 then
    let t := dateTimeOf (ms / 1000)
    .ok (isoYear t.year ++ js "-" ++ pad2 t.month ++ js "-" ++ pad2 t.day ++ js "T" ++ pad2 t.hour ++ js ":" ++
      pad2 t.minute ++ js ":" ++ pad2 t.second ++ (js "." ++ pad3 (ms % 1000) ++ js "Z"))
  else .error (.other (js "Invalid time value"))

/-! ## Transaction ids -/

/-- `\d+`. -/
def isDigits (s : JsString) : Bool := s ≠ [] && s.all isDigit

/-- `\d+\.\d+\.\d+`. -/
def isDottedAccount (s : JsString) : Bool :=
  let parts := splitOn 0x2E s
  parts.length = 3 && parts.all isDigits

/-- The groups of an id: account, seconds and nanoseconds. -/
structure TxIdMatch where
  account : JsString
  seconds : JsString
  nanos : JsString
  deriving DecidableEq, Repr

/-- `SDK_TX_ID_RE`: `acct@seconds.nanos`. -/
def matchSdkTxId (id : JsString) : Option TxIdMatch :=
  match splitOn 0x40 id with
  | [account, stamp] =>
    match splitOn 0x2E stamp with
    | [seconds, nanos] =>
      if isDottedAccount account && isDigits seconds && isDigits nanos then some ⟨account, seconds, nanos⟩ else none
    | _ => none
  | _ => none

/-- `MIRROR_TX_ID_RE`: `acct-seconds-nanos`. -/
def isMirrorTxId (id : JsString) : Bool :=
  match splitOn 0x2D id with
  | [account, seconds, nanos] => isDottedAccount account && isDigits seconds && isDigits nanos
  | _ => false

def TxIdMatch.mirrorForm (m : TxIdMatch) : JsString := m.account ++ js "-" ++ m.seconds ++ js "-" ++ m.nanos

/-- The id in Mirror form. -/
def normalizeTransactionId (id : JsString) : Except ServiceError JsString :=
  match matchSdkTxId (trim id) with
  | some m => .ok m.mirrorForm
  | none =>
    if isMirrorTxId (trim id) then .ok (trim id)
    else
      .error (.reservation (js "INVALID_TRANSACTION_ID") (js "Unrecognized Hedera transaction ID format: " ++ trim id))

def transactionIdsEqual (a b : JsString) : Except ServiceError Bool := do
  let left ← normalizeTransactionId a
  let right ← normalizeTransactionId b
  pure (left = right)

/-- The UTC timestamp of the valid start embedded in an id in SDK form. -/
def validStartIsoFromTransactionId (transactionId : JsString) : Except ServiceError JsString :=
  match matchSdkTxId (trim transactionId) with
  | none =>
    .error (err "INVALID_TRANSACTION_ID" "validStart derivation requires SDK-form transaction ID (acct@s.n)")
  | some m => do
    let seconds : Nat := digitsValue m.seconds
    require (seconds ≤ MAX_SAFE_INTEGER)
      (err "INVALID_TRANSACTION_ID" "Transaction ID valid-start seconds out of range")
    let nanos := (padStart m.nanos 9 0x30).take 9
    require (seconds * 1000 ≤ 8640000000000000) (err "INVALID_TRANSACTION_ID" "Unrepresentable transaction valid-start")
    let t := dateTimeOf seconds
    pure (padStart (decimalInt t.year) 4 0x30 ++ js "-" ++ pad2 t.month ++ js "-" ++ pad2 t.day ++ js "T" ++
      pad2 t.hour ++ js ":" ++ pad2 t.minute ++ js ":" ++ pad2 t.second ++ js "." ++ nanos ++ js "Z")

def parseClientTransactionRef (input : ClientTransactionRef) : Except ServiceError ClientTransactionRef := do
  let transactionId := trim input.transactionId
  require ((matchSdkTxId transactionId).isSome)
    (err "INVALID_CLIENT_TRANSACTION" "clientTransaction.transactionId must be SDK form acct@seconds.nanos")
  let validStartTimestamp := trim input.validStartTimestamp
  let derived ← validStartIsoFromTransactionId transactionId
  require (validStartTimestamp = derived)
    (.reservation (js "INVALID_CLIENT_TRANSACTION")
      (js "clientTransaction.validStartTimestamp must equal the ID-embedded valid start (" ++ derived ++ js ")"))
  let duration := input.transactionValidDurationSeconds
  require (1 ≤ duration ∧ duration ≤ EXPECTED_TRANSACTION_VALID_DURATION_SECONDS)
    (err "INVALID_CLIENT_TRANSACTION"
      "clientTransaction.transactionValidDurationSeconds must be an integer in 1..180")
  pure ⟨transactionId, validStartTimestamp, duration⟩

/-- Valid start, duration and safety buffer, in epoch milliseconds. -/
def conclusiveFailureBoundaryMs (validStartTimestamp : JsString) (transactionValidDurationSeconds : Int) :
    Except ServiceError Int :=
  match dateParse validStartTimestamp with
  | none =>
    .error (err "INVALID_CLIENT_TRANSACTION" "Invalid validStartTimestamp for conclusive-failure boundary")
  | some startMs =>
    .ok (startMs + transactionValidDurationSeconds * 1000 + SETTLEMENT_SAFETY_BUFFER_SECONDS * 1000)

inductive SettlementReconciliationOutcome where
  | foundSuccess (transactionId : JsString)
  | foundFailed (result : Option JsString)
  | reconciliationPending (boundaryIso : JsString)
  | conclusivelyFailed (boundaryIso : JsString)
  deriving DecidableEq, Repr

-- an id in both forms, and the valid start it embeds
example :
    normalizeTransactionId (js " 0.0.5@1700000000.5 ") = .ok (js "0.0.5-1700000000-5") ∧
      validStartIsoFromTransactionId (js "0.0.5@1700000000.5") = .ok (js "2023-11-14T22:13:20.000000005Z") := by
  decide

end RouteGuard.Reservation
