import RouteGuard.Lib.Rely
import RouteGuard.Reservation.RecordSchema

/-!
# The calls of the reservation service

Everything the service awaits or reads from outside is a call: its store, its clocks, its transports. A request is the
tree of its calls; what happened in all requests so far is one trace.

* `Call` : the calls and their answers;
* `versions`, `stored` : what the commits in a trace have left in the store;
* `Answered` : what a call may answer. The store compares versions and validates in one step; everything else may
  answer anything, or fail;
* `ServiceM` : the programs of the service.
-/

namespace RouteGuard.Reservation
open JsString Guarded ReservationState

/-! ## Calls -/

/-- Which commit of the source a `compareAndSet` is. -/
inductive CommitSite where
  | selectOption | issueChallenge | startSubmission | rejectPayment | verifyPayment | claimSettle | failSettle
  | settleMismatch | networkMismatch | payerMismatch | settlePayment | blockRecovery | recoverTimedOut
  | unauthorizedSettlement | preClaimFailed | preClaimConclusive | adopt | claimedFailed | claimedConclusive
  | authorizeReplacement | beginConfirmation | rebuildPoll | poll | mirrorFailed | confirm | reserve | complete
  | confirmationFailed | timeOut | pollBound | webhookEvents | deliveries | claimHcs | resolving | hcsPublished
  | hcsFailed | hcsRecorded | recover
  deriving DecidableEq, Repr

structure DeliveryResult where
  ok : Bool
  error : Option JsString
  deriving DecidableEq, Repr

inductive HcsPublicationResolveResult where
  | found (result : HcsPublicationResult) (envelopeHash : JsString)
  | notFoundConclusive
  | ambiguous
  deriving DecidableEq, Repr

/-- A call of the service. The commit site, the claim under which a payment is settled or an envelope is published,
the start of a lookup and the pass of a delivery are not seen by whoever answers. -/
inductive Call where
  | get (reservationId : JsString)
  | create (record : ReservationRecord)
  | compareAndSet (site : CommitSite) (reservationId : JsString) (expectedVersion : Nat) (next : ReservationRecord)
  | now
  | nowMs
  /-- `Date.now()`, which the recovery of records in progress reads past the injected clocks. -/
  | dateNow
  | sleep (ms : Int)
  | randomUUID
  /-- Nothing is called: the place in the trace where a lookup or a delivery pass starts. -/
  | mark
  | createChallenge (selected : SelectedPaymentOption)
  | verify (selected : SelectedPaymentOption) (paymentPayloadHash challengeHash : JsString)
  | settle (claim : SettleClaim) (selected : SelectedPaymentOption) (paymentPayloadHash challengeHash : JsString)
  | getTransaction (start : Nat) (transactionId : JsString)
  | deliver (pass : Nat) (recipient : Recipient) (webhook : SignedWebhook)
  | publish (claim : HcsPublicationClaim) (envelope : RouteReservedEnvelope)
  | resolvePublication (topicId envelopeHash reservationId : JsString)
  deriving DecidableEq, Repr

/-- What a call answers; what may reject answers an error too. -/
@[reducible] def Call.Answer : Call → Type
  | .get _ => Except ServiceError (Option ReservationRecord)
  | .create _ => Except ServiceError ReservationRecord
  | .compareAndSet .. => Except ServiceError ReservationRecord
  | .now => JsString
  | .nowMs => Int
  | .dateNow => Int
  | .sleep _ => Unit
  | .randomUUID => JsString
  | .mark => Nat
  | .createChallenge _ => Except ServiceError PaymentChallenge
  | .verify .. => Except ServiceError FacilitatorVerifyResult
  | .settle .. => Except ServiceError FacilitatorSettleResult
  | .getTransaction .. => Except ServiceError MirrorConfirmation
  | .deliver .. => Except ServiceError DeliveryResult
  | .publish .. => Except ServiceError HcsPublicationResult
  | .resolvePublication .. => Except ServiceError HcsPublicationResolveResult

/-- A call that was made, with its answer. -/
abbrev CallRecord := (call : Call) × call.Answer

/-- What happened so far, in all requests. -/
abbrev Trace := List CallRecord

/-! ## The store -/

/-- The record a call has put under a reservation id. -/
def CallRecord.written (id : JsString) : CallRecord → Option ReservationRecord
  | ⟨.create record, .ok r⟩ => if record.reservationId = id then some r else none
  | ⟨.compareAndSet _ key _ _, .ok r⟩ => if key = id then some r else none
  | _ => none

/-- The records stored under an id, oldest first. -/
def versions (w : Trace) (id : JsString) : List ReservationRecord := w.filterMap (CallRecord.written id)

def stored (w : Trace) (id : JsString) : Option ReservationRecord := (versions w id).getLast?

/-- The version conflict of the store. -/
def ServiceError.isVersionConflict : ServiceError → Bool
  | .versionConflict .. => true
  | _ => false

/-- What the store persists of a next record: the caller controls neither the id nor the version. -/
def ReservationRecord.persisted (next : ReservationRecord) (id : JsString) (version : Nat) : ReservationRecord :=
  { next with reservationId := id, recordVersion := version }

section Answers
variable (c : Crypto)

/-- The answers of `compareAndSet`: the next record one version on, a conflict with the stored version, or an error
that has changed nothing. -/
def CasAnswered (w : Trace) (id : JsString) (expectedVersion : Nat) (next : ReservationRecord) :
    Except ServiceError ReservationRecord → Prop
  | .ok r => ∃ current, stored w id = some current ∧ current.recordVersion = expectedVersion ∧
      r = next.persisted id (expectedVersion + 1) ∧ assertValidPersistedReservationRecord c r id = .ok ()
  | .error (.versionConflict _ _ actual) =>
      ∃ current, stored w id = some current ∧ current.recordVersion = actual ∧ actual ≠ expectedVersion
  | .error _ => True

/-- What a call may answer after the trace `w`. -/
def Answered (w : Trace) : (call : Call) → call.Answer → Prop
  | .get id, .ok r => r = stored w id
  | .get _, .error e => ¬ e.isVersionConflict
  | .create record, .ok r => stored w record.reservationId = none ∧ r = { record with recordVersion := 1 } ∧
      assertValidPersistedReservationRecord c r record.reservationId = .ok ()
  | .create _, .error e => ¬ e.isVersionConflict
  | .compareAndSet _ id expectedVersion next, answer => CasAnswered c w id expectedVersion next answer
  | .randomUUID, uuid => ⟨.randomUUID, uuid⟩ ∉ w
  | .mark, n => n = w.length
  | _, _ => True

/-- A call is added to the trace with its answer. -/
def Performed (w : Trace) (call : Call) (answer : call.Answer) (w' : Trace) : Prop :=
  Answered c w call answer ∧ w' = w ++ [⟨call, answer⟩]

end Answers

/-! ## Programs -/

/-- A program of the service: it calls, and returns or throws. -/
abbrev ServiceM (α : Type) := ExceptT ServiceError (Prog Call Call.Answer) α

namespace ServiceM

/-- A call that always answers. -/
def read (call : Call) : ServiceM call.Answer := ExceptT.lift (Prog.perform call)

/-- A call that may reject. -/
def await {α : Type} (p : Prog Call Call.Answer (Except ServiceError α)) : ServiceM α := ExceptT.mk p

/-- A computation without calls. -/
def check {α : Type} (x : Except ServiceError α) : ServiceM α := ExceptT.mk (pure x)

/-- The outcome of a program, its error included. -/
def outcome {α : Type} (m : ServiceM α) : ServiceM (Except ServiceError α) := ExceptT.lift m.run

/-- Go on with a result; on an error, with the handler and nothing else. -/
def orElse {α β : Type} (m : ServiceM α) (handler : ServiceError → ServiceM β) (k : α → ServiceM β) : ServiceM β := do
  match ← m.outcome with
  | .ok a => k a
  | .error e => handler e

end ServiceM

open ServiceM

/-- What the service is configured with. -/
structure ServiceDeps where
  crypto : Crypto
  webhookSigningPrivateKey : JsString
  confirmationTimeoutMs : Int
  mirrorPollIntervalMs : Int
  hasHcsResolver : Bool
  /-- How often two operations may call each other in turn before the request is given up. -/
  depth : Nat

def nowIso : ServiceM JsString := do
  let n ← read Call.now
  check (require (isUtcIsoTimestamp n) (err "INVALID_TIMESTAMP" "now() must return UTC ISO"))
  pure n

/-- `compareUtc(nowIso(), deadline) >= 0`, and the millisecond clock where one of the two does not parse. -/
def isPastDeadline (deadline : JsString) : ServiceM Bool := do
  let n ← read Call.now
  match compareUtc n deadline with
  | .ok order => pure (0 ≤ order)
  | .error _ =>
    let ms ← read Call.nowMs
    pure ((dateParse deadline).any (· ≤ ms))

def storeGet (id : JsString) : ServiceM (Option ReservationRecord) := await (Prog.perform (Call.get id))

def requireRecord (id : JsString) : ServiceM ReservationRecord := do
  match ← storeGet id with
  | some record => pure record
  | none => throw (.reservation (js "NOT_FOUND") (js "Reservation " ++ id))

/-- Persist a derived next state via optimistic-concurrency `compareAndSet`. -/
def commit (site : CommitSite) (current next : ReservationRecord) : ServiceM ReservationRecord :=
  await (Prog.perform (Call.compareAndSet site next.reservationId current.recordVersion next))

/-- The record after a commit, and whether another writer came first. -/
structure CommitResult where
  record : ReservationRecord
  conflicted : Bool

/-- Commit and, on a version conflict, return the current record. -/
def commitOrConflict (site : CommitSite) (current next : ReservationRecord) : ServiceM CommitResult := do
  match ← (commit site current next).outcome with
  | .ok record => pure ⟨record, false⟩
  | .error e =>
    if e.isVersionConflict then
      match ← storeGet current.reservationId with
      | some latest => pure ⟨latest, true⟩
      | none => throw e
    else throw e

/-- `mirror.getTransaction`. -/
def getTransaction (transactionId : JsString) : ServiceM MirrorConfirmation := do
  let start ← read Call.mark
  await (Prog.perform (Call.getTransaction start transactionId))

end RouteGuard.Reservation
