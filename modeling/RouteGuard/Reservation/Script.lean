import RouteGuard.Lib.Monitor
import RouteGuard.Reservation.Service

/-!
# The service in a scripted environment

The store answers as a store does; everything outside answers by a script, from the call and what happened before it.

* `Script` : the answers from outside, and the commits on which the storage fails;
* `answer`, `answer_performed` : the answer of a call is one it may get;
* `scripted_run` : requests played against a script are a run of the service;
* `Scripted` : the reservation of one auction, with a digest that is quick to evaluate; `completed` : its payment goes
  the whole way.
-/

namespace RouteGuard.Reservation
open JsString Guarded ReservationState

/-- The answers from outside. A commit on which the storage fails changes nothing. -/
structure Script where
  now : Trace → JsString
  nowMs : Trace → Int
  dateNow : Trace → Int
  createChallenge : SelectedPaymentOption → Except ServiceError PaymentChallenge
  verify : Except ServiceError FacilitatorVerifyResult
  settle : SettleClaim → Except ServiceError FacilitatorSettleResult
  getTransaction : Trace → JsString → Except ServiceError MirrorConfirmation
  deliver : Recipient → Except ServiceError DeliveryResult
  publish : HcsPublicationClaim → Except ServiceError HcsPublicationResult
  resolvePublication : Except ServiceError HcsPublicationResolveResult
  storageError : CommitSite → Option JsString

section Answer
variable (c : Crypto) (script : Script)

/-- A record that passes the validator, or its refusal. -/
def validated (record : ReservationRecord) (id : JsString) : Except ServiceError ReservationRecord :=
  (assertValidPersistedReservationRecord c record id).map fun _ => record

/-- `compareAndSet` of the store. -/
def casAnswer (w : Trace) (id : JsString) (expectedVersion : Nat) (next : ReservationRecord) :
    Except ServiceError ReservationRecord :=
  match stored w id with
  | none => .error (.reservation (js "NOT_FOUND") (js "Reservation " ++ id))
  | some current =>
    if current.recordVersion = expectedVersion then
      (validated c (next.persisted id (expectedVersion + 1)) id).mapError fun e => .other e.message
    else .error (.versionConflict id expectedVersion current.recordVersion)

def createAnswer (w : Trace) (record : ReservationRecord) : Except ServiceError ReservationRecord :=
  if (stored w record.reservationId).isSome then
    .error (.reservation (js "ALREADY_EXISTS") (js "Reservation " ++ record.reservationId))
  else
    (validated c { record with recordVersion := 1 } record.reservationId).mapError fun e => .other e.message

/-- The id was drawn from the random source. -/
def CallRecord.draws (uuid : JsString) : CallRecord → Bool
  | ⟨.randomUUID, drawn⟩ => drawn = uuid
  | _ => false

/-- The answer of a call; a random id that was drawn before is not answered again. -/
def answerOf (w : Trace) : (call : Call) → Option call.Answer
  | .get id => some (.ok (stored w id))
  | .create record => some (createAnswer c w record)
  | .compareAndSet site id expectedVersion next =>
    match script.storageError site with
    | some message => some (.error (.other message))
    | none => some (casAnswer c w id expectedVersion next)
  | .now => some (script.now w)
  | .nowMs => some (script.nowMs w)
  | .dateNow => some (script.dateNow w)
  | .sleep _ => some ()
  | .randomUUID =>
    let uuid := js "uuid-" ++ decimal w.length
    if w.any (CallRecord.draws uuid) then none else some uuid
  | .mark => some w.length
  | .createChallenge selected => some (script.createChallenge selected)
  | .verify .. => some script.verify
  | .settle claim .. => some (script.settle claim)
  | .getTransaction _ transactionId => some (script.getTransaction w transactionId)
  | .deliver _ recipient _ => some (script.deliver recipient)
  | .publish claim _ => some (script.publish claim)
  | .resolvePublication .. => some script.resolvePublication

def answer (w : Trace) (call : Call) : Option (call.Answer × Trace) :=
  (answerOf c script w call).map fun a => (a, w ++ [⟨call, a⟩])

variable {c script} {w : Trace}

theorem validated_eq_ok {record r : ReservationRecord} {id : JsString} (h : validated c record id = .ok r) :
    r = record ∧ assertValidPersistedReservationRecord c record id = .ok () := by
  obtain ⟨u, hu, rfl⟩ := map_eq_ok.mp h
  exact ⟨rfl, hu⟩

theorem casAnswer_answered (id : JsString) (expectedVersion : Nat) (next : ReservationRecord) :
    CasAnswered c w id expectedVersion next (casAnswer c w id expectedVersion next) := by
  unfold casAnswer
  split
  · trivial
  · next current hcurrent =>
    split
    · next hversion =>
      cases h : validated c (next.persisted id (expectedVersion + 1)) id with
      | error e => trivial
      | ok r =>
        obtain ⟨rfl, hvalid⟩ := validated_eq_ok h
        exact ⟨current, hcurrent, hversion, rfl, hvalid⟩
    · next hversion => exact ⟨current, hcurrent, rfl, hversion⟩

theorem createAnswer_answered (record : ReservationRecord) :
    Answered c w (.create record) (createAnswer c w record) := by
  unfold createAnswer
  split
  · exact Bool.false_ne_true
  · next hfree =>
    cases h : validated c { record with recordVersion := 1 } record.reservationId with
    | error e => exact Bool.false_ne_true
    | ok r =>
      obtain ⟨rfl, hvalid⟩ := validated_eq_ok h
      exact ⟨Option.not_isSome_iff_eq_none.mp hfree, rfl, hvalid⟩

/-- The answer of a call is one it may get. -/
theorem answer_performed (w : Trace) (call : Call) (r : call.Answer × Trace) (h : answer c script w call = some r) :
    Performed c w call r.1 r.2 := by
  obtain ⟨a, ha, rfl⟩ := Option.map_eq_some_iff.mp h
  refine ⟨?_, rfl⟩
  cases call with
  | get id =>
    cases ha
    rfl
  | create record =>
    cases ha
    exact createAnswer_answered record
  | compareAndSet site id expectedVersion next =>
    simp only [answerOf] at ha
    split at ha
    · cases ha
      trivial
    · cases ha
      exact casAnswer_answered id expectedVersion next
  | randomUUID =>
    simp only [answerOf] at ha
    split at ha
    · cases ha
    · next hfresh =>
      cases ha
      intro hmem
      exact hfresh (List.any_eq_true.mpr ⟨_, hmem, decide_eq_true rfl⟩)
  | mark =>
    cases ha
    rfl
  | _ => trivial

end Answer

/-! ## Played requests -/

abbrev ServicePool := Pool Trace Call Call.Answer (Except ServiceError Response)

abbrev ServiceLabel := PoolLabel Request Call Call.Answer

section Play
variable (deps : ServiceDeps) (auction : Auction) (script : Script)

/-- The requests in the order of the moves, from an empty store. -/
def played (moves : List (Move Request)) :
    Option (List ServiceLabel × ServicePool) :=
  Pool.play (fun request => (serve deps auction request).run) (answer deps.crypto script) (fun _ _ => true) moves
    ⟨[], fun _ => none⟩

variable {deps auction script}

theorem scripted_run {moves : List (Move Request)} {ls : List ServiceLabel} {s : ServicePool}
    (h : played deps auction script moves = some (ls, s)) : (serviceSystem deps auction).Run ls s := by
  have hrun : ((serviceSystem deps auction).restrict fun _ _ => true = true).Run ls s :=
    ⟨_, ⟨rfl, rfl⟩, steps_of_play answer_performed (fun w => w = []) h⟩
  exact hrun.of_restrict

end Play

/-! ## The reservation of one auction -/

namespace Scripted

/-- A digest of 64 hexadecimal digits that is quick to evaluate: it reads the beginning of the text. -/
def digest (text : JsString) : JsString :=
  let value := (text.take 64).foldl (fun h u => (h * 0x1000193 + u.toNat) % 2 ^ 256) 0
  (List.range 16).flatMap fun i => Json.hex4 (value / 0x10000 ^ i % 0x10000)

/-- A signature of 128 hexadecimal digits: the digest of the key and the message, twice. -/
def sign (key message : JsString) : JsString := digest (key ++ message) ++ digest (key ++ message)

def crypto : Crypto where
  sha256Hex := digest
  toLowerCase s := s
  verify key message signature := signature = sign key message
  sign := sign

def deps : ServiceDeps where
  crypto := crypto
  webhookSigningPrivateKey := js "key"
  confirmationTimeoutMs := 60000
  mirrorPollIntervalMs := 1000
  hasHcsResolver := true
  depth := 2

def sha (u : UInt16) : JsString := js "sha256:" ++ List.replicate 64 u

/-- One bid won, and its carrier is registered. -/
def auction : Auction where
  isVerifiedAuctionClosureProof _ := true
  verifyDecisionManifestIntegrity _ _ := none
  selectWinner _ := some ⟨js "bid-1", sha 0x62, js "carrier-1"⟩
  getById _ := some ⟨js "0.0.500", true⟩

def createdAt : JsString := js "2026-07-01T10:00:00.000Z"

def closedAt : JsString := js "2026-07-01T09:00:00.000Z"

def tender : FreightTender := ⟨js "t-1", 1, .null⟩

def createInput : CreateReservationInput where
  reservationId := js "r-1"
  tenderId := js "t-1"
  tenderVersion := 1
  tenderHash := sha 0x61
  winningBidId := js "bid-1"
  winningBidHash := sha 0x62
  winningCarrierId := js "carrier-1"
  winningCarrierAccount := js "0.0.500"
  decisionManifestHash := sha 0x63
  evaluatedBidSetHash := sha 0x64
  hcsTopicId := js "0.0.900"
  closeBarrierSequence := 9
  closeBarrierConsensusTimestamp := closedAt
  reservationOfferVersion := 1
  createdAt := createdAt
  expiresAt := js "2026-07-01T12:00:00.000Z"
  closureProof := ⟨js "t-1", 1, 9, closedAt, true, ⟨sha 0x61, sha 0x63, sha 0x64, some (js "bid-1")⟩, .null⟩

/-- The offer of the reservation. -/
def offerHash : JsString :=
  ((reservationOf crypto auction createInput tender).toOption.map fun r => r.offer.offerHash).getD []

def selectInput : SelectInput := ⟨js "r-1", .usdc, offerHash, 1, js "0.0.600"⟩

def transactionId : JsString := js "0.0.600@1782900000.000000000"

def submitInput : SubmitInput := ⟨js "r-1", .usdc, sha 0x65, ⟨transactionId, js "2026-07-01T10:00:00.000000000Z", 120⟩⟩

/-- Mirror reports the exact transfer of the fee. -/
def paid (transactionId : JsString) : MirrorConfirmation where
  status := .success
  transactionId := transactionId
  consensusTimestamp := some (js "2026-07-01T10:00:05.000Z")
  result := some (js "SUCCESS")
  hbarTransfers := []
  tokenTransfers :=
    [⟨js "0.0.600", js "-10000", some USDC_TESTNET_ASSET⟩, ⟨js "0.0.500", js "10000", some USDC_TESTNET_ASSET⟩]

/-- Everything goes well, at one instant. -/
def script : Script where
  now _ := createdAt
  nowMs _ := 1782900000000
  dateNow _ := 1782900000000
  createChallenge := expectedChallengeFields
  verify := .ok ⟨true, none⟩
  settle claim := .ok ⟨true, some claim.transactionId, RESERVATION_NETWORK, claim.payerAccount, none⟩
  getTransaction _ transactionId := .ok (paid transactionId)
  deliver _ := .ok ⟨true, none⟩
  publish claim := .ok ⟨claim.expectedTopicId, some (js "0.0.600-1782900009-000000000"), 7, js "2026-07-01T10:00:09.000Z"⟩
  resolvePublication := .ok .ambiguous
  storageError _ := none

/-- Mirror was asked. -/
def lookedUp (w : Trace) : Bool :=
  w.any fun e => match e with
    | ⟨.getTransaction .., _⟩ => true
    | _ => false

/-- Mirror does not find the transaction, and its answer takes until the transaction can be found no more. -/
def unseen : Script :=
  { script with
    now := fun w => if lookedUp w then js "2026-07-01T10:03:20.000Z" else createdAt
    nowMs := fun w => if lookedUp w then 1782900200000 else 1782900000000
    getTransaction := fun _ transactionId => .ok ⟨.notFound, transactionId, none, none, [], []⟩ }

/-- A payment that is ready to be submitted. -/
def challenged : List (Move Request) :=
  Move.request 1 (.createReservation createInput tender) 2 ++ Move.request 2 (.selectOption selectInput) 3 ++
    Move.request 3 (.issueChallenge (js "r-1") .usdc) 4

/-! ### A payment that is confirmed, notified and published -/

/-- Nothing fails outside, and no clock is before the creation. -/
def smooth : CallRecord → Bool
  | ⟨.verify .., .ok result⟩ => result.invalidReason = none
  | ⟨.settle .., .ok result⟩ => result.errorReason = none
  | ⟨.getTransaction .., .error _⟩ => false
  | ⟨.deliver .., .ok result⟩ => result.error = none
  | ⟨.now, t⟩ => !isAfterUtc createdAt t
  | ⟨.dateNow, _⟩ => false
  | _ => true

/-- The publication was answered with an accepted result. -/
def publishedBy : CallRecord → Bool
  | ⟨.publish claim _, .ok result⟩ =>
    claim.reservationId = js "r-1" ∧ assertValidHcsPublicationResult result claim.expectedTopicId none false = .ok result
  | _ => false

/-- The option is selected on the first version. -/
def selects : CallRecord → Bool
  | ⟨.compareAndSet .selectOption id 1 _, _⟩ => id = js "r-1"
  | _ => false

/-- A commit of a result expects the version that is stored. -/
def unopposedAt (w : Trace) (i : Nat) : Bool :=
  match w[i]? with
  | some ⟨.compareAndSet .hcsPublished id version _, _⟩ =>
    (stored (w.take i) id).map ReservationRecord.recordVersion = some version
  | _ => true

def returned : Option (Prog Call Call.Answer (Except ServiceError Response)) → Bool
  | some (.ret (.ok _)) => true
  | _ => false

theorem returned_spec {p : Option (Prog Call Call.Answer (Except ServiceError Response))} (h : returned p) :
    ∃ response, p = some (.ret (.ok response)) := by
  unfold returned at h
  split at h
  · exact ⟨_, rfl⟩
  · cases h

/-- What the run of the whole way shows. -/
structure Completed (ls : List ServiceLabel) (s : ServicePool) : Prop where
  smooth : s.shared.all smooth
  createdAt : (versions s.shared (js "r-1")).all fun r => r.createdAt = createdAt
  selected : s.shared.any selects
  reserved : (stored s.shared (js "r-1")).any fun r => r.routeReserved.isSome
  returned : Scripted.returned (s.threads 4)
  published : (ownCalls 4 ls).any publishedBy
  resumed : Scripted.returned (s.threads 5)
  retried : Scripted.returned (s.threads 6)
  unopposed : (List.range s.shared.length).all (unopposedAt s.shared)

/-- The payment is submitted and goes the whole way; then its publication is resumed, and its webhooks are retried. -/
def way : List (Move Request) :=
  challenged ++ Move.request 4 (.submitPayment submitInput) 48 ++ Move.request 5 (.resumeHcsPublication (js "r-1")) 1 ++
    Move.request 6 (.retryWebhooks (js "r-1")) 8

theorem way_completed : (played deps auction script way).any (fun r =>
    r.2.shared.all smooth && (versions r.2.shared (js "r-1")).all (fun v => v.createdAt = createdAt) &&
      r.2.shared.any selects && (stored r.2.shared (js "r-1")).any (fun v => v.routeReserved.isSome) &&
      returned (r.2.threads 4) && (ownCalls 4 r.1).any publishedBy && returned (r.2.threads 5) &&
      returned (r.2.threads 6) && (List.range r.2.shared.length).all (unopposedAt r.2.shared)) := by
  decide +kernel

theorem completed : ∃ ls s, (serviceSystem deps auction).Run ls s ∧ Completed ls s := by
  obtain ⟨⟨ls, s⟩, hplayed, hfacts⟩ := (Option.any_eq_true _ _).mp way_completed
  simp only [Bool.and_eq_true] at hfacts
  obtain ⟨⟨⟨⟨⟨⟨⟨⟨hsmooth, hcreated⟩, hselected⟩, hreserved⟩, hreturned⟩, hpublished⟩, hresumed⟩, hretried⟩,
    hunopposed⟩ := hfacts
  exact ⟨ls, s, scripted_run hplayed, hsmooth, hcreated, hselected, hreserved, hreturned, hpublished, hresumed, hretried,
    hunopposed⟩

end Scripted

end RouteGuard.Reservation
