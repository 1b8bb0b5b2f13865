import RouteGuard.Reservation.Service

/-!
# What a commit may change

Every commit of the service, by its site: what was checked of the record before it, what was read from outside, and the
record it leaves.

* `Moved`, `MovedFrom` : what a transition makes of a record;
* `SubmissionChange`, `ConfirmationChange`, `OutboxChange` : the commits;
* `Allowed` : the calls the service makes, and when;
* `Lawful` : the traces of such calls.
-/

namespace RouteGuard.Reservation
open JsString Guarded ReservationState

/-! ## Clocks -/

/-- The clock of the service was read and told a valid time. -/
structure Clocked (w : Trace) (time : JsString) : Prop where
  read : ⟨.now, time⟩ ∈ w
  utc : isUtcIsoTimestamp time

theorem Clocked.mono {w w' : Trace} {time : JsString} (h : Clocked w time) (hw : w <+: w') : Clocked w' time :=
  ⟨hw.subset h.read, h.utc⟩

/-- The system clock was read, which the recovery of records in progress asks instead. -/
def SystemClocked (w : Trace) (time : JsString) : Prop := ∃ ms, ⟨.dateNow, ms⟩ ∈ w ∧ toISOString ms = .ok time

/-- The deadline of an adopted transaction: the stored one, or a new one. -/
def AdoptedDeadline (w : Trace) (record : ReservationRecord) (deadline : JsString) : Prop :=
  record.confirmationDeadline = some deadline ∨
    (record.confirmationDeadline = none ∧ ∃ ms, ⟨.dateNow, ms⟩ ∈ w ∧ toISOString (ms + 30000) = .ok deadline)

/-! ## Transitions -/

/-- A record brought to a state: it is there already, or it enters along an edge. -/
inductive Moved (w : Trace) (record : ReservationRecord) (target : ReservationState) : ReservationRecord → Prop
  | stays (h : record.state = target) : Moved w record target record
  | enters (hne : record.state ≠ target) (hlegal : target ∈ LEGAL record.state) (reason time : JsString)
      (htime : Clocked w time) : Moved w record target (record.entered target reason time)

theorem moved_of_transition {w : Trace} {record next : ReservationRecord} {target : ReservationState}
    {reason time : JsString} (h : transition record target reason time = .ok next) (htime : Clocked w time) :
    Moved w record target next := by
  rcases transition_eq_ok.mp h with ⟨hs, rfl⟩ | ⟨hne, hlegal, -, rfl⟩
  · exact .stays hs
  · exact .enters hne hlegal reason time htime

theorem Moved.mono {w w' : Trace} {record next : ReservationRecord} {target : ReservationState}
    (h : Moved w record target next) (hw : w <+: w') : Moved w' record target next := by
  cases h with
  | stays h => exact .stays h
  | enters hne hlegal reason time htime => exact .enters hne hlegal reason time (htime.mono hw)

/-- A record in one of the sources enters the target; elsewhere it stays. -/
inductive MovedFrom (w : Trace) (sources : List ReservationState) (target : ReservationState)
    (record : ReservationRecord) : ReservationRecord → Prop
  | stays (h : record.state ∉ sources) : MovedFrom w sources target record record
  | enters (h : record.state ∈ sources) (reason time : JsString) (htime : Clocked w time) :
      MovedFrom w sources target record (record.entered target reason time)

theorem MovedFrom.mono {w w' : Trace} {sources : List ReservationState} {target : ReservationState}
    {record next : ReservationRecord} (h : MovedFrom w sources target record next) (hw : w <+: w') :
    MovedFrom w' sources target record next := by
  cases h with
  | stays h => exact .stays h
  | enters h reason time htime => exact .enters h reason time (htime.mono hw)

/-- The state after a pass of deliveries. -/
def DeliveryMoved (w : Trace) : (allOk : Bool) → ReservationRecord → ReservationRecord → Prop
  | true => MovedFrom w [routeReserved, webhookDeliveryFailed] webhooksDispatched
  | false => MovedFrom w [routeReserved] webhookDeliveryFailed

theorem DeliveryMoved.mono {w w' : Trace} {allOk : Bool} {record next : ReservationRecord}
    (h : DeliveryMoved w allOk record next) (hw : w <+: w') : DeliveryMoved w' allOk record next := by
  cases allOk <;> exact MovedFrom.mono h hw

/-! ## Facts a commit relies on -/

/-- The publication a claim stands for, without what became of it. -/
def HcsPublicationClaim.publication (claim : HcsPublicationClaim) : HcsPublicationClaim :=
  { claim with
    status := .claimed
    transactionId := none
    sequence := none
    consensusTimestamp := none
    failureCode := none
    failureReason := none }

/-- The two claims are one publication. -/
def HcsPublicationClaim.SamePublication (a b : HcsPublicationClaim) : Prop := b.publication = a.publication

/-- Mirror was asked for a transaction and answered so. -/
def Looked (w : Trace) (start : Nat) (txId : JsString) (answer : Except ServiceError MirrorConfirmation) : Prop :=
  ⟨.getTransaction start txId, answer⟩ ∈ w

/-- The payment of a claim was settled with this result. -/
def Settled (w : Trace) (claim : SettleClaim) (selected : SelectedPaymentOption) (result : FacilitatorSettleResult) :
    Prop :=
  ∃ payloadHash challengeHash, ⟨.settle claim selected payloadHash challengeHash, .ok result⟩ ∈ w

/-- One round of a confirmation: the record it loaded, the answer of its lookup, and the record it goes on with, which
another writer may have replaced in between. -/
structure Polled (w : Trace) (cur before : ReservationRecord) (txId deadline pollAt : JsString)
    (answer : Except ServiceError MirrorConfirmation) : Prop where
  loaded : before ∈ versions w cur.reservationId
  confirming : before.state = mirrorConfirmationPending ∨ before.state = facilitatorSettled
  loaded_tx : before.transactionId = some txId
  tx : cur.transactionId = some txId
  durable : ∃ r ∈ versions w cur.reservationId, r.recordVersion ≤ before.recordVersion ∧ durableDeadline r = .ok deadline
  time : Clocked w pollAt
  looked : ∃ start, Looked w start txId answer

/-- A commit at a site failed with an error of the store that is no version conflict. -/
def CommitFailed (w : Trace) (site : CommitSite) (record : ReservationRecord) (e : ServiceError) : Prop :=
  ∃ next, ⟨.compareAndSet site record.reservationId record.recordVersion next, .error e⟩ ∈ w ∧ ¬ e.isVersionConflict

/-- Why the confirmation of a reported success failed: the ledger's part of it, an error of the store, an invalid
clock, because it had failed before, or because another writer came first. -/
inductive ConfirmationCause (w : Trace) (record : ReservationRecord) (selected : SelectedPaymentOption)
    (mirror : MirrorConfirmation) (txId : JsString) (e : ServiceError) : Prop
  | ledger (h : verifySuccess selected mirror txId = .error e)
  | store (hverified : ∃ v, verifySuccess selected mirror txId = .ok v) (h : CommitFailed w .confirm record e)
  | clock (n : JsString) (h : ⟨.now, n⟩ ∈ w) (hn : ¬ isUtcIsoTimestamp n)
  | repeated (h : record.state = confirmationFailed)
  | stale (h : ∃ r ∈ versions w record.reservationId, record.recordVersion < r.recordVersion)

/-- One pass over the events of a record: each was delivered and answered, in order. -/
inductive Delivered (w : Trace) (pass : Nat) (record : ReservationRecord) :
    List WebhookEvent → List WebhookDeliveryRecord → Prop
  | nil : Delivered w pass record [] []
  | cons {event : WebhookEvent} {events : List WebhookEvent} {deliveries : List WebhookDeliveryRecord}
      {result : DeliveryResult} {attemptedAt : JsString}
      (h : ⟨.deliver pass event.recipient (rebuildSignedWebhook event), .ok result⟩ ∈ w)
      (htime : Clocked w attemptedAt) (hrest : Delivered w pass record events deliveries) :
      Delivered w pass record (event :: events)
        (buildDelivery event (record.webhooks.find? fun d => d.eventId = event.eventId) attemptedAt result :: deliveries)

/-- A settle result that fails the attempt of a claim. -/
inductive SettleFails (claim : SettleClaim) (selected : SelectedPaymentOption) (result : FacilitatorSettleResult) :
    SettleFailure → Prop
  | refused (h : result.success = false) : SettleFails claim selected result (settleRefused result)
  | mismatch (h : result.success = true) {txId : JsString}
      (htx : requireTransactionIdForSettlement (some claim.transactionId) = .ok txId)
      (hdiffers : responseDiffers result txId = .ok true) : SettleFails claim selected result responseMismatch
  | network (h : result.success = true) {txId : JsString}
      (htx : requireTransactionIdForSettlement (some claim.transactionId) = .ok txId)
      (hsame : responseDiffers result txId = .ok false) (hnetwork : result.network ≠ selected.network) :
      SettleFails claim selected result networkMismatch
  | payer (h : result.success = true) {txId : JsString}
      (htx : requireTransactionIdForSettlement (some claim.transactionId) = .ok txId)
      (hsame : responseDiffers result txId = .ok false) (hnetwork : result.network = selected.network)
      (hpayer : result.payerAccountId ≠ selected.payerAccount) : SettleFails claim selected result payerMismatch

/-- A lookup that found nothing, and a clock past the boundary after it. -/
structure FoundNothing (w : Trace) (l : ExactLookup) : Prop where
  looked : ∃ start before mirror after, w = before ++ ⟨.getTransaction start l.exact, .ok mirror⟩ :: after ∧
    mirror.status = .notFound ∧ ∃ ms, ⟨.nowMs, ms⟩ ∈ after ∧ l.boundaryMs < ms

/-- What a commit puts where a claim was: the claim after a publication that failed, or none where there was none. -/
inductive FailedClaim (record : ReservationRecord) : Option HcsPublicationClaim → JsString → Prop
  | absent (h : record.hcsPublicationClaim = none) : FailedClaim record none []
  | present {before claim : HcsPublicationClaim} (h : record.hcsPublicationClaim = some before)
      (hunpublished : before.status ≠ .published) (hsame : before.SamePublication claim)
      (hstatus : claim.status ≠ .published) (hresult : claim.sequence = before.sequence) :
      FailedClaim record (some claim) claim.envelopeHash

section Changes
variable (deps : ServiceDeps)

/-! ## Commits

The record before is the one stored, the record after is the one handed to the store, which owns the version. -/

/-- The commits on the way to a settled payment. -/
inductive SubmissionChange (w : Trace) : CommitSite → ReservationRecord → ReservationRecord → Prop
  | selectFirst {cur : ReservationRecord} {input : SelectInput} {selected : SelectedPaymentOption} {now : JsString}
      (hstate : cur.state = offerCreated) (hnow : Clocked w now)
      (hselected : selectionOf deps cur input now = .ok selected) :
      SubmissionChange w .selectOption cur
        ((selectedRecord cur selected now).entered optionSelected (js "option selected") now)
  | selectAgain {cur : ReservationRecord} {input : SelectInput} {selected : SelectedPaymentOption} {now : JsString}
      (hunlocked : ¬ isPaymentSubmissionLocked cur.state) (hstate : cur.state ≠ offerCreated)
      (hnew : ¬ alreadySelected cur input) (hagain : checkReselection cur input = .ok ()) (hnow : Clocked w now)
      (hselected : selectionOf deps cur input now = .ok selected) :
      SubmissionChange w .selectOption cur (selectedRecord cur selected now)
  | challengeFirst {cur : ReservationRecord} {selected : SelectedPaymentOption} {challenge : PaymentChallenge}
      {durable : PaymentChallengeRecord} {now : JsString} (hstate : cur.state = optionSelected)
      (hselected : cur.selected = some selected) (hnone : cur.paymentChallenge = none) (hnow : Clocked w now)
      (hdurable : createPaymentChallengeRecord deps.crypto selected challenge now = .ok durable) :
      SubmissionChange w .issueChallenge cur
        ((challengedRecord cur durable now).entered paymentChallengeIssued (js "challenge issued") now)
  | challengeAgain {cur : ReservationRecord} {selected : SelectedPaymentOption} {challenge : PaymentChallenge}
      {durable : PaymentChallengeRecord} {now : JsString} (hstate : cur.state ≠ optionSelected)
      (hselected : cur.selected = some selected) (hnone : cur.paymentChallenge = none) (hnow : Clocked w now)
      (hdurable : createPaymentChallengeRecord deps.crypto selected challenge now = .ok durable) :
      SubmissionChange w .issueChallenge cur (challengedRecord cur durable now)
  | startSubmission {cur : ReservationRecord} {input : SubmitInput} {sub : Submission} {now : JsString}
      (hstate : cur.state = paymentChallengeIssued) (hselected : cur.selected = some sub.selected)
      (hsub : submissionOf cur input sub.selected = .ok sub) (hnow : Clocked w now) :
      SubmissionChange w .startSubmission cur
        ((submittedRecord cur input sub.clientTx now).entered paymentSubmissionStarted
          (js "payment submission started") now)
  | rejectPayment {cur : ReservationRecord} {selected : SelectedPaymentOption} {result : FacilitatorVerifyResult}
      {payloadHash challengeHash reason now : JsString} (hstate : cur.state = paymentSubmissionStarted)
      (hinvalid : result.isValid = false) (hverified : ⟨.verify selected payloadHash challengeHash, .ok result⟩ ∈ w)
      (hnow : Clocked w now) :
      SubmissionChange w .rejectPayment cur
        { ({ cur with facilitatorVerify := some result } : ReservationRecord).entered paymentRejected reason now with
          failureCode := some (js "VERIFY_REJECTED")
          failureReason := some (result.invalidReason.getD (js "isValid=false")) }
  | verifyPayment {cur : ReservationRecord} {result : FacilitatorVerifyResult} {now : JsString}
      (hstate : cur.state = paymentSubmissionStarted) (hvalid : result.isValid = true) (hnow : Clocked w now) :
      SubmissionChange w .verifyPayment cur
        (({ cur with facilitatorVerify := some result } : ReservationRecord).entered facilitatorVerified
          (js "verify ok") now)
  | claimSettle {cur : ReservationRecord} {input : SubmitInput} {sub : Submission} {attemptId now : JsString}
      (hstate : cur.state = facilitatorVerified) (hselected : cur.selected = some sub.selected)
      (hparse : parseClientTransactionRef input.clientTransaction = .ok sub.clientTx)
      (hchallenge : cur.paymentChallengeHash = some sub.challengeHash) (hnow : Clocked w now)
      (huuid : ⟨.randomUUID, attemptId⟩ ∈ w) :
      SubmissionChange w .claimSettle cur
        (({ cur with settleClaim := some (settleClaimOf cur input sub attemptId now) } : ReservationRecord).entered
          facilitatorSettleClaimed (js "settle claim persisted") now)
  | failSettlement {cur : ReservationRecord} {claim : SettleClaim} {selected : SelectedPaymentOption}
      {result : FacilitatorSettleResult} {f : SettleFailure} {now : JsString}
      (hstate : cur.state = facilitatorSettleClaimed) (hclaim : cur.settleClaim = some claim)
      (hselected : cur.selected = some selected) (hfails : SettleFails claim selected result f)
      (hsettled : Settled w claim selected result) (hnow : Clocked w now) :
      SubmissionChange w f.site cur
        { ({ cur with facilitatorSettle := some result } : ReservationRecord).entered f.target f.reason now with
          failureCode := some (js f.code)
          failureReason := some f.text }
  | settlePayment {cur : ReservationRecord} {claim : SettleClaim} {selected : SelectedPaymentOption}
      {result : FacilitatorSettleResult} {txId now : JsString} (hstate : cur.state = facilitatorSettleClaimed)
      (hclaim : cur.settleClaim = some claim) (hselected : cur.selected = some selected)
      (hsuccess : result.success = true)
      (htx : requireTransactionIdForSettlement (some claim.transactionId) = .ok txId)
      (hsame : responseDiffers result txId = .ok false) (hnetwork : result.network = selected.network)
      (hpayer : result.payerAccountId = selected.payerAccount) (hsettled : Settled w claim selected result)
      (hnow : Clocked w now) :
      SubmissionChange w .settlePayment cur
        ((settledRecord cur result txId now).entered facilitatorSettled (js "settle ok") now)
  | unauthorizedSettlement {cur : ReservationRecord} {ref : ClientTransactionRef} {l : ExactLookup} {start : Nat}
      {mirror : MirrorConfirmation} {now : JsString}
      (hstate : cur.state = paymentSubmissionStarted ∨ cur.state = facilitatorVerified)
      (href : cur.clientTransaction = some ref)
      (hl : exactLookup ref.transactionId ref.validStartTimestamp ref.transactionValidDurationSeconds = .ok l)
      (hlooked : Looked w start l.exact (.ok mirror)) (hsuccess : mirror.status = .success)
      (hnow : Clocked w now) :
      SubmissionChange w .unauthorizedSettlement cur
        { cur.entered manualReviewRequired (unauthorizedSettlement l.exact).reason now with
          failureCode := some (js (unauthorizedSettlement l.exact).code)
          failureReason := some (unauthorizedSettlement l.exact).text }
  | preClaimFailed {cur : ReservationRecord} {ref : ClientTransactionRef} {l : ExactLookup} {start : Nat}
      {mirror : MirrorConfirmation} {now : JsString}
      (hstate : cur.state = paymentSubmissionStarted ∨ cur.state = facilitatorVerified)
      (href : cur.clientTransaction = some ref)
      (hl : exactLookup ref.transactionId ref.validStartTimestamp ref.transactionValidDurationSeconds = .ok l)
      (hlooked : Looked w start l.exact (.ok mirror)) (hfailed : mirror.status = .failed)
      (hnow : Clocked w now) :
      SubmissionChange w .preClaimFailed cur
        { cur.entered (preClaimTarget cur) (foundFailed .preClaimFailed (preClaimTarget cur) l.exact mirror.result).reason
            now with
          failureCode := some (js (foundFailed .preClaimFailed (preClaimTarget cur) l.exact mirror.result).code)
          failureReason := some (foundFailed .preClaimFailed (preClaimTarget cur) l.exact mirror.result).text }
  | preClaimConclusive {cur : ReservationRecord} {ref : ClientTransactionRef} {l : ExactLookup} {now : JsString}
      (hstate : cur.state = paymentSubmissionStarted ∨ cur.state = facilitatorVerified)
      (href : cur.clientTransaction = some ref)
      (hl : exactLookup ref.transactionId ref.validStartTimestamp ref.transactionValidDurationSeconds = .ok l)
      (hfound : FoundNothing w l) (hnow : Clocked w now) :
      SubmissionChange w .preClaimConclusive cur
        { cur.entered (preClaimTarget cur)
            (conclusivelyFailed .preClaimConclusive (preClaimTarget cur) l.exact l.boundaryIso).reason now with
          failureCode :=
            some (js (conclusivelyFailed .preClaimConclusive (preClaimTarget cur) l.exact l.boundaryIso).code)
          failureReason :=
            some (conclusivelyFailed .preClaimConclusive (preClaimTarget cur) l.exact l.boundaryIso).text }
  | adopt {cur : ReservationRecord} {claim : SettleClaim} {l : ExactLookup} {start : Nat} {mirror : MirrorConfirmation}
      {now deadline updatedAt : JsString} (hstate : cur.state = facilitatorSettleClaimed)
      (hclaim : cur.settleClaim = some claim)
      (hl : exactLookup claim.transactionId claim.validStartTimestamp claim.transactionValidDurationSeconds = .ok l)
      (hlooked : Looked w start l.exact (.ok mirror)) (hsuccess : mirror.status = .success)
      (hsystem : SystemClocked w now)
      (hdeadline : AdoptedDeadline w cur deadline)
      (hupdated : Clocked w updatedAt) :
      SubmissionChange w .adopt cur { adoptedRecord cur l.exact now deadline with updatedAt := updatedAt }
  | claimedFailed {cur : ReservationRecord} {claim : SettleClaim} {l : ExactLookup} {start : Nat}
      {mirror : MirrorConfirmation} {now : JsString} (hstate : cur.state = facilitatorSettleClaimed)
      (hclaim : cur.settleClaim = some claim)
      (hl : exactLookup claim.transactionId claim.validStartTimestamp claim.transactionValidDurationSeconds = .ok l)
      (hlooked : Looked w start l.exact (.ok mirror)) (hfailed : mirror.status = .failed)
      (hnow : Clocked w now) :
      SubmissionChange w .claimedFailed cur
        { ({ cur with mirrorConfirmation := some mirror } : ReservationRecord).entered settlementFailed
            (foundFailed .claimedFailed settlementFailed l.exact mirror.result).reason now with
          failureCode := some (js (foundFailed .claimedFailed settlementFailed l.exact mirror.result).code)
          failureReason := some (foundFailed .claimedFailed settlementFailed l.exact mirror.result).text }
  | claimedConclusive {cur : ReservationRecord} {claim : SettleClaim} {l : ExactLookup} {now : JsString}
      (hstate : cur.state = facilitatorSettleClaimed) (hclaim : cur.settleClaim = some claim)
      (hl : exactLookup claim.transactionId claim.validStartTimestamp claim.transactionValidDurationSeconds = .ok l)
      (hfound : FoundNothing w l) (hnow : Clocked w now) :
      SubmissionChange w .claimedConclusive cur
        { cur.entered settlementFailed
            (conclusivelyFailed .claimedConclusive settlementFailed l.exact l.boundaryIso).reason now with
          failureCode := some (js (conclusivelyFailed .claimedConclusive settlementFailed l.exact l.boundaryIso).code)
          failureReason := some (conclusivelyFailed .claimedConclusive settlementFailed l.exact l.boundaryIso).text }
  | authorizeReplacement {cur : ReservationRecord} {now : JsString}
      (hstate : cur.state = settlementFailed ∨ cur.state = paymentRejected)
      (hcode : cur.failureCode = some (js "CONCLUSIVELY_FAILED")) (hnow : Clocked w now) :
      SubmissionChange w .authorizeReplacement cur
        (resetRecord (cur.entered offerCreated (js "replacement attempt authorized after conclusive failure") now) now)
  | recoverAdopt {cur : ReservationRecord} {txId now deadline : JsString} (hstate : cur.state = facilitatorSettleClaimed)
      (htx : txId ≠ []) (hsystem : SystemClocked w now)
      (hdeadline : AdoptedDeadline w cur deadline) :
      SubmissionChange w .recover cur (adoptedRecord cur txId now deadline)
  | recoverSubmitted {cur : ReservationRecord} {code reason : String} {now : JsString}
      (hambiguous :
        (cur.state = facilitatorSettleClaimed ∧ ¬ cur.settleClaim.any fun claim => claim.transactionId ≠ []) ∨
        ((cur.state = paymentSubmissionStarted ∨ cur.state = facilitatorVerified) ∧
          ¬ cur.clientTransaction.any fun ref => ref.transactionId ≠ []))
      (hsystem : SystemClocked w now) :
      SubmissionChange w .recover cur (endedRecord cur manualReviewRequired code reason now)

/-- The commits of a confirmation. -/
inductive ConfirmationChange (w : Trace) : CommitSite → ReservationRecord → ReservationRecord → Prop
  | beginConfirmation {cur : ReservationRecord} {txId now deadline : JsString} (hstate : cur.state = facilitatorSettled)
      (htx : requireTransactionIdForSettlement cur.transactionId = .ok txId) (hnow : Clocked w now)
      (hdeadline : isoAfter now deps.confirmationTimeoutMs = .ok deadline) :
      ConfirmationChange w .beginConfirmation cur
        ((confirmingRecord cur txId now deadline).entered mirrorConfirmationPending (js "awaiting mirror") now)
  | renewDeadline {cur : ReservationRecord} {txId now deadline : JsString}
      (hstate : cur.state = mirrorConfirmationPending) (hmissing : ¬ truthy cur.confirmationDeadline)
      (htx : requireTransactionIdForSettlement cur.transactionId = .ok txId) (hnow : Clocked w now) :
      ConfirmationChange w .beginConfirmation cur (confirmingRecord cur txId now deadline)
  | rebuildPoll {cur : ReservationRecord} {txId startedAt now : JsString}
      (hstate : cur.state = mirrorConfirmationPending) (hmissing : cur.mirrorPoll = none)
      (htx : requireTransactionIdForSettlement cur.transactionId = .ok txId) (hnow : Clocked w now) :
      ConfirmationChange w .rebuildPoll cur
        { cur with
          mirrorPoll := some (newPoll txId startedAt (cur.confirmationDeadline.getD []))
          updatedAt := now }
  | poll {cur : ReservationRecord} {txId deadline pollAt : JsString} {answer : Except ServiceError MirrorConfirmation}
      (hpolled : Polled w cur cur txId deadline pollAt answer) :
      ConfirmationChange w .poll cur (polledRecord cur deadline pollAt answer (pollOf cur txId deadline pollAt answer))
  | mirrorFailed {cur before mid : ReservationRecord} {txId deadline pollAt : JsString} {mirror : MirrorConfirmation}
      (hmoved : Moved w cur confirmationFailed mid) (hpolled : Polled w cur before txId deadline pollAt (.ok mirror))
      (hfailed : mirror.status = .failed) :
      ConfirmationChange w .mirrorFailed cur
        { mid with
          failureCode := some (js "MIRROR_FAILED")
          failureReason := some (js "Mirror Node reported FAILED")
          mirrorConfirmation := some mirror
          mirrorPoll := some (pollOf before txId deadline pollAt (.ok mirror)) }
  | confirm {cur before mid : ReservationRecord} {selected : SelectedPaymentOption}
      {txId deadline pollAt updatedAt : JsString} {mirror : MirrorConfirmation} {v : VerifiedPaymentResult}
      (hmoved : Moved w
        { cur with
          mirrorConfirmation := some mirror
          mirrorPoll := some (successPoll (pollOf before txId deadline pollAt (.ok mirror)) v)
          updatedAt := updatedAt } paymentConfirmed mid)
      (hpolled : Polled w cur before txId deadline pollAt (.ok mirror)) (hselected : cur.selected = some selected)
      (hverified : verifySuccess selected mirror txId = .ok v) (hupdated : Clocked w updatedAt) :
      ConfirmationChange w .confirm cur mid
  | failConfirmation {cur before mid : ReservationRecord} {selected : SelectedPaymentOption}
      {txId deadline pollAt : JsString} {mirror : MirrorConfirmation} {e : ServiceError}
      (hmoved : Moved w cur confirmationFailed mid) (hpolled : Polled w cur before txId deadline pollAt (.ok mirror))
      (hselected : cur.selected = some selected) (hsuccess : mirror.status = .success)
      (hcause : ConfirmationCause w cur selected mirror txId e) :
      ConfirmationChange w .confirmationFailed cur
        { mid with
          failureCode := some (e.code?.getD (js "PAYMENT_VERIFY_FAILED"))
          failureReason := some e.message
          mirrorConfirmation := some mirror
          mirrorPoll := some (failedPoll (pollOf before txId deadline pollAt (.ok mirror)) e) }
  | timeOut {cur before mid : ReservationRecord} {txId deadline pollAt : JsString}
      {answer : Except ServiceError MirrorConfirmation} (hmoved : Moved w cur confirmationTimedOut mid)
      (hpolled : Polled w cur before txId deadline pollAt answer) :
      ConfirmationChange w .timeOut cur
        { mid with
          failureCode := some (js "CONFIRMATION_TIMED_OUT")
          failureReason := some (timeoutReason answer)
          mirrorPoll := some (pollOf before txId deadline pollAt answer) }
  | pollBound {cur mid : ReservationRecord} (hmoved : Moved w cur confirmationTimedOut mid) :
      ConfirmationChange w .pollBound cur
        { mid with
          failureCode := some (js "CONFIRMATION_TIMED_OUT")
          failureReason := some (js "Mirror poll iteration bound exhausted") }
  | reserve {cur : ReservationRecord} {selected : SelectedPaymentOption} {txId now : JsString}
      {mirror : MirrorConfirmation} {v : VerifiedPaymentResult} {rr : RouteReservedRecord}
      (hstate : cur.state = paymentConfirmed) (htx : cur.transactionId = some txId)
      (hselected : cur.selected = some selected) (hmirror : cur.mirrorConfirmation = some mirror)
      (hverified : verifySuccess selected mirror txId = .ok v)
      (hreserved : createRouteReservedRecord deps.crypto (routeReservedOf cur selected txId v.consensusTimestamp) = .ok rr)
      (hnow : Clocked w now) :
      ConfirmationChange w .reserve cur
        { cur.entered routeReserved (js "payment confirmed") now with routeReserved := some rr }
  | blockRecovery {cur : ReservationRecord} {reason : String} {now : JsString}
      (hstate : cur.state = confirmationTimedOut) (hblocked : assessTimedOutConfirmationRecovery cur = .ok (some reason))
      (hnow : Clocked w now) :
      ConfirmationChange w .blockRecovery cur
        { cur.entered manualReviewRequired (js "confirmation recovery blocked: " ++ js reason) now with
          failureCode := some (js "CONFIRMATION_RECOVERY_BLOCKED")
          failureReason := some (js "Guarded confirmation recovery refused: " ++ js reason) }
  | recoverTimedOut {cur : ReservationRecord} {txId now deadline : JsString} (hstate : cur.state = confirmationTimedOut)
      (hassess : assessTimedOutConfirmationRecovery cur = .ok none)
      (htx : requireTransactionIdForSettlement cur.transactionId = .ok txId) (hnow : Clocked w now)
      (hdeadline : isoAfter now deps.confirmationTimeoutMs = .ok deadline) :
      ConfirmationChange w .recoverTimedOut cur
        { cur.entered mirrorConfirmationPending
            (js "guarded recovery of settled payment — same transaction, new confirmation window") now with
          confirmationDeadline := some deadline
          mirrorPoll := some (resumedPoll cur txId now deadline)
          failureCode := none
          failureReason := none }
  | recoverFailed {cur : ReservationRecord} {now : JsString}
      (hstate : cur.state = facilitatorSettled ∨ cur.state = mirrorConfirmationPending)
      (htx : truthy cur.transactionId) (hsystem : SystemClocked w now) :
      ConfirmationChange w .recover cur
        (endedRecord cur confirmationFailed "MIRROR_FAILED" "Mirror confirmed failure on recovery" now)
  | recoverSettled {cur : ReservationRecord} {code reason : String} {now : JsString}
      (hstate : cur.state = facilitatorSettled ∨ cur.state = mirrorConfirmationPending)
      (hambiguous : ¬ truthy cur.transactionId) (hsystem : SystemClocked w now) :
      ConfirmationChange w .recover cur (endedRecord cur manualReviewRequired code reason now)

/-- The commits after the reservation. -/
inductive OutboxChange (w : Trace) : CommitSite → ReservationRecord → ReservationRecord → Prop
  | webhookEvents {cur : ReservationRecord} {rr : RouteReservedRecord} {events : List WebhookEvent} {now : JsString}
      (hreserved : cur.routeReserved = some rr) (hfew : cur.webhookEvents.length < 2) (hnow : Clocked w now)
      (hevents : webhookEventsFor deps cur rr now = .ok events) :
      OutboxChange w .webhookEvents cur { cur with webhookEvents := events, updatedAt := now }
  | deliveries {cur next : ReservationRecord} {pass : Nat} {deliveries : List WebhookDeliveryRecord} {now : JsString}
      (hevents : cur.webhookEvents ≠ []) (hdelivered : Delivered w pass cur cur.webhookEvents deliveries)
      (hnow : Clocked w now)
      (hmoved : DeliveryMoved w (deliveries.all WebhookDeliveryRecord.delivered)
        { cur with webhooks := deliveries, updatedAt := now } next) :
      OutboxChange w .deliveries cur next
  | claimHcs {cur : ReservationRecord} {rr : RouteReservedRecord} {checked : ClaimableEnvelope}
      {createdAt attemptId now : JsString} (hreserved : cur.routeReserved = some rr)
      (hnone : cur.hcsPublicationClaim = none) (hchecked : claimableEnvelope deps cur rr createdAt = .ok checked)
      (hnow : Clocked w now) (huuid : ⟨.randomUUID, attemptId⟩ ∈ w) :
      OutboxChange w .claimHcs cur
        { cur with hcsPublicationClaim := some (hcsClaimOf cur attemptId now checked), updatedAt := now }
  | resolving {cur : ReservationRecord} {before claim : HcsPublicationClaim} {now : JsString}
      (hreserved : cur.routeReserved.isSome) (hclaim : cur.hcsPublicationClaim = some before)
      (hunpublished : before.status ≠ .published) (hsame : before.SamePublication claim)
      (hresult : claim.sequence = before.sequence) (hnow : Clocked w now) :
      OutboxChange w .resolving cur
        { cur with hcsPublicationClaim := some { claim with status := .resolving }, updatedAt := now }
  | hcsPublished {cur next : ReservationRecord} {before claim : HcsPublicationClaim} {result : HcsPublicationResult}
      {hashes : Option (JsString × JsString)} {missing : Bool} {now : JsString}
      (hreserved : cur.routeReserved.isSome) (hclaim : cur.hcsPublicationClaim = some before)
      (hunpublished : before.status ≠ .published) (hsame : before.SamePublication claim)
      (hresult : before.sequence = none →
        assertValidHcsPublicationResult result claim.expectedTopicId hashes missing = .ok result)
      (hnow : Clocked w now)
      (hmoved : MovedFrom w [webhooksDispatched, webhookDeliveryFailed, routeReserved, hcsEvidenceFailed]
        hcsEvidenceRecorded
        { cur with
          hcsPublicationClaim := some (publishedClaim claim result)
          hcsEvidence := some (publishedEvidence claim result)
          updatedAt := now } next) :
      OutboxChange w .hcsPublished cur next
  | hcsFailed {cur next : ReservationRecord} {claim : Option HcsPublicationClaim} {envelopeHash lastError now : JsString}
      (hreserved : cur.routeReserved.isSome) (hclaim : FailedClaim cur claim envelopeHash)
      (hunpublished : ¬ isHcsAlreadyPublished cur) (hnow : Clocked w now)
      (hmoved : MovedFrom w [webhooksDispatched, webhookDeliveryFailed, routeReserved] hcsEvidenceFailed
        { cur with
          hcsPublicationClaim := claim <|> cur.hcsPublicationClaim
          hcsEvidence := some (failedEvidence envelopeHash lastError)
          updatedAt := now } next) :
      OutboxChange w .hcsFailed cur next
  | hcsRecorded {cur : ReservationRecord} {now : JsString}
      (hstate : cur.state ∈ [webhooksDispatched, webhookDeliveryFailed, routeReserved, hcsEvidenceFailed])
      (hpublished : isHcsAlreadyPublished cur) (hnow : Clocked w now) :
      OutboxChange w .hcsRecorded cur (cur.entered hcsEvidenceRecorded (js "hcs already published") now)
  | complete {cur : ReservationRecord} {now : JsString}
      (hstate : cur.state = hcsEvidenceRecorded ∨ cur.state = hcsEvidenceFailed) (hnow : Clocked w now) :
      OutboxChange w .complete cur (cur.entered completed (js "post-reservation done") now)

/-- The commits of the service. -/
inductive Change (w : Trace) (site : CommitSite) (cur next : ReservationRecord) : Prop
  | submission (h : SubmissionChange deps w site cur next)
  | confirmation (h : ConfirmationChange deps w site cur next)
  | outbox (h : OutboxChange deps w site cur next)

/-! ## Calls -/

variable (auction : Auction)

/-- The calls the service makes. A commit is a change of the version it expects; a payment is settled and an
envelope published under a stored claim; a webhook is delivered as stored. -/
def Allowed (w : Trace) : Call → Prop
  | .create record => ∃ input tender, reservationOf deps.crypto auction input tender = .ok record
  | .compareAndSet site id version next => next.reservationId = id ∧
      ∃ current ∈ versions w id, current.recordVersion = version ∧ Change deps w site current next
  | .settle claim selected paymentPayloadHash challengeHash =>
      paymentPayloadHash = claim.paymentPayloadHash ∧ challengeHash = claim.challengeHash ∧
      ∃ r ∈ versions w claim.reservationId, r.state = facilitatorSettleClaimed ∧ r.settleClaim = some claim ∧
        r.selected = some selected
  | .deliver _ recipient webhook => ∃ id, ∃ r ∈ versions w id, ∃ event ∈ r.webhookEvents,
      event.recipient = recipient ∧ webhook = rebuildSignedWebhook event
  | .publish claim envelope =>
      routeReservedEnvelopeHash deps.crypto envelope = claim.envelopeHash ∧
      measureRouteReservedEnvelope envelope = claim.encodedByteCount ∧
      ∃ r ∈ versions w claim.reservationId, r.hcsPublicationClaim = some claim
  | _ => True

/-- A trace of allowed calls with possible answers. -/
inductive Lawful : Trace → Prop
  | nil : Lawful []
  | snoc {w : Trace} {call : Call} {answer : call.Answer} (h : Lawful w) (hallowed : Allowed deps auction w call)
      (hanswer : Answered deps.crypto w call answer) : Lawful (w ++ [⟨call, answer⟩])

end Changes

end RouteGuard.Reservation
