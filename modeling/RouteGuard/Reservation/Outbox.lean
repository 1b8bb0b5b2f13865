import RouteGuard.Reservation.Calls

/-!
# Webhooks and ledger evidence

What the service does once a route is reserved: two signed webhooks, persisted before they are delivered, and one
publication to the public ledger, claimed before it is made. Neither touches the payment.

* `dispatchWebhooks`, `deliverPersistedWebhooks` : the webhook outbox;
* `publishHcsEvidence` : the publication outbox, with its claim, its one publication and its resolution.
-/

namespace RouteGuard.Reservation
open JsString Guarded ReservationState ServiceM

section Outbox
variable (deps : ServiceDeps)

/-- Out of one of the sources the record goes to the target; elsewhere it is left as it is. -/
def moveFrom (sources : List ReservationState) (target : ReservationState) (reason : String)
    (record : ReservationRecord) : ServiceM ReservationRecord :=
  if record.state ∈ sources then do
    let now ← nowIso
    check (transition record target (js reason) now)
  else pure record

/-! ## Webhooks -/

/-- Rebuild the operational delivery record for one recipient. -/
def buildDelivery (event : WebhookEvent) (prior : Option WebhookDeliveryRecord) (attemptedAt : JsString)
    (result : DeliveryResult) : WebhookDeliveryRecord where
  eventId := event.eventId
  recipient := event.recipient
  payloadHash := event.payloadHash
  delivered := result.ok
  deliveryAttemptNumber := (prior.map WebhookDeliveryRecord.deliveryAttemptNumber).getD 0 + 1
  attemptedAt := some attemptedAt
  lastResponseCode := if result.ok then some 200 else none
  lastError := if result.ok then none else some (result.error.getD (js "delivery failed"))

/-- The event of one recipient: the stored one, or a new one. -/
def webhookEventFor (record : ReservationRecord) (rr : RouteReservedRecord) (emittedAt : JsString)
    (recipient : Recipient) : Except ServiceError WebhookEvent :=
  let eventId := reservationWebhookEventId record.reservationId recipient
  match record.webhookEvents.find? fun e => e.eventId = eventId with
  | some existing => .ok existing
  | none => do
    let payload ← createRouteReservedWebhookPayload eventId record rr emittedAt
    createWebhookEvent deps.crypto eventId recipient payload deps.webhookSigningPrivateKey

def webhookEventsFor (record : ReservationRecord) (rr : RouteReservedRecord) (emittedAt : JsString) :
    Except ServiceError (List WebhookEvent) := do
  let shipper ← webhookEventFor deps record rr emittedAt .shipper
  let carrier ← webhookEventFor deps record rr emittedAt .carrier
  pure [shipper, carrier]

/-- Persist both events before any delivery. Who loses the race reuses the events of the winner. -/
def ensureWebhookEventsPersisted (record : ReservationRecord) : ServiceM ReservationRecord :=
  match record.routeReserved with
  | none => pure record
  | some rr =>
    if 2 ≤ record.webhookEvents.length then pure record
    else do
      let emittedAt ← nowIso
      let events ← check (webhookEventsFor deps record rr emittedAt)
      let r ← commitOrConflict .webhookEvents record { record with webhookEvents := events, updatedAt := emittedAt }
      check (require (r.conflicted → 2 ≤ r.record.webhookEvents.length)
        (err "WEBHOOK_EVENT_PERSIST_CONFLICT"
          "CAS conflict while persisting webhook events and no durable events found"))
      pure r.record

/-- One pass over the events of a record, in order. -/
def deliverEvents (pass : Nat) (record : ReservationRecord) :
    List WebhookEvent → ServiceM (List WebhookDeliveryRecord)
  | [] => pure []
  | event :: events => do
    let result ← await (Prog.perform (Call.deliver pass event.recipient (rebuildSignedWebhook event)))
    let attemptedAt ← nowIso
    let prior := record.webhooks.find? fun w => w.eventId = event.eventId
    let deliveries ← deliverEvents pass record events
    pure (buildDelivery event prior attemptedAt result :: deliveries)

/-- The state after a pass: dispatched if all went well, failed if it was the first one and did not. -/
def afterDelivery (next : ReservationRecord) (allOk : Bool) : ServiceM ReservationRecord :=
  if allOk then moveFrom [routeReserved, webhookDeliveryFailed] webhooksDispatched "webhooks ok" next
  else moveFrom [routeReserved] webhookDeliveryFailed "one or more webhooks failed" next

/-- Deliver only already-persisted events, then persist what became of the deliveries. -/
def deliverPersistedWebhooks (record : ReservationRecord) : ServiceM ReservationRecord := do
  check (require (record.webhookEvents ≠ []) (err "NO_WEBHOOK_EVENTS" "Cannot deliver: no persisted webhook events"))
  let pass ← read Call.mark
  let deliveries ← deliverEvents pass record record.webhookEvents
  let updatedAt ← nowIso
  let next ← afterDelivery { record with webhooks := deliveries, updatedAt := updatedAt }
    (deliveries.all WebhookDeliveryRecord.delivered)
  let r ← commitOrConflict .deliveries record next
  pure r.record

def dispatchWebhooks (record : ReservationRecord) : ServiceM ReservationRecord :=
  if record.routeReserved.isSome ∧ record.selected.isSome then do
    let persisted ← ensureWebhookEventsPersisted deps record
    match ← storeGet persisted.reservationId with
    | none => throw (err "WEBHOOK_EVENTS_NOT_DURABLE" "Webhook events must be persisted before delivery")
    | some reloaded =>
      check (require (2 ≤ reloaded.webhookEvents.length)
        (err "WEBHOOK_EVENTS_NOT_DURABLE" "Webhook events must be persisted before delivery"))
      deliverPersistedWebhooks reloaded
  else pure record

/-! ## Ledger evidence -/

def isHcsAlreadyPublished (record : ReservationRecord) : Bool :=
  record.hcsPublicationClaim.any (fun claim => claim.status = .published) ||
    record.hcsEvidence.any HcsEvidenceRecord.published

def ensureHcsRecordedState (record : ReservationRecord) : ServiceM ReservationRecord :=
  if record.state ∈ [webhooksDispatched, webhookDeliveryFailed, routeReserved, hcsEvidenceFailed] then do
    let now ← nowIso
    let next ← check (transition record hcsEvidenceRecorded (js "hcs already published") now)
    let r ← commitOrConflict .hcsRecorded record next
    pure r.record
  else pure record

/-- The evidence of a publication. -/
def publishedEvidence (claim : HcsPublicationClaim) (result : HcsPublicationResult) : HcsEvidenceRecord where
  messageType := ROUTE_RESERVED_EVENT_TYPE
  envelopeHash := claim.envelopeHash
  topicId := some result.topicId
  sequence := some result.sequence
  transactionId := result.transactionId
  consensusTimestamp := some result.consensusTimestamp
  published := true
  lastError := none

def publishedClaim (claim : HcsPublicationClaim) (result : HcsPublicationResult) : HcsPublicationClaim :=
  { claim with
    status := .published
    transactionId := result.transactionId
    sequence := some result.sequence
    consensusTimestamp := some result.consensusTimestamp
    failureCode := none
    failureReason := none }

def persistHcsPublished (record : ReservationRecord) (claim : HcsPublicationClaim) (result : HcsPublicationResult) :
    ServiceM ReservationRecord := do
  let updatedAt ← nowIso
  let next ← moveFrom [webhooksDispatched, webhookDeliveryFailed, routeReserved, hcsEvidenceFailed] hcsEvidenceRecorded
    "hcs published"
    { record with
      hcsPublicationClaim := some (publishedClaim claim result)
      hcsEvidence := some (publishedEvidence claim result)
      updatedAt := updatedAt }
  let r ← commitOrConflict .hcsPublished record next
  pure r.record

/-- The evidence of a failed publication. -/
def failedEvidence (envelopeHash lastError : JsString) : HcsEvidenceRecord where
  messageType := ROUTE_RESERVED_EVENT_TYPE
  envelopeHash := envelopeHash
  topicId := none
  sequence := none
  transactionId := none
  consensusTimestamp := none
  published := false
  lastError := some lastError

/-- A failed publication never reverses the reserved route. -/
def finishHcsFailed (record : ReservationRecord) (envelopeHash lastError : JsString)
    (claim : Option HcsPublicationClaim) : ServiceM ReservationRecord := do
  let updatedAt ← nowIso
  let next ← moveFrom [webhooksDispatched, webhookDeliveryFailed, routeReserved] hcsEvidenceFailed "hcs publish failed"
    { record with
      hcsPublicationClaim := claim <|> record.hcsPublicationClaim
      hcsEvidence := some (failedEvidence envelopeHash lastError)
      updatedAt := updatedAt }
  let r ← commitOrConflict .hcsFailed record next
  pure r.record

def failedConclusively (claim : HcsPublicationClaim) (code reason : JsString) : HcsPublicationClaim :=
  { claim with status := .failedConclusive, failureCode := some code, failureReason := some reason }

def reviewedClaim (claim : HcsPublicationClaim) : HcsPublicationClaim :=
  { claim with
    status := .manualReviewRequired
    failureCode := some (js "HCS_PUBLICATION_AMBIGUOUS")
    failureReason := some (js "Authoritative HCS resolver returned AMBIGUOUS — no automatic resubmit") }

def notFoundClaim (claim : HcsPublicationClaim) : HcsPublicationClaim :=
  { claim with
    status := .claimed
    failureCode := some (js "HCS_NOT_FOUND_CONCLUSIVE")
    failureReason := some (js "Resolver returned NOT_FOUND_CONCLUSIVE — no automatic republish") }

/-- What the resolver says about a claim without a recorded result; without a resolver, that nothing was found. -/
def resolvePublication (claim : HcsPublicationClaim) : ServiceM HcsPublicationResolveResult :=
  if deps.hasHcsResolver then
    await (Prog.perform (Call.resolvePublication claim.expectedTopicId claim.envelopeHash claim.reservationId))
  else pure .notFoundConclusive

/-- A claim in resolution ends published, in review, failed, or claimed as before; it is never published again. -/
def resolveClaim (working : ReservationRecord) (claim : HcsPublicationClaim) : ServiceM ReservationRecord := do
  match ← resolvePublication deps claim with
  | .found result envelopeHash =>
    match assertValidHcsPublicationResult result claim.expectedTopicId (some (envelopeHash, claim.envelopeHash)) true with
    | .ok validated => persistHcsPublished working claim validated
    | .error e =>
      finishHcsFailed working claim.envelopeHash e.message
        (some (failedConclusively claim (e.code?.getD (js "HCS_RESOLVE_FOUND_INVALID")) e.message))
  | .ambiguous =>
    finishHcsFailed working claim.envelopeHash
      (js "Authoritative HCS resolver returned AMBIGUOUS — no automatic resubmit") (some (reviewedClaim claim))
  | .notFoundConclusive =>
    finishHcsFailed working claim.envelopeHash
      (js "Resolver returned NOT_FOUND_CONCLUSIVE — no automatic republish") (some (notFoundClaim claim))

/-- `resume` is `publishHcsEvidence` itself, for the record of whoever came first. -/
def resolveAmbiguousHcsClaim (resume : ReservationRecord → ServiceM ReservationRecord) (record : ReservationRecord)
    (claim : HcsPublicationClaim) : ServiceM ReservationRecord :=
  if record.hcsPublicationClaim.map HcsPublicationClaim.status = some .resolving then resolveClaim deps record claim
  else do
    let now ← nowIso
    let r ← commitOrConflict .resolving record
      { record with hcsPublicationClaim := some { claim with status := .resolving }, updatedAt := now }
    if r.conflicted then resume r.record else resolveClaim deps r.record claim

/-- Only the holder of the claim comes here. -/
def invokeHcsPublish (resume : ReservationRecord → ServiceM ReservationRecord) (record : ReservationRecord)
    (claim : HcsPublicationClaim) (envelope : RouteReservedEnvelope) : ServiceM ReservationRecord :=
  if routeReservedEnvelopeHash deps.crypto envelope ≠ claim.envelopeHash then
    finishHcsFailed record claim.envelopeHash (js "Publisher envelope hash does not match durable claim")
      (some (failedConclusively claim (js "HCS_ENVELOPE_HASH_MISMATCH")
        (js "Publisher envelope hash does not match durable claim")))
  else if measureRouteReservedEnvelope envelope ≠ claim.encodedByteCount then
    finishHcsFailed record claim.envelopeHash (js "Publisher envelope size does not match durable claim")
      (some (failedConclusively claim (js "HCS_ENVELOPE_SIZE_MISMATCH")
        (js "Publisher envelope size does not match durable claim")))
  else do
    match ← (await (Prog.perform (Call.publish claim envelope))).outcome with
    | .error e =>
      resolveAmbiguousHcsClaim deps resume record
        { claim with failureCode := some (js "HCS_PUBLISH_EXCEPTION"), failureReason := some e.message }
    | .ok published =>
      match assertValidHcsPublicationResult published claim.expectedTopicId none false with
      | .ok validated => persistHcsPublished record claim validated
      | .error e =>
        finishHcsFailed record claim.envelopeHash e.message
          (some (failedConclusively claim (e.code?.getD (js "HCS_INVALID_PUBLISH_RESULT")) e.message))

/-- An envelope that passed the checks before a claim, with its hash and byte count. -/
structure ClaimableEnvelope where
  envelope : RouteReservedEnvelope
  envelopeHash : JsString
  encodedByteCount : Nat

def claimableEnvelope (record : ReservationRecord) (rr : RouteReservedRecord) (createdAt : JsString) :
    Except ServiceError ClaimableEnvelope := do
  let envelope ← routeReservedEvidence deps.crypto
    { runId := js "reservation-" ++ record.reservationId
      tenderId := record.tenderId
      tenderVersion := record.tenderVersion
      tenderHash := record.tenderHash
      createdAt := createdAt
      payload := buildRouteReservedPayload rr record.winningCarrierId }
  let checked ← assertClaimableRouteReservedPublication deps.crypto envelope record.hcsTopicId rr record.hcsTopicId
  pure ⟨envelope, checked.1, checked.2⟩

def hcsClaimOf (record : ReservationRecord) (attemptId claimedAt : JsString) (checked : ClaimableEnvelope) :
    HcsPublicationClaim where
  publishAttemptId := attemptId
  reservationId := record.reservationId
  expectedTopicId := record.hcsTopicId
  messageType := ROUTE_RESERVED_EVENT_TYPE
  envelope := checked.envelope
  envelopeHash := checked.envelopeHash
  encodedByteCount := checked.encodedByteCount
  claimedAt := claimedAt
  status := .claimed
  transactionId := none
  sequence := none
  consensusTimestamp := none
  failureCode := none
  failureReason := none

/-- Who loses the race for the claim does not publish. -/
def claimAndPublishHcs (resume : ReservationRecord → ServiceM ReservationRecord) (record : ReservationRecord)
    (rr : RouteReservedRecord) : ServiceM ReservationRecord :=
  ServiceM.orElse (do let createdAt ← nowIso; check (claimableEnvelope deps record rr createdAt))
    (fun e => finishHcsFailed record [] e.message none)
    fun checked => do
      let claimedAt ← nowIso
      let attemptId ← read Call.randomUUID
      let claim := hcsClaimOf record attemptId claimedAt checked
      let r ← commitOrConflict .claimHcs record { record with hcsPublicationClaim := some claim, updatedAt := claimedAt }
      if r.conflicted then
        if isHcsAlreadyPublished r.record then ensureHcsRecordedState r.record else pure r.record
      else
        match r.record.hcsPublicationClaim with
        | some held => invokeHcsPublish deps resume r.record held checked.envelope
        | none => throw (.other (js "Cannot read properties of null"))

/-- A claim that is there is finished, never published again. -/
def finishClaim (resume : ReservationRecord → ServiceM ReservationRecord) (record : ReservationRecord)
    (claim : HcsPublicationClaim) : ServiceM ReservationRecord :=
  match claim.status with
  | .manualReviewRequired =>
    finishHcsFailed record claim.envelopeHash (claim.failureReason.getD (js "manual review required")) (some claim)
  | .failedConclusive =>
    finishHcsFailed record claim.envelopeHash
      (claim.failureReason.getD (js "hcs publication failed conclusively")) (some claim)
  | status =>
    if (status = .claimed ∨ status = .resolving) ∧ ¬ truthy claim.transactionId ∧ claim.sequence = none then
      resolveAmbiguousHcsClaim deps resume record claim
    else
      match claim.sequence, claim.consensusTimestamp with
      | some sequence, some consensusTimestamp =>
        if consensusTimestamp = [] then resolveAmbiguousHcsClaim deps resume record claim
        else persistHcsPublished record claim ⟨claim.expectedTopicId, claim.transactionId, sequence, consensusTimestamp⟩
      | _, _ => resolveAmbiguousHcsClaim deps resume record claim

/-- The outbox of the publication: a claim is persisted before the one publication, and an outcome that is not known
is resolved, never published again. -/
def publishHcsEvidence : Nat → ReservationRecord → ServiceM ReservationRecord
  | 0, _ => throw (.other (js "Too many concurrent changes"))
  | depth + 1, record =>
    match record.routeReserved with
    | none => pure record
    | some rr =>
      if isHcsAlreadyPublished record then ensureHcsRecordedState record
      else
        match record.hcsPublicationClaim with
        | some claim => finishClaim deps (publishHcsEvidence depth) record claim
        | none => claimAndPublishHcs deps (publishHcsEvidence depth) record rr

/-! ## Public operations -/

def retryWebhooks (reservationId : JsString) : ServiceM ReservationRecord := do
  let record ← requireRecord reservationId
  check (require (record.webhookEvents ≠ []) (err "NO_WEBHOOK_EVENTS" "No webhook events to retry"))
  deliverPersistedWebhooks record

def resumeWebhookDispatch (reservationId : JsString) : ServiceM ReservationRecord := do
  let record ← requireRecord reservationId
  check (require record.routeReserved.isSome
    (err "NOT_ROUTE_RESERVED" "Cannot dispatch webhooks before ROUTE_RESERVED"))
  dispatchWebhooks deps record

def resumeHcsPublication (reservationId : JsString) : ServiceM ReservationRecord := do
  let record ← requireRecord reservationId
  check (require record.routeReserved.isSome
    (err "NOT_ROUTE_RESERVED" "Cannot publish HCS evidence before ROUTE_RESERVED"))
  publishHcsEvidence deps deps.depth record

end Outbox

end RouteGuard.Reservation
