import RouteGuard.Reservation.Publications
import RouteGuard.Reservation.Reserved

/-!
# Each recipient sees one webhook

The events of a reservation are written once, one for each recipient, and every delivery sends what is stored.

* `Valid.event` : what the validator knows of a stored event;
* `Lawful.event_signed` : a stored event was signed with the key of the service;
* `DispatchedBy` : one pass delivered to both recipients;
* `webhooks_identical` : the deliveries of every run.
-/

namespace RouteGuard.Reservation
open JsString Guarded ReservationState

/-! ## Stored events -/

section Events
variable {deps : ServiceDeps} {auction : Auction} {w : Trace} {site : CommitSite} {r cur next : ReservationRecord}

/-- The payload of an event repeats the reserved route. -/
structure Repeats (payload : WebhookEventPayload) (rr : RouteReservedRecord) : Prop where
  reservationId : payload.reservationId = rr.reservationId
  tenderId : payload.tenderId = rr.tenderId
  winningBidId : payload.winningBidId = rr.winningBidId
  carrierAccount : payload.carrierAccount = rr.carrierAccount
  selectedOptionId : payload.selectedOptionId = rr.selectedOptionId
  paymentAsset : payload.paymentAsset = rr.paymentAsset
  paymentAmountAtomic : payload.paymentAmountAtomic = rr.paymentAmountAtomic
  transactionId : payload.transactionId = rr.transactionId
  consensusTimestamp : payload.consensusTimestamp = rr.consensusTimestamp
  reservationRecordHash : payload.reservationRecordHash = rr.reservationRecordHash

theorem checkPayloadBinding_eq_ok {payload : WebhookEventPayload} {rr : RouteReservedRecord} {u : Unit} :
    checkPayloadBinding payload rr = .ok u ↔ Repeats payload rr := by
  simp only [checkPayloadBinding, check_eq_ok, binding, require_eq_ok]
  constructor
  · rintro ⟨h1, h2, h3, h4, h5, h6, h7, h8, h9, h10⟩
    exact ⟨h1, h2, h3, h4, h5, h6, h7, h8, h9, h10⟩
  · rintro ⟨h1, h2, h3, h4, h5, h6, h7, h8, h9, h10⟩
    exact ⟨h1, h2, h3, h4, h5, h6, h7, h8, h9, h10⟩

/-- An event of a valid record repeats the reserved route, which is there. -/
theorem Valid.event (h : Valid deps.crypto r) {event : WebhookEvent} (hevent : event ∈ r.webhookEvents) :
    ∃ rr, r.routeReserved = some rr ∧ Repeats event.payload rr ∧ event.payload.reservationId = r.reservationId := by
  have hparts := valid_iff.mp h
  have hwebhooks := hparts.webhooks
  simp only [checkWebhooks, check_eq_ok, binding, require_eq_ok] at hwebhooks
  obtain ⟨hreserved, hevents, -⟩ := hwebhooks
  obtain ⟨rr, hrr⟩ := Option.isSome_iff_exists.mp (hreserved (.inl (List.ne_nil_of_mem hevent)))
  obtain ⟨before, after, hsplit⟩ := List.append_of_mem hevent
  have hchecked := eachAfter_eq_ok.mp hevents before event after hsplit
  simp only [checkWebhookEvent, check_eq_ok, binding, require_eq_ok, nullable_eq_ok] at hchecked
  obtain ⟨-, -, -, -, -, -, -, -, -, -, -, -, hbound⟩ := hchecked
  have hrepeats := checkPayloadBinding_eq_ok.mp (hbound rr hrr)
  refine ⟨rr, hrr, hrepeats, ?_⟩
  have hroute := hparts.route rr hrr
  simp only [checkRoute, check_eq_ok, binding, require_eq_ok] at hroute
  exact hrepeats.reservationId.trans hroute.2.1

/-- Values that are new at every place do not repeat. -/
theorem nodup_map_of_fresh {α β : Type} {f : α → β} {l : List α}
    (h : ∀ before a after, l = before ++ a :: after → f a ∉ before.map f) : (l.map f).Nodup := by
  induction l using List.reverseRecOn with
  | nil => exact List.nodup_nil
  | append_singleton l a ih =>
    rw [List.map_append, List.map_singleton]
    refine (ih ?_).concat (h l a [] rfl) |> (List.concat_eq_append ▸ ·)
    rintro before b after rfl
    exact h before b (after ++ [a]) (by simp)

/-- A record has one event for a recipient. -/
theorem Valid.event_unique (h : Valid deps.crypto r) {event event' : WebhookEvent} (hevent : event ∈ r.webhookEvents)
    (hevent' : event' ∈ r.webhookEvents) (hsame : event.recipient = event'.recipient) : event = event' := by
  have hwebhooks := (valid_iff.mp h).webhooks
  simp only [checkWebhooks, check_eq_ok] at hwebhooks
  have hnodup : (r.webhookEvents.map WebhookEvent.recipient).Nodup := by
    refine nodup_map_of_fresh ?_
    intro before a after hsplit
    have hchecked := eachAfter_eq_ok.mp hwebhooks.2.1 before a after hsplit
    simp only [checkWebhookEvent, check_eq_ok, binding, require_eq_ok] at hchecked
    exact hchecked.2.1
  exact List.inj_on_of_nodup_map hnodup hevent hevent' hsame

/-- Both recipients have an event where there are two. -/
theorem Valid.event_of_recipient (h : Valid deps.crypto r) (htwo : r.webhookEvents.length = 2) (recipient : Recipient) :
    ∃ event ∈ r.webhookEvents, event.recipient = recipient := by
  match hevents : r.webhookEvents with
  | [a, b] =>
    have hne : a.recipient ≠ b.recipient := by
      intro hsame
      have heq := h.event_unique (by simp [hevents]) (by simp [hevents]) hsame
      have hwebhooks := (valid_iff.mp h).webhooks
      simp only [checkWebhooks, check_eq_ok] at hwebhooks
      have hchecked := eachAfter_eq_ok.mp hwebhooks.2.1 [a] b [] hevents
      simp only [checkWebhookEvent, check_eq_ok, binding, require_eq_ok] at hchecked
      exact hchecked.1 (by simp [heq])
    by_cases hrecipient : a.recipient = recipient
    · exact ⟨a, by simp, hrecipient⟩
    · refine ⟨b, by simp, ?_⟩
      revert hne hrecipient
      cases a.recipient <;> cases b.recipient <;> cases recipient <;> decide
  | [] => simp [hevents] at htwo
  | [_] => simp [hevents] at htwo
  | _ :: _ :: _ :: _ => simp [hevents] at htwo

/-! ## Signatures -/

/-- The event is what the service signs for its payload. -/
def SignedEvent (deps : ServiceDeps) (event : WebhookEvent) : Prop :=
  createWebhookEvent deps.crypto event.eventId event.recipient event.payload deps.webhookSigningPrivateKey = .ok event

theorem createWebhookEvent_spec {c : Crypto} {eventId key : JsString} {recipient : Recipient}
    {payload : WebhookEventPayload} {event : WebhookEvent}
    (h : createWebhookEvent c eventId recipient payload key = .ok event) :
    event.eventId = eventId ∧ event.recipient = recipient ∧ event.payload = payload := by
  simp only [createWebhookEvent, bind_eq_ok, pure_eq_ok] at h
  obtain ⟨_, -, _, -, rfl⟩ := h
  exact ⟨rfl, rfl, rfl⟩

theorem webhookEventFor_signed {rr : RouteReservedRecord} {emittedAt : JsString} {recipient : Recipient}
    {event : WebhookEvent} (h : webhookEventFor deps cur rr emittedAt recipient = .ok event) :
    event ∈ cur.webhookEvents ∨ SignedEvent deps event := by
  unfold webhookEventFor at h
  simp only at h
  split at h
  · next existing hfound =>
    cases h
    exact .inl (List.mem_of_find?_eq_some hfound)
  · obtain ⟨payload, -, hcreated⟩ := bind_eq_ok.mp h
    obtain ⟨hid, hrecipient, hpayload⟩ := createWebhookEvent_spec hcreated
    right
    unfold SignedEvent
    rw [hid, hrecipient, hpayload]
    exact hcreated

/-- Every stored event was signed by the service. -/
theorem Lawful.event_signed {id : JsString} (hw : Lawful deps auction w) (hr : r ∈ versions w id) {event : WebhookEvent}
    (hevent : event ∈ r.webhookEvents) : SignedEvent deps event := by
  refine Lawful.versions_induction (P := fun r => ∀ event ∈ r.webhookEvents, SignedEvent deps event) ?_ ?_ hw r hr event
    hevent
  · intro input tender record hrecord _ _ event hevent
    obtain ⟨offer, rfl⟩ := reservationOf_spec hrecord
    cases hevent
  · intro w site cur next hw hcur ih hchange _ _ event hevent
    rcases hchange.webhookEvents_cases (hw.valid (mem_versions_of_stored hcur)) with heq | ⟨rr, now, -, -, hevents⟩
    · rw [show next.webhookEvents = cur.webhookEvents from heq] at hevent
      exact ih event hevent
    · simp only [webhookEventsFor, bind_eq_ok, pure_eq_ok] at hevents
      obtain ⟨shipper, hshipper, carrier, hcarrier, heq⟩ := hevents
      simp only [← heq, List.mem_cons, List.not_mem_nil, or_false] at hevent
      rcases hevent with rfl | rfl
      · exact (webhookEventFor_signed hshipper).elim (ih _) (fun h => h)
      · exact (webhookEventFor_signed hcarrier).elim (ih _) (fun h => h)

/-- The public key accepts what the private key of the service signed. -/
def Verifies (deps : ServiceDeps) (publicKey : JsString) : Prop :=
  ∀ message, deps.crypto.verify publicKey message (deps.crypto.sign deps.webhookSigningPrivateKey message) = true

theorem SignedEvent.verifyWebhook {event : WebhookEvent} (h : SignedEvent deps event) {publicKey : JsString}
    (hkey : Verifies deps publicKey) : verifyWebhook deps.crypto (rebuildSignedWebhook event) publicKey = true := by
  unfold SignedEvent at h
  simp only [createWebhookEvent, signWebhook, signCanonicalPayload, bind_eq_ok, require_eq_ok, exists_const,
    pure_eq_ok] at h
  obtain ⟨hid, signed, ⟨-, signature, ⟨hhex, rfl⟩, rfl⟩, hevent⟩ := h
  rw [hid] at hhex
  rw [← hevent]
  simp [Reservation.verifyWebhook, rebuildSignedWebhook, verifyCanonicalPayload, hid, hhex, hkey _]

end Events

/-! ## Passes -/

/-- One pass delivered the webhooks of a reservation to both recipients. -/
def DispatchedBy (w : Trace) (id : JsString) (pass : Nat) : Prop :=
  ∀ recipient, ∃ webhook result, ⟨.deliver pass recipient webhook, .ok result⟩ ∈ w ∧ result.ok = true ∧
    webhook.payload.reservationId = id

section Passes
variable {deps : ServiceDeps} {auction : Auction} {w : Trace} {site : CommitSite} {r cur next : ReservationRecord}

/-- A pass whose deliveries all went well. -/
theorem Delivered.all {pass : Nat} {events : List WebhookEvent} {deliveries : List WebhookDeliveryRecord}
    (h : Delivered w pass r events deliveries) (hall : deliveries.all WebhookDeliveryRecord.delivered) :
    ∀ event ∈ events, ∃ result, ⟨.deliver pass event.recipient (rebuildSignedWebhook event), .ok result⟩ ∈ w ∧
      result.ok = true := by
  induction h with
  | nil =>
    intro event hevent
    cases hevent
  | @cons event events deliveries result attemptedAt hdelivered htime hrest ih =>
    rw [List.all_cons, Bool.and_eq_true] at hall
    intro e he
    rcases List.mem_cons.mp he with rfl | he
    · exact ⟨result, hdelivered, hall.1⟩
    · exact ih hall.2 e he

/-- A commit enters `WEBHOOKS_DISPATCHED` only after such a pass. -/
theorem Change.dispatched (h : Change deps w site cur next) (hw : Lawful deps auction w) {id : JsString}
    (hcur : cur ∈ versions w id) (hne : cur.state ≠ webhooksDispatched) (hnext : next.state = webhooksDispatched) :
    ∃ pass, DispatchedBy w id pass := by
  have hvalid := hw.valid hcur
  have hleft {t : ReservationState} (ht : next.state = t) (hother : t ≠ webhooksDispatched) : False :=
    hother (ht.symm.trans hnext)
  cases h with
  | submission h =>
    have htarget := (h.submits hvalid).target
    rw [hnext] at htarget
    exact absurd htarget (by decide)
  | confirmation h =>
    have htarget := h.confirms.target
    rw [hnext] at htarget
    exact absurd htarget (by decide)
  | outbox h =>
    cases h with
    | @deliveries _ _ pass deliveries now hevents hdelivered hnow hmoved =>
      cases hall : deliveries.all WebhookDeliveryRecord.delivered with
      | true =>
        refine ⟨pass, ?_⟩
        intro recipient
        have htwo : cur.webhookEvents.length = 2 := (hw.webhookEvents_length hcur).resolve_left hevents
        obtain ⟨event, hevent, hrecipient⟩ := hvalid.event_of_recipient htwo recipient
        obtain ⟨result, hmem, hok⟩ := hdelivered.all hall event hevent
        obtain ⟨rr, -, -, hid⟩ := hvalid.event hevent
        rw [hrecipient] at hmem
        exact ⟨_, result, hmem, hok, hid.trans (hw.reservationId_eq hcur)⟩
      | false =>
        rw [hall] at hmoved
        exfalso
        rcases (MovedFrom.rest hmoved).1 with ht | ht
        · exact hne (ht.symm.trans hnext)
        · exact hleft ht (by decide)
    | hcsPublished hreserved hclaim hunpublished hsame hresult hnow hmoved =>
      rcases hmoved.rest.1 with ht | ht
      · exact absurd (ht.symm.trans hnext) hne
      · exact (hleft ht (by decide)).elim
    | hcsFailed hreserved hclaim hunpublished hnow hmoved =>
      rcases hmoved.rest.1 with ht | ht
      · exact absurd (ht.symm.trans hnext) hne
      · exact (hleft ht (by decide)).elim
    | hcsRecorded => exact (hleft (t := hcsEvidenceRecorded) rfl (by decide)).elim
    | complete => exact (hleft (t := completed) rfl (by decide)).elim
    | _ => exact absurd hnext hne

theorem Lawful.dispatched {id : JsString} (hw : Lawful deps auction w) (hr : r ∈ versions w id)
    (hstate : r.state = webhooksDispatched) : ∃ pass, DispatchedBy w id pass := by
  have hmono {w w' : Trace} (hw : w <+: w') (h : ∃ pass, DispatchedBy w id pass) : ∃ pass, DispatchedBy w' id pass := by
    obtain ⟨pass, hpass⟩ := h
    refine ⟨pass, ?_⟩
    intro recipient
    obtain ⟨webhook, result, hmem, hrest⟩ := hpass recipient
    exact ⟨webhook, result, hw.subset hmem, hrest⟩
  refine Lawful.versions_invariant (P := fun w r => r.state = webhooksDispatched → ∃ pass, DispatchedBy w id pass) ?_ ?_ ?_
    hw r hr hstate
  · intro w w' r hgrows h hstate
    exact hmono hgrows (h hstate)
  · intro w input tender record hrecord _ _ hstate
    obtain ⟨offer, rfl⟩ := reservationOf_spec hrecord
    cases hstate
  · intro w site cur next hw hcur ih hchange _ _ hstate
    refine hmono (List.prefix_append _ _) ?_
    by_cases hcurState : cur.state = webhooksDispatched
    · exact ih hcurState
    · exact hchange.dispatched hw (mem_versions_of_stored hcur) hcurState hstate

end Passes

/-! ## Runs -/

section Runs
variable {deps : ServiceDeps} {auction : Auction} {ls : List (PoolLabel Request Call Call.Answer)}
  {s : Pool Trace Call Call.Answer (Except ServiceError Response)}

/-- A delivery sends what was stored before: the event of the recipient, which repeats the reserved route and carries
a signature that the key accepts. -/
structure SendsStored (deps : ServiceDeps) (publicKey : JsString) (w : Trace) (recipient : Recipient)
    (webhook : SignedWebhook) (r : ReservationRecord) (event : WebhookEvent) (rr : RouteReservedRecord) : Prop where
  durable : stored w webhook.payload.reservationId = some r
  listed : event ∈ r.webhookEvents
  addressed : event.recipient = recipient
  rebuilt : webhook = rebuildSignedWebhook event
  reserved : r.routeReserved = some rr
  repeats : Repeats webhook.payload rr
  verifies : verifyWebhook deps.crypto webhook publicKey = true

/-- In every run: all deliveries for a reservation to one recipient carry one and the same signed webhook; each sends
what was stored before; and a record is in `WEBHOOKS_DISPATCHED` only after one pass that delivered to both. -/
theorem webhooks_identical (hrun : (serviceSystem deps auction).Run ls s) {publicKey : JsString}
    (hkey : Verifies deps publicKey) :
    (∀ pass pass' recipient webhook webhook' answer answer',
        ⟨.deliver pass recipient webhook, answer⟩ ∈ s.shared → ⟨.deliver pass' recipient webhook', answer'⟩ ∈ s.shared →
        webhook.payload.reservationId = webhook'.payload.reservationId → webhook = webhook') ∧
      (∀ w pass recipient webhook answer rest, s.shared = w ++ ⟨.deliver pass recipient webhook, answer⟩ :: rest →
        ∃ r event rr, SendsStored deps publicKey w recipient webhook r event rr) ∧
      ∀ id, ∀ r ∈ versions s.shared id, r.state = webhooksDispatched → ∃ pass, DispatchedBy s.shared id pass := by
  have hw := lawful_of_run hrun
  refine ⟨?_, ?_, fun id r hr hstate => hw.dispatched hr hstate⟩
  · intro pass pass' recipient webhook webhook' answer answer' hmem hmem' hid
    obtain ⟨v, hv, id, r, hr, event, hevent, hrecipient, hwebhook⟩ := hw.allowed_of_mem hmem
    obtain ⟨v', hv', id', r', hr', event', hevent', hrecipient', hwebhook'⟩ := hw.allowed_of_mem hmem'
    have hr := mem_versions_later hv hr
    have hr' := mem_versions_later hv' hr'
    obtain ⟨-, -, -, hown⟩ := (hw.valid hr).event hevent
    obtain ⟨-, -, -, hown'⟩ := (hw.valid hr').event hevent'
    have hsameId : id = id' := by
      rw [← hw.reservationId_eq hr, ← hw.reservationId_eq hr', ← hown, ← hown']
      rw [hwebhook, hwebhook'] at hid
      exact hid
    subst hsameId
    -- the two records have the same events
    have hevents : r'.webhookEvents = r.webhookEvents := by
      rcases Nat.le_total r.recordVersion r'.recordVersion with hle | hle
      · exact hw.webhookEvents_later hr hr' hle (List.ne_nil_of_mem hevent)
      · exact (hw.webhookEvents_later hr' hr hle (List.ne_nil_of_mem hevent')).symm
    rw [hevents] at hevent'
    have heq := (hw.valid hr).event_unique hevent hevent' (hrecipient.trans hrecipient'.symm)
    rw [hwebhook, hwebhook', heq]
  · intro w pass recipient webhook answer rest heq
    rw [heq] at hw
    obtain ⟨hlawful, ⟨id, r, hr, event, hevent, hrecipient, hwebhook⟩, -⟩ := hw.call_at
    obtain ⟨last, hlast⟩ := stored_isSome_of_mem hr
    have hlastMem := mem_versions_of_stored hlast
    have hevents := hlawful.webhookEvents_later hr hlastMem (hlawful.le_stored hr hlast) (List.ne_nil_of_mem hevent)
    rw [← hevents] at hevent
    obtain ⟨rr, hrr, hrepeats, hown⟩ := (hlawful.valid hlastMem).event hevent
    have hid : webhook.payload.reservationId = id := by
      rw [hwebhook]
      exact hown.trans (hlawful.reservationId_eq hlastMem)
    refine ⟨last, event, rr, ?_, hevent, hrecipient, hwebhook, hrr, ?_, ?_⟩
    · rw [hid]
      exact hlast
    · rw [hwebhook]
      exact hrepeats
    · rw [hwebhook]
      exact (hlawful.event_signed hlastMem hevent).verifyWebhook hkey

theorem Scripted.verifies : Verifies Scripted.deps (js "key") := fun _ => decide_eq_true rfl

/-- The webhooks of the script. -/
theorem webhooks_identical_scripted : ∃ (s : ServicePool) (r : ReservationRecord),
    stored s.shared (js "r-1") = some r ∧ r.routeReserved.isSome ∧
    (∀ pass pass' recipient webhook webhook' answer answer',
        ⟨.deliver pass recipient webhook, answer⟩ ∈ s.shared → ⟨.deliver pass' recipient webhook', answer'⟩ ∈ s.shared →
        webhook.payload.reservationId = webhook'.payload.reservationId → webhook = webhook') ∧
      (∀ w pass recipient webhook answer rest, s.shared = w ++ ⟨.deliver pass recipient webhook, answer⟩ :: rest →
        ∃ r event rr, SendsStored Scripted.deps (js "key") w recipient webhook r event rr) ∧
      ∀ id, ∀ r ∈ versions s.shared id, r.state = webhooksDispatched → ∃ pass, DispatchedBy s.shared id pass := by
  obtain ⟨ls, s, hrun, hcompleted⟩ := Scripted.completed
  obtain ⟨r, hr, hreserved⟩ := (Option.any_eq_true _ _).mp hcompleted.reserved
  exact ⟨s, r, hr, hreserved, webhooks_identical hrun Scripted.verifies⟩

end Runs

end RouteGuard.Reservation
