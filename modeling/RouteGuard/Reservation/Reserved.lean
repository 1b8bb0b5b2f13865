import RouteGuard.Reservation.Script
import RouteGuard.Reservation.ServiceSafety

/-!
# A reserved route is paid and stays reserved

* `Paid` : what a record with a reserved route holds;
* `Change.webhookEvents_cases` : the events of a record are written once;
* `reserved_paid_and_kept` : in every run, a reserved route is paid, and no later commit takes any of it back.
-/

namespace RouteGuard.Reservation
open JsString Guarded ReservationState

/-- The payment behind a reserved route: the settle claim, and Mirror's success of exactly the transaction of the
record, with transfers that were accepted for the selection. The reserved route repeats the record, the selection, the
transaction and, as the time of the reservation too, the consensus timestamp. -/
structure Paid (r : ReservationRecord) (rr : RouteReservedRecord) (claim : SettleClaim) (selected : SelectedPaymentOption)
    (mirror : MirrorConfirmation) (txId : JsString) (v : VerifiedPaymentResult) : Prop where
  verified : verifyMirrorPayment selected mirror txId = .ok v
  success : mirror.status = .success
  exact_tx : mirror.transactionId = txId
  consensus : mirror.consensusTimestamp = some v.consensusTimestamp
  repeats : rr = { routeReservedOf r selected txId v.consensusTimestamp with
    reservationRecordHash := rr.reservationRecordHash }
  settleClaim : r.settleClaim = some claim
  selection : r.selected = some selected
  tx : r.transactionId = some txId
  confirmation : r.mirrorConfirmation = some mirror

section Reserved
variable {deps : ServiceDeps} {auction : Auction} {w : Trace} {site : CommitSite} {cur next : ReservationRecord}

theorem verifySuccess_spec {selected : SelectedPaymentOption} {mirror : MirrorConfirmation} {txId : JsString}
    {v : VerifiedPaymentResult} (h : verifySuccess selected mirror txId = .ok v) :
    verifyMirrorPayment selected mirror txId = .ok v := by
  simp only [verifySuccess, bind_eq_ok] at h
  obtain ⟨_, -, h⟩ := h
  exact h

theorem createRouteReservedRecord_spec {c : Crypto} {body rr : RouteReservedRecord}
    (h : createRouteReservedRecord c body = .ok rr) :
    rr = { body with reservationRecordHash := rr.reservationRecordHash } ∧ verifyRouteReservedRecordHash c rr := by
  simp only [createRouteReservedRecord, bind_eq_ok, pure_eq_ok] at h
  obtain ⟨_, -, rfl⟩ := h
  exact ⟨rfl, by simp [verifyRouteReservedRecordHash, routeReservedRecordBody]⟩

/-- Only the reservation itself writes a reserved route. -/
theorem Change.routeReserved_cases (h : Change deps w site cur next) (hvalid : Valid deps.crypto cur) :
    next.routeReserved = none ∨ Notifies cur next ∨
      ∃ selected txId mirror v rr now, cur.state = paymentConfirmed ∧ cur.transactionId = some txId ∧
        cur.selected = some selected ∧ cur.mirrorConfirmation = some mirror ∧
        verifySuccess selected mirror txId = .ok v ∧
        createRouteReservedRecord deps.crypto (routeReservedOf cur selected txId v.consensusTimestamp) = .ok rr ∧
        next = { cur.entered routeReserved (js "payment confirmed") now with routeReserved := some rr } := by
  have hnone (hs : cur.state ∉ POST_RESERVATION_STATES) : cur.routeReserved = none := by
    rw [← hvalid.reserved_iff] at hs
    simpa using hs
  cases h with
  | submission h =>
    have hsubmits := h.submits hvalid
    left
    rw [hsubmits.rest]
    refine hnone ?_
    have hsource := hsubmits.source
    revert hsource
    cases cur.state <;> decide
  | outbox h => exact .inr (.inl (h.notifies hvalid))
  | confirmation h =>
    have hunreserved : cur.routeReserved = none := by
      refine hnone ?_
      have hsource := h.confirms.source
      revert hsource
      cases cur.state <;> decide
    have hmoved {base mid : ReservationRecord} {t : ReservationState} (hm : Moved w base t mid)
        (hbase : base.routeReserved = cur.routeReserved) : mid.routeReserved = none := by
      rw [hm.rest.2]
      exact hbase.trans hunreserved
    cases h with
    | reserve hstate htx hselected hmirror hverified hreserved hnow =>
      exact .inr (.inr ⟨_, _, _, _, _, _, hstate, htx, hselected, hmirror, hverified, hreserved, rfl⟩)
    | mirrorFailed hm | confirm hm | failConfirmation hm | timeOut hm | pollBound hm =>
      have hnone := hmoved hm rfl
      exact .inl hnone
    | _ => exact .inl hunreserved

/-- Every reserved route is paid. -/
theorem Lawful.paid {id : JsString} (hw : Lawful deps auction w) {r : ReservationRecord} (hr : r ∈ versions w id)
    {rr : RouteReservedRecord} (hrr : r.routeReserved = some rr) :
    ∃ claim selected mirror txId v, Paid r rr claim selected mirror txId v := by
  refine Lawful.versions_induction (P := fun r => ∀ rr, r.routeReserved = some rr →
    ∃ claim selected mirror txId v, Paid r rr claim selected mirror txId v) ?_ ?_ hw r hr rr hrr
  · intro input tender record hrecord _ _ rr hrr
    obtain ⟨offer, rfl⟩ := reservationOf_spec hrecord
    cases hrr
  · intro w site cur next hw hcur ih hchange _ hvalid rr hrr
    have hcurValid := hw.valid (mem_versions_of_stored hcur)
    rcases hchange.routeReserved_cases hcurValid with hnone | hnotifies |
      ⟨selected, txId, mirror, v, rr', now, hstate, htx, hselected, hmirror, hverified, hreserved, rfl⟩
    · exact absurd (hnone.symm.trans hrr) (fun h => by cases h)
    · have hrest := hnotifies.rest
      have hsame : next.routeReserved = cur.routeReserved := by rw [hrest]
      obtain ⟨claim, selected, mirror, txId, v, hpaid⟩ := ih rr (hsame.symm.trans hrr)
      refine ⟨claim, selected, mirror, txId, v, hpaid.verified, hpaid.success, hpaid.exact_tx, hpaid.consensus, ?_, ?_, ?_,
        ?_, ?_⟩
      · rw [hrest]
        exact hpaid.repeats
      · rw [hrest]
        exact hpaid.settleClaim
      · rw [hrest]
        exact hpaid.selection
      · rw [hrest]
        exact hpaid.tx
      · rw [hrest]
        exact hpaid.confirmation
    · cases hrr
      obtain ⟨claim, hclaim⟩ := Option.isSome_iff_exists.mp (hvalid.settleClaim_isSome (by
        show routeReserved ∈ _
        decide))
      have hpayment := verifySuccess_spec hverified
      obtain ⟨hsuccess, hexact, -, -, hconsensus, -⟩ := verifyMirrorPayment_spec hpayment
      exact ⟨claim, selected, mirror, txId, v, hpayment, hsuccess, hexact, hconsensus,
        (createRouteReservedRecord_spec hreserved).1, hclaim, hselected, htx, hmirror⟩

/-! ## The events -/

/-- A commit writes the events of a record where there are fewer than two, and leaves them otherwise. -/
theorem Change.webhookEvents_cases (h : Change deps w site cur next) (hvalid : Valid deps.crypto cur) :
    next.webhookEvents = cur.webhookEvents ∨
      ∃ rr now, cur.routeReserved = some rr ∧ cur.webhookEvents.length < 2 ∧
        webhookEventsFor deps cur rr now = .ok next.webhookEvents := by
  cases h with
  | submission h =>
    left
    rw [(h.submits hvalid).rest]
  | confirmation h =>
    left
    rw [h.confirms.rest]
  | outbox h =>
    cases h with
    | webhookEvents hreserved hfew hnow hevents => exact .inr ⟨_, _, hreserved, hfew, hevents⟩
    | deliveries hevents hdelivered hnow hmoved =>
      left
      rw [hmoved.rest.2]
    | hcsPublished hreserved hclaim hunpublished hsame hresult hnow hmoved =>
      left
      rw [hmoved.rest.2]
    | hcsFailed hreserved hclaim hunpublished hnow hmoved =>
      left
      rw [hmoved.rest.2]
    | _ => exact .inl rfl

theorem webhookEventsFor_length {r : ReservationRecord} {rr : RouteReservedRecord} {now : JsString}
    {events : List WebhookEvent} (h : webhookEventsFor deps r rr now = .ok events) : events.length = 2 := by
  simp only [webhookEventsFor, bind_eq_ok, pure_eq_ok] at h
  obtain ⟨shipper, -, carrier, -, rfl⟩ := h
  rfl

/-- A record has both events or none. -/
theorem Lawful.webhookEvents_length {id : JsString} (hw : Lawful deps auction w) {r : ReservationRecord}
    (hr : r ∈ versions w id) : r.webhookEvents = [] ∨ r.webhookEvents.length = 2 := by
  refine Lawful.versions_induction (P := fun r => r.webhookEvents = [] ∨ r.webhookEvents.length = 2) ?_ ?_ hw r hr
  · intro input tender record hrecord _ _
    obtain ⟨offer, rfl⟩ := reservationOf_spec hrecord
    exact .inl rfl
  · intro w site cur next hw hcur ih hchange _ _
    rcases hchange.webhookEvents_cases (hw.valid (mem_versions_of_stored hcur)) with heq | ⟨rr, now, -, -, hevents⟩
    · simp only [heq]
      exact ih
    · exact .inr (webhookEventsFor_length hevents)

/-- Events that are stored stay as they are. -/
theorem Lawful.webhookEvents_later {id : JsString} (hw : Lawful deps auction w) {r r' : ReservationRecord}
    (hr : r ∈ versions w id) (hr' : r' ∈ versions w id) (hle : r.recordVersion ≤ r'.recordVersion)
    (hevents : r.webhookEvents ≠ []) : r'.webhookEvents = r.webhookEvents := by
  refine Lawful.later_induction (R := fun r r' => r.webhookEvents ≠ [] → r'.webhookEvents = r.webhookEvents) ?_ ?_ hw r hr
    r' hr' hle hevents
  · intro r _
    rfl
  · intro w site r cur next hw hr hcur ih hchange _ _ hne
    have hsame := ih hne
    have hcurMem := mem_versions_of_stored hcur
    rcases hchange.webhookEvents_cases (hw.valid hcurMem) with heq | ⟨rr, now, -, hfew, -⟩
    · exact heq.trans hsame
    · rcases hw.webhookEvents_length hcurMem with hnil | htwo
      · exact absurd (hsame.symm.trans hnil) hne
      · omega

end Reserved

/-! ## Runs -/

section Runs
variable {deps : ServiceDeps} {auction : Auction} {ls : List (PoolLabel Request Call Call.Answer)}
  {s : Pool Trace Call Call.Answer (Except ServiceError Response)}

/-- What a later version of a reserved record shares with it. -/
structure StaysReserved (r r' : ReservationRecord) : Prop where
  state : r'.state ∈ [routeReserved, webhooksDispatched, webhookDeliveryFailed, hcsEvidenceRecorded, hcsEvidenceFailed,
    completed]
  routeReserved : r'.routeReserved = r.routeReserved
  transactionId : r'.transactionId = r.transactionId
  selected : r'.selected = r.selected
  settleClaim : r'.settleClaim = r.settleClaim
  mirrorConfirmation : r'.mirrorConfirmation = r.mirrorConfirmation
  webhookEvents : r.webhookEvents ≠ [] → r'.webhookEvents = r.webhookEvents

/-- In every run of the service, whatever the interleaving, the answers and the requests that are lost: a record with a
reserved route is paid, and every version after it leaves the route, the payment and the stored events alone. -/
theorem reserved_paid_and_kept (hrun : (serviceSystem deps auction).Run ls s) {id : JsString} {r : ReservationRecord}
    (hr : r ∈ versions s.shared id) {rr : RouteReservedRecord} (hrr : r.routeReserved = some rr) :
    (∃ claim selected mirror txId v, Paid r rr claim selected mirror txId v) ∧
      ∀ r' ∈ versions s.shared id, r.recordVersion ≤ r'.recordVersion → StaysReserved r r' := by
  have hw := lawful_of_run hrun
  refine ⟨hw.paid hr hrr, ?_⟩
  intro r' hr' hle
  have hs : r.state ∈ POST_RESERVATION_STATES := (hw.valid hr).reserved_iff.mp (Option.isSome_of_eq_some hrr)
  obtain ⟨hstate, hreserved, hmirror⟩ := hw.reserved_later hr hr' hle hs
  have hpayment := (hw.settled_later hr hr' hle (mem_settled_of_reserved hs)).payment
  refine ⟨?_, hreserved, hpayment.transactionId, hpayment.selected, hpayment.settleClaim, hmirror,
    hw.webhookEvents_later hr hr' hle⟩
  revert hstate
  cases r'.state <;> decide

/-- The reservation of the script is paid, and stays as it is. -/
theorem reserved_paid_and_kept_scripted : ∃ (s : ServicePool) (r : ReservationRecord) (rr : RouteReservedRecord),
    r ∈ versions s.shared (js "r-1") ∧ r.routeReserved = some rr ∧
    (∃ claim selected mirror txId v, Paid r rr claim selected mirror txId v) ∧
      ∀ r' ∈ versions s.shared (js "r-1"), r.recordVersion ≤ r'.recordVersion → StaysReserved r r' := by
  obtain ⟨ls, s, hrun, hcompleted⟩ := Scripted.completed
  obtain ⟨r, hr, hreserved⟩ := (Option.any_eq_true _ _).mp hcompleted.reserved
  obtain ⟨rr, hrr⟩ := Option.isSome_iff_exists.mp hreserved
  have hmem := mem_versions_of_stored hr
  exact ⟨s, r, rr, hmem, hrr, reserved_paid_and_kept hrun hmem hrr⟩

end Runs

end RouteGuard.Reservation
