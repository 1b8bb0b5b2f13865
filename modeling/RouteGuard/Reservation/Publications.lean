import RouteGuard.Reservation.Script
import RouteGuard.Reservation.ServiceSafety

/-!
# The evidence of a reservation is published once

* `Change.hcsClaim_cases` : a claim stays one publication, and a published one stays as it is;
* `published_at_most_once` : in every run, at most one publication for a reservation, of the claimed envelope;
* `publication_kept` : an accepted result is in the stored record when the request that published returns, unless
  another writer came between the claim and the result.
-/

namespace RouteGuard.Reservation
open JsString Guarded ReservationState

section Claims
variable {deps : ServiceDeps} {auction : Auction} {w : Trace} {site : CommitSite} {cur next : ReservationRecord}

theorem HcsPublicationClaim.SamePublication.trans {a b c : HcsPublicationClaim} (h : a.SamePublication b)
    (h' : b.SamePublication c) : a.SamePublication c := Eq.trans h' h

theorem HcsPublicationClaim.SamePublication.publishAttemptId {a b : HcsPublicationClaim} (h : a.SamePublication b) :
    b.publishAttemptId = a.publishAttemptId := by
  have hid : b.publication.publishAttemptId = a.publication.publishAttemptId := by rw [h]
  exact hid

theorem HcsPublicationClaim.SamePublication.envelope {a b : HcsPublicationClaim} (h : a.SamePublication b) :
    b.envelopeHash = a.envelopeHash ∧ b.encodedByteCount = a.encodedByteCount := by
  have hhash : b.publication.envelopeHash = a.publication.envelopeHash := by rw [h]
  have hcount : b.publication.encodedByteCount = a.publication.encodedByteCount := by rw [h]
  exact ⟨hhash, hcount⟩

/-- What a commit does to a claim: nothing, or it goes on with the same publication as long as it is not published. -/
theorem Change.hcsClaim_cases (h : Change deps w site cur next) (hvalid : Valid deps.crypto cur)
    {before : HcsPublicationClaim} (hbefore : cur.hcsPublicationClaim = some before) :
    next.hcsPublicationClaim = some before ∨
      (before.status ≠ .published ∧ ∃ claim, next.hcsPublicationClaim = some claim ∧ before.SamePublication claim) := by
  cases h with
  | submission h =>
    left
    rw [(h.submits hvalid).rest]
    exact hbefore
  | confirmation h =>
    left
    rw [h.confirms.rest]
    exact hbefore
  | outbox h =>
    cases h with
    | deliveries hevents hdelivered hnow hmoved =>
      left
      rw [hmoved.rest.2]
      exact hbefore
    | claimHcs hreserved hnone =>
      rw [hbefore] at hnone
      cases hnone
    | resolving hreserved hclaim hunpublished hsame =>
      rw [hbefore] at hclaim
      cases hclaim
      exact .inr ⟨hunpublished, _, rfl, hsame⟩
    | hcsPublished hreserved hclaim hunpublished hsame hresult hnow hmoved =>
      rw [hbefore] at hclaim
      cases hclaim
      have hnext := congrArg ReservationRecord.hcsPublicationClaim hmoved.rest.2
      exact .inr ⟨hunpublished, _, hnext, hsame⟩
    | hcsFailed hreserved hclaim hunpublished hnow hmoved =>
      cases hclaim with
      | absent hnone =>
        rw [hbefore] at hnone
        cases hnone
      | present hclaim hunpublished hsame =>
        rw [hbefore] at hclaim
        cases hclaim
        have hnext := congrArg ReservationRecord.hcsPublicationClaim hmoved.rest.2
        exact .inr ⟨hunpublished, _, hnext, hsame⟩
    | _ => exact .inl hbefore

/-- A claim stays one publication; once it is published it stays as it is. -/
theorem Lawful.hcsClaim_later {id : JsString} (hw : Lawful deps auction w) {r r' : ReservationRecord}
    (hr : r ∈ versions w id) (hr' : r' ∈ versions w id) (hle : r.recordVersion ≤ r'.recordVersion)
    {claim : HcsPublicationClaim} (hclaim : r.hcsPublicationClaim = some claim) :
    ∃ claim', r'.hcsPublicationClaim = some claim' ∧ claim.SamePublication claim' ∧
      (claim.status = .published → claim' = claim) := by
  refine Lawful.later_induction (R := fun r r' => ∀ claim, r.hcsPublicationClaim = some claim →
    ∃ claim', r'.hcsPublicationClaim = some claim' ∧ claim.SamePublication claim' ∧
      (claim.status = .published → claim' = claim)) ?_ ?_ hw r hr r' hr' hle claim hclaim
  · intro r claim hclaim
    exact ⟨claim, hclaim, rfl, fun _ => rfl⟩
  · intro w site r cur next hw hr hcur ih hchange _ _ claim hclaim
    obtain ⟨before, hbefore, hsame, hfinal⟩ := ih claim hclaim
    rcases hchange.hcsClaim_cases (hw.valid (mem_versions_of_stored hcur)) hbefore with hnext |
      ⟨hunpublished, claim', hnext, hsame'⟩
    · exact ⟨before, hnext, hsame, hfinal⟩
    · refine ⟨claim', hnext, hsame.trans hsame', ?_⟩
      intro hpublished
      rw [hfinal hpublished] at hunpublished
      exact absurd hpublished hunpublished

/-- All claims of a reservation are one publication. -/
theorem Lawful.hcsClaim_same {id : JsString} (hw : Lawful deps auction w) {r r' : ReservationRecord}
    (hr : r ∈ versions w id) (hr' : r' ∈ versions w id) {claim claim' : HcsPublicationClaim}
    (hclaim : r.hcsPublicationClaim = some claim) (hclaim' : r'.hcsPublicationClaim = some claim') :
    claim'.publication = claim.publication := by
  rcases Nat.le_total r.recordVersion r'.recordVersion with hle | hle
  · obtain ⟨c, hc, hsame, -⟩ := hw.hcsClaim_later hr hr' hle hclaim
    rw [hclaim'] at hc
    cases hc
    exact hsame
  · obtain ⟨c, hc, hsame, -⟩ := hw.hcsClaim_later hr' hr hle hclaim'
    rw [hclaim] at hc
    cases hc
    exact hsame.symm

end Claims

/-! ## Single calls of a trace -/

/-- The calls that publish for a reservation. -/
def CallRecord.publishes (id : JsString) : CallRecord → Bool
  | ⟨.publish claim _, _⟩ => claim.reservationId = id
  | _ => false

section Runs
variable {deps : ServiceDeps} {auction : Auction} {ls : List (PoolLabel Request Call Call.Answer)}
  {s : Pool Trace Call Call.Answer (Except ServiceError Response)}

/-- Entries that all name one value of a list without repetitions: there is at most one. -/
theorem length_filter_le_one {α β : Type} {f : α → Option β} {p : α → Bool} {l : List α} (hnodup : (l.filterMap f).Nodup)
    (hall : ∀ a ∈ l, ∀ b ∈ l, p a → p b → f a = f b ∧ (f a).isSome) : (l.filter p).length ≤ 1 := by
  have hsub : ((l.filter p).filterMap f).Nodup := hnodup.sublist (List.filter_sublist.filterMap f)
  have hmem : ∀ a ∈ l.filter p, a ∈ l ∧ p a := fun a ha => List.mem_filter.mp ha
  match h : l.filter p with
  | [] => exact Nat.zero_le _
  | [a] => exact Nat.le_refl _
  | a :: b :: rest =>
    exfalso
    rw [h] at hsub hmem
    obtain ⟨ha, hpa⟩ := hmem a List.mem_cons_self
    obtain ⟨hb, hpb⟩ := hmem b (List.mem_cons_of_mem _ List.mem_cons_self)
    obtain ⟨heq, hsome⟩ := hall a ha b hb hpa hpb
    obtain ⟨x, hx⟩ := Option.isSome_iff_exists.mp hsome
    rw [List.filterMap_cons_some hx, List.filterMap_cons_some (heq.symm.trans hx), List.nodup_cons] at hsub
    exact hsub.1 List.mem_cons_self

/-- The calls a request has made are in the trace. -/
theorem ownCalls_known (hrun : (serviceSystem deps auction).Run ls s) (n : Nat) : ownCalls n ls ⊆ s.shared :=
  ownCalls_subset (fun _ _ _ _ h => h.2) hrun n

/-- In every run, at most one publication is made for a reservation, and the envelope is that of the claim that is
stored when it is made. -/
theorem published_at_most_once (hrun : (serviceSystem deps auction).Run ls s) (id : JsString) :
    (s.shared.filter (CallRecord.publishes id)).length ≤ 1 ∧
      ∀ w claim envelope answer rest, s.shared = w ++ ⟨.publish claim envelope, answer⟩ :: rest →
        ∃ r held, stored w claim.reservationId = some r ∧ r.hcsPublicationClaim = some held ∧
          routeReservedEnvelopeHash deps.crypto envelope = held.envelopeHash ∧
          measureRouteReservedEnvelope envelope = held.encodedByteCount := by
  have hw := lawful_of_run hrun
  constructor
  · refine length_filter_le_one (spent_nodup hrun) ?_
    rintro ⟨call, answer⟩ ha ⟨call', answer'⟩ hb hp hp'
    obtain ⟨v, hv, hallowed⟩ := hw.allowed_of_mem ha
    obtain ⟨v', hv', hallowed'⟩ := hw.allowed_of_mem hb
    cases call with
    | publish claim envelope =>
      cases call' with
      | publish claim' envelope' =>
        obtain ⟨-, -, r, hr, hclaim⟩ := hallowed
        obtain ⟨-, -, r', hr', hclaim'⟩ := hallowed'
        have hid : claim.reservationId = id := of_decide_eq_true hp
        have hid' : claim'.reservationId = id := of_decide_eq_true hp'
        rw [hid] at hr
        rw [hid'] at hr'
        have hsame := hw.hcsClaim_same (mem_versions_later hv hr) (mem_versions_later hv' hr') hclaim hclaim'
        refine ⟨?_, rfl⟩
        show some claim.publishAttemptId = some claim'.publishAttemptId
        rw [HcsPublicationClaim.SamePublication.publishAttemptId hsame]
      | _ => cases hp'
    | _ => cases hp
  · intro w claim envelope answer rest heq
    rw [heq] at hw
    obtain ⟨hlawful, ⟨hhash, hcount, r, hr, hclaim⟩, -⟩ := hw.call_at
    obtain ⟨last, hlast⟩ := stored_isSome_of_mem hr
    obtain ⟨held, hheld, hsame, -⟩ := hlawful.hcsClaim_later hr (mem_versions_of_stored hlast)
      (hlawful.le_stored hr hlast) hclaim
    exact ⟨last, held, hlast, hheld, hhash.trans hsame.envelope.1.symm, hcount.trans hsame.envelope.2.symm⟩

/-- The evidence is published once; the publication is then resumed, and the webhooks are retried. -/
theorem published_at_most_once_resumed : ∃ s : ServicePool,
    (∃ response, s.threads 5 = some (.ret (.ok response))) ∧ (∃ response, s.threads 6 = some (.ret (.ok response))) ∧
    (s.shared.filter (CallRecord.publishes (js "r-1"))).length = 1 ∧
    ∃ w claim envelope answer rest, s.shared = w ++ ⟨.publish claim envelope, answer⟩ :: rest ∧
      ∃ r held, stored w claim.reservationId = some r ∧ r.hcsPublicationClaim = some held ∧
        routeReservedEnvelopeHash Scripted.crypto envelope = held.envelopeHash ∧
        measureRouteReservedEnvelope envelope = held.encodedByteCount := by
  obtain ⟨ls, s, hrun, hcompleted⟩ := Scripted.completed
  obtain ⟨honce, henvelope⟩ := published_at_most_once hrun (js "r-1")
  obtain ⟨⟨call, answer⟩, hmem, hpublished⟩ := List.any_eq_true.mp hcompleted.published
  unfold Scripted.publishedBy at hpublished
  split at hpublished
  · next claim envelope result heq =>
    cases heq
    have hin := ownCalls_known hrun 4 hmem
    have hid := (of_decide_eq_true hpublished).1
    have hsome := List.length_pos_of_mem (List.mem_filter.mpr ⟨hin, show CallRecord.publishes (js "r-1") _ = true from
      decide_eq_true hid⟩)
    obtain ⟨w, rest, hsplit⟩ := List.append_of_mem hin
    exact ⟨s, Scripted.returned_spec hcompleted.resumed, Scripted.returned_spec hcompleted.retried,
      Nat.le_antisymm honce hsome, w, claim, envelope, _, rest, hsplit, henvelope w claim envelope _ rest hsplit⟩
  · cases hpublished

/-! ## The result of the publication -/

/-- Whenever the result of a publication for the reservation is committed, the stored record is still the version the
commit expects, which is the one the claim was committed as. -/
def ResultsUnopposed (w : Trace) (id : JsString) : Prop :=
  ∀ v version next answer rest, w = v ++ ⟨.compareAndSet .hcsPublished id version next, answer⟩ :: rest →
    (stored v id).map ReservationRecord.recordVersion = some version

/-- In every run in which no other writer comes between the claim and the result of a publication, an accepted result
is in the stored record when the request that published has returned. -/
theorem publication_kept (hrun : (serviceSystem deps auction).Run ls s) {n : Nat} {response : Response}
    (hreturned : s.threads n = some (.ret (.ok response))) {claim : HcsPublicationClaim}
    {envelope : RouteReservedEnvelope} {result : HcsPublicationResult}
    (hpublished : ⟨.publish claim envelope, .ok result⟩ ∈ ownCalls n ls)
    (haccepted : assertValidHcsPublicationResult result claim.expectedTopicId none false = .ok result)
    (hunopposed : ResultsUnopposed s.shared claim.reservationId) :
    ∃ r held, stored s.shared claim.reservationId = some r ∧ r.hcsPublicationClaim = some held ∧
      held.status = .published ∧ held.sequence = some result.sequence ∧
      held.consensusTimestamp = some result.consensusTimestamp := by
  obtain ⟨held, hholds⟩ := serviceSystem_holds hrun
  have hw := hholds.inv
  have hkept : AllKept ⟨s.shared, held n, ownCalls n ls⟩ (.ok response) := hholds.safe n _ hreturned
  have hrecorded : Recorded s.shared claim result := by
    by_contra hunrecorded
    refine hkept claim result ⟨⟨envelope, hpublished⟩, haccepted, hunrecorded, ?_⟩
    rintro ⟨version, next, e, hmem, hconflict⟩
    -- a conflict was answered by another version than the one expected
    obtain ⟨v, rest, heq⟩ := List.append_of_mem (ownCalls_known hrun n hmem)
    have hversion := hunopposed v version next (.error e) rest heq
    have hw' := hw
    rw [heq] at hw'
    have hanswer := hw'.call_at.2.2
    cases e with
    | versionConflict id expected actual =>
      obtain ⟨current, hcurrent, hactual, hne⟩ := hanswer
      rw [hcurrent, Option.map_some, Option.some.injEq] at hversion
      exact hne (hactual.symm.trans hversion)
    | _ => cases hconflict
  obtain ⟨r, hr, hclaim⟩ := hrecorded
  obtain ⟨last, hlast⟩ := stored_isSome_of_mem hr
  obtain ⟨c, hc, -, hfinal⟩ := hw.hcsClaim_later hr (mem_versions_of_stored hlast) (hw.le_stored hr hlast) hclaim
  rw [hfinal rfl] at hc
  exact ⟨last, _, hlast, hc, rfl, rfl, rfl⟩

/-- A check of every position of a trace. -/
theorem Scripted.resultsUnopposed {w : Trace} (h : (List.range w.length).all (Scripted.unopposedAt w)) (id : JsString) :
    ResultsUnopposed w id := by
  intro v version next answer rest heq
  have hlt : v.length < w.length := by simp [heq]
  have hat := List.all_eq_true.mp h v.length (List.mem_range.mpr hlt)
  have hget : w[v.length]? = some ⟨.compareAndSet .hcsPublished id version next, answer⟩ := by simp [heq]
  have htake : w.take v.length = v := by simp [heq]
  unfold Scripted.unopposedAt at hat
  rw [hget] at hat
  simpa [htake] using hat

/-- The publication of the script is kept. -/
theorem publication_kept_scripted : ∃ (s : ServicePool) (claim : HcsPublicationClaim) (result : HcsPublicationResult),
    claim.reservationId = js "r-1" ∧
    assertValidHcsPublicationResult result claim.expectedTopicId none false = .ok result ∧
    (∃ envelope, ⟨.publish claim envelope, .ok result⟩ ∈ s.shared) ∧
    ∃ r held, stored s.shared claim.reservationId = some r ∧ r.hcsPublicationClaim = some held ∧
      held.status = .published ∧ held.sequence = some result.sequence ∧
      held.consensusTimestamp = some result.consensusTimestamp := by
  obtain ⟨ls, s, hrun, hcompleted⟩ := Scripted.completed
  obtain ⟨response, hreturned⟩ := Scripted.returned_spec hcompleted.returned
  obtain ⟨⟨call, answer⟩, hmem, hpublished⟩ := List.any_eq_true.mp hcompleted.published
  unfold Scripted.publishedBy at hpublished
  split at hpublished
  · next claim envelope result heq =>
    cases heq
    obtain ⟨hid, haccepted⟩ := of_decide_eq_true hpublished
    exact ⟨s, claim, result, hid, haccepted, ⟨envelope, ownCalls_known hrun 4 hmem⟩,
      publication_kept hrun hreturned hmem haccepted (Scripted.resultsUnopposed hcompleted.unopposed _)⟩
  · cases hpublished

end Runs

namespace Scripted

/-- The webhooks are sent once more between the publication and the commit of its result. -/
def retriedBetween : List (Move Request) :=
  challenged ++ Move.request 4 (.submitPayment submitInput) 43 ++ Move.request 5 (.retryWebhooks (js "r-1")) 8 ++
    Move.calls 4 4

theorem retriedBetween_forgotten : (played deps auction script retriedBetween).any (fun r =>
    returned (r.2.threads 4) && (ownCalls 4 r.1).any publishedBy &&
      (stored r.2.shared (js "r-1")).any fun v => v.hcsPublicationClaim.any fun claim => claim.status = .claimed) := by
  decide +kernel

end Scripted

/-- An accepted publication is forgotten: a delivery comes between, and the record keeps an open claim. -/
theorem publication_forgotten : ∃ (ls : List ServiceLabel) (s : ServicePool) (response : Response)
    (claim : HcsPublicationClaim) (envelope : RouteReservedEnvelope) (result : HcsPublicationResult),
    (serviceSystem Scripted.deps Scripted.auction).Run ls s ∧ s.threads 4 = some (.ret (.ok response)) ∧
    ⟨.publish claim envelope, .ok result⟩ ∈ ownCalls 4 ls ∧
    assertValidHcsPublicationResult result claim.expectedTopicId none false = .ok result ∧
    ∃ r held, stored s.shared claim.reservationId = some r ∧ r.hcsPublicationClaim = some held ∧
      held.status = .claimed := by
  obtain ⟨⟨ls, s⟩, hplayed, hfacts⟩ := (Option.any_eq_true _ _).mp Scripted.retriedBetween_forgotten
  simp only [Bool.and_eq_true] at hfacts
  obtain ⟨⟨hreturned, hpublished⟩, hclaimed⟩ := hfacts
  obtain ⟨response, hreturned⟩ := Scripted.returned_spec hreturned
  obtain ⟨⟨call, answer⟩, hmem, hpublished⟩ := List.any_eq_true.mp hpublished
  obtain ⟨r, hr, hclaimed⟩ := (Option.any_eq_true _ _).mp hclaimed
  obtain ⟨held, hheld, hstatus⟩ := (Option.any_eq_true _ _).mp hclaimed
  unfold Scripted.publishedBy at hpublished
  split at hpublished
  · next claim envelope result heq =>
    cases heq
    obtain ⟨hid, haccepted⟩ := of_decide_eq_true hpublished
    exact ⟨ls, s, response, claim, envelope, result, scripted_run hplayed, hreturned, hmem, haccepted, r, held, hid ▸ hr,
      hheld, of_decide_eq_true hstatus⟩
  · cases hpublished

end RouteGuard.Reservation
