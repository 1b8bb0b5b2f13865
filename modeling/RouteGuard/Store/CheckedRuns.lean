import RouteGuard.Store.LifecycleService
import RouteGuard.Store.Preservation

/-!
# Calls whose record the store accepts

The validator need not run again on a record that the reducer made: whether it accepts the record can be read
off the event.

* `accepted_created` : a created record is accepted when its input has the formats of the record;
* `reduceLifecycle_accepted_iff` : when the validator accepts what the reducer made;
* `checkedStep` : one call, with the conditions on the event in place of the validator;
* `run_of_checked` : these calls are runs of the service.
-/

namespace RouteGuard.Store
open JsString Guarded Access Auth Trust Lifecycle V2LifecycleState

/-! ## Creation -/

/-- The strings of the input have the formats in which the record keeps them. -/
structure InputFormat (input : CreateLifecycleInput) : Prop where
  safe : isSafeTenderId input.tenderId
  version : 1 ≤ input.tenderVersion ∧ input.tenderVersion ≤ MAX_SAFE_INTEGER
  tenderHash : isSha256 input.tenderHash
  auctionEndsAt : isUtcIsoTimestamp input.auctionEndsAt
  createdAt : isUtcIsoTimestamp input.createdAt
  shipperKey : 32 ≤ input.trust.shipperPublicKey.length ∧ input.trust.shipperPublicKey.length ≤ 256 ∧
    input.trust.shipperPublicKey = trim input.trust.shipperPublicKey
  treasury : isValidHederaAccountId input.trust.accessTreasuryAccountId
  referees : 1 ≤ input.trust.referees.length ∧ input.trust.referees.length ≤ 64 ∧
    eachAfter (validateReferee input.tenderId (js "trust")) [] input.trust.referees = .ok ()

/-- The trust snapshot of a created record passes its check. -/
theorem validateTrustSnapshot_created {p : Platform} (hp : p.HexDigest) {input : CreateLifecycleInput}
    (h : InputFormat input) :
    validateTrustSnapshot p input.tenderId (js "trust") (snapshotTrustPolicy p input.trust) = .ok () := by
  obtain ⟨hshort, hlong, htrim⟩ := h.shipperKey
  obtain ⟨hsome, hmany, hreferees⟩ := h.referees
  have hfingerprint := isFingerprint_publicKeyFingerprint hp input.trust.shipperPublicKey
  have hlength : (publicKeyFingerprint p input.trust.shipperPublicKey).length = 64 := (hp _).1
  simp only [validateTrustSnapshot, check_eq_ok, str_eq_ok, require_eq_ok, fingerprint_eq_ok, account_eq_ok]
  refine ⟨⟨?_, hlong⟩, ⟨hshort, htrim⟩, ⟨?_, hlength.le⟩, hfingerprint, rfl, h.treasury, hsome, hmany, hreferees⟩
  · exact List.ne_nil_of_length_pos (show 0 < input.trust.shipperPublicKey.length by omega)
  · exact List.ne_nil_of_length_pos (show 0 < (publicKeyFingerprint p _).length by omega)

theorem fundingPart_empty (t : JsString) (b : TenderBinding) :
    FundingPart t .draft b ⟨none, none, none, none, [], []⟩ ∅ :=
  ⟨⟨nofun, nofun, nofun, nofun, rfl, rfl⟩, ⟨fun hs => absurd hs (by decide), fun _ => ⟨rfl, rfl⟩⟩,
   ⟨fun hs => absurd hs (by decide), fun _ => ⟨rfl, rfl, rfl⟩⟩, rfl, ⟨rfl, rfl, nofun, .inl rfl⟩⟩

theorem auctionPart_empty (b : TenderBinding) :
    AuctionPart .draft b ⟨none, none, none, none, none, none, none, none, none, none, none, none⟩ :=
  ⟨⟨nofun, nofun, nofun, nofun, nofun, nofun, nofun, nofun, nofun, nofun, nofun, nofun⟩,
   ⟨fun hs => absurd hs (by decide), fun hs => absurd hs (by decide), nofun⟩,
   ⟨fun hs => absurd hs (by decide), fun _ => rfl, nofun⟩⟩

theorem podPart_empty :
    PodPart .draft ⟨none, none, none, none, none, none, none, false, none, none, none, none⟩ :=
  ⟨⟨nofun, nofun, nofun, nofun, nofun, nofun, nofun, nofun, nofun, nofun, nofun⟩,
   ⟨fun hs => absurd hs (by decide), fun hs => absurd hs (by decide), fun hs => absurd hs (by decide),
    fun hs => absurd hs (by decide)⟩⟩

theorem settlementPart_empty (b : TenderBinding) (a : AuctionFields) (d : PodFields) :
    SettlementPart .draft b a d ⟨none, none, none, none, none, none, none, none⟩ :=
  ⟨⟨nofun, nofun, nofun, nofun, nofun, nofun, nofun, nofun, nofun⟩,
   ⟨fun _ => ⟨rfl, rfl, rfl, rfl⟩, fun _ => ⟨rfl, rfl⟩, fun _ => ⟨rfl, rfl⟩⟩,
   ⟨fun hs => absurd hs (by decide), nofun⟩, ⟨fun hs => absurd hs (by decide), nofun, nofun⟩,
   ⟨nofun, fun hs => absurd hs.1 (by decide)⟩⟩

theorem progressFormat_created (t : JsString) {createdAt : JsString} (h : isUtcIsoTimestamp createdAt) :
    ProgressFormat t createdAt ⟨.draft, 1, createdAt, none, [], ∅⟩ := by
  obtain ⟨x, hx⟩ := isUtcIsoTimestamp_iff.mp h
  refine ⟨?_, h, ⟨x, x, hx, hx, Int.le_refl x⟩, nofun, Nat.zero_le _, rfl, rfl,
    fun e he => absurd he List.not_mem_nil, rfl, rfl, ⟨rfl, rfl⟩⟩
  show (1 : Int) ≤ 1 ∧ (1 : Int) ≤ MAX_SAFE_INTEGER
  decide

/-- A record without events has nothing but its binding. -/
theorem accepted_created {p : Platform} (hp : p.HexDigest) {input : CreateLifecycleInput} {r : LifecycleRecord}
    (hformat : InputFormat input) (h : createLifecycleRecord p input = .ok r) : Accepted p r.tenderId r := by
  simp only [createLifecycleRecord, bind_eq_ok, require_eq_ok, exists_const, pure_eq_ok] at h
  obtain ⟨hbudget, rfl⟩ := h
  let b : TenderBinding :=
    ⟨input.tenderId, input.tenderVersion, input.tenderHash, input.maximumFreightBudgetAtomic, input.auctionEndsAt,
     input.createdAt, snapshotTrustPolicy p input.trust⟩
  have hfunding := fundingPart_empty input.tenderId b
  have hauction := auctionPart_empty b
  have hsettlement := settlementPart_empty b
    ⟨none, none, none, none, none, none, none, none, none, none, none, none⟩
    ⟨none, none, none, none, none, none, none, false, none, none, none, none⟩
  exact ⟨hformat.safe,
    ⟨hformat.safe, rfl, hformat.version, hformat.tenderHash, hbudget, hformat.auctionEndsAt, hformat.createdAt⟩,
    progressFormat_created _ hformat.createdAt, validateTrustSnapshot_created hp hformat, hfunding.format,
    hauction.format, podPart_empty.format, hsettlement.format, hfunding.funded,
    hfunding.activated, hfunding.receipt, hfunding.bids, hauction.award,
    hauction.lock, podPart_empty.delivered, hsettlement.unsettled, hsettlement.decision,
    hsettlement.released, hsettlement.refunded⟩

/-! ## The reducer and the validator -/

/-- **When the validator accepts what the reducer makes of a record.** For a record that the reducer reached and the
validator accepts, and an event whose strings have the formats of the record, the new record is accepted exactly when
the event is persistable. -/
theorem reduceLifecycle_accepted_iff {p : Platform} {ls : List (LifecycleEvent × LifecycleReduceContext p)}
    {t : JsString} {r next : LifecycleRecord} {event : LifecycleEvent} {context : LifecycleReduceContext p}
    (hp : p.HexDigest) (hrun : (lifecycleSystem p).Run ls r) (haccepted : assertValidLifecycleRecord p t r = .ok r)
    (hformat : EventFormat event) (hlen : r.history.length < MAX_HISTORY)
    (h : reduceLifecycle p r event context = .ok next) :
    assertValidLifecycleRecord p t next = .ok next ↔ Persistable r event := by
  rw [assertValidLifecycleRecord_eq_ok, and_iff_left rfl]
  exact accepted_iff_persistable hp (assertValidLifecycleRecord_eq_ok.mp haccepted).1 (bookkeeping_of_run hrun) hformat
    hlen h

/-! ## Runs with checked events -/

def decidableBodyFormat : (b : EventBody) → Decidable (BodyFormat b)
  | .escrowFundingConfirmed _ => inferInstanceAs (Decidable (_ ∧ _))
  | .tenderActivationPaid _ => inferInstanceAs (Decidable (_ ∧ _))
  | .bidSubmissionPaid e =>
    have : Decidable (AccessPaid.Format e.toAccessPaid) := inferInstanceAs (Decidable (_ ∧ _))
    inferInstanceAs (Decidable (_ ∧ _))
  | .auctionCloseConfirmed _ => inferInstanceAs (Decidable (_ ∧ _))
  | .noQualifiedBidConfirmed e => inferInstanceAs (Decidable (isSha256 e.decisionManifestHash = true))
  | .winnerSelectionConfirmed _ => inferInstanceAs (Decidable (_ ∧ _))
  | .winningAmountAllocationConfirmed _ => inferInstanceAs (Decidable (_ ∧ _))
  | .routeReservationPublished e => inferInstanceAs (Decidable (Text 256 e.reservationEvidenceRef))
  | .podPackageSubmitted _ => inferInstanceAs (Decidable (_ ∧ _))
  | .podPackageResubmitted _ => inferInstanceAs (Decidable (_ ∧ _))
  | .podRejectedToDispute e => inferInstanceAs (Decidable (Text 128 e.disputeId))
  | .refereeResolutionRecorded _ => inferInstanceAs (Decidable (_ ∧ _))
  | .escrowReleaseConfirmed e => inferInstanceAs (Decidable (Text 128 e.releaseTxId))
  | .escrowPartialReleaseConfirmed _ => inferInstanceAs (Decidable (_ ∧ _))
  | .escrowRefundConfirmed e => inferInstanceAs (Decidable (Text 128 e.refundTxId))
  | .podAdvisoryAnchored e => inferInstanceAs (Decidable (isSha256 e.reportHash = true))
  | .biddingStarted | .transitStarted | .deliveryReported | .podReviewStarted | .podCorrectionRequested _
  | .podAcceptedByShipper _ | .podReviewDeadlineExpired | .podCorrectionDeadlineExpired
  | .tenderCompletionConfirmed => inferInstanceAs (Decidable True)

instance (event : LifecycleEvent) : Decidable (EventFormat event) :=
  have := decidableBodyFormat event.body
  decidable_of_iff (Text 128 event.actionId ∧ isUtcIsoTimestamp event.eventTime ∧ BodyFormat event.body)
    ⟨fun h => ⟨h.1, h.2.1, h.2.2⟩, fun h => ⟨h.actionId, h.eventTime, h.body⟩⟩

/-- The referee of a resolution is registered under its very id. -/
def refereeRegistered (trust : TrustPolicySnapshot) : EventBody → Bool
  | .refereeResolutionRecorded e => trust.referees.any fun referee => referee.refereeId = e.refereeId
  | _ => true

theorem refereeRegistered_iff {trust : TrustPolicySnapshot} {b : EventBody} :
    refereeRegistered trust b ↔ ∀ e, b = .refereeResolutionRecorded e →
      ∃ referee ∈ trust.referees, referee.refereeId = e.refereeId := by
  cases b with
  | refereeResolutionRecorded e =>
    simp only [refereeRegistered, List.any_eq_true, decide_eq_true_eq, EventBody.refereeResolutionRecorded.injEq,
      forall_eq']
  | _ => simp [refereeRegistered]

instance (r : LifecycleRecord) (event : LifecycleEvent) : Decidable (Persistable r event) :=
  decidable_of_iff
    (event.actionId ∉ r.processedActions.keys ∧ event.actionId ≠ protoName ∧
      (event.type = .podCorrectionDeadlineExpired → event.actionId.length ≤ 112) ∧
      (∀ window ∈ deadlineWindow r.state event.type, ∀ x ∈ instant event.eventTime,
        x + window * 1000000000 < YEAR_10000) ∧ refereeRegistered r.trust event.body)
    ⟨fun h => ⟨h.1, h.2.1, h.2.2.1, h.2.2.2.1, refereeRegistered_iff.mp h.2.2.2.2⟩,
     fun h => ⟨h.fresh, h.plain, h.dispute, h.deadline, refereeRegistered_iff.mpr h.referee⟩⟩

section Checked
variable {p : Platform} {carriers : Option CarrierRegistry}

/-- One call of the service, with the conditions on the event in place of the validator. -/
def checkedStep (p : Platform) (carriers : Option CarrierRegistry) (r : LifecycleRecord) (event : LifecycleEvent) :
    Option LifecycleRecord :=
  if EventFormat event ∧ Persistable r event ∧ r.history.length < MAX_HISTORY then
    (preparedEvent p carriers r event).toOption.join
  else none

theorem bookkeeping_of_applies {es : List LifecycleEvent} {r : LifecycleRecord}
    (h : (applySystem p carriers).Run es r) : Bookkeeping r := by
  refine System.Run.induction (S := applySystem p carriers) (I := fun _ r => Bookkeeping r) ?_ ?_ h
  · rintro s ⟨⟨input, hinput⟩, -⟩
    exact bookkeeping_created hinput
  · intro _ r event next _ ih hstep
    obtain ⟨auth, -, hreduce⟩ := Applies.reduces hstep
    exact bookkeeping_reduces ih (reduceLifecycle_ok hreduce).2.2

/-- A checked call is a call that the store accepts. -/
theorem applies_of_checked (hp : p.HexDigest) {es : List LifecycleEvent} {r next : LifecycleRecord}
    {event : LifecycleEvent} (hrun : (applySystem p carriers).Run es r)
    (h : checkedStep p carriers r event = some next) : Applies p carriers r event next := by
  unfold checkedStep at h
  split at h
  · next hchecked =>
    obtain ⟨hformat, hpersistable, hlen⟩ := hchecked
    have hprepared : preparedEvent p carriers r event = .ok (some next) :=
      toOption_eq_some.mp (Option.join_eq_some_iff.mp h)
    obtain ⟨-, auth, -, hreduce⟩ := preparedEvent_eq_some.mp hprepared
    have haccepted := (accepted_iff_persistable hp (applySystem_accepted hrun) (bookkeeping_of_applies hrun) hformat hlen
      hreduce).mpr hpersistable
    have htender : next.tenderId = r.tenderId :=
      congrArg TenderBinding.tenderId (reduceLifecycle_progress hreduce).1
    exact ⟨hprepared, htender ▸ haccepted⟩
  · cases h

/-- The record of an input after checked calls. -/
def checkedRun (p : Platform) (carriers : Option CarrierRegistry) (input : CreateLifecycleInput)
    (es : List LifecycleEvent) : Option LifecycleRecord :=
  (createLifecycleRecord p input).toOption.bind (System.execute (checkedStep p carriers) es)

/-- **Checked calls are calls of the service.** -/
theorem steps_of_checked (hp : p.HexDigest) {es es' : List LifecycleEvent} {r r' : LifecycleRecord}
    (hrun : (applySystem p carriers).Run es r) (h : System.execute (checkedStep p carriers) es' r = some r') :
    (applySystem p carriers).Steps r es' r' :=
  hrun.steps_of_execute (fun _ _ _ _ hrun hstep => applies_of_checked hp hrun hstep) h

theorem run_of_checked (hp : p.HexDigest) {input : CreateLifecycleInput} {es : List LifecycleEvent}
    {r : LifecycleRecord} (hinput : InputFormat input) (h : checkedRun p carriers input es = some r) :
    (applySystem p carriers).Run es r := by
  obtain ⟨s, hs, hexec⟩ := Option.bind_eq_some_iff.mp h
  have hcreate := toOption_eq_some.mp hs
  have hinit : (applySystem p carriers).init s := ⟨⟨input, hcreate⟩, accepted_created hp hinput hcreate⟩
  exact ⟨s, hinit, steps_of_checked hp (.start hinit) hexec⟩

/-- Calls of the service are events of the reducer. -/
theorem lifecycle_of_applies {es : List LifecycleEvent} {r : LifecycleRecord}
    (h : (applySystem p carriers).Run es r) : (lifecycleSystem p).Reachable r := by
  refine System.Run.induction (S := applySystem p carriers) (I := fun _ r => (lifecycleSystem p).Reachable r) ?_ ?_ h
  · rintro s ⟨hcreate, -⟩
    exact ⟨[], .start hcreate⟩
  · rintro _ r event next _ ⟨ls, hrun⟩ hstep
    obtain ⟨auth, -, hreduce⟩ := Applies.reduces hstep
    have hevent : (lifecycleSystem p).step r (event, ⟨auth.map .sealed⟩) next := hreduce
    exact ⟨_, hrun.snoc hevent⟩

end Checked

/-! ## A tender under review -/

namespace Sample
open Lifecycle.Sample

/-- The platform on which exactly the given signatures verify, each a key, a message and the signature. -/
def signing (signed : List (JsString × JsString × JsString)) : Platform :=
  asciiPlatform fun key message signatureHex => decide ((key, message, signatureHex) ∈ signed)

/-- The hexadecimal form of 64 bytes. -/
def signature : JsString := List.replicate 128 0x61

def correctionPayload : ShipperPodReviewSignPayload :=
  ⟨js "T-1", 1, js "pod-1", .requestCorrection, [js "BLURRED"], js "2026-01-04T02:30:00Z",
   js "2026-01-06T02:00:00.000Z", js "a12"⟩

def acceptPayload : ShipperPodReviewSignPayload :=
  ⟨js "T-1", 1, js "pod-1", .accept, [], js "2026-01-04T02:40:00Z", js "2026-01-06T02:00:00.000Z", js "a15"⟩

/-- The shipper signed a correction request and an acceptance, both in the first review round. -/
def signedReviews : Platform :=
  signing [(input.trust.shipperPublicKey, correctionPayload.toJson.canonicalize, signature),
    (input.trust.shipperPublicKey, acceptPayload.toJson.canonicalize, signature)]

def correction : LifecycleEvent :=
  ⟨js "a12", js "2026-01-04T03:00:00Z",
   .podCorrectionRequested
     ⟨⟨signature, js "2026-01-04T02:30:00Z", js "2026-01-06T02:00:00.000Z"⟩, [⟨js "BLURRED", js "unreadable"⟩]⟩⟩

theorem inputFormat : InputFormat input := by
  refine ⟨?_, ?_, ?_, ?_, ?_, ?_, ?_, ?_⟩ <;> decide

/-- The correction deadline expires, under an action id of so many characters. -/
def timeoutOf (length : Nat) : LifecycleEvent :=
  ⟨List.replicate length 0x61, js "2026-01-05T03:00:00Z", .podCorrectionDeadlineExpired⟩

def timeout : LifecycleEvent := timeoutOf 113

/-- The record waits for a correction, and the reducer takes the timeout under either id. -/
theorem awaiting_correction :
    ∃ r next next' : LifecycleRecord,
      checkedRun signedReviews none input (events.take 11 ++ [correction]) = some r ∧
      reduceLifecycle signedReviews r timeout ⟨none⟩ = .ok next ∧
      reduceLifecycle signedReviews r (timeoutOf 112) ⟨none⟩ = .ok next' ∧ r.history.length < MAX_HISTORY ∧
      Persistable r (timeoutOf 112) := by
  have h : ∃ r ∈ checkedRun signedReviews none input (events.take 11 ++ [correction]),
      (∃ next ∈ (reduceLifecycle signedReviews r timeout ⟨none⟩).toOption, True) ∧
      (∃ next ∈ (reduceLifecycle signedReviews r (timeoutOf 112) ⟨none⟩).toOption, True) ∧
        r.history.length < MAX_HISTORY ∧ Persistable r (timeoutOf 112) := by
    decide +kernel
  obtain ⟨r, hr, ⟨next, hnext, -⟩, ⟨next', hnext', -⟩, hlen, hpersistable⟩ := h
  exact ⟨r, next, next', hr, toOption_eq_some.mp hnext, toOption_eq_some.mp hnext', hlen, hpersistable⟩

end Sample

open Lifecycle.Sample Sample in
/-- The timeout of a correction under a long action id: the reducer takes it, the validator does not. -/
theorem timeout_dispute_refused :
    ∃ (ls : List (LifecycleEvent × LifecycleReduceContext signedReviews)) (r next : LifecycleRecord),
      (lifecycleSystem signedReviews).Run ls r ∧ assertValidLifecycleRecord signedReviews r.tenderId r = .ok r ∧
      EventFormat timeout ∧ r.history.length < MAX_HISTORY ∧
      reduceLifecycle signedReviews r timeout ⟨none⟩ = .ok next ∧
      assertValidLifecycleRecord signedReviews r.tenderId next ≠ .ok next := by
  obtain ⟨r, next, -, hr, hnext, -, hlen, -⟩ := awaiting_correction
  have hp : signedReviews.HexDigest := hexDigest_asciiPlatform _
  have hrun := run_of_checked hp inputFormat hr
  obtain ⟨ls, hls⟩ := lifecycle_of_applies hrun
  have haccepted := applySystem_accepted hrun
  have hformat : EventFormat timeout := by decide
  refine ⟨ls, r, next, hls, assertValidLifecycleRecord_eq_ok.mpr ⟨haccepted, rfl⟩, hformat, hlen, hnext, fun h => ?_⟩
  have hpersistable := (accepted_iff_persistable hp haccepted (bookkeeping_of_applies hrun) hformat hlen hnext).mp
    (assertValidLifecycleRecord_eq_ok.mp h).1
  exact absurd (hpersistable.dispute rfl) (by decide)

open Lifecycle.Sample Sample in
/-- Under the longest id that leaves room for the dispute id, the timeout of the correction is accepted. -/
theorem reduceLifecycle_accepted_timeout :
    ∃ (ls : List (LifecycleEvent × LifecycleReduceContext signedReviews)) (r next : LifecycleRecord),
      (lifecycleSystem signedReviews).Run ls r ∧ Persistable r (timeoutOf 112) ∧
      reduceLifecycle signedReviews r (timeoutOf 112) ⟨none⟩ = .ok next ∧
      assertValidLifecycleRecord signedReviews r.tenderId next = .ok next := by
  obtain ⟨r, -, next, hr, -, hreduce, hlen, hpersistable⟩ := awaiting_correction
  have hp : signedReviews.HexDigest := hexDigest_asciiPlatform _
  have hrun := run_of_checked hp inputFormat hr
  obtain ⟨ls, hls⟩ := lifecycle_of_applies hrun
  have hvalid := assertValidLifecycleRecord_eq_ok.mpr ⟨applySystem_accepted hrun, rfl⟩
  have hformat : EventFormat (timeoutOf 112) := by decide
  exact ⟨ls, r, next, hls, hpersistable, hreduce,
    (reduceLifecycle_accepted_iff hp hls hvalid hformat hlen hreduce).mpr hpersistable⟩

end RouteGuard.Store
