import RouteGuard.Lifecycle.Money
import RouteGuard.Store.CasStore

/-!
# The lifecycle service

Verification, reduction, compare-and-set and idempotency by action id, over either adapter.

* `verifyEventIfNeeded` : the signature check of a signed event;
* `apply` : one call of the service;
* `Applies`, `applySystem` : what a successful call does to one record, and the runs of such calls from a created
  record;
* `serviceSystem` : any sequence of calls on a store, with the events committed so far on the side;
* `serviceSystem_refines` : the record of a tender is reached by the events committed on it.
-/

namespace RouteGuard.Store
open JsString Guarded Trust Auth Lifecycle

/-! ## Carriers -/

/-- A registered carrier. -/
structure CarrierRecord where
  carrierId : JsString
  carrierAccountId : JsString
  signingPublicKey : JsString
  active : Bool
  deriving DecidableEq, Repr

/-- `getById` of a registry. -/
abbrev CarrierRegistry := JsString → Option CarrierRecord

/-! ## Errors and results -/

inductive ServiceError where
  | store (e : StoreError)
  | auth (e : AuthorizationError)
  | lifecycle (e : LifecycleError)
  deriving DecidableEq

inductive ApplyOutcome where
  | applied | replayed
  deriving DecidableEq, Repr

structure ApplyLifecycleResult where
  record : LifecycleRecord
  outcome : ApplyOutcome
  deriving DecidableEq

/-! ## Verification -/

/-- A string that is neither `null` nor empty. -/
def present : Option JsString → Option JsString
  | some (u :: rest) => some (u :: rest)
  | _ => none

section Verification
variable (p : Platform) (record : LifecycleRecord) (event : LifecycleEvent) (policy : TrustPolicy)

def verifyBid (carriers : Option CarrierRegistry) (e : BidSubmissionPaid) :
    Except AuthorizationError (SealedAuth p) :=
  match (carriers.bind fun getById => getById e.carrierId).filter (·.active) with
  | none => .error ⟨js "CARRIER_NOT_TRUSTED", js "carrier is not present in the trusted registry"⟩
  | some carrier => do
    require (carrier.carrierAccountId = e.carrierAccountId)
      ⟨js "CARRIER_ACCOUNT_MISMATCH", js "carrier account does not match the trusted registry"⟩
    sealing .carrierBid
      (verifyCarrierBid p carrier.signingPublicKey
        ⟨record.tenderId, record.tenderVersion, e.bidId, e.carrierId, e.carrierAccountId, e.bidHash, e.signedAt,
         event.actionId⟩ e.carrierSignature)
      fun _ h => .carrierBid h

/-- The payload of a review of the POD of the record. -/
def reviewPayload (podId : JsString) (action : ShipperReviewActionKind) (reasons : List ReviewReason)
    (signed : ShipperSigned) : ShipperPodReviewSignPayload :=
  ⟨record.tenderId, record.tenderVersion, podId, action, reasons.map (·.code), signed.signedAt,
   signed.reviewDeadlineAt, event.actionId⟩

def verifyReview (podId : JsString) (action : ShipperReviewActionKind) (reasons : List ReviewReason)
    (signed : ShipperSigned) : Except AuthorizationError (SealedAuth p) :=
  sealing .shipperPodReview
    (verifyShipperPodReview p policy (reviewPayload record event podId action reasons signed) signed.shipperSignature)
    fun _ h => .shipperPodReview h

def resolutionPayload (e : RefereeResolutionRecorded) : RefereeResolutionSignPayload :=
  ⟨record.tenderId, record.tenderVersion, e.podId, e.disputeId, e.resolution, e.releaseAmountAtomic,
   e.refundAmountAtomic, e.rationaleCode, e.refereeId, e.signedAt, event.actionId⟩

/-- The authorization of a signed event; a review of a record without a POD has none, and the reducer refuses
it. -/
def verifyEventIfNeeded (carriers : Option CarrierRegistry) :
    Except AuthorizationError (Option (SealedAuth p)) :=
  match event.body with
  | .bidSubmissionPaid e => some <$> verifyBid p record event carriers e
  | .podAcceptedByShipper e =>
    match present record.podId, present record.reviewDeadlineAt with
    | some podId, some _ => some <$> verifyReview p record event policy podId .accept [] e.toShipperSigned
    | _, _ => .ok none
  | .podCorrectionRequested e =>
    match present record.podId with
    | some podId => some <$> verifyReview p record event policy podId .requestCorrection e.reasons e.toShipperSigned
    | none => .ok none
  | .podRejectedToDispute e =>
    match present record.podId with
    | some podId => some <$> verifyReview p record event policy podId .rejectDispute e.reasons e.toShipperSigned
    | none => .ok none
  | .refereeResolutionRecorded e =>
    some <$> sealing .refereeResolution
      (verifyRefereeResolution p policy (resolutionPayload record event e) e.signature e.refereePublicKey)
      fun _ h => .refereeResolution h
  | _ => .ok none

end Verification

/-! ## The service -/

section Service
variable (p : Platform) (carriers : Option CarrierRegistry)

/-- What becomes of a record by an event whose action id is not in its index. -/
def freshEvent (current : LifecycleRecord) (event : LifecycleEvent) : Except ServiceError LifecycleRecord := do
  let verifiedAuth ←
    (verifyEventIfNeeded p current event (trustPolicyFromRecord current) carriers).mapError .auth
  (reduceLifecycle p current event ⟨verifiedAuth.map .sealed⟩).mapError .lifecycle

/-- What `apply` makes of the record it read: nothing for a replay, the record to commit otherwise. -/
def preparedEvent (current : LifecycleRecord) (event : LifecycleEvent) :
    Except ServiceError (Option LifecycleRecord) :=
  match current.processedActions.read event.actionId with
  | .value prior => do
    require (prior.eventPayloadHash = eventPayloadHash p event)
      (.store (.actionConflict event.actionId (actionConflictMessage event.actionId)))
    pure none
  | .inherited => .error (.store (.actionConflict event.actionId (actionConflictMessage event.actionId)))
  | .undefined => some <$> freshEvent p carriers current event

/-- A replay answers the record that was read; anything else is written over it. -/
def commitPrepared {σ : Type} (writing : LifecycleStore σ) (t : JsString) (current : LifecycleRecord)
    (prepared : Except ServiceError (Option LifecycleRecord)) (s : σ) :
    Except ServiceError ApplyLifecycleResult × σ :=
  match prepared with
  | .error e => (.error e, s)
  | .ok none => (.ok ⟨current, .replayed⟩, s)
  | .ok (some next) =>
    let written := writing.compareAndSet t current.recordVersion next s
    ((written.1.mapError .store).map fun persisted => ⟨persisted, .applied⟩, written.2)

/-- `LifecycleService.apply`; the file system may behave differently when the record is read and when it is
written. -/
def apply {σ : Type} (reading writing : LifecycleStore σ) (t : JsString) (event : LifecycleEvent) (s : σ) :
    Except ServiceError ApplyLifecycleResult × σ :=
  match reading.get t s with
  | .error e => (.error (.store e), s)
  | .ok none => (.error (.store (.notFound t)), s)
  | .ok (some current) => commitPrepared writing t current (preparedEvent p carriers current event) s

/-! ## One record -/

/-- A successful call on the record: a fresh action, its signature verified, reduced and accepted by the store. -/
structure Applies (r : LifecycleRecord) (event : LifecycleEvent) (next : LifecycleRecord) : Prop where
  prepared : preparedEvent p carriers r event = .ok (some next)
  accepted : Accepted p next.tenderId next

/-- Successful calls on one record, from its creation. -/
def applySystem : System LifecycleRecord LifecycleEvent where
  init r := (∃ input, createLifecycleRecord p input = .ok r) ∧ Accepted p r.tenderId r
  step := Applies p carriers

variable {p carriers}

/-- A prepared record comes from a fresh action, a verified event and the reducer. -/
theorem preparedEvent_eq_some {r next : LifecycleRecord} {event : LifecycleEvent} :
    preparedEvent p carriers r event = .ok (some next) ↔
      r.processedActions.read event.actionId = .undefined ∧
      ∃ auth, verifyEventIfNeeded p r event (trustPolicyFromRecord r) carriers = .ok auth ∧
        reduceLifecycle p r event ⟨auth.map .sealed⟩ = .ok next := by
  unfold preparedEvent
  cases hread : r.processedActions.read event.actionId with
  | value prior => simp only [check_eq_ok, pure_eq_ok, reduceCtorEq, and_false, false_and]
  | inherited => simp only [reduceCtorEq, false_and]
  | undefined =>
    simp only [map_eq_ok, freshEvent, bind_eq_ok, mapError_eq_ok, Option.some.injEq, exists_eq_right, true_and]

theorem Applies.reduces {r next : LifecycleRecord} {event : LifecycleEvent} (h : Applies p carriers r event next) :
    ∃ auth, verifyEventIfNeeded p r event (trustPolicyFromRecord r) carriers = .ok auth ∧
      reduceLifecycle p r event ⟨auth.map .sealed⟩ = .ok next :=
  (preparedEvent_eq_some.mp h.prepared).2

theorem applySystem_accepted {es : List LifecycleEvent} {r : LifecycleRecord}
    (h : (applySystem p carriers).Run es r) : Accepted p r.tenderId r := by
  refine System.Run.induction (S := applySystem p carriers) (I := fun _ r => Accepted p r.tenderId r) ?_ ?_ h
  · exact fun s hs => hs.2
  · exact fun _ _ _ _ _ _ hstep => hstep.accepted

end Service

/-! ## Calls on a store -/

/-- A call leaves every record as it is and commits nothing, or it applies the event to the record of its tender;
what it then answers is the applied record. -/
inductive ApplyEffect (p : Platform) (carriers : Option CarrierRegistry) (t : JsString) (event : LifecycleEvent)
    (records records' : Records) (result : Except ServiceError ApplyLifecycleResult) : Prop
  | kept (hrecords : records' = records) (hresult : ∀ r, result ≠ .ok ⟨r, .applied⟩)
  | applied {r next : LifecycleRecord} (hr : records t = some r) (happlies : Applies p carriers r event next)
      (hrecords : records' = Function.update records t (some next))
      (hresult : ∀ answer, result = .ok answer → answer = ⟨next, .applied⟩)

/-- The reducer has already counted the version. -/
theorem withStoreVersion_of_applies {p : Platform} {carriers : Option CarrierRegistry} {r next : LifecycleRecord}
    {event : LifecycleEvent} (h : preparedEvent p carriers r event = .ok (some next)) :
    withStoreVersion next r.recordVersion = next := by
  obtain ⟨-, auth, -, hreduce⟩ := preparedEvent_eq_some.mp h
  obtain ⟨-, reason, hprogress⟩ := reduceLifecycle_progress hreduce
  have hversion : next.recordVersion = r.recordVersion + 1 := congrArg Progress.recordVersion hprogress
  exact if_pos hversion

/-- What a store does when an event is written over the record that was read. -/
theorem applyEffect_of_cas {p : Platform} {carriers : Option CarrierRegistry} {a : Adapter} {s s' : a.State}
    {t : JsString} {event : LifecycleEvent} {current next : LifecycleRecord}
    {written : Except StoreError LifecycleRecord}
    (hcurrent : a.records s t = some current) (hprep : preparedEvent p carriers current event = .ok (some next))
    (h : CasOutcome p a s t current.recordVersion next written s') :
    ApplyEffect p carriers t event (a.records s) (a.records s')
      ((written.mapError ServiceError.store).map fun persisted => ⟨persisted, .applied⟩) := by
  cases h with
  | refused hrecords hcount =>
    refine .kept hrecords ?_
    intro r h
    cases h
  | committed hr hrecords hresult =>
    obtain ⟨c, hc, hchecked, rfl⟩ := hr
    have hcc : current = c := Option.some.inj (hcurrent.symm.trans hc)
    subst hcc
    have haccepted := hchecked.accepted
    rw [withStoreVersion_of_applies hprep] at haccepted hrecords hresult
    have htender : next.tenderId = t := haccepted.binding.tender
    refine .applied hcurrent ⟨hprep, htender ▸ haccepted⟩ hrecords ?_
    intro answer hanswer
    rcases hresult with rfl | ⟨⟨e, rfl⟩, -⟩
    · exact (Except.ok.inj hanswer).symm
    · cases hanswer

theorem commitPrepared_effect {p : Platform} {carriers : Option CarrierRegistry} {a : Adapter} {s : a.State}
    {writing : LifecycleStore a.State} {t : JsString} {event : LifecycleEvent} {current : LifecycleRecord}
    (hcurrent : a.records s t = some current)
    (hcas : ∀ v next, CasOutcome p a s t v next (writing.compareAndSet t v next s).1
      (writing.compareAndSet t v next s).2) :
    let call := commitPrepared writing t current (preparedEvent p carriers current event) s
    ApplyEffect p carriers t event (a.records s) (a.records call.2) call.1 := by
  intro call
  cases hprep : preparedEvent p carriers current event with
  | error e =>
    refine .kept (by simp [call, hprep, commitPrepared]) ?_
    simp [call, hprep, commitPrepared]
  | ok o =>
    cases o with
    | none =>
      refine .kept (by simp [call, hprep, commitPrepared]) ?_
      simp [call, hprep, commitPrepared]
    | some next =>
      have heffect := applyEffect_of_cas hcurrent hprep (hcas current.recordVersion next)
      simpa only [call, hprep, commitPrepared] using heffect

/-- **A call of `apply` changes no record, or it applies the event to the record of its tender.** -/
theorem apply_effect {p : Platform} {carriers : Option CarrierRegistry} {a : Adapter} {s : a.State}
    {reading writing : LifecycleStore a.State} {t : JsString} {event : LifecycleEvent}
    (hget : ∀ r, reading.get t s = .ok (some r) → a.records s t = some r)
    (hcas : ∀ v next, CasOutcome p a s t v next (writing.compareAndSet t v next s).1
      (writing.compareAndSet t v next s).2) :
    ApplyEffect p carriers t event (a.records s) (a.records (apply p carriers reading writing t event s).2)
      (apply p carriers reading writing t event s).1 := by
  unfold apply
  cases hread : reading.get t s with
  | error e => exact .kept rfl fun r h => by cases h
  | ok o =>
    cases o with
    | none => exact .kept rfl fun r h => by cases h
    | some current => exact commitPrepared_effect (hget current hread) hcas

/-! ## Runs of the service -/

/-- The store, and every event that was committed in it, with its tender. -/
structure ServiceState (a : Adapter) where
  store : a.State
  committed : List (JsString × LifecycleEvent)

/-- The events committed on a tender, in order. -/
def ServiceState.committedOn {a : Adapter} (s : ServiceState a) (t : JsString) : List LifecycleEvent :=
  (s.committed.filter fun c => c.1 = t).map Prod.snd

inductive ServiceCall where
  | create (input : CreateLifecycleInput)
  | apply (tenderId : JsString) (event : LifecycleEvent)

section Runs
variable (p : Platform) (carriers : Option CarrierRegistry) (kind : AdapterKind)

/-- Any sequence of calls on a store that holds no record at first, with whatever the file system does during
each. -/
def serviceSystem : System (ServiceState (kind.adapter p)) (ServiceCall × FileOutcome × FileOutcome) where
  init s := (kind.adapter p).start s.store ∧ (kind.adapter p).records s.store = (fun _ => none) ∧ s.committed = []
  step s l s' :=
    match l.1 with
    | .create input =>
      (((kind.adapter p).store l.2.2).create input s.store).2 = s'.store ∧ s'.committed = s.committed
    | .apply t event =>
      (apply p carriers ((kind.adapter p).store l.2.1) ((kind.adapter p).store l.2.2) t event s.store).2 = s'.store ∧
        s'.committed =
          if (kind.adapter p).records s'.store t = (kind.adapter p).records s.store t then s.committed
          else s.committed ++ [(t, event)]

/-- The records of the store are those that the committed events lead to. -/
structure Traced (a : Adapter) (s : ServiceState a) : Prop where
  accepted : AllAccepted p (a.records s.store)
  absent : ∀ t, a.records s.store t = none → s.committedOn t = []
  reached : ∀ t r, a.records s.store t = some r → (applySystem p carriers).Run (s.committedOn t) r

variable {p carriers kind}

theorem Traced.congr {a : Adapter} {s s' : ServiceState a} (h : Traced p carriers a s)
    (hrecords : a.records s'.store = a.records s.store) (hcommitted : s'.committed = s.committed) :
    Traced p carriers a s' := by
  have hon : ∀ t, s'.committedOn t = s.committedOn t := by
    intro t
    rw [ServiceState.committedOn, hcommitted, ServiceState.committedOn]
  refine ⟨hrecords ▸ h.accepted, fun t ht => ?_, fun t r hr => ?_⟩
  · rw [hon, h.absent t (hrecords ▸ ht)]
  · rw [hon]
    exact h.reached t r (hrecords ▸ hr)

/-- One record written, with the events that lead to it; the events of the other tenders stay. -/
theorem Traced.update {a : Adapter} {s s' : ServiceState a} (h : Traced p carriers a s) {t : JsString}
    {r : LifecycleRecord} (hrun : (applySystem p carriers).Run (s'.committedOn t) r) (htender : r.tenderId = t)
    (hrecords : a.records s'.store = Function.update (a.records s.store) t (some r))
    (hothers : ∀ t', t' ≠ t → s'.committedOn t' = s.committedOn t') : Traced p carriers a s' := by
  refine ⟨?_, fun t' ht => ?_, fun t' r' hr => ?_⟩
  · rw [hrecords]
    exact h.accepted.update (htender ▸ applySystem_accepted hrun)
  · rw [hrecords] at ht
    by_cases heq : t' = t
    · subst heq
      rw [Function.update_self] at ht
      cases ht
    · rw [Function.update_of_ne heq] at ht
      rw [hothers t' heq]
      exact h.absent t' ht
  · rw [hrecords] at hr
    by_cases heq : t' = t
    · subst heq
      rw [Function.update_self] at hr
      cases hr
      exact hrun
    · rw [Function.update_of_ne heq] at hr
      rw [hothers t' heq]
      exact h.reached t' r' hr

/-- A created record is where the events of its tender start. -/
theorem Traced.create {a : Adapter} {s s' : ServiceState a} (h : Traced p carriers a s)
    {input : CreateLifecycleInput} {result : Except StoreError LifecycleRecord}
    (houtcome : CreateOutcome p a s.store input result s'.store) (hcommitted : s'.committed = s.committed) :
    Traced p carriers a s' := by
  cases houtcome with
  | refused hrecords _ => exact h.congr hrecords hcommitted
  | committed hr hrecords _ =>
    obtain ⟨hfree, hcreate, hacc⟩ := hr
    have hon : ∀ t, s'.committedOn t = s.committedOn t := by
      intro t
      rw [ServiceState.committedOn, hcommitted, ServiceState.committedOn]
    refine h.update ?_ hacc.binding.tender hrecords fun t' _ => hon t'
    rw [hon, h.absent _ hfree]
    exact .start ⟨⟨input, hcreate⟩, hacc.binding.tender ▸ hacc⟩

/-- An applied event is one more event of its tender. -/
theorem Traced.apply {a : Adapter} {s s' : ServiceState a} (h : Traced p carriers a s) {t : JsString}
    {event : LifecycleEvent} {result : Except ServiceError ApplyLifecycleResult}
    (heffect : ApplyEffect p carriers t event (a.records s.store) (a.records s'.store) result)
    (hcommitted : s'.committed =
      if a.records s'.store t = a.records s.store t then s.committed else s.committed ++ [(t, event)]) :
    Traced p carriers a s' := by
  cases heffect with
  | kept hrecords _ =>
    rw [hrecords, if_pos rfl] at hcommitted
    exact h.congr hrecords hcommitted
  | @applied r next hr happlies hrecords _ =>
    obtain ⟨-, auth, -, hreduce⟩ := preparedEvent_eq_some.mp happlies.prepared
    obtain ⟨hbinding, reason, hprogress⟩ := reduceLifecycle_progress hreduce
    have hchanged : ¬ a.records s'.store t = a.records s.store t := by
      rw [hrecords, Function.update_self, hr]
      intro heq
      have hversion : next.recordVersion = r.recordVersion + 1 := congrArg Progress.recordVersion hprogress
      rw [Option.some.inj heq] at hversion
      omega
    rw [if_neg hchanged] at hcommitted
    have htender : r.tenderId = t := (h.accepted t r hr).binding.tender
    refine h.update (t := t) ?_ ((congrArg TenderBinding.tenderId hbinding).trans htender) hrecords ?_
    · have hon : s'.committedOn t = s.committedOn t ++ [event] := by
        simp [ServiceState.committedOn, hcommitted]
      rw [hon]
      exact (h.reached t r hr).snoc happlies
    · intro t' ht
      simp [ServiceState.committedOn, hcommitted, Ne.symm ht]

/-- **The record of a tender is reached by the events committed on it.** -/
theorem serviceSystem_refines (hp : p.HexDigest) {ls : List (ServiceCall × FileOutcome × FileOutcome)}
    {s : ServiceState (kind.adapter p)} (h : (serviceSystem p carriers kind).Run ls s) :
    Traced p carriers (kind.adapter p) s := by
  refine System.Run.induction (S := serviceSystem p carriers kind)
    (I := fun _ s => Traced p carriers (kind.adapter p) s) ?_ ?_ h
  · rintro s ⟨-, hnone, hempty⟩
    refine ⟨fun t r hr => ?_, fun t _ => ?_, fun t r hr => ?_⟩
    · rw [hnone] at hr
      cases hr
    · rw [ServiceState.committedOn, hempty]
      rfl
    · rw [hnone] at hr
      cases hr
  · rintro ls s ⟨call, reading, writing⟩ s' _ ih hstep
    cases call with
    | create input =>
      obtain ⟨hstore, hcommitted⟩ := hstep
      exact ih.create (hstore ▸ adapter_create kind writing s.store hp input) hcommitted
    | apply t event =>
      obtain ⟨hstore, hcommitted⟩ := hstep
      refine ih.apply (hstore ▸ apply_effect ?_ ?_) hcommitted
      · exact fun r hr => adapter_get kind reading s.store hr
      · exact fun v next => adapter_compareAndSet kind writing s.store hp t v next

end Runs

namespace Sample
open Lifecycle.Sample

/-- The service over the memory adapter, after the sample tender is created. -/
def opened : ServiceState (AdapterKind.memory.adapter platform) where
  store := (((AdapterKind.memory.adapter platform).store (.quiet [])).create input fun _ => none).2
  committed := []

theorem create_step (carriers : Option CarrierRegistry) (s : ServiceState (AdapterKind.memory.adapter platform))
    (io : FileOutcome) : (serviceSystem platform carriers .memory).step s (.create input, io, io)
      ⟨(((AdapterKind.memory.adapter platform).store io).create input s.store).2, s.committed⟩ := ⟨rfl, rfl⟩

theorem run_opened (carriers : Option CarrierRegistry) :
    (serviceSystem platform carriers .memory).Run [(.create input, .quiet [], .quiet [])] opened := by
  have hstart : (serviceSystem platform carriers .memory).Run [] ⟨fun _ => none, []⟩ :=
    System.Run.start ⟨rfl, rfl, rfl⟩
  exact hstart.snoc (create_step carriers _ (.quiet []))

theorem opened_record :
    ∃ r, (AdapterKind.memory.adapter platform).records opened.store (js "T-1") = some r := by
  have h : ((AdapterKind.memory.adapter platform).records opened.store (js "T-1")).isSome := by decide
  exact Option.isSome_iff_exists.mp h

end Sample

end RouteGuard.Store
