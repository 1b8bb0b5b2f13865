import RouteGuard.Store.LifecycleService

/-!
# Idempotency by action id

* the validator and the compare-and-set of an applied event never raise an action conflict;
* `ActionsCommitted` : the action index of a record lists exactly the committed events;
* `apply_idempotent_iff` : `apply` replays, conflicts and goes on as the committed events say, for every action id
  that is not a name of `Object.prototype`, and for no other.
-/

namespace RouteGuard.Store
open JsString Json Guarded Trust Auth Lifecycle

/-! ## Conflicts come from the action index -/

def StoreError.IsConflict (e : StoreError) : Prop := ∃ actionId message, e = .actionConflict actionId message

section Validator
variable {p : Platform} {t : JsString} {r : LifecycleRecord}

@[simp] theorem not_isConflict_corrupt {t reason : JsString} : ¬ (StoreError.corrupt t reason).IsConflict := nofun

@[simp] theorem not_isConflict_failed {message : JsString} : ¬ (StoreError.failed message).IsConflict := nofun

@[simp] theorem avoids_str {max : Nat} {field value : JsString} :
    Avoids StoreError.IsConflict (str t max field value) := by
  simp [str]

@[simp] theorem avoids_amount {value : JsString} : Avoids StoreError.IsConflict (amount value) := by
  unfold amount
  split
  · exact avoids_ok
  · simp

@[simp] theorem avoids_expect {c : Prop} [Decidable c] {reason : String} :
    Avoids StoreError.IsConflict (expect t c reason) := by
  simp [expect]

@[simp] theorem avoids_expectNotAfter {a b : JsString} {reason : String} :
    Avoids StoreError.IsConflict (expectNotAfter t a b reason) := by
  simp [expectNotAfter]

@[simp] theorem avoids_requirePresent {α : Type} {value : Option α} {field : String} {state : V2LifecycleState} :
    Avoids StoreError.IsConflict (requirePresent t value field state) := by
  simp [requirePresent]

@[simp] theorem avoids_requireAbsent {α : Type} {value : Option α} {field : String} {state : V2LifecycleState} :
    Avoids StoreError.IsConflict (requireAbsent t value field state) := by
  simp [requireAbsent]

theorem avoids_validateTrustSnapshot {field : JsString} {trust : TrustPolicySnapshot} :
    Avoids StoreError.IsConflict (validateTrustSnapshot p t field trust) := by
  simp [validateTrustSnapshot, validateReferee, fingerprint, account]

theorem avoids_validateProgress :
    Avoids StoreError.IsConflict (validateHeader t r) ∧ Avoids StoreError.IsConflict (validateHistory t r) ∧
      Avoids StoreError.IsConflict (validateActions t r) := by
  have hcommitted (entry : LifecycleTransitionRecord) :
      Avoids StoreError.IsConflict (validateCommitted t r entry) := by
    unfold validateCommitted
    split <;> simp
  have htransition (before : List LifecycleTransitionRecord) (h : LifecycleTransitionRecord) :
      Avoids StoreError.IsConflict (validateTransition t before h) := by
    simp [validateTransition, utc]
  have htime (before : List LifecycleTransitionRecord) (h : LifecycleTransitionRecord) :
      Avoids StoreError.IsConflict (validateHistoryTime t r.createdAt before h) := by
    simp [validateHistoryTime]
  refine ⟨?_, ?_, ?_⟩
  · simp [validateHeader, assertSafeTenderId, safeInt, hash, positiveAtomic, utc]
  · simp [validateHistory, htransition, htime]
  · simp only [validateActions]
    split <;> simp [validateProcessedAction, hash, safeInt, utc, hcommitted]

theorem avoids_validateFields :
    Avoids StoreError.IsConflict (validateFunding t r) ∧ Avoids StoreError.IsConflict (validateAuction t r) ∧
      Avoids StoreError.IsConflict (validatePod t r) ∧ Avoids StoreError.IsConflict (validateSettlement t r) := by
  refine ⟨?_, ?_, ?_, ?_⟩
  · simp [validateFunding, nonNegAtomic, validateAccessReceipt, validateAccessPayments, validateAccessPayment,
      validateBidRegistry, validateBid, hash, utc, account, fingerprint]
  · simp [validateAuction, hash, account, nonNegAtomic]
  · simp [validatePod, safeInt, hash, utc, fingerprint]
  · simp [validateSettlement, nonNegAtomic, hash, fingerprint]

theorem avoids_requirements :
    Avoids StoreError.IsConflict (requireFunding t r) ∧ Avoids StoreError.IsConflict (requireActivation t r) ∧
      Avoids StoreError.IsConflict (requireReceipt t r) ∧ Avoids StoreError.IsConflict (requireBids t r) ∧
      Avoids StoreError.IsConflict (requireAward t r) ∧ Avoids StoreError.IsConflict (requireLock t r) ∧
      Avoids StoreError.IsConflict (requirePod t r) ∧ Avoids StoreError.IsConflict (requireNoSettlement t r) ∧
      Avoids StoreError.IsConflict (requireDecision t r) ∧ Avoids StoreError.IsConflict (requireReleased t r) ∧
      Avoids StoreError.IsConflict (requireRefunded t r) := by
  have hpaid (bid : LifecycleBidEntry) : Avoids StoreError.IsConflict (requireBidPaid t r bid) := by
    unfold requireBidPaid
    split <;> simp
  refine ⟨?_, ?_, ?_, ?_, ?_, ?_, ?_, ?_, ?_, ?_, ?_⟩
  · unfold requireFunding
    split <;> simp
  · unfold requireActivation
    split <;> simp
  · unfold requireReceipt
    split <;> simp
  · simp [requireBids, hpaid]
  · simp [requireAward]
  · simp [requireLock, requireLockedAmount]
  · simp [requirePod, requireReviewWindow]
  · simp [requireNoSettlement]
  · simp [requireDecision, requireDecisionAmounts]
  · simp [requireReleased]
  · simp only [requireRefunded]
    split <;> simp

/-- The validator raises no action conflict. -/
theorem avoids_assertValidLifecycleRecord : Avoids StoreError.IsConflict (assertValidLifecycleRecord p t r) := by
  obtain ⟨h1, h2, h3⟩ := avoids_validateProgress (t := t) (r := r)
  obtain ⟨h4, h5, h6, h7⟩ := avoids_validateFields (t := t) (r := r)
  obtain ⟨h8, h9, h10, h11, h12, h13, h14, h15, h16, h17, h18⟩ := avoids_requirements (t := t) (r := r)
  simp [assertValidLifecycleRecord, assertSafeTenderId, avoids_validateTrustSnapshot, h1, h2, h3, h4, h5, h6, h7, h8, h9,
    h10, h11, h12, h13, h14, h15, h16, h17, h18, Avoids.pure, -bind_pure_comp]

end Validator

/-! ## The compare-and-set of an applied event -/

section Cas
variable {p : Platform} {carriers : Option CarrierRegistry} {t : JsString} {current next : LifecycleRecord}
  {event : LifecycleEvent}

/-- The index after an applied event: every committed action, and the new one. -/
theorem lookup_of_prepared (h : preparedEvent p carriers current event = .ok (some next)) (name : JsString) :
    next.processedActions.lookup name =
      if name = event.actionId then
        some ⟨event.actionId, event.type, eventPayloadHash p event, next.state, current.recordVersion + 1,
          event.eventTime⟩
      else current.processedActions.lookup name := by
  obtain ⟨-, auth, -, hreduce⟩ := preparedEvent_eq_some.mp h
  obtain ⟨-, reason, hprogress⟩ := reduceLifecycle_progress hreduce
  have hactions := congrArg Progress.processedActions hprogress
  rw [hactions]
  simp only [Progress.advance]
  split
  · next hname =>
    subst hname
    exact AList.lookup_insert _
  · next hname => exact AList.lookup_insert_ne hname

/-- Every committed action is in the index after an applied event, as it was. -/
theorem actionsKept_of_prepared (h : preparedEvent p carriers current event = .ok (some next)) :
    ∀ e ∈ current.processedActions.entries, assertActionKept next.processedActions e.1 e.2 = .ok () := by
  rintro ⟨name, a⟩ hmem
  have hlookup : current.processedActions.lookup name = some a :=
    (List.mem_dlookup_iff current.processedActions.nodupKeys).mpr hmem
  have hfresh := (PlainObject.read_eq_undefined.mp (preparedEvent_eq_some.mp h).1).1
  have hname : name ≠ event.actionId := by
    rintro rfl
    rw [hfresh] at hlookup
    cases hlookup
  refine assertActionKept_eq_ok.mpr ⟨a, ?_, rfl, rfl, rfl⟩
  rw [lookup_of_prepared h, if_neg hname, hlookup]

theorem avoids_preparedRecord (h : preparedEvent p carriers current event = .ok (some next)) (v : Int) :
    Avoids StoreError.IsConflict (preparedRecord p t (some current) v next) := by
  have hkept : each (fun e : Sigma fun _ : JsString => ProcessedActionRecord =>
      assertActionKept next.processedActions e.1 e.2) current.processedActions.entries = .ok () :=
    each_eq_ok.mpr (actionsKept_of_prepared h)
  have himmutable (field : String) : ¬ (StoreError.immutableField t (js field)).IsConflict := nofun
  have hversion (a b : Int) : ¬ (StoreError.versionConflict t a b).IsConflict := nofun
  simp [preparedRecord, assertCasPreconditions, assertRecordVersion, hkept, avoids_assertValidLifecycleRecord,
    himmutable, hversion]

theorem avoids_memory_cas {records : Records} (hcurrent : records t = some current)
    (h : preparedEvent p carriers current event = .ok (some next)) (v : Int) :
    Avoids StoreError.IsConflict (InMemoryLifecycleStore.compareAndSet p t v next records).1 := by
  have hkeep (prepared : Except StoreError LifecycleRecord) :
      (InMemoryLifecycleStore.keep t prepared records).1 = prepared := by
    cases prepared <;> rfl
  rw [InMemoryLifecycleStore.compareAndSet, hkeep, hcurrent]
  simp [assertSafeTenderId, avoids_preparedRecord h]

open FileLifecycleStore in
/-- When nothing fails, the written record is read back. -/
theorem avoids_persist (hp : p.HexDigest) {prepared : Except StoreError LifecycleRecord} {disk : Disk}
    (hprepared : Avoids StoreError.IsConflict prepared) (haccepted : ∀ r, prepared = .ok r → Accepted p t r)
    (name : JsString) : Avoids StoreError.IsConflict (persist p (.quiet name) t prepared disk).1 := by
  cases prepared with
  | error e => exact hprepared
  | ok r =>
    have hr := haccepted r rfl
    simp only [persist, writeAtomic, FileOutcome.quiet, Bool.false_eq_true, if_false]
    split
    · simp only [Except.map, avoids_error]
      rintro ⟨_, _, h⟩
      cases h
    · let written := disk.write (.temporary name) (some (.document (buildPersistedLifecycleEnvelope p r)))
      have hrecords : (fileAdapter p).records (written.rename (.temporary name) (.record t)) t = some r := by
        rw [file_records_rename hp hr name (by simp [written, Disk.write]), Function.update_self]
      have hread : readRecord p (.quiet name) t (written.rename (.temporary name) (.record t)) = .ok (some r) :=
        file_readRecord_quiet name hrecords hr
      have hverified : verifyWritten p (.quiet name) t r (written.rename (.temporary name) (.record t)) = .ok () := by
        simp only [verifyWritten, mapError_eq_ok, bind_eq_ok, require_eq_ok]
        exact ⟨some r, hread, rfl⟩
      show Avoids _ ((verifyWritten p (.quiet name) t r _).map _)
      rw [hverified]
      exact avoids_ok

open FileLifecycleStore in
theorem avoids_file_cas (hp : p.HexDigest) {disk : Disk} (hcurrent : (fileAdapter p).records disk t = some current)
    (h : preparedEvent p carriers current event = .ok (some next)) (v : Int) (name : JsString) :
    Avoids StoreError.IsConflict (compareAndSet p (.quiet name) t v next disk).1 := by
  have hacc := file_allAccepted disk t current hcurrent
  have hread := file_readRecord_quiet name hcurrent hacc
  have hsafe : assertSafeTenderId t = .ok () := assertSafeTenderId_eq_ok.mpr hacc.safeId
  have hprepared : (do
      let current ← readRecord p (.quiet name) t disk
      preparedRecord p t current v next) = preparedRecord p t (some current) v next := by
    rw [hread]
    rfl
  unfold compareAndSet
  rw [hsafe]
  show Avoids _ (persist p (.quiet name) t _ disk).1
  rw [hprepared]
  refine avoids_persist hp (avoids_preparedRecord h v) (fun r hr => ?_) name
  obtain ⟨c, -, hchecked, rfl⟩ := preparedRecord_ok hr
  exact hchecked.accepted

/-- On either adapter, when nothing fails. -/
theorem avoids_cas (hp : p.HexDigest) {kind : AdapterKind} {s : (kind.adapter p).State}
    (hcurrent : (kind.adapter p).records s t = some current)
    (h : preparedEvent p carriers current event = .ok (some next)) (v : Int) (name : JsString) :
    Avoids StoreError.IsConflict (((kind.adapter p).store (.quiet name)).compareAndSet t v next s).1 := by
  cases kind with
  | memory => exact avoids_memory_cas hcurrent h v
  | file => exact avoids_file_cas hp hcurrent h v name

end Cas

/-! ## The action index and the committed events -/

/-- The index lists the committed events under their ids, and no name that an object inherits. -/
structure ActionsCommitted (p : Platform) (es : List LifecycleEvent) (r : LifecycleRecord) : Prop where
  indexed : ∀ e ∈ es, ∃ a, r.processedActions.lookup e.actionId = some a ∧ a.eventPayloadHash = eventPayloadHash p e
  own : ∀ name a, r.processedActions.lookup name = some a → name ∉ objectPrototypeNames ∧ ∃ e ∈ es, e.actionId = name

section Idempotency
variable {p : Platform} {carriers : Option CarrierRegistry}

theorem actionsCommitted_step {es : List LifecycleEvent} {r next : LifecycleRecord} {event : LifecycleEvent}
    (h : ActionsCommitted p es r) (hprep : preparedEvent p carriers r event = .ok (some next)) :
    ActionsCommitted p (es ++ [event]) next := by
  have hlookup := lookup_of_prepared hprep
  obtain ⟨hnone, hname⟩ := PlainObject.read_eq_undefined.mp (preparedEvent_eq_some.mp hprep).1
  constructor
  · intro e he
    rcases List.mem_append.mp he with he | he
    · obtain ⟨a, ha, hpayload⟩ := h.indexed e he
      have hne : e.actionId ≠ event.actionId := by
        intro heq
        rw [heq, hnone] at ha
        cases ha
      exact ⟨a, by rw [hlookup, if_neg hne, ha], hpayload⟩
    · rw [List.mem_singleton.mp he]
      exact ⟨_, by rw [hlookup, if_pos rfl], rfl⟩
  · intro name a ha
    rw [hlookup] at ha
    split at ha
    · next heq =>
      rw [heq]
      exact ⟨hname, event, by simp, rfl⟩
    · obtain ⟨hproto, e, he, hid⟩ := h.own name a ha
      exact ⟨hproto, e, by simp [he], hid⟩

theorem actionsCommitted_of_run {es : List LifecycleEvent} {r : LifecycleRecord}
    (h : (applySystem p carriers).Run es r) : ActionsCommitted p es r := by
  refine System.Run.induction (S := applySystem p carriers) (I := ActionsCommitted p) ?_ ?_ h
  · rintro r ⟨⟨input, hcreate⟩, -⟩
    have hempty : r.processedActions = ∅ := by
      simp only [createLifecycleRecord, bind_eq_ok, pure_eq_ok] at hcreate
      obtain ⟨-, -, rfl⟩ := hcreate
      rfl
    refine ⟨fun _ he => (List.not_mem_nil he).elim, fun name a ha => ?_⟩
    rw [hempty] at ha
    cases ha
  · intro es r event next _ ih hstep
    exact actionsCommitted_step ih hstep.prepared

/-! ## What `apply` answers -/

/-- A call answers as the events committed on the tender say: a replay, a conflict, or whatever becomes of a fresh
action. -/
structure ActionIdempotent {a : Adapter} (s : ServiceState a) (t : JsString) (r : LifecycleRecord)
    (event : LifecycleEvent) (call fresh : Except ServiceError ApplyLifecycleResult × a.State) : Prop where
  replayed : call = (.ok ⟨r, .replayed⟩, s.store) ↔
    ∃ e ∈ s.committedOn t, e.actionId = event.actionId ∧ e.toJson.canonicalize = event.toJson.canonicalize
  conflict : (∃ message, call.1 = .error (.store (.actionConflict event.actionId message))) ↔
    ∃ e ∈ s.committedOn t, e.actionId = event.actionId ∧ e.toJson.canonicalize ≠ event.toJson.canonicalize
  otherwise : (∀ e ∈ s.committedOn t, e.actionId ≠ event.actionId) → call = fresh

/-- Verification and reduction raise no error of the store. -/
theorem freshEvent_ne_store {r : LifecycleRecord} {event : LifecycleEvent} {e : StoreError} :
    freshEvent p carriers r event ≠ .error (.store e) := by
  have hbad : Avoids (fun e => ∃ e', e = ServiceError.store e') (freshEvent p carriers r event) := by
    simp [freshEvent]
  exact fun h => hbad _ h ⟨e, rfl⟩

/-- A fresh action is neither a replay nor a conflict. -/
theorem commitPrepared_fresh {a : Adapter} {s : a.State} {writing : LifecycleStore a.State} {t : JsString}
    {r : LifecycleRecord} {event : LifecycleEvent}
    (hcas : ∀ next, freshEvent p carriers r event = .ok next →
      Avoids StoreError.IsConflict (writing.compareAndSet t r.recordVersion next s).1) :
    let call := commitPrepared writing t r (some <$> freshEvent p carriers r event) s
    call.1 ≠ .ok ⟨r, .replayed⟩ ∧
      ∀ message, call.1 ≠ .error (.store (.actionConflict event.actionId message)) := by
  intro call
  cases hfresh : freshEvent p carriers r event with
  | error e =>
    have hcall : call.1 = .error e := by
      simp only [call, hfresh]
      rfl
    rw [hcall]
    refine ⟨nofun, fun message heq => ?_⟩
    exact freshEvent_ne_store (hfresh.trans (congrArg Except.error (Except.error.inj heq)))
  | ok next =>
    have hcall : call.1 = ((writing.compareAndSet t r.recordVersion next s).1.mapError ServiceError.store).map
        fun persisted => ⟨persisted, .applied⟩ := by
      simp only [call, hfresh]
      rfl
    have havoids := hcas next hfresh
    rw [hcall]
    cases hwritten : (writing.compareAndSet t r.recordVersion next s).1 with
    | error e =>
      rw [hwritten] at havoids
      refine ⟨nofun, fun message heq => ?_⟩
      cases heq
      exact havoids _ rfl ⟨_, _, rfl⟩
    | ok persisted =>
      refine ⟨fun heq => ?_, nofun⟩
      cases heq

/-- What `preparedEvent` makes of a committed action. -/
theorem preparedEvent_committed {r : LifecycleRecord} {event : LifecycleEvent} {a : ProcessedActionRecord}
    (ha : r.processedActions.lookup event.actionId = some a) :
    preparedEvent p carriers r event =
      if a.eventPayloadHash = eventPayloadHash p event then .ok none
      else .error (.store (.actionConflict event.actionId (actionConflictMessage event.actionId))) := by
  have hread := PlainObject.read_eq_value.mpr ha
  simp only [preparedEvent, hread, require]
  split <;> rfl

section Answers
variable {a : Adapter} {s : ServiceState a} {t : JsString} {r : LifecycleRecord} {event : LifecycleEvent}
  {writing : LifecycleStore a.State}

/-- The answer to an action id that is in the index, or that no object inherits. -/
theorem actionIdempotent_of_own (hactions : ActionsCommitted p (s.committedOn t) r)
    (hcas : ∀ next, freshEvent p carriers r event = .ok next →
      preparedEvent p carriers r event = .ok (some next) →
      Avoids StoreError.IsConflict (writing.compareAndSet t r.recordVersion next s.store).1)
    (hsep : ∀ e ∈ s.committedOn t, e.actionId = event.actionId → p.Separates e.toJson event.toJson)
    (hname : event.actionId ∉ objectPrototypeNames) :
    ActionIdempotent s t r event
      (commitPrepared writing t r (preparedEvent p carriers r event) s.store)
      (commitPrepared writing t r (some <$> freshEvent p carriers r event) s.store) := by
  cases hlookup : r.processedActions.lookup event.actionId with
  | none =>
    have habsent : ∀ e ∈ s.committedOn t, e.actionId ≠ event.actionId := by
      intro e he heq
      obtain ⟨a, ha, -⟩ := hactions.indexed e he
      rw [heq, hlookup] at ha
      cases ha
    have hread := PlainObject.read_eq_undefined.mpr ⟨hlookup, hname⟩
    have hprep : preparedEvent p carriers r event = some <$> freshEvent p carriers r event := by
      simp only [preparedEvent, hread]
    rw [hprep] at hcas ⊢
    have hfresh : ∀ next, freshEvent p carriers r event = .ok next →
        Avoids StoreError.IsConflict (writing.compareAndSet t r.recordVersion next s.store).1 :=
      fun next hnext => hcas next hnext (by rw [hnext]; rfl)
    obtain ⟨hreplay, hconflict⟩ := commitPrepared_fresh hfresh
    refine ⟨?_, ?_, fun _ => rfl⟩
    · constructor
      · exact fun h => absurd (congrArg Prod.fst h) hreplay
      · rintro ⟨e, he, heq, -⟩
        exact absurd heq (habsent e he)
    · constructor
      · rintro ⟨message, h⟩
        exact absurd h (hconflict message)
      · rintro ⟨e, he, heq, -⟩
        exact absurd heq (habsent e he)
  | some action =>
    obtain ⟨-, e, he, hid⟩ := hactions.own _ _ hlookup
    obtain ⟨action', haction', hpayload⟩ := hactions.indexed e he
    rw [hid, hlookup] at haction'
    cases haction'
    -- the committed event with this id is unique up to its hash, and its hash tells the payloads apart
    have hsame : ∀ e' ∈ s.committedOn t, e'.actionId = event.actionId →
        (action.eventPayloadHash = eventPayloadHash p event ↔
          e'.toJson.canonicalize = event.toJson.canonicalize) := by
      intro e' he' hid'
      obtain ⟨action', haction', hpayload'⟩ := hactions.indexed e' he'
      rw [hid', hlookup] at haction'
      cases haction'
      rw [hpayload']
      constructor
      · exact (hsep e' he' hid').eq_of_canonicalSha256
      · intro heq
        rw [eventPayloadHash, eventPayloadHash, canonicalSha256, canonicalSha256, heq]
    rw [preparedEvent_committed hlookup]
    by_cases hhash : action.eventPayloadHash = eventPayloadHash p event
    · rw [if_pos hhash]
      refine ⟨?_, ?_, fun habsent => absurd hid (habsent e he)⟩
      · exact ⟨fun _ => ⟨e, he, hid, (hsame e he hid).mp hhash⟩, fun _ => rfl⟩
      · constructor
        · rintro ⟨message, h⟩
          cases h
        · rintro ⟨e', he', hid', hne⟩
          exact absurd ((hsame e' he' hid').mp hhash) hne
    · rw [if_neg hhash]
      refine ⟨?_, ?_, fun habsent => absurd hid (habsent e he)⟩
      · constructor
        · intro h
          cases congrArg Prod.fst h
        · rintro ⟨e', he', hid', heq⟩
          exact absurd ((hsame e' he' hid').mpr heq) hhash
      · constructor
        · rintro -
          exact ⟨e, he, hid, fun heq => hhash ((hsame e he hid).mpr heq)⟩
        · rintro -
          exact ⟨_, rfl⟩

/-- An inherited name is refused as a conflict, although no event was committed under it. -/
theorem not_actionIdempotent_of_inherited (hactions : ActionsCommitted p (s.committedOn t) r)
    (hname : event.actionId ∈ objectPrototypeNames) (fresh : Except ServiceError ApplyLifecycleResult × a.State) :
    ¬ ActionIdempotent s t r event
      (commitPrepared writing t r (preparedEvent p carriers r event) s.store) fresh := by
  intro h
  have hlookup : r.processedActions.lookup event.actionId = none := by
    cases hlookup : r.processedActions.lookup event.actionId with
    | none => rfl
    | some action => exact absurd hname (hactions.own _ _ hlookup).1
  have hread := PlainObject.read_eq_inherited.mpr ⟨hlookup, hname⟩
  have hconflict := h.conflict.mp ⟨actionConflictMessage event.actionId, by simp only [preparedEvent, hread]; rfl⟩
  obtain ⟨e, he, hid, -⟩ := hconflict
  obtain ⟨action, haction, -⟩ := hactions.indexed e he
  rw [hid, hlookup] at haction
  cases haction

end Answers

end Idempotency

/-- **Idempotency of `apply`**: in every state that a run of the service reaches, a call that the file system does not
disturb answers as the committed events say exactly when the action id is not a name of `Object.prototype`. -/
theorem apply_idempotent_iff {p : Platform} {carriers : Option CarrierRegistry} (hp : p.HexDigest)
    {kind : AdapterKind} {ls : List (ServiceCall × FileOutcome × FileOutcome)}
    {s : ServiceState (kind.adapter p)} (hrun : (serviceSystem p carriers kind).Run ls s) {t : JsString}
    {r : LifecycleRecord} (hr : (kind.adapter p).records s.store t = some r) (event : LifecycleEvent)
    (hsep : ∀ e ∈ s.committedOn t, e.actionId = event.actionId → p.Separates e.toJson event.toJson)
    (name : JsString) :
    let store := (kind.adapter p).store (.quiet name)
    ActionIdempotent s t r event (apply p carriers store store t event s.store)
      (commitPrepared store t r (some <$> freshEvent p carriers r event) s.store) ↔
      event.actionId ∉ objectPrototypeNames := by
  intro store
  have htraced := serviceSystem_refines hp hrun
  have hactions := actionsCommitted_of_run (htraced.reached t r hr)
  have hget : store.get t s.store = .ok (some r) := adapter_get_quiet kind s.store htraced.accepted name hr
  have happly : apply p carriers store store t event s.store =
      commitPrepared store t r (preparedEvent p carriers r event) s.store := by
    rw [apply, hget]
  rw [happly]
  constructor
  · exact fun h hname => not_actionIdempotent_of_inherited hactions hname _ h
  · exact fun hname => actionIdempotent_of_own hactions
      (fun next _ hprep => avoids_cas hp hr hprep r.recordVersion name) hsep hname

open Lifecycle.Sample Sample in
/-- The first action of a tender is refused as a conflict when its id is `toString`. -/
theorem apply_inherited_conflict :
    ∃ (ls : List (ServiceCall × FileOutcome × FileOutcome)) (s : ServiceState (AdapterKind.memory.adapter platform))
      (r : LifecycleRecord) (event : LifecycleEvent), (serviceSystem platform none .memory).Run ls s ∧
      (AdapterKind.memory.adapter platform).records s.store (js "T-1") = some r ∧ NamedAction event ∧
      s.committedOn (js "T-1") = [] ∧
      ∃ message, (apply platform none ((AdapterKind.memory.adapter platform).store (.quiet []))
        ((AdapterKind.memory.adapter platform).store (.quiet [])) (js "T-1") event s.store).1 =
          .error (.store (.actionConflict event.actionId message)) := by
  obtain ⟨r, hr⟩ := opened_record
  let event : LifecycleEvent := ⟨js "toString", js "2026-01-01T01:00:00Z", .biddingStarted⟩
  refine ⟨_, opened, r, event, run_opened none, hr, ⟨by decide, by decide⟩, rfl, ?_⟩
  have hacc := (serviceSystem_refines (hexDigest_asciiPlatform _) (run_opened none)).accepted
  have hactions := actionsCommitted_of_run
    ((serviceSystem_refines (hexDigest_asciiPlatform _) (run_opened none)).reached _ r hr)
  have hread : r.processedActions.read event.actionId = .inherited := by
    refine PlainObject.read_eq_inherited.mpr ⟨?_, by decide⟩
    cases hlookup : r.processedActions.lookup event.actionId with
    | none => rfl
    | some action => exact absurd (by decide) (hactions.own _ _ hlookup).1
  refine ⟨actionConflictMessage event.actionId, ?_⟩
  rw [apply, adapter_get_quiet .memory opened.store hacc [] hr]
  simp only [preparedEvent, hread]
  rfl

/-! ## A funded tender -/

namespace Sample
open Lifecycle.Sample

/-- The funding of the sample tender, told by the given transaction. -/
def fundingBy (transactionId : JsString) : LifecycleEvent :=
  ⟨js "a01", js "2026-01-01T01:00:00Z",
   .escrowFundingConfirmed ⟨transactionId, js "0.0.429274", js "5000000", js "T-1", 1⟩⟩

def firstFunding : LifecycleEvent := fundingBy (js "0.0.5001@1767225600.1")

/-- `apply` on the sample tender, when nothing fails. -/
def applied (event : LifecycleEvent) (s : Records) : Except ServiceError ApplyLifecycleResult × Records :=
  apply platform none ((AdapterKind.memory.adapter platform).store (.quiet []))
    ((AdapterKind.memory.adapter platform).store (.quiet [])) (js "T-1") event s

/-- The service after an event of the sample tender is committed. -/
def committing (event : LifecycleEvent) (s : ServiceState (AdapterKind.memory.adapter platform)) :
    ServiceState (AdapterKind.memory.adapter platform) where
  store := (applied event s.store).2
  committed := s.committed ++ [(js "T-1", event)]

theorem committing_step {event : LifecycleEvent} {s : ServiceState (AdapterKind.memory.adapter platform)}
    (h : ¬ (AdapterKind.memory.adapter platform).records (committing event s).store (js "T-1") =
      (AdapterKind.memory.adapter platform).records s.store (js "T-1")) :
    (serviceSystem platform none .memory).step s (.apply (js "T-1") event, .quiet [], .quiet [])
      (committing event s) := ⟨rfl, (if_neg h).symm⟩

/-- The service after the funding is committed. -/
def funded : ServiceState (AdapterKind.memory.adapter platform) := committing firstFunding opened

theorem funded_record : ∃ r ∈ (AdapterKind.memory.adapter platform).records funded.store (js "T-1"),
    r.recordVersion = 2 := by decide +kernel

theorem opened_version : ∀ r ∈ (AdapterKind.memory.adapter platform).records opened.store (js "T-1"),
    r.recordVersion = 1 := by decide

theorem run_funded : (serviceSystem platform none .memory).Run
    [(.create input, .quiet [], .quiet []), (.apply (js "T-1") firstFunding, .quiet [], .quiet [])] funded := by
  refine (run_opened none).snoc (committing_step fun heq => ?_)
  obtain ⟨r, hr, hversion⟩ := funded_record
  have hopened := opened_version r (heq.symm.trans hr)
  omega

end Sample

open Lifecycle.Sample Sample in
/-- The funding is replayed; under another transaction it is a conflict. -/
theorem apply_idempotent_funded :
    ∃ r : LifecycleRecord, (AdapterKind.memory.adapter platform).records funded.store (js "T-1") = some r ∧
      NamedAction firstFunding ∧ applied firstFunding funded.store = (.ok ⟨r, .replayed⟩, funded.store) ∧
      ∃ message, (applied (fundingBy (js "0.0.5001@1767225600.2")) funded.store).1 =
        .error (.store (.actionConflict (js "a01") message)) := by
  obtain ⟨r, hr, -⟩ := funded_record
  have hmem : firstFunding ∈ funded.committedOn (js "T-1") := by decide
  have honly : ∀ e ∈ funded.committedOn (js "T-1"), e = firstFunding := by decide
  have hsame : ∀ e ∈ funded.committedOn (js "T-1"), e.actionId = firstFunding.actionId →
      platform.Separates e.toJson firstFunding.toJson := by
    intro e he _
    rw [honly e he]
    exact fun _ => rfl
  have hother : ∀ e ∈ funded.committedOn (js "T-1"),
      e.actionId = (fundingBy (js "0.0.5001@1767225600.2")).actionId →
      platform.Separates e.toJson (fundingBy (js "0.0.5001@1767225600.2")).toJson := by
    intro e he _ hdigest
    rw [honly e he] at hdigest
    exact absurd hdigest (by decide +kernel)
  have hp : platform.HexDigest := hexDigest_asciiPlatform _
  refine ⟨r, hr, ⟨by decide, by decide⟩, ?_, ?_⟩
  · exact ((apply_idempotent_iff hp run_funded hr _ hsame []).mpr (by decide)).replayed.mpr
      ⟨firstFunding, hmem, rfl, rfl⟩
  · exact ((apply_idempotent_iff hp run_funded hr _ hother []).mpr (by decide)).conflict.mpr
      ⟨firstFunding, hmem, rfl, by decide⟩

end RouteGuard.Store
