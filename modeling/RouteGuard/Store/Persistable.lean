import RouteGuard.Store.Accepted

/-!
# Events the store can persist

* `EventFormat` : the strings of the event have the formats in which the record keeps them;
* `Persistable` : what the reducer does not check and the validator does;
* `Bookkeeping` : what every run of the reducer keeps about the indexes of a record;
* `progress_advance_iff` : the history and the action index after a transition.
-/

namespace RouteGuard.Store
open JsString Guarded Access Auth Trust Lifecycle

instance (max : Nat) (value : JsString) : Decidable (Text max value) := inferInstanceAs (Decidable (_ ∧ _))

/-! ## Formats of an event -/

def AccessPaid.Format (e : AccessPaid) : Prop :=
  Text 128 e.paymentTransactionId ∧ isSha256 e.paymentPayloadHash ∧ isValidHederaAccountId e.payerAccount

def PodPackage.Format (e : PodPackage) : Prop :=
  Text 128 e.podId ∧ isSha256 e.contentHash ∧ isSha256 e.ciphertextHash

/-- The strings that the record keeps of an event, in the format of their field. -/
def BodyFormat : EventBody → Prop
  | .escrowFundingConfirmed e => Text 128 e.fundingTxId ∧ isNonNegativeAtomicString e.fundedAmountAtomic
  | .tenderActivationPaid e => AccessPaid.Format e.toAccessPaid
  | .bidSubmissionPaid e =>
    AccessPaid.Format e.toAccessPaid ∧ Text 128 e.bidId ∧ Text 128 e.carrierId ∧
      isValidHederaAccountId e.carrierAccountId ∧ isSha256 e.bidHash ∧ isSha256 e.signedBidEnvelopeHash ∧
      isSha256 e.commitmentPayloadHash
  | .auctionCloseConfirmed e => Text 256 e.closureProofRef ∧ isSha256 e.authoritativeBidSetHash
  | .noQualifiedBidConfirmed e => isSha256 e.decisionManifestHash
  | .winnerSelectionConfirmed e =>
    isSha256 e.decisionManifestHash ∧ Text 128 e.winningBidId ∧ Text 128 e.winningCarrierId ∧
      isValidHederaAccountId e.winningCarrierAccount ∧ isNonNegativeAtomicString e.winningAmountAtomic
  | .winningAmountAllocationConfirmed e =>
    Text 128 e.allocateTxId ∧ (∀ tx ∈ e.refundExcessTxId, Text 128 tx) ∧ isSha256 e.decisionManifestHash
  | .routeReservationPublished e => Text 256 e.reservationEvidenceRef
  | .podPackageSubmitted e => PodPackage.Format e
  | .podPackageResubmitted e => PodPackage.Format e
  | .podRejectedToDispute e => Text 128 e.disputeId
  | .refereeResolutionRecorded e => Text 128 e.disputeId ∧ Text 128 e.refereeId
  | .escrowReleaseConfirmed e => Text 128 e.releaseTxId
  | .escrowPartialReleaseConfirmed e => Text 128 e.releaseTxId ∧ Text 128 e.refundTxId
  | .escrowRefundConfirmed e => Text 128 e.refundTxId
  | .podAdvisoryAnchored e => isSha256 e.reportHash
  | .biddingStarted | .transitStarted | .deliveryReported | .podReviewStarted | .podCorrectionRequested _
  | .podAcceptedByShipper _ | .podReviewDeadlineExpired | .podCorrectionDeadlineExpired
  | .tenderCompletionConfirmed => True

structure EventFormat (event : LifecycleEvent) : Prop where
  actionId : Text 128 event.actionId
  eventTime : isUtcIsoTimestamp event.eventTime
  body : BodyFormat event.body

/-! ## What only the validator checks -/

/-- The window of the deadline that an event sets. -/
def deadlineWindow (s : V2LifecycleState) : LifecycleEventType → Option Nat
  | .podReviewStarted => some (if s = .podSubmitted then REVIEW_WINDOW_SECONDS else POST_RESUBMIT_REVIEW_WINDOW_SECONDS)
  | .podCorrectionRequested => some CORRECTION_WINDOW_SECONDS
  | _ => none

/-- The action id is new and is not `__proto__`, the id of a timeout dispute fits its field, the deadline has a
year of four digits, and the referee is registered under the very id of the event. -/
structure Persistable (r : LifecycleRecord) (event : LifecycleEvent) : Prop where
  fresh : event.actionId ∉ r.processedActions.keys
  plain : event.actionId ≠ protoName
  dispute : event.type = .podCorrectionDeadlineExpired → event.actionId.length ≤ 112
  deadline : ∀ window ∈ deadlineWindow r.state event.type, ∀ x ∈ instant event.eventTime,
    x + window * 1000000000 < YEAR_10000
  referee : ∀ e, event.body = .refereeResolutionRecorded e → ∃ referee ∈ r.trust.referees, referee.refereeId = e.refereeId

/-! ## The indexes along a run -/

/-- What the reducer keeps about the indexes of a record. -/
structure Bookkeeping (r : LifecycleRecord) : Prop where
  actions : r.processedActions.keys.length ≤ r.history.length
  payments : r.accessPayments.length ≤ r.history.length
  paidActions : ∀ payment ∈ r.accessPayments, payment.actionId ∈ r.processedActions.keys
  paidBids : ∀ payment ∈ r.accessPayments, payment.accessActionType = .bidSubmit →
    ∃ bid ∈ r.bidRegistry, payment.bidId = some bid.bidId
  podVersion : ∀ v ∈ r.podVersion, 1 ≤ v ∧ v ≤ r.history.length

section Bookkeeping
variable {p : Platform} {r next : LifecycleRecord} {event : LifecycleEvent} {target : V2LifecycleState}
  {reason : Option JsString}

theorem mem_keys_advance {g : Progress} {k : JsString} :
    k ∈ (g.advance p target event reason).processedActions.keys ↔ k = event.actionId ∨ k ∈ g.processedActions.keys := by
  rw [← AList.mem_keys, ← AList.mem_keys]
  exact AList.mem_insert _

theorem length_keys_advance_le (g : Progress) :
    (g.advance p target event reason).processedActions.keys.length ≤ g.processedActions.keys.length + 1 := by
  show (g.processedActions.insert event.actionId _).keys.length ≤ _
  rw [PlainObject.length_keys_insert]
  split <;> omega

theorem length_history_advance (g : Progress) :
    (g.advance p target event reason).history.length = g.history.length + 1 := by
  simp [Progress.advance]

/-- What a step may do to the indexes: at most one payment, under the action of the event. -/
theorem Bookkeeping.step (h : Bookkeeping r) (hprogress : next.toProgress = r.toProgress.advance p target event reason)
    (hpaid : next.accessPayments = r.accessPayments ∨
      ∃ payment, next.accessPayments = r.accessPayments ++ [payment] ∧ payment.actionId = event.actionId ∧
        (payment.accessActionType = .bidSubmit → ∃ bid ∈ next.bidRegistry, payment.bidId = some bid.bidId))
    (hbids : ∀ bid ∈ r.bidRegistry, bid ∈ next.bidRegistry)
    (hpod : ∀ v ∈ next.podVersion, v ∈ r.podVersion ∨ v = 1 ∨ v = r.podVersion.getD 0 + 1) : Bookkeeping next := by
  have hindex : next.processedActions = (r.toProgress.advance p target event reason).processedActions :=
    congrArg Progress.processedActions hprogress
  have hhistory : next.history.length = r.history.length + 1 :=
    (congrArg (fun g => g.history.length) hprogress).trans (length_history_advance r.toProgress)
  have hkeys (k : JsString) : k ∈ next.processedActions.keys ↔ k = event.actionId ∨ k ∈ r.processedActions.keys := by
    rw [hindex]
    exact mem_keys_advance
  have hcount : next.processedActions.keys.length ≤ r.processedActions.keys.length + 1 := by
    rw [hindex]
    exact length_keys_advance_le r.toProgress
  have hold (payment : LifecycleAccessPayment) (hmem : payment ∈ r.accessPayments) :
      payment.actionId ∈ next.processedActions.keys ∧ (payment.accessActionType = .bidSubmit →
        ∃ bid ∈ next.bidRegistry, payment.bidId = some bid.bidId) := by
    refine ⟨(hkeys _).mpr (.inr (h.paidActions payment hmem)), fun htype => ?_⟩
    obtain ⟨bid, hbid, hid⟩ := h.paidBids payment hmem htype
    exact ⟨bid, hbids bid hbid, hid⟩
  have hall (payment : LifecycleAccessPayment) (hmem : payment ∈ next.accessPayments) :
      payment.actionId ∈ next.processedActions.keys ∧ (payment.accessActionType = .bidSubmit →
        ∃ bid ∈ next.bidRegistry, payment.bidId = some bid.bidId) := by
    rcases hpaid with heq | ⟨new, heq, hid, hbid⟩
    · exact hold payment (heq ▸ hmem)
    · rw [heq, List.mem_append, List.mem_singleton] at hmem
      rcases hmem with hmem | rfl
      · exact hold payment hmem
      · exact ⟨(hkeys _).mpr (.inl hid), hbid⟩
  have hpayments : next.accessPayments.length ≤ r.accessPayments.length + 1 := by
    rcases hpaid with heq | ⟨new, heq, -⟩
    · rw [heq]
      omega
    · rw [heq, List.length_append, List.length_singleton]
  have hactions := h.actions
  have hpays := h.payments
  refine ⟨by omega, by omega, fun payment hmem => (hall payment hmem).1, fun payment hmem => (hall payment hmem).2, ?_⟩
  intro v hv
  rcases hpod v hv with hv | rfl | rfl
  · have := h.podVersion v hv
    omega
  · omega
  · cases hpv : r.podVersion with
    | none => simp only [Option.getD_none]; omega
    | some v =>
      have := h.podVersion v hpv
      simp only [Option.getD_some]
      omega

theorem bookkeeping_reduces {context : LifecycleReduceContext p} {b : EventBody}
    (h : Bookkeeping r) (hreduces : Reduces p context r event b next) : Bookkeeping next := by
  have hkeep (v : Int) (hv : v ∈ r.podVersion) : v ∈ r.podVersion ∨ v = 1 ∨ v = r.podVersion.getD 0 + 1 := .inl hv
  cases hreduces with
  | tenderActivationPaid =>
    refine h.step rfl (.inr ⟨_, rfl, rfl, fun htype => ?_⟩) (fun _ h => h) hkeep
    cases htype
  | bidSubmissionPaid =>
    refine h.step rfl (.inr ⟨_, rfl, rfl, fun _ => ?_⟩) (fun _ h => List.mem_append_left _ h) hkeep
    exact ⟨_, List.mem_append_right _ (List.mem_singleton_self _), rfl⟩
  | podPackageSubmitted _ hpod =>
    refine h.step rfl (.inl rfl) (fun _ h => h) fun v hv => ?_
    cases hv
    exact .inr (.inl hpod.2.1)
  | podPackageResubmitted _ _ _ _ _ hversion =>
    refine h.step rfl (.inl rfl) (fun _ h => h) fun v hv => ?_
    cases hv
    exact .inr (.inr hversion)
  | escrowFundingConfirmed | biddingStarted | auctionCloseConfirmed | noQualifiedBidConfirmed
  | winnerSelectionConfirmed | winningAmountAllocationConfirmed | routeReservationPublished | transitStarted
  | deliveryReported | podReviewStarted | podCorrectionRequested | podAcceptedByShipper | podReviewDeadlineExpired
  | podCorrectionDeadlineExpired | podRejectedToDispute | refereeResolutionRecorded | escrowReleaseConfirmed
  | escrowPartialReleaseConfirmed | escrowRefundConfirmed | tenderCompletionConfirmed | podAdvisoryAnchored =>
    exact h.step rfl (.inl rfl) (fun _ h => h) hkeep

theorem bookkeeping_created {input : CreateLifecycleInput} (h : createLifecycleRecord p input = .ok r) :
    Bookkeeping r := by
  simp only [createLifecycleRecord, bind_eq_ok, require_eq_ok, exists_const, pure_eq_ok] at h
  obtain ⟨-, rfl⟩ := h
  refine ⟨Nat.le_refl _, Nat.le_refl _, ?_, ?_, ?_⟩ <;>
  · intro _ h
    cases h

/-- **The indexes of every record the reducer reaches.** -/
theorem bookkeeping_of_run {ls : List (LifecycleEvent × LifecycleReduceContext p)}
    (h : (lifecycleSystem p).Run ls r) : Bookkeeping r := by
  refine System.Run.induction (S := lifecycleSystem p) (I := fun _ r => Bookkeeping r) ?_ ?_ h
  · rintro s ⟨input, hinput⟩
    exact bookkeeping_created hinput
  · intro _ r l next _ ih hstep
    exact bookkeeping_reduces ih (reduceLifecycle_ok hstep).2.2

end Bookkeeping

/-! ## The history and the action index -/

section Progress
variable {p : Platform} {t createdAt : JsString} {g : Progress} {event : LifecycleEvent} {target : V2LifecycleState}
  {reason : Option JsString}

theorem isFingerprint_publicKeyFingerprint (hp : p.HexDigest) (key : JsString) :
    isFingerprint (publicKeyFingerprint p key) := by
  simp [isFingerprint, publicKeyFingerprint, hp _]

theorem NotAfter.trans {a b c : JsString} (h : NotAfter a b) (h' : NotAfter b c) : NotAfter a c := by
  obtain ⟨x, y, hx, hy, hxy⟩ := h
  obtain ⟨y', z, hy', hz, hyz⟩ := h'
  rw [hy] at hy'
  cases hy'
  exact ⟨x, z, hx, hz, hxy.trans hyz⟩

/-- With a count that only a plain index has, `__proto__` is no action. -/
theorem protoName_not_mem (h : ProgressFormat t createdAt g)
    (hkeys : g.processedActions.keys.length ≤ g.history.length) : protoName ∉ g.processedActions.keys := by
  intro hmem
  have hcount := h.count
  have hlength := PlainObject.length_rebuilt_keys g.processedActions
  rw [if_pos hmem] at hlength
  unfold rebuiltActions at hcount
  omega

/-- Reading the rebuilt index after an action was added. -/
theorem read_rebuilt_insert {actions : PlainObject ProcessedActionRecord} (hproto : protoName ∉ actions.keys)
    {name : JsString} (hname : name ≠ protoName) (a : ProcessedActionRecord) (k : JsString) :
    (rebuiltActions (actions.insert name a)).read PROCESSED_ACTION_KEYS k =
      if k = name then .value a else (rebuiltActions actions).read PROCESSED_ACTION_KEYS k := by
  have hlookup : actions.lookup protoName = none := by
    rw [AList.lookup_eq_none, AList.mem_keys]
    exact hproto
  have hprotos : (rebuiltActions (actions.insert name a)).proto = none ∧ (rebuiltActions actions).proto = none := by
    unfold rebuiltActions
    rw [PlainObject.rebuilt_proto, PlainObject.rebuilt_proto, AList.lookup_insert_ne (Ne.symm hname)]
    exact ⟨hlookup, hlookup⟩
  have howns : (rebuiltActions (actions.insert name a)).own.lookup k =
      if k = name then some a else (rebuiltActions actions).own.lookup k := by
    unfold rebuiltActions
    rw [PlainObject.rebuilt_own_lookup, PlainObject.rebuilt_own_lookup]
    by_cases hk : k = name
    · subst hk
      rw [if_neg hname, if_pos rfl, AList.lookup_insert]
    · rw [if_neg hk, AList.lookup_insert_ne hk]
  unfold BuiltObject.read
  rw [howns, hprotos.1, hprotos.2]
  by_cases hk : k = name
  · rw [if_pos hk, if_pos hk]
  · rw [if_neg hk, if_neg hk]

/-- The number of actions the validator counts after an action was added. -/
theorem length_rebuilt_insert {actions : PlainObject ProcessedActionRecord} (hproto : protoName ∉ actions.keys)
    (name : JsString) (a : ProcessedActionRecord) :
    (rebuiltActions (actions.insert name a)).own.keys.length = (rebuiltActions actions).own.keys.length + 1 ↔
      name ∉ actions.keys ∧ name ≠ protoName := by
  have hbefore := PlainObject.length_rebuilt_keys actions
  have hafter := PlainObject.length_rebuilt_keys (actions.insert name a)
  rw [if_neg hproto] at hbefore
  have hmem : protoName ∈ (actions.insert name a).keys ↔ protoName = name := by
    rw [← AList.mem_keys, AList.mem_insert, AList.mem_keys]
    simp [hproto]
  unfold rebuiltActions
  rw [PlainObject.length_keys_insert] at hafter
  by_cases hname : name = protoName
  · rw [if_pos (hmem.mpr hname.symm), if_neg (hname ▸ hproto)] at hafter
    simp only [hname, ne_eq, not_true_eq_false, and_false, iff_false]
    rw [hname] at hafter
    omega
  · rw [if_neg (fun h => hname (hmem.mp h).symm)] at hafter
    by_cases hfresh : name ∈ actions.keys
    · rw [if_pos hfresh] at hafter
      simp only [hfresh, not_true_eq_false, false_and, iff_false]
      omega
    · rw [if_neg hfresh] at hafter
      simp only [hfresh, hname, not_false_eq_true, ne_eq, and_self, iff_true]
      omega

/-- A committed entry has its action among the own properties. -/
theorem mem_keys_of_committed {actions : PlainObject ProcessedActionRecord} {entry : LifecycleTransitionRecord}
    (hproto : protoName ∉ actions.keys) (h : Committed actions entry) : entry.actionId ∈ actions.keys := by
  obtain ⟨a, hread, -⟩ := h
  have hnone : (rebuiltActions actions).proto = none := by
    unfold rebuiltActions
    rw [PlainObject.rebuilt_proto, AList.lookup_eq_none, AList.mem_keys]
    exact hproto
  unfold BuiltObject.read at hread
  rw [hnone] at hread
  cases hown : (rebuiltActions actions).own.lookup entry.actionId with
  | some b =>
    have hmem : entry.actionId ∈ (rebuiltActions actions).own.keys :=
      AList.mem_keys.mp (AList.lookup_isSome.mp (by rw [hown]; rfl))
    exact (PlainObject.mem_rebuilt_keys.mp hmem).2
  | none =>
    rw [hown] at hread
    simp only at hread
    split at hread <;> cases hread

theorem FinalEntry.committed (h : FinalEntry g) : ∀ entry ∈ g.history, Committed g.processedActions entry := by
  unfold FinalEntry at h
  cases hlast : g.history.getLast? with
  | none =>
    rw [List.getLast?_eq_none_iff] at hlast
    simp [hlast]
  | some last =>
    rw [hlast] at h
    exact h.2.2.2

/-- The last entry of the history has the time of the record. -/
theorem FinalEntry.time (h : FinalEntry g) {last : LifecycleTransitionRecord} (hlast : g.history.getLast? = some last) :
    last.at_ = g.updatedAt := by
  unfold FinalEntry at h
  rw [hlast] at h
  exact h.2.1

theorem isUtcIsoTimestamp_of_notAfter {a b : JsString} (h : NotAfter a b) : isUtcIsoTimestamp b := by
  obtain ⟨_, y, -, hy, -⟩ := h
  exact isUtcIsoTimestamp_iff.mpr ⟨y, hy⟩

/-- The times of the history with one more entry. -/
theorem times_advance (h : ProgressFormat t createdAt g) (htime : NotAfter g.updatedAt event.eventTime) :
    eachAfter (validateHistoryTime t createdAt) [] (g.advance p target event reason).history = .ok () := by
  refine eachAfter_concat.mpr ⟨h.times, ?_⟩
  simp only [validateHistoryTime, check_eq_ok, expectNotAfter_eq_ok, nullable_eq_ok, List.nil_append]
  refine ⟨NotAfter.trans h.order htime, fun last hlast => ?_⟩
  rw [h.final.time hlast]
  exact htime

theorem entries_advance (h : ProgressFormat t createdAt g) (hid : Text 128 event.actionId)
    (htime : NotAfter g.updatedAt event.eventTime) (hreason : ∀ x ∈ reason, Text MAX_STRING x) :
    eachAfter (validateTransition t) [] (g.advance p target event reason).history = .ok () := by
  refine eachAfter_concat.mpr ⟨h.entries, ?_⟩
  simp only [validateTransition, check_eq_ok, str_eq_ok, utc_eq_ok, nullable_eq_ok]
  exact ⟨hid, isUtcIsoTimestamp_of_notAfter htime, hreason⟩

/-- The actions of the index with one more action. -/
theorem actions_advance (hp : p.HexDigest) (h : ProgressFormat t createdAt g) (hid : Text 128 event.actionId)
    (htime : NotAfter g.updatedAt event.eventTime) (hlen : g.history.length < MAX_HISTORY) :
    ∀ e ∈ (g.advance p target event reason).processedActions.entries,
      ActionFormat (g.advance p target event reason).recordVersion e.1 e.2 := by
  intro e he
  have hversions := h.versions
  have hmax : (MAX_HISTORY : Int) + 2 ≤ MAX_SAFE_INTEGER := by decide
  rcases List.mem_cons.mp he with rfl | he
  · refine ⟨hid, rfl, isSha256_canonicalSha256 hp _, ⟨?_, ?_⟩, Int.le_refl _, isUtcIsoTimestamp_of_notAfter htime⟩
    · show 1 ≤ g.recordVersion + 1
      omega
    · show g.recordVersion + 1 ≤ MAX_SAFE_INTEGER
      omega
  · have hold := h.actions e ((List.kerase_sublist _ _).subset he)
    refine ⟨hold.text, hold.key, hold.payload, hold.version, ?_, hold.time⟩
    show e.2.recordVersionAfter ≤ g.recordVersion + 1
    have := hold.committed
    omega

/-- The last entry, and the actions of all entries, after a fresh action. -/
theorem final_advance (h : ProgressFormat t createdAt g) (hproto : protoName ∉ g.processedActions.keys)
    (hfresh : event.actionId ∉ g.processedActions.keys) (hplain : event.actionId ≠ protoName) :
    FinalEntry (g.advance p target event reason) := by
  unfold FinalEntry
  simp only [Progress.advance, List.getLast?_append, List.getLast?_singleton, Option.some_or, true_and]
  intro entry hentry
  unfold Committed
  rcases List.mem_append.mp hentry with hentry | hentry
  · have hcommitted := h.final.committed entry hentry
    have hne : entry.actionId ≠ event.actionId := by
      intro heq
      exact hfresh (heq ▸ mem_keys_of_committed hproto hcommitted)
    rw [read_rebuilt_insert hproto hplain, if_neg hne]
    exact hcommitted
  · rw [List.mem_singleton.mp hentry]
    rw [read_rebuilt_insert hproto hplain, if_pos rfl]
    exact ⟨_, rfl, rfl, rfl⟩

/-- **The history and the index after a transition are accepted exactly when the action is new and plain.** -/
theorem progress_advance_iff (hp : p.HexDigest) (h : ProgressFormat t createdAt g)
    (hkeys : g.processedActions.keys.length ≤ g.history.length) (hid : Text 128 event.actionId)
    (htime : NotAfter g.updatedAt event.eventTime) (hlen : g.history.length < MAX_HISTORY)
    (hreason : ∀ x ∈ reason, Text MAX_STRING x) :
    ProgressFormat t createdAt (g.advance p target event reason) ↔
      event.actionId ∉ g.processedActions.keys ∧ event.actionId ≠ protoName := by
  have hproto := protoName_not_mem h hkeys
  have hhistory : (g.advance p target event reason).history.length = g.history.length + 1 := length_history_advance g
  have hcount := h.count
  have hadded := length_rebuilt_insert hproto event.actionId
    ⟨event.actionId, event.type, eventPayloadHash p event, target, g.recordVersion + 1, event.eventTime⟩
  constructor
  · intro hnext
    refine hadded.mp ?_
    rw [← hcount, ← hhistory]
    exact hnext.count.symm
  · rintro ⟨hfresh, hplain⟩
    have hversions := h.versions
    have hmax : (MAX_HISTORY : Int) + 2 ≤ MAX_SAFE_INTEGER := by decide
    have hversion : (g.advance p target event reason).recordVersion = g.recordVersion + 1 := rfl
    refine ⟨by rw [hversion]; omega, isUtcIsoTimestamp_of_notAfter htime, NotAfter.trans h.order htime, ?_, ?_,
      entries_advance h hid htime hreason, times_advance h htime, actions_advance hp h hid htime hlen, ?_, ?_,
      final_advance h hproto hfresh hplain⟩
    · intro a ha
      cases ha
      exact hid
    · rw [hhistory]
      exact hlen
    · rw [hhistory, hcount]
      exact (hadded.mpr ⟨hfresh, hplain⟩).symm
    · rw [hhistory, hversion]
      push_cast
      omega

end Progress

end RouteGuard.Store
