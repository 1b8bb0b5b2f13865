import RouteGuard.Reservation.Invariants
import RouteGuard.Reservation.Webhooks
import RouteGuard.Store.Accepted

/-!
# What the store accepts of the service

Every record the service hands to the store is a change of a stored one. Where the transports and the clocks behave,
the validator accepts it, apart from a list of defects.

* `Conforming` : texts of bounded length, and clocks that do not go below the creation of a reservation;
* `Defective` : the commits that the validator refuses;
* `Change.valid` : it accepts all others.
-/

namespace RouteGuard.Reservation
open JsString Guarded Lifecycle Store ReservationState

/-! ## Assumptions -/

/-- The transports answer with bounded texts, and no clock reads a time before the reservation was created. -/
structure Conforming (w : Trace) (id : JsString) : Prop where
  verify : ∀ {selected payloadHash challengeHash result}, ⟨.verify selected payloadHash challengeHash, .ok result⟩ ∈ w →
    ∀ t ∈ result.invalidReason, t.length ≤ 1000
  settle : ∀ {claim selected payloadHash challengeHash result},
    ⟨.settle claim selected payloadHash challengeHash, .ok result⟩ ∈ w → ∀ t ∈ result.errorReason, t.length ≤ 1000
  mirror : ∀ {start txId e}, ⟨.getTransaction start txId, .error e⟩ ∈ w → e.message.length ≤ 1000
  deliver : ∀ {pass recipient webhook result}, ⟨.deliver pass recipient webhook, .ok result⟩ ∈ w →
    ∀ t ∈ result.error, t.length ≤ 1000
  now : ∀ {t}, ⟨.now, t⟩ ∈ w → ∀ r ∈ versions w id, ¬ isAfterUtc r.createdAt t
  system : ∀ {ms t}, ⟨.dateNow, ms⟩ ∈ w → toISOString ms = .ok t → ∀ r ∈ versions w id, ¬ isAfterUtc r.createdAt t

theorem Conforming.of_prefix {w w' : Trace} {id : JsString} (h : Conforming w' id) (hw : w <+: w') : Conforming w id :=
  ⟨fun hm => h.verify (hw.subset hm), fun hm => h.settle (hw.subset hm), fun hm => h.mirror (hw.subset hm),
    fun hm => h.deliver (hw.subset hm), fun hm r hr => h.now (hw.subset hm) r (mem_versions_later hw hr),
    fun hm ht r hr => h.system (hw.subset hm) ht r (mem_versions_later hw hr)⟩

/-! ## Defects -/

/-- The commits that the validator refuses, by what is wrong with them. -/
inductive Defective : CommitSite → ReservationRecord → ReservationRecord → Prop
  /-- The version number is exhausted. -/
  | version {site : CommitSite} {cur next : ReservationRecord} (h : MAX_SAFE_INTEGER ≤ cur.recordVersion) :
      Defective site cur next
  /-- A payload hash of another form, or a valid start past the year 9999, is submitted. -/
  | submission {cur : ReservationRecord} {input : SubmitInput} {ref : ClientTransactionRef} {now reason : JsString}
      (h : ¬ isSha256 input.paymentPayloadHash ∨ ¬ isUtcIsoTimestamp ref.validStartTimestamp) :
      Defective .startSubmission cur ((submittedRecord cur input ref now).entered paymentSubmissionStarted reason now)
  /-- Another payload or another transaction than the submitted one is claimed. -/
  | claim {cur : ReservationRecord} {input : SubmitInput} {sub : Submission} {attemptId now reason : JsString}
      (h : cur.paymentPayloadHash ≠ some input.paymentPayloadHash ∨
        ¬ isUtcIsoTimestamp sub.clientTx.validStartTimestamp ∨
        ∃ ref ∈ cur.clientTransaction,
          normalizeTxIdForm ref.transactionId ≠ normalizeTxIdForm sub.clientTx.transactionId) :
      Defective .claimSettle cur
        (({ cur with settleClaim := some (settleClaimOf cur input sub attemptId now) } : ReservationRecord).entered
          facilitatorSettleClaimed reason now)
  /-- The facilitator answers a blank transaction id, which is tolerated as a missing one. -/
  | blankResponse {cur : ReservationRecord} {result : FacilitatorSettleResult} {txId id now reason : JsString}
      (h : result.transactionId = some id) (hblank : trim id = []) :
      Defective .settlePayment cur ((settledRecord cur result txId now).entered facilitatorSettled reason now)
  /-- The failure text repeats a transaction id of too many characters. -/
  | longTransaction {cur next : ReservationRecord} {exact : JsString}
      (htext : next.failureReason = some (unauthorizedSettlement exact).text)
      (h : 2000 < (unauthorizedSettlement exact).text.length) : Defective .unauthorizedSettlement cur next
  /-- The failure text repeats a transaction id and a result of too many characters. -/
  | longResult {site : CommitSite} {cur next : ReservationRecord} {t : ReservationState} {exact : JsString}
      {result : Option JsString} (hsite : site ∈ [.preClaimFailed, .claimedFailed])
      (htext : next.failureReason = some (foundFailed site t exact result).text)
      (h : 2000 < (foundFailed site t exact result).text.length) : Defective site cur next
  /-- A verified payment that was not claimed is moved to a state that requires a claim. -/
  | unclaimed {site : CommitSite} {cur next : ReservationRecord}
      (hsite : site ∈ [.preClaimFailed, .preClaimConclusive]) (h : cur.state = facilitatorVerified) :
      Defective site cur next
  /-- The system clock tells no valid window for an adopted transaction. -/
  | adoptedWindow {site : CommitSite} {cur next : ReservationRecord} {now deadline t : JsString}
      (hsite : site ∈ [.adopt, .recover]) (hpoll : next.mirrorPoll = some (newPoll t now deadline))
      (h : ¬ (isUtcIsoTimestamp now ∧ isUtcIsoTimestamp deadline ∧ isBeforeUtc now deadline)) : Defective site cur next
  /-- A recovery adopts another transaction than the claimed one. -/
  | foreignTransaction {cur : ReservationRecord} {claim : SettleClaim} {txId now deadline : JsString}
      (hclaim : cur.settleClaim = some claim) (h : normalizeTxIdForm txId ≠ normalizeTxIdForm claim.transactionId) :
      Defective .recover cur (adoptedRecord cur txId now deadline)
  /-- A confirmation starts with a deadline that is not after its start. -/
  | window {cur : ReservationRecord} {txId now deadline reason : JsString}
      (h : ¬ (isUtcIsoTimestamp deadline ∧ isBeforeUtc now deadline)) :
      Defective .beginConfirmation cur
        ((confirmingRecord cur txId now deadline).entered mirrorConfirmationPending reason now)
  /-- A confirmation resumes with a deadline that is not after its start. -/
  | resumedWindow {cur next : ReservationRecord} {poll : MirrorPollRecord} {deadline : JsString}
      (hpoll : cur.mirrorPoll = some poll) (hdeadline : next.confirmationDeadline = some deadline)
      (h : ¬ (isUtcIsoTimestamp deadline ∧ isBeforeUtc poll.confirmationStartedAt deadline)) :
      Defective .recoverTimedOut cur next
  /-- The count of the polls is exhausted. -/
  | pollCount {site : CommitSite} {cur next : ReservationRecord} {poll : MirrorPollRecord}
      (hsite : site ∈ [.poll, .mirrorFailed, .confirm, .confirmationFailed, .timeOut]) (hpoll : next.mirrorPoll = some poll)
      (h : MAX_SAFE_INTEGER < poll.pollAttemptCount) : Defective site cur next
  /-- Another writer has changed the deadline under a confirmation, which ends it with its own. -/
  | otherDeadline {site : CommitSite} {cur next : ReservationRecord} {poll : MirrorPollRecord}
      (hsite : site ∈ [.mirrorFailed, .confirm, .confirmationFailed, .timeOut]) (hpoll : next.mirrorPoll = some poll)
      (h : cur.confirmationDeadline ≠ some poll.confirmationDeadline) : Defective site cur next
  /-- The error that ends a confirmation has too long a text or code. -/
  | longError {cur next : ReservationRecord} {code text : JsString} (hcode : next.failureCode = some code)
      (htext : next.failureReason = some text) (h : 1000 < text.length ∨ 128 < code.length) :
      Defective .confirmationFailed cur next
  /-- A settled payment whose confirmation never started is recovered as failed, or the system clock is past 9999. -/
  | recovered {cur : ReservationRecord} {code reason : String} {now : JsString}
      (h : cur.state = facilitatorSettled ∨ ¬ isUtcIsoTimestamp now) :
      Defective .recover cur (endedRecord cur confirmationFailed code reason now)
  /-- The count of the deliveries is exhausted. -/
  | deliveryCount {cur next : ReservationRecord} {d : WebhookDeliveryRecord} (hmem : d ∈ next.webhooks)
      (h : MAX_SAFE_INTEGER < d.deliveryAttemptNumber) : Defective .deliveries cur next

/-! ## The next version -/

section Advance
variable {c : Crypto} {cur : ReservationRecord}

/-- The same record one version on. -/
def ReservationRecord.advanced (cur : ReservationRecord) : ReservationRecord :=
  { cur with recordVersion := cur.recordVersion + 1 }

theorem ClaimBinds.advance {id : JsString} {payloadHash challengeHash transactionId : Option JsString}
    {attempt version : Nat} {client : Option ClientTransactionRef} {selected : SelectedPaymentOption} {claim : SettleClaim}
    (h : ClaimBinds id payloadHash challengeHash attempt transactionId client version selected claim) :
    ClaimBinds id payloadHash challengeHash attempt transactionId client (version + 1) selected claim :=
  { h with version := h.version.trans (Nat.le_succ _) }

theorem Shaped.advance (h : Shaped c cur) (hversion : cur.recordVersion < MAX_SAFE_INTEGER) :
    Shaped c cur.advanced := by
  refine { h with version := ?_, claim := ?_ }
  · show 1 ≤ ((cur.recordVersion + 1 : Nat) : Int) ∧ ((cur.recordVersion + 1 : Nat) : Int) ≤ MAX_SAFE_INTEGER
    omega
  · intro claim hclaim
    obtain ⟨s, hs, hbinds⟩ := h.claim claim hclaim
    exact ⟨s, hs, hbinds.advance⟩

end Advance

/-! ## Where a commit stands -/

/-- A commit changes a stored record of a lawful and conforming trace, over a platform with a proper digest. -/
structure Standing (deps : ServiceDeps) (auction : Auction) (w : Trace) (id : JsString) (cur : ReservationRecord) :
    Prop where
  digest : deps.crypto.toPlatform.HexDigest
  lawful : Lawful deps auction w
  conforming : Conforming w id
  known : cur ∈ versions w id

section Standing
variable {deps : ServiceDeps} {auction : Auction} {w : Trace} {id : JsString} {site : CommitSite}
  {cur next : ReservationRecord}

theorem Standing.shaped (h : Standing deps auction w id cur) : Shaped deps.crypto cur :=
  (valid_iff_shaped.mp (h.lawful.valid h.known)).1

theorem Standing.meets (h : Standing deps auction w id cur) : Meets cur.state cur :=
  (valid_iff_shaped.mp (h.lawful.valid h.known)).2

theorem Standing.meets_at (h : Standing deps auction w id cur) {s : ReservationState} (hs : cur.state = s) :
    Meets s cur := hs ▸ h.meets

theorem Standing.sound (h : Standing deps auction w id cur) : Sound cur := h.lawful.sound h.known

/-- The time of a commit is a valid one, and not before the creation. -/
theorem Standing.time (h : Standing deps auction w id cur) {t : JsString} (ht : Clocked w t) :
    isUtcIsoTimestamp t ∧ ¬ isAfterUtc cur.createdAt t := ⟨ht.utc, h.conforming.now ht.read cur h.known⟩

theorem Standing.systemTime (h : Standing deps auction w id cur) {t : JsString} (ht : SystemClocked w t) :
    ¬ isAfterUtc cur.createdAt t := by
  obtain ⟨ms, hread, htext⟩ := ht
  exact h.conforming.system hread htext cur h.known

theorem Standing.unsettled (h : Standing deps auction w id cur) {s : ReservationState} (hs : cur.state = s)
    (hmem : s ∈ UNSETTLED_STATES) : cur.transactionId = none :=
  h.lawful.transactionId_none h.known (hs ▸ hmem)

theorem Standing.unpolled (h : Standing deps auction w id cur) {s : ReservationState} (hs : cur.state = s)
    (hmem : s ∈ UNPOLLED_STATES) : cur.mirrorPoll = none ∧ cur.confirmationDeadline = none := by
  have hpoll := h.sound.unpolled (hs ▸ hmem)
  have hwindow := h.sound.window
  rw [hpoll] at hwindow
  exact ⟨hpoll, Option.not_isSome_iff_eq_none.mp (by rw [hwindow]; exact Bool.false_ne_true)⟩

/-! ## Selection and challenge -/

theorem selectionOf_binds {input : SelectInput} {selected : SelectedPaymentOption} {now : JsString}
    (hshape : Shaped deps.crypto cur) (h : selectionOf deps cur input now = .ok selected) :
    checkSelection cur.reservationId cur.offer selected = .ok () := by
  have hoffer := hshape.origin.2
  simp only [checkOffer, check_eq_ok, binding, require_eq_ok] at hoffer
  obtain ⟨-, -, -, -, -, -, -, -, hid, -⟩ := hoffer
  have hid : cur.offer.reservationId = cur.reservationId := hid
  simp only [selectionOf, selectPaymentOption, bind_eq_ok, require_eq_ok, exists_const, pure_eq_ok] at h
  obtain ⟨s, ⟨-, -, -, -, hutc, -, hpayer, h⟩, -, rfl⟩ := h
  cases hfound : cur.offer.options.find? (fun o => o.optionId = input.optionId) with
  | none =>
    rw [hfound] at h
    cases h
  | some option =>
    rw [hfound] at h
    simp only [bind_eq_ok, pure_eq_ok] at h
    obtain ⟨path, hpath, rfl⟩ := h
    have hoption : option.optionId = input.optionId := by simpa using List.find?_some hfound
    have hfound' : cur.offer.options.find? (fun o => o.optionId = option.optionId) = some option := by
      rw [hoption]
      exact hfound
    simp only [checkSelection, check_eq_ok, binding, require_eq_ok, hfound', assertAccount, assertUtc, true_and, and_true]
    rw [hid] at hpath
    exact ⟨hid, hpayer, by rw [hpath]; rfl, hutc⟩

theorem challenge_binds {selected : SelectedPaymentOption} {challenge : PaymentChallenge}
    {durable : PaymentChallengeRecord} {now : JsString} (hshape : Shaped deps.crypto cur)
    (hselected : cur.selected = some selected)
    (h : createPaymentChallengeRecord deps.crypto selected challenge now = .ok durable) :
    validateChallengeRecord deps.crypto durable selected (some durable.challengeHash) = .ok () := by
  have hselection := hshape.selection selected hselected
  simp only [checkSelection, check_eq_ok, binding, require_eq_ok] at hselection
  obtain ⟨hid, -, -, hselection⟩ := hselection
  cases hfound : cur.offer.options.find? (fun o => o.optionId = selected.optionId) with
  | none =>
    rw [hfound] at hselection
    cases hselection
  | some option =>
    rw [hfound] at hselection
    simp only [check_eq_ok, require_eq_ok] at hselection
    obtain ⟨-, -, -, -, hpath, -⟩ := hselection
    simp only [createPaymentChallengeRecord, assertExactChallenge, expectedChallengeFields, bind_eq_ok, exists_const,
      require_eq_ok, pure_eq_ok] at h
    obtain ⟨hutc, ⟨expected, ⟨resource, hresource, rfl⟩, -, -, -, hasset, hamount, hpayTo, hres, -, hdescription, -⟩,
      rfl⟩ := h
    rw [hid] at hresource
    rw [hresource] at hpath
    have hpath : resource = selected.resourcePath := Option.some.inj hpath
    simp only [validateChallengeRecord, check_eq_ok, binding, require_eq_ok, assertUtc, true_and, and_true]
    exact ⟨hasset, hamount, hpayTo, hres.trans hpath, hdescription, hutc⟩

/-! ## Transaction ids -/

@[simp] theorem normalizeTxIdForm_trim (id : JsString) : normalizeTxIdForm (trim id) = normalizeTxIdForm id := by
  unfold normalizeTxIdForm
  rw [trim_trim]

theorem ne_nil_of_sdk {id : JsString} (h : (matchSdkTxId id).isSome) : id ≠ [] := by
  rintro rfl
  revert h
  decide

theorem normalizeTransactionId_form {id form : JsString} (h : normalizeTransactionId id = .ok form) :
    normalizeTxIdForm id = form := by
  unfold normalizeTransactionId at h
  unfold normalizeTxIdForm
  cases hm : matchSdkTxId (trim id) with
  | some m =>
    rw [hm] at h
    cases h
    rfl
  | none =>
    rw [hm] at h
    simp only at h
    split at h
    · cases h
      rfl
    · cases h

theorem normalizeTxIdForm_eq {a b : JsString} (h : transactionIdsEqual a b = .ok true) :
    normalizeTxIdForm a = normalizeTxIdForm b := by
  simp only [transactionIdsEqual, bind_eq_ok, pure_eq_ok, decide_eq_true_eq] at h
  obtain ⟨left, hleft, right, hright, heq⟩ := h
  rw [normalizeTransactionId_form hleft, normalizeTransactionId_form hright, heq]

theorem parseClientTransactionRef_spec {input ref : ClientTransactionRef} (h : parseClientTransactionRef input = .ok ref) :
    (matchSdkTxId ref.transactionId).isSome ∧
      1 ≤ ref.transactionValidDurationSeconds ∧ ref.transactionValidDurationSeconds ≤ 180 := by
  simp only [parseClientTransactionRef, bind_eq_ok, require_eq_ok, exists_const, pure_eq_ok] at h
  obtain ⟨hsdk, derived, -, -, hduration, rfl⟩ := h
  exact ⟨hsdk, hduration⟩

theorem exactLookup_exact {transactionId validStart : JsString} {duration : Int} {l : ExactLookup}
    (h : exactLookup transactionId validStart duration = .ok l) : l.exact = trim transactionId ∧ l.exact ≠ [] := by
  simp only [exactLookup, bind_eq_ok, pure_eq_ok] at h
  obtain ⟨exact, hexact, boundary, -, iso, -, rfl⟩ := h
  obtain ⟨id, hid, htrim, hne⟩ := requireTransactionIdForSettlement_eq_ok.mp hexact
  cases hid
  exact ⟨htrim.symm, hne⟩

/-! ## Dates -/

theorem length_decimalInt_le {n : Int} (h : n.natAbs < 10 ^ 10) : (decimalInt n).length ≤ 11 := by
  cases n with
  | ofNat n =>
    have := (length_decimal_le_iff (n := n) (k := 10) (by decide)).mpr h
    show (decimal n).length ≤ 11
    omega
  | negSucc n =>
    have := (length_decimal_le_iff (n := n + 1) (k := 10) (by decide)).mpr h
    show (decimal (n + 1)).length + 1 ≤ 11
    omega

theorem length_padStart_le (s : JsString) (n : Nat) (u : UInt16) : (padStart s n u).length ≤ s.length + n := by
  simp only [padStart, List.length_append, List.length_replicate]
  omega

/-- The text of a date is short. -/
theorem toISOString_length {ms : Int} {t : JsString} (h : toISOString ms = .ok t) : t.length ≤ 120 := by
  unfold toISOString at h
  split at h
  · next hrange =>
    have hpad2 {n : Int} (hn : n.natAbs < 10 ^ 10) : (pad2 n).length ≤ 13 :=
      (length_padStart_le _ _ _).trans (Nat.add_le_add_right (length_decimalInt_le hn) 2)
    have hpad3 {n : Int} (hn : n.natAbs < 10 ^ 10) : (pad3 n).length ≤ 14 :=
      (length_padStart_le _ _ _).trans (Nat.add_le_add_right (length_decimalInt_le hn) 3)
    have hyear : (Calendar.dateTimeOf (ms / 1000)).year.natAbs < 10 ^ 10 := by
      show (Calendar.yearOfDay (ms / 1000 / 86400)).natAbs < 10 ^ 10
      unfold Calendar.yearOfDay
      simp only
      split_ifs <;> omega
    have hiso : (isoYear (Calendar.dateTimeOf (ms / 1000)).year).length ≤ 18 := by
      have hdigits := length_decimalInt_le hyear
      have hnegative := length_decimalInt_le (n := -(Calendar.dateTimeOf (ms / 1000)).year) (by omega)
      unfold isoYear
      split_ifs
      · exact (length_padStart_le _ _ _).trans (by omega)
      · exact Nat.succ_le_succ ((length_padStart_le _ _ _).trans (by omega))
      · exact Nat.succ_le_succ ((length_padStart_le _ _ _).trans (by omega))
    obtain ⟨hmonth, ⟨hday, hdays⟩, hhour, hminute, hsecond⟩ := Calendar.dateTimeOf_valid (ms / 1000)
    cases h
    generalize Calendar.dateTimeOf (ms / 1000) = d at *
    have hlast : d.day ≤ 366 := by
      have hfirst := @Calendar.daysBefore_mono (Calendar.isLeap d.year) _ _ hmonth.1
      have hend := @Calendar.daysBefore_mono (Calendar.isLeap d.year) (d.month + 1) 13 (by omega)
      have hzero : Calendar.daysBefore (Calendar.isLeap d.year) 1 = 0 := by cases Calendar.isLeap d.year <;> rfl
      rw [Calendar.daysBefore_thirteen] at hend
      split at hend <;> omega
    have h1 := hpad2 (n := d.month) (by omega)
    have h2 := hpad2 (n := d.day) (by omega)
    have h3 := hpad2 (n := d.hour) (by omega)
    have h4 := hpad2 (n := d.minute) (by omega)
    have h5 := hpad2 (n := d.second) (by omega)
    have h6 := hpad3 (n := ms % 1000) (by omega)
    have hone : (js "-").length = 1 ∧ (js "T").length = 1 ∧ (js ":").length = 1 ∧ (js ".").length = 1 ∧
        (js "Z").length = 1 := by decide
    simp only [List.length_append]
    omega
  · cases h

theorem conclusivelyFailed_short {transactionId validStart : JsString} {duration : Int} {l : ExactLookup}
    (h : exactLookup transactionId validStart duration = .ok l) {site : CommitSite} {target : ReservationState} :
    ∀ t ∈ some (conclusivelyFailed site target l.exact l.boundaryIso).text, t.length ≤ 2000 := by
  simp only [exactLookup, bind_eq_ok, pure_eq_ok] at h
  obtain ⟨exact, -, boundary, -, iso, hiso, rfl⟩ := h
  have hshort := toISOString_length hiso
  have hfixed : (js "Exact-transaction lookup found no record and validStart + validDuration + safety buffer elapsed at ").length
      ≤ 1000 := by decide
  intro t ht
  cases ht
  simp only [conclusivelyFailed, List.length_append]
  omega

/-- A response that names a transaction names the claimed one, in one form or the other. -/
theorem responseDiffers_false {result : FacilitatorSettleResult} {txId id : JsString}
    (h : responseDiffers result txId = .ok false) (hid : result.transactionId = some id) (hne : trim id ≠ []) :
    normalizeTxIdForm id = normalizeTxIdForm txId := by
  simp only [responseDiffers, hid, Option.map_some, if_neg hne, bind_eq_ok, pure_eq_ok, Bool.not_eq_false'] at h
  obtain ⟨same, hsame, rfl⟩ := h
  rw [← normalizeTxIdForm_trim id]
  exact normalizeTxIdForm_eq hsame

/-! ## Submission -/

theorem not_mem_of_none {α : Type} {o : Option α} (h : o = none) {a : α} (ha : a ∈ o) : False := by
  rw [h] at ha
  cases ha

theorem ne_nil_of_utc {t : JsString} (h : isUtcIsoTimestamp t) : t ≠ [] := by
  rintro rfl
  revert h
  decide

theorem not_truthy_of_none {o : Option JsString} (h : o = none) : ¬ truthy o := by
  rw [h]
  decide

theorem truthy_some {t : JsString} (h : t ≠ []) : truthy (some t) := by simpa [truthy] using h

/-- A change of state that needs no more than the state before it: only the state, the history, the time and the
failure change. -/
theorem Standing.moves (st : Standing deps auction w id cur) (hversion : cur.recordVersion < MAX_SAFE_INTEGER)
    {s t : ReservationState} (hstate : cur.state = s) (hreq : RequiresNoMore s t) {time : JsString}
    (htime : isUtcIsoTimestamp time ∧ ¬ isAfterUtc cur.createdAt time) {history : List StateTransitionRecord}
    {code reason : Option JsString} (hreason : ∀ x ∈ reason, x.length ≤ 2000) :
    Valid deps.crypto { cur with
      recordVersion := cur.recordVersion + 1, state := t, history := history, updatedAt := time, failureCode := code
      failureReason := reason } := by
  have hm := (st.meets_at hstate).weaken hreq
  exact valid_iff_shaped.mpr ⟨{ st.shaped.advance hversion with updated := htime, reason := hreason }, { hm with }⟩

theorem Standing.version (_ : Standing deps auction w id cur) (hok : ¬ Defective site cur next) :
    cur.recordVersion < MAX_SAFE_INTEGER := by
  by_contra hge
  exact hok (.version (Nat.le_of_not_lt hge))

theorem Standing.unreserved (st : Standing deps auction w id cur) {s : ReservationState} (hs : cur.state = s)
    (hmem : s ∉ POST_RESERVATION_STATES) : cur.routeReserved = none := by
  by_contra hne
  exact hmem (hs ▸ st.meets.reserved.mp (Option.isSome_iff_ne_none.mpr hne))

/-- A new challenge for the selected option. -/
theorem Standing.challenged (st : Standing deps auction w id cur) {selected : SelectedPaymentOption}
    {challenge : PaymentChallenge} {durable : PaymentChallengeRecord} {now time : JsString}
    (hversion : cur.recordVersion < MAX_SAFE_INTEGER) (hselected : cur.selected = some selected)
    (hnone : cur.paymentChallenge = none)
    (hdurable : createPaymentChallengeRecord deps.crypto selected challenge now = .ok durable)
    (htime : isUtcIsoTimestamp time ∧ ¬ isAfterUtc cur.createdAt time) {t : ReservationState}
    {history : List StateTransitionRecord}
    (hmeets : Meets t { cur with
      paymentChallenge := some durable, paymentChallengeHash := some durable.challengeHash }) :
    Valid deps.crypto { cur with
      recordVersion := cur.recordVersion + 1, state := t, history := history, updatedAt := time
      paymentChallenge := some durable, paymentChallengeHash := some durable.challengeHash } := by
  have hs := st.shaped.advance hversion
  refine valid_iff_shaped.mpr ⟨{ hs with updated := htime, challenge := ?_, unchallenged := ?_, claim := ?_ }, { hmeets with }⟩
  · intro ch hch
    cases hch
    exact ⟨selected, hselected, challenge_binds st.shaped hselected hdurable⟩
  · intro h
    cases h
  · -- a claim would have had its challenge already
    intro claim hclaim
    obtain ⟨s, -, hbinds⟩ := st.shaped.claim claim hclaim
    exact absurd hbinds.hashes.2 (st.shaped.unchallenged hnone)

theorem Standing.hash_truthy (st : Standing deps auction w id cur) (value : Json) : truthy (some (hashOf deps.crypto value)) := by
  refine truthy_some ?_
  intro hnil
  have hsha := isSha256_canonicalSha256 st.digest value
  rw [show canonicalSha256 deps.crypto.sha256Hex value = [] from hnil] at hsha
  exact absurd hsha (by decide)

theorem Standing.challengeHash_truthy (st : Standing deps auction w id cur) {selected : SelectedPaymentOption}
    {challenge : PaymentChallenge} {durable : PaymentChallengeRecord} {now : JsString}
    (hdurable : createPaymentChallengeRecord deps.crypto selected challenge now = .ok durable) :
    truthy (some durable.challengeHash) := by
  simp only [createPaymentChallengeRecord, bind_eq_ok, require_eq_ok, exists_const, pure_eq_ok] at hdurable
  obtain ⟨-, -, -, rfl⟩ := hdurable
  exact st.hash_truthy _

theorem Standing.selected (st : Standing deps auction w id cur) {input : SelectInput} {selected : SelectedPaymentOption}
    {now time : JsString} (hversion : cur.recordVersion < MAX_SAFE_INTEGER) (hfresh : cur.selected = none)
    (hselected : selectionOf deps cur input now = .ok selected)
    (htime : isUtcIsoTimestamp time ∧ ¬ isAfterUtc cur.createdAt time) {t : ReservationState}
    {history : List StateTransitionRecord} (hroute : cur.routeReserved = none)
    (hmeets : Meets t { cur with selected := some selected, attemptNumber := 1 }) :
    Valid deps.crypto { cur with
      recordVersion := cur.recordVersion + 1, state := t, history := history, updatedAt := time
      selected := some selected, attemptNumber := 1 } := by
  have hs := st.shaped.advance hversion
  have hunselected {p : SelectedPaymentOption → Prop} (h : ∃ s ∈ cur.selected, p s) : False := by
    obtain ⟨s, hmem, -⟩ := h
    rw [hfresh] at hmem
    cases hmem
  have hone : ((1 : Nat) : Int) ≤ MAX_SAFE_INTEGER := by decide
  refine valid_iff_shaped.mpr ⟨{ hs with
    attempt := hone, updated := htime, selection := ?_, challenge := ?_, claim := ?_, route := ?_ }, { hmeets with }⟩
  · intro s hmem
    cases hmem
    have hbinds := selectionOf_binds st.shaped hselected
    exact hbinds
  · intro ch hch
    exact (hunselected (st.shaped.challenge ch hch)).elim
  · intro claim hclaim
    exact (hunselected (st.shaped.claim claim hclaim)).elim
  · intro rr hrr
    exact (not_mem_of_none hroute hrr).elim

/-- The transaction of a claim is adopted: the record confirms it within a window. -/
theorem Standing.adopted (st : Standing deps auction w id cur) {claim : SettleClaim} {txId now deadline time : JsString}
    (hversion : cur.recordVersion < MAX_SAFE_INTEGER) (hstate : cur.state = facilitatorSettleClaimed)
    (hclaim : cur.settleClaim = some claim) (htx : txId ≠ [])
    (hsame : normalizeTxIdForm txId = normalizeTxIdForm claim.transactionId)
    (hwindow : isUtcIsoTimestamp now ∧ isUtcIsoTimestamp deadline ∧ isBeforeUtc now deadline)
    (htime : isUtcIsoTimestamp time ∧ ¬ isAfterUtc cur.createdAt time) :
    Valid deps.crypto { adoptedRecord cur txId now deadline with
      recordVersion := cur.recordVersion + 1, updatedAt := time } := by
  have hs := st.shaped.advance hversion
  have hm := st.meets_at hstate
  have hpoll := (st.unpolled hstate (by decide)).1
  have hroute := st.unreserved hstate (by decide)
  obtain ⟨s, hselected, hbinds⟩ := st.shaped.claim claim hclaim
  have hnew : cur.mirrorPoll.getD (newPoll txId now deadline) = newPoll txId now deadline := by rw [hpoll]; rfl
  refine valid_iff_shaped.mpr ⟨{ hs with
    updated := htime, client := ?_, claim := ?_, poll := ?_, due := fun _ => hwindow.2.1, route := ?_ },
    (?_ : Meets mirrorConfirmationPending _)⟩
  · intro t ht
    refine { st.shaped.client t ht with own := fun _ => ?_ }
    exact hsame.trans (hbinds.client t ht).symm
  · intro c hc
    obtain rfl : claim = c := Option.some.inj (hclaim.symm.trans hc)
    refine ⟨s, hselected, { hbinds.advance with reference := ?_ }⟩
    exact { hbinds.reference with own := fun _ => hsame }
  · intro p hp
    obtain rfl : newPoll txId now deadline = p := by rw [← hnew]; exact Option.some.inj hp
    exact ⟨hwindow.1, hwindow.2.1, hwindow.2.2, fun _ => rfl, Int.natCast_nonneg _, by simp [newPoll], rfl,
      by simp [newPoll], by simp [newPoll], by simp [newPoll]⟩
  · intro rr hrr
    exact (not_mem_of_none hroute hrr).elim
  · refine ⟨fun _ => hm.selected (by decide), fun _ => hm.challenged (by decide), fun _ => hm.submitted (by decide),
      fun _ => hm.verified (by decide), fun _ => hm.claimed (by decide), fun _ => ⟨truthy_some htx, ?_⟩,
      fun h => absurd h (by decide), fun _ => ⟨truthy_some (ne_nil_of_utc hwindow.2.1), rfl⟩,
      fun h => absurd h (by decide), hm.reserved.trans (by decide)⟩
    intro settle hsettle
    exact (not_mem_of_none (st.sound.unanswered (by rw [hstate]; decide)) hsettle).elim

/-- The texts of the settle failures fit. -/
theorem SettleFails.text_length {claim : SettleClaim} {selected : SelectedPaymentOption} {result : FacilitatorSettleResult}
    {f : SettleFailure} (h : SettleFails claim selected result f) (herror : ∀ t ∈ result.errorReason, t.length ≤ 1000) :
    f.text.length ≤ 2000 := by
  cases h with
  | refused =>
    show (result.errorReason.getD (js "success=false")).length ≤ 2000
    cases hreason : result.errorReason with
    | none => decide
    | some t => exact (herror t hreason).trans (by decide)
  | mismatch => decide
  | network => decide
  | payer => decide

theorem SubmissionChange.valid (h : SubmissionChange deps w site cur next) (st : Standing deps auction w id cur)
    (hok : ¬ Defective site cur next) : Valid deps.crypto { next with recordVersion := cur.recordVersion + 1 } := by
  have hversion := st.version hok
  have hs := st.shaped.advance hversion
  cases h with
  | @selectFirst _ input selected now hstate hnow hselected =>
    have hm := st.meets_at hstate
    refine st.selected hversion (st.sound.fresh hstate) hselected (st.time hnow) (st.unreserved hstate (by decide))
      (t := optionSelected) ?_
    exact ⟨fun _ => rfl, fun h => absurd h (by decide), fun h => absurd h (by decide), fun h => absurd h (by decide),
      fun h => absurd h (by decide), fun h => absurd h (by decide), fun h => absurd h (by decide),
      fun h => absurd h (by decide), fun h => absurd h (by decide), hm.reserved.trans (by decide)⟩
  | @selectAgain _ input selected now hunlocked hstate hnew hagain hnow hselected =>
    -- a selection that is there is the one asked for, and was not to be new
    have hfresh : cur.selected = none := by
      cases hsel : cur.selected with
      | none => rfl
      | some s =>
        exfalso
        have hbound := st.shaped.selection s hsel
        simp only [checkSelection, check_eq_ok, binding, require_eq_ok] at hbound
        simp only [checkReselection, hsel, provided_eq_ok, nullable_eq_ok, check_eq_ok, require_eq_ok, Option.mem_def,
          Option.some.injEq, forall_eq'] at hagain
        simp only [selectionOf, selectPaymentOption, bind_eq_ok, require_eq_ok, exists_const] at hselected
        obtain ⟨_, ⟨-, -, hinput, -⟩, -⟩ := hselected
        refine hnew ?_
        simp [alreadySelected, hsel, hstate, (hagain hstate).2, hbound.2.1, hinput]
    have hno {L : List ReservationState} (hL : ∀ t ∈ L, t ∈ REQUIRES_SELECTED) : cur.state ∉ L := by
      intro hmem
      have hsome := st.meets.selected (hL _ hmem)
      rw [hfresh] at hsome
      cases hsome
    have hroute : cur.routeReserved = none := st.unreserved rfl (hno (by decide))
    refine st.selected hversion hfresh hselected (st.time hnow) hroute ?_
    exact { st.meets with
      selected := fun _ => rfl
      submitted := fun h => absurd h (hno (by decide))
      paid := fun h => absurd h (hno (by decide))
      confirmed := fun h => absurd h (hno (by decide)) }
  | @challengeFirst _ selected challenge durable now hstate hselected hnone hnow hdurable =>
    have hm := st.meets_at hstate
    refine st.challenged hversion hselected hnone hdurable (st.time hnow) (t := paymentChallengeIssued) ?_
    exact ⟨fun _ => hm.selected (by decide), fun _ => ⟨rfl, st.challengeHash_truthy hdurable⟩, fun h => absurd h (by decide),
      fun h => absurd h (by decide), fun h => absurd h (by decide), fun h => absurd h (by decide),
      fun h => absurd h (by decide), fun h => absurd h (by decide), fun h => absurd h (by decide),
      hm.reserved.trans (by decide)⟩
  | @challengeAgain _ selected challenge durable now hstate hselected hnone hnow hdurable =>
    refine st.challenged hversion hselected hnone hdurable (st.time hnow) ?_
    exact { st.meets with challenged := fun _ => ⟨rfl, st.challengeHash_truthy hdurable⟩ }
  | @startSubmission _ input sub now hstate hselected hsub hnow =>
    have hm := st.meets_at hstate
    have hinput : isSha256 input.paymentPayloadHash ∧ isUtcIsoTimestamp sub.clientTx.validStartTimestamp := by
      by_contra hbad
      exact hok (.submission (by tauto))
    have hpayload : input.paymentPayloadHash ≠ [] := by
      intro hnil
      rw [hnil] at hinput
      exact absurd hinput.1 (by decide)
    have hparse : parseClientTransactionRef input.clientTransaction = .ok sub.clientTx := by
      simp only [submissionOf, bind_eq_ok, require_eq_ok, exists_const, pure_eq_ok] at hsub
      obtain ⟨clientTx, hparse, -, -, -, -, heq⟩ := hsub
      rw [hparse, ← congrArg Submission.clientTx heq]
    obtain ⟨hsdk, hshort⟩ := parseClientTransactionRef_spec hparse
    have htx := st.unsettled hstate (by decide)
    have hone : ((1 : Nat) : Int) ≤ MAX_SAFE_INTEGER := by decide
    refine valid_iff_shaped.mpr ⟨{ hs with
      attempt := hone, updated := st.time hnow, payload := fun _ => hinput.1, client := ?_, claim := ?_ },
      (?_ : Meets paymentSubmissionStarted _)⟩
    · intro t ht
      cases ht
      refine ⟨hsdk, hinput.2, hshort, ?_⟩
      exact fun htruthy => absurd htruthy (not_truthy_of_none htx)
    · intro claim hclaim
      exact (not_mem_of_none (st.sound.unclaimed (by rw [hstate]; decide)) hclaim).elim
    · exact ⟨fun _ => hm.selected (by decide), fun _ => hm.challenged (by decide),
        fun _ => ⟨truthy_some hpayload, rfl, rfl⟩, fun h => absurd h (by decide), fun h => absurd h (by decide),
        fun h => absurd h (by decide), fun h => absurd h (by decide), fun h => absurd h (by decide),
        fun h => absurd h (by decide), hm.reserved.trans (by decide)⟩
  | @rejectPayment _ selected result payloadHash challengeHash reason now hstate hinvalid hverified hnow =>
    have hm := (st.meets_at hstate).weaken (t := paymentRejected) (by decide)
    refine valid_iff_shaped.mpr ⟨{ hs with updated := st.time hnow, reason := ?_ }, (?_ : Meets paymentRejected _)⟩
    · intro text htext
      cases htext
      cases hreason : result.invalidReason with
      | none => decide
      | some t => exact (st.conforming.verify hverified t hreason).trans (by decide)
    · exact { hm with verified := fun h => absurd h (by decide) }
  | @verifyPayment _ result now hstate hvalid hnow =>
    have hm := st.meets_at hstate
    refine valid_iff_shaped.mpr ⟨{ hs with updated := st.time hnow }, (?_ : Meets facilitatorVerified _)⟩
    exact ⟨fun _ => hm.selected (by decide), fun _ => hm.challenged (by decide), fun _ => hm.submitted (by decide),
      fun _ => hvalid, fun h => absurd h (by decide), fun h => absurd h (by decide), fun h => absurd h (by decide),
      fun h => absurd h (by decide), fun h => absurd h (by decide), hm.reserved.trans (by decide)⟩
  | @claimSettle _ input sub attemptId now hstate hselected hparse hchallenge hnow huuid =>
    have hm := st.meets_at hstate
    have hsub := hm.submitted (by decide)
    have hinput : cur.paymentPayloadHash = some input.paymentPayloadHash ∧
        isUtcIsoTimestamp sub.clientTx.validStartTimestamp ∧ ∀ ref ∈ cur.clientTransaction,
          normalizeTxIdForm ref.transactionId = normalizeTxIdForm sub.clientTx.transactionId := by
      by_contra hbad
      refine hok (.claim ?_)
      by_contra hgood
      push Not at hgood
      exact hbad ⟨hgood.1, hgood.2.1, hgood.2.2⟩
    obtain ⟨hsdk, hshort⟩ := parseClientTransactionRef_spec hparse
    have htx := st.unsettled hstate (by decide)
    refine valid_iff_shaped.mpr ⟨{ hs with updated := st.time hnow, claim := ?_ }, (?_ : Meets facilitatorSettleClaimed _)⟩
    · intro claim hclaim
      cases hclaim
      refine ⟨sub.selected, hselected, ?_⟩
      refine ⟨⟨hsub.1, (hm.challenged (by decide)).2⟩, rfl, rfl, ⟨rfl, rfl, rfl, rfl, rfl⟩, hchallenge.symm, hinput.1.symm,
        ?_, ⟨hsdk, hinput.2.1, hshort, ?_⟩, hinput.2.2, hnow.utc, ?_, le_refl _⟩
      · show (if cur.attemptNumber = 0 then 1 else cur.attemptNumber) = cur.attemptNumber
        rw [hsub.2.1]
        rfl
      · exact fun htruthy => absurd htruthy (not_truthy_of_none htx)
      · show 1 ≤ ((cur.recordVersion + 1 : Nat) : Int) ∧ ((cur.recordVersion + 1 : Nat) : Int) ≤ MAX_SAFE_INTEGER
        omega
    · exact ⟨fun _ => hm.selected (by decide), fun _ => hm.challenged (by decide), fun _ => hsub,
        fun _ => hm.verified (by decide), fun _ => rfl, fun h => absurd h (by decide), fun h => absurd h (by decide),
        fun h => absurd h (by decide), fun h => absurd h (by decide), hm.reserved.trans (by decide)⟩
  | @failSettlement _ claim selected result f now hstate hclaim hselected hfails hsettled hnow =>
    have hm := st.meets_at hstate
    obtain ⟨payloadHash, challengeHash, hcall⟩ := hsettled
    have hreason : ∀ t ∈ some f.text, t.length ≤ 2000 := by
      intro t ht
      cases ht
      exact hfails.text_length (st.conforming.settle hcall)
    refine valid_iff_shaped.mpr ⟨{ hs with updated := st.time hnow, reason := hreason }, (?_ : Meets f.target _)⟩
    rcases hfails.target with ht | ht <;> rw [ht]
    · have hm := hm.weaken (t := settlementFailed) (by decide)
      exact { hm with paid := fun h => absurd h (by decide), settled := fun h => absurd h (by decide) }
    · have hm := hm.weaken (t := manualReviewRequired) (by decide)
      exact { hm with paid := fun h => absurd h (by decide), settled := fun h => absurd h (by decide) }
  | @settlePayment _ claim selected result txId now hstate hclaim hselected hsuccess htx hsame hnetwork hpayer hsettled
      hnow =>
    have hm := st.meets_at hstate
    have hroute := st.unreserved hstate (by decide)
    have hpoll := (st.unpolled hstate (by decide)).1
    obtain ⟨claimTx, hclaimTx, htrim, hne⟩ := requireTransactionIdForSettlement_eq_ok.mp htx
    cases hclaimTx
    have hform : normalizeTxIdForm txId = normalizeTxIdForm claim.transactionId := by
      rw [← htrim, normalizeTxIdForm_trim]
    obtain ⟨s, hs', hbinds⟩ := st.shaped.claim claim hclaim
    refine valid_iff_shaped.mpr ⟨{ hs with
      updated := st.time hnow, client := ?_, claim := ?_, poll := ?_, route := ?_ }, (?_ : Meets facilitatorSettled _)⟩
    · intro t ht
      exact { st.shaped.client t ht with own := fun _ => hform.trans (hbinds.client t ht).symm }
    · intro c hc
      obtain rfl : claim = c := Option.some.inj (hclaim.symm.trans hc)
      exact ⟨s, hs', { hbinds.advance with reference := { hbinds.reference with own := fun _ => hform } }⟩
    · intro p hp
      exact (not_mem_of_none hpoll hp).elim
    · intro rr hrr
      exact (not_mem_of_none hroute hrr).elim
    · refine ⟨fun _ => hm.selected (by decide), fun _ => hm.challenged (by decide), fun _ => hm.submitted (by decide),
        fun _ => hm.verified (by decide), fun _ => hm.claimed (by decide), fun _ => ⟨truthy_some hne, ?_⟩, fun _ => hsuccess,
        fun h => absurd h (by decide), fun h => absurd h (by decide), hm.reserved.trans (by decide)⟩
      intro settle hsettle
      cases hsettle
      refine ⟨?_, ?_, ?_⟩
      · intro _ id hid
        by_cases hblank : trim id = []
        · exact absurd (.blankResponse hid hblank) hok
        · exact responseDiffers_false hsame hid hblank
      · intro s hs _
        rw [hnetwork, Option.some.inj (hselected.symm.trans hs)]
      · intro s hs _
        rw [hpayer, Option.some.inj (hselected.symm.trans hs)]
  | @unauthorizedSettlement _ ref l start mirror now hstate href hl hlooked hsuccess hnow =>
    have hreason : ∀ t ∈ some (Reservation.unauthorizedSettlement l.exact).text, t.length ≤ 2000 := by
      intro t ht
      cases ht
      exact Nat.le_of_not_lt fun hlong => hok (.longTransaction rfl hlong)
    rcases hstate with hstate | hstate
    · exact st.moves hversion hstate (t := manualReviewRequired) (by decide) (st.time hnow) hreason
    · exact st.moves hversion hstate (t := manualReviewRequired) (by decide) (st.time hnow) hreason
  | @preClaimFailed _ ref l start mirror now hstate href hl hlooked hfailed hnow =>
    have hreason : ∀ t ∈ some (foundFailed .preClaimFailed (preClaimTarget cur) l.exact mirror.result).text,
        t.length ≤ 2000 := by
      intro t ht
      cases ht
      exact Nat.le_of_not_lt fun hlong => hok (.longResult (by decide) rfl hlong)
    rcases hstate with hstate | hstate
    · refine st.moves hversion hstate (t := preClaimTarget cur) ?_ (st.time hnow) hreason
      rw [show preClaimTarget cur = paymentRejected by simp [preClaimTarget, hstate]]
      decide
    · exact absurd (.unclaimed (by decide) hstate) hok
  | @preClaimConclusive _ ref l now hstate href hl hfound hnow =>
    rcases hstate with hstate | hstate
    · refine st.moves hversion hstate (t := preClaimTarget cur) ?_ (st.time hnow) (conclusivelyFailed_short hl)
      rw [show preClaimTarget cur = paymentRejected by simp [preClaimTarget, hstate]]
      decide
    · exact absurd (.unclaimed (by decide) hstate) hok
  | @adopt _ claim l start mirror now deadline updatedAt hstate hclaim hl hlooked hsuccess hsystem hdeadline hupdated =>
    obtain ⟨hexact, hne⟩ := exactLookup_exact hl
    have hpoll := (st.unpolled hstate (by decide)).1
    refine st.adopted hversion hstate hclaim hne (by rw [hexact, normalizeTxIdForm_trim]) ?_ (st.time hupdated)
    by_contra hbad
    refine hok (.adoptedWindow (t := l.exact) (by decide) ?_ hbad)
    show some (cur.mirrorPoll.getD (newPoll l.exact now deadline)) = some (newPoll l.exact now deadline)
    rw [hpoll]
    rfl
  | @claimedFailed _ claim l start mirror now hstate hclaim hl hlooked hfailed hnow =>
    have hm := (st.meets_at hstate).weaken (t := settlementFailed) (by decide)
    have hroute := st.unreserved hstate (by decide)
    refine valid_iff_shaped.mpr ⟨{ hs with updated := st.time hnow, route := ?_, reason := ?_ },
      (?_ : Meets settlementFailed _)⟩
    · intro rr hrr
      exact (not_mem_of_none hroute hrr).elim
    · intro t ht
      cases ht
      exact Nat.le_of_not_lt fun hlong => hok (.longResult (t := settlementFailed) (by decide) rfl hlong)
    · exact { hm with confirmed := fun h => absurd h (by decide) }
  | @claimedConclusive _ claim l now hstate hclaim hl hfound hnow =>
    exact st.moves hversion hstate (t := settlementFailed) (by decide) (st.time hnow) (conclusivelyFailed_short hl)
  | @authorizeReplacement _ now hstate hcode hnow =>
    have hpost : cur.state ∉ POST_RESERVATION_STATES := by
      rcases hstate with hstate | hstate <;> rw [hstate] <;> decide
    have hroute := st.unreserved rfl hpost
    have hzero : ((0 : Nat) : Int) ≤ MAX_SAFE_INTEGER := by decide
    refine valid_iff_shaped.mpr ⟨{ hs with
      attempt := hzero, updated := st.time hnow, selection := ?_, challenge := ?_, unchallenged := fun _ => not_truthy_of_none rfl
      payload := ?_, client := ?_, claim := ?_, poll := ?_, due := ?_, route := ?_, reason := ?_ },
      (?_ : Meets offerCreated _)⟩
    · exact fun s hs => (not_mem_of_none rfl hs).elim
    · exact fun ch hch => (not_mem_of_none rfl hch).elim
    · exact fun h => absurd h (not_truthy_of_none rfl)
    · exact fun t ht => (not_mem_of_none rfl ht).elim
    · exact fun claim hclaim => (not_mem_of_none rfl hclaim).elim
    · exact fun p hp => (not_mem_of_none rfl hp).elim
    · exact fun h => absurd h (not_truthy_of_none rfl)
    · exact fun rr hrr => (not_mem_of_none hroute hrr).elim
    · exact fun t ht => (not_mem_of_none rfl ht).elim
    · refine ⟨fun h => absurd h (by decide), fun h => absurd h (by decide), fun h => absurd h (by decide),
        fun h => absurd h (by decide), fun h => absurd h (by decide), fun h => absurd h (by decide),
        fun h => absurd h (by decide), fun h => absurd h (by decide), fun h => absurd h (by decide), ?_⟩
      show cur.routeReserved.isSome ↔ offerCreated ∈ POST_RESERVATION_STATES
      rw [hroute]
      decide
  | @recoverAdopt _ txId now deadline hstate htx hsystem hdeadline =>
    have hpoll := (st.unpolled hstate (by decide)).1
    obtain ⟨claim, hclaim⟩ := Option.isSome_iff_exists.mp ((st.meets_at hstate).claimed (by decide))
    have hwindow : isUtcIsoTimestamp now ∧ isUtcIsoTimestamp deadline ∧ isBeforeUtc now deadline := by
      by_contra hbad
      refine hok (.adoptedWindow (t := txId) (by decide) ?_ hbad)
      show some (cur.mirrorPoll.getD (newPoll txId now deadline)) = some (newPoll txId now deadline)
      rw [hpoll]
      rfl
    refine st.adopted hversion hstate hclaim htx ?_ hwindow ⟨hwindow.1, st.systemTime hsystem⟩
    by_contra hother
    exact hok (.foreignTransaction hclaim hother)
  | recoverSubmitted hambiguous =>
    -- a valid record in these states has the transaction id that the recovery misses
    exfalso
    rcases hambiguous with ⟨hstate, hnone⟩ | ⟨hstate, hnone⟩
    · obtain ⟨claim, hclaim⟩ := Option.isSome_iff_exists.mp ((st.meets_at hstate).claimed (by decide))
      obtain ⟨s, -, hbinds⟩ := st.shaped.claim claim hclaim
      exact hnone (by simpa [hclaim] using ne_nil_of_sdk hbinds.reference.sdk)
    · have hsub : cur.clientTransaction.isSome := by
        rcases hstate with hstate | hstate
        · exact ((st.meets_at hstate).submitted (by decide)).2.2
        · exact ((st.meets_at hstate).submitted (by decide)).2.2
      obtain ⟨ref, href⟩ := Option.isSome_iff_exists.mp hsub
      exact hnone (by simpa [href] using ne_nil_of_sdk (st.shaped.client ref href).sdk)

/-! ## Confirmation -/

theorem durableDeadline_eq_ok {r : ReservationRecord} {deadline : JsString} :
    durableDeadline r = .ok deadline ↔
      (r.confirmationDeadline <|> r.mirrorPoll.map MirrorPollRecord.confirmationDeadline) = some deadline ∧
        deadline ≠ [] := by
  unfold durableDeadline
  generalize (r.confirmationDeadline <|> r.mirrorPoll.map MirrorPollRecord.confirmationDeadline) = first
  cases first with
  | none => simp
  | some d =>
    simp only [check_eq_ok, require_eq_ok, pure_eq_ok, Option.some.injEq]
    constructor
    · rintro ⟨hne, rfl⟩
      exact ⟨rfl, hne⟩
    · rintro ⟨rfl, hne⟩
      exact ⟨hne, rfl⟩

/-- The deadline a confirmation works with is a valid one, after the one start of the confirmation. -/
theorem Standing.deadline (st : Standing deps auction w id cur) {r : ReservationRecord} (hr : r ∈ versions w id)
    {deadline : JsString} (hdeadline : durableDeadline r = .ok deadline) {p : MirrorPollRecord}
    (hp : cur.mirrorPoll = some p) : isUtcIsoTimestamp deadline ∧ isBeforeUtc p.confirmationStartedAt deadline := by
  have hsound := st.lawful.sound hr
  obtain ⟨q, hq⟩ := Option.isSome_iff_exists.mp (hsound.poll_of_deadline hdeadline)
  have hbinds := (valid_iff_shaped.mp (st.lawful.valid hr)).1.poll q hq
  have hsame : deadline = q.confirmationDeadline := by
    obtain ⟨hfirst, hne⟩ := durableDeadline_eq_ok.mp hdeadline
    rw [hq] at hfirst
    cases hd : r.confirmationDeadline with
    | none =>
      rw [hd] at hfirst
      exact (Option.some.inj hfirst).symm
    | some d =>
      rw [hd] at hfirst
      cases hfirst
      have hmatch := hbinds.deadline (by rw [hd]; exact truthy_some hne)
      rw [hd] at hmatch
      exact Option.some.inj hmatch
  rw [hsame, st.lawful.startedAt_eq hr st.known hq hp]
  exact ⟨hbinds.due, hbinds.window⟩

theorem polledTimestamp_utc {answer : Except ServiceError MirrorConfirmation} {prior : Option MirrorPollRecord}
    (hprior : ∀ p ∈ prior, ∀ t ∈ p.consensusTimestamp, isUtcIsoTimestamp t) :
    ∀ t ∈ polledTimestamp answer prior, isUtcIsoTimestamp t := by
  have hbefore : ∀ t ∈ prior.bind MirrorPollRecord.consensusTimestamp, isUtcIsoTimestamp t := by
    intro t ht
    obtain ⟨p, hp, hpt⟩ := Option.bind_eq_some_iff.mp ht
    exact hprior p hp t hpt
  intro t ht
  unfold polledTimestamp at ht
  split at ht
  · next ts _ =>
    split at ht
    · next hutc =>
      cases ht
      exact hutc
    · exact hbefore t ht
  · exact hbefore t ht

/-- What a round leaves of its poll fits the record it goes on with. -/
theorem Standing.pollOf_binds (st : Standing deps auction w id cur) {before : ReservationRecord}
    {txId deadline pollAt : JsString} {answer : Except ServiceError MirrorConfirmation}
    (hpolled : Polled w cur before txId deadline pollAt answer)
    (hcount : (pollOf before txId deadline pollAt answer).pollAttemptCount ≤ MAX_SAFE_INTEGER) :
    PollBinds (pollOf before txId deadline pollAt answer) txId (some deadline) := by
  have hid := st.lawful.reservationId_eq st.known
  have hloaded := hpolled.loaded
  obtain ⟨r, hr, -, hdeadline⟩ := hpolled.durable
  obtain ⟨start, hlooked⟩ := hpolled.looked
  have hpending := hpolled.pending st.lawful fun r hr => st.lawful.sound hr
  rw [hid] at hloaded hr
  have stBefore : Standing deps auction w id before := ⟨st.digest, st.lawful, st.conforming, hloaded⟩
  obtain ⟨p, hp⟩ := Option.isSome_iff_exists.mp ((stBefore.meets_at hpending).polled (by decide)).2
  have hbinds := stBefore.shaped.poll p hp
  obtain ⟨hdue, hwindow⟩ := stBefore.deadline hr hdeadline hp
  have hstart : (pollOf before txId deadline pollAt answer).confirmationStartedAt = p.confirmationStartedAt := by
    simp [pollOf, hp]
  refine ⟨?_, hdue, ?_, fun _ => rfl, by exact_mod_cast hcount, ?_, rfl, ?_, ?_, ?_⟩
  · rw [hstart]
    exact hbinds.started
  · rw [hstart]
    exact hwindow
  · intro t ht
    cases ht
    exact hpolled.time.utc
  · intro e he
    cases answer with
    | ok mirror => cases he
    | error error =>
      cases he
      exact st.conforming.mirror hlooked
  · intro code hcode
    cases answer with
    | ok mirror => cases hcode
    | error error =>
      cases hcode
      decide
  · refine polledTimestamp_utc ?_
    intro q hq
    rw [hp] at hq
    cases hq
    exact hbinds.consensus

/-- A transition keeps the time of the record, or writes a later one. -/
theorem Standing.movedTime (st : Standing deps auction w id cur) {base mid : ReservationRecord} {t : ReservationState}
    (hmoved : Moved w base t mid) (hbase : isUtcIsoTimestamp base.updatedAt ∧ ¬ isAfterUtc cur.createdAt base.updatedAt) :
    isUtcIsoTimestamp mid.updatedAt ∧ ¬ isAfterUtc cur.createdAt mid.updatedAt := by
  cases hmoved with
  | stays => exact hbase
  | enters hne hlegal reason time htime => exact st.time htime

/-- The end of a confirmation, with the poll it ends with. -/
theorem Standing.ends (st : Standing deps auction w id cur) (hversion : cur.recordVersion < MAX_SAFE_INTEGER)
    {t : ReservationState} (ht : t ∈ [confirmationFailed, confirmationTimedOut]) {mid : ReservationRecord}
    (hmoved : Moved w cur t mid) {poll : MirrorPollRecord} {txId : JsString} (htx : cur.transactionId = some txId)
    (hpoll : PollBinds poll txId cur.confirmationDeadline) {mirror : Option MirrorConfirmation}
    {code reason : Option JsString} (hreason : ∀ x ∈ reason, x.length ≤ 2000) :
    Valid deps.crypto { mid with
      recordVersion := cur.recordVersion + 1, failureCode := code, failureReason := reason
      mirrorConfirmation := mirror, mirrorPoll := some poll } := by
  have hs := st.shaped.advance hversion
  have htime := st.movedTime hmoved st.shaped.updated
  obtain ⟨hstate, hform⟩ := hmoved.rest
  have hm : Meets t cur := by
    rcases hmoved.source (by revert ht; cases t <;> decide) with hs | hs
    · exact st.meets_at hs
    · exact (st.meets_at hs).weaken (by revert ht; cases t <;> decide)
  have hpost : t ∉ POST_RESERVATION_STATES := by revert ht; cases t <;> decide
  have hunconfirmed : t ∉ REQUIRES_MIRROR_SUCCESS := by revert ht; cases t <;> decide
  have hpolls : t ∈ REQUIRES_MIRROR_POLL := by revert ht; cases t <;> decide
  have hroute : cur.routeReserved = none := by
    by_contra hne
    exact hpost (hm.reserved.mp (Option.isSome_iff_ne_none.mpr hne))
  rw [hform]
  refine valid_iff_shaped.mpr ⟨{ hs with updated := htime, poll := ?_, route := ?_, reason := hreason }, ?_⟩
  · intro p hp
    cases hp
    rw [show cur.transactionId.getD poll.transactionId = txId by rw [htx]; rfl]
    exact hpoll
  · intro rr hrr
    exact (not_mem_of_none hroute hrr).elim
  · show Meets mid.state _
    rw [hstate]
    exact { hm with polled := fun h => ⟨(hm.polled h).1, rfl⟩, confirmed := fun h => absurd h hunconfirmed }

/-- The reasons to refuse the recovery of a timed-out confirmation. -/
def RECOVERY_REFUSALS : List String :=
  ["no settled transaction ID", "no selected option", "no durable settle claim", "no successful facilitator settlement",
   "settlement transaction ID mismatch", "payment payload fingerprint changed",
   "settle claim no longer matches selected option", "mirror poll transaction ID mismatch"]

/-- A recovery is refused for one of these reasons; it goes on only after a successful settlement. -/
theorem assess_cases {record : ReservationRecord} {verdict : Option String}
    (h : assessTimedOutConfirmationRecovery record = .ok verdict) :
    (∀ reason ∈ verdict, reason ∈ RECOVERY_REFUSALS) ∧ (verdict = none → record.facilitatorSettle.isSome) := by
  have refuse (reason : String) (hmem : reason ∈ RECOVERY_REFUSALS) :
      (∀ r ∈ some reason, r ∈ RECOVERY_REFUSALS) ∧ (some reason = none → record.facilitatorSettle.isSome) := by
    refine ⟨?_, fun h => by cases h⟩
    rintro r ⟨⟩
    exact hmem
  unfold assessTimedOutConfirmationRecovery at h
  split at h
  · cases h
    exact refuse _ (by decide)
  · split at h
    · cases h
      exact refuse _ (by decide)
    · cases h
      exact refuse _ (by decide)
    · cases h
      exact refuse _ (by decide)
    · next selected claim settle hselected hclaim hsettle =>
      have hsome : record.facilitatorSettle.isSome := by rw [hsettle]; rfl
      simp only at h
      split at h
      · cases h
        exact refuse _ (by decide)
      · obtain ⟨same, -, h⟩ := bind_eq_ok.mp h
        split at h
        · cases h
          exact refuse _ (by decide)
        · split at h
          · cases h
            exact refuse _ (by decide)
          · split at h
            · cases h
              exact refuse _ (by decide)
            · split at h
              · cases h
                exact ⟨by simp, fun _ => hsome⟩
              · obtain ⟨polled, -, h⟩ := bind_eq_ok.mp h
                split at h
                · cases h
                  exact ⟨by simp, fun _ => hsome⟩
                · cases h
                  exact refuse _ (by decide)

/-- A confirmed payment, with the poll that verified it. -/
theorem Standing.confirmed (st : Standing deps auction w id cur) (hversion : cur.recordVersion < MAX_SAFE_INTEGER)
    {t : ReservationState} (ht : t = paymentConfirmed) {time : JsString}
    (htime : isUtcIsoTimestamp time ∧ ¬ isAfterUtc cur.createdAt time)
    (hsource : cur.state = paymentConfirmed ∨ cur.state = mirrorConfirmationPending) {poll : MirrorPollRecord}
    {txId : JsString} (htx : cur.transactionId = some txId) {selected : SelectedPaymentOption}
    (hselected : cur.selected = some selected) (hpoll : PollBinds poll txId cur.confirmationDeadline)
    {mirror : MirrorConfirmation} {v : VerifiedPaymentResult} (hverified : verifySuccess selected mirror txId = .ok v)
    {history : List StateTransitionRecord} :
    Valid deps.crypto { cur with
      recordVersion := cur.recordVersion + 1, state := t, history := history, updatedAt := time
      mirrorConfirmation := some mirror, mirrorPoll := some (successPoll poll v) } := by
  have hs := st.shaped.advance hversion
  have hm : Meets mirrorConfirmationPending cur := by
    rcases hsource with hs | hs
    · exact (st.meets_at hs).weaken (by decide)
    · exact st.meets_at hs
  have hroute : cur.routeReserved = none := by
    by_contra hne
    exact absurd (hm.reserved.mp (Option.isSome_iff_ne_none.mpr hne)) (by decide)
  obtain ⟨hsuccess, hexact, -, hresult, hconsensus, hutc, hv⟩ := verifyMirrorPayment_spec (verifySuccess_spec hverified)
  subst ht
  refine valid_iff_shaped.mpr ⟨{ hs with updated := htime, poll := ?_, route := ?_ }, (?_ : Meets paymentConfirmed _)⟩
  · intro p hp
    cases hp
    rw [show cur.transactionId.getD (successPoll poll v).transactionId = txId by rw [htx]; rfl]
    refine { hpoll with error := by simp [successPoll], code := by simp [successPoll], consensus := ?_ }
    intro c hc
    cases hc
    exact hutc
  · intro rr hrr
    exact (not_mem_of_none hroute hrr).elim
  · refine ⟨fun _ => hm.selected (by decide), fun _ => hm.challenged (by decide), fun _ => hm.submitted (by decide),
      fun _ => hm.verified (by decide), fun _ => hm.claimed (by decide), fun _ => hm.paid (by decide),
      fun h => absurd h (by decide), fun _ => ⟨(hm.polled (by decide)).1, rfl⟩, fun _ => ⟨mirror, rfl, ?_⟩,
      hm.reserved.trans (by decide)⟩
    refine ⟨hsuccess, hresult, ?_, ?_, ?_⟩
    · rw [hexact]
      exact htx.symm
    · rw [hconsensus]
      exact hutc
    · intro p hp vt hvt s hs
      cases hp
      cases hvt
      obtain rfl : selected = s := Option.some.inj (hselected.symm.trans hs)
      rw [hv]
      rfl

/-- The route of a confirmed payment is reserved. -/
theorem Standing.reserves (st : Standing deps auction w id cur) (hversion : cur.recordVersion < MAX_SAFE_INTEGER)
    (hstate : cur.state = paymentConfirmed) {time : JsString}
    (htime : isUtcIsoTimestamp time ∧ ¬ isAfterUtc cur.createdAt time) {txId : JsString}
    (htx : cur.transactionId = some txId) {selected : SelectedPaymentOption} (hselected : cur.selected = some selected)
    {mirror : MirrorConfirmation} (hmirror : cur.mirrorConfirmation = some mirror) {v : VerifiedPaymentResult}
    (hverified : verifySuccess selected mirror txId = .ok v) {rr : RouteReservedRecord}
    (hreserved : createRouteReservedRecord deps.crypto (routeReservedOf cur selected txId v.consensusTimestamp) = .ok rr)
    {history : List StateTransitionRecord} :
    Valid deps.crypto { cur with
      recordVersion := cur.recordVersion + 1, state := routeReserved, history := history, updatedAt := time
      routeReserved := some rr } := by
  have hs := st.shaped.advance hversion
  have hm := st.meets_at hstate
  have hnone := st.unreserved hstate (by decide)
  have hempty : cur.webhookEvents = [] ∧ cur.webhooks = [] := by
    by_contra hne
    have hsome := st.shaped.outboxed (by tauto)
    rw [hnone] at hsome
    cases hsome
  have hclaim : cur.hcsPublicationClaim = none := by
    have hhcs := st.shaped.hcs
    unfold checkHcs at hhcs
    cases hc : cur.hcsPublicationClaim with
    | none => rfl
    | some claim =>
      rw [hc, hnone] at hhcs
      cases hhcs
  obtain ⟨-, -, -, -, hconsensus, -⟩ := verifyMirrorPayment_spec (verifySuccess_spec hverified)
  obtain ⟨hrr, hhash⟩ := createRouteReservedRecord_spec hreserved
  refine valid_iff_shaped.mpr ⟨{ hs with
    updated := htime, route := ?_, outboxed := fun _ => rfl, events := ?_, deliveries := ?_, hcs := ?_ },
    (?_ : Meets routeReserved _)⟩
  · intro route hroute
    cases hroute
    simp only [checkRoute, check_eq_ok, binding, require_eq_ok, nullable_eq_ok, provided_eq_ok, hselected, hmirror, htx]
    rw [hrr] at hhash ⊢
    refine ⟨hhash, rfl, rfl, rfl, rfl, rfl, rfl, rfl, rfl, ?_, rfl, ?_, rfl, rfl, rfl, rfl⟩
    · intro s hs
      cases hs
      exact ⟨rfl, rfl, rfl, rfl⟩
    · intro m hm
      cases hm
      exact fun _ => ⟨hconsensus.symm, hconsensus.symm⟩
  · show eachAfter _ [] cur.webhookEvents = .ok ()
    rw [hempty.1]
    rfl
  · show each _ cur.webhooks = .ok ()
    rw [hempty.2]
    rfl
  · unfold checkHcs
    rw [show ReservationRecord.hcsPublicationClaim _ = cur.hcsPublicationClaim from rfl, hclaim]
    rfl
  · have hpost : routeReserved ∈ POST_RESERVATION_STATES := by decide
    exact ⟨fun _ => hm.selected (by decide), fun _ => hm.challenged (by decide), fun _ => hm.submitted (by decide),
      fun _ => hm.verified (by decide), fun _ => hm.claimed (by decide), fun _ => hm.paid (by decide),
      fun h => absurd h (by decide), fun _ => hm.polled (by decide), fun _ => hm.confirmed (by decide),
      ⟨fun _ => hpost, fun _ => rfl⟩⟩

theorem ConfirmationChange.valid (h : ConfirmationChange deps w site cur next) (st : Standing deps auction w id cur)
    (hok : ¬ Defective site cur next) : Valid deps.crypto { next with recordVersion := cur.recordVersion + 1 } := by
  have hversion := st.version hok
  have hs := st.shaped.advance hversion
  cases h with
  | @beginConfirmation _ txId now deadline hstate htx hnow hdeadline =>
    have hm := st.meets_at hstate
    obtain ⟨hpoll, hnone⟩ := st.unpolled hstate (by decide)
    obtain ⟨tx, hcur, htrim, hne⟩ := requireTransactionIdForSettlement_eq_ok.mp htx
    have hsettle : cur.facilitatorSettle.isSome := by
      have hany := hm.settled rfl
      cases hfs : cur.facilitatorSettle with
      | none => rw [hfs] at hany; cases hany
      | some _ => rfl
    have heq : tx = txId := (st.sound.trimmed hsettle tx hcur).symm.trans htrim
    have hstart : startingPoll cur txId now deadline = newPoll txId now deadline := by
      unfold startingPoll
      rw [hpoll, hnone]
      rfl
    have hwindow : isUtcIsoTimestamp deadline ∧ isBeforeUtc now deadline := by
      by_contra hbad
      exact hok (.window hbad)
    have hbinds : PollBinds (newPoll txId now deadline) txId (some deadline) :=
      ⟨hnow.utc, hwindow.1, hwindow.2, fun _ => rfl, Int.natCast_nonneg _, by simp [newPoll], rfl, by simp [newPoll],
        by simp [newPoll], by simp [newPoll]⟩
    unfold confirmingRecord
    rw [hstart]
    refine valid_iff_shaped.mpr ⟨{ hs with updated := st.time hnow, poll := ?_, due := fun _ => hwindow.1 },
      (?_ : Meets mirrorConfirmationPending _)⟩
    · intro p hp
      cases hp
      show PollBinds _ (cur.transactionId.getD txId) (some deadline)
      rw [hcur, heq]
      exact hbinds
    · exact ⟨fun _ => hm.selected (by decide), fun _ => hm.challenged (by decide), fun _ => hm.submitted (by decide),
        fun _ => hm.verified (by decide), fun _ => hm.claimed (by decide), fun _ => hm.paid (by decide),
        fun h => absurd h (by decide), fun _ => ⟨truthy_some (ne_nil_of_utc hwindow.1), rfl⟩,
        fun h => absurd h (by decide), hm.reserved.trans (by decide)⟩
  | renewDeadline hstate hmissing => exact absurd ((st.meets_at hstate).polled (by decide)).1 hmissing
  | rebuildPoll hstate hmissing =>
    have hsome := ((st.meets_at hstate).polled (by decide)).2
    rw [hmissing] at hsome
    cases hsome
  | @poll _ txId deadline pollAt answer hpolled =>
    have hpending : cur.state = mirrorConfirmationPending := hpolled.pending st.lawful fun r hr => st.lawful.sound hr
    have hcount : (pollOf cur txId deadline pollAt answer).pollAttemptCount ≤ MAX_SAFE_INTEGER :=
      Nat.le_of_not_lt fun hlt => hok (.pollCount (by decide) rfl hlt)
    have hbinds := st.pollOf_binds hpolled hcount
    have hroute := st.unreserved hpending (by decide)
    refine valid_iff_shaped.mpr ⟨{ hs with
      updated := st.time hpolled.time, poll := ?_, due := fun _ => hbinds.due, route := ?_ }, (?_ : Meets cur.state _)⟩
    · intro p hp
      cases hp
      show PollBinds _ (cur.transactionId.getD txId) (some deadline)
      rw [hpolled.tx]
      exact hbinds
    · intro rr hrr
      exact (not_mem_of_none hroute hrr).elim
    · exact { st.meets with
        polled := fun _ => ⟨truthy_some (ne_nil_of_utc hbinds.due), rfl⟩
        confirmed := fun h => absurd (hpending ▸ h) (by decide) }
  | @mirrorFailed _ before mid txId deadline pollAt mirror hmoved hpolled hfailed =>
    have hbinds := st.pollOf_binds hpolled (Nat.le_of_not_lt fun hlt => hok (.pollCount (by decide) rfl hlt))
    have hdeadline : cur.confirmationDeadline = some deadline := by
      by_contra hne
      exact hok (.otherDeadline (by decide) rfl hne)
    rw [← hdeadline] at hbinds
    refine st.ends hversion (by decide) hmoved hpolled.tx hbinds ?_
    intro text htext
    cases htext
    decide
  | @confirm _ before mid selected txId deadline pollAt updatedAt mirror v hmoved hpolled hselected hverified hupdated =>
    obtain ⟨hstate, hform⟩ := hmoved.rest
    have hnext : next.mirrorPoll = some (successPoll (pollOf before txId deadline pollAt (.ok mirror)) v) := by rw [hform]
    have hbinds := st.pollOf_binds hpolled (Nat.le_of_not_lt fun hlt => hok (.pollCount (by decide) hnext hlt))
    have hdeadline : cur.confirmationDeadline = some deadline := by
      by_contra hne
      exact hok (.otherDeadline (by decide) hnext hne)
    rw [← hdeadline] at hbinds
    rw [hform]
    exact st.confirmed hversion hstate (st.movedTime hmoved (st.time hupdated)) (hmoved.source (by decide)) hpolled.tx
      hselected hbinds hverified
  | @failConfirmation _ before mid selected txId deadline pollAt mirror e hmoved hpolled hselected hsuccess hcause =>
    have hbinds := st.pollOf_binds hpolled (Nat.le_of_not_lt fun hlt => hok (.pollCount (by decide) rfl hlt))
    have hdeadline : cur.confirmationDeadline = some deadline := by
      by_contra hne
      exact hok (.otherDeadline (by decide) rfl hne)
    have hshort : e.message.length ≤ 1000 ∧ (e.code?.getD (js "PAYMENT_VERIFY_FAILED")).length ≤ 128 := by
      by_contra hlong
      refine hok (.longError rfl rfl ?_)
      omega
    rw [← hdeadline] at hbinds
    have hfailed : PollBinds (failedPoll (pollOf before txId deadline pollAt (.ok mirror)) e) txId
        cur.confirmationDeadline := by
      refine { hbinds with error := ?_, code := ?_ }
      · intro text htext
        cases htext
        exact hshort.1
      · intro text htext
        cases htext
        exact hshort.2
    refine st.ends hversion (by decide) hmoved hpolled.tx hfailed ?_
    intro text htext
    cases htext
    exact hshort.1.trans (by decide)
  | @timeOut _ before mid txId deadline pollAt answer hmoved hpolled =>
    have hbinds := st.pollOf_binds hpolled (Nat.le_of_not_lt fun hlt => hok (.pollCount (by decide) rfl hlt))
    have hdeadline : cur.confirmationDeadline = some deadline := by
      by_contra hne
      exact hok (.otherDeadline (by decide) rfl hne)
    rw [← hdeadline] at hbinds
    refine st.ends hversion (by decide) hmoved hpolled.tx hbinds ?_
    intro text htext
    cases htext
    obtain ⟨start, hlooked⟩ := hpolled.looked
    cases answer with
    | ok mirror =>
      have hstatus : ∀ s : MirrorStatus, (js "Mirror " ++ s.text ++
          js " until confirmation deadline — no settle retry; no asset fallback").length ≤ 2000 := by
        intro s
        cases s <;> decide
      exact hstatus mirror.status
    | error e =>
      have hmessage := st.conforming.mirror hlooked
      have hfixed : (js "Mirror transport errors until deadline: ").length ≤ 1000 := by decide
      simp only [timeoutReason, List.length_append]
      omega
  | @pollBound _ mid hmoved =>
    have hm : Meets confirmationTimedOut cur := by
      rcases hmoved.source (by decide) with hs | hs
      · exact st.meets_at hs
      · exact (st.meets_at hs).weaken (by decide)
    have htime := st.movedTime hmoved st.shaped.updated
    obtain ⟨hstate, hform⟩ := hmoved.rest
    rw [hform]
    refine valid_iff_shaped.mpr ⟨{ hs with updated := htime, reason := ?_ }, ?_⟩
    · intro text htext
      cases htext
      decide
    · show Meets mid.state _
      rw [hstate]
      exact { hm with }
  | @reserve _ selected txId now mirror v rr hstate htx hselected hmirror hverified hreserved hnow =>
    exact st.reserves hversion hstate (st.time hnow) htx hselected hmirror hverified hreserved
  | @blockRecovery _ reason now hstate hblocked hnow =>
    refine st.moves hversion hstate (t := manualReviewRequired) (by decide) (st.time hnow) ?_
    intro text htext
    cases htext
    have hshort : ∀ r ∈ RECOVERY_REFUSALS, (js "Guarded confirmation recovery refused: " ++ js r).length ≤ 2000 := by decide
    exact hshort reason ((assess_cases hblocked).1 reason rfl)
  | @recoverTimedOut _ txId now deadline hstate hassess htx hnow hdeadline =>
    have hm := st.meets_at hstate
    obtain ⟨tx, hcur, htrim, hne⟩ := requireTransactionIdForSettlement_eq_ok.mp htx
    have heq : tx = txId := (st.sound.trimmed ((assess_cases hassess).2 rfl) tx hcur).symm.trans htrim
    obtain ⟨p, hp⟩ := Option.isSome_iff_exists.mp (hm.polled (by decide)).2
    have hbinds := st.shaped.poll p hp
    have hwindow : isUtcIsoTimestamp deadline ∧ isBeforeUtc p.confirmationStartedAt deadline := by
      by_contra hbad
      exact hok (.resumedWindow hp rfl hbad)
    have hresumed : resumedPoll cur txId now deadline = { p with
        transactionId := txId, confirmationDeadline := deadline, lastMirrorErrorCode := none
        lastMirrorError := none } := by
      unfold resumedPoll
      rw [hp]
      rfl
    have hroute := st.unreserved hstate (by decide)
    rw [hresumed]
    refine valid_iff_shaped.mpr ⟨{ hs with
      updated := st.time hnow, poll := ?_, due := fun _ => hwindow.1, route := ?_, reason := by simp },
      (?_ : Meets mirrorConfirmationPending _)⟩
    · intro q hq
      cases hq
      show PollBinds _ (cur.transactionId.getD txId) (some deadline)
      rw [hcur, heq]
      exact ⟨hbinds.started, hwindow.1, hwindow.2, fun _ => rfl, hbinds.count, hbinds.last, rfl, by simp, by simp,
        hbinds.consensus⟩
    · intro rr hrr
      exact (not_mem_of_none hroute hrr).elim
    · exact { hm.weaken (t := mirrorConfirmationPending) (by decide) with
        polled := fun _ => ⟨truthy_some (ne_nil_of_utc hwindow.1), rfl⟩
        confirmed := fun h => absurd h (by decide) }
  | @recoverFailed _ now hstate htx hsystem =>
    have hgood : cur.state ≠ facilitatorSettled ∧ isUtcIsoTimestamp now := by
      by_contra hbad
      exact hok (.recovered (by tauto))
    have hpending := hstate.resolve_left hgood.1
    refine st.moves hversion hpending (t := confirmationFailed) (by decide) ⟨hgood.2, st.systemTime hsystem⟩ ?_
    intro text htext
    cases htext
    decide
  | @recoverSettled _ code reason now hstate hambiguous hsystem =>
    rcases hstate with hstate | hstate
    · exact absurd ((st.meets_at hstate).paid (by decide)).1 hambiguous
    · exact absurd ((st.meets_at hstate).paid (by decide)).1 hambiguous

end Standing

end RouteGuard.Reservation
