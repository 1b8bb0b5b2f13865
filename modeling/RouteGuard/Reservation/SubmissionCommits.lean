import RouteGuard.Reservation.Script
import RouteGuard.Reservation.ServiceSafety

/-!
# Who commits a submission

Two commits bind a transaction to a reservation: the start of a submission, and the settle claim. Both are made by
`submitPayment` only, with the reference of its own input. One more commit is made on the word of a caller: that of
`recover`.

* `Call.binds` : the reservation and the reference that a commit binds;
* `Call.plain`, `Quiet` : the other calls, and a program that makes no others;
* `submitPayment_makes` : what `submitPayment` binds is its input, parsed;
* `recover_makes` : what fails on recovery was said to have failed;
* `serve_makes`, `own_of_run` : the same for every request, and in every run.
-/

namespace RouteGuard.Reservation
open JsString Guarded ReservationState ServiceM

/-- The transaction under a claim, with its window. -/
def SettleClaim.reference (claim : SettleClaim) : ClientTransactionRef :=
  ⟨claim.transactionId, claim.validStartTimestamp, claim.transactionValidDurationSeconds⟩

/-- What a commit binds to a reservation: the client's transaction when a submission starts, and the transaction under
the claim when its settlement is claimed. -/
def Call.binds : Call → Option (JsString × ClientTransactionRef)
  | .compareAndSet .startSubmission id _ next => next.clientTransaction.map fun ref => (id, ref)
  | .compareAndSet .claimSettle id _ next => next.settleClaim.map fun claim => (id, claim.reference)
  | _ => none

/-- The calls other than the commits of a submission and the commit of `recover`. -/
def Call.plain : Call → Bool
  | .compareAndSet .startSubmission _ _ _ | .compareAndSet .claimSettle _ _ _ | .compareAndSet .recover _ _ _ => false
  | _ => true

/-- The store answers with the record that was asked for. -/
def Stores : (call : Call) → call.Answer → Prop
  | .get id, .ok (some r) => r.reservationId = id
  | .compareAndSet _ id _ _, .ok r => r.reservationId = id
  | _, _ => True

section Rules
variable {α β : Type} {ok : Call → Prop} {Q : α → Prop} {R : β → Prop}

/-- The calls of a program are among these, and its result meets `Q`. -/
abbrev Makes (ok : Call → Prop) (Q : α → Prop) (m : ServiceM α) : Prop :=
  Prog.FollowsM (Monitor.stateless Stores ok) (fun _ => Q) (fun _ _ => True) m ()

/-- A program of plain calls. -/
abbrev Quiet (m : ServiceM α) : Prop := Makes (fun call => call.plain) (fun _ => True) m

theorem Makes.bind {m : ServiceM α} {f : α → ServiceM β} (hm : Makes ok Q m) (hf : ∀ a, Q a → Makes ok R (f a)) :
    Makes ok R (m >>= f) := Prog.FollowsM.bind (Prog.FollowsM.mono hm fun _ => hf)

theorem Makes.check {x : Except ServiceError α} (h : ∀ a, x = .ok a → Q a) : Makes ok Q (check x) :=
  Prog.FollowsM.ofExcept h fun _ _ => trivial

/-- A call that may reject. -/
theorem Makes.await {o : Call} {p : Prog Call Call.Answer (Except ServiceError α)}
    (g : o.Answer → Except ServiceError α) (hp : p = .call o fun r => .ret (g r)) (hok : ok o)
    (h : ∀ r a, Stores o r → g r = .ok a → Q a) : Makes ok Q (await p) :=
  Prog.FollowsM.call o g (congrArg ExceptT.mk hp) hok (fun r a => h r a) fun _ _ _ _ => trivial

theorem Makes.outcome {m : ServiceM α} (hm : Makes ok Q m) : Makes ok (fun r => ∀ a, r = .ok a → Q a) m.outcome := by
  refine Prog.FollowsM.lift (Prog.Follows.mono hm ?_)
  rintro _ r h a rfl
  exact h

/-- What is quiet makes no call that has to be looked at. -/
theorem Quiet.makes {m : ServiceM α} (h : Quiet m) (hok : ∀ call, call.plain → ok call) :
    Makes ok (fun _ => True) m := Prog.Follows.weaken h hok

theorem Quiet.pure (a : α) : Quiet (Pure.pure a : ServiceM α) := trivial

theorem Quiet.throw (e : ServiceError) : Quiet (MonadExcept.throw e : ServiceM α) := trivial

theorem Quiet.check (x : Except ServiceError α) : Quiet (check x) := Makes.check fun _ _ => trivial

theorem Quiet.bind {m : ServiceM α} {f : α → ServiceM β} (hm : Quiet m) (hf : ∀ a, Quiet (f a)) : Quiet (m >>= f) :=
  Makes.bind hm fun a _ => hf a

theorem Quiet.read {call : Call} (h : call.plain) : Quiet (read call) :=
  Prog.FollowsM.lift ⟨h, fun _ _ => trivial⟩

theorem Quiet.await {o : Call} {p : Prog Call Call.Answer (Except ServiceError α)}
    (g : o.Answer → Except ServiceError α) (hp : p = .call o fun r => .ret (g r)) (h : o.plain) :
    Quiet (await p) := Makes.await g hp h fun _ _ _ _ => trivial

theorem Quiet.outcome {m : ServiceM α} (hm : Quiet m) : Quiet m.outcome :=
  Prog.FollowsM.mono (Makes.outcome hm) fun _ _ _ => trivial

theorem Quiet.orElse {m : ServiceM α} {handler : ServiceError → ServiceM β} {k : α → ServiceM β} (hm : Quiet m)
    (hhandler : ∀ e, Quiet (handler e)) (hk : ∀ a, Quiet (k a)) : Quiet (m.orElse handler k) := by
  refine Quiet.bind hm.outcome fun r => ?_
  cases r with
  | ok a => exact hk a
  | error e => exact hhandler e

end Rules

/-! ## Single calls -/

theorem nowIso_quiet : Quiet nowIso := Quiet.bind (Quiet.read rfl) fun _ => Quiet.bind (Quiet.check _) fun _ => trivial

theorem storeGet_makes {ok : Call → Prop} (id : JsString) (hok : ok (.get id)) :
    Makes ok (fun r => ∀ record ∈ r, record.reservationId = id) (storeGet id) := by
  refine Makes.await (o := .get id) (fun r => r) rfl hok ?_
  rintro r a hstores rfl record hrecord
  cases hrecord
  exact hstores

theorem storeGet_quiet (id : JsString) : Quiet (storeGet id) :=
  Prog.FollowsM.mono (storeGet_makes id rfl) fun _ _ _ => trivial

theorem requireRecord_makes {ok : Call → Prop} (id : JsString) (hok : ok (.get id)) :
    Makes ok (fun record => record.reservationId = id) (requireRecord id) := by
  refine Makes.bind (storeGet_makes id hok) fun r hr => ?_
  cases r with
  | some record => exact hr record rfl
  | none => exact trivial

theorem requireRecord_quiet (id : JsString) : Quiet (requireRecord id) :=
  Prog.FollowsM.mono (requireRecord_makes id rfl) fun _ _ _ => trivial

theorem commit_makes {ok : Call → Prop} {site : CommitSite} {current next : ReservationRecord}
    (hok : ok (.compareAndSet site next.reservationId current.recordVersion next)) :
    Makes ok (fun record => record.reservationId = next.reservationId) (commit site current next) := by
  refine Makes.await (o := .compareAndSet site next.reservationId current.recordVersion next) (fun r => r) rfl hok ?_
  rintro r a hstores rfl
  exact hstores

/-- The commits of the other sites are plain. -/
theorem commit_quiet {site : CommitSite} (current next : ReservationRecord)
    (h : ∀ id version next, (Call.compareAndSet site id version next).plain) : Quiet (commit site current next) :=
  Prog.FollowsM.mono (commit_makes (h _ _ _)) fun _ _ _ => trivial

theorem commitOrConflict_makes {ok : Call → Prop} {site : CommitSite} {current next : ReservationRecord}
    (hok : ok (.compareAndSet site next.reservationId current.recordVersion next))
    (hget : ok (.get current.reservationId)) (hid : next.reservationId = current.reservationId) :
    Makes ok (fun r => r.record.reservationId = current.reservationId) (commitOrConflict site current next) := by
  refine Makes.bind (commit_makes hok).outcome fun r hr => ?_
  cases r with
  | ok record => exact (hr record rfl).trans hid
  | error e =>
    show Makes ok _ (if e.isVersionConflict then _ else _)
    split
    · refine Makes.bind (storeGet_makes _ hget) fun latest hlatest => ?_
      cases latest with
      | some record => exact hlatest record rfl
      | none => exact trivial
    · exact trivial

theorem commitOrConflict_quiet {site : CommitSite} (current next : ReservationRecord)
    (h : ∀ id version next, (Call.compareAndSet site id version next).plain) :
    Quiet (commitOrConflict site current next) := by
  refine Quiet.bind (commit_quiet current next h).outcome fun r => ?_
  cases r with
  | ok record => exact trivial
  | error e =>
    show Quiet (if e.isVersionConflict then _ else _)
    split
    · refine Quiet.bind (storeGet_quiet _) fun latest => ?_
      cases latest <;> exact trivial
    · exact trivial

theorem getTransaction_quiet (txId : JsString) : Quiet (getTransaction txId) :=
  Quiet.bind (Quiet.read rfl) fun start => Quiet.await (o := .getTransaction start txId) (fun r => r) rfl rfl

theorem isPastDeadline_quiet (deadline : JsString) : Quiet (isPastDeadline deadline) := by
  refine Quiet.bind (Quiet.read rfl) fun n => ?_
  cases compareUtc n deadline with
  | ok _ => exact trivial
  | error _ => exact Quiet.bind (Quiet.read rfl) fun _ => trivial

/-! ## Webhooks and evidence -/

theorem moveFrom_quiet (sources : List ReservationState) (target : ReservationState) (reason : String)
    (record : ReservationRecord) : Quiet (moveFrom sources target reason record) := by
  unfold moveFrom
  split
  · exact Quiet.bind nowIso_quiet fun _ => Quiet.check _
  · exact trivial

section Service
variable (deps : ServiceDeps) (record : ReservationRecord)

theorem ensureWebhookEventsPersisted_quiet : Quiet (ensureWebhookEventsPersisted deps record) := by
  unfold ensureWebhookEventsPersisted
  split
  · exact trivial
  · split
    · exact trivial
    · refine Quiet.bind nowIso_quiet fun _ => Quiet.bind (Quiet.check _) fun events => ?_
      refine Quiet.bind (commitOrConflict_quiet _ _ fun _ _ _ => rfl) fun r => ?_
      exact Quiet.bind (Quiet.check _) fun _ => trivial

theorem deliverEvents_quiet (pass : Nat) (events : List WebhookEvent) : Quiet (deliverEvents pass record events) := by
  induction events with
  | nil => exact trivial
  | cons event events ih =>
    refine Quiet.bind (Quiet.await (o := .deliver pass event.recipient (rebuildSignedWebhook event)) (fun r => r) rfl rfl)
      fun result => ?_
    exact Quiet.bind nowIso_quiet fun _ => Quiet.bind ih fun _ => trivial

theorem deliverPersistedWebhooks_quiet : Quiet (deliverPersistedWebhooks record) := by
  refine Quiet.bind (Quiet.check _) fun _ => Quiet.bind (Quiet.read rfl) fun pass => ?_
  refine Quiet.bind (deliverEvents_quiet record pass _) fun deliveries => Quiet.bind nowIso_quiet fun updatedAt => ?_
  refine Quiet.bind ?_ fun next => Quiet.bind (commitOrConflict_quiet _ _ fun _ _ _ => rfl) fun _ => trivial
  unfold afterDelivery
  split <;> exact moveFrom_quiet _ _ _ _

theorem dispatchWebhooks_quiet : Quiet (dispatchWebhooks deps record) := by
  unfold dispatchWebhooks
  split
  · refine Quiet.bind (ensureWebhookEventsPersisted_quiet deps record) fun persisted => ?_
    refine Quiet.bind (storeGet_quiet _) fun reloaded => ?_
    cases reloaded with
    | none => exact trivial
    | some reloaded => exact Quiet.bind (Quiet.check _) fun _ => deliverPersistedWebhooks_quiet reloaded
  · exact trivial

theorem ensureHcsRecordedState_quiet : Quiet (ensureHcsRecordedState record) := by
  unfold ensureHcsRecordedState
  split
  · refine Quiet.bind nowIso_quiet fun _ => Quiet.bind (Quiet.check _) fun next => ?_
    exact Quiet.bind (commitOrConflict_quiet _ _ fun _ _ _ => rfl) fun _ => trivial
  · exact trivial

theorem persistHcsPublished_quiet (claim : HcsPublicationClaim) (result : HcsPublicationResult) :
    Quiet (persistHcsPublished record claim result) := by
  refine Quiet.bind nowIso_quiet fun _ => Quiet.bind (moveFrom_quiet _ _ _ _) fun next => ?_
  exact Quiet.bind (commitOrConflict_quiet _ _ fun _ _ _ => rfl) fun _ => trivial

theorem finishHcsFailed_quiet (envelopeHash lastError : JsString) (claim : Option HcsPublicationClaim) :
    Quiet (finishHcsFailed record envelopeHash lastError claim) := by
  refine Quiet.bind nowIso_quiet fun _ => Quiet.bind (moveFrom_quiet _ _ _ _) fun next => ?_
  exact Quiet.bind (commitOrConflict_quiet _ _ fun _ _ _ => rfl) fun _ => trivial

theorem resolveClaim_quiet (claim : HcsPublicationClaim) : Quiet (resolveClaim deps record claim) := by
  have hresolve : Quiet (resolvePublication deps claim) := by
    unfold resolvePublication
    split
    · exact Quiet.await (o := .resolvePublication claim.expectedTopicId claim.envelopeHash claim.reservationId)
        (fun r => r) rfl rfl
    · exact trivial
  refine Quiet.bind hresolve fun resolved => ?_
  cases resolved with
  | found result envelopeHash =>
    simp only
    split
    · exact persistHcsPublished_quiet record claim _
    · exact finishHcsFailed_quiet record _ _ _
  | ambiguous => exact finishHcsFailed_quiet record _ _ _
  | notFoundConclusive => exact finishHcsFailed_quiet record _ _ _

section Resumed
variable {resume : ReservationRecord → ServiceM ReservationRecord} (hresume : ∀ record, Quiet (resume record))
  (claim : HcsPublicationClaim)
include hresume

theorem resolveAmbiguousHcsClaim_quiet : Quiet (resolveAmbiguousHcsClaim deps resume record claim) := by
  unfold resolveAmbiguousHcsClaim
  split
  · exact resolveClaim_quiet deps record claim
  · refine Quiet.bind nowIso_quiet fun _ => Quiet.bind (commitOrConflict_quiet _ _ fun _ _ _ => rfl) fun r => ?_
    split
    · exact hresume _
    · exact resolveClaim_quiet deps _ claim

theorem invokeHcsPublish_quiet (envelope : RouteReservedEnvelope) :
    Quiet (invokeHcsPublish deps resume record claim envelope) := by
  unfold invokeHcsPublish
  split
  · exact finishHcsFailed_quiet record _ _ _
  · split
    · exact finishHcsFailed_quiet record _ _ _
    · refine Quiet.bind (Quiet.outcome (Quiet.await (o := .publish claim envelope) (fun r => r) rfl rfl)) fun r => ?_
      cases r with
      | error e => exact resolveAmbiguousHcsClaim_quiet deps record hresume _
      | ok published =>
        simp only
        split
        · exact persistHcsPublished_quiet record claim _
        · exact finishHcsFailed_quiet record _ _ _

theorem claimAndPublishHcs_quiet (rr : RouteReservedRecord) : Quiet (claimAndPublishHcs deps resume record rr) := by
  refine Quiet.orElse (Quiet.bind nowIso_quiet fun _ => Quiet.check _) (fun e => finishHcsFailed_quiet record _ _ _)
    fun checked => ?_
  refine Quiet.bind nowIso_quiet fun claimedAt => Quiet.bind (Quiet.read rfl) fun attemptId => ?_
  refine Quiet.bind (commitOrConflict_quiet _ _ fun _ _ _ => rfl) fun r => ?_
  split
  · split
    · exact ensureHcsRecordedState_quiet _
    · exact trivial
  · split
    · exact invokeHcsPublish_quiet deps _ hresume _ _
    · exact trivial

theorem finishClaim_quiet : Quiet (finishClaim deps resume record claim) := by
  have hambiguous : Quiet (resolveAmbiguousHcsClaim deps resume record claim) :=
    resolveAmbiguousHcsClaim_quiet deps record hresume claim
  unfold finishClaim
  split
  · exact finishHcsFailed_quiet record _ _ _
  · exact finishHcsFailed_quiet record _ _ _
  · split
    · exact hambiguous
    · split
      · split
        · exact hambiguous
        · exact persistHcsPublished_quiet record claim _
      · exact hambiguous

end Resumed

theorem publishHcsEvidence_quiet (depth : Nat) : Quiet (publishHcsEvidence deps depth record) := by
  induction depth generalizing record with
  | zero => exact trivial
  | succ depth ih =>
    unfold publishHcsEvidence
    split
    · exact trivial
    · split
      · exact ensureHcsRecordedState_quiet record
      · split
        · exact finishClaim_quiet deps record ih _
        · exact claimAndPublishHcs_quiet deps record ih _

/-! ## Confirmation -/

theorem establishDeadline_quiet (txId : JsString) : Quiet (establishDeadline deps record txId) := by
  unfold establishDeadline
  split
  · refine Quiet.bind nowIso_quiet fun startedAt => Quiet.bind (Quiet.read rfl) fun ms => ?_
    refine Quiet.bind (Quiet.check _) fun _ => Quiet.bind (Quiet.check _) fun deadline => ?_
    split <;>
      exact Quiet.bind (Quiet.check _) fun next =>
        Quiet.bind (commitOrConflict_quiet _ _ fun _ _ _ => rfl) fun _ => trivial
  · split
    · split
      · refine Quiet.bind nowIso_quiet fun startedAt => Quiet.bind nowIso_quiet fun updatedAt => ?_
        exact commit_quiet _ _ fun _ _ _ => rfl
      · refine Quiet.bind (Quiet.pure _) fun startedAt => Quiet.bind nowIso_quiet fun updatedAt => ?_
        exact commit_quiet _ _ fun _ _ _ => rfl
    · exact trivial

theorem failConfirmation_quiet (mirror : MirrorConfirmation) (poll : MirrorPollRecord) (e : ServiceError) :
    Quiet (failConfirmation mirror poll record e) := by
  unfold failConfirmation
  split
  · exact trivial
  · refine Quiet.bind nowIso_quiet fun _ => Quiet.bind (Quiet.check _) fun next => ?_
    exact commit_quiet _ _ fun _ _ _ => rfl

theorem confirmReservation_quiet (selected : SelectedPaymentOption) (txId : JsString) (mirror : MirrorConfirmation)
    (poll : MirrorPollRecord) : Quiet (confirmReservation deps record selected txId mirror poll) := by
  have hfail (record : ReservationRecord) (e : ServiceError) : Quiet (failConfirmation mirror poll record e) :=
    failConfirmation_quiet record mirror poll e
  refine Quiet.orElse ?_ (hfail record) fun confirmed => Quiet.orElse ?_ (hfail _) fun reserved => ?_
  · refine Quiet.bind (Quiet.check _) fun verified => Quiet.bind nowIso_quiet fun _ => Quiet.bind nowIso_quiet fun _ => ?_
    refine Quiet.bind (Quiet.check _) fun next => ?_
    exact Quiet.bind (commit_quiet _ _ fun _ _ _ => rfl) fun _ => trivial
  · refine Quiet.bind (Quiet.check _) fun _ => Quiet.bind (Quiet.check _) fun rr => Quiet.bind nowIso_quiet fun _ => ?_
    exact Quiet.bind (Quiet.check _) fun next => commit_quiet _ _ fun _ _ _ => rfl
  · refine Quiet.orElse (dispatchWebhooks_quiet deps reserved) (hfail _) fun dispatched => ?_
    refine Quiet.orElse (publishHcsEvidence_quiet deps dispatched _) (hfail _) fun published => ?_
    refine Quiet.orElse ?_ (hfail _) fun _ => trivial
    unfold completeReservation
    split
    · refine Quiet.bind nowIso_quiet fun _ => Quiet.bind (Quiet.check _) fun next => ?_
      exact commit_quiet _ _ fun _ _ _ => rfl
    · exact trivial

theorem timeOut_quiet (answer : Except ServiceError MirrorConfirmation) (poll : MirrorPollRecord) :
    Quiet (timeOut record answer poll) := by
  refine Quiet.bind nowIso_quiet fun _ => Quiet.bind (Quiet.check _) fun next => ?_
  exact commit_quiet _ _ fun _ _ _ => rfl

theorem afterPoll_quiet {again : ReservationRecord → ServiceM ReservationRecord} (hagain : ∀ record, Quiet (again record))
    (selected : SelectedPaymentOption) (txId deadline : JsString) (answer : Except ServiceError MirrorConfirmation)
    (poll : MirrorPollRecord) : Quiet (afterPoll deps again record selected txId deadline answer poll) := by
  have hinconclusive : Quiet (do
      if ← isPastDeadline deadline then timeOut record answer poll
      else
        let _ ← read (Call.sleep deps.mirrorPollIntervalMs)
        again record) := by
    refine Quiet.bind (isPastDeadline_quiet deadline) fun past => ?_
    split
    · exact timeOut_quiet record answer poll
    · exact Quiet.bind (Quiet.read rfl) fun _ => hagain record
  cases answer with
  | error e => exact hinconclusive
  | ok mirror =>
    unfold afterPoll
    simp only
    split
    · refine Quiet.bind nowIso_quiet fun _ => Quiet.bind (Quiet.check _) fun next => ?_
      exact commit_quiet _ _ fun _ _ _ => rfl
    · exact confirmReservation_quiet deps record selected txId mirror poll
    · exact hinconclusive

theorem pollLoop_quiet (selected : SelectedPaymentOption) (txId deadline : JsString) (n : Nat) :
    Quiet (pollLoop deps selected txId deadline n record) := by
  induction n generalizing record with
  | zero =>
    refine Quiet.bind nowIso_quiet fun _ => Quiet.bind (Quiet.check _) fun next => ?_
    exact commit_quiet _ _ fun _ _ _ => rfl
  | succ n ih =>
    refine Quiet.bind (requireRecord_quiet _) fun current => Quiet.bind (Quiet.check _) fun _ => ?_
    split
    · refine Quiet.bind nowIso_quiet fun pollAt => Quiet.bind (getTransaction_quiet txId).outcome fun answer => ?_
      refine Quiet.bind (commitOrConflict_quiet _ _ fun _ _ _ => rfl) fun r => ?_
      exact afterPoll_quiet deps _ ih selected txId deadline answer _
    · exact trivial

theorem runMirrorConfirmation_quiet (selected : SelectedPaymentOption) :
    Quiet (runMirrorConfirmation deps record selected) := by
  refine Quiet.bind (Quiet.check _) fun txId => Quiet.bind (establishDeadline_quiet deps record txId) fun started => ?_
  exact Quiet.bind (Quiet.check _) fun deadline => pollLoop_quiet deps started selected txId deadline _

/-! ## The other operations -/

theorem createReservation_quiet (auction : Auction) (input : CreateReservationInput) (tender : FreightTender) :
    Quiet (createReservation deps.crypto auction input tender) := by
  refine Quiet.bind (storeGet_quiet _) fun existing => Quiet.bind (Quiet.check _) fun record => ?_
  cases existing with
  | some existing => exact Quiet.check _
  | none => exact Quiet.await (o := .create record) (fun r => r) rfl rfl

theorem selectOption_quiet (input : SelectInput) : Quiet (selectOption deps input) := by
  refine Quiet.bind (requireRecord_quiet _) fun record => Quiet.bind (Quiet.check _) fun _ => ?_
  split
  · exact trivial
  · refine Quiet.bind (Quiet.check _) fun _ => Quiet.bind nowIso_quiet fun now => ?_
    refine Quiet.bind (Quiet.check _) fun selected => ?_
    split <;> exact Quiet.bind (Quiet.check _) fun next => commit_quiet _ _ fun _ _ _ => rfl

theorem issueChallenge_quiet (id : JsString) (optionId : ReservationOptionId) :
    Quiet (issueChallenge deps id optionId) := by
  refine Quiet.bind (requireRecord_quiet id) fun record => ?_
  split
  · exact trivial
  · next selected hselected =>
    refine Quiet.bind (Quiet.check _) fun _ => ?_
    split
    · exact trivial
    · refine Quiet.bind (Quiet.check _) fun _ => ?_
      refine Quiet.bind (Quiet.await (o := .createChallenge selected) (fun r => r) rfl rfl) fun challenge => ?_
      refine Quiet.bind (Quiet.check _) fun _ => Quiet.bind nowIso_quiet fun issuedAt => ?_
      refine Quiet.bind (Quiet.check _) fun durable => ?_
      split <;>
        exact Quiet.bind (Quiet.check _) fun next =>
          Quiet.bind (commitOrConflict_quiet _ _ fun _ _ _ => rfl) fun r => Quiet.bind (Quiet.check _) fun _ => trivial

/-! ## Recovery and reconciliation -/

theorem systemNow_quiet : Quiet systemNow := Quiet.bind (Quiet.read rfl) fun _ => Quiet.check _

/-- A recovered confirmation failed only on the word of the caller. -/
def Recovers (resolution : RecoveryResolution) (r : ReservationRecord) : Prop :=
  r.state = confirmationFailed → r.state = record.state ∨ resolution.mirrorStatus = some (js "FAILED")

theorem recoverInProgressState_makes (resolution : RecoveryResolution) :
    Makes (fun call => call.plain) (Recovers record resolution) (recoverInProgressState record resolution) := by
  have hself : Recovers record resolution record := fun _ => .inl rfl
  have hreview (code reason : String) :
      Makes (fun call => call.plain) (Recovers record resolution) (recoverTo record manualReviewRequired code reason) := by
    refine Makes.bind systemNow_quiet fun now _ => ?_
    exact fun h => by cases h
  have hsettled : Makes (fun call => call.plain) (Recovers record resolution) (recoverSettled record resolution) := by
    unfold recoverSettled
    split
    · exact hreview _ _
    · split
      · next hfailed => exact Makes.bind systemNow_quiet fun now _ => fun _ => .inr hfailed
      · exact hself
  have hsubmitted (code reason : String) :
      Makes (fun call => call.plain) (Recovers record resolution) (recoverSubmitted record code reason) := by
    unfold recoverSubmitted
    split
    · exact hself
    · exact hreview _ _
  unfold recoverInProgressState
  split
  · unfold recoverClaimed
    split
    · refine Makes.bind systemNow_quiet fun now _ => ?_
      split
      · exact Makes.bind (Quiet.pure _) fun _ _ => fun h => by cases h
      · refine Makes.bind (Quiet.read rfl) fun ms _ => Makes.bind (Quiet.check _) fun _ _ => ?_
        exact fun h => by cases h
    · split
      · exact hself
      · exact hreview _ _
  · exact hsettled
  · exact hsettled
  · exact hsubmitted _ _
  · exact hsubmitted _ _
  · exact hself

theorem recoverInProgressState_quiet (resolution : RecoveryResolution) :
    Quiet (recoverInProgressState record resolution) :=
  Prog.FollowsM.mono (recoverInProgressState_makes record resolution) fun _ _ _ => trivial

theorem recoverTimedOutConfirmation_quiet : Quiet (recoverTimedOutConfirmation deps record) := by
  refine Quiet.bind (Quiet.check _) fun assessment => ?_
  cases assessment with
  | some reason =>
    refine Quiet.bind nowIso_quiet fun _ => Quiet.bind (Quiet.check _) fun next => ?_
    exact commit_quiet _ _ fun _ _ _ => rfl
  | none =>
    refine Quiet.bind (Quiet.check _) fun txId => Quiet.bind nowIso_quiet fun now => ?_
    refine Quiet.bind (Quiet.check _) fun deadline => Quiet.bind (Quiet.check _) fun next => ?_
    exact commit_quiet _ _ fun _ _ _ => rfl

theorem resumeConfirming_quiet : Quiet (resumeConfirming deps record) :=
  Quiet.bind (Quiet.check _) fun selected => runMirrorConfirmation_quiet deps record selected

theorem resumeWith_quiet {reconcile : JsString → ServiceM ReservationRecord} (hreconcile : ∀ id, Quiet (reconcile id))
    (id : JsString) : Quiet (resumeWith deps reconcile id) := by
  refine Quiet.bind (requireRecord_quiet id) fun record => ?_
  split
  · exact trivial
  · split
    · split
      · exact trivial
      · exact hreconcile _
    · split
      · refine Quiet.bind (recoverTimedOutConfirmation_quiet deps record) fun recovered => ?_
        split
        · exact resumeConfirming_quiet deps recovered
        · exact trivial
      · exact resumeConfirming_quiet deps record

/-- The failures of a reconciliation are recorded at sites of their own. -/
theorem failReconciled_quiet (current : ReservationRecord) {f : ReconcileFailure}
    (h : ∀ id version next, (Call.compareAndSet f.site id version next).plain) :
    Quiet (failReconciled current record f) :=
  Quiet.bind nowIso_quiet fun _ => Quiet.bind (Quiet.check _) fun _ => commit_quiet _ _ h

theorem reconcileResumed_quiet {resume : ServiceM ReservationRecord} (hresume : Quiet resume) :
    Quiet (reconcileResumed resume record) := by
  unfold reconcileResumed
  by_cases hreserved : record.routeReserved.isSome <;> simp only [hreserved]
  all_goals
    refine Quiet.bind (by first | exact hresume | exact Quiet.pure _) fun resumed => ?_
    split
    · exact trivial
    · cases record.settleClaim with
      | some claim => exact Quiet.bind (Quiet.check _) fun _ => Quiet.bind (Quiet.check _) fun _ => trivial
      | none =>
        refine Quiet.bind nowIso_quiet fun now => ?_
        exact Quiet.bind (Quiet.check _) fun _ => Quiet.bind (Quiet.check _) fun _ => trivial

theorem reconcilePreClaim_quiet (ref : ClientTransactionRef) : Quiet (reconcilePreClaim record ref) := by
  refine Quiet.bind (Quiet.check _) fun l => Quiet.bind (getTransaction_quiet _) fun found => ?_
  split
  · exact Quiet.bind (failReconciled_quiet record record fun _ _ _ => rfl) fun _ => trivial
  · exact Quiet.bind (failReconciled_quiet record record fun _ _ _ => rfl) fun _ => trivial
  · exact trivial
  · refine Quiet.bind (Quiet.read rfl) fun ms => ?_
    split
    · exact trivial
    · exact Quiet.bind (failReconciled_quiet record record fun _ _ _ => rfl) fun _ => trivial

theorem reconcileClaimed_quiet {resume : ServiceM ReservationRecord} (hresume : Quiet resume) (claim : SettleClaim) :
    Quiet (reconcileClaimed resume record claim) := by
  refine Quiet.bind (Quiet.check _) fun l => Quiet.bind (getTransaction_quiet _) fun mirror => ?_
  refine Quiet.bind (Quiet.check _) fun _ => ?_
  split
  · refine Quiet.bind (recoverInProgressState_quiet record _) fun recovered => Quiet.bind nowIso_quiet fun now => ?_
    exact Quiet.bind (commit_quiet _ _ fun _ _ _ => rfl) fun _ => Quiet.bind hresume fun _ => trivial
  · refine Quiet.bind nowIso_quiet fun updatedAt => ?_
    exact Quiet.bind (failReconciled_quiet _ record fun _ _ _ => rfl) fun _ => trivial
  · exact trivial
  · refine Quiet.bind (Quiet.read rfl) fun ms => ?_
    split
    · exact trivial
    · exact Quiet.bind (failReconciled_quiet record record fun _ _ _ => rfl) fun _ => trivial

theorem reconcileWith_quiet {resume : JsString → ServiceM ReservationRecord} (hresume : ∀ id, Quiet (resume id))
    (id : JsString) : Quiet (reconcileWith resume id) := by
  refine Quiet.bind (requireRecord_quiet id) fun record => ?_
  split
  · exact reconcileResumed_quiet record (hresume id)
  · split
    · exact reconcilePreClaim_quiet record _
    · exact reconcilePreClaim_quiet record _
    · exact reconcileClaimed_quiet record (hresume id) _
    · exact trivial

theorem reconcilePayment_quiet (depth : Nat) (id : JsString) : Quiet (reconcilePayment deps depth id) := by
  induction depth generalizing id with
  | zero => exact trivial
  | succ depth ih =>
    refine reconcileWith_quiet (fun id => resumeWith_quiet deps (fun id => ?_) id) id
    exact Quiet.bind (ih id) fun _ => trivial

theorem resumePaymentConfirmation_quiet (depth : Nat) (id : JsString) :
    Quiet (resumePaymentConfirmation deps depth id) := by
  refine resumeWith_quiet deps (fun id => ?_) id
  exact Quiet.bind (reconcilePayment_quiet deps depth id) fun _ => trivial

theorem authorizeReplacementAttempt_quiet (id : JsString) : Quiet (authorizeReplacementAttempt id) := by
  refine Quiet.bind (requireRecord_quiet id) fun record => Quiet.bind (Quiet.check _) fun _ => ?_
  refine Quiet.bind (isPastDeadline_quiet _) fun expired => Quiet.bind (Quiet.check _) fun _ => ?_
  refine Quiet.bind nowIso_quiet fun now => Quiet.bind (Quiet.check _) fun next => ?_
  exact commit_quiet _ _ fun _ _ _ => rfl

/-! ## Submission -/

theorem failSettlement_quiet (result : FacilitatorSettleResult) {f : SettleFailure}
    (h : ∀ id version next, (Call.compareAndSet f.site id version next).plain) :
    Quiet (failSettlement record result f) :=
  Quiet.bind nowIso_quiet fun _ => Quiet.bind (Quiet.check _) fun _ => commit_quiet _ _ h

theorem settlePayment_quiet (claim : SettleClaim) (input : SubmitInput) (sub : Submission) :
    Quiet (settlePayment deps record claim input sub) := by
  refine Quiet.bind (Quiet.await (o := .settle claim sub.selected input.paymentPayloadHash sub.challengeHash)
    (fun r => r) rfl rfl) fun result => ?_
  split
  · refine Quiet.bind (Quiet.check _) fun claimTxId => Quiet.bind (Quiet.check _) fun differs => ?_
    split
    · exact Quiet.bind nowIso_quiet fun _ => failSettlement_quiet record result fun _ _ _ => rfl
    · split
      · exact failSettlement_quiet record result fun _ _ _ => rfl
      · split
        · exact failSettlement_quiet record result fun _ _ _ => rfl
        · refine Quiet.bind nowIso_quiet fun updatedAt => Quiet.bind nowIso_quiet fun now => ?_
          refine Quiet.bind (Quiet.check _) fun next => Quiet.bind (commit_quiet _ _ fun _ _ _ => rfl) fun settled => ?_
          exact runMirrorConfirmation_quiet deps settled sub.selected
  · exact Quiet.bind nowIso_quiet fun _ => failSettlement_quiet record result fun _ _ _ => rfl

end Service

/-- The commits that only one kind of request makes: `submitPayment` binds the reference of its input, and `recover` fails
a confirmation on the word of its caller. -/
structure Own (request : Request) (call : Call) : Prop where
  reference : ∀ id ref, call.binds = some (id, ref) → ∃ input, request = .submitPayment input ∧
    input.reservationId = id ∧ parseClientTransactionRef input.clientTransaction = .ok ref
  failure : ∀ id version next, call = .compareAndSet .recover id version next → next.state = confirmationFailed →
    ∃ id resolution, request = .recover id resolution ∧ resolution.mirrorStatus = some (js "FAILED")

theorem Own.of_plain {request : Request} {call : Call} (h : call.plain) : Own request call := by
  constructor
  · intro id ref hbinds
    unfold Call.binds at hbinds
    split at hbinds
    · cases h
    · cases h
    · cases hbinds
  · rintro id version next rfl
    cases h

theorem recover_makes (id : JsString) (resolution : RecoveryResolution) :
    Makes (Own (.recover id resolution)) (fun _ => True) (recover id resolution) := by
  refine Makes.bind ((requireRecord_quiet id).makes fun _ => Own.of_plain) fun record _ => ?_
  refine Makes.bind (Prog.Follows.weaken (recoverInProgressState_makes record resolution) fun _ => Own.of_plain)
    fun recovered hrecovers => ?_
  split
  · next hne =>
    refine Prog.FollowsM.mono (commit_makes ⟨?_, ?_⟩) fun _ _ _ => trivial
    · intro id ref hbinds
      cases hbinds
    · rintro _ _ _ ⟨⟩ hfailed
      exact ⟨id, resolution, rfl, (hrecovers hfailed).resolve_left hne⟩
  · exact trivial

/-- The flow goes on with the record of the reservation. -/
def Flow.About (id : JsString) (flow : Flow) : Prop := ∀ record, flow = .proceed record → record.reservationId = id

theorem CommitResult.flow_about {r : CommitResult} {id : JsString} (h : r.record.reservationId = id) : r.flow.About id := by
  intro record hflow
  unfold CommitResult.flow at hflow
  split at hflow
  · cases hflow
  · cases hflow
    exact h

theorem transition_same {record next : ReservationRecord} {target : ReservationState} {reason now : JsString}
    (h : transition record target reason now = .ok next) : next.reservationId = record.reservationId ∧
      next.clientTransaction = record.clientTransaction ∧ next.settleClaim = record.settleClaim := by
  rcases transition_eq_ok.mp h with ⟨-, rfl⟩ | ⟨-, -, -, rfl⟩ <;> exact ⟨rfl, rfl, rfl⟩

section Submission
variable (deps : ServiceDeps) {record : ReservationRecord} {input : SubmitInput}

/-- Plain calls before the rest. -/
theorem Quiet.before {α β : Type} {m : ServiceM α} {f : α → ServiceM β} {Q : β → Prop} (hm : Quiet m)
    (hf : ∀ a, Makes (Own (.submitPayment input)) Q (f a)) : Makes (Own (.submitPayment input)) Q (m >>= f) :=
  Makes.bind (hm.makes fun _ => Own.of_plain) fun a _ => hf a

theorem startSubmission_makes (hid : record.reservationId = input.reservationId) {clientTx : ClientTransactionRef}
    (hparse : parseClientTransactionRef input.clientTransaction = .ok clientTx) :
    Makes (Own (.submitPayment input)) (Flow.About input.reservationId) (startSubmission record input clientTx) := by
  have hproceed : Flow.About input.reservationId (.proceed record) := by
    rintro _ ⟨⟩
    exact hid
  unfold startSubmission
  split
  · refine Quiet.before nowIso_quiet fun now => Makes.bind (Makes.check fun next hnext => hnext) fun next hnext => ?_
    obtain ⟨hsame, htx, -⟩ := transition_same hnext
    refine Makes.bind (commitOrConflict_makes ?_ (.of_plain rfl) hsame) fun r hr => CommitResult.flow_about (hr.trans hid)
    refine ⟨?_, fun _ _ _ h => (by cases h)⟩
    intro id ref hbinds
    simp only [Call.binds, htx, submittedRecord, Option.map_some, Option.some.injEq, Prod.mk.injEq] at hbinds
    obtain ⟨rfl, rfl⟩ := hbinds
    exact ⟨input, rfl, (hsame.trans hid).symm, hparse⟩
  · split
    · exact Quiet.before (Quiet.check _) fun _ => hproceed
    · exact hproceed

theorem verifyPayment_makes (hid : record.reservationId = input.reservationId) (sub : Submission) :
    Makes (Own (.submitPayment input)) (Flow.About input.reservationId) (verifyPayment record input sub) := by
  unfold verifyPayment
  split
  · refine Quiet.before (Quiet.await (o := .verify sub.selected input.paymentPayloadHash sub.challengeHash)
      (fun r => r) rfl rfl) fun result => ?_
    refine Quiet.before nowIso_quiet fun updatedAt => Quiet.before nowIso_quiet fun now => ?_
    split
    · refine Makes.bind (Makes.check fun next hnext => hnext) fun next hnext => ?_
      refine Makes.bind (commitOrConflict_makes (.of_plain rfl) (.of_plain rfl) (transition_same hnext).1) fun r hr => ?_
      exact CommitResult.flow_about (hr.trans hid)
    · refine Quiet.before (Quiet.check _) fun next => Quiet.before (commit_quiet _ _ fun _ _ _ => rfl) fun r => ?_
      rintro _ ⟨⟩
  · rintro _ ⟨⟩
    exact hid

theorem claimSettle_makes (hid : record.reservationId = input.reservationId) {sub : Submission}
    (hparse : parseClientTransactionRef input.clientTransaction = .ok sub.clientTx) :
    Makes (Own (.submitPayment input)) (fun _ => True) (claimSettle record input sub) := by
  unfold claimSettle
  split
  · refine Quiet.before nowIso_quiet fun claimedAt => Quiet.before (Quiet.read rfl) fun attemptId => ?_
    refine Makes.bind (Makes.check fun next hnext => hnext) fun next hnext => ?_
    obtain ⟨hsame, -, hclaim⟩ := transition_same hnext
    refine Makes.bind (commitOrConflict_makes ?_ (.of_plain rfl) hsame) fun _ _ => trivial
    refine ⟨?_, fun _ _ _ h => (by cases h)⟩
    intro id ref hbinds
    simp only [Call.binds, hclaim, Option.map_some, Option.some.injEq, Prod.mk.injEq] at hbinds
    obtain ⟨rfl, rfl⟩ := hbinds
    exact ⟨input, rfl, (hsame.trans hid).symm, hparse⟩
  · split <;> exact trivial

theorem settleOnce_makes (hid : record.reservationId = input.reservationId) {sub : Submission}
    (hparse : parseClientTransactionRef input.clientTransaction = .ok sub.clientTx) :
    Makes (Own (.submitPayment input)) (fun _ => True) (settleOnce deps record input sub) := by
  unfold settleOnce
  split
  · exact (runMirrorConfirmation_quiet deps record sub.selected).makes fun _ => Own.of_plain
  · refine Makes.bind (claimSettle_makes hid hparse) fun flow _ => ?_
    cases flow with
    | stop record => exact trivial
    | proceed record =>
      simp only
      split
      · exact trivial
      · split
        · exact (settlePayment_quiet deps record _ input sub).makes fun _ => Own.of_plain
        · exact trivial

/-- What `submitPayment` binds is the reference of its input, parsed. -/
theorem submitPayment_makes (input : SubmitInput) :
    Makes (Own (.submitPayment input)) (fun _ => True) (submitPayment deps input) := by
  refine Makes.bind (requireRecord_makes _ (.of_plain rfl)) fun record hid => ?_
  refine Quiet.before (Quiet.check _) fun selected => ?_
  split
  · exact Quiet.before (Quiet.check _) fun _ => trivial
  · refine Makes.bind (Makes.check fun sub hsub => hsub) fun sub hsub => ?_
    have hparse : parseClientTransactionRef input.clientTransaction = .ok sub.clientTx := by
      simp only [submissionOf, bind_eq_ok, pure_eq_ok] at hsub
      obtain ⟨clientTx, hparse, -, -, -, -, -, -, rfl⟩ := hsub
      exact hparse
    refine Makes.bind (startSubmission_makes hid hparse) fun flow hflow => ?_
    cases flow with
    | stop record => exact trivial
    | proceed started =>
      refine Quiet.before (Quiet.check _) fun _ => ?_
      refine Makes.bind (verifyPayment_makes (hflow started rfl) sub) fun flow hflow => ?_
      cases flow with
      | stop record => exact trivial
      | proceed verified => exact settleOnce_makes deps (hflow verified rfl) hparse

end Submission

/-- What a request binds is its own input. -/
theorem serve_makes (deps : ServiceDeps) (auction : Auction) (request : Request) :
    (serve deps auction request).run.Follows (Monitor.stateless Stores (Own request)) (fun _ _ => True) () := by
  have hquiet {α : Type} {m : ServiceM α} (f : α → Response) (hm : Quiet m) :
      (f <$> m).run.Follows (Monitor.stateless Stores (Own request)) (fun _ _ => True) () :=
    Prog.FollowsM.follows (Prog.FollowsM.map f (hm.makes fun _ => Own.of_plain))
  cases request with
  | createReservation input tender => exact hquiet some (createReservation_quiet deps auction input tender)
  | getReservation id => exact Prog.FollowsM.follows ((storeGet_quiet id).makes fun _ => Own.of_plain)
  | selectOption input => exact hquiet some (selectOption_quiet deps input)
  | issueChallenge id optionId => exact hquiet some (issueChallenge_quiet deps id optionId)
  | submitPayment input => exact Prog.FollowsM.follows (Prog.FollowsM.map some (submitPayment_makes deps input))
  | resumePaymentConfirmation id => exact hquiet some (resumePaymentConfirmation_quiet deps deps.depth id)
  | reconcilePayment id => exact hquiet _ (reconcilePayment_quiet deps deps.depth id)
  | authorizeReplacementAttempt id => exact hquiet some (authorizeReplacementAttempt_quiet id)
  | retryWebhooks id =>
    refine hquiet some (Quiet.bind (requireRecord_quiet id) fun record => ?_)
    exact Quiet.bind (Quiet.check _) fun _ => deliverPersistedWebhooks_quiet record
  | resumeWebhookDispatch id =>
    refine hquiet some (Quiet.bind (requireRecord_quiet id) fun record => ?_)
    exact Quiet.bind (Quiet.check _) fun _ => dispatchWebhooks_quiet deps record
  | resumeHcsPublication id =>
    refine hquiet some (Quiet.bind (requireRecord_quiet id) fun record => ?_)
    exact Quiet.bind (Quiet.check _) fun _ => publishHcsEvidence_quiet deps record _
  | recover id resolution => exact Prog.FollowsM.follows (Prog.FollowsM.map some (recover_makes id resolution))

/-! ## Runs -/

section Runs
variable {deps : ServiceDeps} {auction : Auction} {ls : List ServiceLabel} {s : ServicePool}

/-- The store of the service answers with the record that was asked for. -/
theorem stores_of_performed (hrun : (serviceSystem deps auction).Run ls s) {call : Call} {answer : call.Answer}
    {w : Trace} (h : Performed deps.crypto s.shared call answer w) : Stores call answer := by
  have hw := lawful_of_run hrun
  obtain ⟨hanswered, -⟩ := h
  cases call with
  | get id =>
    cases answer with
    | error e => trivial
    | ok r =>
      cases r with
      | none => trivial
      | some r =>
        have hstored : some r = stored s.shared id := hanswered
        exact hw.reservationId_eq (mem_versions_of_stored hstored.symm)
  | compareAndSet site id version next =>
    cases answer with
    | error e => trivial
    | ok r =>
      obtain ⟨-, -, -, rfl, -⟩ := hanswered
      rfl
  | _ => trivial

/-- Each call is one that its request makes. -/
theorem own_of_run (hrun : (serviceSystem deps auction).Run ls s) {n : Nat} {call : Call} {answer : call.Answer}
    (h : .call n call answer ∈ ls) : ∃ request, .start n request ∈ ls ∧ Own request call :=
  Monitor.calls_of_run (fun request => serve_makes deps auction request)
    (fun _ _ _ _ _ hrun h => stores_of_performed hrun h) hrun n call answer h

end Runs

end RouteGuard.Reservation
