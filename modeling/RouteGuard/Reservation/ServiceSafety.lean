import RouteGuard.Reservation.SubmissionSafety

/-!
# The service keeps the contract

* `recover_runs`, `reconcilePayment_runs`, `resumePaymentConfirmation_runs` : what a restart can do with a payment;
* `serve_runs` : every request;
* `serviceSystem_holds` : in every run of the service the trace is lawful and no attempt is spent twice.
-/

namespace RouteGuard.Reservation
open JsString Guarded ReservationState ServiceM

section Service
variable {deps : ServiceDeps} {auction : Auction} {ℓ₀ ℓ : View} {record : ReservationRecord}

/-! ## Recovery -/

theorem systemNow_runs (h : Ahead deps auction ℓ₀ ℓ) :
    Completes deps auction (fun ℓ' now => Ahead deps auction ℓ₀ ℓ' ∧ SystemClocked ℓ'.world now) systemNow ℓ := by
  refine Runs.bind (Runs.read h rfl (fun _ => trivial) ?_)
  intro ℓ₁ ms h₁ hmem _
  refine Runs.check ?_ fun _ _ => trivial
  intro now hnow
  exact ⟨h₁, ms, hmem, hnow⟩

theorem SystemClocked.mono {w w' : Trace} {now : JsString} (h : SystemClocked w now) (hw : w <+: w') :
    SystemClocked w' now := by
  obtain ⟨ms, hmem, hnow⟩ := h
  exact ⟨ms, hw.subset hmem, hnow⟩

theorem AdoptedDeadline.mono {w w' : Trace} {deadline : JsString} (h : AdoptedDeadline w record deadline)
    (hw : w <+: w') : AdoptedDeadline w' record deadline := by
  rcases h with h | ⟨hnone, ms, hmem, hdeadline⟩
  · exact .inl h
  · exact .inr ⟨hnone, ms, hw.subset hmem, hdeadline⟩

theorem adoptTransaction_runs {txId : JsString} (h : Ahead deps auction ℓ₀ ℓ) :
    Completes deps auction
      (fun ℓ' r => Ahead deps auction ℓ₀ ℓ' ∧ ∃ now deadline, r = adoptedRecord record txId now deadline ∧
        SystemClocked ℓ'.world now ∧ AdoptedDeadline ℓ'.world record deadline)
      (adoptTransaction record txId) ℓ := by
  refine Runs.andThen (systemNow_runs h) h.lawful ?_
  rintro ℓ₁ now _ _ ⟨h₁, hnow⟩
  dsimp only
  cases hdeadline : record.confirmationDeadline with
  | some deadline => exact ⟨h₁, now, deadline, rfl, hnow, .inl hdeadline⟩
  | none =>
    refine Runs.bind (Runs.read h₁.here rfl (fun _ => trivial) ?_)
    intro ℓ₂ ms h₁₂ hmem _
    refine Runs.bind (Runs.check ?_ fun _ _ => trivial)
    intro deadline hd
    exact ⟨h₁.trans h₁₂, now, deadline, rfl, hnow.mono h₁₂.grows, .inr ⟨hdeadline, ms, hmem, hd⟩⟩

/-- A recovered record is the record itself, or it can replace it at a commit of `recover`. -/
def Recovered (deps : ServiceDeps) (w : Trace) (record r : ReservationRecord) : Prop :=
  r = record ∨
    (r.state ≠ record.state ∧ r.reservationId = record.reservationId ∧
      ∀ w', w <+: w' → Change deps w' .recover record r)

theorem recoverTo_runs {state : ReservationState} {code reason : String} (h : Ahead deps auction ℓ₀ ℓ)
    (hne : state ≠ record.state)
    (hchange : ∀ w now, SystemClocked w now →
      Change deps w .recover record (endedRecord record state code reason now)) :
    Completes deps auction (fun ℓ' r => Ahead deps auction ℓ₀ ℓ' ∧ Recovered deps ℓ'.world record r)
      (recoverTo record state code reason) ℓ := by
  refine Runs.andThen (systemNow_runs h) h.lawful ?_
  rintro ℓ₁ now _ _ ⟨h₁, hnow⟩
  exact ⟨h₁, .inr ⟨hne, rfl, fun w hw => hchange w now (hnow.mono hw)⟩⟩

theorem recoverSettled_runs {resolution : RecoveryResolution} (h : Ahead deps auction ℓ₀ ℓ)
    (hstate : record.state = facilitatorSettled ∨ record.state = mirrorConfirmationPending) :
    Completes deps auction (fun ℓ' r => Ahead deps auction ℓ₀ ℓ' ∧ Recovered deps ℓ'.world record r)
      (recoverSettled record resolution) ℓ := by
  have hne {t : ReservationState} (ht : t = manualReviewRequired ∨ t = confirmationFailed) : t ≠ record.state := by
    rcases ht with rfl | rfl <;> rcases hstate with hs | hs <;> rw [hs] <;> decide
  unfold recoverSettled
  split
  · next hambiguous =>
    exact recoverTo_runs h (hne (.inl rfl)) fun w now hnow => .confirmation (.recoverSettled hstate hambiguous hnow)
  · next htx =>
    split
    · exact recoverTo_runs h (hne (.inr rfl)) fun w now hnow =>
        .confirmation (.recoverFailed hstate (not_not.mp htx) hnow)
    · exact ⟨h, .inl rfl⟩

theorem recoverSubmitted_runs {code reason : String} (h : Ahead deps auction ℓ₀ ℓ)
    (hstate : record.state = paymentSubmissionStarted ∨ record.state = facilitatorVerified) :
    Completes deps auction (fun ℓ' r => Ahead deps auction ℓ₀ ℓ' ∧ Recovered deps ℓ'.world record r)
      (recoverSubmitted record code reason) ℓ := by
  unfold recoverSubmitted
  split
  · exact ⟨h, .inl rfl⟩
  · next hnone =>
    refine recoverTo_runs h ?_ fun w now hnow => .submission (.recoverSubmitted (.inr ⟨hstate, hnone⟩) hnow)
    rcases hstate with hs | hs <;> rw [hs] <;> decide

theorem recoverInProgressState_runs {resolution : RecoveryResolution} (h : Ahead deps auction ℓ₀ ℓ) :
    Completes deps auction (fun ℓ' r => Ahead deps auction ℓ₀ ℓ' ∧ Recovered deps ℓ'.world record r)
      (recoverInProgressState record resolution) ℓ := by
  unfold recoverInProgressState
  split
  · next hstate =>
    unfold recoverClaimed
    split
    · next htx =>
      refine Prog.SafeM.mono (adoptTransaction_runs h) h.lawful ?_ fun _ _ _ _ _ => trivial
      rintro ℓ₁ r _ _ ⟨h₁, now, deadline, rfl, hnow, hdeadline⟩
      refine ⟨h₁, .inr ⟨by rw [hstate]; exact ReservationState.noConfusion, rfl, fun w hw =>
        .submission (.recoverAdopt hstate ?_ (hnow.mono hw) (hdeadline.mono hw))⟩⟩
      cases hid : resolution.transactionId with
      | none =>
        rw [hid] at htx
        exact absurd htx (by decide)
      | some id =>
        rw [hid] at htx
        simpa [truthy] using htx
    · split
      · exact ⟨h, .inl rfl⟩
      · next hnone =>
        exact recoverTo_runs h (by rw [hstate]; decide) fun w now hnow =>
          .submission (.recoverSubmitted (.inl ⟨hstate, hnone⟩) hnow)
  · next hstate => exact recoverSettled_runs h (.inl hstate)
  · next hstate => exact recoverSettled_runs h (.inr hstate)
  · next hstate => exact recoverSubmitted_runs h (.inl hstate)
  · next hstate => exact recoverSubmitted_runs h (.inr hstate)
  · exact ⟨h, .inl rfl⟩

theorem recover_runs {id : JsString} {resolution : RecoveryResolution} (hlawful : Lawful deps auction ℓ.world) :
    Completes deps auction (Answers deps auction id ℓ) (recover id resolution) ℓ := by
  refine requireRecord_then hlawful ?_
  intro ℓ record hlawful hrecord
  refine Runs.andThen (recoverInProgressState_runs (.refl hlawful)) hlawful ?_
  rintro ℓ₁ r _ _ ⟨h₁, hr⟩
  show Completes deps auction _ (if r.state ≠ record.state then _ else _) ℓ₁
  split
  · next hne =>
    rcases hr with rfl | ⟨-, hid, hchange⟩
    · exact absurd rfl hne
    · exact commit_returns h₁ (h₁.known hrecord) hid hchange
  · next heq =>
    rcases hr with rfl | ⟨hne, -⟩
    · exact .self h₁.toSince (h₁.known hrecord)
    · exact absurd hne heq

/-! ## Resumption -/

theorem blockRecovery_runs {reason : String} (hlawful : Lawful deps auction ℓ.world)
    (hrecord : record ∈ versions ℓ.world record.reservationId) (hstate : record.state = confirmationTimedOut)
    (hblocked : assessTimedOutConfirmationRecovery record = .ok (some reason)) :
    Completes deps auction (Returned deps auction record ℓ) (blockRecovery record reason) ℓ := by
  refine Runs.bind (Runs.nowIso (.refl hlawful) ?_ fun _ _ _ _ _ _ => trivial)
  intro ℓ₁ now h₁ hnow
  refine Runs.bind (Runs.check ?_ fun _ _ => trivial)
  intro next hnext
  obtain ⟨-, -, rfl⟩ := transition_from hstate (by decide) hnext
  exact commit_returns h₁ (h₁.known hrecord) rfl fun w hgrows =>
    .confirmation (.blockRecovery hstate hblocked (hnow.mono hgrows))

theorem recoverTimedOutConfirmation_runs (hlawful : Lawful deps auction ℓ.world)
    (hrecord : record ∈ versions ℓ.world record.reservationId) (hstate : record.state = confirmationTimedOut) :
    Completes deps auction (Returned deps auction record ℓ) (recoverTimedOutConfirmation deps record) ℓ := by
  refine Runs.bind (Runs.check ?_ fun _ _ => trivial)
  intro assessed hassess
  cases assessed with
  | some reason => exact blockRecovery_runs hlawful hrecord hstate hassess
  | none =>
    refine Runs.bind (Runs.check ?_ fun _ _ => trivial)
    intro txId htx
    refine Runs.bind (Runs.nowIso (.refl hlawful) ?_ fun _ _ _ _ _ _ => trivial)
    intro ℓ₁ now h₁ hnow
    refine Runs.bind (Runs.check ?_ fun _ _ => trivial)
    intro deadline hdeadline
    refine Runs.bind (Runs.check ?_ fun _ _ => trivial)
    intro next hnext
    obtain ⟨-, -, rfl⟩ := transition_from hstate (by decide) hnext
    exact commit_returns h₁ (h₁.known hrecord) rfl fun w hgrows =>
      .confirmation (.recoverTimedOut hstate hassess htx (hnow.mono hgrows) hdeadline)

theorem resumeConfirming_runs (hlawful : Lawful deps auction ℓ.world)
    (hrecord : record ∈ versions ℓ.world record.reservationId) :
    Completes deps auction (Returned deps auction record ℓ) (resumeConfirming deps record) ℓ := by
  refine Runs.bind (Runs.check ?_ fun _ _ => trivial)
  intro selected hselection
  unfold confirmableSelection at hselection
  obtain ⟨hstate, hrest⟩ := check_eq_ok.mp hselection
  split at hrest
  · cases hrest
  · next s hselected =>
    simp only [check_eq_ok, require_eq_ok, pure_eq_ok] at hrest
    obtain ⟨-, -, rfl⟩ := hrest
    refine runMirrorConfirmation_runs hlawful hrecord ?_ hselected
    rcases require_eq_ok.mp hstate with hs | hs <;> rw [hs] <;> decide

variable {reconcile resume : JsString → ServiceM ReservationRecord}

theorem resumeWith_runs (hreconcile : ∀ ℓ id, Lawful deps auction ℓ.world →
      Completes deps auction (Answers deps auction id ℓ) (reconcile id) ℓ) {id : JsString}
    (hlawful : Lawful deps auction ℓ.world) :
    Completes deps auction (Answers deps auction id ℓ) (resumeWith deps reconcile id) ℓ := by
  refine Runs.bind (Runs.requireRecord (.refl hlawful) ?_ fun _ _ _ => trivial)
  intro ℓ₁ record h₁ hr hid _
  have hrecord : record ∈ versions ℓ₁.world record.reservationId := by
    rw [hid]
    exact hr
  have hreturns {m : ServiceM ReservationRecord}
      (hm : Completes deps auction (Returned deps auction record ℓ₁) m ℓ₁) :
      Completes deps auction (Answers deps auction id ℓ) m ℓ₁ := by
    refine Prog.SafeM.mono hm h₁.lawful ?_ fun _ _ _ _ _ => trivial
    intro ℓ₂ r _ _ hr
    exact hr.answers h₁.toSince hid
  show Completes deps auction _ (if record.routeReserved.isSome ∨ record.state ∈ POST_RESERVATION_STATES then _ else _) ℓ₁
  split
  · exact ⟨h₁.toSince, hr⟩
  · split
    · split
      · exact ⟨h₁.toSince, hr⟩
      · rw [hid]
        refine Prog.SafeM.mono (hreconcile ℓ₁ id h₁.lawful) h₁.lawful ?_ fun _ _ _ _ _ => trivial
        intro ℓ₂ r _ _ hr
        exact ⟨h₁.toSince.trans hr.since, hr.known⟩
    · split
      · next hstate =>
        refine hreturns (Runs.andThen (recoverTimedOutConfirmation_runs h₁.lawful hrecord hstate) h₁.lawful ?_)
        intro ℓ₂ recovered _ hlawful₂ hrecovered
        show Completes deps auction _ (if recovered.state = mirrorConfirmationPending then _ else _) ℓ₂
        split
        · refine Prog.SafeM.mono (resumeConfirming_runs hlawful₂ hrecovered.known_self) hlawful₂ ?_
            fun _ _ _ _ _ => trivial
          intro ℓ₃ r _ _ hr
          exact hrecovered.trans hr
        · exact hrecovered
      · exact hreturns (resumeConfirming_runs h₁.lawful hrecord)

/-! ## Reconciliation -/

theorem failReconciled_runs {base : ReservationRecord} {f : ReconcileFailure} (h : Ahead deps auction ℓ₀ ℓ)
    (hrecord : record ∈ versions ℓ.world record.reservationId) (hid : base.reservationId = record.reservationId)
    (hne : base.state ≠ f.target)
    (hchange : ∀ w now, ℓ.world <+: w → Clocked w now → Change deps w f.site record
      { base.entered f.target f.reason now with failureCode := some (js f.code), failureReason := some f.text }) :
    Completes deps auction (Returned deps auction record ℓ₀) (failReconciled record base f) ℓ := by
  refine Runs.bind (Runs.nowIso h.here ?_ fun _ _ _ _ _ _ => trivial)
  intro ℓ₁ now h₁ hnow
  refine Runs.bind (Runs.check ?_ fun _ _ => trivial)
  intro next hnext
  obtain ⟨-, -, rfl⟩ := transition_from rfl hne hnext
  exact commit_returns (h.trans h₁) (h₁.known hrecord) hid fun w hgrows =>
    hchange w now (h₁.grows.trans hgrows) (hnow.mono hgrows)

/-- A reconciliation answers with a stored version too. -/
abbrev Reconciles (deps : ServiceDeps) (auction : Auction) (id : JsString) (m : ServiceM Reconciliation) (ℓ : View) :
    Prop :=
  Completes deps auction (fun ℓ' r => Answers deps auction id ℓ ℓ' r.record) m ℓ

/-- The record of a failed reconciliation, with its outcome. -/
theorem failReconciled_then {base : ReservationRecord} {f : ReconcileFailure}
    {outcome : SettlementReconciliationOutcome} {id : JsString} {ℓ₁ : View} (h : Ahead deps auction ℓ ℓ₁)
    (hrecord : record ∈ versions ℓ.world record.reservationId) (hrid : record.reservationId = id)
    (hid : base.reservationId = record.reservationId) (hne : base.state ≠ f.target)
    (hchange : ∀ w now, ℓ₁.world <+: w → Clocked w now → Change deps w f.site record
      { base.entered f.target f.reason now with failureCode := some (js f.code), failureReason := some f.text }) :
    Completes deps auction (fun ℓ' (r : Reconciliation) => Answers deps auction id ℓ ℓ' r.record)
      (do let committed ← failReconciled record base f; pure ⟨outcome, committed⟩) ℓ₁ := by
  refine Runs.andThen (failReconciled_runs h (h.known hrecord) hid hne hchange) h.lawful ?_
  intro ℓ₂ r _ _ hr
  refine ⟨hr.since, ?_⟩
  rw [← hrid]
  exact hr.known

theorem preClaimTarget_ne (record : ReservationRecord)
    (hstate : record.state = paymentSubmissionStarted ∨ record.state = facilitatorVerified) :
    record.state ≠ preClaimTarget record := by
  rcases preClaimTarget_cases record with ht | ht <;> rw [ht] <;> rcases hstate with hs | hs <;> rw [hs] <;> decide

/-- A lookup that found nothing, then a clock past the boundary. -/
theorem foundNothing {w : Trace} {l : ExactLookup} {start : Nat} {mirror : MirrorConfirmation} {ms : Int}
    {w' : Trace} (hlooked : Looked w start l.exact (.ok mirror)) (hstatus : mirror.status = .notFound)
    (hgrows : w ++ [⟨.nowMs, ms⟩] <+: w') (hpast : l.boundaryMs < ms) : FoundNothing w' l := by
  obtain ⟨rest, rfl⟩ := hgrows
  obtain ⟨before, after, rfl⟩ := List.append_of_mem hlooked
  refine ⟨start, before, mirror, after ++ [⟨.nowMs, ms⟩] ++ rest, by simp, hstatus, ms, ?_, hpast⟩
  simp

/-- The clock that is read after a lookup. -/
theorem nowMs_runs {Q : View → Int → Prop} (h : Ahead deps auction ℓ₀ ℓ)
    (hQ : ∀ ℓ' w ms, Ahead deps auction ℓ₀ ℓ' → ℓ.world <+: w → ℓ'.world = w ++ [⟨.nowMs, ms⟩] → Q ℓ' ms) :
    Completes deps auction Q (read Call.nowMs) ℓ := by
  refine Prog.SafeM.lift (Runs.perform (o := Call.nowMs) h rfl (fun _ _ _ => trivial) ?_)
  intro ℓ' w ms h' hgrows _ _ hworld _ _
  exact hQ ℓ' w ms h' hgrows hworld

theorem reconcilePreClaim_runs {ref : ClientTransactionRef} {id : JsString} (hlawful : Lawful deps auction ℓ.world)
    (hrecord : record ∈ versions ℓ.world record.reservationId) (hrid : record.reservationId = id)
    (hstate : record.state = paymentSubmissionStarted ∨ record.state = facilitatorVerified)
    (href : record.clientTransaction = some ref) : Reconciles deps auction id (reconcilePreClaim record ref) ℓ := by
  have hself {ℓ' : View} (h' : Ahead deps auction ℓ ℓ') : Answers deps auction id ℓ ℓ' record := by
    refine ⟨h'.toSince, ?_⟩
    rw [← hrid]
    exact h'.known hrecord
  refine Runs.bind (Runs.check ?_ fun _ _ => trivial)
  intro l hl
  refine Runs.bind (Runs.getTransaction (.refl hlawful) ?_ fun _ _ _ _ _ => trivial)
  intro ℓ₁ start found h₁ hlooked
  cases hstatus : found.status with
  | success =>
    simp only
    refine failReconciled_then h₁ hrecord hrid rfl ?_ ?_
    · rcases hstate with hs | hs <;> rw [hs] <;> exact ReservationState.noConfusion
    · intro w now hgrows hnow
      exact .submission (.unauthorizedSettlement hstate href hl (hgrows.subset hlooked) hstatus hnow)
  | failed =>
    simp only
    refine failReconciled_then h₁ hrecord hrid rfl (preClaimTarget_ne record hstate) ?_
    intro w now hgrows hnow
    exact .submission (.preClaimFailed hstate href hl (hgrows.subset hlooked) hstatus hnow)
  | pending =>
    simp only
    exact hself h₁
  | notFound =>
    simp only
    refine Runs.bind (nowMs_runs h₁ ?_)
    intro ℓ₂ w₂ ms h₂ hgrows₂ hworld
    show Completes deps auction _ (if ms ≤ l.boundaryMs then _ else _) ℓ₂
    split
    · exact hself h₂
    · next hpast =>
      refine failReconciled_then h₂ hrecord hrid rfl (preClaimTarget_ne record hstate) ?_
      intro w now hgrows hnow
      rw [hworld] at hgrows
      exact .submission (.preClaimConclusive hstate href hl
        (foundNothing (hgrows₂.subset hlooked) hstatus hgrows (not_le.mp hpast)) hnow)

theorem reconcileClaimed_runs {claim : SettleClaim} {m : ServiceM ReservationRecord} {id : JsString}
    (hm : ∀ ℓ, Lawful deps auction ℓ.world → Completes deps auction (Answers deps auction id ℓ) m ℓ)
    (hlawful : Lawful deps auction ℓ.world) (hrecord : record ∈ versions ℓ.world record.reservationId)
    (hrid : record.reservationId = id) (hstate : record.state = facilitatorSettleClaimed)
    (hclaim : record.settleClaim = some claim) : Reconciles deps auction id (reconcileClaimed m record claim) ℓ := by
  have hself {ℓ' : View} (h' : Ahead deps auction ℓ ℓ') : Answers deps auction id ℓ ℓ' record := by
    refine ⟨h'.toSince, ?_⟩
    rw [← hrid]
    exact h'.known hrecord
  have hne : record.state ≠ settlementFailed := by
    rw [hstate]
    exact ReservationState.noConfusion
  refine Runs.bind (Runs.check ?_ fun _ _ => trivial)
  intro l hl
  refine Runs.bind (Runs.getTransaction (.refl hlawful) ?_ fun _ _ _ _ _ => trivial)
  intro ℓ₁ start mirror h₁ hlooked
  refine Runs.bind (Runs.check ?_ fun _ _ => trivial)
  intro _ _
  cases hstatus : mirror.status with
  | success =>
    simp only
    have hrecovering : recoverInProgressState record ⟨none, some l.exact⟩ = adoptTransaction record l.exact := by
      have htruthy : truthy (some l.exact) = true := by
        simp only [exactLookup, bind_eq_ok, pure_eq_ok] at hl
        obtain ⟨exact, hexact, _, -, _, -, rfl⟩ := hl
        unfold requireTransactionIdForSettlement at hexact
        split at hexact
        · cases hexact
        · split at hexact
          · cases hexact
          · next hne =>
            cases hexact
            simpa [truthy] using hne
      simp only [recoverInProgressState, hstate, recoverClaimed, htruthy, if_true, Option.getD_some]
    rw [hrecovering]
    refine Runs.andThen (adoptTransaction_runs h₁) h₁.lawful ?_
    rintro ℓ₂ recovered hgrows₂ _ ⟨h₂, now, deadline, rfl, hsystem, hdeadline⟩
    refine Runs.bind (Runs.nowIso h₂.here ?_ fun _ _ _ _ _ _ => trivial)
    intro ℓ₃ updatedAt h₂₃ hupdated
    have h₃ := h₂.trans h₂₃
    refine Runs.andThen (commit_returns h₃ (h₃.known hrecord) rfl ?_) h₃.lawful ?_
    · intro w hgrows
      have hw := h₂₃.grows.trans hgrows
      exact .submission (.adopt hstate hclaim hl (hw.subset (hgrows₂.subset hlooked)) hstatus (hsystem.mono hw)
        (hdeadline.mono hw) (hupdated.mono hgrows))
    · intro ℓ₄ adopted _ hlawful₄ hadopted
      refine Runs.andThen (hm ℓ₄ hlawful₄) hlawful₄ ?_
      intro ℓ₅ r _ _ hr
      exact ⟨hadopted.since.trans hr.since, hr.known⟩
  | failed =>
    simp only
    refine Runs.bind (Runs.nowIso h₁.here ?_ fun _ _ _ _ _ _ => trivial)
    intro ℓ₂ updatedAt h₂ _
    refine failReconciled_then (h₁.trans h₂) hrecord hrid rfl hne ?_
    intro w now hgrows hnow
    exact .submission (.claimedFailed hstate hclaim hl ((h₂.grows.trans hgrows).subset hlooked) hstatus hnow)
  | pending =>
    simp only
    exact hself h₁
  | notFound =>
    simp only
    refine Runs.bind (nowMs_runs h₁ ?_)
    intro ℓ₂ w₂ ms h₂ hgrows₂ hworld
    show Completes deps auction _ (if ms ≤ l.boundaryMs then _ else _) ℓ₂
    split
    · exact hself h₂
    · next hpast =>
      refine failReconciled_then h₂ hrecord hrid rfl hne ?_
      intro w now hgrows hnow
      rw [hworld] at hgrows
      exact .submission (.claimedConclusive hstate hclaim hl
        (foundNothing (hgrows₂.subset hlooked) hstatus hgrows (not_le.mp hpast)) hnow)

theorem reconcileResumed_runs {m : ServiceM ReservationRecord} {id : JsString}
    (hm : ∀ ℓ, Lawful deps auction ℓ.world → Completes deps auction (Answers deps auction id ℓ) m ℓ)
    (hlawful : Lawful deps auction ℓ.world) (hrecord : record ∈ versions ℓ.world id) :
    Reconciles deps auction id (reconcileResumed m record) ℓ := by
  have hiso {ℓ₁ : View} {resumed : ReservationRecord} {boundary : Int} (h₁ : Answers deps auction id ℓ ℓ₁ resumed) :
      Completes deps auction (fun ℓ' (r : Reconciliation) => Answers deps auction id ℓ ℓ' r.record)
        (do
          let iso ← check (toISOString boundary)
          pure ⟨.reconciliationPending iso, resumed⟩) ℓ₁ :=
    Runs.bind (Runs.check (fun _ _ => h₁) fun _ _ => trivial)
  unfold reconcileResumed
  cases record.settleClaim with
  | some claim =>
    have hfinish {ℓ₁ : View} {resumed : ReservationRecord} (h₁ : Answers deps auction id ℓ ℓ₁ resumed) :
        Completes deps auction (fun ℓ' (r : Reconciliation) => Answers deps auction id ℓ ℓ' r.record)
          (if truthy resumed.transactionId then pure ⟨.foundSuccess (resumed.transactionId.getD []), resumed⟩
          else do
            let boundary ←
              check (conclusiveFailureBoundaryMs claim.validStartTimestamp claim.transactionValidDurationSeconds)
            let iso ← check (toISOString boundary)
            pure ⟨.reconciliationPending iso, resumed⟩) ℓ₁ := by
      split
      · exact h₁
      · exact Runs.bind (Runs.check (fun _ _ => hiso h₁) fun _ _ => trivial)
    by_cases hreserved : record.routeReserved.isSome
    · simp only [hreserved, if_true]
      exact hfinish ⟨(Ahead.refl hlawful).toSince, hrecord⟩
    · simp only [hreserved]
      exact Runs.andThen (hm ℓ hlawful) hlawful fun ℓ₁ resumed _ _ hresumed => hfinish hresumed
  | none =>
    have hfinish {ℓ₁ : View} {resumed : ReservationRecord} (h₁ : Answers deps auction id ℓ ℓ₁ resumed) :
        Completes deps auction (fun ℓ' (r : Reconciliation) => Answers deps auction id ℓ ℓ' r.record)
          (if truthy resumed.transactionId then pure ⟨.foundSuccess (resumed.transactionId.getD []), resumed⟩
          else do
            let now ← nowIso
            let boundary ← check (conclusiveFailureBoundaryMs now 180)
            let iso ← check (toISOString boundary)
            pure ⟨.reconciliationPending iso, resumed⟩) ℓ₁ := by
      split
      · exact h₁
      · refine Runs.bind (Runs.nowIso h₁.since.here ?_ fun _ _ _ _ _ _ => trivial)
        intro ℓ₂ now h₂ _
        refine Runs.bind (Runs.check (fun _ _ => hiso ?_) fun _ _ => trivial)
        exact ⟨h₁.since.trans h₂.toSince, h₂.known h₁.known⟩
    by_cases hreserved : record.routeReserved.isSome
    · simp only [hreserved, if_true]
      exact hfinish ⟨(Ahead.refl hlawful).toSince, hrecord⟩
    · simp only [hreserved]
      exact Runs.andThen (hm ℓ hlawful) hlawful fun ℓ₁ resumed _ _ hresumed => hfinish hresumed

theorem reconcileWith_runs (hresume : ∀ ℓ id, Lawful deps auction ℓ.world →
      Completes deps auction (Answers deps auction id ℓ) (resume id) ℓ) {id : JsString}
    (hlawful : Lawful deps auction ℓ.world) : Reconciles deps auction id (reconcileWith resume id) ℓ := by
  refine Runs.bind (Runs.requireRecord (.refl hlawful) ?_ fun _ _ _ => trivial)
  intro ℓ₁ record h₁ hr hid _
  have hrecord : record ∈ versions ℓ₁.world record.reservationId := by
    rw [hid]
    exact hr
  have hanswers {m : ServiceM Reconciliation} (hm : Reconciles deps auction id m ℓ₁) :
      Completes deps auction (fun ℓ' r => Answers deps auction id ℓ ℓ' r.record) m ℓ₁ := by
    refine Prog.SafeM.mono hm h₁.lawful ?_ fun _ _ _ _ _ => trivial
    intro ℓ₂ r _ _ hr
    exact ⟨h₁.toSince.trans hr.since, hr.known⟩
  show Completes deps auction _ (if record.routeReserved.isSome ∨ _ then _ else _) ℓ₁
  split
  · exact hanswers (reconcileResumed_runs (fun ℓ hlawful => hresume ℓ id hlawful) h₁.lawful hr)
  · split
    · next hstate href => exact hanswers (reconcilePreClaim_runs h₁.lawful hrecord hid (.inl hstate) href)
    · next hstate href => exact hanswers (reconcilePreClaim_runs h₁.lawful hrecord hid (.inr hstate) href)
    · next hstate hclaim =>
      exact hanswers (reconcileClaimed_runs (fun ℓ hlawful => hresume ℓ id hlawful) h₁.lawful hrecord hid hstate hclaim)
    · trivial

/-- The record of a reconciliation. -/
theorem reconciledRecord_runs {m : ServiceM Reconciliation} {id : JsString} (hm : Reconciles deps auction id m ℓ) :
    Completes deps auction (Answers deps auction id ℓ) (do return (← m).record) ℓ :=
  Runs.bind hm

theorem reconcilePayment_runs (depth : Nat) (ℓ : View) (id : JsString) (hlawful : Lawful deps auction ℓ.world) :
    Reconciles deps auction id (reconcilePayment deps depth id) ℓ := by
  induction depth generalizing ℓ id with
  | zero => trivial
  | succ depth ih =>
    refine reconcileWith_runs ?_ hlawful
    intro ℓ id hlawful
    refine resumeWith_runs ?_ hlawful
    intro ℓ id hlawful
    exact reconciledRecord_runs (ih ℓ id hlawful)

theorem resumePaymentConfirmation_runs (depth : Nat) (ℓ : View) (id : JsString) (hlawful : Lawful deps auction ℓ.world) :
    Completes deps auction (Answers deps auction id ℓ) (resumePaymentConfirmation deps depth id) ℓ := by
  refine resumeWith_runs ?_ hlawful
  intro ℓ id hlawful
  exact reconciledRecord_runs (reconcilePayment_runs depth ℓ id hlawful)

theorem authorizeReplacementAttempt_runs {id : JsString} (hlawful : Lawful deps auction ℓ.world) :
    Completes deps auction (Answers deps auction id ℓ) (authorizeReplacementAttempt id) ℓ := by
  refine requireRecord_then hlawful ?_
  intro ℓ record hlawful hrecord
  refine Runs.bind (Runs.check ?_ fun _ _ => trivial)
  intro _ hauthorized
  obtain ⟨hstate, hcode⟩ := require_eq_ok.mp hauthorized
  refine Runs.bind (Runs.isPastDeadline (.refl hlawful) ?_)
  intro ℓ₁ past h₁
  refine Runs.bind (Runs.check ?_ fun _ _ => trivial)
  intro _ _
  refine Runs.bind (Runs.nowIso h₁ ?_ fun _ _ _ _ _ _ => trivial)
  intro ℓ₂ now h₂ hnow
  refine Runs.bind (Runs.check ?_ fun _ _ => trivial)
  intro next hnext
  have hne : record.state ≠ offerCreated := by
    rcases hstate with hs | hs <;> rw [hs] <;> decide
  obtain ⟨-, -, rfl⟩ := transition_from rfl hne hnext
  exact commit_returns h₂ (h₂.known hrecord) rfl fun w hgrows =>
    .submission (.authorizeReplacement hstate hcode (hnow.mono hgrows))

/-! ## Creation -/

theorem createReservation_runs {input : CreateReservationInput} {tender : FreightTender}
    (hlawful : Lawful deps auction ℓ.world) :
    Completes deps auction (fun ℓ' _ => Since deps auction ℓ ℓ') (createReservation deps.crypto auction input tender)
      ℓ := by
  refine Runs.andThen (Q := fun ℓ₁ _ => Ahead deps auction ℓ ℓ₁)
    (Runs.storeGet (.refl hlawful) (fun _ _ h₁ _ _ => h₁) (fun _ h₁ _ => h₁) fun _ _ _ => trivial) hlawful ?_
  intro ℓ₁ existing _ _ h₁
  refine Runs.bind (Runs.check ?_ fun _ _ => trivial)
  intro record hrecord
  cases existing with
  | some existing => exact Runs.check (fun _ _ => h₁.toSince) fun _ _ => trivial
  | none =>
    refine Runs.perform (o := .create record) h₁ rfl (fun _ _ _ => ⟨input, tender, hrecord⟩) ?_
    intro ℓ₂ w answer h₂ _ _ _ _ _ _
    cases answer with
    | ok r => exact h₂.toSince
    | error e => trivial

/-! ## Requests -/

theorem answers_since {m : ServiceM ReservationRecord} {i : JsString} (hlawful : Lawful deps auction ℓ.world)
    (hm : Completes deps auction (Answers deps auction i ℓ) m ℓ) :
    Completes deps auction (fun ℓ' _ => Since deps auction ℓ ℓ') (some <$> m) ℓ := by
  refine Prog.SafeM.map (Prog.SafeM.mono hm hlawful ?_ fun _ _ _ _ _ => trivial)
  intro ℓ₁ r _ _ hr
  exact hr.since

theorem serve_runs (request : Request) (hlawful : Lawful deps auction ℓ.world) :
    Completes deps auction (fun ℓ' _ => Since deps auction ℓ ℓ') (serve deps auction request) ℓ := by
  cases request with
  | createReservation input tender =>
    exact Prog.SafeM.map (createReservation_runs hlawful)
  | getReservation id =>
    exact Runs.storeGet (.refl hlawful) (fun _ _ h _ _ => h.toSince) (fun _ h _ => h.toSince) fun _ _ _ => trivial
  | selectOption input => exact answers_since hlawful (selectOption_runs hlawful)
  | issueChallenge id optionId => exact answers_since hlawful (issueChallenge_runs hlawful)
  | submitPayment input => exact answers_since hlawful (submitPayment_runs hlawful)
  | resumePaymentConfirmation id => exact answers_since hlawful (resumePaymentConfirmation_runs deps.depth ℓ id hlawful)
  | reconcilePayment id =>
    refine Prog.SafeM.map (Prog.SafeM.mono (reconcilePayment_runs deps.depth ℓ id hlawful) hlawful ?_
      fun _ _ _ _ _ => trivial)
    intro ℓ₁ r _ _ hr
    exact hr.since
  | authorizeReplacementAttempt id => exact answers_since hlawful (authorizeReplacementAttempt_runs hlawful)
  | retryWebhooks id =>
    refine answers_since (i := id) hlawful (requireRecord_then hlawful ?_)
    intro ℓ record hlawful hrecord
    exact Runs.bind (Runs.check (fun _ _ => deliverPersistedWebhooks_runs hlawful hrecord) fun _ _ => trivial)
  | resumeWebhookDispatch id =>
    refine answers_since (i := id) hlawful (requireRecord_then hlawful ?_)
    intro ℓ record hlawful hrecord
    exact Runs.bind (Runs.check (fun _ _ => dispatchWebhooks_runs hlawful hrecord) fun _ _ => trivial)
  | resumeHcsPublication id =>
    refine answers_since (i := id) hlawful (requireRecord_then hlawful ?_)
    intro ℓ record hlawful hrecord
    exact Runs.bind (Runs.check (fun _ _ => publishHcsEvidence_runs deps.depth ℓ record hlawful hrecord)
      fun _ _ => trivial)
  | recover id resolution => exact answers_since hlawful (recover_runs hlawful)

end Service

/-! ## Runs -/

/-- A request that answered has kept every publication it made. -/
def AllKept (ℓ : View) : Except ServiceError Response → Prop
  | .ok _ => ∀ claim result, ¬ Unkept ℓ claim result
  | .error _ => True

section Runs
variable {deps : ServiceDeps} {auction : Auction} {ls : List (PoolLabel Request Call Call.Answer)}
  {s : Pool Trace Call Call.Answer (Except ServiceError Response)}

/-- In every run of the service, whatever the interleaving, the answers and the requests that are lost, the trace is
lawful, no attempt is spent twice, and whoever answered has kept its publications. -/
theorem serviceSystem_holds (hrun : (serviceSystem deps auction).Run ls s) :
    ∃ held, (serviceContract deps auction).Holds AllKept ls s held := by
  refine (serviceContract deps auction).holds_of_run ?_ ?_ ?_ hrun
  · intro ℓ answer w hgrows hkept
    cases answer with
    | error e => trivial
    | ok r =>
      intro claim result hu
      refine hkept claim result ⟨hu.published, hu.accepted, ?_, hu.unopposed⟩
      intro hrecorded
      exact hu.unrecorded (hrecorded.mono hgrows)
  · rintro w rfl
    exact ⟨.nil, rfl⟩
  · intro request w hlawful
    refine Prog.Safe.mono (serve_runs (ℓ := ⟨w, [], []⟩) request hlawful) hlawful ?_
    intro ℓ answer _ _ hsince
    cases answer with
    | error e => trivial
    | ok r =>
      intro claim result hu
      obtain ⟨envelope, hmem⟩ := (hsince.kept claim result hu).published
      cases hmem

theorem lawful_of_run (hrun : (serviceSystem deps auction).Run ls s) : Lawful deps auction s.shared := by
  obtain ⟨held, hholds⟩ := serviceSystem_holds hrun
  exact hholds.inv

/-- No attempt id is spent on two calls. -/
theorem spent_nodup (hrun : (serviceSystem deps auction).Run ls s) :
    (s.shared.filterMap fun e => e.1.spent).Nodup := by
  obtain ⟨held, hholds⟩ := serviceSystem_holds hrun
  exact hholds.custody.used_nodup

end Runs

end RouteGuard.Reservation
