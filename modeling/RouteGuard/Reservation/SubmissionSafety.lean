import RouteGuard.Reservation.ConfirmationSafety

/-!
# The submission keeps the contract

The settle claim is committed before the one settle call, and its attempt id is spent by the program that drew it.

* `selectOption_runs`, `issueChallenge_runs` : the way to a challenge;
* `claimSettle_runs` : who goes on in `FACILITATOR_SETTLE_CLAIMED` holds the attempt of the claim;
* `submitPayment_runs` : the whole submission.
-/

namespace RouteGuard.Reservation
open JsString Guarded ReservationState ServiceM

section Submission
variable {deps : ServiceDeps} {auction : Auction} {ℓ₀ ℓ : View} {record : ReservationRecord}

/-- The answer of an operation: a stored version of the reservation. -/
structure Answers (deps : ServiceDeps) (auction : Auction) (id : JsString) (ℓ₀ ℓ : View) (r : ReservationRecord) :
    Prop where
  since : Since deps auction ℓ₀ ℓ
  known : r ∈ versions ℓ.world id

theorem Returned.answers {r : ReservationRecord} {id : JsString} {ℓ₁ : View} (h : Since deps auction ℓ₀ ℓ₁)
    (hr : Returned deps auction record ℓ₁ ℓ r) (hid : record.reservationId = id) : Answers deps auction id ℓ₀ ℓ r := by
  refine ⟨h.trans hr.since, ?_⟩
  rw [← hid]
  exact hr.known

/-- An operation on the stored record. -/
theorem requireRecord_then {id : JsString} {m : ReservationRecord → ServiceM ReservationRecord}
    (hlawful : Lawful deps auction ℓ.world)
    (hm : ∀ ℓ' r, Lawful deps auction ℓ'.world → r ∈ versions ℓ'.world r.reservationId →
      Completes deps auction (Returned deps auction r ℓ') (m r) ℓ') :
    Completes deps auction (Answers deps auction id ℓ) (requireRecord id >>= m) ℓ := by
  refine Runs.bind (Runs.requireRecord (.refl hlawful) ?_ fun _ _ _ => trivial)
  intro ℓ₁ r h₁ hr hid _
  have hknown : r ∈ versions ℓ₁.world r.reservationId := by
    rw [hid]
    exact hr
  refine Prog.SafeM.mono (hm ℓ₁ r h₁.lawful hknown) h₁.lawful ?_ fun _ _ _ _ _ => trivial
  intro ℓ₂ r' _ _ hr'
  exact hr'.answers h₁.toSince hid

/-- A commit that may not meet another writer. -/
theorem commit_returns {site : CommitSite} {next : ReservationRecord} (h : Ahead deps auction ℓ₀ ℓ)
    (hrecord : record ∈ versions ℓ.world record.reservationId) (hid : next.reservationId = record.reservationId)
    (hchange : ∀ w, ℓ.world <+: w → Change deps w site record next) :
    Completes deps auction (Returned deps auction record ℓ₀) (commit site record next) ℓ := by
  refine Runs.commit h hrecord hid hchange ?_ fun _ _ _ _ _ _ => trivial
  intro ℓ' r hahead hr hmem _
  exact ⟨hahead.toSince, hmem, by rw [hr]; exact Nat.le_succ _⟩

/-! ## Selection and challenge -/

theorem selectOption_runs {input : SelectInput} (hlawful : Lawful deps auction ℓ.world) :
    Completes deps auction (Answers deps auction input.reservationId ℓ) (selectOption deps input) ℓ := by
  refine requireRecord_then hlawful ?_
  intro ℓ record hlawful hrecord
  have h := Ahead.refl hlawful
  refine Runs.bind (Runs.check ?_ fun _ _ => trivial)
  intro _ hunlocked
  show Completes deps auction _ (if alreadySelected record input then _ else _) ℓ
  split
  · exact .self h.toSince hrecord
  · next hnew =>
    refine Runs.bind (Runs.check ?_ fun _ _ => trivial)
    intro _ hagain
    refine Runs.bind (Runs.nowIso h ?_ fun _ _ _ _ _ _ => trivial)
    intro ℓ₁ now h₁ hnow
    refine Runs.bind (Runs.check ?_ fun _ _ => trivial)
    intro selected hselected
    refine Runs.bind (Runs.check ?_ fun _ _ => trivial)
    intro next hnext
    by_cases hstate : record.state = offerCreated
    · rw [if_pos hstate] at hnext
      obtain ⟨-, -, rfl⟩ := transition_from (r := selectedRecord record selected now) hstate (by decide) hnext
      exact commit_returns h₁ (h₁.known hrecord) rfl fun _ hgrows =>
        .submission (.selectFirst hstate (hnow.mono hgrows) hselected)
    · rw [if_neg hstate, pure_eq_ok] at hnext
      subst hnext
      exact commit_returns h₁ (h₁.known hrecord) rfl fun _ hgrows =>
        .submission (.selectAgain (require_eq_ok.mp hunlocked) hstate hnew hagain (hnow.mono hgrows) hselected)

theorem createChallengeFor_runs {selected : SelectedPaymentOption} (hlawful : Lawful deps auction ℓ.world)
    (hrecord : record ∈ versions ℓ.world record.reservationId) (hselected : record.selected = some selected)
    (hnone : record.paymentChallenge = none) :
    Completes deps auction (Returned deps auction record ℓ) (createChallengeFor deps record selected) ℓ := by
  refine Runs.bind (Runs.perform (o := .createChallenge selected) (.refl hlawful) rfl (fun _ _ _ => trivial) ?_)
  intro ℓ₁ w answer h₁ _ _ _ _ _ _
  cases answer with
  | error e => trivial
  | ok challenge =>
    refine Runs.bind (Runs.check ?_ fun _ _ => trivial)
    intro _ _
    refine Runs.bind (Runs.nowIso h₁ ?_ fun _ _ _ _ _ _ => trivial)
    intro ℓ₂ issuedAt h₂ hnow
    refine Runs.bind (Runs.check ?_ fun _ _ => trivial)
    intro durable hdurable
    refine Runs.bind (Runs.check ?_ fun _ _ => trivial)
    intro next hnext
    have hchange (w : Trace) (hgrows : ℓ₂.world <+: w) : next.reservationId = record.reservationId ∧
        Change deps w .issueChallenge record next := by
      have hnow := hnow.mono hgrows
      by_cases hstate : record.state = optionSelected
      · rw [if_pos hstate] at hnext
        obtain ⟨-, -, rfl⟩ := transition_from (r := challengedRecord record durable issuedAt) hstate (by decide)
          hnext
        exact ⟨rfl, .submission (.challengeFirst hstate hselected hnone hnow hdurable)⟩
      · rw [if_neg hstate, pure_eq_ok] at hnext
        subst hnext
        exact ⟨rfl, .submission (.challengeAgain hstate hselected hnone hnow hdurable)⟩
    refine Runs.andThen (commitOrConflict_returns h₂ (h₂.known hrecord) (hchange _ (List.prefix_refl _)).1
      fun w hgrows => (hchange w hgrows).2) h₂.lawful ?_
    intro ℓ₃ r _ _ hr
    exact Runs.bind (Runs.check (fun _ _ => hr) fun _ _ => trivial)

theorem issueChallenge_runs {id : JsString} {optionId : ReservationOptionId} (hlawful : Lawful deps auction ℓ.world) :
    Completes deps auction (Answers deps auction id ℓ) (issueChallenge deps id optionId) ℓ := by
  refine requireRecord_then hlawful ?_
  intro ℓ record hlawful hrecord
  split
  · trivial
  · next selected hselected =>
    refine Runs.bind (Runs.check ?_ fun _ _ => trivial)
    intro _ _
    show Completes deps auction _ (if record.paymentChallenge.isSome then _ else _) ℓ
    split
    · exact .self (Ahead.refl hlawful).toSince hrecord
    · next hnone =>
      refine Runs.bind (Runs.check ?_ fun _ _ => trivial)
      intro _ _
      exact createChallengeFor_runs hlawful hrecord hselected (by simpa using hnone)

/-! ## The claim -/

/-- A record that may go on with a submission. -/
structure Submitting (record : ReservationRecord) (sub : Submission) : Prop where
  selected : record.selected = some sub.selected
  challenge : record.paymentChallengeHash = some sub.challengeHash
  unended : record.state ∉ TERMINAL_FAILURES

/-- What a step of the submission leaves: a record to go on with, or the answer. -/
def Goes (deps : ServiceDeps) (auction : Auction) (record : ReservationRecord) (sub : Submission) (ℓ₀ ℓ : View) :
    Flow → Prop
  | .proceed r => Returned deps auction record ℓ₀ ℓ r ∧ Submitting r sub
  | .stop r => Returned deps auction record ℓ₀ ℓ r

variable {input : SubmitInput} {sub : Submission}

/-- A commit of the submission: a conflict stops it. -/
theorem commitFlow_runs {site : CommitSite} {next : ReservationRecord} (h : Ahead deps auction ℓ₀ ℓ)
    (hrecord : record ∈ versions ℓ.world record.reservationId) (hid : next.reservationId = record.reservationId)
    (hchange : ∀ w, ℓ.world <+: w → Change deps w site record next) (hnext : Submitting next sub) :
    Completes deps auction (Goes deps auction record sub ℓ₀)
      (do let r ← commitOrConflict site record next; pure r.flow) ℓ := by
  refine Runs.bind (Runs.commitOrConflict h hrecord hid hchange ?_ ?_
    fun _ _ _ => trivial)
  · intro ℓ' r h' hr hmem _
    refine ⟨⟨h'.toSince, hmem, by rw [hr]; exact Nat.le_succ _⟩, ?_⟩
    rw [hr]
    exact ⟨hnext.selected, hnext.challenge, hnext.unended⟩
  · intro ℓ' r h' hmem hlt _
    exact ⟨h'.toSince, hmem, le_of_lt hlt⟩

theorem startSubmission_runs (hlawful : Lawful deps auction ℓ.world)
    (hrecord : record ∈ versions ℓ.world record.reservationId) (hsubmitting : Submitting record sub)
    (hsub : submissionOf record input sub.selected = .ok sub) :
    Completes deps auction (Goes deps auction record sub ℓ) (startSubmission record input sub.clientTx) ℓ := by
  have h := Ahead.refl hlawful
  have hself : Goes deps auction record sub ℓ ℓ (.proceed record) := ⟨.self h.toSince hrecord, hsubmitting⟩
  unfold startSubmission
  split
  · next hstate =>
    refine Runs.bind (Runs.nowIso h ?_ fun _ _ _ _ _ _ => trivial)
    intro ℓ₁ now h₁ hnow
    refine Runs.bind (Runs.check ?_ fun _ _ => trivial)
    intro next hnext
    obtain ⟨-, -, rfl⟩ := transition_from (r := submittedRecord record input sub.clientTx now) hstate (by decide)
      hnext
    refine commitFlow_runs h₁ (h₁.known hrecord) rfl ?_ ⟨hsubmitting.selected, hsubmitting.challenge, ?_⟩
    · intro w hgrows
      exact .submission (.startSubmission hstate hsubmitting.selected hsub (hnow.mono hgrows))
    · exact (by decide : paymentSubmissionStarted ∉ TERMINAL_FAILURES)
  · split
    · refine Runs.bind (Runs.check (fun _ _ => hself) fun _ _ => trivial)
    · exact hself

theorem verifyPayment_runs (hlawful : Lawful deps auction ℓ.world)
    (hrecord : record ∈ versions ℓ.world record.reservationId) (hsubmitting : Submitting record sub) :
    Completes deps auction (Goes deps auction record sub ℓ) (verifyPayment record input sub) ℓ := by
  unfold verifyPayment
  split
  · next hstate =>
    refine Runs.bind (Runs.perform (o := .verify _ _ _) (.refl hlawful) rfl (fun _ _ _ => trivial) ?_)
    intro ℓ₁ w answer h₁ _ _ _ hworld _ _
    cases answer with
    | error e => trivial
    | ok result =>
      have hverified : ⟨.verify sub.selected input.paymentPayloadHash sub.challengeHash, .ok result⟩ ∈ ℓ₁.world := by
        rw [hworld]
        exact List.mem_append_right _ List.mem_cons_self
      refine Runs.bind (Runs.nowIso h₁.here ?_ fun _ _ _ _ _ _ => trivial)
      intro ℓ₂ updatedAt h₁₂ _
      refine Runs.bind (Runs.nowIso h₁₂ ?_ fun _ _ _ _ _ _ => trivial)
      intro ℓ₃ now h₁₃ hnow
      have h₃ := h₁.trans h₁₃
      show Completes deps auction _ (if result.isValid then _ else _) ℓ₃
      split
      · next hvalid =>
        refine Runs.bind (Runs.check ?_ fun _ _ => trivial)
        intro next hnext
        obtain ⟨-, -, rfl⟩ := transition_from
          (r := { record with facilitatorVerify := some result, updatedAt := updatedAt }) hstate (by decide) hnext
        refine commitFlow_runs h₃ (h₃.known hrecord) rfl ?_ ⟨hsubmitting.selected, hsubmitting.challenge, ?_⟩
        · intro w hgrows
          exact .submission (.verifyPayment hstate hvalid (hnow.mono hgrows))
        · exact (by decide : facilitatorVerified ∉ TERMINAL_FAILURES)
      · next hinvalid =>
        refine Runs.bind (Runs.check ?_ fun _ _ => trivial)
        intro next hnext
        obtain ⟨-, -, rfl⟩ := transition_from
          (r := { record with facilitatorVerify := some result, updatedAt := updatedAt }) hstate (by decide) hnext
        refine Runs.andThen (commit_returns h₃ (h₃.known hrecord) rfl ?_) h₃.lawful ?_
        · intro w hgrows
          exact .submission (.rejectPayment hstate (by simpa using hinvalid) (hgrows.subset (h₁₃.made hverified))
            (hnow.mono hgrows))
        · intro ℓ₄ r _ _ hr
          exact hr
  · exact ⟨.self (Ahead.refl hlawful).toSince hrecord, hsubmitting⟩

/-- Who goes on with a claimed record has committed the claim and holds its attempt. -/
theorem claimSettle_runs (hlawful : Lawful deps auction ℓ.world)
    (hrecord : record ∈ versions ℓ.world record.reservationId) (hsubmitting : Submitting record sub)
    (hparse : parseClientTransactionRef input.clientTransaction = .ok sub.clientTx) :
    Completes deps auction
      (fun ℓ' flow => Goes deps auction record sub ℓ ℓ' flow ∧ ∀ r claim, flow = .proceed r →
        r.state = facilitatorSettleClaimed → r.settleClaim = some claim →
        claim.settleAttemptId ∈ ℓ'.held ∧ claim.reservationId = r.reservationId ∧
          claim.paymentPayloadHash = input.paymentPayloadHash ∧ claim.challengeHash = sub.challengeHash)
      (claimSettle record input sub) ℓ := by
  have h := Ahead.refl hlawful
  unfold claimSettle
  split
  · next hstate =>
    refine Runs.bind (Runs.nowIso h ?_ fun _ _ _ _ _ _ => trivial)
    intro ℓ₁ claimedAt h₁ hnow
    refine Runs.bind (Runs.read h₁.here rfl (fun _ => trivial) ?_)
    intro ℓ₂ attemptId h₁₂ huuid hgained
    have h₂ := h₁.trans h₁₂
    refine Runs.bind (Runs.check ?_ fun _ _ => trivial)
    intro next hnext
    obtain ⟨-, -, rfl⟩ := transition_from
      (r := { record with
        settleClaim := some (settleClaimOf record input sub attemptId claimedAt), updatedAt := claimedAt })
      hstate (by decide) hnext
    refine Runs.bind (Runs.commitOrConflict h₂.here (h₂.known hrecord) rfl ?_ ?_ ?_ fun _ _ _ => trivial)
    · intro w hgrows
      exact .submission (.claimSettle hstate hsubmitting.selected hparse hsubmitting.challenge
        (hnow.mono (h₁₂.grows.trans hgrows)) (hgrows.subset huuid))
    · intro ℓ₃ r h₃ hr hmem _
      refine ⟨⟨⟨h₂.toSince.trans h₃.toSince, hmem, by rw [hr]; exact Nat.le_succ _⟩, ?_⟩, ?_⟩
      · rw [hr]
        exact ⟨hsubmitting.selected, hsubmitting.challenge, (by decide : facilitatorSettleClaimed ∉ TERMINAL_FAILURES)⟩
      · intro r' claim hflow _ hclaim
        cases hflow
        rw [hr] at hclaim ⊢
        cases hclaim
        exact ⟨h₃.held (hgained attemptId rfl), rfl, rfl, rfl⟩
    · intro ℓ₃ r h₃ hmem hlt _
      refine ⟨⟨h₂.toSince.trans h₃.toSince, hmem, le_of_lt hlt⟩, ?_⟩
      intro r' claim hflow
      cases hflow
  · split
    · refine ⟨.self h.toSince hrecord, ?_⟩
      intro r' claim hflow
      cases hflow
    · next hne =>
      refine ⟨⟨.self h.toSince hrecord, hsubmitting⟩, ?_⟩
      -- a claimed record without its own transaction was left alone, and it has none
      intro r' claim hflow hstate
      cases hflow
      refine absurd ⟨hstate, ?_⟩ hne
      rw [hlawful.transactionId_none hrecord (by rw [hstate]; decide)]
      decide

/-! ## The settlement -/

theorem failSettlement_runs {claim : SettleClaim} {selected : SelectedPaymentOption} {result : FacilitatorSettleResult}
    {f : SettleFailure} (hlawful : Lawful deps auction ℓ.world)
    (hrecord : record ∈ versions ℓ.world record.reservationId) (hstate : record.state = facilitatorSettleClaimed)
    (hclaim : record.settleClaim = some claim) (hselected : record.selected = some selected)
    (hfails : SettleFails claim selected result f) (hsettled : Settled ℓ.world claim selected result) :
    Completes deps auction (Returned deps auction record ℓ) (failSettlement record result f) ℓ := by
  have hne : facilitatorSettleClaimed ≠ f.target := by
    rcases hfails.target with ht | ht <;> rw [ht] <;> decide
  refine Runs.bind (Runs.nowIso (.refl hlawful) ?_ fun _ _ _ _ _ _ => trivial)
  intro ℓ₁ now h₁ hnow
  refine Runs.bind (Runs.check ?_ fun _ _ => trivial)
  intro next hnext
  obtain ⟨-, -, rfl⟩ := transition_from (r := { record with facilitatorSettle := some result }) hstate hne hnext
  refine commit_returns h₁ (h₁.known hrecord) rfl ?_
  intro w hgrows
  obtain ⟨payloadHash, challengeHash, hmem⟩ := hsettled
  exact .submission (.failSettlement hstate hclaim hselected hfails
    ⟨payloadHash, challengeHash, hgrows.subset (h₁.made hmem)⟩ (hnow.mono hgrows))

theorem settlePayment_runs {claim : SettleClaim}
    (hrecord : record ∈ versions ℓ.world record.reservationId) (hsubmitting : Submitting record sub)
    (hstate : record.state = facilitatorSettleClaimed) (hclaim : record.settleClaim = some claim)
    (hheld : claim.settleAttemptId ∈ ℓ.held) (hid : claim.reservationId = record.reservationId)
    (hpayload : claim.paymentPayloadHash = input.paymentPayloadHash) (hhash : claim.challengeHash = sub.challengeHash) :
    Completes deps auction (Returned deps auction record ℓ) (settlePayment deps record claim input sub) ℓ := by
  have hselected := hsubmitting.selected
  refine Runs.bind (Prog.Safe.performSpending
    (o := Call.settle claim sub.selected input.paymentPayloadHash sub.challengeHash) rfl hheld ?_ ?_)
  · intro w hgrows _
    refine ⟨hpayload.symm, hhash.symm, record, ?_, hstate, hclaim, hselected⟩
    rw [hid]
    exact mem_versions_later hgrows hrecord
  intro w answer w' held _ _ heffect hgrows hlawful'
  have hsince : Since deps auction ℓ ⟨w', held, ℓ.own ++ [⟨.settle claim sub.selected input.paymentPayloadHash
      sub.challengeHash, answer⟩]⟩ := by
    refine ⟨hgrows, hlawful', ?_⟩
    intro c result hu
    exact hu.of_call hgrows fun _ _ => Call.noConfusion
  cases answer with
  | error e => trivial
  | ok result =>
    have hsettled : Settled w' claim sub.selected result := by
      refine ⟨input.paymentPayloadHash, sub.challengeHash, ?_⟩
      rw [heffect.2]
      exact List.mem_append_right _ List.mem_cons_self
    have hfail {ℓ₁ : View} {f : SettleFailure} (h₁ : Since deps auction ℓ ℓ₁) (hw' : w' <+: ℓ₁.world)
        (hfails : SettleFails claim sub.selected result f) :
        Completes deps auction (Returned deps auction record ℓ) (failSettlement record result f) ℓ₁ := by
      obtain ⟨payloadHash, challengeHash, hmem⟩ := hsettled
      refine Prog.SafeM.mono (failSettlement_runs h₁.lawful (h₁.known hrecord) hstate hclaim hselected hfails
        ⟨payloadHash, challengeHash, hw'.subset hmem⟩) h₁.lawful ?_ fun _ _ _ _ _ => trivial
      intro ℓ₂ r _ _ hr
      exact (Returned.self h₁ (h₁.known hrecord)).trans hr
    show Completes deps auction _ (if result.success then _ else _) _
    split
    · next hsuccess =>
      refine Runs.bind (Runs.check ?_ fun _ _ => trivial)
      intro txId htx
      refine Runs.bind (Runs.check ?_ fun _ _ => trivial)
      intro differs hdiffers
      show Completes deps auction _ (if differs then _ else _) _
      split
      · next hd =>
        rw [hd] at hdiffers
        refine Runs.bind (Runs.nowIso hsince.here ?_ fun _ _ _ _ _ _ => trivial)
        intro ℓ₁ _ h₁ _
        exact hfail (hsince.trans h₁.toSince) h₁.grows (.mismatch hsuccess htx hdiffers)
      · next hd =>
        rw [Bool.not_eq_true] at hd
        rw [hd] at hdiffers
        split
        · next hnetwork => exact hfail hsince (List.prefix_refl _) (.network hsuccess htx hdiffers hnetwork)
        · next hnetwork =>
          split
          · next hpayer => exact hfail hsince (List.prefix_refl _) (.payer hsuccess htx hdiffers (not_not.mp hnetwork) hpayer)
          · next hpayer =>
            refine Runs.bind (Runs.nowIso hsince.here ?_ fun _ _ _ _ _ _ => trivial)
            intro ℓ₁ updatedAt h₁ _
            refine Runs.bind (Runs.nowIso h₁ ?_ fun _ _ _ _ _ _ => trivial)
            intro ℓ₂ now h₂ hnow
            refine Runs.bind (Runs.check ?_ fun _ _ => trivial)
            intro next hnext
            obtain ⟨-, -, rfl⟩ := transition_from (r := settledRecord record result txId updatedAt) hstate
              (by decide) hnext
            have hahead := hsince.trans h₂.toSince
            refine Runs.bind (Runs.commit h₂.here (hahead.known hrecord) rfl ?_ ?_ fun _ _ _ _ _ _ => trivial)
            · intro w hgrows
              obtain ⟨payloadHash, challengeHash, hmem⟩ := hsettled
              exact .submission (.settlePayment hstate hclaim hselected hsuccess htx hdiffers (not_not.mp hnetwork)
                (not_not.mp hpayer) ⟨payloadHash, challengeHash, hgrows.subset (h₂.made hmem)⟩ (hnow.mono hgrows))
            · intro ℓ₃ r h₃ hr hmem _
              have hreturned : Returned deps auction record ℓ ℓ₃ r :=
                ⟨hahead.trans h₃.toSince, hmem, by rw [hr]; exact Nat.le_succ _⟩
              refine Prog.SafeM.mono (runMirrorConfirmation_runs h₃.lawful hreturned.known_self ?_ ?_) h₃.lawful ?_
                fun _ _ _ _ _ => trivial
              · rw [hr]
                exact (by decide : facilitatorSettled ∈ SETTLED_STATES)
              · rw [hr]
                exact hselected
              · intro ℓ₄ r' _ _ hr'
                exact hreturned.trans hr'
    · next hfailed =>
      refine Runs.bind (Runs.nowIso hsince.here ?_ fun _ _ _ _ _ _ => trivial)
      intro ℓ₁ _ h₁ _
      exact hfail (hsince.trans h₁.toSince) h₁.grows (.refused (by simpa using hfailed))

theorem settleOnce_runs (hlawful : Lawful deps auction ℓ.world)
    (hrecord : record ∈ versions ℓ.world record.reservationId) (hsubmitting : Submitting record sub)
    (hparse : parseClientTransactionRef input.clientTransaction = .ok sub.clientTx) :
    Completes deps auction (Returned deps auction record ℓ) (settleOnce deps record input sub) ℓ := by
  unfold settleOnce
  split
  · next hpaid =>
    rw [Bool.and_eq_true] at hpaid
    refine runMirrorConfirmation_runs hlawful hrecord ?_ hsubmitting.selected
    have hopen := hsubmitting.unended
    have hpast : record.state ∉ UNSETTLED_STATES := by
      intro hs
      rw [hlawful.transactionId_none hrecord hs] at hpaid
      exact absurd hpaid.2 (by decide)
    revert hopen hpast
    cases record.state <;> decide
  · refine Runs.andThen (claimSettle_runs hlawful hrecord hsubmitting hparse) hlawful ?_
    rintro ℓ₁ flow _ hlawful₁ ⟨hgoes, hclaimed⟩
    cases flow with
    | stop r => exact hgoes
    | proceed r =>
      obtain ⟨hreturned, hsubmitting'⟩ := hgoes
      dsimp only
      split
      · exact hreturned
      · next claim hclaim =>
        split
        · next hstate =>
          obtain ⟨hheld, hid, hpayload, hhash⟩ := hclaimed r claim rfl hstate hclaim
          refine Prog.SafeM.mono (settlePayment_runs hreturned.known_self hsubmitting' hstate hclaim hheld hid
            hpayload hhash) hlawful₁ ?_ fun _ _ _ _ _ => trivial
          intro ℓ₂ r' _ _ hr'
          exact hreturned.trans hr'
        · exact hreturned

theorem submitFor_runs (hlawful : Lawful deps auction ℓ.world)
    (hrecord : record ∈ versions ℓ.world record.reservationId) (hsubmitting : Submitting record sub)
    (hsub : submissionOf record input sub.selected = .ok sub)
    (hparse : parseClientTransactionRef input.clientTransaction = .ok sub.clientTx) :
    Completes deps auction (Returned deps auction record ℓ) (submitFor deps record input sub) ℓ := by
  refine Runs.andThen (startSubmission_runs hlawful hrecord hsubmitting hsub) hlawful ?_
  intro ℓ₁ flow _ hlawful₁ hgoes
  cases flow with
  | stop r => exact hgoes
  | proceed r =>
    obtain ⟨hreturned, hsubmitting₁⟩ := hgoes
    refine Runs.bind (Runs.check ?_ fun _ _ => trivial)
    intro _ _
    refine Runs.andThen (verifyPayment_runs hlawful₁ hreturned.known_self hsubmitting₁) hlawful₁ ?_
    intro ℓ₂ flow _ hlawful₂ hgoes
    cases flow with
    | stop r' => exact hreturned.trans hgoes
    | proceed r' =>
      obtain ⟨hreturned₂, hsubmitting₂⟩ := hgoes
      refine Prog.SafeM.mono (settleOnce_runs hlawful₂ hreturned₂.known_self hsubmitting₂ hparse) hlawful₂ ?_
        fun _ _ _ _ _ => trivial
      intro ℓ₃ r'' _ _ hr''
      exact (hreturned.trans hreturned₂).trans hr''

theorem submitPayment_runs (hlawful : Lawful deps auction ℓ.world) :
    Completes deps auction (Answers deps auction input.reservationId ℓ) (submitPayment deps input) ℓ := by
  refine requireRecord_then hlawful ?_
  intro ℓ record hlawful hrecord
  refine Runs.bind (Runs.check ?_ fun _ _ => trivial)
  intro selected hselection
  show Completes deps auction _ (if record.routeReserved.isSome then _ else _) ℓ
  split
  · exact Runs.bind (Runs.check (fun _ _ => .self (Ahead.refl hlawful).toSince hrecord) fun _ _ => trivial)
  · refine Runs.bind (Runs.check ?_ fun _ _ => trivial)
    intro sub hsub
    unfold submitSelection at hselection
    split at hselection
    · cases hselection
    · next s hs =>
      simp only [check_eq_ok, require_eq_ok, pure_eq_ok] at hselection
      obtain ⟨-, hopen, rfl⟩ := hselection
      have hparts := hsub
      simp only [submissionOf, bind_eq_ok, require_eq_ok, exists_const, pure_eq_ok] at hparts
      obtain ⟨clientTx, hparse, -, -, hchallenge, -, rfl⟩ := hparts
      refine submitFor_runs hlawful hrecord ⟨hs, ?_, hopen⟩ hsub hparse
      cases hhash : record.paymentChallengeHash with
      | none =>
        rw [hhash] at hchallenge
        exact absurd hchallenge (by decide)
      | some hash => simp

end Submission

end RouteGuard.Reservation
