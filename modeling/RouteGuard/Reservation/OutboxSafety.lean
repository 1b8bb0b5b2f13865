import RouteGuard.Reservation.Rules

/-!
# The outbox keeps the contract

Every call of the webhook and publication programs is allowed, and the attempt id of a publication is spent by the
program that drew it.

* `Returned` : what these programs return;
* `dispatchWebhooks_runs`, `publishHcsEvidence_runs` : the two outboxes.
-/

namespace RouteGuard.Reservation
open JsString Guarded ReservationState ServiceM

section Outbox
variable {deps : ServiceDeps} {auction : Auction} {ℓ₀ ℓ : View} {record : ReservationRecord}

/-- A record that was given out is a version at least as recent as the one it started with. -/
structure Returned (deps : ServiceDeps) (auction : Auction) (record : ReservationRecord) (ℓ₀ ℓ : View)
    (r : ReservationRecord) : Prop where
  since : Since deps auction ℓ₀ ℓ
  known : r ∈ versions ℓ.world record.reservationId
  later : record.recordVersion ≤ r.recordVersion

theorem Returned.trans {mid r : ReservationRecord} {ℓ₁ : View} (h : Returned deps auction record ℓ₀ ℓ₁ mid)
    (h' : Returned deps auction mid ℓ₁ ℓ r) : Returned deps auction record ℓ₀ ℓ r := by
  have hid := h.since.lawful.reservationId_eq h.known
  refine ⟨h.since.trans h'.since, ?_, h.later.trans h'.later⟩
  rw [← hid]
  exact h'.known

theorem Returned.self (h : Since deps auction ℓ₀ ℓ) (hrecord : record ∈ versions ℓ.world record.reservationId) :
    Returned deps auction record ℓ₀ ℓ record := ⟨h, hrecord, le_refl _⟩

variable (deps auction) in
/-- The program makes allowed calls only, and a result meets `Q`; it may fail. -/
abbrev Completes {α : Type} (Q : View → α → Prop) (m : ServiceM α) (ℓ : View) : Prop :=
  Runs deps auction Q (fun _ _ => True) m ℓ

/-- The record of a commit or of whoever was first. -/
theorem commitOrConflict_returns {site : CommitSite} {next : ReservationRecord} (h : Ahead deps auction ℓ₀ ℓ)
    (hrecord : record ∈ versions ℓ.world record.reservationId) (hid : next.reservationId = record.reservationId)
    (hchange : ∀ w, ℓ.world <+: w → Change deps w site record next) :
    Completes deps auction (fun ℓ' r => Returned deps auction record ℓ₀ ℓ' r.record)
      (commitOrConflict site record next) ℓ := by
  refine Runs.commitOrConflict h hrecord hid hchange ?_ ?_ fun _ _ _ => trivial
  · intro ℓ' r hahead hr hmem _
    refine ⟨hahead.toSince, hmem, ?_⟩
    rw [hr]
    exact Nat.le_succ _
  · intro ℓ' r hahead hmem hlt _
    exact ⟨hahead.toSince, hmem, le_of_lt hlt⟩

theorem moveFrom_runs {sources : List ReservationState} {target : ReservationState} {reason : String}
    (h : Ahead deps auction ℓ₀ ℓ) (htarget : target ∉ sources) :
    Completes deps auction (fun ℓ' next => Ahead deps auction ℓ₀ ℓ' ∧ MovedFrom ℓ'.world sources target record next)
      (moveFrom sources target reason record) ℓ := by
  unfold moveFrom
  split
  · next hs =>
    refine Runs.bind (Runs.nowIso h ?_ fun _ _ _ _ _ _ => trivial)
    intro ℓ' now hahead hnow
    refine Runs.check ?_ fun _ _ => trivial
    intro next hnext
    rcases transition_eq_ok.mp hnext with ⟨heq, -⟩ | ⟨-, -, -, rfl⟩
    · rw [heq] at hs
      exact absurd hs htarget
    · exact ⟨hahead, .enters hs _ now hnow⟩
  · next hs => exact ⟨h, .stays hs⟩

/-! ## Webhooks -/

theorem ensureWebhookEventsPersisted_runs (hlawful : Lawful deps auction ℓ.world)
    (hrecord : record ∈ versions ℓ.world record.reservationId) :
    Completes deps auction (Returned deps auction record ℓ) (ensureWebhookEventsPersisted deps record) ℓ := by
  have h := Ahead.refl hlawful
  unfold ensureWebhookEventsPersisted
  split
  · exact .self h.toSince hrecord
  · next rr hrr =>
    split
    · exact .self h.toSince hrecord
    · next hfew =>
      refine Runs.bind (Runs.nowIso h ?_ fun _ _ _ _ _ _ => trivial)
      intro ℓ₁ emittedAt h₁ hnow
      refine Runs.bind (Runs.check ?_ fun _ _ => trivial)
      intro events hevents
      refine Runs.andThen (commitOrConflict_returns h₁ (h₁.known hrecord) rfl ?_) h₁.lawful ?_
      · intro w hgrows
        exact .outbox (.webhookEvents hrr (Nat.lt_of_not_le hfew) (hnow.mono hgrows) hevents)
      · intro ℓ₂ r _ _ hr
        exact Runs.bind (Runs.check (fun _ _ => hr) fun _ _ => trivial)

theorem Delivered.mono {w w' : Trace} {pass : Nat} {events : List WebhookEvent}
    {deliveries : List WebhookDeliveryRecord} (h : Delivered w pass record events deliveries) (hw : w <+: w') :
    Delivered w' pass record events deliveries := by
  induction h with
  | nil => exact .nil
  | cons hd htime _ ih => exact .cons (hw.subset hd) (htime.mono hw) ih

theorem deliverEvents_runs {pass : Nat} {events : List WebhookEvent}
    (hrecord : record ∈ versions ℓ₀.world record.reservationId) (hevents : events ⊆ record.webhookEvents)
    (h : Ahead deps auction ℓ₀ ℓ) :
    Completes deps auction
      (fun ℓ' deliveries => Ahead deps auction ℓ₀ ℓ' ∧ Delivered ℓ'.world pass record events deliveries)
      (deliverEvents pass record events) ℓ := by
  induction events generalizing ℓ with
  | nil => exact ⟨h, .nil⟩
  | cons event events ih =>
    have hmem : event ∈ record.webhookEvents := hevents List.mem_cons_self
    refine Runs.bind (Runs.perform (o := .deliver pass event.recipient (rebuildSignedWebhook event)) h rfl ?_ ?_)
    · intro w hgrows _
      exact ⟨_, record, mem_versions_later (h.grows.trans hgrows) hrecord, event, hmem, rfl, rfl⟩
    intro ℓ₁ w answer h₁ _ _ _ hworld _ _
    cases answer with
    | error e => trivial
    | ok result =>
      have hdelivered : ⟨.deliver pass event.recipient (rebuildSignedWebhook event), .ok result⟩ ∈ ℓ₁.world := by
        rw [hworld]
        exact List.mem_append_right _ List.mem_cons_self
      refine Runs.bind (Runs.nowIso h₁.here ?_ fun _ _ _ _ _ _ => trivial)
      intro ℓ₂ attemptedAt h₂ htime
      refine Runs.andThen (ih (List.Subset.trans (List.subset_cons_self _ _) hevents) (h₁.trans h₂)) h₂.lawful ?_
      rintro ℓ₃ deliveries hgrows _ ⟨h₃, hrest⟩
      exact ⟨h₃, .cons (hgrows.subset (h₂.made hdelivered)) (htime.mono hgrows) hrest⟩

theorem deliverPersistedWebhooks_runs (hlawful : Lawful deps auction ℓ.world)
    (hrecord : record ∈ versions ℓ.world record.reservationId) :
    Completes deps auction (Returned deps auction record ℓ) (deliverPersistedWebhooks record) ℓ := by
  have h := Ahead.refl hlawful
  refine Runs.bind (Runs.check ?_ fun _ _ => trivial)
  intro _ hevents
  refine Runs.bind (Runs.read h rfl (fun _ => trivial) ?_)
  intro ℓ₁ pass h₁ _ _
  refine Runs.andThen (deliverEvents_runs hrecord (List.Subset.refl _) h₁) h₁.lawful ?_
  rintro ℓ₂ deliveries _ _ ⟨h₂, hdelivered⟩
  refine Runs.bind (Runs.nowIso h₂.here ?_ fun _ _ _ _ _ _ => trivial)
  intro ℓ₃ updatedAt h₃ hnow
  have hmoves : Completes deps auction (fun ℓ' next => Ahead deps auction ℓ ℓ' ∧
      DeliveryMoved ℓ'.world (deliveries.all WebhookDeliveryRecord.delivered)
        { record with webhooks := deliveries, updatedAt := updatedAt } next)
      (afterDelivery { record with webhooks := deliveries, updatedAt := updatedAt }
        (deliveries.all WebhookDeliveryRecord.delivered)) ℓ₃ := by
    unfold afterDelivery
    cases deliveries.all WebhookDeliveryRecord.delivered with
    | true => exact moveFrom_runs (h₂.trans h₃) (by decide)
    | false => exact moveFrom_runs (h₂.trans h₃) (by decide)
  refine Runs.andThen hmoves h₃.lawful ?_
  rintro ℓ₄ next hgrows _ ⟨h₄, hmoved⟩
  have hid : next.reservationId = record.reservationId := by rw [hmoved.rest.2]
  refine Runs.andThen (commitOrConflict_returns h₄ (h₄.known hrecord) hid ?_) h₄.lawful ?_
  · intro w hw
    have hgrows₃ := hgrows.trans hw
    exact .outbox (.deliveries (require_eq_ok.mp hevents) (hdelivered.mono (h₃.grows.trans hgrows₃))
      (hnow.mono hgrows₃) (hmoved.mono hw))
  · intro ℓ₅ r _ _ hr
    exact hr

theorem dispatchWebhooks_runs (hlawful : Lawful deps auction ℓ.world)
    (hrecord : record ∈ versions ℓ.world record.reservationId) :
    Completes deps auction (Returned deps auction record ℓ) (dispatchWebhooks deps record) ℓ := by
  unfold dispatchWebhooks
  split
  · refine Runs.andThen (ensureWebhookEventsPersisted_runs hlawful hrecord) hlawful ?_
    intro ℓ₁ persisted _ hlawful₁ hpersisted
    have hid := hlawful₁.reservationId_eq hpersisted.known
    have hknown : persisted ∈ versions ℓ₁.world persisted.reservationId := by
      rw [hid]
      exact hpersisted.known
    refine Runs.bind (Runs.storeGet (.refl hlawful₁) ?_ (fun _ _ _ => trivial) fun _ _ _ => trivial)
    intro ℓ₂ reloaded h₂ hreloaded hlatest
    refine Runs.bind (Runs.check ?_ fun _ _ => trivial)
    intro _ _
    have hid' := h₂.lawful.reservationId_eq hreloaded
    have hknown' : reloaded ∈ versions ℓ₂.world reloaded.reservationId := by
      rw [hid']
      exact hreloaded
    have hreturned : Returned deps auction record ℓ ℓ₂ reloaded :=
      hpersisted.trans ⟨h₂.toSince, hreloaded, hlatest persisted hknown⟩
    refine Prog.SafeM.mono (deliverPersistedWebhooks_runs h₂.lawful hknown') h₂.lawful ?_ fun _ _ _ _ _ => trivial
    intro ℓ₃ r _ _ hr
    exact hreturned.trans hr
  · exact .self (Ahead.refl hlawful).toSince hrecord

/-! ## Ledger evidence -/

theorem ensureHcsRecordedState_runs (hlawful : Lawful deps auction ℓ.world)
    (hrecord : record ∈ versions ℓ.world record.reservationId) (hpublished : isHcsAlreadyPublished record) :
    Completes deps auction (Returned deps auction record ℓ) (ensureHcsRecordedState record) ℓ := by
  have h := Ahead.refl hlawful
  unfold ensureHcsRecordedState
  split
  · next hs =>
    refine Runs.bind (Runs.nowIso h ?_ fun _ _ _ _ _ _ => trivial)
    intro ℓ₁ now h₁ hnow
    refine Runs.bind (Runs.check ?_ fun _ _ => trivial)
    intro next hnext
    have hne : record.state ≠ hcsEvidenceRecorded := by
      intro heq
      rw [heq] at hs
      exact absurd hs (by decide)
    obtain ⟨-, -, rfl⟩ := transition_from rfl hne hnext
    refine Runs.andThen (commitOrConflict_returns h₁ (h₁.known hrecord) rfl ?_) h₁.lawful ?_
    · intro w hgrows
      exact .outbox (.hcsRecorded hs hpublished (hnow.mono hgrows))
    · intro ℓ₂ r _ _ hr
      exact hr
  · exact .self h.toSince hrecord

/-- What the publication programs know of the claim of their record. -/
structure Claimed (record : ReservationRecord) (claim : HcsPublicationClaim) : Prop where
  reserved : record.routeReserved.isSome
  unpublished : ¬ isHcsAlreadyPublished record
  same : ∃ before, record.hcsPublicationClaim = some before ∧ before.SamePublication claim ∧
    claim.sequence = before.sequence

theorem not_published_of_unpublished {before : HcsPublicationClaim} (h : ¬ isHcsAlreadyPublished record)
    (hclaim : record.hcsPublicationClaim = some before) : before.status ≠ .published := by
  intro hstatus
  exact h (by simp [isHcsAlreadyPublished, hclaim, hstatus])

theorem HcsPublicationClaim.SamePublication.reservationId {a b : HcsPublicationClaim} (h : a.SamePublication b) :
    b.reservationId = a.reservationId := by
  have hid : b.publication.reservationId = a.publication.reservationId := by rw [h]
  exact hid

theorem persistHcsPublished_runs {claim : HcsPublicationClaim} {result : HcsPublicationResult}
    {h : Option (JsString × JsString)} {m : Bool} (hlawful : Lawful deps auction ℓ.world)
    (hrecord : record ∈ versions ℓ.world record.reservationId) (hclaimed : Claimed record claim)
    (hresult : claim.sequence = none →
      assertValidHcsPublicationResult result claim.expectedTopicId h m = .ok result) :
    Completes deps auction
      (fun ℓ' r => Returned deps auction record ℓ ℓ' r ∧ (Recorded ℓ'.world claim result ∨ RecordConflicted ℓ'.own claim))
      (persistHcsPublished record claim result) ℓ := by
  have h := Ahead.refl hlawful
  obtain ⟨hreserved, hunpublished, before, hbefore, hsame, hsequence⟩ := hclaimed
  refine Runs.bind (Runs.nowIso h ?_ fun _ _ _ _ _ _ => trivial)
  intro ℓ₁ updatedAt h₁ hnow
  refine Runs.andThen (moveFrom_runs h₁ (by decide)) h₁.lawful ?_
  rintro ℓ₂ next hgrows₂ _ ⟨h₂, hmoved⟩
  have hid : next.reservationId = record.reservationId := by rw [hmoved.rest.2]
  have hown : claim.reservationId = record.reservationId :=
    hsame.reservationId.trans ((hlawful.valid hrecord).hcsClaim_reservationId hbefore)
  have hclaim : next.hcsPublicationClaim = some (publishedClaim claim result) := by rw [hmoved.rest.2]
  refine Runs.bind (Runs.commitOrConflict h₂ (h₂.known hrecord) hid ?_ ?_ ?_ fun _ _ _ => trivial)
  · intro w hgrows
    rw [hsequence] at hresult
    exact .outbox (.hcsPublished hreserved hbefore (not_published_of_unpublished hunpublished hbefore) hsame hresult
      (hnow.mono (hgrows₂.trans hgrows)) (hmoved.mono hgrows))
  · intro ℓ₃ r h₃ hr hmem _
    refine ⟨⟨h₃.toSince, hmem, by rw [hr]; exact Nat.le_succ _⟩, .inl ⟨r, ?_, by rw [hr]; exact hclaim⟩⟩
    rw [hown]
    exact hmem
  · rintro ℓ₃ r h₃ hmem hlt ⟨e, he, hconflict⟩
    rw [← hown] at he
    exact ⟨⟨h₃.toSince, hmem, le_of_lt hlt⟩, .inr ⟨_, _, e, he, hconflict⟩⟩

theorem finishHcsFailed_runs {claim : Option HcsPublicationClaim} {envelopeHash lastError : JsString}
    (hlawful : Lawful deps auction ℓ.world) (hrecord : record ∈ versions ℓ.world record.reservationId)
    (hreserved : record.routeReserved.isSome) (hunpublished : ¬ isHcsAlreadyPublished record)
    (hclaim : FailedClaim record claim envelopeHash) :
    Completes deps auction (Returned deps auction record ℓ) (finishHcsFailed record envelopeHash lastError claim) ℓ := by
  have h := Ahead.refl hlawful
  refine Runs.bind (Runs.nowIso h ?_ fun _ _ _ _ _ _ => trivial)
  intro ℓ₁ updatedAt h₁ hnow
  refine Runs.andThen (moveFrom_runs h₁ (by decide)) h₁.lawful ?_
  rintro ℓ₂ next hgrows₂ _ ⟨h₂, hmoved⟩
  have hid : next.reservationId = record.reservationId := by rw [hmoved.rest.2]
  refine Runs.andThen (commitOrConflict_returns h₂ (h₂.known hrecord) hid ?_) h₂.lawful ?_
  · intro w hgrows
    exact .outbox (.hcsFailed hreserved hclaim hunpublished (hnow.mono (hgrows₂.trans hgrows)) (hmoved.mono hgrows))
  · intro ℓ₃ r _ _ hr
    exact hr

/-- A claim that goes on as failed, in review or claimed is the claim of the record. -/
theorem Claimed.failed {claim f : HcsPublicationClaim} (h : Claimed record claim)
    (hsame : claim.SamePublication f) (hstatus : f.status ≠ .published)
    (hsequence : f.sequence = claim.sequence) : FailedClaim record (some f) f.envelopeHash := by
  obtain ⟨-, hunpublished, before, hbefore, hsame', hsequence'⟩ := h
  exact .present hbefore (not_published_of_unpublished hunpublished hbefore) (hsame.trans hsame') hstatus
    (hsequence.trans hsequence')

theorem assertValidHcsPublicationResult_eq {result v : HcsPublicationResult} {topicId : JsString}
    {hashes : Option (JsString × JsString)} {missing : Bool}
    (h : assertValidHcsPublicationResult result topicId hashes missing = .ok v) : v = result := by
  simp only [assertValidHcsPublicationResult, check_eq_ok, pure_eq_ok] at h
  exact h.2.2.2.2.2.symm

theorem resolveClaim_runs {claim : HcsPublicationClaim} (hlawful : Lawful deps auction ℓ.world)
    (hrecord : record ∈ versions ℓ.world record.reservationId) (hclaimed : Claimed record claim) :
    Completes deps auction (Returned deps auction record ℓ) (resolveClaim deps record claim) ℓ := by
  have hfailed {ℓ₁ : View} {f : HcsPublicationClaim} {lastError : JsString} (h₁ : Ahead deps auction ℓ ℓ₁)
      (hsame : claim.SamePublication f) (hstatus : f.status ≠ .published)
      (hsequence : f.sequence = claim.sequence) :
      Completes deps auction (Returned deps auction record ℓ)
        (finishHcsFailed record f.envelopeHash lastError (some f)) ℓ₁ := by
    refine Prog.SafeM.mono (finishHcsFailed_runs h₁.lawful (h₁.known hrecord) hclaimed.reserved hclaimed.unpublished
      (hclaimed.failed hsame hstatus hsequence)) h₁.lawful ?_ fun _ _ _ _ _ => trivial
    intro ℓ₂ r _ _ hr
    exact (Returned.self h₁.toSince (h₁.known hrecord)).trans hr
  have hresolved : Completes deps auction (fun ℓ₁ _ => Ahead deps auction ℓ ℓ₁) (resolvePublication deps claim) ℓ := by
    unfold resolvePublication
    split
    · refine Runs.perform (o := .resolvePublication _ _ _) (.refl hlawful) rfl (fun _ _ _ => trivial) ?_
      intro ℓ₁ w answer h₁ _ _ _ _ _ _
      cases answer with
      | ok r => exact h₁
      | error e => trivial
    · exact .refl hlawful
  refine Runs.andThen hresolved hlawful ?_
  intro ℓ₁ resolution _ _ h₁
  cases resolution with
  | found result envelopeHash =>
    dsimp only
    split
    · next v hv =>
      have heq := assertValidHcsPublicationResult_eq hv
      subst heq
      refine Prog.SafeM.mono (persistHcsPublished_runs h₁.lawful (h₁.known hrecord) hclaimed fun _ => hv) h₁.lawful ?_
        fun _ _ _ _ _ => trivial
      rintro ℓ₂ r _ _ ⟨hr, -⟩
      exact (Returned.self h₁.toSince (h₁.known hrecord)).trans hr
    · next e _ =>
      exact hfailed (f := failedConclusively claim (e.code?.getD (js "HCS_RESOLVE_FOUND_INVALID")) e.message) h₁ rfl
        HcsPublicationClaimStatus.noConfusion rfl
  | ambiguous => exact hfailed (f := reviewedClaim claim) h₁ rfl HcsPublicationClaimStatus.noConfusion rfl
  | notFoundConclusive => exact hfailed (f := notFoundClaim claim) h₁ rfl HcsPublicationClaimStatus.noConfusion rfl

section Publication
variable {resume : ReservationRecord → ServiceM ReservationRecord}

/-- `resume` keeps the contract from every record that is known. -/
def ResumeRuns (deps : ServiceDeps) (auction : Auction) (resume : ReservationRecord → ServiceM ReservationRecord) :
    Prop :=
  ∀ (ℓ : View) (r : ReservationRecord), Lawful deps auction ℓ.world → r ∈ versions ℓ.world r.reservationId →
    Completes deps auction (Returned deps auction r ℓ) (resume r) ℓ

theorem Returned.known_self {r : ReservationRecord} (h : Returned deps auction record ℓ₀ ℓ r) :
    r ∈ versions ℓ.world r.reservationId := by
  rw [h.since.lawful.reservationId_eq h.known]
  exact h.known

theorem resolveAmbiguousHcsClaim_runs {claim : HcsPublicationClaim} (hresume : ResumeRuns deps auction resume)
    (hlawful : Lawful deps auction ℓ.world) (hrecord : record ∈ versions ℓ.world record.reservationId)
    (hclaimed : Claimed record claim) :
    Completes deps auction (Returned deps auction record ℓ) (resolveAmbiguousHcsClaim deps resume record claim) ℓ := by
  have h := Ahead.refl hlawful
  unfold resolveAmbiguousHcsClaim
  split
  · exact resolveClaim_runs hlawful hrecord hclaimed
  · refine Runs.bind (Runs.nowIso h ?_ fun _ _ _ _ _ _ => trivial)
    intro ℓ₁ now h₁ hnow
    obtain ⟨hreserved, hunpublished, before, hbefore, hsame, hsequence⟩ := hclaimed
    refine Runs.bind (Runs.commitOrConflict h₁ (h₁.known hrecord) rfl ?_ ?_ ?_ fun _ _ _ => trivial)
    · intro w hgrows
      exact .outbox (.resolving hreserved hbefore (not_published_of_unpublished hunpublished hbefore) hsame hsequence
        (hnow.mono hgrows))
    · intro ℓ₂ r h₂ hr hmem _
      have hreturned : Returned deps auction record ℓ ℓ₂ r := ⟨h₂.toSince, hmem, by rw [hr]; exact Nat.le_succ _⟩
      have hworking : Claimed r claim := by
        rw [hr]
        refine ⟨hreserved, ?_, { claim with status := .resolving }, rfl, rfl, rfl⟩
        intro hpublished
        simp only [isHcsAlreadyPublished, Option.any_some, Bool.or_eq_true, decide_eq_true_eq, reduceCtorEq,
          false_or] at hpublished
        exact hunpublished (by simp [isHcsAlreadyPublished, hpublished])
      refine Prog.SafeM.mono (resolveClaim_runs h₂.lawful hreturned.known_self hworking) h₂.lawful ?_
        fun _ _ _ _ _ => trivial
      intro ℓ₃ r' _ _ hr'
      exact hreturned.trans hr'
    · intro ℓ₂ r h₂ hmem hlt _
      have hreturned : Returned deps auction record ℓ ℓ₂ r := ⟨h₂.toSince, hmem, le_of_lt hlt⟩
      refine Prog.SafeM.mono (hresume ℓ₂ r h₂.lawful hreturned.known_self) h₂.lawful ?_ fun _ _ _ _ _ => trivial
      intro ℓ₃ r' _ _ hr'
      exact hreturned.trans hr'

/-- After a publication, at most this one is not kept yet. -/
theorem Unkept.of_publish {claim c : HcsPublicationClaim} {envelope : RouteReservedEnvelope}
    {answer : Except ServiceError HcsPublicationResult} {w : Trace} {held : List JsString} {result : HcsPublicationResult}
    (h : Unkept ⟨w, held, ℓ.own ++ [⟨.publish claim envelope, answer⟩]⟩ c result) (hw : ℓ.world <+: w) :
    Unkept ℓ c result ∨ (c = claim ∧ answer = .ok result) := by
  obtain ⟨⟨envelope', hmem⟩, haccepted, hunrecorded, hunopposed⟩ := h
  rcases List.mem_append.mp hmem with hmem | hmem
  · refine .inl ⟨⟨envelope', hmem⟩, haccepted, fun hr => hunrecorded (hr.mono hw), ?_⟩
    rintro ⟨version, next, e, he, hconflict⟩
    exact hunopposed ⟨version, next, e, List.mem_append_left _ he, hconflict⟩
  · cases List.mem_singleton.mp hmem
    exact .inr ⟨rfl, rfl⟩

theorem invokeHcsPublish_runs {claim : HcsPublicationClaim} {envelope : RouteReservedEnvelope}
    (hresume : ResumeRuns deps auction resume) (hlawful : Lawful deps auction ℓ.world)
    (hrecord : record ∈ versions ℓ.world record.reservationId) (hreserved : record.routeReserved.isSome)
    (hunpublished : ¬ isHcsAlreadyPublished record) (hclaim : record.hcsPublicationClaim = some claim)
    (hheld : claim.publishAttemptId ∈ ℓ.held) :
    Completes deps auction (Returned deps auction record ℓ) (invokeHcsPublish deps resume record claim envelope) ℓ := by
  have hclaimed : Claimed record claim := ⟨hreserved, hunpublished, claim, hclaim, rfl, rfl⟩
  have hfailed {ℓ₁ : View} {code reason lastError : JsString} (h₁ : Since deps auction ℓ ℓ₁) :
      Completes deps auction (Returned deps auction record ℓ)
        (finishHcsFailed record claim.envelopeHash lastError (some (failedConclusively claim code reason))) ℓ₁ := by
    refine Prog.SafeM.mono (finishHcsFailed_runs h₁.lawful (h₁.known hrecord) hreserved hunpublished
      (hclaimed.failed (f := failedConclusively claim code reason) rfl HcsPublicationClaimStatus.noConfusion rfl))
      h₁.lawful ?_ fun _ _ _ _ _ => trivial
    intro ℓ₂ r _ _ hr
    exact (Returned.self h₁ (h₁.known hrecord)).trans hr
  unfold invokeHcsPublish
  split
  · exact hfailed (Ahead.refl hlawful).toSince
  · next hhash =>
    split
    · exact hfailed (Ahead.refl hlawful).toSince
    · next hsize =>
      refine Runs.bind (Runs.outcome (Prog.Safe.performSpending (o := Call.publish claim envelope) rfl hheld ?_ ?_))
      · intro w hgrows _
        refine ⟨not_not.mp hhash, not_not.mp hsize, record, ?_, hclaim⟩
        rw [(hlawful.valid hrecord).hcsClaim_reservationId hclaim]
        exact mem_versions_later hgrows hrecord
      · intro w answer w' held _ _ _ hgrows hlawful'
        -- of the publications made so far, only this one may still be open
        have hopen (c : HcsPublicationClaim) (result : HcsPublicationResult)
            (hu : Unkept ⟨w', held, ℓ.own ++ [⟨.publish claim envelope, answer⟩]⟩ c result) :
            Unkept ℓ c result ∨ (c = claim ∧ answer = .ok result) := hu.of_publish hgrows
        have hsince (hkept : ∀ result, answer = .ok result →
            assertValidHcsPublicationResult result claim.expectedTopicId none false ≠ .ok result) :
            Since deps auction ℓ ⟨w', held, ℓ.own ++ [⟨.publish claim envelope, answer⟩]⟩ := by
          refine ⟨hgrows, hlawful', ?_⟩
          intro c result hu
          rcases hopen c result hu with h | ⟨rfl, h⟩
          · exact h
          · exact absurd hu.accepted (hkept result h)
        cases answer with
        | error e =>
          have h₁ := hsince fun _ h => by cases h
          refine Prog.SafeM.mono (resolveAmbiguousHcsClaim_runs hresume h₁.lawful (h₁.known hrecord)
            ⟨hreserved, hunpublished, claim, hclaim, rfl, rfl⟩) h₁.lawful ?_ fun _ _ _ _ _ => trivial
          intro ℓ₂ r _ _ hr
          exact (Returned.self h₁ (h₁.known hrecord)).trans hr
        | ok published =>
          dsimp only
          split
          · next v hv =>
            have heq := assertValidHcsPublicationResult_eq hv
            subst heq
            refine Prog.SafeM.mono (persistHcsPublished_runs hlawful' (mem_versions_later hgrows hrecord) hclaimed
              fun _ => hv) hlawful' ?_ fun _ _ _ _ _ => trivial
            rintro ℓ₂ r _ _ ⟨hr, hkept⟩
            refine ⟨⟨hgrows.trans hr.since.grows, hr.since.lawful, ?_⟩, hr.known, hr.later⟩
            intro c result hu
            rcases hopen c result (hr.since.kept c result hu) with h | ⟨rfl, h⟩
            · exact h
            · cases h
              rcases hkept with hrecorded | hconflicted
              · exact absurd hrecorded hu.unrecorded
              · exact absurd hconflicted hu.unopposed
          · next e he =>
            refine hfailed (hsince ?_)
            intro result h
            cases h
            rw [he]
            exact fun h => by cases h

theorem claimAndPublishHcs_runs {rr : RouteReservedRecord} (hresume : ResumeRuns deps auction resume)
    (hlawful : Lawful deps auction ℓ.world) (hrecord : record ∈ versions ℓ.world record.reservationId)
    (hrr : record.routeReserved = some rr) (hunpublished : ¬ isHcsAlreadyPublished record)
    (hnone : record.hcsPublicationClaim = none) :
    Completes deps auction (Returned deps auction record ℓ) (claimAndPublishHcs deps resume record rr) ℓ := by
  have h := Ahead.refl hlawful
  have hreserved : record.routeReserved.isSome := Option.isSome_of_eq_some hrr
  have hprecheck {ℓ₁ : View} {e : ServiceError} (h₁ : Ahead deps auction ℓ ℓ₁) :
      Completes deps auction (Returned deps auction record ℓ) (finishHcsFailed record [] e.message none) ℓ₁ := by
    refine Prog.SafeM.mono (finishHcsFailed_runs h₁.lawful (h₁.known hrecord) hreserved hunpublished (.absent hnone))
      h₁.lawful ?_ fun _ _ _ _ _ => trivial
    intro ℓ₂ r _ _ hr
    exact (Returned.self h₁.toSince (h₁.known hrecord)).trans hr
  refine Runs.orElse (Runs.bind (Runs.nowIso h ?_ ?_))
  · intro ℓ₁ createdAt h₁ _
    refine Runs.check ?_ fun _ _ => hprecheck h₁
    intro checked hchecked
    refine Runs.bind (Runs.nowIso h₁ ?_ fun _ _ _ _ _ _ => trivial)
    intro ℓ₂ claimedAt h₂ hnow
    refine Runs.bind (Runs.read h₂.here rfl (fun _ => trivial) ?_)
    intro ℓ₃ attemptId h₂₃ huuid hgained
    have h₃ := h₂.trans h₂₃
    refine Runs.bind (Runs.commitOrConflict h₃.here (h₃.known hrecord) rfl ?_ ?_ ?_ fun _ _ _ => trivial)
    · intro w hgrows
      exact .outbox (.claimHcs hrr hnone hchecked (hnow.mono (h₂₃.grows.trans hgrows)) (hgrows.subset huuid))
    · intro ℓ₄ r h₄ hr hmem _
      have hreturned : Returned deps auction record ℓ ℓ₄ r :=
        ⟨h₃.toSince.trans h₄.toSince, hmem, by rw [hr]; exact Nat.le_succ _⟩
      have hclaim : r.hcsPublicationClaim = some (hcsClaimOf record attemptId claimedAt checked) := by rw [hr]
      have hopen : ¬ isHcsAlreadyPublished r := by
        intro hpublished
        rw [hr] at hpublished
        simp only [isHcsAlreadyPublished, hcsClaimOf, Option.any_some, Bool.or_eq_true, decide_eq_true_eq,
          reduceCtorEq, false_or] at hpublished
        exact hunpublished (by simp [isHcsAlreadyPublished, hpublished])
      dsimp only
      rw [hclaim]
      refine Prog.SafeM.mono (invokeHcsPublish_runs hresume h₄.lawful hreturned.known_self ?_ hopen hclaim ?_) h₄.lawful
        ?_ fun _ _ _ _ _ => trivial
      · rw [hr]
        exact hreserved
      · exact h₄.held (hgained attemptId rfl)
      · intro ℓ₅ r' _ _ hr'
        exact hreturned.trans hr'
    · intro ℓ₄ r h₄ hmem hlt _
      have hreturned : Returned deps auction record ℓ ℓ₄ r := ⟨h₃.toSince.trans h₄.toSince, hmem, le_of_lt hlt⟩
      show Completes deps auction _ (if isHcsAlreadyPublished r then _ else _) ℓ₄
      split
      · next hpublished =>
        refine Prog.SafeM.mono (ensureHcsRecordedState_runs h₄.lawful hreturned.known_self hpublished) h₄.lawful ?_
          fun _ _ _ _ _ => trivial
        intro ℓ₅ r' _ _ hr'
        exact hreturned.trans hr'
      · exact hreturned
  · intro ℓ₁ n e h₁ _ _
    exact hprecheck h₁

theorem finishClaim_runs {claim : HcsPublicationClaim} (hresume : ResumeRuns deps auction resume)
    (hlawful : Lawful deps auction ℓ.world) (hrecord : record ∈ versions ℓ.world record.reservationId)
    (hreserved : record.routeReserved.isSome) (hunpublished : ¬ isHcsAlreadyPublished record)
    (hclaim : record.hcsPublicationClaim = some claim) :
    Completes deps auction (Returned deps auction record ℓ) (finishClaim deps resume record claim) ℓ := by
  have hclaimed : Claimed record claim := ⟨hreserved, hunpublished, claim, hclaim, rfl, rfl⟩
  have hresolve := resolveAmbiguousHcsClaim_runs hresume hlawful hrecord hclaimed
  have hfinish {lastError : JsString} (hstatus : claim.status ≠ .published) :
      Completes deps auction (Returned deps auction record ℓ)
        (finishHcsFailed record claim.envelopeHash lastError (some claim)) ℓ :=
    finishHcsFailed_runs hlawful hrecord hreserved hunpublished (hclaimed.failed rfl hstatus rfl)
  unfold finishClaim
  split
  · next hs => exact hfinish (by rw [hs]; exact HcsPublicationClaimStatus.noConfusion)
  · next hs => exact hfinish (by rw [hs]; exact HcsPublicationClaimStatus.noConfusion)
  · split
    · exact hresolve
    · split
      · next sequence consensusTimestamp hsequence _ =>
        split
        · exact hresolve
        · refine Prog.SafeM.mono (persistHcsPublished_runs (h := none) (m := false) hlawful hrecord hclaimed ?_)
            hlawful ?_ fun _ _ _ _ _ => trivial
          · intro hn
            rw [hsequence] at hn
            cases hn
          · rintro ℓ₁ r _ _ ⟨hr, -⟩
            exact hr
      · exact hresolve

theorem publishHcsEvidence_runs (depth : Nat) : ResumeRuns deps auction (publishHcsEvidence deps depth) := by
  induction depth with
  | zero => exact fun _ _ _ _ => trivial
  | succ depth ih =>
    intro ℓ record hlawful hrecord
    unfold publishHcsEvidence
    split
    · exact .self (Ahead.refl hlawful).toSince hrecord
    · next rr hrr =>
      split
      · next hpublished => exact ensureHcsRecordedState_runs hlawful hrecord hpublished
      · next hunpublished =>
        split
        · next claim hclaim =>
          exact finishClaim_runs ih hlawful hrecord (Option.isSome_of_eq_some hrr) hunpublished hclaim
        · next hnone => exact claimAndPublishHcs_runs ih hlawful hrecord hrr hunpublished hnone

end Publication

end Outbox

end RouteGuard.Reservation
