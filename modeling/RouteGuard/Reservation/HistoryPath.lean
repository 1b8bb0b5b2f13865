import Mathlib.Data.List.Chain
import RouteGuard.Reservation.Script
import RouteGuard.Reservation.ServiceSafety

/-!
# The history of a record

A transition appends one entry to the history. The adoption of a transaction and the recovery of records in progress
write the state without one.

* `LegalPath` : the history leads from the creation to the state, along legal transitions;
* `Change.keepsHistory`, `Change.jumped` : the commits that keep the history, and those that pass it by;
* `history_legal_iff` : in every run, the histories are legal paths and every change of a state is in them exactly when
  no commit is one of those.
-/

namespace RouteGuard.Reservation
open JsString Guarded ReservationState

/-- An entry starts where the one before it ended, along an allowed transition. -/
def StateTransitionRecord.Follows (before e : StateTransitionRecord) : Prop :=
  e.source = before.target ∧ assertLegalTransition e.source e.target = .ok ()

/-- The history leads from the creation of the record to its state. -/
structure LegalPath (r : ReservationRecord) : Prop where
  created : r.history.head?.map StateTransitionRecord.target = some offerCreated
  chain : r.history.IsChain StateTransitionRecord.Follows
  current : r.history.getLast?.map StateTransitionRecord.target = some r.state

/-- One more entry leads from the state of a record to the state of the next. -/
structure Appended (cur next : ReservationRecord) (e : StateTransitionRecord) : Prop where
  history : next.history = cur.history ++ [e]
  source : e.source = cur.state
  target : e.target = next.state
  legal : assertLegalTransition e.source e.target = .ok ()

/-- The commits that write a state and no entry. -/
def JUMPS : List CommitSite := [.adopt, .recover]

theorem LegalPath.append {cur next : ReservationRecord} {e : StateTransitionRecord} (h : LegalPath cur)
    (happended : Appended cur next e) : LegalPath next := by
  obtain ⟨last, hlast, htarget⟩ := Option.map_eq_some_iff.mp h.current
  obtain ⟨first, hfirst, hcreated⟩ := Option.map_eq_some_iff.mp h.created
  refine ⟨?_, ?_, ?_⟩
  · rw [happended.history, List.head?_append, hfirst]
    exact congrArg some hcreated
  · rw [happended.history]
    refine h.chain.append (List.isChain_singleton e) fun x hx y hy => ?_
    cases hlast.symm.trans hx
    cases hy
    exact ⟨happended.source.trans htarget.symm, happended.legal⟩
  · rw [happended.history, List.getLast?_append, List.getLast?_singleton]
    exact congrArg some happended.target

/-- The creation is the first entry, and in the state of a new record. -/
theorem legalPath_created {c : Crypto} {auction : Auction} {input : CreateReservationInput} {tender : FreightTender}
    {record : ReservationRecord} (h : reservationOf c auction input tender = .ok record) : LegalPath record := by
  obtain ⟨offer, rfl⟩ := reservationOf_spec h
  exact ⟨rfl, List.isChain_singleton _, rfl⟩

section Changes
variable {deps : ServiceDeps} {auction : Auction} {w : Trace} {site : CommitSite} {cur next : ReservationRecord}

/-! ## One commit -/

/-- The state stays with the history, or both grow by one legal step. -/
def KeepsHistory (cur next : ReservationRecord) : Prop :=
  (next.state = cur.state ∧ next.history = cur.history) ∨ ∃ e, Appended cur next e

theorem appended_of_legal {s t : ReservationState} {reason time : JsString} (hs : cur.state = s) (hlegal : t ∈ LEGAL s)
    (hstate : next.state = t)
    (hhistory : next.history = cur.history ++ [⟨cur.state, t, time, if reason = [] then none else some reason⟩]) :
    KeepsHistory cur next := by
  refine .inr ⟨_, hhistory, rfl, hstate.symm, assertLegalTransition_eq_ok.mpr (.inr ?_)⟩
  rw [hs]
  exact hlegal

theorem Moved.keepsHistory {base mid : ReservationRecord} {target : ReservationState} (h : Moved w base target mid)
    (hstate : base.state = cur.state) (hhistory : base.history = cur.history) (hnext : next.state = mid.state)
    (hsame : next.history = mid.history) : KeepsHistory cur next := by
  cases h with
  | stays => exact .inl ⟨hnext.trans hstate, hsame.trans hhistory⟩
  | enters hne hlegal reason time =>
    have hentry : next.history = cur.history ++ [⟨cur.state, target, time, if reason = [] then none else some reason⟩] := by
      rw [hsame, ← hhistory, ← hstate]
      rfl
    exact appended_of_legal hstate.symm hlegal hnext hentry

theorem MovedFrom.keepsHistory {base : ReservationRecord} {sources : List ReservationState} {target : ReservationState}
    (h : MovedFrom w sources target base next) (hlegal : ∀ s ∈ sources, target ∈ LEGAL s)
    (hstate : base.state = cur.state) (hhistory : base.history = cur.history) : KeepsHistory cur next := by
  cases h with
  | stays => exact .inl ⟨hstate, hhistory⟩
  | enters hsource reason time =>
    have hentry : (base.entered target reason time).history =
        cur.history ++ [⟨cur.state, target, time, if reason = [] then none else some reason⟩] := by
      rw [← hhistory, ← hstate]
      rfl
    exact appended_of_legal hstate.symm (hlegal _ hsource) rfl hentry

/-- The sites of a failed settlement. -/
theorem SettleFails.sites {claim : SettleClaim} {selected : SelectedPaymentOption} {result : FacilitatorSettleResult}
    {f : SettleFailure} (h : SettleFails claim selected result f) :
    f.site = .failSettle ∨ f.site = .settleMismatch ∨ f.site = .networkMismatch ∨ f.site = .payerMismatch := by
  cases h with
  | refused => exact .inl rfl
  | mismatch => exact .inr (.inl rfl)
  | network => exact .inr (.inr (.inl rfl))
  | payer => exact .inr (.inr (.inr rfl))

theorem preClaimTarget_legal {r : ReservationRecord}
    (h : r.state = paymentSubmissionStarted ∨ r.state = facilitatorVerified) : preClaimTarget r ∈ LEGAL r.state := by
  rcases h with h | h <;> rw [preClaimTarget, h] <;> decide

theorem SubmissionChange.keepsHistory (h : SubmissionChange deps w site cur next) (hsite : site ∉ JUMPS) :
    KeepsHistory cur next := by
  cases h with
  | selectFirst hstate => exact appended_of_legal (t := optionSelected) hstate (by decide) rfl rfl
  | selectAgain => exact .inl ⟨rfl, rfl⟩
  | challengeFirst hstate => exact appended_of_legal (t := paymentChallengeIssued) hstate (by decide) rfl rfl
  | challengeAgain => exact .inl ⟨rfl, rfl⟩
  | startSubmission hstate => exact appended_of_legal (t := paymentSubmissionStarted) hstate (by decide) rfl rfl
  | rejectPayment hstate => exact appended_of_legal (t := paymentRejected) hstate (by decide) rfl rfl
  | verifyPayment hstate => exact appended_of_legal (t := facilitatorVerified) hstate (by decide) rfl rfl
  | claimSettle hstate => exact appended_of_legal (t := facilitatorSettleClaimed) hstate (by decide) rfl rfl
  | @failSettlement _ claim selected result f now hstate hclaim hselected hfails =>
    refine appended_of_legal (t := f.target) hstate ?_ rfl rfl
    rcases hfails.target with ht | ht <;> rw [ht] <;> decide
  | settlePayment hstate => exact appended_of_legal (t := facilitatorSettled) hstate (by decide) rfl rfl
  | unauthorizedSettlement hstate =>
    rcases hstate with hstate | hstate <;>
      exact appended_of_legal (t := manualReviewRequired) hstate (by decide) rfl rfl
  | preClaimFailed hstate => exact appended_of_legal (t := preClaimTarget cur) rfl (preClaimTarget_legal hstate) rfl rfl
  | preClaimConclusive hstate =>
    exact appended_of_legal (t := preClaimTarget cur) rfl (preClaimTarget_legal hstate) rfl rfl
  | adopt => exact absurd hsite (by decide)
  | claimedFailed hstate => exact appended_of_legal (t := settlementFailed) hstate (by decide) rfl rfl
  | claimedConclusive hstate => exact appended_of_legal (t := settlementFailed) hstate (by decide) rfl rfl
  | authorizeReplacement hstate =>
    rcases hstate with hstate | hstate <;> exact appended_of_legal (t := offerCreated) hstate (by decide) rfl rfl
  | recoverAdopt => exact absurd hsite (by decide)
  | recoverSubmitted => exact absurd hsite (by decide)

theorem ConfirmationChange.keepsHistory (h : ConfirmationChange deps w site cur next) (hsite : site ∉ JUMPS) :
    KeepsHistory cur next := by
  cases h with
  | beginConfirmation hstate => exact appended_of_legal (t := mirrorConfirmationPending) hstate (by decide) rfl rfl
  | renewDeadline => exact .inl ⟨rfl, rfl⟩
  | rebuildPoll => exact .inl ⟨rfl, rfl⟩
  | poll => exact .inl ⟨rfl, rfl⟩
  | mirrorFailed hmoved | confirm hmoved | failConfirmation hmoved | timeOut hmoved | pollBound hmoved =>
    exact hmoved.keepsHistory rfl rfl rfl rfl
  | reserve hstate => exact appended_of_legal (t := routeReserved) hstate (by decide) rfl rfl
  | blockRecovery hstate => exact appended_of_legal (t := manualReviewRequired) hstate (by decide) rfl rfl
  | recoverTimedOut hstate => exact appended_of_legal (t := mirrorConfirmationPending) hstate (by decide) rfl rfl
  | recoverFailed => exact absurd hsite (by decide)
  | recoverSettled => exact absurd hsite (by decide)

theorem OutboxChange.keepsHistory (h : OutboxChange deps w site cur next) : KeepsHistory cur next := by
  cases h with
  | webhookEvents => exact .inl ⟨rfl, rfl⟩
  | @deliveries _ _ _ deliveries now hevents hdelivered hnow hmoved =>
    generalize deliveries.all WebhookDeliveryRecord.delivered = allOk at hmoved
    cases allOk with
    | true => exact MovedFrom.keepsHistory hmoved (by decide) rfl rfl
    | false => exact MovedFrom.keepsHistory hmoved (by decide) rfl rfl
  | claimHcs => exact .inl ⟨rfl, rfl⟩
  | resolving => exact .inl ⟨rfl, rfl⟩
  | hcsPublished _ _ _ _ _ _ hmoved => exact hmoved.keepsHistory (by decide) rfl rfl
  | hcsFailed _ _ _ _ hmoved => exact hmoved.keepsHistory (by decide) rfl rfl
  | hcsRecorded hstate =>
    refine appended_of_legal (t := hcsEvidenceRecorded) rfl ?_ rfl rfl
    revert hstate
    cases cur.state <;> decide
  | complete hstate =>
    rcases hstate with hstate | hstate <;> exact appended_of_legal (t := completed) hstate (by decide) rfl rfl

theorem Change.keepsHistory (h : Change deps w site cur next) (hsite : site ∉ JUMPS) : KeepsHistory cur next := by
  cases h with
  | submission h => exact h.keepsHistory hsite
  | confirmation h => exact h.keepsHistory hsite
  | outbox h => exact h.keepsHistory

/-- The other commits write another state, and leave the history. -/
theorem Change.jumped (h : Change deps w site cur next) (hsite : site ∈ JUMPS) :
    next.state ≠ cur.state ∧ next.history = cur.history := by
  have hof {s t : ReservationState} (hs : cur.state = s) (ht : next.state = t) (hne : t ≠ s)
      (hhistory : next.history = cur.history) : next.state ≠ cur.state ∧ next.history = cur.history := by
    rw [hs, ht]
    exact ⟨hne, hhistory⟩
  cases h with
  | submission h =>
    cases h with
    | adopt hstate => exact hof hstate (t := mirrorConfirmationPending) rfl (by decide) rfl
    | recoverAdopt hstate => exact hof hstate (t := mirrorConfirmationPending) rfl (by decide) rfl
    | recoverSubmitted hambiguous =>
      rcases hambiguous with ⟨hstate, -⟩ | ⟨hstate | hstate, -⟩ <;>
        exact hof hstate (t := manualReviewRequired) rfl (by decide) rfl
    | failSettlement _ _ _ hfails =>
      rcases hfails.sites with h | h | h | h <;> rw [h] at hsite <;> exact absurd hsite (by decide)
    | _ => exact absurd hsite (by decide)
  | confirmation h =>
    cases h with
    | recoverFailed hstate =>
      rcases hstate with hstate | hstate <;> exact hof hstate (t := confirmationFailed) rfl (by decide) rfl
    | recoverSettled hstate =>
      rcases hstate with hstate | hstate <;> exact hof hstate (t := manualReviewRequired) rfl (by decide) rfl
    | _ => exact absurd hsite (by decide)
  | outbox h => cases h <;> exact absurd hsite (by decide)

/-! ## Traces -/

/-- The store took a commit at this site, from one version to the next. -/
structure Stored (w : Trace) (site : CommitSite) (cur r : ReservationRecord) : Prop where
  known : cur ∈ versions w r.reservationId
  call : ∃ next, ⟨.compareAndSet site r.reservationId cur.recordVersion next, .ok r⟩ ∈ w

/-- Every commit that changes a state appends one entry for it, a legal one. -/
def ChangesAppended (w : Trace) : Prop :=
  ∀ site cur r, Stored w site cur r → r.state ≠ cur.state → ∃ e, Appended cur r e

/-- What a commit stored is the change of the version it expected. -/
theorem Lawful.stored_change (hw : Lawful deps auction w) {r : ReservationRecord} (h : Stored w site cur r) :
    ∃ v next, v <+: w ∧ Change deps v site cur next ∧
      r = next.persisted r.reservationId (cur.recordVersion + 1) := by
  obtain ⟨hknown, next, hmem⟩ := h
  obtain ⟨v, rest, rfl⟩ := List.append_of_mem hmem
  obtain ⟨hv, ⟨-, cur', hcur', hversion, hchange⟩, hanswered⟩ := hw.call_at
  obtain ⟨-, -, -, heq, -⟩ := hanswered
  have hsame : cur' = cur := hw.eq_of_version (mem_versions_later (List.prefix_append _ _) hcur') hknown hversion
  exact ⟨v, next, List.prefix_append _ _, hsame ▸ hchange, heq⟩

/-- Without a jump, every history is a legal path. -/
theorem Lawful.legalPath (hw : Lawful deps auction w)
    (hjumps : ∀ site id version next r, ⟨.compareAndSet site id version next, .ok r⟩ ∈ w → site ∉ JUMPS) {id : JsString}
    {r : ReservationRecord} (hr : r ∈ versions w id) : LegalPath r := by
  refine Lawful.versions_invariant (P := fun w r =>
    (∀ site id version next r, ⟨.compareAndSet site id version next, .ok r⟩ ∈ w → site ∉ JUMPS) → LegalPath r)
    ?_ ?_ ?_ hw r hr hjumps
  · intro w w' r hgrows h hjumps
    exact h fun site id version next r hmem => hjumps site id version next r (hgrows.subset hmem)
  · intro w input tender record hrecord _ _ _
    obtain ⟨hcreated, hchain, hcurrent⟩ := legalPath_created hrecord
    exact ⟨hcreated, hchain, hcurrent⟩
  · intro w site cur next hw hcur ih hchange _ _ hjumps
    have hcurPath := ih fun site id version next r hmem =>
      hjumps site id version next r (List.mem_append_left _ hmem)
    have hsite := hjumps _ _ _ _ _ (List.mem_append_right _ (List.mem_singleton_self _))
    rcases hchange.keepsHistory hsite with ⟨hstate, hhistory⟩ | ⟨e, happended⟩
    · refine ⟨?_, ?_, ?_⟩
      · rw [hhistory]
        exact hcurPath.created
      · rw [hhistory]
        exact hcurPath.chain
      · rw [hhistory, hstate]
        exact hcurPath.current
    · obtain ⟨hcreated, hchain, hcurrent⟩ := hcurPath.append happended
      exact ⟨hcreated, hchain, hcurrent⟩

/-- A stored commit replaced a version. -/
theorem Lawful.exists_stored (hw : Lawful deps auction w) {id : JsString} {version : Nat} {next r : ReservationRecord}
    (h : ⟨.compareAndSet site id version next, .ok r⟩ ∈ w) : ∃ cur, Stored w site cur r := by
  obtain ⟨v, rest, rfl⟩ := List.append_of_mem h
  obtain ⟨-, -, cur, hcur, rfl, rfl, -⟩ := hw.call_at
  exact ⟨cur, mem_versions_later (List.prefix_append _ _) (mem_versions_of_stored hcur), next, h⟩

/-- The histories of a trace are in order exactly when no commit passes them by. -/
theorem Lawful.legal_paths_iff (hw : Lawful deps auction w) :
    ((∀ id, ∀ r ∈ versions w id, LegalPath r) ∧ ChangesAppended w) ↔
      ∀ site cur r, Stored w site cur r → site ∉ JUMPS := by
  constructor
  · rintro ⟨-, hchanges⟩ site cur r hstored hsite
    obtain ⟨v, next, -, hchange, heq⟩ := hw.stored_change hstored
    obtain ⟨hstate, hhistory⟩ := hchange.jumped hsite
    have hrState : r.state = next.state := by rw [heq]; rfl
    have hrHistory : r.history = next.history := by rw [heq]; rfl
    obtain ⟨e, happended⟩ := hchanges site cur r hstored (by rwa [hrState])
    have hgrown := happended.history
    rw [hrHistory, hhistory] at hgrown
    simp at hgrown
  · intro hjumps
    refine ⟨fun id r hr => hw.legalPath ?_ hr, ?_⟩
    · intro site id version next r hmem
      obtain ⟨cur, hstored⟩ := hw.exists_stored hmem
      exact hjumps site cur r hstored
    · intro site cur r hstored hne
      obtain ⟨v, next, -, hchange, heq⟩ := hw.stored_change hstored
      rw [heq] at hne ⊢
      rcases hchange.keepsHistory (hjumps site cur r hstored) with ⟨hstate, -⟩ | ⟨e, happended⟩
      · exact absurd hstate hne
      · exact ⟨e, happended.history, happended.source, happended.target, happended.legal⟩

end Changes

/-! ## Runs -/

section Runs
variable {deps : ServiceDeps} {auction : Auction} {ls : List ServiceLabel} {s : ServicePool}

/-- In every run of the service, whatever the interleaving: every history is a legal path to the state of its record and
every change of a state appends one entry, exactly when no commit adopts a transaction and none is made by the recovery
of records in progress. -/
theorem history_legal_iff (hrun : (serviceSystem deps auction).Run ls s) :
    ((∀ id, ∀ r ∈ versions s.shared id, LegalPath r) ∧ ChangesAppended s.shared) ↔
      ∀ site cur r, Stored s.shared site cur r → site ∉ JUMPS :=
  (lawful_of_run hrun).legal_paths_iff

end Runs

namespace Adopted
open Scripted

/-- The payment is submitted and lost once it is claimed; then it is reconciled. -/
def moves (reconciled : Nat) : List (Move Request) :=
  challenged ++ Move.request 4 (.submitPayment submitInput) 10 ++ [Move.lost 4] ++
    Move.request 5 (.reconcilePayment (js "r-1")) reconciled

/-- No commit of a trace passes the history by. -/
def appends : CallRecord → Bool
  | ⟨.compareAndSet site _ _ _, _⟩ => site ∉ JUMPS
  | _ => true

theorem not_jumps {w : Trace} (h : w.all appends) : ∀ site cur r, Stored w site cur r → site ∉ JUMPS := by
  rintro site cur r ⟨-, next, hmem⟩
  simpa [appends] using List.all_eq_true.mp h _ hmem

theorem claimed_played : (played deps auction script (moves 0)).any fun r =>
    r.2.shared.all appends && (stored r.2.shared (js "r-1")).any fun v => v.state = facilitatorSettleClaimed := by
  decide +kernel

theorem adopted_played : (played deps auction script (moves 7)).any fun r =>
    (stored r.2.shared (js "r-1")).any fun v => v.state = mirrorConfirmationPending ∧
      v.history.getLast?.map StateTransitionRecord.target = some facilitatorSettleClaimed := by
  decide +kernel

end Adopted

/-- The history of a claimed payment is a legal path. -/
theorem history_legal_iff_claimed : ∃ ls s r, (serviceSystem Scripted.deps Scripted.auction).Run ls s ∧
    r ∈ versions s.shared (js "r-1") ∧ r.state = facilitatorSettleClaimed ∧ LegalPath r := by
  obtain ⟨⟨ls, s⟩, hplayed, hfacts⟩ := (Option.any_eq_true _ _).mp Adopted.claimed_played
  rw [Bool.and_eq_true] at hfacts
  obtain ⟨r, hr, hstate⟩ := (Option.any_eq_true _ _).mp hfacts.2
  have hrun := scripted_run hplayed
  have hmem := mem_versions_of_stored hr
  refine ⟨ls, s, r, hrun, hmem, of_decide_eq_true hstate, ?_⟩
  exact ((history_legal_iff hrun).mpr (Adopted.not_jumps hfacts.1)).1 _ r hmem

/-- The adoption of a claimed payment: the record waits for its confirmation, and its history ends at the claim. -/
theorem adoption_leaves_history : ∃ ls s r, (serviceSystem Scripted.deps Scripted.auction).Run ls s ∧
    r ∈ versions s.shared (js "r-1") ∧ r.state = mirrorConfirmationPending ∧ ¬ LegalPath r := by
  obtain ⟨⟨ls, s⟩, hplayed, hfacts⟩ := (Option.any_eq_true _ _).mp Adopted.adopted_played
  obtain ⟨r, hr, hfacts⟩ := (Option.any_eq_true _ _).mp hfacts
  obtain ⟨hstate, hlast⟩ := of_decide_eq_true hfacts
  refine ⟨ls, s, r, scripted_run hplayed, mem_versions_of_stored hr, hstate, fun hpath => ?_⟩
  have hcurrent := hpath.current
  rw [hlast, hstate] at hcurrent
  cases hcurrent

end RouteGuard.Reservation
