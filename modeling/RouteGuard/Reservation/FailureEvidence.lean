import RouteGuard.Reservation.Reserved
import RouteGuard.Reservation.SubmissionCommits

/-!
# The evidence behind a failed confirmation

One `catch` stands around the verification of a payment and the commits after it, and what it catches fails the
confirmation.

* `AgainstPayment` : what Mirror may have said against the payment of a record;
* `Undisturbed` : the runs in which nothing but Mirror speaks against a payment;
* `ConfirmationChange.against` : what fails a confirmation;
* `confirmation_fails_on_evidence` : in undisturbed runs, every failed confirmation has Mirror's word against it.
-/

namespace RouteGuard.Reservation
open JsString Guarded ReservationState

/-- Mirror answered for the exact transaction of a record that it failed, or that it succeeded in a way that the
verification of the payment rejects. -/
def AgainstPayment (w : Trace) (r : ReservationRecord) : Prop :=
  ∃ txId start mirror, r.transactionId = some txId ∧ Looked w start txId (.ok mirror) ∧
    (mirror.status = .failed ∨
      mirror.status = .success ∧ ∃ selected, r.selected = some selected ∧
        ∀ v, verifyMirrorPayment selected mirror txId ≠ .ok v)

theorem AgainstPayment.mono {w w' : Trace} {r r' : ReservationRecord} (h : AgainstPayment w r) (hw : w <+: w')
    (htx : r'.transactionId = r.transactionId) (hselected : r'.selected = r.selected) : AgainstPayment w' r' := by
  obtain ⟨txId, start, mirror, htxId, hlooked, hstatus⟩ := h
  refine ⟨txId, start, mirror, htx.trans htxId, hw.subset hlooked, hstatus.imp_right ?_⟩
  rintro ⟨hsuccess, selected, hsel, hrejected⟩
  exact ⟨hsuccess, selected, hselected.trans hsel, hrejected⟩

/-- What the ledger's part of a confirmation rejects, the verification of the payment rejects. -/
theorem verifySuccess_rejected {selected : SelectedPaymentOption} {mirror : MirrorConfirmation} {txId : JsString}
    {e : ServiceError} (h : verifySuccess selected mirror txId = .error e) (v : VerifiedPaymentResult) :
    verifyMirrorPayment selected mirror txId ≠ .ok v := by
  intro hv
  obtain ⟨-, -, -, -, hconsensus, hutc, -⟩ := verifyMirrorPayment_spec hv
  have hok : consensusOf mirror "Mirror SUCCESS requires a valid UTC consensus timestamp" = .ok v.consensusTimestamp := by
    rw [consensusOf, hconsensus]
    exact if_pos hutc
  have hverified : verifySuccess selected mirror txId = .ok v := by
    simp only [verifySuccess, bind_eq_ok]
    exact ⟨_, hok, hv⟩
  rw [hverified] at h
  cases h

section Evidence
variable {deps : ServiceDeps} {auction : Auction} {w : Trace} {site : CommitSite} {cur next : ReservationRecord}

/-- The store refuses no confirmed payment but for a newer version, the clock tells valid times, and no recovery is told
of a failure. -/
structure Calm (w : Trace) : Prop where
  store : ∀ id version next e, ⟨.compareAndSet .confirm id version next, .error e⟩ ∈ w → e.isVersionConflict
  clock : ∀ n, ⟨.now, n⟩ ∈ w → isUtcIsoTimestamp n
  recovery : ∀ id version next r, ⟨.compareAndSet .recover id version next, .ok r⟩ ∈ w → next.state ≠ confirmationFailed

theorem Calm.of_prefix {w w' : Trace} (h : Calm w') (hw : w <+: w') : Calm w :=
  ⟨fun id version next e hmem => h.store id version next e (hw.subset hmem), fun n hmem => h.clock n (hw.subset hmem),
    fun id version next r hmem => h.recovery id version next r (hw.subset hmem)⟩

/-- A confirmation that fails has Mirror's word against it, or failed before. -/
theorem ConfirmationChange.against (h : ConfirmationChange deps w site cur next) (hcalm : Calm w)
    (hrecovery : site = .recover → next.state ≠ confirmationFailed)
    (hnewest : ∀ r ∈ versions w cur.reservationId, r.recordVersion ≤ cur.recordVersion)
    (hcur : cur.state = confirmationFailed → AgainstPayment w cur) (hnext : next.state = confirmationFailed) :
    AgainstPayment w cur := by
  have hleft {t : ReservationState} (ht : next.state = t) (hne : t ≠ confirmationFailed) : AgainstPayment w cur :=
    absurd (ht.symm.trans hnext) hne
  cases h with
  | mirrorFailed hmoved hpolled hfailed =>
    obtain ⟨start, hlooked⟩ := hpolled.looked
    exact ⟨_, start, _, hpolled.tx, hlooked, .inl hfailed⟩
  | failConfirmation hmoved hpolled hselected hsuccess hcause =>
    obtain ⟨start, hlooked⟩ := hpolled.looked
    cases hcause with
    | ledger hrejected =>
      exact ⟨_, start, _, hpolled.tx, hlooked, .inr ⟨hsuccess, _, hselected, verifySuccess_rejected hrejected⟩⟩
    | store hverified hfailed =>
      obtain ⟨next, hmem, hconflict⟩ := hfailed
      exact absurd (hcalm.store _ _ _ _ hmem) hconflict
    | clock n hmem hinvalid => exact absurd (hcalm.clock n hmem) hinvalid
    | repeated hstate => exact hcur hstate
    | stale hnewer =>
      obtain ⟨r, hr, hlt⟩ := hnewer
      exact absurd (hnewest r hr) (by omega)
  | recoverFailed => exact absurd hnext (hrecovery rfl)
  | renewDeadline hstate => exact hcur hnext
  | rebuildPoll => exact hcur hnext
  | poll => exact hcur hnext
  | beginConfirmation => exact hleft (t := mirrorConfirmationPending) rfl (by decide)
  | confirm hmoved => exact hleft hmoved.rest.1 (by decide)
  | timeOut hmoved => exact hleft hmoved.rest.1 (by decide)
  | pollBound hmoved => exact hleft hmoved.rest.1 (by decide)
  | reserve => exact hleft (t := routeReserved) rfl (by decide)
  | blockRecovery => exact hleft (t := manualReviewRequired) rfl (by decide)
  | recoverTimedOut => exact hleft (t := mirrorConfirmationPending) rfl (by decide)
  | recoverSettled => exact hleft (t := manualReviewRequired) rfl (by decide)

/-- Where nothing else speaks against a payment, every failed confirmation has Mirror's word against it. -/
theorem Lawful.against (hw : Lawful deps auction w) (hcalm : Calm w) {id : JsString} {r : ReservationRecord}
    (hr : r ∈ versions w id) (hs : r.state = confirmationFailed) : AgainstPayment w r := by
  refine Lawful.versions_invariant (P := fun w r => Calm w → r.state = confirmationFailed → AgainstPayment w r)
    ?_ ?_ ?_ hw r hr hcalm hs
  · intro w w' r hgrows h hcalm hs
    exact (h (hcalm.of_prefix hgrows) hs).mono hgrows rfl rfl
  · intro w input tender record hrecord _ _ _ hs
    obtain ⟨offer, rfl⟩ := reservationOf_spec hrecord
    cases hs
  · intro w site cur next hw hcur ih hchange _ _ hcalm hs
    have hcurMem := mem_versions_of_stored hcur
    have hvalid := hw.valid hcurMem
    have hbefore := hcalm.of_prefix (List.prefix_append w _)
    have hs : next.state = confirmationFailed := hs
    cases hchange with
    | submission h =>
      have htarget := (h.submits hvalid).target
      rw [hs] at htarget
      exact absurd htarget (by decide)
    | confirmation h =>
      have hpayment := h.confirms.samePayment
      have hrecovery (hsite : site = .recover) : next.state ≠ confirmationFailed := by
        subst hsite
        exact hcalm.recovery _ _ _ _ (List.mem_append_right _ (List.mem_singleton_self _))
      have hagainst := h.against hbefore hrecovery
        (fun r hr => hw.le_stored (hw.reservationId_eq hcurMem ▸ hr) hcur) (ih hbefore) hs
      exact hagainst.mono (List.prefix_append _ _) hpayment.transactionId hpayment.selected
    | outbox h =>
      have htarget := (h.notifies hvalid).target
      rw [hs] at htarget
      exact absurd htarget (by decide)

/-! ## Runs -/

variable {ls : List ServiceLabel} {s : ServicePool}

/-- The commit of a confirmed payment fails for a newer version only, the clock tells valid times, and no recovery is
called with the word of a failure. -/
structure Undisturbed (ls : List ServiceLabel) (w : Trace) : Prop where
  store : ∀ id version next e, ⟨.compareAndSet .confirm id version next, .error e⟩ ∈ w → e.isVersionConflict
  clock : ∀ n, ⟨.now, n⟩ ∈ w → isUtcIsoTimestamp n
  word : ∀ n id resolution, .start n (.recover id resolution) ∈ ls → resolution.mirrorStatus ≠ some (js "FAILED")

theorem Undisturbed.calm (hrun : (serviceSystem deps auction).Run ls s) (h : Undisturbed ls s.shared) :
    Calm s.shared := by
  refine ⟨h.store, h.clock, fun id version next r hmem hfailed => ?_⟩
  obtain ⟨n, hcall⟩ := exists_call_of_mem (fun _ _ _ _ h => h.2) hrun _ hmem
  obtain ⟨request, hstart, hown⟩ := own_of_run hrun hcall
  obtain ⟨id', resolution, rfl, hword⟩ := hown.failure _ _ _ rfl hfailed
  exact h.word n id' resolution hstart hword

/-- In every undisturbed run of the service, whatever the interleaving and the requests that are lost: a confirmation has
failed only where Mirror reported the exact transaction as failed, or as a success that the verification rejects. -/
theorem confirmation_fails_on_evidence (hrun : (serviceSystem deps auction).Run ls s) (h : Undisturbed ls s.shared)
    {id : JsString} {r : ReservationRecord} (hr : r ∈ versions s.shared id) (hs : r.state = confirmationFailed) :
    AgainstPayment s.shared r :=
  (lawful_of_run hrun).against (h.calm hrun) hr hs

end Evidence

/-! ## A payment that is rejected, and one whose commit fails -/

namespace Contested
open Scripted

/-- Mirror reports a success without the transfer of the fee. -/
def short : Script :=
  { script with getTransaction := fun _ transactionId => .ok { paid transactionId with tokenTransfers := [] } }

/-- The lock of the store is held while the confirmed payment is committed. -/
def locked : Script :=
  { script with storageError := fun site => if site = .confirm then some (js "LOCK_HELD") else none }

def moves (submitted : Nat) : List (Move Request) := challenged ++ Move.request 4 (.submitPayment submitInput) submitted

def undisturbedCall : CallRecord → Bool
  | ⟨.compareAndSet .confirm _ _ _, .error e⟩ => e.isVersionConflict
  | ⟨.now, n⟩ => isUtcIsoTimestamp n
  | _ => true

def undisturbedLabel : ServiceLabel → Bool
  | .start _ (.recover _ resolution) => resolution.mirrorStatus ≠ some (js "FAILED")
  | _ => true

theorem undisturbed_of_all {ls : List ServiceLabel} {w : Trace} (hw : w.all undisturbedCall)
    (hls : ls.all undisturbedLabel) : Undisturbed ls w := by
  refine ⟨fun id version next e hmem => ?_, fun n hmem => ?_, fun n id resolution hmem => ?_⟩
  · exact List.all_eq_true.mp hw _ hmem
  · exact List.all_eq_true.mp hw _ hmem
  · exact of_decide_eq_true (List.all_eq_true.mp hls _ hmem)

/-- Mirror answered with a success that is the payment of the record. -/
def verifies (r : ReservationRecord) : CallRecord → Bool
  | ⟨.getTransaction _ _, .ok mirror⟩ => mirror.status = .success && r.selected.any fun selected =>
      r.transactionId.any fun txId => (verifyMirrorPayment selected mirror txId).toOption.isSome
  | _ => true

theorem not_against {w : Trace} {r : ReservationRecord} (h : w.all (verifies r)) : ¬ AgainstPayment w r := by
  rintro ⟨txId, start, mirror, htx, hlooked, hstatus⟩
  have hverifies := List.all_eq_true.mp h _ hlooked
  simp only [verifies, Bool.and_eq_true, decide_eq_true_eq, htx, Option.any_some] at hverifies
  obtain ⟨hsuccess, hverified⟩ := hverifies
  rcases hstatus with hfailed | ⟨-, selected, hselected, hrejected⟩
  · rw [hsuccess] at hfailed
    cases hfailed
  · rw [hselected, Option.any_some] at hverified
    obtain ⟨v, hv⟩ := Option.isSome_iff_exists.mp hverified
    exact hrejected v (toOption_eq_some.mp hv)

theorem short_played : (played deps auction short (moves 24)).any fun r =>
    r.2.shared.all undisturbedCall && r.1.all undisturbedLabel &&
      (stored r.2.shared (js "r-1")).any fun v => v.state = confirmationFailed := by
  decide +kernel

theorem locked_played : (played deps auction locked (moves 27)).any fun r =>
    (stored r.2.shared (js "r-1")).any fun v => v.state = confirmationFailed && r.2.shared.all (verifies v) := by
  decide +kernel

end Contested

/-- A payment without its transfer fails on Mirror's word. -/
theorem confirmation_fails_on_evidence_short : ∃ ls s r, (serviceSystem Scripted.deps Scripted.auction).Run ls s ∧
    r ∈ versions s.shared (js "r-1") ∧ r.state = confirmationFailed ∧ AgainstPayment s.shared r := by
  obtain ⟨⟨ls, s⟩, hplayed, hfacts⟩ := (Option.any_eq_true _ _).mp Contested.short_played
  simp only [Bool.and_eq_true] at hfacts
  obtain ⟨⟨hcalls, hlabels⟩, hlast⟩ := hfacts
  obtain ⟨r, hr, hstate⟩ := (Option.any_eq_true _ _).mp hlast
  have hrun := scripted_run hplayed
  have hmem := mem_versions_of_stored hr
  have hs : r.state = confirmationFailed := of_decide_eq_true hstate
  exact ⟨ls, s, r, hrun, hmem, hs,
    confirmation_fails_on_evidence hrun (Contested.undisturbed_of_all hcalls hlabels) hmem hs⟩

/-- Every answer of Mirror is a success that verifies; the commit of the confirmed payment finds the lock held, and the
confirmation has failed. -/
theorem verified_payment_fails : ∃ ls s r, (serviceSystem Scripted.deps Scripted.auction).Run ls s ∧
    r ∈ versions s.shared (js "r-1") ∧ r.state = confirmationFailed ∧ ¬ AgainstPayment s.shared r := by
  obtain ⟨⟨ls, s⟩, hplayed, hlast⟩ := (Option.any_eq_true _ _).mp Contested.locked_played
  obtain ⟨r, hr, hfacts⟩ := (Option.any_eq_true _ _).mp hlast
  rw [Bool.and_eq_true] at hfacts
  exact ⟨ls, s, r, scripted_run hplayed, mem_versions_of_stored hr, of_decide_eq_true hfacts.1,
    Contested.not_against hfacts.2⟩

end RouteGuard.Reservation
