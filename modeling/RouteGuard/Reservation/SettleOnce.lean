import RouteGuard.Reservation.ClaimWindow

/-!
# One settlement for a claim

A payment is settled under a claim that was stored before, and at most once. Between the claim and its settlement the
record may have gone on: the claim is held until the record has failed conclusively and is reset.

* `Replaced` : a claim has failed conclusively and the record was reset;
* `Lawful.claim_held` : a claim is held or replaced;
* `SettlesOnce` : what holds of the settlements of a trace;
* `settles_once` : it holds in every run.
-/

namespace RouteGuard.Reservation
open JsString Guarded ReservationState

/-- Between two versions, the record was committed as conclusively failed under the claim and then reset by a
replacement. -/
def Replaced (w : Trace) (claim : SettleClaim) (r r' : ReservationRecord) : Prop :=
  ∃ failed ∈ versions w claim.reservationId, ∃ reset ∈ versions w claim.reservationId,
    r.recordVersion ≤ failed.recordVersion ∧ failed.recordVersion < reset.recordVersion ∧
      reset.recordVersion ≤ r'.recordVersion ∧
    failed.settleClaim = some claim ∧ failed.failureCode = some (js "CONCLUSIVELY_FAILED") ∧
    (reset.settleClaim = none ∧ reset.state = offerCreated) ∧
    ∃ version next, ⟨.compareAndSet .authorizeReplacement claim.reservationId version next, .ok reset⟩ ∈ w

theorem Replaced.mono {w w' : Trace} {claim : SettleClaim} {r r' r'' : ReservationRecord} (h : Replaced w claim r r')
    (hw : w <+: w') (hle : r'.recordVersion ≤ r''.recordVersion) : Replaced w' claim r r'' := by
  obtain ⟨failed, hfailed, reset, hreset, hfirst, hlt, hlast, hclaim, hcode, hfree, version, next, hmem⟩ := h
  exact ⟨failed, mem_versions_later hw hfailed, reset, mem_versions_later hw hreset, hfirst, hlt, hlast.trans hle,
    hclaim, hcode, hfree, version, next, hw.subset hmem⟩

section Claims
variable {deps : ServiceDeps} {auction : Auction} {w : Trace}

/-- The claim of a version, if it is one of this reservation, is held by a later version, or it was replaced. -/
def Holds (w : Trace) (r r' : ReservationRecord) : Prop :=
  ∀ claim, r.settleClaim = some claim → claim.reservationId = r.reservationId →
    r.recordVersion ≤ r'.recordVersion → r'.settleClaim = some claim ∨ Replaced w claim r r'

/-- A claim is for its own reservation. -/
theorem Valid.claim_reservation {c : Crypto} {r : ReservationRecord} (h : Valid c r) {claim : SettleClaim}
    (hclaim : r.settleClaim = some claim) : claim.reservationId = r.reservationId := by
  have hpart := (valid_iff.mp h).settleClaim
  simp only [checkSettleClaim, hclaim, nullable, check_eq_ok, checkClaim] at hpart
  cases hselected : r.selected with
  | none =>
    rw [hselected] at hpart
    cases hpart.2
  | some selected =>
    rw [hselected] at hpart
    simp only [check_eq_ok, binding, require_eq_ok] at hpart
    exact hpart.2.2.1

/-- A claim is held until it is replaced. -/
theorem Lawful.claim_held (hw : Lawful deps auction w) {id : JsString} {r r' : ReservationRecord}
    (hr : r ∈ versions w id) (hr' : r' ∈ versions w id) (hle : r.recordVersion ≤ r'.recordVersion) {claim : SettleClaim}
    (hclaim : r.settleClaim = some claim) : r'.settleClaim = some claim ∨ Replaced w claim r r' := by
  have hid := (hw.valid hr).claim_reservation hclaim
  refine Lawful.later_invariant (R := Holds) ?_ ?_ ?_ hw r hr r' hr' hle claim hclaim hid hle
  · intro w w' r r' hgrows h claim hclaim hid hle
    exact (h claim hclaim hid hle).imp_right fun hreplaced => hreplaced.mono hgrows le_rfl
  · intro w r claim hclaim _ _
    exact .inl hclaim
  · intro w site r cur next hw hr hcur ih hchange hid _ claim hclaim hown _
    have hcurMem := mem_versions_of_stored hcur
    have hbefore := hw.le_stored hr hcur
    have hgrows := List.prefix_append w
      [⟨.compareAndSet site id cur.recordVersion next, .ok { next with recordVersion := cur.recordVersion + 1 }⟩]
    rcases ih claim hclaim hown hbefore with hheld | hreplaced
    · -- only a replacement drops a claim
      cases hchange.binding (hw.valid hcurMem) (hw.sound hcurMem) with
      | kept _ hsame => exact .inl (hsame.trans hheld)
      | dropped _ hnone hstate hcode =>
        refine .inr ⟨cur, ?_, { next with recordVersion := cur.recordVersion + 1 }, ?_, hbefore, Nat.lt_succ_self _,
          le_rfl, hheld, hcode, ⟨hnone, hstate⟩, cur.recordVersion, next, ?_⟩
        · rw [hown, hw.reservationId_eq hr]
          exact mem_versions_later hgrows hcurMem
        · rw [hown, hw.reservationId_eq hr]
          exact mem_versions_committed hid
        · rw [hown, hw.reservationId_eq hr]
          exact List.mem_append_right _ (List.mem_singleton_self _)
      | started _ _ hfree => exact absurd (hfree.symm.trans hheld) (fun h => by cases h)
      | claimed _ _ _ hfree => exact absurd (hfree.symm.trans hheld) (fun h => by cases h)
    · exact .inr (hreplaced.mono hgrows (Nat.le_succ _))

/-! ## Settlements -/

/-- The claim that a call settles. -/
def CallRecord.settles : CallRecord → Option SettleClaim
  | ⟨.settle claim _ _ _, _⟩ => some claim
  | _ => none

/-- What holds of the settlements of a trace: each is made under a claim that was stored before and is still held or was
replaced since, with the hashes of the claim; no attempt id is settled twice; and of two claims of one reservation that
were settled, one was replaced before the other was made. -/
structure SettlesOnce (w : Trace) : Prop where
  held : ∀ before claim selected payloadHash challengeHash answer after,
    w = before ++ ⟨.settle claim selected payloadHash challengeHash, answer⟩ :: after →
      payloadHash = claim.paymentPayloadHash ∧ challengeHash = claim.challengeHash ∧
      ∃ r ∈ versions before claim.reservationId, r.state = facilitatorSettleClaimed ∧ r.settleClaim = some claim ∧
        ∃ last, stored before claim.reservationId = some last ∧
          (last.settleClaim = some claim ∨ Replaced before claim r last)
  once : (w.filterMap fun e => e.settles.map SettleClaim.settleAttemptId).Nodup
  apart : ∀ claim claim', claim ∈ w.filterMap CallRecord.settles → claim' ∈ w.filterMap CallRecord.settles →
    claim ≠ claim' → claim.reservationId = claim'.reservationId →
      ∃ r ∈ versions w claim.reservationId, ∃ r' ∈ versions w claim.reservationId, r.settleClaim = some claim ∧
        r'.settleClaim = some claim' ∧ (Replaced w claim r r' ∨ Replaced w claim' r' r)

theorem mem_settles {w : Trace} {claim : SettleClaim} (h : claim ∈ w.filterMap CallRecord.settles) :
    ∃ selected payloadHash challengeHash answer before after,
      w = before ++ ⟨.settle claim selected payloadHash challengeHash, answer⟩ :: after := by
  obtain ⟨⟨call, answer⟩, hmem, hsettles⟩ := List.mem_filterMap.mp h
  obtain ⟨before, after, hsplit⟩ := List.append_of_mem hmem
  cases call with
  | settle claim' selected payloadHash challengeHash =>
    cases hsettles
    exact ⟨selected, payloadHash, challengeHash, answer, before, after, hsplit⟩
  | _ => cases hsettles

/-- The claims that were settled are among the attempts that were spent. -/
theorem settles_sublist (w : Trace) :
    (w.filterMap fun e => e.settles.map SettleClaim.settleAttemptId).Sublist (w.filterMap fun e => e.1.spent) := by
  induction w with
  | nil => exact .slnil
  | cons e w ih =>
    obtain ⟨call, answer⟩ := e
    cases call with
    | settle claim selected payloadHash challengeHash => exact ih.cons_cons claim.settleAttemptId
    | publish claim envelope => exact ih.cons claim.publishAttemptId
    | _ => exact ih

/-- A settlement is made under a stored claim. -/
theorem Lawful.settled_under (hw : Lawful deps auction w) {before after : Trace} {claim : SettleClaim}
    {selected : SelectedPaymentOption} {payloadHash challengeHash : JsString}
    {answer : Except ServiceError FacilitatorSettleResult}
    (hsplit : w = before ++ ⟨.settle claim selected payloadHash challengeHash, answer⟩ :: after) :
    payloadHash = claim.paymentPayloadHash ∧ challengeHash = claim.challengeHash ∧
      ∃ r ∈ versions before claim.reservationId, r.state = facilitatorSettleClaimed ∧ r.settleClaim = some claim := by
  obtain ⟨-, ⟨hpayload, hchallenge, r, hr, hstate, hclaim, -⟩, -⟩ := (hsplit ▸ hw).call_at
  exact ⟨hpayload, hchallenge, r, hr, hstate, hclaim⟩

/-- Of two claims one was replaced before the other. -/
theorem Lawful.claims_apart (hw : Lawful deps auction w) {id : JsString} {r r' : ReservationRecord}
    (hr : r ∈ versions w id) (hr' : r' ∈ versions w id) {claim claim' : SettleClaim}
    (hclaim : r.settleClaim = some claim) (hclaim' : r'.settleClaim = some claim') (hne : claim ≠ claim') :
    Replaced w claim r r' ∨ Replaced w claim' r' r := by
  rcases Nat.le_total r.recordVersion r'.recordVersion with hle | hle
  · rcases hw.claim_held hr hr' hle hclaim with hheld | hreplaced
    · exact absurd (Option.some.inj (hheld.symm.trans hclaim')) hne
    · exact .inl hreplaced
  · rcases hw.claim_held hr' hr hle hclaim' with hheld | hreplaced
    · exact absurd (Option.some.inj (hclaim.symm.trans hheld)) hne
    · exact .inr hreplaced

variable {ls : List ServiceLabel} {s : ServicePool}

/-- In every run of the service, whatever the interleaving and the requests that are lost, the settlements are made once,
under claims that were stored before, and a claim is replaced before the next one. -/
theorem settles_once (hrun : (serviceSystem deps auction).Run ls s) : SettlesOnce s.shared := by
  have hw := lawful_of_run hrun
  refine ⟨?_, (spent_nodup hrun).sublist (settles_sublist _), ?_⟩
  · intro before claim selected payloadHash challengeHash answer after hsplit
    obtain ⟨hpayload, hchallenge, r, hr, hstate, hclaim⟩ := hw.settled_under hsplit
    have hbefore : Lawful deps auction before := hw.of_prefix ⟨_, hsplit.symm⟩
    obtain ⟨last, hlast⟩ := stored_isSome_of_mem hr
    exact ⟨hpayload, hchallenge, r, hr, hstate, hclaim, last, hlast,
      hbefore.claim_held hr (mem_versions_of_stored hlast) (hbefore.le_stored hr hlast) hclaim⟩
  · intro claim claim' hmem hmem' hne hid
    obtain ⟨_, _, _, _, before, _, hsplit⟩ := mem_settles hmem
    obtain ⟨_, _, _, _, before', _, hsplit'⟩ := mem_settles hmem'
    obtain ⟨-, -, r, hr, -, hclaim⟩ := hw.settled_under hsplit
    obtain ⟨-, -, r', hr', -, hclaim'⟩ := hw.settled_under hsplit'
    have hmem := mem_versions_later ⟨_, hsplit.symm⟩ hr
    have hmem' := mem_versions_later ⟨_, hsplit'.symm⟩ hr'
    rw [← hid] at hmem'
    exact ⟨r, hmem, r', hmem', hclaim, hclaim', hw.claims_apart hmem hmem' hclaim hclaim' hne⟩

end Claims

/-! ## A settlement after the replacement -/

namespace Delayed
open Scripted

/-- A payment is claimed, and before it is settled it is found nowhere, has failed conclusively and is replaced. -/
def replaced : List (Move Request) :=
  challenged ++ Move.request 4 (.submitPayment submitInput) 10 ++ Move.request 5 (.reconcilePayment (js "r-1")) 6 ++
    Move.request 6 (.authorizeReplacementAttempt (js "r-1")) 4 ++ [Move.call 4]

/-- The last call settles a payment, and the stored record holds no claim. -/
def settlesUnheld (w : Trace) : Bool :=
  match w.getLast? with
  | some ⟨.settle claim _ _ _, _⟩ => (stored w.dropLast claim.reservationId).any fun r => r.settleClaim.isNone
  | _ => false

theorem settlesUnheld_spec {w : Trace} (h : settlesUnheld w) :
    ∃ before claim selected payloadHash challengeHash answer r,
      w = before ++ [⟨.settle claim selected payloadHash challengeHash, answer⟩] ∧
      stored before claim.reservationId = some r ∧ r.settleClaim = none := by
  unfold settlesUnheld at h
  split at h
  · next claim selected payloadHash challengeHash answer hlast =>
    obtain ⟨r, hr, hnone⟩ := (Option.any_eq_true _ _).mp h
    obtain ⟨before, rfl⟩ := List.getLast?_eq_some_iff.mp hlast
    rw [List.dropLast_concat] at hr
    exact ⟨before, claim, selected, payloadHash, challengeHash, answer, r, rfl, hr, Option.isNone_iff_eq_none.mp hnone⟩
  · cases h

theorem replaced_played : (played deps auction unseen replaced).any fun r => settlesUnheld r.2.shared := by
  decide +kernel

def settled : List (Move Request) := challenged ++ Move.request 4 (.submitPayment submitInput) 11

theorem settled_played : (played deps auction script settled).any fun r =>
    (r.2.shared.filterMap CallRecord.settles).any fun _ => true := by
  decide +kernel

end Delayed

/-- A payment is settled, once. -/
theorem settles_once_submitted : ∃ ls s claim, (serviceSystem Scripted.deps Scripted.auction).Run ls s ∧
    claim ∈ s.shared.filterMap CallRecord.settles ∧ SettlesOnce s.shared := by
  obtain ⟨⟨ls, s⟩, hplayed, hsettled⟩ := (Option.any_eq_true _ _).mp Delayed.settled_played
  obtain ⟨claim, hclaim, -⟩ := List.any_eq_true.mp hsettled
  have hrun := scripted_run hplayed
  exact ⟨ls, s, claim, hrun, hclaim, settles_once hrun⟩

/-- A submission that waits between its claim and the settlement: the claim fails conclusively and is replaced, and then
the payment is settled while the stored record holds no claim. -/
theorem settled_after_replacement : ∃ ls s before claim selected payloadHash challengeHash answer r,
    (serviceSystem Scripted.deps Scripted.auction).Run ls s ∧
    s.shared = before ++ [⟨.settle claim selected payloadHash challengeHash, answer⟩] ∧
    stored before claim.reservationId = some r ∧ r.settleClaim ≠ some claim := by
  obtain ⟨⟨ls, s⟩, hplayed, hfacts⟩ := (Option.any_eq_true _ _).mp Delayed.replaced_played
  obtain ⟨before, claim, selected, payloadHash, challengeHash, answer, r, hsplit, hr, hnone⟩ :=
    Delayed.settlesUnheld_spec hfacts
  refine ⟨ls, s, before, claim, selected, payloadHash, challengeHash, answer, r, scripted_run hplayed, hsplit, hr, ?_⟩
  rw [hnone]
  exact fun h => by cases h

end RouteGuard.Reservation
