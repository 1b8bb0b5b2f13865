import RouteGuard.Reservation.FailureBoundary
import RouteGuard.Reservation.SubmissionCommits
import RouteGuard.Reservation.Validity

/-!
# The window under a settle claim

The start of a submission keeps a transaction with its window, and the settle claim keeps them again, each from the input
of the request that commits it. The two are compared by the id alone.

* `reference_eq_iff` : parsed references with one id differ in their durations only;
* `Change.binding` : the commits that change what is bound;
* `Lawful.claim_traced` : where the transaction and the claim of a stored record come from;
* `claim_window_iff` : in every run, the claim carries the window of the submission exactly when its request does.
-/

namespace RouteGuard.Reservation
open JsString Guarded ReservationState

/-! ## References with one id -/

section References
variable {m : TxIdMatch} {id : JsString}

/-- An id that matches is the SDK form of its groups. -/
theorem eq_sdkForm_of_matchSdkTxId (h : matchSdkTxId id = some m) : id = m.sdkForm := by
  unfold matchSdkTxId at h
  split at h
  · next account stamp hparts =>
    split at h
    · next seconds nanos hstamp =>
      simp only [Option.ite_none_right_eq_some, Option.some.injEq] at h
      obtain ⟨-, rfl⟩ := h
      have hid := intercalate_splitOn 0x40 id
      have hstamped := intercalate_splitOn 0x2E stamp
      rw [hparts, List.intercalate_cons_cons, List.intercalate_singleton] at hid
      rw [hstamp, List.intercalate_cons_cons, List.intercalate_singleton] at hstamped
      rw [TxIdMatch.sdkForm_eq, ← hid, ← hstamped]
      simp
    · cases h
  · cases h

/-- An id in SDK form is determined by its Mirror form. -/
theorem eq_of_normalizeTxIdForm {a b : JsString} (ha : (matchSdkTxId a).isSome) (hb : (matchSdkTxId b).isSome)
    (h : normalizeTxIdForm a = normalizeTxIdForm b) : a = b := by
  obtain ⟨m, hm⟩ := Option.isSome_iff_exists.mp ha
  obtain ⟨n, hn⟩ := Option.isSome_iff_exists.mp hb
  have hmWell := wellFormed_of_matchSdkTxId hm
  have hnWell := wellFormed_of_matchSdkTxId hn
  rw [eq_sdkForm_of_matchSdkTxId hm, eq_sdkForm_of_matchSdkTxId hn] at h ⊢
  rw [Spells.sdk.normalizeTxIdForm hmWell, Spells.sdk.normalizeTxIdForm hnWell] at h
  rw [hmWell.mirrorForm_inj hnWell h]

/-- What a parsed reference holds: its valid start is written in its id, and its duration is the one of the input. -/
theorem parseClientTransactionRef_window {input ref : ClientTransactionRef}
    (h : parseClientTransactionRef input = .ok ref) :
    validStartIsoFromTransactionId ref.transactionId = .ok ref.validStartTimestamp ∧
      ref.transactionValidDurationSeconds = input.transactionValidDurationSeconds := by
  simp only [parseClientTransactionRef, bind_eq_ok, require_eq_ok, exists_const, pure_eq_ok] at h
  obtain ⟨-, derived, hderived, hstart, -, rfl⟩ := h
  exact ⟨hstart ▸ hderived, rfl⟩

/-- Parsed references with one id are equal exactly when the durations of their inputs are. -/
theorem reference_eq_iff {input input' ref ref' : ClientTransactionRef} (h : parseClientTransactionRef input = .ok ref)
    (h' : parseClientTransactionRef input' = .ok ref')
    (hid : normalizeTxIdForm ref.transactionId = normalizeTxIdForm ref'.transactionId) :
    ref = ref' ↔ input.transactionValidDurationSeconds = input'.transactionValidDurationSeconds := by
  obtain ⟨hstart, hduration⟩ := parseClientTransactionRef_window h
  obtain ⟨hstart', hduration'⟩ := parseClientTransactionRef_window h'
  have hsame := eq_of_normalizeTxIdForm (parseClientTransactionRef_spec h).1 (parseClientTransactionRef_spec h').1 hid
  rw [← hsame, hstart] at hstart'
  rw [← hduration, ← hduration']
  constructor
  · exact fun heq => by rw [heq]
  · intro hsameDuration
    cases ref
    cases ref'
    simp_all

end References

/-! ## What the commits bind -/

section Binding
variable {deps : ServiceDeps} {auction : Auction} {w : Trace} {site : CommitSite} {cur next : ReservationRecord}

/-- What a commit does to the transaction of a record and to its claim. -/
inductive Binding (cur next : ReservationRecord) : CommitSite → Prop
  | kept {site : CommitSite} (htx : next.clientTransaction = cur.clientTransaction)
      (hclaim : next.settleClaim = cur.settleClaim) : Binding cur next site
  | dropped (htx : next.clientTransaction = none) (hclaim : next.settleClaim = none) (hstate : next.state = offerCreated)
      (hcode : cur.failureCode = some (js "CONCLUSIVELY_FAILED")) : Binding cur next .authorizeReplacement
  | started {ref : ClientTransactionRef} (htx : next.clientTransaction = some ref) (hclaim : next.settleClaim = none)
      (hfree : cur.settleClaim = none) : Binding cur next .startSubmission
  | claimed {ref : ClientTransactionRef} {claim : SettleClaim} (htx : next.clientTransaction = cur.clientTransaction)
      (hcur : cur.clientTransaction = some ref) (hclaim : next.settleClaim = some claim)
      (hfree : cur.settleClaim = none) : Binding cur next .claimSettle

theorem Valid.clientTransaction_isSome {c : Crypto} {r : ReservationRecord} (h : Valid c r)
    (hs : r.state ∈ REQUIRES_PAYLOAD) : r.clientTransaction.isSome := by
  have hpart := (valid_iff.mp h).clientTransaction
  simp only [checkClientTransaction, check_eq_ok, requirePart, require_eq_ok] at hpart
  exact hpart.1 hs

/-- A claim under a transaction has its id. -/
theorem Valid.claim_id {c : Crypto} {r : ReservationRecord} (h : Valid c r) {claim : SettleClaim}
    {ref : ClientTransactionRef} (hclaim : r.settleClaim = some claim) (href : r.clientTransaction = some ref) :
    normalizeTxIdForm ref.transactionId = normalizeTxIdForm claim.transactionId := by
  have hpart := (valid_iff.mp h).settleClaim
  simp only [checkSettleClaim, hclaim, nullable, check_eq_ok, checkClaim] at hpart
  cases hselected : r.selected with
  | none =>
    rw [hselected] at hpart
    cases hpart.2
  | some selected =>
    rw [hselected] at hpart
    simp only [check_eq_ok, binding, require_eq_ok, href] at hpart
    tauto

/-- The commits that change what is bound. -/
theorem Change.binding (h : Change deps w site cur next) (hvalid : Valid deps.crypto cur) (hsound : Sound cur) :
    Binding cur next site := by
  cases h with
  | submission h =>
    cases h with
    | startSubmission hstate =>
      have hfree : cur.settleClaim = none := hsound.unclaimed (by rw [hstate]; decide)
      exact .started rfl hfree hfree
    | claimSettle hstate =>
      obtain ⟨ref, href⟩ := Option.isSome_iff_exists.mp (hvalid.clientTransaction_isSome (by rw [hstate]; decide))
      exact .claimed rfl href rfl (hsound.unclaimed (by rw [hstate]; decide))
    | authorizeReplacement _ hcode => exact .dropped rfl rfl rfl hcode
    | _ => exact .kept rfl rfl
  | confirmation h =>
    have hrest := h.confirms.rest
    exact .kept (by rw [hrest]) (by rw [hrest])
  | outbox h =>
    have hrest := (h.notifies hvalid).rest
    exact .kept (by rw [hrest]) (by rw [hrest])

/-- A commit of the trace at a site stored this record, and bound this reference. -/
def Bound (w : Trace) (site : CommitSite) (r : ReservationRecord) (ref : ClientTransactionRef) : Prop :=
  ∃ version next, ⟨.compareAndSet site r.reservationId version next, .ok r⟩ ∈ w ∧
    (Call.compareAndSet site r.reservationId version next).binds = some (r.reservationId, ref)

theorem Bound.mono {w w' : Trace} {r : ReservationRecord} {ref : ClientTransactionRef} (h : Bound w site r ref)
    (hw : w <+: w') : Bound w' site r ref := by
  obtain ⟨version, next, hmem, hbinds⟩ := h
  exact ⟨version, next, hw.subset hmem, hbinds⟩

/-- The transaction of a record was kept when a submission started, before there was a claim. -/
def TransactionTraced (w : Trace) (r : ReservationRecord) : Prop :=
  ∀ ref, r.clientTransaction = some ref → ∃ first ∈ versions w r.reservationId, Bound w .startSubmission first ref ∧
    first.clientTransaction = some ref ∧ first.settleClaim = none ∧ first.recordVersion ≤ r.recordVersion

/-- The claim of a record was kept when a settlement was claimed, over the transaction the record still has. -/
def ClaimTraced (w : Trace) (r : ReservationRecord) : Prop :=
  ∀ claim, r.settleClaim = some claim → ∃ claiming ∈ versions w r.reservationId,
    Bound w .claimSettle claiming claim.reference ∧ claiming.settleClaim = some claim ∧
      claiming.clientTransaction = r.clientTransaction ∧ r.clientTransaction.isSome ∧
      claiming.recordVersion ≤ r.recordVersion

/-- The record that a commit stores is the newest version. -/
theorem mem_versions_committed {id : JsString} (hid : next.reservationId = id) :
    { next with recordVersion := cur.recordVersion + 1 } ∈
      versions (w ++ [⟨.compareAndSet site id cur.recordVersion next,
        .ok { next with recordVersion := cur.recordVersion + 1 }⟩]) id := by
  rw [versions_snoc]
  exact List.mem_append_right _ (by simp [CallRecord.written, hid])

/-- And the commit binds what it holds. -/
theorem bound_committed {id : JsString} {ref : ClientTransactionRef} (hid : next.reservationId = id)
    (hbinds : (Call.compareAndSet site next.reservationId cur.recordVersion next).binds =
      some (next.reservationId, ref)) :
    Bound (w ++ [⟨.compareAndSet site id cur.recordVersion next,
        .ok { next with recordVersion := cur.recordVersion + 1 }⟩]) site
      { next with recordVersion := cur.recordVersion + 1 } ref := by
  subst hid
  exact ⟨cur.recordVersion, next, List.mem_append_right _ (List.mem_singleton_self _), hbinds⟩

theorem Lawful.transaction_traced {id : JsString} (hw : Lawful deps auction w) {r : ReservationRecord}
    (hr : r ∈ versions w id) : TransactionTraced w r := by
  refine Lawful.versions_invariant (P := TransactionTraced) ?_ ?_ ?_ hw r hr
  · intro w w' r hgrows h ref href
    obtain ⟨first, hfirst, hbound, hrest⟩ := h ref href
    exact ⟨first, mem_versions_later hgrows hfirst, hbound.mono hgrows, hrest⟩
  · intro w input tender record hrecord _ _ ref href
    obtain ⟨offer, rfl⟩ := reservationOf_spec hrecord
    cases href
  · intro w site cur next hw hcur ih hchange hid _ ref href
    have hcurMem := mem_versions_of_stored hcur
    have hcurId := hw.reservationId_eq hcurMem
    have hstays (hcurRef : cur.clientTransaction = some ref) := ih ref hcurRef
    cases hchange.binding (hw.valid hcurMem) (hw.sound hcurMem) with
    | kept htx | claimed htx =>
      obtain ⟨first, hfirst, hbound, htx', hclaim', hle⟩ := hstays (htx.symm.trans href)
      refine ⟨first, ?_, hbound.mono (List.prefix_append _ _), htx', hclaim', Nat.le_succ_of_le hle⟩
      have hsame : next.reservationId = cur.reservationId := hid.trans hcurId.symm
      exact hsame ▸ mem_versions_later (List.prefix_append _ _) hfirst
    | dropped htx => exact absurd (htx.symm.trans href) (fun h => by cases h)
    | started htx hclaim =>
      have href : next.clientTransaction = some ref := href
      subst hid
      refine ⟨_, mem_versions_committed rfl, bound_committed rfl ?_, href, hclaim, le_rfl⟩
      simp only [Call.binds, href, Option.map_some]

theorem Lawful.claim_traced {id : JsString} (hw : Lawful deps auction w) {r : ReservationRecord}
    (hr : r ∈ versions w id) : ClaimTraced w r := by
  refine Lawful.versions_invariant (P := ClaimTraced) ?_ ?_ ?_ hw r hr
  · intro w w' r hgrows h claim hclaim
    obtain ⟨claiming, hclaiming, hbound, hrest⟩ := h claim hclaim
    exact ⟨claiming, mem_versions_later hgrows hclaiming, hbound.mono hgrows, hrest⟩
  · intro w input tender record hrecord _ _ claim hclaim
    obtain ⟨offer, rfl⟩ := reservationOf_spec hrecord
    cases hclaim
  · intro w site cur next hw hcur ih hchange hid _ claim hnext
    have hcurMem := mem_versions_of_stored hcur
    have hcurId := hw.reservationId_eq hcurMem
    have hnext : next.settleClaim = some claim := hnext
    cases hchange.binding (hw.valid hcurMem) (hw.sound hcurMem) with
    | kept htx hclaim =>
      obtain ⟨claiming, hclaiming, hbound, hsame, htx', hsome, hle⟩ := ih claim (hclaim.symm.trans hnext)
      refine ⟨claiming, ?_, hbound.mono (List.prefix_append _ _), hsame, htx'.trans htx.symm, ?_, Nat.le_succ_of_le hle⟩
      · have hsame : next.reservationId = cur.reservationId := hid.trans hcurId.symm
        exact hsame ▸ mem_versions_later (List.prefix_append _ _) hclaiming
      · exact htx ▸ hsome
    | dropped _ hclaim => exact absurd (hclaim.symm.trans hnext) (fun h => by cases h)
    | started _ hclaim => exact absurd (hclaim.symm.trans hnext) (fun h => by cases h)
    | claimed htx hcurRef hclaim =>
      subst hid
      refine ⟨_, mem_versions_committed rfl, bound_committed rfl ?_, hnext, rfl, ?_, le_rfl⟩
      · simp only [Call.binds, hnext, Option.map_some]
      · exact Option.isSome_of_eq_some (htx.trans hcurRef)

end Binding

/-! ## Runs -/

section Runs
variable {deps : ServiceDeps} {auction : Auction} {ls : List ServiceLabel} {s : ServicePool}

/-- A submission of the run stored this record at a commit of this site. -/
structure CommittedBy (ls : List ServiceLabel) (site : CommitSite) (input : SubmitInput) (r : ReservationRecord) :
    Prop where
  reservation : input.reservationId = r.reservationId
  commit : ∃ n version next, .start n (.submitPayment input) ∈ ls ∧
    .call n (.compareAndSet site r.reservationId version next) (.ok r) ∈ ls

/-- What is bound was the input of a submission, parsed. -/
theorem Bound.committedBy (hrun : (serviceSystem deps auction).Run ls s) {site : CommitSite} {r : ReservationRecord}
    {ref : ClientTransactionRef} (h : Bound s.shared site r ref) :
    ∃ input, CommittedBy ls site input r ∧ parseClientTransactionRef input.clientTransaction = .ok ref := by
  obtain ⟨version, next, hmem, hbinds⟩ := h
  obtain ⟨n, hcall⟩ := exists_call_of_mem (fun _ _ _ _ h => h.2) hrun _ hmem
  obtain ⟨request, hstart, hown⟩ := own_of_run hrun hcall
  obtain ⟨input, rfl, hid, hparse⟩ := hown.reference _ _ hbinds
  exact ⟨input, ⟨hid, n, version, next, hstart, hcall⟩, hparse⟩

/-- Where the claim of a record comes from: the submission was started at one version and its settlement claimed at a
later one, each with the reference of its own request, and the record still has the transaction of the start. -/
structure ClaimOrigin (ls : List ServiceLabel) (w : Trace) (r : ReservationRecord) (claim : SettleClaim)
    (started claimed : SubmitInput) (first claiming : ReservationRecord) : Prop where
  first_mem : first ∈ versions w r.reservationId
  claiming_mem : claiming ∈ versions w r.reservationId
  started_by : CommittedBy ls .startSubmission started first
  claimed_by : CommittedBy ls .claimSettle claimed claiming
  started_ref : first.clientTransaction = (parseClientTransactionRef started.clientTransaction).toOption
  claimed_ref : parseClientTransactionRef claimed.clientTransaction = .ok claim.reference
  claims : claiming.settleClaim = some claim
  first_unclaimed : first.settleClaim = none
  kept : r.clientTransaction = first.clientTransaction
  order : first.recordVersion < claiming.recordVersion ∧ claiming.recordVersion ≤ r.recordVersion

/-- Every claim has such an origin; the validator saw to it that both references have one id. -/
theorem exists_claimOrigin (hrun : (serviceSystem deps auction).Run ls s) {id : JsString} {r : ReservationRecord}
    (hr : r ∈ versions s.shared id) {claim : SettleClaim} (hclaim : r.settleClaim = some claim) :
    ∃ started claimed first claiming ref, ClaimOrigin ls s.shared r claim started claimed first claiming ∧
      first.clientTransaction = some ref ∧ parseClientTransactionRef started.clientTransaction = .ok ref ∧
      normalizeTxIdForm ref.transactionId = normalizeTxIdForm claim.transactionId := by
  have hw := lawful_of_run hrun
  obtain ⟨claiming, hclaiming, hclaims, hsame, htx, hsome, hle⟩ := hw.claim_traced hr claim hclaim
  obtain ⟨ref, href⟩ := Option.isSome_iff_exists.mp hsome
  have hclaimingRef := htx.trans href
  obtain ⟨first, hfirst, hstarts, hfirstRef, hunclaimed, hbefore⟩ := hw.transaction_traced hclaiming ref hclaimingRef
  rw [hw.reservationId_eq hclaiming] at hfirst
  obtain ⟨started, hstarted, hstartedRef⟩ := hstarts.committedBy hrun
  obtain ⟨claimed, hclaimed, hclaimedRef⟩ := hclaims.committedBy hrun
  -- the start is not the claim itself
  have hlt : first.recordVersion < claiming.recordVersion := by
    refine lt_of_le_of_ne hbefore fun heq => ?_
    rw [hw.eq_of_version hfirst hclaiming heq, hsame] at hunclaimed
    cases hunclaimed
  have hparsed : first.clientTransaction = (parseClientTransactionRef started.clientTransaction).toOption := by
    rw [hstartedRef]
    exact hfirstRef
  exact ⟨started, claimed, first, claiming, ref, ⟨hfirst, hclaiming, hstarted, hclaimed, hparsed, hclaimedRef, hsame,
    hunclaimed, href.trans hfirstRef.symm, hlt, hle⟩, hfirstRef, hstartedRef,
    (hw.valid hclaiming).claim_id hsame hclaimingRef⟩

/-- In every run of the service, whatever the interleaving: a settle claim carries the transaction and the window that
were kept when its submission started exactly when the request that claims has the duration of the request that
started. -/
theorem claim_window_iff (hrun : (serviceSystem deps auction).Run ls s) {id : JsString} {r : ReservationRecord}
    (hr : r ∈ versions s.shared id) {claim : SettleClaim} (hclaim : r.settleClaim = some claim) :
    ∃ started claimed first claiming, ClaimOrigin ls s.shared r claim started claimed first claiming ∧
      (first.clientTransaction = some claim.reference ↔
        started.clientTransaction.transactionValidDurationSeconds =
          claimed.clientTransaction.transactionValidDurationSeconds) := by
  obtain ⟨started, claimed, first, claiming, ref, horigin, href, hstarted, hid⟩ := exists_claimOrigin hrun hr hclaim
  refine ⟨started, claimed, first, claiming, horigin, ?_⟩
  rw [href, Option.some.injEq]
  exact reference_eq_iff hstarted horigin.claimed_ref hid

end Runs

/-! ## A retry with another duration -/

namespace Retried
open Scripted

/-- The submission is lost once it is started, and submitted again with another duration as far as its claim. -/
def moves (duration : Int) : List (Move Request) :=
  challenged ++ Move.request 4 (.submitPayment submitInput) 3 ++ [Move.lost 4] ++
    Move.request 5 (.submitPayment { submitInput with clientTransaction :=
      { submitInput.clientTransaction with transactionValidDurationSeconds := duration } }) 8

/-- The stored record has a claim, which carries the transaction of the record or not. -/
def claimed (carried : Bool) (s : ServicePool) : Bool :=
  (stored s.shared (js "r-1")).any fun r => r.settleClaim.any fun claim =>
    decide (r.clientTransaction = some claim.reference) = carried

theorem claimed_of_played {duration : Int} {carried : Bool}
    (h : (played deps auction script (moves duration)).any fun r => claimed carried r.2) :
    ∃ ls s r claim, (serviceSystem deps auction).Run ls s ∧ r ∈ versions s.shared (js "r-1") ∧
      r.settleClaim = some claim ∧ decide (r.clientTransaction = some claim.reference) = carried := by
  obtain ⟨⟨ls, s⟩, hplayed, hclaimed⟩ := (Option.any_eq_true _ _).mp h
  obtain ⟨r, hr, hclaimed⟩ := (Option.any_eq_true _ _).mp hclaimed
  obtain ⟨claim, hclaim, hcarried⟩ := (Option.any_eq_true _ _).mp hclaimed
  exact ⟨ls, s, r, claim, scripted_run hplayed, mem_versions_of_stored hr, hclaim, of_decide_eq_true hcarried⟩

theorem same_played : (played deps auction script (moves 120)).any fun r => claimed true r.2 := by decide +kernel

theorem shorter_played : (played deps auction script (moves 60)).any fun r => claimed false r.2 := by decide +kernel

end Retried

/-- A retry with the same duration claims the window of the submission. -/
theorem claim_window_iff_same : ∃ ls s r claim, (serviceSystem Scripted.deps Scripted.auction).Run ls s ∧
    r ∈ versions s.shared (js "r-1") ∧ r.settleClaim = some claim ∧
    ∃ started claimed first claiming, ClaimOrigin ls s.shared r claim started claimed first claiming ∧
      started.clientTransaction.transactionValidDurationSeconds =
        claimed.clientTransaction.transactionValidDurationSeconds := by
  obtain ⟨ls, s, r, claim, hrun, hr, hclaim, hcarried⟩ := Retried.claimed_of_played Retried.same_played
  obtain ⟨started, claimed, first, claiming, horigin, hiff⟩ := claim_window_iff hrun hr hclaim
  refine ⟨ls, s, r, claim, hrun, hr, hclaim, started, claimed, first, claiming, horigin, hiff.mp ?_⟩
  rw [← horigin.kept]
  exact of_decide_eq_true hcarried

/-- A retry with 60 seconds where the submission started with 120: the claim carries a window that was not kept when the
submission started. -/
theorem retry_moves_window : ∃ ls s r claim, (serviceSystem Scripted.deps Scripted.auction).Run ls s ∧
    r ∈ versions s.shared (js "r-1") ∧ r.settleClaim = some claim ∧
    ∃ started claimed first claiming, ClaimOrigin ls s.shared r claim started claimed first claiming ∧
      first.clientTransaction ≠ some claim.reference := by
  obtain ⟨ls, s, r, claim, hrun, hr, hclaim, hcarried⟩ := Retried.claimed_of_played Retried.shorter_played
  obtain ⟨started, claimed, first, claiming, -, horigin, -⟩ := exists_claimOrigin hrun hr hclaim
  refine ⟨ls, s, r, claim, hrun, hr, hclaim, started, claimed, first, claiming, horigin, ?_⟩
  rw [← horigin.kept]
  exact of_decide_eq_false hcarried

end RouteGuard.Reservation
