import RouteGuard.Reservation.Validity

/-!
# What a reconciliation reports

A reconciliation looks the exact transaction up, or takes a confirmation up again. In the first case its outcome is the
answer of Mirror; in the second the outcome is read off the record, which has its transaction whatever Mirror says.

* `Truthful` : the outcome is what Mirror reported;
* `Records` : what a program returns, from the calls it has made;
* `Lawful.succeeded` : no route is reserved without a success;
* `reconcilingSystem` : the requests of the service beside reconciliations, with their outcomes;
* `reconciliation_truthful` : which reconciliations are truthful, in every run.
-/

namespace RouteGuard.Reservation
open JsString Guarded ReservationState ServiceM

/-! ## The truth of an outcome -/

/-- The transaction of a reservation: the settled one, else the one under its claim, else the one the client froze. -/
def ReservationRecord.exactTransaction (r : ReservationRecord) : JsString :=
  r.transactionId.getD <| trim <| (r.settleClaim.map SettleClaim.transactionId <|>
    r.clientTransaction.map ClientTransactionRef.transactionId).getD []

/-- An answer that names no transaction, or the one it was asked for. -/
def MirrorConfirmation.Names (mirror : MirrorConfirmation) (txId : JsString) : Prop :=
  mirror.transactionId = [] ∨ mirror.transactionId = txId ∨ transactionIdsEqual mirror.transactionId txId = .ok true

/-- Mirror was asked for a transaction and reported a status of it. -/
def Reported (w : Trace) (txId : JsString) (status : MirrorStatus) : Prop :=
  ∃ start mirror, Looked w start txId (.ok mirror) ∧ mirror.status = status ∧ mirror.Names txId

/-- The outcome of a reconciliation that found `entry` is what Mirror reported. -/
def Truthful (w : Trace) (entry : ReservationRecord) (a : Reconciliation) : Prop :=
  match a.outcome with
  | .foundSuccess _ => Reported w entry.exactTransaction .success
  | .foundFailed _ => Reported w entry.exactTransaction .failed
  | .conclusivelyFailed _ => a.record.failureCode = some (js "CONCLUSIVELY_FAILED")
  | .reconciliationPending _ => True

/-! ## The calls of a reconciliation -/

section Calls
variable {α β : Type}

/-- A result meets `Q` with the calls made up to it. -/
abbrev Records (Q : List CallRecord → α → Prop) (m : ServiceM α) (own : List CallRecord) : Prop :=
  Prog.FollowsM Monitor.recorder Q (fun _ _ => True) m own

variable {Q : List CallRecord → α → Prop} {R : List CallRecord → β → Prop} {own : List CallRecord}

theorem Records.bind {m : ServiceM α} {f : α → ServiceM β} (h : Records (fun own a => Records R (f a) own) m own) :
    Records R (m >>= f) own := Prog.FollowsM.bind h

theorem Records.check {x : Except ServiceError α} (h : ∀ a, x = .ok a → Q own a) : Records Q (check x) own :=
  Prog.FollowsM.ofExcept h fun _ _ => trivial

/-- A call that may reject. -/
theorem Records.await {o : Call} {p : Prog Call Call.Answer (Except ServiceError α)}
    (g : o.Answer → Except ServiceError α) (hp : p = .call o fun r => .ret (g r))
    (h : ∀ r a, g r = .ok a → Q (own ++ [⟨o, r⟩]) a) : Records Q (await p) own :=
  Prog.FollowsM.call o g (congrArg ExceptT.mk hp) trivial (fun r a _ => h r a) fun _ _ _ _ => trivial

theorem Records.commit {site : CommitSite} {current next : ReservationRecord}
    {Q : List CallRecord → ReservationRecord → Prop}
    (h : ∀ r, Q (own ++ [⟨.compareAndSet site next.reservationId current.recordVersion next, .ok r⟩]) r) :
    Records Q (commit site current next) own := by
  refine Records.await (o := .compareAndSet site next.reservationId current.recordVersion next) id rfl ?_
  rintro _ r rfl
  exact h r

/-- A program that is not asked about makes some calls. -/
theorem Records.after {m : ServiceM α} (h : ∀ own' a, own <+: own' → Q own' a) : Records Q m own := by
  refine Prog.Follows.mono (Prog.Follows.recorded m.run own) ?_
  intro own' r hown
  cases r with
  | ok a => exact h own' a hown
  | error e => trivial

/-- A record that is the answer of a commit. -/
def Committed (own : List CallRecord) (code : JsString) (record : ReservationRecord) : Prop :=
  ∃ site id version next, ⟨.compareAndSet site id version next, .ok record⟩ ∈ own ∧ next.failureCode = some code

/-- The outcome follows from the answer of the lookup, or from the record that was committed. -/
def Concludes (found : MirrorConfirmation) (own : List CallRecord) (a : Reconciliation) : Prop :=
  match a.outcome with
  | .foundSuccess _ => found.status = .success
  | .foundFailed _ => found.status = .failed
  | .conclusivelyFailed _ => Committed own (js "CONCLUSIVELY_FAILED") a.record
  | .reconciliationPending _ => True

theorem Records.getTransaction {txId : JsString} {Q : List CallRecord → MirrorConfirmation → Prop}
    (h : ∀ own' start mirror, own <+: own' → ⟨.getTransaction start txId, .ok mirror⟩ ∈ own' → Q own' mirror) :
    Records Q (getTransaction txId) own := by
  refine Records.bind (Records.after fun own₁ start h₁ => ?_)
  refine Records.await (o := .getTransaction start txId) id rfl ?_
  rintro _ mirror rfl
  refine h _ start mirror (h₁.trans (List.prefix_append _ _)) ?_
  exact List.mem_append_right _ (List.mem_singleton_self _)

theorem failReconciled_records {current record : ReservationRecord} {f : ReconcileFailure}
    {Q : List CallRecord → ReservationRecord → Prop}
    (h : ∀ own' r, own <+: own' → Committed own' (js f.code) r → Q own' r) :
    Records Q (failReconciled current record f) own := by
  refine Records.bind (Records.after fun own₁ now h₁ => ?_)
  refine Records.bind (Records.check fun next _ => ?_)
  refine Records.commit fun r => ?_
  refine h _ r (h₁.trans (List.prefix_append _ _)) ⟨_, _, _, _, List.mem_append_right _ (List.mem_singleton_self _), rfl⟩

/-- The exact transaction was looked up, and the outcome is the answer. -/
structure LookedUp (own : List CallRecord) (transactionId : JsString) (found : MirrorConfirmation) (a : Reconciliation) :
    Prop where
  looked : ∃ start, ⟨.getTransaction start (trim transactionId), .ok found⟩ ∈ own
  concludes : Concludes found own a

theorem reconcilePreClaim_records {record : ReservationRecord} {ref : ClientTransactionRef} :
    Records (fun own a => ∃ found, LookedUp own ref.transactionId found a) (reconcilePreClaim record ref) own := by
  refine Records.bind (Records.check fun l hl => ?_)
  refine Records.bind (Records.getTransaction fun own₁ start found h₁ hlooked => ?_)
  rw [(exactLookup_exact hl).1] at hlooked
  have hdone {own₂ : List CallRecord} {a : Reconciliation} (h₂ : own₁ <+: own₂) (ha : Concludes found own₂ a) :
      ∃ found, LookedUp own₂ ref.transactionId found a := ⟨found, ⟨start, h₂.subset hlooked⟩, ha⟩
  cases hstatus : found.status with
  | success =>
    simp only
    exact Records.bind (failReconciled_records fun own₂ r h₂ _ => hdone h₂ hstatus)
  | failed =>
    simp only
    exact Records.bind (failReconciled_records fun own₂ r h₂ _ => hdone h₂ hstatus)
  | pending =>
    simp only
    exact hdone (List.prefix_refl _) trivial
  | notFound =>
    simp only
    refine Records.bind (Records.after fun own₂ ms h₂ => ?_)
    show Records _ (if ms ≤ l.boundaryMs then _ else _) own₂
    split
    · exact hdone h₂ trivial
    · exact Records.bind (failReconciled_records fun own₃ r h₃ hcommitted => hdone (h₂.trans h₃) hcommitted)

theorem reconcileClaimed_records {resume : ServiceM ReservationRecord} {record : ReservationRecord} {claim : SettleClaim} :
    Records (fun own a => ∃ found, LookedUp own claim.transactionId found a ∧ found.Names (trim claim.transactionId))
      (reconcileClaimed resume record claim) own := by
  refine Records.bind (Records.check fun l hl => ?_)
  refine Records.bind (Records.getTransaction fun own₁ start found h₁ hlooked => ?_)
  refine Records.bind (Records.check fun u hnames => ?_)
  have hnames : found.Names l.exact := by
    simp only [checkMirrorId, provided_eq_ok, bind_eq_ok, require_eq_ok] at hnames
    by_cases hempty : found.transactionId = []
    · exact .inl hempty
    · obtain ⟨same, hsame, heq⟩ := hnames hempty
      exact .inr (.inr (heq ▸ hsame))
  rw [(exactLookup_exact hl).1] at hlooked hnames
  have hdone {own₂ : List CallRecord} {a : Reconciliation} (h₂ : own₁ <+: own₂) (ha : Concludes found own₂ a) :
      ∃ found, LookedUp own₂ claim.transactionId found a ∧ found.Names (trim claim.transactionId) :=
    ⟨found, ⟨⟨start, h₂.subset hlooked⟩, ha⟩, hnames⟩
  cases hstatus : found.status with
  | success =>
    simp only
    refine Records.bind (Records.after fun own₂ recovered h₂ => ?_)
    refine Records.bind (Records.after fun own₃ now h₃ => ?_)
    refine Records.bind (Records.after fun own₄ adopted h₄ => ?_)
    refine Records.bind (Records.after fun own₅ confirmed h₅ => ?_)
    exact hdone (((h₂.trans h₃).trans h₄).trans h₅) hstatus
  | failed =>
    simp only
    refine Records.bind (Records.after fun own₂ updatedAt h₂ => ?_)
    exact Records.bind (failReconciled_records fun own₃ r h₃ _ => hdone (h₂.trans h₃) hstatus)
  | pending =>
    simp only
    exact hdone (List.prefix_refl _) trivial
  | notFound =>
    simp only
    refine Records.bind (Records.after fun own₂ ms h₂ => ?_)
    show Records _ (if ms ≤ l.boundaryMs then _ else _) own₂
    split
    · exact hdone h₂ trivial
    · exact Records.bind (failReconciled_records fun own₃ r h₃ hcommitted => hdone (h₂.trans h₃) hcommitted)

/-- The outcome is a success or not known. -/
def SuccessOrPending (a : Reconciliation) : Prop :=
  match a.outcome with
  | .foundSuccess _ | .reconciliationPending _ => True
  | _ => False

theorem reconcileResumed_records {resume : ServiceM ReservationRecord} {record : ReservationRecord} :
    Records (fun _ a => SuccessOrPending a) (reconcileResumed resume record) own := by
  unfold reconcileResumed
  by_cases hreserved : record.routeReserved.isSome <;> simp only [hreserved]
  all_goals
    refine Records.bind (Records.after fun own₁ resumed _ => ?_)
    split
    · exact trivial
    · cases record.settleClaim with
      | some claim =>
        refine Records.bind (Records.check fun boundary _ => ?_)
        exact Records.bind (Records.check fun iso _ => trivial)
      | none =>
        refine Records.bind (Records.after fun own₂ now _ => ?_)
        refine Records.bind (Records.check fun boundary _ => ?_)
        exact Records.bind (Records.check fun iso _ => trivial)

/-- The way a reconciliation went, from the record it found. -/
inductive Way (entry : ReservationRecord) (own : List CallRecord) (a : Reconciliation) : Prop
  | resumed (h : entry.routeReserved.isSome ∨
      entry.state ∈ [facilitatorSettled, mirrorConfirmationPending, confirmationTimedOut]) (ha : SuccessOrPending a)
  | preClaim {ref : ClientTransactionRef} {found : MirrorConfirmation}
      (hstate : entry.state = paymentSubmissionStarted ∨ entry.state = facilitatorVerified)
      (href : entry.clientTransaction = some ref) (h : LookedUp own ref.transactionId found a)
  | claimed {claim : SettleClaim} {found : MirrorConfirmation} (hstate : entry.state = facilitatorSettleClaimed)
      (hclaim : entry.settleClaim = some claim) (h : LookedUp own claim.transactionId found a)
      (hnames : found.Names (trim claim.transactionId))

/-- A reconciliation reads the record first. -/
def Went (own : List CallRecord) (a : Reconciliation) : Prop :=
  ∃ id entry rest, own = ⟨.get id, .ok (some entry)⟩ :: rest ∧ Way entry own a

theorem Records.requireRecord {id : JsString} {Q : List CallRecord → ReservationRecord → Prop}
    (h : ∀ r, Q (own ++ [⟨.get id, .ok (some r)⟩]) r) : Records Q (requireRecord id) own := by
  refine Records.bind (Records.await (o := .get id) (fun r => r) rfl ?_)
  rintro _ r rfl
  cases r with
  | some r => exact h r
  | none => exact trivial

theorem reconcileWith_records {resume : JsString → ServiceM ReservationRecord} {id : JsString} :
    Records Went (reconcileWith resume id) [] := by
  refine Records.bind (Records.requireRecord fun entry => ?_)
  have hgone {m : ServiceM Reconciliation}
      (hm : Records (fun own a => Way entry own a) m [⟨.get id, .ok (some entry)⟩]) :
      Records Went m [⟨.get id, .ok (some entry)⟩] := by
    refine Prog.Follows.mono (Prog.Follows.and hm (Prog.Follows.recorded _ _)) ?_
    rintro own a ⟨ha, rest, rfl⟩
    cases a with
    | ok a => exact ⟨id, entry, rest, rfl, ha⟩
    | error e => trivial
  split
  · next h => exact hgone (Prog.FollowsM.mono reconcileResumed_records fun _ _ => .resumed h)
  · split
    · next hstate href =>
      refine hgone (Prog.FollowsM.mono reconcilePreClaim_records ?_)
      rintro own a ⟨found, h⟩
      exact .preClaim (.inl hstate) href h
    · next hstate href =>
      refine hgone (Prog.FollowsM.mono reconcilePreClaim_records ?_)
      rintro own a ⟨found, h⟩
      exact .preClaim (.inr hstate) href h
    · next hstate hclaim =>
      refine hgone (Prog.FollowsM.mono reconcileClaimed_records ?_)
      rintro own a ⟨found, h, hnames⟩
      exact .claimed hstate hclaim h hnames
    · exact trivial

theorem reconcilePayment_records (deps : ServiceDeps) (depth : Nat) (id : JsString) :
    Records Went (reconcilePayment deps depth id) [] := by
  cases depth with
  | zero => exact trivial
  | succ depth => exact reconcileWith_records

end Calls

/-! ## Reserved routes -/

section Reserved
variable {deps : ServiceDeps} {auction : Auction} {w : Trace} {site : CommitSite} {cur next : ReservationRecord}

theorem Reported.mono {w w' : Trace} {txId : JsString} {status : MirrorStatus} (h : Reported w txId status)
    (hw : w <+: w') : Reported w' txId status := by
  obtain ⟨start, mirror, hlooked, hrest⟩ := h
  exact ⟨start, mirror, hw.subset hlooked, hrest⟩

/-- The success of the transaction of a record was reported. -/
def Succeeded (w : Trace) (r : ReservationRecord) : Prop :=
  ∃ txId, r.transactionId = some txId ∧ Reported w txId .success

/-- The states from the confirmed payment on. -/
def CONFIRMED_STATES : List ReservationState := paymentConfirmed :: POST_RESERVATION_STATES

/-- A payment is confirmed on a reported success, and a route is reserved for a confirmed payment. -/
theorem ConfirmationChange.succeeded (h : ConfirmationChange deps w site cur next)
    (hcur : cur.state ∈ CONFIRMED_STATES → Succeeded w cur) (hnext : next.state ∈ CONFIRMED_STATES) :
    Succeeded w next := by
  have htx : next.transactionId = cur.transactionId := by rw [h.confirms.rest]
  have hsame (hs : cur.state ∈ CONFIRMED_STATES) : Succeeded w next := by
    obtain ⟨txId, hcurTx, hreported⟩ := hcur hs
    exact ⟨txId, htx.trans hcurTx, hreported⟩
  have hleft {t : ReservationState} (ht : next.state = t) (hmem : t ∉ CONFIRMED_STATES) : Succeeded w next := by
    rw [ht] at hnext
    exact absurd hnext hmem
  cases h with
  | confirm hmoved hpolled hselected hverified =>
    obtain ⟨start, hlooked⟩ := hpolled.looked
    obtain ⟨hstatus, hid, -⟩ := verifyMirrorPayment_spec (verifySuccess_spec hverified)
    exact ⟨_, htx.trans hpolled.tx, start, _, hlooked, hstatus, .inr (.inl hid)⟩
  | reserve hstate => exact hsame (by rw [hstate]; decide)
  | renewDeadline => exact hsame hnext
  | rebuildPoll => exact hsame hnext
  | poll => exact hsame hnext
  | beginConfirmation => exact hleft (t := mirrorConfirmationPending) rfl (by decide)
  | mirrorFailed hmoved => exact hleft hmoved.rest.1 (by decide)
  | failConfirmation hmoved => exact hleft hmoved.rest.1 (by decide)
  | timeOut hmoved => exact hleft hmoved.rest.1 (by decide)
  | pollBound hmoved => exact hleft hmoved.rest.1 (by decide)
  | blockRecovery => exact hleft (t := manualReviewRequired) rfl (by decide)
  | recoverTimedOut => exact hleft (t := mirrorConfirmationPending) rfl (by decide)
  | recoverFailed => exact hleft (t := confirmationFailed) rfl (by decide)
  | recoverSettled => exact hleft (t := manualReviewRequired) rfl (by decide)

/-- A payment is confirmed, and a route reserved, only after Mirror has reported the success of the transaction. -/
theorem Lawful.succeeded {id : JsString} (hw : Lawful deps auction w) {r : ReservationRecord} (hr : r ∈ versions w id)
    (hs : r.state ∈ CONFIRMED_STATES) : Succeeded w r := by
  refine Lawful.versions_invariant (P := fun w r => r.state ∈ CONFIRMED_STATES → Succeeded w r) ?_ ?_ ?_ hw r hr hs
  · rintro w w' r hgrows h hs
    obtain ⟨txId, htx, hreported⟩ := h hs
    exact ⟨txId, htx, hreported.mono hgrows⟩
  · intro w input tender record hrecord _ _ hs
    obtain ⟨offer, rfl⟩ := reservationOf_spec hrecord
    have hs : offerCreated ∈ CONFIRMED_STATES := hs
    exact absurd hs (by decide)
  · intro w site cur next hw hcur ih hchange _ _ hs
    have hvalid := hw.valid (mem_versions_of_stored hcur)
    have hs : next.state ∈ CONFIRMED_STATES := hs
    have hsucceeded : Succeeded w next := by
      cases hchange with
      | submission h =>
        exfalso
        have htarget := (h.submits hvalid).target
        revert hs htarget
        cases next.state <;> decide
      | confirmation h => exact h.succeeded ih hs
      | outbox h =>
        have hnotifies := h.notifies hvalid
        obtain ⟨txId, htx, hreported⟩ := ih (List.mem_cons_of_mem _ hnotifies.source)
        exact ⟨txId, by rw [hnotifies.rest]; exact htx, hreported⟩
    obtain ⟨txId, htx, hreported⟩ := hsucceeded
    exact ⟨txId, htx, hreported.mono (List.prefix_append _ _)⟩

end Reserved

/-! ## Runs -/

/-- What a request answers, or what a reconciliation finds. -/
abbrev Reply := Response ⊕ Reconciliation

section Runs
variable (deps : ServiceDeps) (auction : Auction)

/-- The requests of the service beside reconciliations, which answer with their outcomes. -/
def serveReconciling : Request ⊕ JsString → ServiceM Reply
  | .inl request => Sum.inl <$> serve deps auction request
  | .inr id => Sum.inr <$> reconcilePayment deps deps.depth id

def reconcilingSystem : System (Pool Trace Call Call.Answer (Except ServiceError Reply))
    (PoolLabel (Request ⊕ JsString) Call Call.Answer) :=
  poolSystem (fun input => (serveReconciling deps auction input).run) (Performed deps.crypto) fun w => w = []

variable {deps auction} {ls : List (PoolLabel (Request ⊕ JsString) Call Call.Answer)}
  {s : Pool Trace Call Call.Answer (Except ServiceError Reply)}

theorem serveReconciling_runs {ℓ : View} (input : Request ⊕ JsString) (hlawful : Lawful deps auction ℓ.world) :
    Completes deps auction (fun _ _ => True) (serveReconciling deps auction input) ℓ := by
  cases input with
  | inl request =>
    exact Prog.SafeM.map (Prog.SafeM.mono (serve_runs request hlawful) hlawful (fun _ _ _ _ _ => trivial)
      fun _ _ _ _ _ => trivial)
  | inr id =>
    exact Prog.SafeM.map (Prog.SafeM.mono (reconcilePayment_runs deps.depth ℓ id hlawful) hlawful
      (fun _ _ _ _ _ => trivial) fun _ _ _ _ _ => trivial)

theorem reconciling_lawful (hrun : (reconcilingSystem deps auction).Run ls s) : Lawful deps auction s.shared := by
  have hholds : ∃ held, (serviceContract deps auction).Holds (fun _ _ => True) ls s held := by
    refine (serviceContract deps auction).holds_of_run (fun _ _ _ _ _ => trivial) ?_ ?_ hrun
    · rintro w rfl
      exact ⟨.nil, rfl⟩
    · intro input w hlawful
      exact Prog.Safe.mono (serveReconciling_runs (ℓ := ⟨w, [], []⟩) input hlawful) hlawful fun _ _ _ _ _ => trivial
  obtain ⟨held, hholds⟩ := hholds
  exact hholds.inv

/-- What a request has called when it returns the outcome of a reconciliation. -/
def WentReply (own : List CallRecord) : Except ServiceError Reply → Prop
  | .ok (.inr a) => Went own a
  | _ => True

theorem went_of_run (hrun : (reconcilingSystem deps auction).Run ls s) {n : Nat} {a : Reconciliation}
    (hreturned : s.threads n = some (.ret (.ok (.inr a)))) : Went (ownCalls n ls) a := by
  refine Monitor.returned_of_run (Q := WentReply) ?_ hrun hreturned
  intro input
  cases input with
  | inl request =>
    have hmap : Records (fun _ reply => ∃ response, reply = .inl response)
        (serveReconciling deps auction (.inl request)) [] :=
      Prog.FollowsM.map Sum.inl (Records.after fun own response _ => ⟨response, rfl⟩)
    refine Prog.Follows.mono hmap ?_
    intro own reply h
    cases reply with
    | error e => trivial
    | ok reply =>
      obtain ⟨response, rfl⟩ := h
      trivial
  | inr id =>
    have hmap : Records (fun own reply => ∃ a, reply = .inr a ∧ Went own a)
        (serveReconciling deps auction (.inr id)) [] :=
      Prog.FollowsM.map Sum.inr (Prog.FollowsM.mono (reconcilePayment_records deps deps.depth id)
        fun own a h => ⟨a, rfl, h⟩)
    refine Prog.Follows.mono hmap ?_
    intro own reply h
    cases reply with
    | error e => trivial
    | ok reply =>
      obtain ⟨a, rfl, h⟩ := h
      exact h

end Runs

/-! ## Truthful reconciliations -/

/-- What the truth of an outcome depends on. Where a confirmation is taken up again, that Mirror has reported the success;
where no settlement was claimed, that Mirror's answer is about the transaction it was asked for. -/
structure MirrorSpoke (w : Trace) (own : List CallRecord) (entry : ReservationRecord) : Prop where
  resumed : entry.routeReserved = none →
    entry.state ∈ [facilitatorSettled, mirrorConfirmationPending, confirmationTimedOut] →
    Reported w entry.exactTransaction .success
  unclaimed : entry.state ∈ [paymentSubmissionStarted, facilitatorVerified] → ∀ start found,
    ⟨.getTransaction start entry.exactTransaction, .ok found⟩ ∈ own →
    found.status = .success ∨ found.status = .failed → found.Names entry.exactTransaction

section Truth
variable {deps : ServiceDeps} {auction : Auction} {w : Trace} {own : List CallRecord} {entry : ReservationRecord}
  {a : Reconciliation}

theorem Committed.failureCode {code : JsString} {record : ReservationRecord} (h : Committed own code record)
    (hw : Lawful deps auction w) (hown : own ⊆ w) : record.failureCode = some code := by
  obtain ⟨site, id, version, next, hmem, hcode⟩ := h
  obtain ⟨before, after, rfl⟩ := List.append_of_mem (hown hmem)
  obtain ⟨-, -, current, -, -, hrecord, -⟩ := hw.call_at
  rw [hrecord]
  exact hcode

/-- The outcome of a lookup whose answer is about the exact transaction. -/
theorem LookedUp.truthful {transactionId : JsString} {found : MirrorConfirmation} (h : LookedUp own transactionId found a)
    (hw : Lawful deps auction w) (hown : own ⊆ w) (hexact : entry.exactTransaction = trim transactionId)
    (hnames : found.status = .success ∨ found.status = .failed → found.Names (trim transactionId)) :
    Truthful w entry a := by
  obtain ⟨⟨start, hlooked⟩, hconcludes⟩ := h
  unfold Truthful
  unfold Concludes at hconcludes
  rw [hexact]
  cases houtcome : a.outcome with
  | foundSuccess txId =>
    rw [houtcome] at hconcludes
    exact ⟨start, found, hown hlooked, hconcludes, hnames (.inl hconcludes)⟩
  | foundFailed result =>
    rw [houtcome] at hconcludes
    exact ⟨start, found, hown hlooked, hconcludes, hnames (.inr hconcludes)⟩
  | conclusivelyFailed iso =>
    rw [houtcome] at hconcludes
    exact hconcludes.failureCode hw hown
  | reconciliationPending iso => trivial

theorem SuccessOrPending.truthful (h : SuccessOrPending a) (hreported : Reported w entry.exactTransaction .success) :
    Truthful w entry a := by
  unfold SuccessOrPending at h
  unfold Truthful
  cases houtcome : a.outcome with
  | foundSuccess txId => exact hreported
  | reconciliationPending iso => trivial
  | _ =>
    rw [houtcome] at h
    cases h

theorem Way.truthful (h : Way entry own a) (hw : Lawful deps auction w) (hown : own ⊆ w) {id : JsString}
    (hentry : entry ∈ versions w id) (hspoke : MirrorSpoke w own entry) : Truthful w entry a := by
  cases h with
  | resumed hstate ha =>
    refine ha.truthful ?_
    by_cases hreserved : entry.routeReserved.isSome
    · obtain ⟨txId, htx, hreported⟩ := hw.succeeded hentry
        (List.mem_cons_of_mem _ ((hw.valid hentry).reserved_iff.mp hreserved))
      rwa [ReservationRecord.exactTransaction, htx]
    · exact hspoke.resumed (Option.not_isSome_iff_eq_none.mp hreserved) (hstate.resolve_left hreserved)
  | @preClaim ref found hstate href h =>
    have hmem : entry.state ∈ [paymentSubmissionStarted, facilitatorVerified] := by
      rcases hstate with hs | hs <;> rw [hs] <;> decide
    have htx : entry.transactionId = none := hw.transactionId_none hentry (by
      rcases hstate with hs | hs <;> rw [hs] <;> decide)
    have hclaim : entry.settleClaim = none := (hw.sound hentry).unclaimed (by
      rcases hstate with hs | hs <;> rw [hs] <;> decide)
    have hexact : entry.exactTransaction = trim ref.transactionId := by
      rw [ReservationRecord.exactTransaction, htx, hclaim, href]
      rfl
    obtain ⟨start, hlooked⟩ := h.looked
    refine h.truthful hw hown hexact fun hstatus => ?_
    rw [← hexact] at hlooked ⊢
    exact hspoke.unclaimed hmem start found hlooked hstatus
  | @claimed claim found hstate hclaim h hnames =>
    have htx : entry.transactionId = none := hw.transactionId_none hentry (by rw [hstate]; decide)
    have hexact : entry.exactTransaction = trim claim.transactionId := by
      rw [ReservationRecord.exactTransaction, htx, hclaim]
      rfl
    exact h.truthful hw hown hexact fun _ => hnames

/-- In every run of the service, each reconciliation that returns has read its record, and reports of it what Mirror
reported, as far as Mirror spoke of it. -/
theorem reconciliation_truthful {ls : List (PoolLabel (Request ⊕ JsString) Call Call.Answer)}
    {s : Pool Trace Call Call.Answer (Except ServiceError Reply)} (hrun : (reconcilingSystem deps auction).Run ls s)
    {n : Nat} (hreturned : s.threads n = some (.ret (.ok (.inr a)))) :
    ∃ id entry rest, ownCalls n ls = ⟨.get id, .ok (some entry)⟩ :: rest ∧
      (MirrorSpoke s.shared (ownCalls n ls) entry → Truthful s.shared entry a) := by
  have hw := reconciling_lawful hrun
  have hown : ownCalls n ls ⊆ s.shared := ownCalls_subset (fun _ _ _ _ h => h.2) hrun n
  obtain ⟨id, entry, rest, heq, hway⟩ := went_of_run hrun hreturned
  refine ⟨id, entry, rest, heq, fun hspoke => ?_⟩
  -- the record that was read was stored
  have hmem : ⟨.get id, .ok (some entry)⟩ ∈ s.shared := hown (by rw [heq]; exact List.mem_cons_self)
  obtain ⟨before, after, hsplit⟩ := List.append_of_mem hmem
  have hstored : some entry = stored before id := (hsplit ▸ hw).call_at.2.2
  have hbefore : before <+: s.shared := ⟨_, hsplit.symm⟩
  exact hway.truthful hw hown (mem_versions_later hbefore (mem_versions_of_stored hstored.symm)) hspoke

end Truth

/-! ## A payment that failed on the ledger -/

namespace Failing
open Scripted

/-- Mirror reports every transaction as failed. -/
def script : Script :=
  { Scripted.script with
    getTransaction := fun _ txId => .ok ⟨.failed, txId, none, some (js "INSUFFICIENT_PAYER_BALANCE"), [], []⟩ }

/-- The payment is submitted and lost after so many calls; then it is reconciled. -/
def moves (submitted reconciled : Nat) : List (Move (Request ⊕ JsString)) :=
  Move.request 1 (.inl (.createReservation createInput tender)) 2 ++ Move.request 2 (.inl (.selectOption selectInput)) 3 ++
    Move.request 3 (.inl (.issueChallenge (js "r-1") .usdc)) 4 ++ Move.request 4 (.inl (.submitPayment submitInput)) submitted ++
    [Move.lost 4] ++ Move.request 5 (.inr (js "r-1")) reconciled

def played (submitted reconciled : Nat) :
    Option (List (PoolLabel (Request ⊕ JsString) Call Call.Answer) ×
      Pool Trace Call Call.Answer (Except ServiceError Reply)) :=
  Pool.play (fun input => (serveReconciling deps auction input).run) (answer deps.crypto script) (fun _ _ => true)
    (moves submitted reconciled) ⟨[], fun _ => none⟩

/-- The reconciliation found a record in one state, and returned an outcome with a record in another. -/
def reconciled (found left : ReservationState) (outcome : SettlementReconciliationOutcome)
    (ls : List (PoolLabel (Request ⊕ JsString) Call Call.Answer))
    (s : Pool Trace Call Call.Answer (Except ServiceError Reply)) : Bool :=
  match ownCalls 5 ls, s.threads 5 with
  | ⟨.get _, .ok (some entry)⟩ :: _, some (.ret (.ok (.inr a))) =>
    entry.state = found && a.record.state = left && a.outcome = outcome
  | _, _ => false

theorem reconciled_spec {found left : ReservationState} {outcome : SettlementReconciliationOutcome}
    {ls : List (PoolLabel (Request ⊕ JsString) Call Call.Answer)}
    {s : Pool Trace Call Call.Answer (Except ServiceError Reply)} (h : reconciled found left outcome ls s) :
    ∃ id entry rest a, ownCalls 5 ls = ⟨.get id, .ok (some entry)⟩ :: rest ∧ s.threads 5 = some (.ret (.ok (.inr a))) ∧
      entry.state = found ∧ a.record.state = left ∧ a.outcome = outcome := by
  unfold reconciled at h
  split at h
  · next id entry rest a hown hthread =>
    simp only [Bool.and_eq_true, decide_eq_true_eq] at h
    exact ⟨id, entry, rest, a, hown, hthread, h.1.1, h.1.2, h.2⟩
  · cases h

/-- Mirror did not report this success. -/
def unsuccessful : CallRecord → Bool
  | ⟨.getTransaction _ _, .ok mirror⟩ => mirror.status ≠ .success
  | _ => true

theorem not_reported {w : Trace} (h : w.all unsuccessful) (txId : JsString) : ¬ Reported w txId .success := by
  rintro ⟨start, mirror, hlooked, hstatus, -⟩
  have hfailed := List.all_eq_true.mp h _ hlooked
  simp [unsuccessful, hstatus] at hfailed

theorem run_of_played {submitted reconciled : Nat} {ls : List (PoolLabel (Request ⊕ JsString) Call Call.Answer)}
    {s : Pool Trace Call Call.Answer (Except ServiceError Reply)} (h : played submitted reconciled = some (ls, s)) :
    (reconcilingSystem deps auction).Run ls s := by
  have hrun : ((reconcilingSystem deps auction).restrict fun _ _ => true = true).Run ls s :=
    ⟨_, ⟨rfl, rfl⟩, steps_of_play answer_performed (fun w => w = []) h⟩
  exact hrun.of_restrict

theorem claimed_played : (played 10 6).any fun r =>
    reconciled facilitatorSettleClaimed settlementFailed (.foundFailed (some (js "INSUFFICIENT_PAYER_BALANCE"))) r.1 r.2 := by
  decide +kernel

theorem settled_played : (played 14 12).any fun r =>
    reconciled facilitatorSettled confirmationFailed (.foundSuccess transactionId) r.1 r.2 &&
      r.2.shared.all unsuccessful := by
  decide +kernel

end Failing

/-- A payment that was claimed and failed on the ledger is found failed. -/
theorem reconciliation_truthful_claimed : ∃ ls s, (reconcilingSystem Scripted.deps Scripted.auction).Run ls s ∧
    ∃ id entry rest a, ownCalls 5 ls = ⟨.get id, .ok (some entry)⟩ :: rest ∧
      s.threads 5 = some (.ret (.ok (.inr a))) ∧
      a.outcome = .foundFailed (some (js "INSUFFICIENT_PAYER_BALANCE")) ∧ Truthful s.shared entry a := by
  obtain ⟨⟨ls, s⟩, hplayed, hfacts⟩ := (Option.any_eq_true _ _).mp Failing.claimed_played
  have hrun := Failing.run_of_played hplayed
  obtain ⟨id, entry, rest, a, hown, hreturned, hstate, -, houtcome⟩ := Failing.reconciled_spec hfacts
  obtain ⟨id', entry', rest', hown', htruthful⟩ := reconciliation_truthful hrun hreturned
  cases hown.symm.trans hown'
  refine ⟨ls, s, hrun, id, entry, rest, a, hown, hreturned, houtcome, htruthful ⟨fun _ hmem => ?_, fun hmem => ?_⟩⟩
  · rw [hstate] at hmem
    exact absurd hmem (by decide)
  · rw [hstate] at hmem
    exact absurd hmem (by decide)

/-- A payment that was settled and failed on the ledger: its confirmation is taken up again and fails, and the outcome is
a success that Mirror has not reported for any transaction. -/
theorem failed_payment_found_successful : ∃ ls s a, (reconcilingSystem Scripted.deps Scripted.auction).Run ls s ∧
    s.threads 5 = some (.ret (.ok (.inr a))) ∧ a.outcome = .foundSuccess Scripted.transactionId ∧
    a.record.state = confirmationFailed ∧ (∀ txId, ¬ Reported s.shared txId .success) ∧
    ∀ entry, ¬ Truthful s.shared entry a := by
  obtain ⟨⟨ls, s⟩, hplayed, hfacts⟩ := (Option.any_eq_true _ _).mp Failing.settled_played
  rw [Bool.and_eq_true] at hfacts
  obtain ⟨-, -, -, a, -, hreturned, -, hleft, houtcome⟩ := Failing.reconciled_spec hfacts.1
  have hnot := Failing.not_reported hfacts.2
  refine ⟨ls, s, a, Failing.run_of_played hplayed, hreturned, houtcome, hleft, hnot, fun entry htruthful => ?_⟩
  rw [Truthful, houtcome] at htruthful
  exact hnot _ htruthful

end RouteGuard.Reservation
