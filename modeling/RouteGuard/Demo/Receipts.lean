import RouteGuard.Demo.LiveActions
import RouteGuard.Lib.Sha256

/-!
# Receipts are not submitted again

* `liveWatch`, `executeLive_follows` : a live call submits a sub-step only if it has read a session without its receipt,
  and has recorded no receipt since;
* `Recorded` : what has been read of the receipts is still so, as only one call is acting;
* `Keeps` : what stays of the steps of a session;
* `Resumed` : the steps of a run in which an action is taken up again under the id of its receipts, and no failure clears
  the mark of another action;
* `receipts_kept` : in such runs no sub-step is submitted again;
* `submitted_again` : under another id it is.
-/

namespace RouteGuard.Demo
open JsString Json Guarded

/-! ## One live call in its own order -/

/-- How far a live call is, and the sessions it has read since it last wrote a receipt. -/
structure LivePhase where
  act : ActPhase
  seen : List OperationsDemoSession

/-- The session has been read without a receipt of the sub-step. -/
def LivePhase.Unrecorded (phase : LivePhase) (actionId subStep : JsString) : Prop :=
  ∃ session ∈ phase.seen, findSuccessfulReceipt session actionId subStep = none

/-- The session has been read with the transaction of a receipt. -/
def LivePhase.Knows (phase : LivePhase) (subStep transactionId : JsString) : Prop :=
  ∃ session ∈ phase.seen, ∃ step ∈ session.steps, step.subStep = subStep ∧ step.receiptStatusSuccess = true ∧
    step.publicTransactionId = some transactionId

/-- The sub-step belongs to the action in flight. -/
def LivePhase.Takes (phase : LivePhase) (actionId subStep : JsString) : Prop :=
  ∃ request, phase.act = .acting request ∧ actionId = request.actionId ∧ subStep ∈ liveSubSteps request.action

/-- The writes of the journal, as `journaled` makes them. -/
def LivePhase.Journals (phase : LivePhase) : JournalChange → Prop
  | .progress .. => ∃ request, phase.act = .acting request
  | .plan planned =>
    ∃ request, phase.act = .acting request ∧ planned.actionId = request.actionId ∧ planned.action = request.action ∧
      planned.subStep ∈ liveSubSteps request.action ∧ planned.publicTransactionId = none ∧
      planned.receiptStatusSuccess = false
  | .receipt actionId subStep .. => phase.Takes actionId subStep ∧ phase.Unrecorded actionId subStep
  | .verify actionId subStep .. => phase.Takes actionId subStep

def liveModes (mode : DemoMode) : Prop := mode = .live

/-- What is watched of one live call. -/
def liveWatch (sid : JsString) : Monitor LivePhase DemoOp DemoOp.Ans where
  start := ⟨.idle, []⟩
  next phase op r :=
    ⟨(actWatch sid liveModes).next phase.act op r,
      match op, r with
      | .get id, .ok (some session) => if id = sid then session :: phase.seen else phase.seen
      | .mutate _ (.journal (.receipt ..)), _ => []
      | .mutate _ (.journal _), _ => phase.seen
      | .mutate .., _ => []
      | _, _ => phase.seen⟩
  may op r :=
    (actWatch sid liveModes).may op r ∧
      match op, r with
      | .get id, .ok found => id = sid → found.isSome
      | .mutate id _, .ok session => id = sid → session.sessionId = sid
      | _, _ => True
  ok phase op :=
    match op with
    | .mutate id (.journal change) => id = sid ∧ phase.Journals change
    | .mutate _ (.commit _ _ _ executed) => executed.steps = [] ∧ (actWatch sid liveModes).ok phase.act op
    | .submit actionId subStep => phase.Takes actionId subStep ∧ phase.Unrecorded actionId subStep
    | .verifyOnMirror _ subStep transactionId => phase.Knows subStep transactionId
    | op => (actWatch sid liveModes).ok phase.act op

theorem watches_liveWatch (sid : JsString) :
    Watches (liveWatch sid) sid liveModes (fun executed => executed.steps = []) LivePhase.act := by
  refine ⟨fun _ _ _ => rfl, fun _ _ h => h.1, ?_⟩
  intro phase op horchestral hok
  cases op with
  | mutate id change =>
    cases change with
    | journal change => exact horchestral.elim
    | commit request identityHash intendedState executed => exact ⟨horchestral, hok⟩
    | _ => exact hok
  | submit actionId subStep => exact horchestral.elim
  | verifyOnMirror actionId subStep transactionId => exact horchestral.elim
  | _ => exact hok

section Follows
variable {deps : DemoDeps} {sid : JsString} {request : DemoActionRequest} {session : OperationsDemoSession}
  {subStep : JsString} {m : LivePhase}

/-- The call is acting, and what it has read stays read. -/
def Acting (request : DemoActionRequest) (seen : List OperationsDemoSession) (m : LivePhase) : Prop :=
  m.act = .acting request ∧ seen ⊆ m.seen

/-- A program of a call that is acting: it leaves the call acting. -/
abbrev FollowsLive (sid : JsString) (request : DemoActionRequest) {α : Type} (Q : LivePhase → α → Prop) (x : DemoM α)
    (m : LivePhase) : Prop :=
  Prog.FollowsM (liveWatch sid) Q (fun m (_ : DemoThrown) => Failable request m.act) x m

/-- A call that neither reads nor writes the session. -/
theorem aside_follows {α : Type} (op : DemoOp) {x : DemoM α} (g : op.Ans → Except DemoThrown α)
    (hx : x = ExceptT.mk (Prog.call op fun r => .ret (g r))) (hok : (liveWatch sid).ok m op)
    (hnext : ∀ r, (liveWatch sid).next m op r = m) (hm : m.act = .acting request) :
    FollowsLive sid request (fun m' _ => m' = m) x m := by
  refine Prog.FollowsM.call (M := liveWatch sid) op g hx hok ?_ ?_
  · intro r _ _ _
    exact hnext r
  · intro r _ _ _
    exact .inl (by rw [hnext, hm])

theorem recordProgress_follows {progress : DemoProgress} (hm : m.act = .acting request) :
    FollowsLive sid request (fun m' _ => m' = m) (recordProgress sid request.actionId progress) m := by
  unfold recordProgress
  refine Prog.FollowsM.bind (Prog.FollowsM.mono (aside_follows
    (.mutate sid (.journal (.progress request.actionId progress))) (fun r => r) rfl ⟨rfl, request, hm⟩ ?_ hm) ?_)
  · intro r
    rfl
  · rintro _ _ rfl
    exact Prog.FollowsM.pure rfl

/-- The session is read. -/
theorem get_follows (hm : m.act = .acting request) :
    FollowsLive sid request
      (fun m' found => ∃ latest, found = some latest ∧ m' = ⟨m.act, latest :: m.seen⟩) (DemoM.get sid) m := by
  refine Prog.FollowsM.call (M := liveWatch sid) (.get sid) (fun r => r) rfl trivial ?_ fun r e _ hr => ?_
  · rintro _ found hmay rfl
    obtain ⟨latest, rfl⟩ := Option.isSome_iff_exists.mp (hmay.2 rfl)
    refine ⟨latest, rfl, ?_⟩
    show LivePhase.mk m.act (if sid = sid then latest :: m.seen else m.seen) = _
    rw [if_pos rfl]
  · exact .inl hm

theorem planStep_follows {previous intended : DemoWorkflowState} (hm : m.act = .acting request)
    (hsubStep : subStep ∈ liveSubSteps request.action) :
    FollowsLive sid request (fun m' _ => Acting request m.seen m') (planStep deps sid request previous intended subStep)
      m := by
  unfold planStep
  refine Prog.FollowsM.bind (Prog.FollowsM.mono (get_follows hm) ?_)
  rintro _ _ ⟨latest, rfl, rfl⟩
  have hread : Acting request m.seen ⟨m.act, latest :: m.seen⟩ := ⟨hm, List.subset_cons_self _ _⟩
  split
  · split
    · exact Prog.FollowsM.pure hread
    · exact Prog.FollowsM.throw (.inl hm)
  · refine Prog.FollowsM.bind (Prog.FollowsM.lift (Prog.Follows.perform trivial fun time _ => ?_))
    refine Prog.FollowsM.bind (Prog.FollowsM.mono (aside_follows (.mutate sid (.journal (.plan _))) (fun r => r) rfl
      ⟨rfl, request, hm, rfl, rfl, hsubStep, rfl, rfl⟩ (fun _ => rfl) hm) ?_)
    rintro _ _ rfl
    exact Prog.FollowsM.pure hread

/-- A receipt that is found has the transaction of a step. -/
theorem knows_of_find {prior : DemoStepRecord} {transactionId : JsString}
    (h : findSuccessfulReceipt session request.actionId subStep = some prior)
    (htransaction : prior.publicTransactionId = some transactionId) :
    ∃ step ∈ session.steps, step.subStep = subStep ∧ step.receiptStatusSuccess = true ∧
      step.publicTransactionId = some transactionId := by
  have hfor := List.find?_some h
  simp only [DemoStepRecord.isFor, Bool.and_eq_true, decide_eq_true_eq] at hfor
  exact ⟨prior, List.mem_of_find?_eq_some h, hfor.1.2, hfor.2, htransaction⟩

theorem recordReceipt_follows {transactionId : JsString} {hcsSequence : Option Nat} (hm : m.act = .acting request)
    (hsubStep : subStep ∈ liveSubSteps request.action) :
    FollowsLive sid request (fun m' _ => m'.act = .acting request)
      (recordReceipt sid request.actionId subStep transactionId hcsSequence) m := by
  unfold recordReceipt
  refine Prog.FollowsM.bind (Prog.FollowsM.mono (get_follows hm) ?_)
  rintro _ _ ⟨current, rfl, rfl⟩
  cases hprior : findSuccessfulReceipt current request.actionId subStep with
  | some prior =>
    simp only [hprior]
    split
    · exact Prog.FollowsM.pure hm
    · exact Prog.FollowsM.throw (.inl hm)
  | none =>
    simp only [hprior]
    split
    · exact Prog.FollowsM.throw (.inl hm)
    · refine Prog.FollowsM.bind (Prog.FollowsM.mono (aside_follows .dailySuccessfulWrites (fun r => r) rfl trivial
        (fun _ => rfl) hm) ?_)
      rintro _ daily rfl
      split
      · exact Prog.FollowsM.throw (.inl hm)
      · refine Prog.FollowsM.bind (Prog.FollowsM.mono (aside_follows (.recordDailyWriteSuccess 1) (fun r => r) rfl trivial
          (fun _ => rfl) hm) ?_)
        rintro _ _ rfl
        refine Prog.FollowsM.bind (Prog.FollowsM.call (M := liveWatch sid)
          (.mutate sid (.journal (.receipt request.actionId subStep transactionId hcsSequence))) (fun r => r) rfl
          ⟨rfl, ⟨request, hm, rfl, hsubStep⟩, current, List.mem_cons_self, hprior⟩ ?_ fun _ _ _ _ => .inl hm)
        intro _ _ _ _
        exact Prog.FollowsM.pure hm

theorem submitAndRecord_follows (hid : session.sessionId = sid) (hm : m.act = .acting request)
    (hsubStep : subStep ∈ liveSubSteps request.action) (hseen : m.Unrecorded request.actionId subStep) :
    FollowsLive sid request (fun m' _ => m'.act = .acting request) (submitAndRecord session request subStep) m := by
  subst hid
  unfold submitAndRecord
  refine Prog.FollowsM.bind (Prog.FollowsM.mono (aside_follows (.submit request.actionId subStep) (fun r => r) rfl
    ⟨⟨request, hm, rfl, hsubStep⟩, hseen⟩ (fun _ => rfl) hm) ?_)
  rintro _ ⟨transactionId, hcsSequence⟩ rfl
  refine Prog.FollowsM.bind (Prog.FollowsM.mono (recordReceipt_follows hm hsubStep) ?_)
  intro m' _ hm'
  exact Prog.FollowsM.pure hm'

theorem submitJournaled_follows {intendedState : DemoWorkflowState} (hid : session.sessionId = sid)
    (hm : m.act = .acting request) (hsubStep : subStep ∈ liveSubSteps request.action)
    (hseen : m.Unrecorded request.actionId subStep) :
    FollowsLive sid request (fun m' r => m'.act = .acting request ∧ m'.Knows subStep r.2)
      (submitJournaled deps session request intendedState subStep) m := by
  subst hid
  unfold submitJournaled
  refine Prog.FollowsM.bind (Prog.FollowsM.mono (planStep_follows hm hsubStep) ?_)
  rintro m₁ _ ⟨hm₁, hseen₁⟩
  refine Prog.FollowsM.bind (Prog.FollowsM.mono (recordProgress_follows hm₁) ?_)
  rintro _ _ rfl
  refine Prog.FollowsM.bind (Prog.FollowsM.mono (recordProgress_follows hm₁) ?_)
  rintro _ _ rfl
  obtain ⟨read, hread, hnone⟩ := hseen
  refine Prog.FollowsM.bind (Prog.FollowsM.mono
    (submitAndRecord_follows rfl hm₁ hsubStep ⟨read, hseen₁ hread, hnone⟩) ?_)
  rintro m₂ ⟨transactionId, hcsSequence⟩ hm₂
  refine Prog.FollowsM.bind (Prog.FollowsM.mono (get_follows hm₂) ?_)
  rintro _ _ ⟨latest, rfl, rfl⟩
  split
  · exact Prog.FollowsM.throw (.inl hm₂)
  · next prior hprior =>
    split
    · next htransaction =>
      exact Prog.FollowsM.pure ⟨hm₂, latest, List.mem_cons_self, knows_of_find hprior htransaction⟩
    · exact Prog.FollowsM.throw (.inl hm₂)

theorem verifyJournaled_follows {prior : DemoStepRecord} {transactionId : JsString} (hid : session.sessionId = sid)
    (hm : m.act = .acting request) (hsubStep : subStep ∈ liveSubSteps request.action)
    (hknows : m.Knows subStep transactionId) :
    FollowsLive sid request (fun m' _ => m'.act = .acting request)
      (verifyJournaled session request subStep prior transactionId) m := by
  subst hid
  unfold verifyJournaled
  refine Prog.FollowsM.bind (Prog.FollowsM.mono (recordProgress_follows hm) ?_)
  rintro _ _ rfl
  refine Prog.FollowsM.bind (Prog.FollowsM.mono (aside_follows (.verifyOnMirror request.actionId subStep transactionId)
    (fun r => r) rfl hknows (fun _ => rfl) hm) ?_)
  rintro _ evidenceHash rfl
  refine Prog.FollowsM.bind (Prog.FollowsM.mono (aside_follows
    (.mutate session.sessionId (.journal (.verify request.actionId subStep evidenceHash prior.hcsSequence))) (fun r => r)
    rfl ⟨rfl, request, hm, rfl, hsubStep⟩ (fun _ => rfl) hm) ?_)
  rintro _ _ rfl
  exact Prog.FollowsM.pure hm

theorem journaled_follows {intendedState : DemoWorkflowState} (hid : session.sessionId = sid)
    (hm : m.act = .acting request) (hsubStep : subStep ∈ liveSubSteps request.action) :
    FollowsLive sid request (fun m' _ => m'.act = .acting request)
      (journaled deps session request intendedState subStep) m := by
  subst hid
  unfold journaled
  refine Prog.FollowsM.bind (Prog.FollowsM.mono (get_follows hm) ?_)
  rintro _ _ ⟨latest, rfl, rfl⟩
  simp only [Option.getD_some]
  cases hprior : findSuccessfulReceipt latest request.actionId subStep with
  | some prior =>
    dsimp only
    split
    · exact Prog.FollowsM.pure hm
    · next htransaction =>
      exact verifyJournaled_follows rfl hm hsubStep ⟨latest, List.mem_cons_self, knows_of_find hprior htransaction⟩
    · exact Prog.FollowsM.throw (.inl hm)
  | none =>
    refine Prog.FollowsM.bind (Prog.FollowsM.mono
      (submitJournaled_follows rfl hm hsubStep ⟨latest, List.mem_cons_self, hprior⟩) ?_)
    rintro m₁ ⟨prior, transactionId⟩ ⟨hm₁, hknows⟩
    exact verifyJournaled_follows rfl hm₁ hsubStep hknows

theorem elsewhere_follows (hm : m.act = .acting request) :
    FollowsLive sid request (fun m' _ => m' = m) DemoM.elsewhere m :=
  aside_follows .elsewhere (fun r => r) rfl trivial (fun _ => rfl) hm

theorem executeSubSteps_follows {intendedState : DemoWorkflowState} (hid : session.sessionId = sid)
    {subSteps : List JsString} (hsubSteps : subSteps ⊆ liveSubSteps request.action) (hm : m.act = .acting request) :
    FollowsLive sid request (fun m' _ => m'.act = .acting request)
      (executeSubSteps deps session request intendedState subSteps) m := by
  induction subSteps generalizing m with
  | nil =>
    refine Prog.FollowsM.bind (Prog.FollowsM.mono (elsewhere_follows hm) ?_)
    rintro _ _ rfl
    exact Prog.FollowsM.pure hm
  | cons subStep rest ih =>
    rw [List.cons_subset] at hsubSteps
    refine Prog.FollowsM.bind (Prog.FollowsM.mono (elsewhere_follows hm) ?_)
    rintro _ _ rfl
    refine Prog.FollowsM.bind (Prog.FollowsM.mono (journaled_follows hid hm hsubSteps.1) ?_)
    intro m₁ outcome hm₁
    refine Prog.FollowsM.bind (Prog.FollowsM.mono (ih hsubSteps.2 hm₁) ?_)
    intro m₂ outcomes hm₂
    exact Prog.FollowsM.pure hm₂

theorem executeLive_follows :
    AdapterFollows (liveWatch sid) sid (fun executed => executed.steps = []) LivePhase.act (executeLive deps) request := by
  intro session identityHash intendedState pod m hm _ hmay
  unfold executeLive
  split
  · exact Prog.FollowsM.throw (.inl hm)
  · refine Prog.FollowsM.bind (Prog.FollowsM.mono
      (executeSubSteps_follows (hmay.2 rfl) (List.Subset.refl _) hm) ?_)
    intro m₁ outcomes hm₁
    exact Prog.FollowsM.pure ⟨hm₁, rfl⟩

end Follows

/-! ## The steps of a session -/

/-- The step belongs to its action, and has a transaction only with its receipt. -/
structure DemoStepRecord.Keyed (step : DemoStepRecord) : Prop where
  subStep : step.subStep ∈ liveSubSteps step.action
  receipt : step.publicTransactionId ≠ none → step.receiptStatusSuccess = true

/-- `step'` is what `step` has become. -/
structure DemoStepRecord.Becomes (step step' : DemoStepRecord) : Prop where
  action : step'.action = step.action
  actionId : step'.actionId = step.actionId
  subStep : step'.subStep = step.subStep
  receipt : step.receiptStatusSuccess = true → step'.receiptStatusSuccess = true
  transaction : ∀ transactionId, step.publicTransactionId = some transactionId → step'.publicTransactionId = some transactionId

/-- The steps stay where they are, with their transactions. -/
def Keeps (session next : OperationsDemoSession) : Prop :=
  ∀ (i : Nat) (step : DemoStepRecord), session.steps[i]? = some step → ∃ step', next.steps[i]? = some step' ∧ step.Becomes step'

/-- Every receipt was there before. -/
def NoReceipt (session next : OperationsDemoSession) : Prop :=
  ∀ step' ∈ next.steps, step'.receiptStatusSuccess = true → ∃ step ∈ session.steps, step.Becomes step' ∧
    step.receiptStatusSuccess = true

section Keeping
variable {session next last : OperationsDemoSession} {sha256Hex : JsString → JsString} {clock : Clock}
  {actionId subStep : JsString}

theorem DemoStepRecord.Becomes.refl (step : DemoStepRecord) : step.Becomes step := ⟨rfl, rfl, rfl, id, fun _ h => h⟩

theorem Keeps.of_steps (h : next.steps = session.steps) : Keeps session next := by
  intro i step hi
  exact ⟨step, by rw [h, hi], .refl step⟩

theorem Keeps.trans (h : Keeps session next) (h' : Keeps next last) : Keeps session last := by
  intro i step hi
  obtain ⟨step', hi', hbecomes⟩ := h i step hi
  obtain ⟨step'', hi'', hbecomes'⟩ := h' i step' hi'
  exact ⟨step'', hi'', hbecomes'.action.trans hbecomes.action, hbecomes'.actionId.trans hbecomes.actionId,
    hbecomes'.subStep.trans hbecomes.subStep, fun hr => hbecomes'.receipt (hbecomes.receipt hr),
    fun transactionId ht => hbecomes'.transaction transactionId (hbecomes.transaction transactionId ht)⟩

/-- One step is rewritten. -/
theorem Keeps.of_set {i : Nat} {step step' : DemoStepRecord} (hi : session.steps[i]? = some step)
    (hbecomes : step.Becomes step') (h : next.steps = session.steps.set i step') : Keeps session next := by
  intro j old hj
  rw [h, List.getElem?_set]
  split
  · next hij =>
    subst hij
    obtain rfl : old = step := Option.some.inj (hj.symm.trans hi)
    exact ⟨step', if_pos (List.getElem?_eq_some_iff.mp hi).1, hbecomes⟩
  · exact ⟨old, hj, .refl old⟩

theorem NoReceipt.of_steps (h : next.steps = session.steps) : NoReceipt session next := by
  intro step' hmem hr
  exact ⟨step', h ▸ hmem, .refl step', hr⟩

theorem findSuccessfulReceipt_eq_none :
    findSuccessfulReceipt session actionId subStep = none ↔
      ∀ step ∈ session.steps, step.actionId = actionId → step.subStep = subStep → step.receiptStatusSuccess = false := by
  simp [findSuccessfulReceipt, List.find?_eq_none, DemoStepRecord.isFor]

/-- Without a new receipt nothing is found that was not found before. -/
theorem NoReceipt.find_eq_none (h : NoReceipt session next) (hnone : findSuccessfulReceipt session actionId subStep = none) :
    findSuccessfulReceipt next actionId subStep = none := by
  rw [findSuccessfulReceipt_eq_none] at hnone ⊢
  intro step' hmem hid hsub
  by_contra hr
  obtain ⟨step, hstep, hbecomes, hreceipt⟩ := h step' hmem (by simpa using hr)
  have := hnone step hstep (hbecomes.actionId.symm.trans hid) (hbecomes.subStep.symm.trans hsub)
  rw [hreceipt] at this
  cases this

/-- The first step of a sub-step. -/
theorem findIdx_isFor {steps : List DemoStepRecord} {step : DemoStepRecord}
    (h : steps[steps.findIdx (DemoStepRecord.isFor actionId subStep)]? = some step) :
    step ∈ steps ∧ step.actionId = actionId ∧ step.subStep = subStep := by
  obtain ⟨hlt, rfl⟩ := List.getElem?_eq_some_iff.mp h
  have hfor := List.findIdx_getElem (w := hlt)
  simp only [DemoStepRecord.isFor, Bool.and_eq_true, decide_eq_true_eq] at hfor
  exact ⟨List.getElem_mem hlt, hfor⟩

/-- A receipt is written to the first step of its sub-step. -/
theorem journalReceipt_ok {transactionId : JsString} {hcsSequence : Option Nat}
    (h : journalReceipt clock sha256Hex actionId subStep transactionId hcsSequence session = .ok next) :
    ∃ i step evidenceHash time, session.steps[i]? = some step ∧ step.actionId = actionId ∧ step.subStep = subStep ∧
      next.steps = session.steps.set i (step.receipted transactionId hcsSequence evidenceHash time) := by
  simp only [journalReceipt] at h
  split at h
  · cases h
  · next step hi =>
    cases h
    obtain ⟨-, hid, hsub⟩ := findIdx_isFor hi
    exact ⟨_, step, _, _, hi, hid, hsub, rfl⟩

/-- A verification is written to the first step of its sub-step, which has a receipt. -/
theorem journalVerify_ok {evidenceHash : JsString} {hcsSequence : Option Nat}
    (h : journalVerify clock actionId subStep evidenceHash hcsSequence session = .ok next) :
    ∃ i step step', session.steps[i]? = some step ∧ step.receiptStatusSuccess = true ∧ step.Becomes step' ∧
      (step.Keyed → step'.Keyed) ∧ next.steps = session.steps.set i step' := by
  simp only [journalVerify] at h
  split at h
  · cases h
  · next step hi =>
    simp only [bind_eq_ok, require_eq_ok, exists_const, pure_eq_ok] at h
    obtain ⟨hreceipt, rfl⟩ := h
    refine ⟨_, step, _, hi, hreceipt, ?_, ?_, rfl⟩
    · exact ⟨rfl, rfl, rfl, id, fun _ ht => ht⟩
    · exact fun hkeyed => ⟨hkeyed.subStep, hkeyed.receipt⟩

end Keeping

/-! ## The invariant -/

/-- The receipts of the action are under the id of the request. -/
def TakenUp (session : OperationsDemoSession) (request : DemoActionRequest) : Prop :=
  ∀ step ∈ session.steps, step.receiptStatusSuccess = true → step.action = request.action →
    step.actionId = request.actionId

/-- At most one call is acting, under the id of the receipts of its action, and a receipt it has found missing still is. -/
structure Recorded (phases : Nat → LivePhase) (w : DemoWorld) : Prop where
  exclusive : Exclusive (fun _ _ => True) (fun n => (phases n).act) w
  keyed : ∀ step ∈ w.session.steps, step.Keyed
  takenUp : ∀ n request, (phases n).act = .acting request → TakenUp w.session request
  kept : ∀ n, ∀ read ∈ (phases n).seen, Keeps read w.session
  unrecorded : ∀ n request read, (phases n).act = .acting request → read ∈ (phases n).seen → ∀ subStep,
    findSuccessfulReceipt read request.actionId subStep = none →
      findSuccessfulReceipt w.session request.actionId subStep = none

/-- An action with receipts is taken up again under their id, and a failure finds no mark of another action. -/
def Resumed (sid : JsString) (w : DemoWorld) : DemoOp → Prop
  | .mutate id (.reserve request _) =>
    id = sid → w.session.actionResults.read request.actionId = .undefined → truthy w.session.inFlightActionId = false →
      TakenUp w.session request
  | .mutate id (.fail request _) =>
    id = sid → w.session.inFlightActionId = none ∨ w.session.inFlightActionId = some request.actionId
  | _ => True

section Steps
variable {deps : DemoDeps} {sid : JsString} {phases : Nat → LivePhase} {w w' : DemoWorld} {n : Nat}
  {request : DemoActionRequest} {phase : LivePhase}

theorem NoReceipt.takenUp {session next : OperationsDemoSession} (h : NoReceipt session next)
    (htaken : TakenUp session request) : TakenUp next request := by
  intro step' hmem hr haction
  obtain ⟨step, hstep, hbecomes, hreceipt⟩ := h step' hmem hr
  exact hbecomes.actionId.trans (htaken step hstep hreceipt (hbecomes.action.symm.trans haction))

/-- Two acting calls are one. -/
theorem Recorded.alone (h : Recorded phases w) {m : Nat} {request' : DemoActionRequest}
    (hn : (phases n).act = .acting request) (hm : (phases m).act = .acting request') : m = n ∧ request' = request := by
  obtain rfl := h.exclusive.unique m n request' request (.inl hm) (.inl hn)
  rw [hn] at hm
  cases hm
  exact ⟨rfl, rfl⟩

/-- A step without a new receipt. -/
theorem Recorded.frame (h : Recorded phases w)
    (hexclusive : Exclusive (fun _ _ => True) (fun m => (Function.update phases n phase m).act) w')
    (hkeyed : ∀ step ∈ w'.session.steps, step.Keyed) (hno : NoReceipt w.session w'.session)
    (hkeeps : Keeps w.session w'.session) (hseen : ∀ read ∈ phase.seen, read = w.session ∨ read ∈ (phases n).seen)
    (hphase : ∀ request, phase.act = .acting request →
      TakenUp w.session request ∧ ((phases n).act = .acting request ∨ phase.seen = [])) :
    Recorded (Function.update phases n phase) w' := by
  refine ⟨hexclusive, hkeyed, ?_, ?_, ?_⟩
  · intro m request' hm
    rw [Function.update_apply] at hm
    split at hm
    · exact hno.takenUp (hphase request' hm).1
    · exact hno.takenUp (h.takenUp m request' hm)
  · intro m read hread
    rw [Function.update_apply] at hread
    split at hread
    · rcases hseen read hread with rfl | hread
      · exact hkeeps
      · exact (h.kept n read hread).trans hkeeps
    · exact (h.kept m read hread).trans hkeeps
  · intro m request' read hm hread subStep hnone
    rw [Function.update_apply] at hm hread
    split at hm
    · next hmn =>
      rw [if_pos hmn] at hread
      rcases hseen read hread with rfl | hread'
      · exact hno.find_eq_none hnone
      · rcases (hphase request' hm).2 with hacting | hnil
        · exact hno.find_eq_none (h.unrecorded n request' read hacting hread' subStep hnone)
        · rw [hnil] at hread
          cases hread
    · next hmn =>
      rw [if_neg hmn] at hread
      exact hno.find_eq_none (h.unrecorded m request' read hm hread subStep hnone)

/-- A receipt is written by the acting call, which has found it missing. -/
theorem Recorded.receipt (h : Recorded phases w) {actionId subStep transactionId : JsString} {hcsSequence : Option Nat}
    {clock : Clock} {next : OperationsDemoSession} (htakes : (phases n).Takes actionId subStep)
    (hmissing : (phases n).Unrecorded actionId subStep) (hsession : w'.session = next)
    (hreceipt : journalReceipt clock deps.sha256Hex actionId subStep transactionId hcsSequence w.session = .ok next)
    (hexclusive : Exclusive (fun _ _ => True) (fun m => (Function.update phases n ⟨(phases n).act, []⟩ m).act) w') :
    Recorded (Function.update phases n ⟨(phases n).act, []⟩) w' ∧ Keeps w.session w'.session := by
  subst hsession
  obtain ⟨request, hacting, rfl, hsub⟩ := htakes
  obtain ⟨read, hread, hnone⟩ := hmissing
  have hmiss := findSuccessfulReceipt_eq_none.mp (h.unrecorded n request read hacting hread subStep hnone)
  obtain ⟨i, step, evidenceHash, time, hi, hid, rfl, hsteps⟩ := journalReceipt_ok hreceipt
  have hmem : step ∈ w.session.steps := List.mem_of_getElem? hi
  have hfresh : step.receiptStatusSuccess = false := hmiss step hmem hid rfl
  have hkeyed := h.keyed step hmem
  have haction : step.action = request.action := liveSubSteps_injective hkeyed.subStep hsub
  have hbecomes : step.Becomes (step.receipted transactionId hcsSequence evidenceHash time) := by
    refine ⟨rfl, rfl, rfl, fun _ => rfl, fun transactionId' ht => ?_⟩
    have hr := hkeyed.receipt (by simp [ht])
    rw [hfresh] at hr
    cases hr
  have hkeeps : Keeps w.session w'.session := .of_set hi hbecomes hsteps
  refine ⟨⟨hexclusive, ?_, ?_, ?_, ?_⟩, hkeeps⟩
  · intro step' hmem'
    rw [hsteps] at hmem'
    rcases List.mem_or_eq_of_mem_set hmem' with hmem' | rfl
    · exact h.keyed step' hmem'
    · exact ⟨hkeyed.subStep, fun _ => rfl⟩
  · intro m request' hm
    have hm' : (phases m).act = .acting request' := by
      rw [Function.update_apply] at hm
      split at hm
      · next hmn => exact hmn ▸ hm
      · exact hm
    obtain ⟨rfl, rfl⟩ := h.alone hacting hm'
    intro step' hmem' hr haction'
    rw [hsteps] at hmem'
    rcases List.mem_or_eq_of_mem_set hmem' with hmem' | rfl
    · exact h.takenUp m request' hacting step' hmem' hr haction'
    · exact hid
  · intro m read' hread'
    rw [Function.update_apply] at hread'
    split at hread'
    · cases hread'
    · exact (h.kept m read' hread').trans hkeeps
  · intro m request' read' hm hread'
    rw [Function.update_apply] at hm hread'
    split at hm
    · next hmn =>
      rw [if_pos hmn] at hread'
      cases hread'
    · next hmn => exact absurd (h.alone hacting hm).1 hmn

theorem act_update : (fun m => (Function.update phases n phase m).act) =
    Function.update (fun m => (phases m).act) n phase.act := by
  funext m
  rw [Function.update_apply, Function.update_apply]
  split <;> rfl

theorem resumed_iff {op : DemoOp} (h : Resumed sid w op) : OwnFailure sid w op := by
  cases op with
  | mutate id change =>
    cases change with
    | fail request error => exact h
    | _ => trivial
  | _ => trivial

theorem reserves_true (op : DemoOp) : Reserves sid (fun _ _ => True) w op := by
  cases op with
  | mutate id change =>
    cases change with
    | reserve request identityHash => exact fun _ _ _ => trivial
    | _ => trivial
  | _ => trivial

theorem actWatch_ok_of_liveWatch {op : DemoOp} (h : (liveWatch sid).ok phase op) :
    (actWatch sid liveModes).ok phase.act op := by
  cases op with
  | mutate id change =>
    cases change with
    | journal change => trivial
    | commit request identityHash intendedState executed => exact h.2
    | _ => exact h
  | submit actionId subStep => trivial
  | verifyOnMirror actionId subStep transactionId => trivial
  | _ => exact h

theorem Recorded.exclusive_call (h : Recorded phases w) {op : DemoOp} {r : op.Ans}
    (hok : (liveWatch sid).ok (phases n) op) (hresumed : Resumed sid w op) (heffect : DemoEffect deps sid w op r w') :
    Exclusive (fun _ _ => True)
      (fun m => (Function.update phases n ((liveWatch sid).next (phases n) op r) m).act) w' := by
  rw [act_update]
  exact h.exclusive.call (fun _ _ _ _ => trivial) (actWatch_ok_of_liveWatch hok) (resumed_iff hresumed) (reserves_true op)
    heffect

/-- The acting call writes to its journal. -/
theorem Recorded.journal (h : Recorded phases w) {change : JournalChange} {clock : Clock} {next : OperationsDemoSession}
    {r : Except DemoThrown OperationsDemoSession} (hok : (phases n).Journals change) (hsession : w'.session = next)
    (happly : change.apply deps.sha256Hex clock w.session = .ok next)
    (hexclusive : Exclusive (fun _ _ => True)
      (fun m => (Function.update phases n ((liveWatch sid).next (phases n) (.mutate sid (.journal change)) r) m).act) w') :
    Recorded (Function.update phases n ((liveWatch sid).next (phases n) (.mutate sid (.journal change)) r)) w' ∧
      Keeps w.session w'.session := by
  subst hsession
  have hseen : ∀ read ∈ (phases n).seen, read = w.session ∨ read ∈ (phases n).seen := fun _ hread => .inr hread
  have hphase (request : DemoActionRequest) (hacting : (phases n).act = .acting request) :
      TakenUp w.session request ∧ ((phases n).act = .acting request ∨ (phases n).seen = []) :=
    ⟨h.takenUp n request hacting, .inl hacting⟩
  cases change with
  | progress actionId stage =>
    have hsteps : w'.session.steps = w.session.steps := by
      simp only [JournalChange.apply, journalProgress, bind_eq_ok, require_eq_ok, exists_const, pure_eq_ok] at happly
      rw [← happly.2]
      rfl
    exact ⟨h.frame hexclusive (hsteps ▸ h.keyed) (.of_steps hsteps) (.of_steps hsteps) hseen hphase, .of_steps hsteps⟩
  | plan planned =>
    obtain ⟨request, hacting, hid, haction, hsub, htransaction, hreceipt⟩ := hok
    have hsteps : w'.session.steps = w.session.steps ++ [planned] := by
      rw [← Except.ok.inj happly]
      rfl
    have hkeeps : Keeps w.session w'.session := by
      intro i step hi
      exact ⟨step, by rw [hsteps, List.getElem?_append_left (List.getElem?_eq_some_iff.mp hi).1, hi], .refl step⟩
    refine ⟨h.frame hexclusive ?_ ?_ hkeeps hseen hphase, hkeeps⟩
    · intro step hmem
      rw [hsteps] at hmem
      rcases List.mem_append.mp hmem with hmem | hmem
      · exact h.keyed step hmem
      · obtain rfl := List.mem_singleton.mp hmem
        exact ⟨haction ▸ hsub, fun ht => absurd htransaction ht⟩
    · intro step hmem hr
      rw [hsteps] at hmem
      rcases List.mem_append.mp hmem with hmem | hmem
      · exact ⟨step, hmem, .refl step, hr⟩
      · obtain rfl := List.mem_singleton.mp hmem
        rw [hreceipt] at hr
        cases hr
  | receipt actionId subStep transactionId hcsSequence => exact h.receipt hok.1 hok.2 rfl happly hexclusive
  | verify actionId subStep evidenceHash hcsSequence =>
    obtain ⟨i, step, step', hi, hreceipt, hbecomes, hkeyed, hsteps⟩ := journalVerify_ok happly
    have hmem : step ∈ w.session.steps := List.mem_of_getElem? hi
    have hkeeps : Keeps w.session w'.session := .of_set hi hbecomes hsteps
    refine ⟨h.frame hexclusive ?_ ?_ hkeeps hseen hphase, hkeeps⟩
    · intro step'' hmem'
      rw [hsteps] at hmem'
      rcases List.mem_or_eq_of_mem_set hmem' with hmem' | rfl
      · exact h.keyed step'' hmem'
      · exact hkeyed (h.keyed step hmem)
    · intro step'' hmem' hr
      rw [hsteps] at hmem'
      rcases List.mem_or_eq_of_mem_set hmem' with hmem' | rfl
      · exact ⟨step'', hmem', .refl step'', hr⟩
      · exact ⟨step, hmem, hbecomes, hreceipt⟩

/-- The callbacks of the orchestrator leave the steps alone, as live results bring none. -/
theorem steps_of_apply {change : SessionChange} {clock : Clock} {next : OperationsDemoSession}
    (h : change.apply deps.sha256Hex deps.config clock w.session = .ok next)
    (hok : (liveWatch sid).ok phase (.mutate sid change)) :
    next.steps = w.session.steps ∨ ∃ journal, change = .journal journal := by
  cases change with
  | expire =>
    cases h
    exact .inl rfl
  | fail request error =>
    cases h
    exact .inl rfl
  | reserve request identityHash =>
    rcases reserveAction_ok h with ⟨_, -, -, rfl⟩ | ⟨-, -, rfl⟩ <;> exact .inl rfl
  | commit request identityHash intendedState executed =>
    obtain ⟨-, -, -, -, hsteps, -⟩ := commitAction_ok h
    rw [hok.1, List.append_nil] at hsteps
    exact .inl hsteps
  | journal change => exact .inr ⟨change, rfl⟩

/-- Where a call of the orchestrator leaves its program acting, it was acting, or it has just reserved its action. -/
theorem acting_of_next {change : SessionChange} {r : Except DemoThrown OperationsDemoSession}
    (hok : (liveWatch sid).ok phase (.mutate sid change))
    (hacting : ((liveWatch sid).next phase (.mutate sid change) r).act = .acting request) :
    phase.act = .acting request ∨
      ∃ identityHash session, change = .reserve request identityHash ∧ r = .ok session ∧
        ∀ committed, session.actionResults.read request.actionId ≠ .value committed := by
  cases change with
  | expire | journal change => exact .inl hacting
  | fail request' error => cases hacting
  | commit request' identityHash intendedState executed => cases hacting
  | reserve request' identityHash =>
    have hidle : phase.act = .idle := hok.1
    cases r with
    | error e =>
      have : phase.act = .acting request := hacting
      rw [hidle] at this
      cases this
    | ok session =>
      have hreserved : phase.act.reserved request' session = .acting request := hacting
      unfold ActPhase.reserved at hreserved
      split at hreserved
      · rw [hidle] at hreserved
        cases hreserved
      · next hread =>
        cases hreserved
        exact .inr ⟨identityHash, session, rfl, rfl, hread⟩

theorem seen_of_mutate {id : JsString} {change : SessionChange} {r : Except DemoThrown OperationsDemoSession} :
    ((liveWatch sid).next phase (.mutate id change) r).seen ⊆ phase.seen := by
  cases change with
  | journal change => cases change <;> simp [liveWatch]
  | _ => simp [liveWatch]

theorem Recorded.mutate (h : Recorded phases w) {change : SessionChange} {r : Except DemoThrown OperationsDemoSession}
    (hok : (liveWatch sid).ok (phases n) (.mutate sid change)) (hresumed : Resumed sid w (.mutate sid change))
    (heffect : MutateEffect deps w change r w') :
    Recorded (Function.update phases n ((liveWatch sid).next (phases n) (.mutate sid change) r)) w' ∧
      Keeps w.session w'.session := by
  have hexclusive := h.exclusive_call hok hresumed ((if_pos rfl).mpr heffect : DemoEffect deps sid w (.mutate sid change) r w')
  have hseen : ∀ read ∈ ((liveWatch sid).next (phases n) (.mutate sid change) r).seen,
      read = w.session ∨ read ∈ (phases n).seen := fun read hread => .inr (seen_of_mutate hread)
  rcases heffect with ⟨clock, next, happly, rfl, hr⟩ | ⟨⟨e, rfl⟩, rfl⟩
  · rcases steps_of_apply happly hok with hsteps | ⟨journal, rfl⟩
    · rw [← DemoWorld.put_session w next change] at hsteps
      refine ⟨h.frame hexclusive (hsteps ▸ h.keyed) (.of_steps hsteps) (.of_steps hsteps) hseen ?_, .of_steps hsteps⟩
      intro request hacting
      rcases acting_of_next hok hacting with hacting | ⟨identityHash, session, rfl, rfl, hread⟩
      · exact ⟨h.takenUp n request hacting, .inl hacting⟩
      · refine ⟨?_, .inr rfl⟩
        rcases hr with hr | ⟨e, hr⟩ <;> cases hr
        rcases reserveAction_ok happly with ⟨existing, hread', -, rfl⟩ | ⟨hread', hmark, -⟩
        · exact absurd hread' (hread existing)
        · exact hresumed rfl hread' hmark
    · exact h.journal hok.2 (DemoWorld.put_session ..) happly hexclusive
  · refine ⟨h.frame hexclusive h.keyed (.of_steps rfl) (.of_steps rfl) hseen ?_, .of_steps rfl⟩
    intro request hacting
    rcases acting_of_next hok hacting with hacting | ⟨identityHash, session, rfl, hr, -⟩
    · exact ⟨h.takenUp n request hacting, .inl hacting⟩
    · cases hr

/-- One more call keeps the record, and the steps of the session stay. -/
theorem Recorded.call (h : Recorded phases w) {op : DemoOp} {r : op.Ans} (hok : (liveWatch sid).ok (phases n) op)
    (hresumed : Resumed sid w op) (heffect : DemoEffect deps sid w op r w') :
    Recorded (Function.update phases n ((liveWatch sid).next (phases n) op r)) w' ∧ Keeps w.session w'.session := by
  have hexclusive := h.exclusive_call hok hresumed heffect
  cases op with
  | mutate id change =>
    by_cases hid : id = sid
    · subst hid
      exact h.mutate hok hresumed ((if_pos rfl).mp heffect)
    · obtain rfl : w' = w := (if_neg hid).mp heffect
      refine ⟨h.frame hexclusive h.keyed (.of_steps rfl) (.of_steps rfl) (fun read hread => .inr (seen_of_mutate hread))
        ?_, .of_steps rfl⟩
      intro request hacting
      cases change with
      | expire => exact ⟨h.takenUp n request hacting, .inl hacting⟩
      | journal change => exact absurd hok.1 hid
      | reserve request identityHash => exact absurd hok.2.1 hid
      | commit request identityHash intendedState executed => exact absurd hok.2.2.1 hid
      | fail request error => exact absurd hok.2 hid
  | get id =>
    obtain ⟨rfl, hread⟩ := heffect
    refine ⟨h.frame hexclusive h.keyed (.of_steps rfl) (.of_steps rfl) ?_ ?_, .of_steps rfl⟩
    · intro read hmem
      cases r with
      | error e => exact .inr hmem
      | ok found =>
        cases found with
        | none => exact .inr hmem
        | some session =>
          have hmem' : read ∈ if id = sid then session :: (phases n).seen else (phases n).seen := hmem
          split at hmem'
          · next hid =>
            rcases hread hid with hr | ⟨e, hr⟩ <;> cases hr
            exact List.mem_cons.mp hmem'
          · exact .inr hmem'
    · intro request hacting
      exact ⟨h.takenUp n request hacting, .inl hacting⟩
  | _ =>
    obtain rfl : w' = w := heffect
    exact ⟨h.frame hexclusive h.keyed (.of_steps rfl) (.of_steps rfl) (fun read hread => .inr hread)
      fun request hacting => ⟨h.takenUp n request hacting, .inl hacting⟩, .of_steps rfl⟩

/-- A call that starts or is lost has nothing in flight. -/
theorem Recorded.reset (h : Recorded phases w) : Recorded (Function.update phases n ⟨.idle, []⟩) w := by
  refine h.frame ?_ h.keyed (.of_steps rfl) (.of_steps rfl) (fun read hread => by cases hread)
    fun request hacting => by cases hacting
  rw [act_update]
  exact h.exclusive.move fun request hm => absurd hm (not_owns_idle request)

end Steps

/-! ## Runs -/

section Runs
variable (deps : DemoDeps) (sid : JsString)

/-- The runs whose actions are resumed under the ids of their receipts. -/
def resumedSystem : System ActPool ActLabel :=
  (liveSystem deps sid).restrict fun s l =>
    match l with
    | .call _ op _ => Resumed sid s.shared op
    | _ => True

variable {deps sid} {ls : List ActLabel} {s t : ActPool}

/-- Which session a live run is about. -/
theorem identity_of_run (h : (resumedSystem deps sid).Run ls s) :
    s.shared.session.sessionId = sid ∧ s.shared.session.mode = .live := by
  refine System.Run.induction (S := resumedSystem deps sid)
    (I := fun _ s => s.shared.session.sessionId = sid ∧ s.shared.session.mode = .live) ?_ ?_ h
  · rintro s ⟨⟨-, now, eventTime, budget, evidence, hcsSequences, evidenceHash, hsession⟩, -⟩
    rw [hsession, if_neg (by decide)]
    exact ⟨rfl, rfl⟩
  · rintro ls s l t - ih ⟨hstep, -⟩
    cases hstep with
    | call hn heffect =>
      obtain ⟨hid, hmode⟩ := identity_of_effect heffect
      exact ⟨hid.trans ih.1, hmode.trans ih.2⟩
    | start hn => exact ih
    | lost => exact ih

/-- What a call is answered is about the session. -/
theorem liveWatch_may {w w' : DemoWorld} {op : DemoOp} {r : op.Ans} (hid : w.session.sessionId = sid)
    (hmode : w.session.mode = .live) (h : DemoEffect deps sid w op r w') : (liveWatch sid).may op r := by
  cases op with
  | get id =>
    cases r with
    | error e => exact ⟨trivial, trivial⟩
    | ok found =>
      cases found with
      | none =>
        refine ⟨trivial, fun heq => ?_⟩
        rcases h.2 heq with hr | ⟨e, hr⟩ <;> cases hr
      | some session =>
        refine ⟨fun heq => ?_, fun _ => rfl⟩
        rcases h.2 heq with hr | ⟨e, hr⟩ <;> cases hr
        exact hmode
  | mutate id change =>
    cases r with
    | error e => exact ⟨trivial, trivial⟩
    | ok session =>
      have hidentity (heq : id = sid) : session.sessionId = sid ∧ session.mode = .live := by
        rcases (if_pos heq).mp h with ⟨clock, next, happly, -, hr⟩ | ⟨⟨e, hr⟩, -⟩
        · rcases hr with hr | ⟨e, hr⟩ <;> cases hr
          obtain ⟨-, hkept, hkept'⟩ := apply_identity happly
          exact ⟨hkept.trans hid, hkept'.trans hmode⟩
        · cases hr
      exact ⟨fun heq => (hidentity heq).2, fun heq => (hidentity heq).1⟩
  | _ => exact ⟨trivial, trivial⟩

theorem live_watched_of_run (h : (resumedSystem deps sid).Run ls s) : (liveWatch sid).Watched (fun _ _ => True) ls s := by
  refine Monitor.watched_of_run ?_ ?_ h
  · intro request
    exact (act_follows_of (watches_liveWatch sid) executeLive_follows rfl).follows
  · intro ls s n op r w hrun heffect _
    obtain ⟨hid, hmode⟩ := identity_of_run hrun
    exact liveWatch_may hid hmode heffect

/-- One step of a run keeps the record, and the steps of the session stay. -/
theorem Recorded.step (hrun : (resumedSystem deps sid).Run ls s) (h : Recorded ((liveWatch sid).phase ls) s.shared)
    {l : ActLabel} (hstep : (resumedSystem deps sid).step s l t) :
    Recorded ((liveWatch sid).phase (ls ++ [l])) t.shared ∧ Keeps s.shared.session t.shared.session := by
  obtain ⟨hstep, hresumed⟩ := hstep
  cases hstep with
  | start hn =>
    rw [Monitor.phase_start]
    exact ⟨h.reset, .of_steps rfl⟩
  | call hn heffect =>
    rw [Monitor.phase_call]
    exact h.call ((live_watched_of_run hrun).ok hn) hresumed heffect
  | lost =>
    rw [Monitor.phase_lost]
    exact ⟨h.reset, .of_steps rfl⟩

theorem recorded_of_run (h : (resumedSystem deps sid).Run ls s) : Recorded ((liveWatch sid).phase ls) s.shared := by
  refine System.Run.induction (S := resumedSystem deps sid)
    (I := fun ls s => Recorded ((liveWatch sid).phase ls) s.shared) ?_ ?_ h
  · rintro s ⟨⟨-, now, eventTime, budget, evidence, hcsSequences, evidenceHash, hsession⟩, -⟩
    rw [if_neg (by decide)] at hsession
    have hsteps : s.shared.session.steps = [] := by
      rw [hsession]
      rfl
    refine ⟨.of_none fun m request hm => not_owns_idle request hm, ?_, fun n request hn => ?_, fun n read hread => ?_,
      fun n request read hn => ?_⟩
    · rw [hsteps]
      intro step hmem
      cases hmem
    · cases hn
    · cases hread
    · cases hn
  · intro ls s l t hrun ih hstep
    exact (ih.step hrun hstep).1

/-- The steps of the session stay over a run. -/
theorem keeps_of_steps {ls' : List ActLabel} (hrun : (resumedSystem deps sid).Run ls s)
    (hsteps : (resumedSystem deps sid).Steps s ls' t) : Keeps s.shared.session t.shared.session := by
  induction hsteps with
  | nil => exact .of_steps rfl
  | snoc hprev hstep ih =>
    have hrun' := hrun.append hprev
    exact ih.trans ((recorded_of_run hrun').step hrun' hstep).2

end Runs

/-! ## A Mirror that does not answer -/

namespace Delayed

def deps : DemoDeps where
  config := ⟨12, 50, 15, 60⟩
  liveEnabled := true
  liveDisabledCode := .demoLiveDisabled
  liveAdapter := true
  podWorkflow := true
  adminTokenMatches _ := true
  sha256Hex := Sha256.sha256Hex

def sid : JsString := js "demo-1"

def request (actionId : String) : DemoActionRequest := ⟨.fundEscrow, js actionId, js "idempotency-1", .obj []⟩

/-- A live session just created. -/
def world : DemoWorld := ⟨initialSession deps .live sid 0 0 ⟨12, 0, 0, none, 12, 0, 50⟩ [], []⟩

/-- Submissions succeed and their receipts are written, while the Mirror is not there. -/
def answer (w : DemoWorld) : (op : DemoOp) → Option (op.Ans × DemoWorld)
  | .get id => if id = sid then some (.ok (some w.session), w) else none
  | .now => some ((0 : Int), w)
  | .mutate id change =>
    if id = sid then
      match change.apply deps.sha256Hex deps.config (fun _ => 0) w.session with
      | .ok next => some (.ok next, w.put next change)
      | .error e => some (.error e, w)
    else none
  | .dailySuccessfulWrites => some (.ok (0 : Nat), w)
  | .recordDailyWriteSuccess _ => some (.ok (), w)
  | .elsewhere => some (.ok (), w)
  | .submit .. => some (.ok (js "0.0.9197513@100.1", none), w)
  | .verifyOnMirror .. => some (.error (.demo .demoMirrorUnavailable (js "Mirror verification timed out")), w)
  | _ => none

theorem answer_effect (w : DemoWorld) (op : DemoOp) (r : op.Ans × DemoWorld) (h : answer w op = some r) :
    DemoEffect deps sid w op r.1 r.2 := by
  cases op with
  | get id =>
    simp only [answer] at h
    split at h
    · cases h
      exact ⟨rfl, fun _ => .inl rfl⟩
    · cases h
  | mutate id change =>
    simp only [answer] at h
    split at h
    · next hid =>
      refine (if_pos hid).mpr ?_
      split at h
      · next next happly =>
        cases h
        exact .inl ⟨_, next, happly, rfl, .inl rfl⟩
      · next e happly =>
        cases h
        exact .inr ⟨⟨e, rfl⟩, rfl⟩
    · cases h
  | now | dailySuccessfulWrites | recordDailyWriteSuccess | elsewhere | submit | verifyOnMirror =>
    cases h
    rfl
  | _ => cases h

def played (check : ActPool → ActLabel → Bool) (moves : List (Move DemoActionRequest)) :
    Option (List ActLabel × ActPool) :=
  Pool.play (fun request => (act deps (executeLive deps) sid request).run) answer check moves ⟨world, fun _ => none⟩

theorem run_of_played {check : ActPool → ActLabel → Bool} {moves : List (Move DemoActionRequest)} {ls : List ActLabel}
    {s : ActPool} (h : played check moves = some (ls, s)) :
    ((liveSystem deps sid).restrict fun s l => check s l = true).Run ls s :=
  run_of_play answer_effect (⟨rfl, 0, 0, _, [], [], [], rfl⟩ : FreshSession deps sid .live world) h

/-- A first request is submitted and fails on the Mirror; a second one follows it. -/
def moves (second : String) (calls : Nat) : List (Move DemoActionRequest) :=
  Move.request 0 (request "act-1") 19 ++ Move.request 1 (request second) calls

/-- The sub-step a request is about to submit. -/
def submitting (s : ActPool) (n : Nat) : Option JsString :=
  match s.threads n with
  | some (.call (.submit _ subStep) _) => some subStep
  | _ => none

theorem submits_of_submitting {s : ActPool} {n : Nat} {subStep : JsString} (h : submitting s n = some subStep) :
    ∃ actionId k, s.threads n = some (.call (.submit actionId subStep) k) := by
  unfold submitting at h
  split at h
  · next actionId subStep' k hn =>
    cases h
    exact ⟨actionId, k, hn⟩
  · cases h

/-- A reservation finds the receipts of its action under its id, and a failure its own mark. -/
def resumes (s : ActPool) : ActLabel → Bool
  | .call _ (.mutate _ (.reserve request _)) _ =>
    s.shared.session.steps.all fun step =>
      !step.receiptStatusSuccess || step.action ≠ request.action || step.actionId = request.actionId
  | .call _ (.mutate _ (.fail request _)) _ => s.shared.session.inFlightActionId = some request.actionId
  | _ => true

theorem resumed_of_resumes {s : ActPool} {n : Nat} {op : DemoOp} {r : op.Ans} (h : resumes s (.call n op r) = true) :
    Resumed sid s.shared op := by
  cases op with
  | mutate id change =>
    cases change with
    | reserve request identityHash =>
      intro _ _ _ step hmem hreceipt haction
      have hstep := List.all_eq_true.mp h step hmem
      simpa [hreceipt, haction] using hstep
    | fail request error => exact fun _ => .inr (of_decide_eq_true h)
    | _ => trivial
  | _ => trivial

theorem resumed_run_of_played {moves : List (Move DemoActionRequest)} {ls : List ActLabel} {s : ActPool}
    (h : played resumes moves = some (ls, s)) : (resumedSystem deps sid).Run ls s := by
  refine (run_of_played h).restrict_mono ?_
  intro s l hl
  cases l with
  | call n op r => exact resumed_of_resumes hl
  | _ => trivial

/-- A request that is about to ask the Mirror, and for which transaction. -/
def verifying (s : ActPool) (n : Nat) : Option (JsString × JsString) :=
  match s.threads n with
  | some (.call (.verifyOnMirror _ subStep transactionId) _) => some (subStep, transactionId)
  | _ => none

end Delayed

/-! ## The result -/

/-- **Receipts are not submitted again.** Where every action is taken up again under the id of its receipts and no
failure clears the mark of another action, no call submits a sub-step whose receipt the session has held before; the
transactions that are verified are recorded ones, and recorded transactions stay. -/
theorem receipts_kept (deps : DemoDeps) (sid : JsString) {ls ls' : List ActLabel} {s t : ActPool}
    (hrun : (resumedSystem deps sid).Run ls s) (hsteps : (resumedSystem deps sid).Steps s ls' t) :
    (∀ step ∈ s.shared.session.steps, step.receiptStatusSuccess = true → ∀ n actionId k,
      t.threads n ≠ some (.call (.submit actionId step.subStep) k)) ∧
    (∀ n actionId subStep transactionId k,
      t.threads n = some (.call (.verifyOnMirror actionId subStep transactionId) k) →
        ∃ step ∈ t.shared.session.steps, step.subStep = subStep ∧ step.receiptStatusSuccess = true ∧
          step.publicTransactionId = some transactionId) ∧
    ∀ (i : Nat) (step : DemoStepRecord) (transactionId : JsString), s.shared.session.steps[i]? = some step →
      step.publicTransactionId = some transactionId →
        ∃ step', t.shared.session.steps[i]? = some step' ∧ step'.actionId = step.actionId ∧
          step'.subStep = step.subStep ∧ step'.publicTransactionId = some transactionId := by
  have hkeeps := keeps_of_steps hrun hsteps
  have hrun' := hrun.append hsteps
  have hrecorded := recorded_of_run hrun'
  have hwatched := live_watched_of_run hrun'
  refine ⟨?_, ?_, ?_⟩
  · intro step hmem hreceipt n actionId k hn
    obtain ⟨⟨request, hacting, rfl, hsub⟩, read, hread, hnone⟩ := hwatched.ok hn
    obtain ⟨i, hi⟩ := List.getElem?_of_mem hmem
    obtain ⟨step', hi', hbecomes⟩ := hkeeps i step hi
    have hmem' : step' ∈ t.shared.session.steps := List.mem_of_getElem? hi'
    have haction : step'.action = request.action :=
      liveSubSteps_injective (hbecomes.subStep ▸ (hrecorded.keyed step' hmem').subStep) hsub
    have hid := hrecorded.takenUp n request hacting step' hmem' (hbecomes.receipt hreceipt) haction
    -- the call has found this very receipt missing
    have hmissing := findSuccessfulReceipt_eq_none.mp (hrecorded.unrecorded n request read hacting hread _ hnone)
    have hfalse := hmissing step' hmem' hid hbecomes.subStep
    rw [hbecomes.receipt hreceipt] at hfalse
    cases hfalse
  · intro n actionId subStep transactionId k hn
    obtain ⟨read, hread, step, hmem, hsub, hreceipt, htransaction⟩ := hwatched.ok hn
    obtain ⟨i, hi⟩ := List.getElem?_of_mem hmem
    obtain ⟨step', hi', hbecomes⟩ := hrecorded.kept n read hread i step hi
    exact ⟨step', List.mem_of_getElem? hi', hbecomes.subStep.trans hsub, hbecomes.receipt hreceipt,
      hbecomes.transaction transactionId htransaction⟩
  · intro i step transactionId hi htransaction
    obtain ⟨step', hi', hbecomes⟩ := hkeeps i step hi
    exact ⟨step', hi', hbecomes.actionId, hbecomes.subStep, hbecomes.transaction transactionId htransaction⟩

theorem receipts_kept_delayed :
    ∃ ls s, (resumedSystem Delayed.deps Delayed.sid).Run ls s ∧
      Delayed.verifying s 1 = some (js "register-tender", js "0.0.9197513@100.1") ∧
      ∃ step ∈ s.shared.session.steps, step.subStep = js "register-tender" ∧
        step.publicTransactionId = some (js "0.0.9197513@100.1") := by
  have hplay : ∃ r ∈ Delayed.played Delayed.resumes (Delayed.moves "act-1" 6),
      Delayed.verifying r.2 1 = some (js "register-tender", js "0.0.9197513@100.1") := by
    decide
  obtain ⟨⟨ls, s⟩, hr, hverifying⟩ := hplay
  have hrun := Delayed.resumed_run_of_played hr
  refine ⟨ls, s, hrun, hverifying, ?_⟩
  have hresult := (receipts_kept Delayed.deps Delayed.sid hrun (.nil s)).2.1
  unfold Delayed.verifying at hverifying
  split at hverifying
  · next actionId subStep transactionId k hn =>
    cases hverifying
    obtain ⟨step, hmem, hsub, -, htransaction⟩ := hresult _ _ _ _ _ hn
    exact ⟨step, hmem, hsub, htransaction⟩
  · cases hverifying

/-- After a failure on the Mirror the action is taken up again under another id. The session holds the receipt of its
first sub-step, and the sub-step is submitted again. -/
theorem submitted_again :
    ∃ ls s, (liveSystem Delayed.deps Delayed.sid).Run ls s ∧
      ∃ step ∈ s.shared.session.steps, step.receiptStatusSuccess = true ∧
        ∃ n actionId k, s.threads n = some (.call (.submit actionId step.subStep) k) := by
  have hplay : ∃ r ∈ Delayed.played (fun _ _ => true) (Delayed.moves "act-2" 10),
      ∃ step ∈ r.2.shared.session.steps, step.receiptStatusSuccess = true ∧
        Delayed.submitting r.2 1 = some step.subStep := by
    decide
  obtain ⟨⟨ls, s⟩, hr, step, hmem, hreceipt, hsubmitting⟩ := hplay
  exact ⟨ls, s, (Delayed.run_of_played hr).of_restrict, step, hmem, hreceipt, 1, Delayed.submits_of_submitting hsubmitting⟩

end RouteGuard.Demo
