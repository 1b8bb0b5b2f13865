import RouteGuard.Demo.Receipts
import RouteGuard.Demo.TerminalStates

/-!
# Expired sessions that hold money

An expired session is flagged by its confirmed state, through a list that leaves two states out. Money is told by the
locked amount, and by receipts that come before the state is confirmed.

* `holdsMoney`, `overlooked` : the money of a session, and where the list misses it;
* `Flagged` : the invariant of a session, `flagged_of_apply` : what every callback keeps of it;
* `Noticed` : the condition on the steps;
* `expired_money_flagged` : the result; `expired_money_unflagged` : a run of one live session that is not flagged.
-/

namespace RouteGuard.Demo
open JsString Json Guarded

/-! ## Money -/

namespace OperationsDemoSession
variable (session : OperationsDemoSession)

/-- A step of the name has a receipt. -/
def hasReceipt (subStep : JsString) : Bool :=
  session.steps.any fun step => step.subStep = subStep && step.receiptStatusSuccess

/-- The escrow is funded by a receipt, and not released by one. -/
def fundedByReceipt : Bool := session.hasReceipt (js "fund-escrow") && !session.hasReceipt (js "release-full")

def holdsMoney : Bool := session.lockedAmountAtomic ≠ js "0" || session.fundedByReceipt

/-- The money that the list of confirmed states misses: an amount locked in one of the two states it leaves out, or the
receipt of a funding that is not confirmed. -/
def overlooked : Bool :=
  session.lockedAmountAtomic ≠ js "0" && session.lastConfirmedState ∈ [.accessActivated, .offerAccepted] ||
    session.fundedByReceipt && !session.financial

end OperationsDemoSession

/-- The write gives a step of the name its receipt. -/
def JournalChange.receipts (subStep : JsString) : JournalChange → Bool
  | .plan planned => planned.subStep = subStep && planned.receiptStatusSuccess
  | .receipt _ receipted _ _ => receipted = subStep
  | _ => false

section Receipts
variable {sha256Hex : JsString → JsString} {clock : Clock} {session next : OperationsDemoSession}

theorem any_set {α : Type} {p : α → Bool} {l : List α} {i : Nat} {a b : α} (hi : l[i]? = some a)
    (h : p a = true → p b = true) : (l.set i b).any p = (l.any p || p b) := by
  induction l generalizing i with
  | nil => cases hi
  | cons x l ih =>
    cases i with
    | zero =>
      cases hi
      rw [List.set_cons_zero, List.any_cons, List.any_cons]
      cases ha : p a with
      | false => rw [Bool.false_or, Bool.or_comm]
      | true => rw [h ha, Bool.true_or, Bool.or_true]
    | succ i =>
      rw [List.set_cons_succ, List.any_cons, List.any_cons, ih hi, Bool.or_assoc]

/-- A write of the journal adds the receipts it gives, and takes none away. -/
theorem hasReceipt_journal {change : JournalChange} (h : change.apply sha256Hex clock session = .ok next)
    (subStep : JsString) : next.hasReceipt subStep = (session.hasReceipt subStep || change.receipts subStep) := by
  cases change with
  | progress actionId stage =>
    simp only [JournalChange.apply, journalProgress, bind_eq_ok, require_eq_ok, exists_const, pure_eq_ok] at h
    obtain ⟨-, rfl⟩ := h
    exact (Bool.or_false _).symm
  | plan planned =>
    cases h
    show List.any (session.steps ++ [planned]) _ = _
    rw [List.any_append, List.any_cons, List.any_nil, Bool.or_false]
    rfl
  | receipt actionId receipted transactionId hcsSequence =>
    obtain ⟨i, step, evidenceHash, time, hi, -, hsub, hsteps⟩ := journalReceipt_ok h
    show List.any next.steps _ = _
    rw [hsteps, any_set hi (fun hstep => ?_)]
    · show _ = (_ || decide (receipted = subStep))
      simp [DemoStepRecord.receipted, OperationsDemoSession.hasReceipt, hsub]
    · simp only [Bool.and_eq_true, decide_eq_true_eq] at hstep
      simp [DemoStepRecord.receipted, hstep.1]
  | verify actionId verified evidenceHash hcsSequence =>
    obtain ⟨i, step, step', hi, hreceipt, hbecomes, -, hsteps⟩ := journalVerify_ok h
    have hsame : (decide (step'.subStep = subStep) && step'.receiptStatusSuccess) =
        (decide (step.subStep = subStep) && step.receiptStatusSuccess) := by
      rw [hbecomes.subStep, hbecomes.receipt hreceipt, hreceipt]
    show List.any next.steps _ = (_ || false)
    rw [hsteps, any_set hi (fun hstep => hsame.trans hstep), Bool.or_false, hsame]
    -- the step that is verified has its receipt already
    refine Bool.or_eq_left_iff_imp.mpr fun hstep => ?_
    exact List.any_eq_true.mpr ⟨step, List.mem_of_getElem? hi, hstep⟩

end Receipts

/-! ## The invariant of a session -/

/-- The confirmed state is one of the chain, no amount is locked before the escrow is funded or after the release, and an
expired session is flagged as the list says, which does not miss its money. -/
structure Flagged (session : OperationsDemoSession) : Prop where
  confirmed : session.lastConfirmedState ∈ workflowChain
  locked : session.lastConfirmedState ∈ [.created, .completed] → session.lockedAmountAtomic = js "0"
  flag : session.workflowState = .expired →
    session.operatorRecoveryRequired = session.financial ∧ session.recoverableError = recoveryRequired session.financial
  listed : session.workflowState = .expired → session.holdsMoney = true → session.financial = true

theorem financial_of_holdsMoney {session : OperationsDemoSession} (hconfirmed : session.lastConfirmedState ∈ workflowChain)
    (hlocked : session.lastConfirmedState ∈ [.created, .completed] → session.lockedAmountAtomic = js "0")
    (hseen : session.overlooked = false) (hmoney : session.holdsMoney = true) : session.financial = true := by
  simp only [OperationsDemoSession.overlooked, Bool.or_eq_false_iff, Bool.and_eq_false_iff] at hseen
  rcases Bool.or_eq_true_iff.mp hmoney with hmoney | hreceipt
  · have hamount : session.lockedAmountAtomic ≠ js "0" := of_decide_eq_true hmoney
    have hout := hseen.1.resolve_left (by simp [hamount])
    have hnone := mt hlocked hamount
    revert hout hnone hconfirmed
    rw [OperationsDemoSession.financial]
    cases session.lastConfirmedState <;> decide
  · simpa [hreceipt] using hseen.2

/-- A session is expired where the list sees its money, and an expired one gets a receipt of its funding where the list has
its confirmed state. -/
def Noticed (current : OperationsDemoSession) : SessionChange → Prop
  | .expire => current.overlooked = false
  | .journal change =>
    current.workflowState = .expired → change.receipts (js "fund-escrow") = true →
      current.hasReceipt (js "release-full") = false → current.financial = true
  | _ => True

section Apply
variable {sha256Hex : JsString → JsString} {config : OperationsDemoConfig} {clock : Clock} {change : SessionChange}
  {current next : OperationsDemoSession} {sessionId : JsString}

/-- A write that leaves the fields of the invariant as they are. -/
theorem Flagged.of_same (h : Flagged current) (hstate : next.workflowState = current.workflowState)
    (hconfirmed : next.lastConfirmedState = current.lastConfirmedState)
    (hlocked : next.lockedAmountAtomic = current.lockedAmountAtomic)
    (hrequired : next.operatorRecoveryRequired = current.operatorRecoveryRequired)
    (herror : next.recoverableError = current.recoverableError)
    (hmoney : current.workflowState = .expired → next.fundedByReceipt = true →
      current.fundedByReceipt = true ∨ current.financial = true) : Flagged next := by
  have hfinancial : next.financial = current.financial := by
    rw [OperationsDemoSession.financial, hconfirmed]
    rfl
  refine ⟨hconfirmed ▸ h.confirmed, ?_, ?_, ?_⟩
  · rw [hconfirmed, hlocked]
    exact h.locked
  · rw [hstate, hrequired, herror, hfinancial]
    exact h.flag
  · rw [hstate, hfinancial, OperationsDemoSession.holdsMoney, hlocked]
    intro hexpired hholds
    rcases Bool.or_eq_true_iff.mp hholds with hamount | hreceipt
    · exact h.listed hexpired (Bool.or_eq_true_iff.mpr (.inl hamount))
    · rcases hmoney hexpired hreceipt with hreceipt | hlisted
      · exact h.listed hexpired (Bool.or_eq_true_iff.mpr (.inr hreceipt))
      · exact hlisted

/-- A session that has just expired. -/
theorem Flagged.of_expired (h : Flagged current) (hseen : current.overlooked = false)
    (hstate : next.lastConfirmedState = current.lastConfirmedState)
    (hlocked : next.lockedAmountAtomic = current.lockedAmountAtomic) (hsteps : next.steps = current.steps)
    (hrequired : next.operatorRecoveryRequired = current.financial)
    (herror : next.recoverableError = recoveryRequired current.financial) : Flagged next := by
  have hfinancial : next.financial = current.financial := by
    rw [OperationsDemoSession.financial, hstate]
    rfl
  have hholds : next.holdsMoney = current.holdsMoney := by
    simp only [OperationsDemoSession.holdsMoney, OperationsDemoSession.fundedByReceipt, OperationsDemoSession.hasReceipt,
      hlocked, hsteps]
  refine ⟨hstate ▸ h.confirmed, ?_, ?_, ?_⟩
  · rw [hstate, hlocked]
    exact h.locked
  · rw [hrequired, herror, hfinancial]
    exact fun _ => ⟨rfl, rfl⟩
  · rw [hholds, hfinancial]
    exact fun _ => financial_of_holdsMoney h.confirmed h.locked hseen

/-- A session that is not expired. -/
theorem Flagged.of_unexpired (hstate : next.workflowState ≠ .expired) (hconfirmed : next.lastConfirmedState ∈ workflowChain)
    (hlocked : next.lastConfirmedState ∈ [.created, .completed] → next.lockedAmountAtomic = js "0") : Flagged next :=
  ⟨hconfirmed, hlocked, fun h => absurd h hstate, fun h => absurd h hstate⟩

theorem target_of_transition {action : DemoAction} {source target : DemoWorkflowState}
    (h : ACTION_TRANSITIONS action = some (source, target)) :
    target ∈ workflowChain ∧ target ≠ .created ∧ target ≠ .expired := by
  cases action <;> cases h <;> decide

/-- A commit locks what its state locks. -/
theorem commitAction_locked {request : DemoActionRequest} {identityHash : JsString} {intendedState : DemoWorkflowState}
    {executed : AdapterActionResult}
    (h : commitAction config clock request identityHash intendedState executed current = .ok next) :
    next.lockedAmountAtomic = (escrowAfter current intendedState).2 := by
  simp only [commitAction, bind_eq_ok, require_eq_ok, exists_const, pure_eq_ok] at h
  obtain ⟨-, -, rfl⟩ := h
  rfl

theorem flagged_of_apply (h : change.apply sha256Hex config clock current = .ok next) (hflagged : Flagged current)
    (hnoticed : Noticed current change) (hok : callWatch.ok () (.mutate sessionId change)) : Flagged next := by
  cases change with
  | expire =>
    cases h
    exact hflagged.of_expired hnoticed rfl rfl rfl rfl rfl
  | reserve request identityHash =>
    rcases reserveAction_ok h with ⟨_, -, -, rfl⟩ | ⟨-, -, rfl⟩
    · exact hflagged.of_same rfl rfl rfl rfl rfl fun _ hreceipt => .inl hreceipt
    · exact hflagged.of_same rfl rfl rfl rfl rfl fun _ hreceipt => .inl hreceipt
  | commit request identityHash intendedState executed =>
    obtain ⟨source, hsource⟩ := hok
    obtain ⟨hchain, hcreated, hexpired⟩ := target_of_transition hsource
    obtain ⟨-, -, hstate, hconfirmed, -⟩ := commitAction_ok h
    refine .of_unexpired (hstate ▸ hexpired) (hconfirmed ▸ hchain) ?_
    rw [hconfirmed, commitAction_locked h]
    intro hstart
    obtain rfl : intendedState = .completed := by simpa [hcreated] using hstart
    rfl
  | fail request error =>
    cases h
    refine .of_unexpired ?_ hflagged.confirmed hflagged.locked
    show (if recoverable request current = true then current.lastConfirmedState else .failed) ≠ .expired
    split
    · intro hexpired
      have hconfirmed := hflagged.confirmed
      rw [hexpired] at hconfirmed
      revert hconfirmed
      decide
    · decide
  | journal change =>
    have hframe := journal_frame h
    refine hflagged.of_same ?_ ?_ ?_ ?_ ?_ ?_
    · rw [hframe]
    · rw [hframe]
    · rw [hframe]
    · rw [hframe]
    · rw [hframe]
    · intro hexpired hreceipt
      simp only [OperationsDemoSession.fundedByReceipt, hasReceipt_journal h, Bool.and_eq_true, Bool.or_eq_true,
        Bool.not_eq_true', Bool.or_eq_false_iff] at hreceipt
      obtain ⟨hfunded | hfunding, hrelease, -⟩ := hreceipt
      · exact .inl (by rw [OperationsDemoSession.fundedByReceipt, hfunded, hrelease]; rfl)
      · exact .inr (hnoticed hexpired hfunding hrelease)

end Apply

/-! ## The calls of a client -/

/-- A session that is mutated or created meets the invariant, as long as the sessions that are read do. -/
def flagWatch : Monitor Unit StageOp StageOp.Ans where
  start := ()
  next _ _ _ := ()
  may op r :=
    match op, r with
    | .begin _, .ok (_, _, current) => Flagged current
    | _, _ => True
  ok _ op :=
    match op with
    | .finish _ sessionId change _ current => Flagged current ∧ callWatch.ok () (.mutate sessionId change)
    | .create _ session => Flagged session
    | _ => True

section Follows
variable (deps : DemoDeps) (proof : ReplayProof)

theorem flagged_of_created (mode : DemoMode) (sid : JsString) (now eventTime : Int) (budget : WriteBudgetSnapshot)
    (evidence : List JsString) : Flagged (createdSession deps proof mode sid now eventTime budget evidence) := by
  unfold createdSession
  split
  · exact .of_unexpired (show DemoWorkflowState.completed ≠ .expired by decide)
      (show DemoWorkflowState.completed ∈ workflowChain by decide) fun _ => rfl
  · exact .of_unexpired (show DemoWorkflowState.created ≠ .expired by decide)
      (show DemoWorkflowState.created ∈ workflowChain by decide) fun _ => rfl

theorem stage_follows_flagWatch (op : DemoOp) (hok : (createWatch Flagged).ok () op) :
    (stage op).Follows flagWatch (fun _ r => (createWatch Flagged).may op r) () := by
  cases op with
  | mutate sessionId change =>
    refine ⟨trivial, fun r hr => ?_⟩
    cases r with
    | error e => trivial
    | ok found => exact ⟨⟨hr, hok⟩, fun _ _ => trivial⟩
  | create session => exact ⟨trivial, fun _ _ => ⟨hok, fun _ _ => trivial⟩⟩
  | activeLive => exact ⟨trivial, fun _ _ => ⟨trivial, fun _ _ => trivial⟩⟩
  | _ => exact ⟨trivial, fun _ _ => trivial⟩

theorem staged_follows_flagWatch (call : DemoCall) :
    ((serve deps proof anyAdapter call).run.handle stage).Follows flagWatch (fun _ _ => True) () := by
  refine Prog.Follows.handle (N := createWatch Flagged) ?_
    (serve_follows deps proof
      (fun mode sid now eventTime budget evidence _ => flagged_of_created deps proof mode sid now eventTime budget evidence)
      call)
  intro _ op hok
  exact Prog.Follows.mono (stage_follows_flagWatch op hok) fun _ _ hmay => ⟨rfl, hmay⟩

end Follows

/-! ## Runs -/

/-- A session expires where the list sees its money, and an expired one gets no receipt of a funding it does not see. -/
def NoticedStep (s : StagePool) : StageLabel → Prop
  | .call _ (.finish _ _ change _ current) _ => Noticed current change
  | .call _ (.create clock session) _ =>
    session.mode = .live → ∀ id found, Lapsed s.shared (clock 0) id found → found.overlooked = false
  | .call _ (.activeLive clock) _ => ∀ id found, Lapsed s.shared (clock 0) id found → found.overlooked = false
  | _ => True

/-- Every session on disk meets the invariant. -/
def AllFlagged (d : Disk) : Prop := ∀ id session, d.sessions id = some session → Flagged session

section Runs
variable {deps : DemoDeps} {proof : ReplayProof} {d d' : Disk} {ls : List StageLabel} {s t : StagePool} {l : StageLabel}

theorem AllFlagged.ofSessions : OfSessions AllFlagged := fun _ _ h => h

theorem AllFlagged.write (h : AllFlagged d) {session : OperationsDemoSession} (hsession : Flagged session) :
    AllFlagged (d.writeSession session) := by
  intro id found hfound
  rcases Disk.sessions_of_writeSession hfound with ⟨-, rfl⟩ | ⟨-, hfound⟩
  · exact hsession
  · exact h id found hfound

theorem AllFlagged.of_sessions (h : AllFlagged d) (hsessions : d'.sessions = d.sessions) : AllFlagged d' := by
  intro id session hfound
  rw [hsessions] at hfound
  exact h id session hfound

/-- A session that lapses is flagged. -/
theorem AllFlagged.expire (h : AllFlagged d) {id : JsString} {session : OperationsDemoSession} {now now' : Int}
    (hlapsed : Lapsed d now id session) (hseen : session.overlooked = false) :
    AllFlagged (d.writeSession (expireActive now' session)) :=
  h.write ((h id session hlapsed.found).of_expired hseen rfl rfl rfl rfl rfl)

theorem AllFlagged.effect (h : AllFlagged s.shared) {n : Nat} {op : StageOp} {r : op.Ans}
    (heffect : StageEffect deps s.shared op r d) (hok : flagWatch.ok () op) (hnoticed : NoticedStep s (.call n op r)) :
    AllFlagged d := by
  cases op with
  | demo op =>
    cases op with
    | get sessionId =>
      rw [heffect.1]
      exact h
    | _ =>
      rw [show d = s.shared from heffect]
      exact h
  | clock =>
    rw [show d = s.shared from heffect]
    exact h
  | begin sessionId =>
    rcases heffect with ⟨token, clock, current, -, -, rfl⟩ | ⟨-, rfl⟩
    · exact h.of_sessions rfl
    · exact h
  | finish token sessionId change clock current =>
    obtain ⟨d₁, hpiece, rfl⟩ := heffect
    refine AllFlagged.of_sessions (hpiece.along (finishMutate_keeps h AllFlagged.ofSessions ?_)) (by simp)
    intro next happly
    exact h.write (flagged_of_apply happly hok.1 hnoticed hok.2)
  | create clock session =>
    refine Piece.along heffect (createLocked_keeps h AllFlagged.ofSessions ?_ (fun _ h => h) ?_)
    · intro hmode id found now hlapsed
      exact h.expire hlapsed (hnoticed hmode id found hlapsed)
    · intro _ d₁ h₁
      exact h₁.write hok
  | activeLive clock =>
    refine Piece.along heffect (activeLive_keeps h AllFlagged.ofSessions ?_)
    intro id found now hlapsed
    exact h.expire hlapsed (hnoticed id found hlapsed)

/-- The calls in flight keep to the monitor, and the files to the invariant. -/
theorem flagged_of_run (h : ((stageSystem deps proof).restrict NoticedStep).Run ls s) :
    flagWatch.Watched (fun _ _ => True) ls s ∧ AllFlagged s.shared := by
  refine System.Run.induction (S := (stageSystem deps proof).restrict NoticedStep)
    (I := fun ls s => flagWatch.Watched (fun _ _ => True) ls s ∧ AllFlagged s.shared) ?_ ?_ h
  · rintro s ⟨hempty, hthreads⟩
    refine ⟨?_, ?_⟩
    · intro n p hp
      rw [hthreads] at hp
      cases hp
    · intro id session hfound
      rw [show s.shared = Disk.empty from hempty] at hfound
      cases hfound
  · rintro ls s l t - ⟨hwatched, hflagged⟩ ⟨⟨hstep, -⟩, hnoticed⟩
    refine ⟨hwatched.step (staged_follows_flagWatch deps proof) hstep ?_, ?_⟩
    · rintro n op r rfl
      cases hstep with
      | call hn heffect =>
        cases op with
        | begin sessionId =>
          rcases heffect with ⟨token, clock, current, rfl, hcurrent, -⟩ | ⟨⟨e, rfl⟩, -⟩
          · exact hflagged sessionId current hcurrent
          · trivial
        | _ => trivial
    · cases hstep with
      | start hn => exact hflagged
      | call hn heffect => exact hflagged.effect heffect (hwatched.ok hn) hnoticed
      | lost => exact hflagged

end Runs

/-! ## A live session that is left alone -/

namespace Abandoned

/-- Sixteen minutes have passed once the state is confirmed. -/
def time (late : DemoWorkflowState) (d : Disk) : Int :=
  if (d.sessions Outlasted.first).any fun session => session.lastConfirmedState = late then 960000 else 0

def request (action : DemoAction) (actionId : String) : DemoActionRequest :=
  ⟨action, js actionId, js "idempotency-1", .obj []⟩

def transactionId (subStep : JsString) : JsString := js "0.0.9197513@100." ++ subStep

/-- What a sub-step writes to the journal when nothing fails. -/
def subStepWork (request : DemoActionRequest) (session : OperationsDemoSession) (intendedState : DemoWorkflowState)
    (subStep : JsString) : List JournalChange :=
  let hash (value : Json) := canonicalSha256 Outlasted.deps.sha256Hex value
  [.plan
      { action := request.action, actionId := request.actionId, idempotencyKeyHash := hash (.str request.idempotencyKey),
        payloadHash := hash request.payload, expectedPreviousState := session.lastConfirmedState,
        intendedNextState := intendedState, subStep := subStep, status := .planned, publicTransactionId := none,
        receiptStatusSuccess := false, verificationStatus := none, hcsSequence := none, safeEvidenceHash := none,
        createdAt := 0, updatedAt := 0 },
    .progress request.actionId .signing, .progress request.actionId .submitting,
    .receipt request.actionId subStep (transactionId subStep) none,
    .progress request.actionId .verifyingThroughMirror,
    .verify request.actionId subStep (hash (.str (transactionId subStep))) none]

/-- A live action whose sub-steps are submitted and verified. -/
def execution (session : OperationsDemoSession) (request : DemoActionRequest) (intendedState : DemoWorkflowState) :
    List JournalChange × Except DemoThrown AdapterActionResult :=
  let subSteps := liveSubSteps request.action
  (subSteps.flatMap (subStepWork request session intendedState),
    .ok
      { steps := [], transactions := subSteps.map fun subStep => transactionRef request.action (transactionId subStep),
        hcsSequences := [], evidenceHashes := [], writes := 0 })

/-- A store and an adapter that do not fail, and do the work of the action. -/
def answer (late : DemoWorkflowState) (d : Disk) : (op : StageOp) → Option (op.Ans × Disk)
  | .demo (.execute session request intendedState _) => some (execution session request intendedState, d)
  | op => Outlasted.answer (time late) d op

theorem answer_effect (late : DemoWorkflowState) (d : Disk) (op : StageOp) (r : op.Ans × Disk)
    (h : answer late d op = some r) : StageEffect Outlasted.deps d op r.1 r.2 := by
  cases op with
  | demo op =>
    cases op with
    | execute =>
      cases h
      rfl
    | _ => exact @Outlasted.answer_effect (time late) d _ r h
  | _ => exact @Outlasted.answer_effect (time late) d _ r h

def played (late : DemoWorkflowState) (check : StagePool → StageLabel → Bool) (moves : List (Move DemoCall)) :
    Option (List StageLabel × StagePool) :=
  Pool.play (fun call => (serve Outlasted.deps Outlasted.proof anyAdapter call).run.handle stage) (answer late) check moves
    Outlasted.start

theorem run_of_played {late : DemoWorkflowState} {check : StagePool → StageLabel → Bool}
    {C : StagePool → StageLabel → Prop} (hcheck : ∀ s l, check s l = true → Outlasted.takesFree s l = true ∧ C s l)
    {moves : List (Move DemoCall)} {ls : List StageLabel} {s : StagePool} (h : played late check moves = some (ls, s)) :
    ((stageSystem Outlasted.deps Outlasted.proof).restrict C).Run ls s := by
  refine ⟨Outlasted.start, ⟨rfl, rfl⟩, System.Steps.mono ?_ (steps_of_play (answer_effect late) (· = Disk.empty) h)⟩
  rintro s l t ⟨hstep, hl⟩
  obtain ⟨hfree, hc⟩ := hcheck s l hl
  exact ⟨⟨hstep, Outlasted.takesFree_sound hfree⟩, hc⟩

/-- The escrow is funded, and the session is read. -/
def funded : List (Move DemoCall) :=
  Outlasted.creation .live 0 ++ Move.request 1 (.act Outlasted.first (request .fundEscrow "act-1")) 43 ++ [Move.lost 1]

/-- The tender is opened too. -/
def opened : List (Move DemoCall) :=
  funded ++ Move.request 1 (.act Outlasted.first (request .openTender "act-2")) 19 ++ [Move.lost 1]

def read : List (Move DemoCall) := Move.request 1 (.getSession Outlasted.first) 4

/-- The list sees the money of every session that expires. -/
def noticed (s : StagePool) : StageLabel → Bool
  | .call _ (.finish _ _ .expire _ current) _ => !current.overlooked
  | .call _ (.finish _ _ (.journal _) _ current) _ => current.workflowState ≠ .expired
  | .call _ (.create clock _) _ => s.shared.active.all fun record => clock 0 < record.expiresAt
  | .call _ (.activeLive _) _ => false
  | _ => true

theorem noticedStep_of_noticed {s : StagePool} {l : StageLabel}
    (h : (Outlasted.takesFree s l && noticed s l) = true) : Outlasted.takesFree s l = true ∧ NoticedStep s l := by
  rw [Bool.and_eq_true] at h
  refine ⟨h.1, ?_⟩
  have hnoticed := h.2
  cases l with
  | call n op r =>
    cases op with
    | finish token sessionId change clock current =>
      cases change with
      | expire => exact (Bool.not_eq_true' _).mp hnoticed
      | journal change => exact fun hexpired => absurd hexpired (of_decide_eq_true hnoticed)
      | _ => trivial
    | create clock session =>
      rintro - id found ⟨⟨record, hrecord, -, hexpired⟩, -, -⟩
      have hall : s.shared.active.all (fun record => clock 0 < record.expiresAt) = true := hnoticed
      rw [hrecord] at hall
      exact absurd (of_decide_eq_true hall) (not_lt.mpr hexpired)
    | activeLive clock => cases hnoticed
    | _ => trivial
  | _ => trivial

/-- The first session, with its confirmed state, has expired and holds money; the flag, and the code of its error. -/
def expiry (s : StagePool) : Option (DemoWorkflowState × Bool × Option JsString) :=
  ((s.shared.sessions Outlasted.first).filter fun session =>
    session.workflowState = .expired && session.holdsMoney).map fun session =>
      (session.lastConfirmedState, session.operatorRecoveryRequired, session.recoverableError.map RecoverableError.code)

theorem session_of_expiry {s : StagePool} {r : DemoWorkflowState × Bool × Option JsString} (h : expiry s = some r) :
    ∃ session, s.shared.sessions Outlasted.first = some session ∧ session.workflowState = .expired ∧
      session.holdsMoney = true ∧ session.lastConfirmedState = r.1 ∧ session.operatorRecoveryRequired = r.2.1 ∧
      session.recoverableError.map RecoverableError.code = r.2.2 := by
  obtain ⟨session, hfilter, rfl⟩ := Option.map_eq_some_iff.mp h
  obtain ⟨hsession, hexpired⟩ := Option.filter_eq_some_iff.mp hfilter
  rw [Bool.and_eq_true, decide_eq_true_eq] at hexpired
  exact ⟨session, hsession, hexpired.1, hexpired.2, rfl, rfl, rfl⟩

end Abandoned

/-! ## The result -/

/-- **Expired money is flagged.** Where no session expires with money that the list of confirmed states misses, and no
expired one gets the receipt of a funding that it misses, every expired session that holds money is marked for operator
recovery, and says so in its error. -/
theorem expired_money_flagged (deps : DemoDeps) (proof : ReplayProof) {ls : List StageLabel} {s : StagePool}
    (h : ((stageSystem deps proof).restrict NoticedStep).Run ls s) {id : JsString} {session : OperationsDemoSession}
    (hsession : s.shared.sessions id = some session) (hexpired : session.workflowState = .expired)
    (hmoney : session.holdsMoney = true) :
    session.operatorRecoveryRequired = true ∧
      session.recoverableError.map RecoverableError.code = some DemoErrorCode.demoOperatorRecoveryRequired.text := by
  have hflagged := (flagged_of_run h).2 id session hsession
  have hfinancial := hflagged.listed hexpired hmoney
  obtain ⟨hrequired, herror⟩ := hflagged.flag hexpired
  rw [hrequired, herror, hfinancial]
  exact ⟨rfl, rfl⟩

/-- A live session whose escrow is funded, and which expires then. -/
theorem expired_money_flagged_funded :
    ∃ ls s session, ((stageSystem Outlasted.deps Outlasted.proof).restrict NoticedStep).Run ls s ∧
      s.shared.sessions Outlasted.first = some session ∧ session.workflowState = .expired ∧ session.holdsMoney = true ∧
      session.operatorRecoveryRequired = true := by
  have hplay : ∃ r ∈ Abandoned.played .escrowFunded (fun s l => Outlasted.takesFree s l && Abandoned.noticed s l)
      (Abandoned.funded ++ Abandoned.read), (Abandoned.expiry r.2).isSome = true := by
    decide
  obtain ⟨⟨ls, s⟩, hr, hexpiry⟩ := hplay
  obtain ⟨found, hfound⟩ := Option.isSome_iff_exists.mp hexpiry
  obtain ⟨session, hsession, hexpired, hmoney, -⟩ := Abandoned.session_of_expiry hfound
  have hrun := Abandoned.run_of_played (C := NoticedStep) (fun _ _ => Abandoned.noticedStep_of_noticed) hr
  exact ⟨ls, s, session, hrun, hsession, hexpired, hmoney,
    (expired_money_flagged Outlasted.deps Outlasted.proof hrun hsession hexpired hmoney).1⟩

/-- A live session whose escrow is funded and whose tender is open expires when it is read. It holds money, and it is not
flagged. -/
theorem expired_money_unflagged :
    ∃ ls s session, (stageSystem Outlasted.deps Outlasted.proof).Run ls s ∧
      s.shared.sessions Outlasted.first = some session ∧ session.workflowState = .expired ∧ session.holdsMoney = true ∧
      session.lastConfirmedState = .accessActivated ∧ session.operatorRecoveryRequired = false ∧
      session.recoverableError.map RecoverableError.code = none := by
  have hplay : ∃ r ∈ Abandoned.played .accessActivated Outlasted.takesFree (Abandoned.opened ++ Abandoned.read),
      Abandoned.expiry r.2 = some (.accessActivated, false, none) := by
    decide +kernel
  obtain ⟨⟨ls, s⟩, hr, hexpiry⟩ := hplay
  obtain ⟨session, hsession, hexpired, hmoney, hstate, hrequired, herror⟩ := Abandoned.session_of_expiry hexpiry
  have hrun := Abandoned.run_of_played (C := fun _ _ => True) (fun _ _ h => ⟨h, trivial⟩) hr
  exact ⟨ls, s, session, hrun.of_restrict, hsession, hexpired, hmoney, hstate, hrequired, herror⟩

end RouteGuard.Demo
