import RouteGuard.Demo.ActionOrder
import RouteGuard.Demo.LiveSessions

/-!
# Terminal sessions

A session that is completed, expired or aborted stays as it is, and the confirmed state only goes up the chain, as long as
no session expires while an action is in flight, and no action begins, commits or fails on a session that has moved on.

* `callWatch`, `createWatch`, `serve_follows`, `stageWatch` : which commits and which new sessions the calls of a client ask for;
* `Onward` : what one write does to a session;
* `Undisturbed` : the condition on the steps;
* `terminal_sessions_stay` : the result; `expired_session_revived` : a run that is disturbed.
-/

namespace RouteGuard.Demo
open JsString Json Guarded

/-! ## What the calls of a client ask for -/

/-- A commit leads to the state its action leads to, and a new session has no action in flight. -/
def callWatch : Monitor Unit DemoOp DemoOp.Ans where
  start := ()
  next _ _ _ := ()
  may _ _ := True
  ok _ op :=
    match op with
    | .mutate _ (.commit request _ intendedState _) =>
      ∃ source, ACTION_TRANSITIONS request.action = some (source, intendedState)
    | .create session => session.inFlightActionId = none
    | _ => True

/-- The same for the pieces. -/
def stageWatch : Monitor Unit StageOp StageOp.Ans where
  start := ()
  next _ _ _ := ()
  may _ _ := True
  ok _ op :=
    match op with
    | .finish _ sessionId change _ _ => callWatch.ok () (.mutate sessionId change)
    | .create _ session => callWatch.ok () (.create session)
    | _ => True

/-- What is watched of one call of a client, with any demand on a new session. -/
def createWatch (P : OperationsDemoSession → Prop) : Monitor Unit DemoOp DemoOp.Ans where
  start := ()
  next _ _ _ := ()
  may _ _ := True
  ok _ op :=
    match op with
    | .create session => P session
    | _ => callWatch.ok () op

/-- The calls of a creation. -/
def creationWatch (P : OperationsDemoSession → Prop) : Monitor Unit DemoOp DemoOp.Ans :=
  .stateless (fun _ _ => True) fun op =>
    match op with
    | .now | .newIdentity | .dailySuccessfulWrites => True
    | .create session => P session
    | _ => False

section Follows
variable (deps : DemoDeps) (proof : ReplayProof) {P : OperationsDemoSession → Prop} {mode : DemoMode}

/-- What is watched of one call of `act`, whatever the mode of its session. -/
abbrev anyModeWatch (sid : JsString) : Monitor ActPhase DemoOp DemoOp.Ans := actWatch sid fun _ => True

theorem createWatch_of_actWatch {α : Type} {sid : JsString} {x : DemoM α}
    (h : Prog.FollowsM (anyModeWatch sid) (fun _ _ => True) (fun _ _ => True) x .idle) :
    x.run.Follows (createWatch P) (fun _ _ => True) () := by
  refine Prog.Follows.mono (Prog.Follows.coarsen (R := fun _ _ => True) ?_ ?_ (fun _ _ _ _ _ _ => trivial) h.follows
    trivial) fun _ _ _ => trivial
  · intro phase _ op _ hok
    cases op with
    | mutate id change =>
      cases change with
      | commit request identityHash intendedState executed => exact hok.2.2.2
      | _ => trivial
    | create session => exact hok.elim
    | _ => trivial
  · intro op r _
    cases op with
    | get id =>
      cases r with
      | error e => trivial
      | ok found =>
        cases found with
        | none => trivial
        | some session => exact fun _ => trivial
    | mutate id change =>
      cases r with
      | error e => trivial
      | ok session => exact fun _ => trivial
    | _ => trivial

/-- A session as `createSession` stores it. -/
def createdSession (mode : DemoMode) (sid : JsString) (now eventTime : Int) (budget : WriteBudgetSnapshot)
    (evidence : List JsString) : OperationsDemoSession :=
  if mode = .replay then
    replaySession (initialSession deps mode sid now eventTime budget evidence) proof.hcsSequences proof.evidenceHash
  else initialSession deps mode sid now eventTime budget evidence

/-- The budget of a new session. -/
def IsNewBudget (budget : WriteBudgetSnapshot) : Prop :=
  ∃ projected daily, newWriteBudget projected deps.config.maxWritesPerSession daily deps.config.maxWritesPerDay = .ok budget

theorem createSession_follows
    (hP : ∀ sid now eventTime budget evidence, IsNewBudget deps budget →
      P (createdSession deps proof mode sid now eventTime budget evidence)) (adminToken : Option JsString) :
    Prog.FollowsM (creationWatch P) (fun _ _ => True) (fun _ _ => True) (createSession deps proof mode adminToken) () := by
  unfold createSession
  refine Prog.FollowsM.bind (Prog.FollowsM.ofExcept (fun _ _ => ?_) fun _ _ => trivial)
  refine Prog.FollowsM.bind (Prog.FollowsM.lift (Prog.Follows.perform trivial fun now _ => ?_))
  refine Prog.FollowsM.bind (Prog.FollowsM.lift (Prog.Follows.perform trivial fun identity _ => ?_))
  refine Prog.FollowsM.bind (Prog.FollowsM.call (M := creationWatch P) .dailySuccessfulWrites (fun r => r) rfl trivial ?_
    fun _ _ _ _ => trivial)
  intro _ daily _ _
  refine Prog.FollowsM.bind (Prog.FollowsM.ofExcept (fun budget hbudget => ?_) fun _ _ => trivial)
  refine Prog.FollowsM.bind (Prog.FollowsM.lift (Prog.Follows.perform trivial fun eventTime _ => ?_))
  refine Prog.FollowsM.bind (Prog.FollowsM.call (M := creationWatch P) (.create _) (fun r => r) rfl
    (hP identity.sessionId now eventTime budget _ ⟨_, daily, hbudget⟩) ?_ fun _ _ _ _ => trivial)
  intro _ _ _ _
  exact Prog.FollowsM.pure trivial

theorem serve_follows
    (hP : ∀ mode sid now eventTime budget evidence, IsNewBudget deps budget →
      P (createdSession deps proof mode sid now eventTime budget evidence)) (call : DemoCall) :
    (serve deps proof anyAdapter call).run.Follows (createWatch P) (fun _ _ => True) () := by
  cases call with
  | act sessionId request =>
    exact @createWatch_of_actWatch P _ sessionId _ (Prog.FollowsM.map _ act_follows)
  | getSession sessionId =>
    refine @createWatch_of_actWatch P _ sessionId _ (Prog.FollowsM.map _ ?_)
    exact Prog.FollowsM.mono (getSession_follows fun _ => trivial) fun _ _ _ => trivial
  | createSession mode adminToken =>
    have hcreation := Prog.FollowsM.map (R := fun _ _ => True) DemoReply.session
      (createSession_follows deps proof (hP mode) adminToken)
    refine Prog.Follows.mono (Prog.Follows.coarsen (R := fun _ _ => True) ?_ (fun _ _ _ => trivial)
      (fun _ _ _ _ _ _ => trivial) hcreation.follows trivial) fun _ _ _ => trivial
    intro _ _ op _ hok
    cases op with
    | create session => exact hok
    | mutate id change => exact hok.elim
    | _ => trivial
  | activeLive =>
    refine Prog.FollowsM.follows (Prog.FollowsM.map _ ?_)
    exact Prog.FollowsM.call (M := createWatch P) .activeLive (fun r => r) rfl trivial (fun _ _ _ _ => trivial)
      fun _ _ _ _ => trivial

theorem createdSession_idle (mode : DemoMode) (sid : JsString) (now eventTime : Int) (budget : WriteBudgetSnapshot)
    (evidence : List JsString) :
    (createdSession deps proof mode sid now eventTime budget evidence).inFlightActionId = none := by
  unfold createdSession
  split <;> rfl

theorem serve_follows_callWatch (call : DemoCall) :
    (serve deps proof anyAdapter call).run.Follows callWatch (fun _ _ => True) () := by
  have hfollows := serve_follows deps proof (P := fun session => session.inFlightActionId = none)
    (fun mode sid now eventTime budget evidence _ => createdSession_idle deps proof mode sid now eventTime budget evidence)
    call
  refine Prog.Follows.mono (Prog.Follows.coarsen (R := fun _ _ => True) ?_ (fun _ _ _ => trivial)
    (fun _ _ _ _ _ _ => trivial) hfollows trivial) fun _ _ _ => trivial
  intro _ _ op _ hok
  cases op <;> exact hok

theorem stage_follows (op : DemoOp) (hok : callWatch.ok () op) :
    (stage op).Follows stageWatch (fun _ r => callWatch.may op r) () := by
  cases op with
  | mutate sessionId change =>
    refine ⟨trivial, fun r _ => ?_⟩
    cases r with
    | error e => trivial
    | ok found => exact ⟨hok, fun _ _ => trivial⟩
  | create session => exact ⟨trivial, fun _ _ => ⟨hok, fun _ _ => trivial⟩⟩
  | activeLive => exact ⟨trivial, fun _ _ => ⟨trivial, fun _ _ => trivial⟩⟩
  | _ => exact ⟨trivial, fun _ _ => trivial⟩

theorem staged_follows (call : DemoCall) :
    ((serve deps proof anyAdapter call).run.handle stage).Follows stageWatch (fun _ _ => True) () := by
  refine Prog.Follows.handle (N := callWatch) ?_ (serve_follows_callWatch deps proof call)
  intro _ op hok
  exact Prog.Follows.mono (stage_follows op hok) fun _ _ hmay => ⟨rfl, hmay⟩

end Follows

/-! ## What a write may do -/

/-- A terminal session stays as it is, and the confirmed state does not go back. -/
structure Onward (session next : OperationsDemoSession) : Prop where
  terminal : session.workflowState.isTerminal = true →
    next.workflowState = session.workflowState ∧ next.lastConfirmedState = session.lastConfirmedState ∧
      next.escrowState = session.escrowState ∧ next.lockedAmountAtomic = session.lockedAmountAtomic
  forward : workflowChain.idxOf session.lastConfirmedState ≤ workflowChain.idxOf next.lastConfirmedState

theorem Onward.refl (session : OperationsDemoSession) : Onward session session := ⟨fun _ => ⟨rfl, rfl, rfl, rfl⟩, le_rfl⟩

theorem Onward.trans {a b c : OperationsDemoSession} (hab : Onward a b) (hbc : Onward b c) : Onward a c := by
  refine ⟨?_, hab.forward.trans hbc.forward⟩
  intro ha
  obtain ⟨hworkflow, hconfirmed, hescrow, hlocked⟩ := hab.terminal ha
  obtain ⟨hworkflow', hconfirmed', hescrow', hlocked'⟩ := hbc.terminal (hworkflow ▸ ha)
  exact ⟨hworkflow'.trans hworkflow, hconfirmed'.trans hconfirmed, hescrow'.trans hescrow, hlocked'.trans hlocked⟩

/-- A write on a session that is not terminal, which keeps the confirmed state. -/
theorem Onward.of_running {session next : OperationsDemoSession} (h : session.workflowState.isTerminal = false)
    (hconfirmed : next.lastConfirmedState = session.lastConfirmedState) : Onward session next := by
  refine ⟨fun hterminal => ?_, (congrArg workflowChain.idxOf hconfirmed).ge⟩
  rw [h] at hterminal
  cases hterminal

/-- A write that touches none of the four fields. -/
theorem Onward.of_same {session next : OperationsDemoSession} (hworkflow : next.workflowState = session.workflowState)
    (hconfirmed : next.lastConfirmedState = session.lastConfirmedState)
    (hescrow : next.escrowState = session.escrowState)
    (hlocked : next.lockedAmountAtomic = session.lockedAmountAtomic) : Onward session next :=
  ⟨fun _ => ⟨hworkflow, hconfirmed, hescrow, hlocked⟩, (congrArg workflowChain.idxOf hconfirmed).ge⟩

theorem transition_forward {action : DemoAction} {source target : DemoWorkflowState}
    (h : ACTION_TRANSITIONS action = some (source, target)) : workflowChain.idxOf source ≤ workflowChain.idxOf target := by
  cases action <;> cases h <;> decide

/-- An action in flight means that the session is not terminal. -/
def Settled (session : OperationsDemoSession) : Prop :=
  session.inFlightActionId ≠ none → session.workflowState.isTerminal = false

/-- No expiry while an action is in flight; a reservation, a commit and a failure find the session where their action
left it. -/
def Fitting (current : OperationsDemoSession) : SessionChange → Prop
  | .expire => current.workflowState.isTerminal = false ∧ current.inFlightActionId = none
  | .reserve request _ =>
    current.actionResults.read request.actionId = .undefined → truthy current.inFlightActionId = false →
      current.workflowState.isTerminal = false
  | .commit request .. => (ACTION_TRANSITIONS request.action).map Prod.fst = some current.lastConfirmedState
  | .fail request _ => current.inFlightActionId = some request.actionId
  | .journal _ => True

section Apply
variable {sha256Hex : JsString → JsString} {config : OperationsDemoConfig} {clock : Clock} {change : SessionChange}
  {current next : OperationsDemoSession} {sessionId : JsString}

theorem onward_of_apply (h : change.apply sha256Hex config clock current = .ok next) (hsettled : Settled current)
    (hfitting : Fitting current change) (hok : callWatch.ok () (.mutate sessionId change)) :
    Onward current next ∧ Settled next := by
  cases change with
  | expire =>
    cases h
    exact ⟨.of_running hfitting.1 rfl, fun hmark => absurd hfitting.2 hmark⟩
  | reserve request identityHash =>
    rcases reserveAction_ok h with ⟨_, -, -, rfl⟩ | ⟨hread, hmark, rfl⟩
    · exact ⟨.of_same rfl rfl rfl rfl, hsettled⟩
    · exact ⟨.of_same rfl rfl rfl rfl, fun _ => hfitting hread hmark⟩
  | commit request identityHash intendedState executed =>
    obtain ⟨hmark, hnone, -, hconfirmed, -⟩ := commitAction_ok h
    have hrunning := hsettled (by simp [hmark])
    obtain ⟨source, hsource⟩ := hok
    have hcurrent : (ACTION_TRANSITIONS request.action).map Prod.fst = some current.lastConfirmedState := hfitting
    obtain rfl : source = current.lastConfirmedState := by
      rw [hsource] at hcurrent
      exact Option.some.inj hcurrent
    refine ⟨⟨fun hterminal => ?_, ?_⟩, fun hmark' => absurd hnone hmark'⟩
    · rw [hrunning] at hterminal
      cases hterminal
    · rw [hconfirmed]
      exact transition_forward hsource
  | fail request error =>
    cases h
    have hmark : current.inFlightActionId = some request.actionId := hfitting
    exact ⟨.of_running (hsettled (by simp [hmark])) rfl, fun hmark' => absurd rfl hmark'⟩
  | journal change =>
    have hframe := journal_frame h
    refine ⟨.of_same ?_ ?_ ?_ ?_, ?_⟩
    · rw [hframe]
    · rw [hframe]
    · rw [hframe]
    · rw [hframe]
    · rw [hframe]
      exact hsettled

end Apply

/-! ## The pieces -/

/-- Every file is found under the id of its session, and none has an action in flight once it is terminal. -/
structure Sound (d : Disk) : Prop where
  keyed : ∀ id session, d.sessions id = some session → session.sessionId = id
  settled : ∀ id session, d.sessions id = some session → Settled session

section Pieces
variable {clock : Clock} {d : Disk}

/-- The worlds on the way of a piece. -/
def AdvancesFrom (d d' : Disk) : Prop :=
  Sound d' ∧ ∀ id session, d.sessions id = some session → ∃ next, d'.sessions id = some next ∧ Onward session next

theorem AdvancesFrom.refl (h : Sound d) : AdvancesFrom d d := ⟨h, fun _ session hfound => ⟨session, hfound, .refl session⟩⟩

theorem AdvancesFrom.of_sessions {d₁ d₂ : Disk} (h : AdvancesFrom d d₁) (hsessions : d₂.sessions = d₁.sessions) :
    AdvancesFrom d d₂ := by
  refine ⟨⟨?_, ?_⟩, ?_⟩
  · rw [hsessions]
    exact h.1.keyed
  · rw [hsessions]
    exact h.1.settled
  · rw [hsessions]
    exact h.2

/-- One write over a session, or of a new one. -/
theorem AdvancesFrom.write (h : Sound d) {next : OperationsDemoSession} (hsettled : Settled next)
    (honward : ∀ session, d.sessions next.sessionId = some session → Onward session next) :
    AdvancesFrom d (d.writeSession next) := by
  refine ⟨⟨?_, ?_⟩, ?_⟩
  · intro id session hfound
    rcases Disk.sessions_of_writeSession hfound with ⟨rfl, rfl⟩ | ⟨-, hfound⟩
    · rfl
    · exact h.keyed id session hfound
  · intro id session hfound
    rcases Disk.sessions_of_writeSession hfound with ⟨rfl, rfl⟩ | ⟨-, hfound⟩
    · exact hsettled
    · exact h.settled id session hfound
  · intro id session hfound
    by_cases hid : id = next.sessionId
    · subst hid
      exact ⟨next, Disk.writeSession_self d next, honward session hfound⟩
    · exact ⟨session, (Disk.writeSession_of_ne d next hid).trans hfound, .refl session⟩

theorem AdvancesFrom.trans {d₁ d₂ : Disk} (h : AdvancesFrom d d₁) (h' : AdvancesFrom d₁ d₂) : AdvancesFrom d d₂ := by
  refine ⟨h'.1, ?_⟩
  intro id session hfound
  obtain ⟨middle, hmiddle, honward⟩ := h.2 id session hfound
  obtain ⟨next, hnext, honward'⟩ := h'.2 id middle hmiddle
  exact ⟨next, hnext, honward.trans honward'⟩

theorem AdvancesFrom.ofSessions (d : Disk) : OfSessions (AdvancesFrom d) := fun _ _ h => h.of_sessions rfl

/-- A session whose active record has expired is not terminal and has no action in flight. -/
def ExpiresIdle (d : Disk) (now : Int) : Prop :=
  ∀ record session, d.active = some record → record.expiresAt ≤ now → d.sessions record.sessionId = some session →
    session.workflowState ≠ .expired → session.workflowState.isTerminal = false ∧ session.inFlightActionId = none

/-- A session that expires goes on, and no id is taken by it. -/
theorem advances_of_lapsed (h : Sound d) {id : JsString} {session : OperationsDemoSession} {now now' : Int}
    (hlapsed : Lapsed d now id session) (hidle : ExpiresIdle d now) :
    AdvancesFrom d (d.writeSession (expireActive now' session)) ∧
      ∀ k, d.sessions k = none → (d.writeSession (expireActive now' session)).sessions k = none := by
  obtain ⟨⟨record, hrecord, rfl, hexpired⟩, hfound, hstate⟩ := hlapsed
  obtain ⟨hrunning, hmark⟩ := hidle record session hrecord hexpired hfound hstate
  have hid : (expireActive now' session).sessionId = record.sessionId := h.keyed _ session hfound
  refine ⟨.write h (fun hmark' => absurd hmark hmark') ?_, ?_⟩
  · intro session' hsession
    rw [hid, hfound] at hsession
    cases hsession
    exact .of_running hrunning rfl
  · intro k hk
    rw [Disk.writeSession_of_ne]
    · exact hk
    · rintro rfl
      rw [hid, hfound] at hk
      cases hk

theorem activeLive_advances (h : Sound d) (hidle : ExpiresIdle d (clock 0)) :
    Prog.AlongM (FileOp.run clock) (AdvancesFrom d) (fun _ _ => True) activeLive d :=
  activeLive_keeps (.refl h) (.ofSessions d) fun _ _ _ hlapsed => (advances_of_lapsed h hlapsed hidle).1

theorem createLocked_advances (h : Sound d) {session : OperationsDemoSession}
    (hfresh : session.inFlightActionId = none) (hidle : session.mode = .live → ExpiresIdle d (clock 0)) :
    Prog.AlongM (FileOp.run clock) (AdvancesFrom d) (fun _ _ => True) (createLocked session) d := by
  refine createLocked_keeps (P := fun d' => AdvancesFrom d d' ∧ ∀ k, d.sessions k = none → d'.sessions k = none)
    ⟨.refl h, fun _ hk => hk⟩ ?_ ?_ (fun _ h₁ => h₁.1) ?_
  · intro d₁ active h₁
    exact ⟨h₁.1.of_sessions rfl, h₁.2⟩
  · intro hmode id session' now hlapsed
    exact advances_of_lapsed h hlapsed (hidle hmode)
  · rintro habsent d₁ ⟨h₁, hnone⟩
    refine h₁.trans (.write h₁.1 (fun hmark => absurd hfresh hmark) ?_)
    intro session' hsession
    rw [hnone _ habsent] at hsession
    cases hsession

theorem finishMutate_advances {sha256Hex : JsString → JsString} {config : OperationsDemoConfig} {change : SessionChange}
    {current : OperationsDemoSession} {sessionId : JsString} (h : Sound d)
    (hcurrent : d.sessions current.sessionId = some current) (hfitting : Fitting current change)
    (hok : callWatch.ok () (.mutate sessionId change)) :
    Prog.AlongM (FileOp.run clock) (AdvancesFrom d) (fun _ _ => True)
      (finishMutate sha256Hex config change clock current) d := by
  refine finishMutate_keeps (.refl h) (.ofSessions d) ?_
  intro next happly
  obtain ⟨honward, hsettled⟩ := onward_of_apply happly (h.settled _ current hcurrent) hfitting hok
  refine .write h hsettled ?_
  intro session hsession
  rw [(apply_identity happly).2.1, hcurrent] at hsession
  cases hsession
  exact honward

end Pieces

/-! ## Runs -/

/-- A `mutate` writes over the version it has read, and that is fit for it; a session expires idle. -/
def Undisturbed (s : StagePool) : StageLabel → Prop
  | .call _ (.finish _ _ change _ current) _ =>
    s.shared.sessions current.sessionId = some current ∧ Fitting current change
  | .call _ (.create clock session) _ => session.mode = .live → ExpiresIdle s.shared (clock 0)
  | .call _ (.activeLive clock) _ => ExpiresIdle s.shared (clock 0)
  | _ => True

section Runs
variable {deps : DemoDeps} {proof : ReplayProof} {ls : List StageLabel} {s t : StagePool} {l : StageLabel}

abbrev undisturbedSystem (deps : DemoDeps) (proof : ReplayProof) : System StagePool StageLabel :=
  (stageSystem deps proof).restrict Undisturbed

theorem stage_watched_of_run (h : (undisturbedSystem deps proof).Run ls s) :
    stageWatch.Watched (fun _ _ => True) ls s :=
  Monitor.watched_of_run (staged_follows deps proof) (fun _ _ _ _ _ _ _ _ _ => trivial) h.of_restrict

theorem advances_of_step (hrun : (undisturbedSystem deps proof).Run ls s) (hsound : Sound s.shared)
    (hstep : (undisturbedSystem deps proof).step s l t) : AdvancesFrom s.shared t.shared := by
  obtain ⟨⟨hstep, -⟩, hundisturbed⟩ := hstep
  cases hstep with
  | start hn => exact .refl hsound
  | lost => exact .refl hsound
  | @call n op k r w hn heffect =>
    have hok := (stage_watched_of_run hrun).ok hn
    show AdvancesFrom s.shared w
    cases op with
    | demo op =>
      cases op with
      | get sessionId =>
        rw [heffect.1]
        exact .refl hsound
      | _ =>
        rw [show w = s.shared from heffect]
        exact .refl hsound
    | clock =>
      rw [show w = s.shared from heffect]
      exact .refl hsound
    | begin sessionId =>
      rcases heffect with ⟨token, clock, current, -, -, rfl⟩ | ⟨-, rfl⟩
      · exact AdvancesFrom.of_sessions (.refl hsound) rfl
      · exact .refl hsound
    | finish token sessionId change clock current =>
      obtain ⟨d₁, hpiece, rfl⟩ := heffect
      obtain ⟨hcurrent, hfitting⟩ := hundisturbed
      exact AdvancesFrom.of_sessions (hpiece.along (finishMutate_advances hsound hcurrent hfitting hok)) (by simp)
    | create clock session => exact Piece.along heffect (createLocked_advances hsound hok hundisturbed)
    | activeLive clock => exact Piece.along heffect (activeLive_advances hsound hundisturbed)

theorem sound_of_run (h : (undisturbedSystem deps proof).Run ls s) : Sound s.shared := by
  refine System.Run.induction (S := undisturbedSystem deps proof) (I := fun _ s => Sound s.shared) ?_ ?_ h
  · rintro s ⟨hempty, -⟩
    rw [show s.shared = Disk.empty from hempty]
    refine ⟨?_, ?_⟩ <;> intro id session hfound <;> cases hfound
  · intro ls s l t hrun ih hstep
    exact (advances_of_step hrun ih hstep).1

end Runs

/-! ## Two plays -/

namespace Outlasted

/-- The workflow state of a session. -/
def stateOf (s : StagePool) (id : JsString) : Option DemoWorkflowState :=
  (s.shared.sessions id).map OperationsDemoSession.workflowState

/-- The change fits the version it is applied to. -/
def fits (current : OperationsDemoSession) : SessionChange → Bool
  | .expire => !current.workflowState.isTerminal && current.inFlightActionId.isNone
  | .reserve .. => !current.workflowState.isTerminal
  | .commit request .. => (ACTION_TRANSITIONS request.action).map Prod.fst = some current.lastConfirmedState
  | .fail request _ => current.inFlightActionId = some request.actionId
  | .journal _ => true

/-- A session whose time is over has no action in flight. -/
def expiresIdle (d : Disk) (now : Int) : Bool :=
  d.active.all fun record => now < record.expiresAt || (d.sessions record.sessionId).all fun session => fits session .expire

def steady (s : StagePool) : StageLabel → Bool
  | .call _ (.finish _ _ change _ current) _ =>
    s.shared.sessions current.sessionId = some current && fits current change
  | .call _ (.create clock _) _ | .call _ (.activeLive clock) _ => expiresIdle s.shared (clock 0)
  | _ => true

theorem fitting_of_fits {current : OperationsDemoSession} {change : SessionChange} (h : fits current change = true) :
    Fitting current change := by
  cases change with
  | expire =>
    rw [fits, Bool.and_eq_true, Bool.not_eq_true', Option.isNone_iff_eq_none] at h
    exact h
  | reserve => exact fun _ _ => (Bool.not_eq_true' _).mp h
  | commit request =>
    rw [fits, decide_eq_true_eq] at h
    exact h
  | fail request error =>
    rw [fits, decide_eq_true_eq] at h
    exact h
  | journal => trivial

theorem expiresIdle_sound {d : Disk} {now : Int} (h : expiresIdle d now = true) : ExpiresIdle d now := by
  intro record session hrecord hexpired hsession _
  rw [expiresIdle, hrecord, Option.all_some, Bool.or_eq_true, decide_eq_true_eq, hsession, Option.all_some] at h
  exact @fitting_of_fits session .expire (h.resolve_left (not_lt.mpr hexpired))

theorem undisturbed_of_steady {s : StagePool} {l : StageLabel} (h : (takesFree s l && steady s l) = true) :
    takesFree s l = true ∧ Undisturbed s l := by
  rw [Bool.and_eq_true] at h
  refine ⟨h.1, ?_⟩
  have hsteady := h.2
  cases l with
  | call n op r =>
    cases op with
    | finish token sessionId change clock current =>
      rw [steady, Bool.and_eq_true, decide_eq_true_eq] at hsteady
      exact ⟨hsteady.1, fitting_of_fits hsteady.2⟩
    | create clock session => exact fun _ => expiresIdle_sound hsteady
    | activeLive clock => exact expiresIdle_sound hsteady
    | _ => trivial
  | _ => trivial

/-- The action is committed on the second session too. -/
def secondAction : List (Move DemoCall) := .lost 1 :: Move.request 1 (.act second request) 7

end Outlasted

/-! ## The result -/

/-- **Terminal sessions stay terminal.** In an undisturbed run, what is written after a session has been completed, expired
or aborted leaves its workflow state, confirmed state, escrow state and locked amount as they are; and no write takes the
confirmed state of a session back along the chain. -/
theorem terminal_sessions_stay (deps : DemoDeps) (proof : ReplayProof) {ls ms : List StageLabel} {s t : StagePool}
    (hrun : (undisturbedSystem deps proof).Run ls s) (hsteps : (undisturbedSystem deps proof).Steps s ms t)
    {id : JsString} {session : OperationsDemoSession} (hsession : s.shared.sessions id = some session) :
    ∃ next, t.shared.sessions id = some next ∧
      (session.workflowState.isTerminal = true →
        next.workflowState = session.workflowState ∧ next.lastConfirmedState = session.lastConfirmedState ∧
          next.escrowState = session.escrowState ∧ next.lockedAmountAtomic = session.lockedAmountAtomic) ∧
      workflowChain.idxOf session.lastConfirmedState ≤ workflowChain.idxOf next.lastConfirmedState := by
  have hstep (ks : List StageLabel) (u : StagePool) (l : StageLabel) (v : StagePool)
      (hrun' : (undisturbedSystem deps proof).Run ks u)
      (hu : ∃ next, u.shared.sessions id = some next ∧ Onward session next)
      (hl : (undisturbedSystem deps proof).step u l v) :
      ∃ next, v.shared.sessions id = some next ∧ Onward session next := by
    obtain ⟨middle, hmiddle, honward⟩ := hu
    obtain ⟨next, hnext, honward'⟩ := (advances_of_step hrun' (sound_of_run hrun') hl).2 id middle hmiddle
    exact ⟨next, hnext, honward.trans honward'⟩
  obtain ⟨next, hnext, honward⟩ := hsteps.preserves hrun hstep ⟨session, hsession, .refl session⟩
  exact ⟨next, hnext, honward.terminal, honward.forward⟩

/-- The first session expires after its action is committed, and stays so while the second goes on. -/
theorem terminal_sessions_stay_succession :
    ∃ ls ms s t session next, (undisturbedSystem Outlasted.deps Outlasted.proof).Run ls s ∧
      (undisturbedSystem Outlasted.deps Outlasted.proof).Steps s ms t ∧
      s.shared.sessions Outlasted.first = some session ∧ session.workflowState = .expired ∧
      Outlasted.stateOf t Outlasted.second = some .escrowFunded ∧
      t.shared.sessions Outlasted.first = some next ∧ next.workflowState = .expired ∧
      next.lastConfirmedState = session.lastConfirmedState := by
  have hplay : ∃ r ∈ Outlasted.played Outlasted.committed (fun s l => Outlasted.takesFree s l && Outlasted.steady s l)
      Outlasted.succession Outlasted.start,
      Outlasted.stateOf r.2 Outlasted.first = some .expired ∧
      ∃ q ∈ Outlasted.played Outlasted.committed (fun s l => Outlasted.takesFree s l && Outlasted.steady s l)
        Outlasted.secondAction r.2,
        Outlasted.stateOf q.2 Outlasted.second = some .escrowFunded := by
    decide +kernel
  obtain ⟨⟨ls, s⟩, hr, hexpired, ⟨ms, t⟩, hq, hfunded⟩ := hplay
  have hrun := Outlasted.run_of_played (C := Undisturbed) (fun _ _ => Outlasted.undisturbed_of_steady) hr
  have hsteps := Outlasted.steps_of_played (C := Undisturbed) (fun _ _ => Outlasted.undisturbed_of_steady) hq
  obtain ⟨session, hsession, hstate⟩ := Option.map_eq_some_iff.mp hexpired
  obtain ⟨next, hnext, hterminal, -⟩ := terminal_sessions_stay Outlasted.deps Outlasted.proof hrun hsteps hsession
  obtain ⟨hworkflow, hconfirmed, -⟩ := hterminal (by rw [hstate]; rfl)
  exact ⟨ls, ms, s, t, session, next, hrun, hsteps, hsession, hstate, hfunded, hnext, hworkflow.trans hstate, hconfirmed⟩

/-- The session has expired while its action was executed, and the commit of the action takes it to `ESCROW_FUNDED`. -/
theorem expired_session_revived :
    ∃ ls ms s t session next, (stageSystem Outlasted.deps Outlasted.proof).Run ls s ∧
      (stageSystem Outlasted.deps Outlasted.proof).Steps s ms t ∧
      s.shared.sessions Outlasted.first = some session ∧ session.workflowState = .expired ∧
      t.shared.sessions Outlasted.first = some next ∧ next.workflowState = .escrowFunded := by
  have hplay : ∃ r ∈ Outlasted.played Outlasted.inFlight Outlasted.takesFree Outlasted.moves Outlasted.start,
      Outlasted.stateOf r.2 Outlasted.first = some .expired ∧
      ∃ q ∈ Outlasted.played Outlasted.inFlight Outlasted.takesFree Outlasted.commitMoves r.2,
        Outlasted.stateOf q.2 Outlasted.first = some .escrowFunded := by
    decide
  obtain ⟨⟨ls, s⟩, hr, hexpired, ⟨ms, t⟩, hq, hfunded⟩ := hplay
  have hrun := Outlasted.run_of_played (C := fun _ _ => True) (fun _ _ h => ⟨h, trivial⟩) hr
  have hsteps := Outlasted.steps_of_played (C := fun _ _ => True) (fun _ _ h => ⟨h, trivial⟩) hq
  obtain ⟨session, hsession, hstate⟩ := Option.map_eq_some_iff.mp hexpired
  obtain ⟨next, hnext, hstate'⟩ := Option.map_eq_some_iff.mp hfunded
  refine ⟨ls, ms, s, t, session, next, hrun.of_restrict, ?_, hsession, hstate, hnext, hstate'⟩
  refine System.Steps.mono ?_ hsteps
  rintro s l t ⟨hl, -⟩
  exact hl

end RouteGuard.Demo
