import RouteGuard.Demo.Store
import RouteGuard.Lib.Sha256

/-!
# At most one live session

The active record names every live session that is not terminal, whichever write comes last. Only a write that revives a
terminal session breaks this.

* `Named` : the invariant of the files, kept by every piece, also when it is stopped on the way;
* `NoRevival` : commits and failures are computed from a session that is not terminal, and written over the version they
  were computed from;
* `one_live_session` : at most one live session is not terminal, and the active record names it;
* `two_live_sessions` : an action that outlasts its session revives it beside the next one.
-/

namespace RouteGuard.Demo
open JsString Json Guarded

/-- A live session that is not terminal. -/
def OperationsDemoSession.isRunning (session : OperationsDemoSession) : Bool :=
  session.mode = .live && !session.workflowState.isTerminal

/-- Every file is found under the id of its session, and the active record names every running session. -/
structure Named (d : Disk) : Prop where
  keyed : ∀ id session, d.sessions id = some session → session.sessionId = id
  named : ∀ id session, d.sessions id = some session → session.isRunning = true →
    ∃ record, d.active = some record ∧ record.sessionId = id

/-- No session runs. -/
def Idle (d : Disk) : Prop := ∀ id session, d.sessions id = some session → session.isRunning = false

section Writes
variable {d : Disk} {session : OperationsDemoSession}

/-- A write of a session that does not run, or that the active record names. -/
theorem Named.write (h : Named d)
    (hnamed : session.isRunning = true → ∃ record, d.active = some record ∧ record.sessionId = session.sessionId) :
    Named (d.writeSession session) := by
  refine ⟨?_, ?_⟩
  · intro id found hfound
    rcases Disk.sessions_of_writeSession hfound with ⟨rfl, rfl⟩ | ⟨-, hfound⟩
    · rfl
    · exact h.keyed id found hfound
  · intro id found hfound hrunning
    rcases Disk.sessions_of_writeSession hfound with ⟨rfl, rfl⟩ | ⟨-, hfound⟩
    · exact hnamed hrunning
    · exact h.named id found hfound hrunning

/-- The active record is replaced by one that names the only session that may run. -/
theorem Named.replace (h : Named d) {record : ActiveLiveRecord}
    (honly : ∀ id session, d.sessions id = some session → session.isRunning = true → id = record.sessionId) :
    Named (d.withActive (some record)) :=
  ⟨h.keyed, fun id session hfound hrunning => ⟨record, rfl, (honly id session hfound hrunning).symm⟩⟩

theorem Named.of_idle (h : Named d) (hidle : Idle d) (active : Option ActiveLiveRecord) : Named (d.withActive active) := by
  refine ⟨h.keyed, ?_⟩
  intro id session hfound hrunning
  rw [hidle id session hfound] at hrunning
  cases hrunning

theorem idle_of_no_record (h : Named d) (hactive : d.active = none) : Idle d := by
  intro id session hfound
  by_contra hrunning
  obtain ⟨record, hrecord, -⟩ := h.named id session hfound (by simpa using hrunning)
  rw [hactive] at hrecord
  cases hrecord

/-- Where the session the active record names does not run, none does. -/
theorem idle_of_record (h : Named d) {record : ActiveLiveRecord} (hactive : d.active = some record)
    (hnamed : ∀ session, d.sessions record.sessionId = some session → session.isRunning = false) : Idle d := by
  intro id session hfound
  by_contra hrunning
  obtain ⟨record', hrecord, rfl⟩ := h.named id session hfound (by simpa using hrunning)
  rw [hactive] at hrecord
  cases hrecord
  exact hrunning (hnamed session hfound)

end Writes

/-! ## The pieces -/

section Pieces
variable {clock : Clock} {d : Disk}

theorem releaseActive_along (h : Named d) {sessionId : JsString}
    (hid : ∀ session, d.sessions sessionId = some session → session.isRunning = false) :
    Prog.AlongM (FileOp.run clock) Named (fun _ d' => d'.sessions = d.sessions) (releaseActive sessionId) d := by
  unfold releaseActive
  refine Prog.AlongM.bind (Prog.AlongM.call FileOp.readActive (fun r => r) rfl h h ?_)
  intro active hactive
  obtain rfl : d.active = active := Except.ok.inj hactive
  cases hrecord : d.active with
  | none => exact Prog.AlongM.pure h rfl
  | some record =>
    show Prog.AlongM _ _ _ (if record.sessionId ≠ sessionId then _ else _) d
    split
    · exact Prog.AlongM.pure h rfl
    · next hname =>
      obtain rfl : record.sessionId = sessionId := not_not.mp hname
      have hidle := idle_of_record h hrecord hid
      exact Prog.AlongM.call FileOp.unlinkActive (fun r => r) rfl h (h.of_idle hidle none) fun _ _ => rfl

theorem isRunning_expireActive (now : Int) (session : OperationsDemoSession) :
    (expireActive now session).isRunning = false := by
  simp [expireActive, OperationsDemoSession.isRunning, DemoWorkflowState.isTerminal]

theorem not_running_of_expired {session : OperationsDemoSession} (h : session.workflowState = .expired) :
    session.isRunning = false := by
  simp [OperationsDemoSession.isRunning, h, DemoWorkflowState.isTerminal]

theorem expireFound_along (h : Named d) {id : JsString} {now : Int} :
    Prog.AlongM (FileOp.run clock) Named
      (fun _ d' => d'.active = d.active ∧ ∀ session, d'.sessions id = some session → session.isRunning = false)
      (expireFound now (d.sessions id)) d := by
  cases hfound : d.sessions id with
  | none =>
    refine Prog.AlongM.pure h ⟨rfl, ?_⟩
    intro session hsession
    rw [hfound] at hsession
    cases hsession
  | some session =>
    show Prog.AlongM _ _ _ (if session.workflowState = .expired then _ else _) d
    split
    · next hexpired =>
      refine Prog.AlongM.pure h ⟨rfl, ?_⟩
      intro session' hsession
      rw [hfound] at hsession
      cases hsession
      exact not_running_of_expired hexpired
    · have hid : (expireActive now session).sessionId = id := h.keyed id session hfound
      have hrunning := isRunning_expireActive now session
      refine Prog.AlongM.call (FileOp.writeSession (.expired session) (expireActive now session)) (fun r => r) rfl h ?_ ?_
      · exact h.write fun hrun => by simp [hrunning] at hrun
      · intro _ _
        refine ⟨rfl, ?_⟩
        intro session' hsession
        rw [show (FileOp.run clock d (.writeSession (.expired session) (expireActive now session))).2 =
          d.writeSession (expireActive now session) from rfl, ← hid, Disk.writeSession_self] at hsession
        cases hsession
        exact hrunning

/-- Where no active live session is found, none runs. -/
theorem activeLive_along (h : Named d) :
    Prog.AlongM (FileOp.run clock) Named (fun found d' => found = none → Idle d') activeLive d := by
  unfold activeLive
  refine Prog.AlongM.bind (Prog.AlongM.call FileOp.readActive (fun r => r) rfl h h ?_)
  intro active hactive
  obtain rfl : d.active = active := Except.ok.inj hactive
  cases hrecord : d.active with
  | none => exact Prog.AlongM.pure h fun _ => idle_of_no_record h hrecord
  | some record =>
    refine Prog.AlongM.bind ⟨h, h, ?_⟩
    show Prog.AlongM _ _ _ (if clock 0 < record.expiresAt then _ else _) d
    split
    · exact Prog.AlongM.pure h fun hnone => by cases hnone
    · refine Prog.AlongM.bind (Prog.AlongM.call (FileOp.readSession record.sessionId) (fun r => r) rfl h h ?_)
      intro found hfound
      obtain rfl : d.sessions record.sessionId = found := Except.ok.inj hfound
      refine Prog.AlongM.bind (Prog.AlongM.mono (@expireFound_along _ _ h record.sessionId _) ?_)
      rintro _ d₁ h₁ ⟨hactive₁, hnamed₁⟩
      refine Prog.AlongM.bind (Prog.AlongM.mono (releaseActive_along h₁ hnamed₁) ?_)
      intro _ d₂ h₂ hsessions
      refine Prog.AlongM.pure h₂ fun _ => ?_
      intro id session hsession
      rw [hsessions] at hsession
      exact idle_of_record h₁ (hactive₁.trans hrecord) hnamed₁ id session hsession

theorem createLocked_along (h : Named d) (session : OperationsDemoSession) :
    Prog.AlongM (FileOp.run clock) Named (fun _ _ => True) (createLocked session) d := by
  unfold createLocked
  refine Prog.AlongM.bind ⟨h, h, ?_⟩
  show Prog.AlongM _ _ _ (if (d.sessions session.sessionId).isSome = true then _ else _) d
  split
  · exact Prog.AlongM.throw h
  · refine Prog.AlongM.bind (Prog.AlongM.mono (Q := fun _ (d' : Disk) => session.isRunning = true →
      ∃ record, d'.active = some record ∧ record.sessionId = session.sessionId) ?_ ?_)
    · show Prog.AlongM _ _ _ (if session.mode = .live then _ else _) d
      split
      · refine Prog.AlongM.bind (Prog.AlongM.mono (activeLive_along h) ?_)
        intro found d₁ h₁ hidle
        cases found with
        | some record => exact Prog.AlongM.throw h₁
        | none =>
          exact Prog.AlongM.call (FileOp.writeActive session.activeRecord) (fun r => r) rfl h₁
            (h₁.of_idle (hidle rfl) _) fun _ _ _ => ⟨_, rfl, rfl⟩
      · next hmode =>
        refine Prog.AlongM.pure h fun hrunning => ?_
        simp [OperationsDemoSession.isRunning, hmode] at hrunning
    · intro _ d₁ h₁ hnamed
      exact Prog.AlongM.call (FileOp.writeSession .created session) (fun r => r) rfl h₁ (h₁.write hnamed) fun _ _ => trivial

/-- The callbacks that set the workflow state of a running session. -/
def SessionChange.revives : SessionChange → Bool
  | .commit .. | .fail .. => true
  | _ => false

section Finish
variable {sha256Hex : JsString → JsString} {config : OperationsDemoConfig} {change : SessionChange}
  {current next : OperationsDemoSession}

/-- A session that runs after a callback ran before it, if commits and failures come to a session that does. -/
theorem running_of_apply (h : change.apply sha256Hex config clock current = .ok next)
    (hrevives : change.revives = true → current.workflowState.isTerminal = false) (hrunning : next.isRunning = true) :
    current.isRunning = true := by
  have hmode := (apply_identity h).2.2
  have hstate (hsame : next.workflowState = current.workflowState) : current.isRunning = true := by
    rwa [OperationsDemoSession.isRunning, hsame, hmode] at hrunning
  have hlive : current.mode = .live := by
    rw [OperationsDemoSession.isRunning, Bool.and_eq_true, decide_eq_true_eq] at hrunning
    exact hmode ▸ hrunning.1
  cases change with
  | expire =>
    cases h
    simp [expireSession, OperationsDemoSession.isRunning, DemoWorkflowState.isTerminal] at hrunning
  | reserve request identityHash =>
    rcases reserveAction_ok h with ⟨_, -, -, rfl⟩ | ⟨-, -, rfl⟩ <;> exact hstate rfl
  | commit | fail => simp [OperationsDemoSession.isRunning, hlive, hrevives rfl]
  | journal change => exact hstate (by rw [journal_frame h])

theorem settleActive_along (h : Named d) (hfound : d.sessions next.sessionId = some next) :
    Prog.AlongM (FileOp.run clock) Named (fun _ _ => True) (settleActive next) d := by
  unfold settleActive
  split
  · next hmode =>
    split
    · next hterminal =>
      refine Prog.AlongM.mono (releaseActive_along h ?_) fun _ _ _ _ => trivial
      intro session hsession
      rw [hfound] at hsession
      cases hsession
      simp [OperationsDemoSession.isRunning, hterminal]
    · next hterminal =>
      have hrunning : next.isRunning = true := by simp [OperationsDemoSession.isRunning, hmode, hterminal]
      obtain ⟨record, hactive, hrecord⟩ := h.named _ next hfound hrunning
      refine Prog.AlongM.call (FileOp.writeActive next.activeRecord) (fun r => r) rfl h (h.replace ?_) fun _ _ => trivial
      intro id session hsession hrun
      obtain ⟨record', hactive', hrecord'⟩ := h.named id session hsession hrun
      rw [hactive] at hactive'
      cases hactive'
      exact hrecord'.symm.trans hrecord
  · exact Prog.AlongM.pure h trivial

theorem finishMutate_along (h : Named d) (hcurrent : d.sessions current.sessionId = some current)
    (hrevives : change.revives = true → current.workflowState.isTerminal = false) :
    Prog.AlongM (FileOp.run clock) Named (fun _ _ => True) (finishMutate sha256Hex config change clock current) d := by
  unfold finishMutate
  refine Prog.AlongM.bind (Prog.AlongM.ofExcept h ?_)
  intro next happly
  refine Prog.AlongM.bind (Prog.AlongM.ofExcept h ?_)
  intro _ _
  have hid : next.sessionId = current.sessionId := (apply_identity happly).2.1
  have hwrite : Named (d.writeSession next) := by
    refine h.write fun hrunning => ?_
    obtain ⟨record, hactive, hrecord⟩ := h.named _ current hcurrent (running_of_apply happly hrevives hrunning)
    exact ⟨record, hactive, hrecord.trans hid.symm⟩
  refine Prog.AlongM.bind
    (Prog.AlongM.call (FileOp.writeSession (.mutated current) next) (fun r => r) rfl h hwrite fun _ _ => ?_)
  refine Prog.AlongM.bind (Prog.AlongM.mono (settleActive_along hwrite (Disk.writeSession_self d next)) ?_)
  intro _ d₁ h₁ _
  exact Prog.AlongM.pure h₁ trivial

end Finish

end Pieces

/-! ## Runs -/

/-- A `mutate` writes over the version it has read, and a commit or a failure is computed from a session that is not
terminal. -/
def NoRevival (s : StagePool) : StageLabel → Prop
  | .call _ (.finish _ _ change _ current) _ =>
    s.shared.sessions current.sessionId = some current ∧
      (change.revives = true → current.workflowState.isTerminal = false)
  | _ => True

section Runs
variable {deps : DemoDeps} {proof : ReplayProof} {d d' : Disk}

theorem named_of_sessions (h : Named d) (hsessions : d'.sessions = d.sessions) (hactive : d'.active = d.active) :
    Named d' := by
  refine ⟨fun id session hfound => h.keyed id session (hsessions ▸ hfound), ?_⟩
  intro id session hfound hrunning
  rw [hactive]
  exact h.named id session (hsessions ▸ hfound) hrunning

theorem Named.effect (h : Named d) {op : StageOp} {r : op.Ans} (heffect : StageEffect deps d op r d')
    (hrevival : ∀ token sessionId change clock current, op = .finish token sessionId change clock current →
      d.sessions current.sessionId = some current ∧
        (change.revives = true → current.workflowState.isTerminal = false)) : Named d' := by
  cases op with
  | demo op =>
    cases op with
    | get sessionId =>
      rw [heffect.1]
      exact h
    | _ =>
      rw [show d' = d from heffect]
      exact h
  | clock =>
    rw [show d' = d from heffect]
    exact h
  | begin sessionId =>
    rcases heffect with ⟨token, clock, current, -, -, rfl⟩ | ⟨-, rfl⟩
    · exact named_of_sessions h rfl rfl
    · exact h
  | finish token sessionId change clock current =>
    obtain ⟨d₁, hpiece, rfl⟩ := heffect
    obtain ⟨hcurrent, hrevives⟩ := hrevival token sessionId change clock current rfl
    exact named_of_sessions (hpiece.along (finishMutate_along h hcurrent hrevives)) (by simp) (by simp)
  | create clock session => exact Piece.along heffect (createLocked_along h session)
  | activeLive clock => exact Piece.along heffect (activeLive_along h)

theorem named_of_run {ls : List StageLabel} {s : StagePool}
    (h : ((stageSystem deps proof).restrict NoRevival).Run ls s) : Named s.shared := by
  refine System.Run.induction (S := (stageSystem deps proof).restrict NoRevival) (I := fun _ s => Named s.shared) ?_ ?_ h
  · rintro s ⟨hempty, -⟩
    rw [show s.shared = Disk.empty from hempty]
    refine ⟨?_, ?_⟩ <;> intro id session hfound <;> cases hfound
  · rintro ls s l t - ih ⟨⟨hstep, -⟩, hrevival⟩
    cases hstep with
    | start hn => exact ih
    | @call n op k r w hn heffect =>
      refine ih.effect heffect ?_
      rintro token sessionId change clock current rfl
      exact hrevival
    | lost => exact ih

end Runs

/-! ## An action that outlasts its session -/

namespace Outlasted

def deps : DemoDeps where
  config := ⟨12, 50, 15, 60⟩
  liveEnabled := true
  liveDisabledCode := .demoLiveDisabled
  liveAdapter := true
  podWorkflow := true
  adminTokenMatches _ := true
  sha256Hex := Sha256.sha256Hex

def proof : ReplayProof := ⟨[], []⟩

def first : JsString := js "demo-1"
def second : JsString := js "demo-2"

def request : DemoActionRequest := ⟨.fundEscrow, js "act-1", js "idempotency-1", .obj []⟩

/-- Sixteen minutes have passed once the first session has an action in flight. -/
def inFlight (d : Disk) : Int :=
  if (d.sessions first).any fun session => session.inFlightActionId.isSome then 960000 else 0

/-- Sixteen minutes have passed once the action of the first session is committed. -/
def committed (d : Disk) : Int :=
  if (d.sessions first).any fun session => session.lastConfirmedState = .escrowFunded then 960000 else 0

section Play
variable (time : Disk → Int)

/-- A store and an adapter that do not fail; the calls that change a session are number 1. -/
def answer (d : Disk) : (op : StageOp) → Option (op.Ans × Disk)
  | .demo (.get sessionId) => some (.ok (d.sessions sessionId), d)
  | .demo .now => some (time d, d)
  | .demo .newIdentity => some (⟨if (d.sessions first).isSome then second else first, []⟩, d)
  | .demo (.dailySuccessfulWrites) => some (.ok 0, d)
  | .demo (.execute ..) => some (([], .ok ⟨[], [], [], [], 0⟩), d)
  | .demo _ => none
  | .clock => some (fun _ => time d, d)
  | .begin sessionId =>
    (d.sessions sessionId).map fun current => (.ok (1, fun _ => time d, current), d.withLock (.session sessionId) (some 1))
  | .finish token sessionId change clock current =>
    let (r, d') := (finishMutate deps.sha256Hex deps.config change clock current).run.exec (FileOp.run clock) d
    some (r, d'.unlock (.session sessionId) token)
  | .create clock session => some ((createLocked session).run.exec (FileOp.run clock) d)
  | .activeLive clock => some (activeLive.run.exec (FileOp.run clock) d)

variable {time}

theorem answer_effect (d : Disk) (op : StageOp) (r : op.Ans × Disk) (h : answer time d op = some r) :
    StageEffect deps d op r.1 r.2 := by
  cases op with
  | demo op =>
    cases op with
    | get sessionId =>
      cases h
      exact ⟨rfl, .inl rfl⟩
    | now | newIdentity | dailySuccessfulWrites | execute =>
      cases h
      rfl
    | _ => cases h
  | clock =>
    cases h
    rfl
  | begin sessionId =>
    obtain ⟨current, hcurrent, rfl⟩ := Option.map_eq_some_iff.mp h
    exact .inl ⟨_, _, current, rfl, hcurrent, rfl⟩
  | finish token sessionId change clock current =>
    cases h
    exact ⟨_, .inl rfl, rfl⟩
  | create clock session =>
    cases h
    exact .inl rfl
  | activeLive clock =>
    cases h
    exact .inl rfl

end Play

def takesFree (s : StagePool) : StageLabel → Bool
  | .call n (.begin sessionId) (.ok (token, _)) =>
    token = n && (s.shared.locks (.session sessionId)).all fun m => (s.threads m).isNone
  | _ => true

theorem takesFree_sound {s : StagePool} {l : StageLabel} (h : takesFree s l = true) : TakesFree s l := by
  cases l with
  | call n op r =>
    cases op with
    | begin sessionId =>
      cases r with
      | error e => trivial
      | ok found =>
        obtain ⟨token, found⟩ := found
        rw [takesFree, Bool.and_eq_true, decide_eq_true_eq] at h
        refine ⟨h.1, ?_⟩
        intro m hm
        have hfree := h.2
        rw [hm] at hfree
        simpa using hfree
    | _ => trivial
  | _ => trivial

def played (time : Disk → Int) (check : StagePool → StageLabel → Bool) (moves : List (Move DemoCall)) (s : StagePool) :
    Option (List StageLabel × StagePool) :=
  Pool.play (fun call => (serve deps proof anyAdapter call).run.handle stage) (answer time) check moves s

theorem steps_of_played {time : Disk → Int} {check : StagePool → StageLabel → Bool} {C : StagePool → StageLabel → Prop}
    (hcheck : ∀ s l, check s l = true → takesFree s l = true ∧ C s l) {moves : List (Move DemoCall)}
    {ls : List StageLabel} {s t : StagePool} (h : played time check moves s = some (ls, t)) :
    ((stageSystem deps proof).restrict C).Steps s ls t := by
  refine System.Steps.mono ?_ (steps_of_play answer_effect (· = Disk.empty) h)
  rintro s l t ⟨hstep, hl⟩
  obtain ⟨hfree, hc⟩ := hcheck s l hl
  exact ⟨⟨hstep, takesFree_sound hfree⟩, hc⟩

def start : StagePool := ⟨Disk.empty, fun _ => none⟩

theorem run_of_played {time : Disk → Int} {check : StagePool → StageLabel → Bool} {C : StagePool → StageLabel → Prop}
    (hcheck : ∀ s l, check s l = true → takesFree s l = true ∧ C s l) {moves : List (Move DemoCall)}
    {ls : List StageLabel} {s : StagePool} (h : played time check moves start = some (ls, s)) :
    ((stageSystem deps proof).restrict C).Run ls s :=
  ⟨start, ⟨rfl, rfl⟩, steps_of_played hcheck h⟩

def creation (mode : DemoMode) (n : Nat) : List (Move DemoCall) :=
  Move.request n (.createSession mode none) 6

/-- The first session's action is in flight while the second session is created. -/
def moves : List (Move DemoCall) :=
  creation .live 0 ++ Move.request 1 (.act first request) 5 ++ creation .live 2

/-- Then it is committed. -/
def commitMoves : List (Move DemoCall) := Move.calls 1 2

/-- A second live session is refused, the action of the first is committed, and then the next live session takes its
place. -/
def succession : List (Move DemoCall) :=
  creation .live 0 ++ creation .live 2 ++ Move.request 1 (.act first request) 7 ++ creation .live 3

/-- A `mutate` writes over the version it has read, which is not terminal. -/
def unrevived (s : StagePool) : StageLabel → Bool
  | .call _ (.finish _ _ _ _ current) _ =>
    s.shared.sessions current.sessionId = some current && !current.workflowState.isTerminal
  | _ => true

theorem noRevival_of_unrevived {s : StagePool} {l : StageLabel} (h : (takesFree s l && unrevived s l) = true) :
    takesFree s l = true ∧ NoRevival s l := by
  rw [Bool.and_eq_true] at h
  refine ⟨h.1, ?_⟩
  have hunrevived := h.2
  cases l with
  | call n op r =>
    cases op with
    | finish token sessionId change clock current =>
      rw [unrevived, Bool.and_eq_true, decide_eq_true_eq, Bool.not_eq_true'] at hunrevived
      exact ⟨hunrevived.1, fun _ => hunrevived.2⟩
    | _ => trivial
  | _ => trivial

/-- The call was refused because a live session is active. -/
def refused (s : StagePool) (n : Nat) : Bool :=
  match s.threads n with
  | some (.ret (.error (.demo .demoSessionActive _))) => true
  | _ => false

theorem refused_spec {s : StagePool} {n : Nat} (h : refused s n = true) :
    ∃ message, s.threads n = some (.ret (.error (.demo .demoSessionActive message))) := by
  unfold refused at h
  split at h
  · exact ⟨_, by assumption⟩
  · cases h

/-- The session runs, and its time is not over. -/
def runs (time : Disk → Int) (s : StagePool) (id : JsString) : Bool :=
  (s.shared.sessions id).any fun session => session.isRunning && time s.shared < session.expiresAt

theorem running_of_runs {time : Disk → Int} {s : StagePool} {id : JsString} (h : runs time s id = true) :
    ∃ session, s.shared.sessions id = some session ∧ session.isRunning = true ∧ time s.shared < session.expiresAt := by
  rw [runs, Option.any_eq_true] at h
  obtain ⟨session, hfound, hruns⟩ := h
  rw [Bool.and_eq_true, decide_eq_true_eq] at hruns
  exact ⟨session, hfound, hruns⟩

end Outlasted

/-! ## The result -/

/-- **At most one live session.** Where no terminal session is revived, the active record names every live session that is
not terminal, so there is at most one, after every step and wherever a piece is stopped. -/
theorem one_live_session (deps : DemoDeps) (proof : ReplayProof) {ls : List StageLabel} {s : StagePool}
    (h : ((stageSystem deps proof).restrict NoRevival).Run ls s) :
    (∀ id session, s.shared.sessions id = some session → session.isRunning = true →
      ∃ record, s.shared.active = some record ∧ record.sessionId = id) ∧
    ∀ id id' session session', s.shared.sessions id = some session → s.shared.sessions id' = some session' →
      session.isRunning = true → session'.isRunning = true → id = id' := by
  have hnamed := named_of_run h
  refine ⟨hnamed.named, ?_⟩
  intro id id' session session' hfound hfound' hrunning hrunning'
  obtain ⟨record, hactive, rfl⟩ := hnamed.named id session hfound hrunning
  obtain ⟨record', hactive', rfl⟩ := hnamed.named id' session' hfound' hrunning'
  rw [hactive] at hactive'
  cases hactive'
  rfl

/-- One live session after another: a second one is refused while the first runs, and takes its place when it expires. -/
theorem one_live_session_succession :
    ∃ ls s, ((stageSystem Outlasted.deps Outlasted.proof).restrict NoRevival).Run ls s ∧
      (∃ message, s.threads 2 = some (.ret (.error (.demo .demoSessionActive message)))) ∧
      (∃ session, s.shared.sessions Outlasted.first = some session ∧ session.lastConfirmedState = .escrowFunded ∧
        session.isRunning = false) ∧
      ∃ session, s.shared.sessions Outlasted.second = some session ∧ session.isRunning = true ∧
        ∃ record, s.shared.active = some record ∧ record.sessionId = Outlasted.second := by
  have hplay : ∃ r ∈ Outlasted.played Outlasted.committed (fun s l => Outlasted.takesFree s l && Outlasted.unrevived s l)
      Outlasted.succession Outlasted.start,
      Outlasted.refused r.2 2 = true ∧ Outlasted.runs Outlasted.committed r.2 Outlasted.second = true ∧
        (r.2.shared.sessions Outlasted.first).any fun session => session.lastConfirmedState = .escrowFunded := by
    decide +kernel
  obtain ⟨⟨ls, s⟩, hr, hrefused, hruns, hfunded⟩ := hplay
  have hrun := Outlasted.run_of_played (C := NoRevival) (fun _ _ => Outlasted.noRevival_of_unrevived) hr
  obtain ⟨session, hfound, hrunning, -⟩ := Outlasted.running_of_runs hruns
  obtain ⟨session', hfound', hfunded⟩ := (Option.any_eq_true _ _).mp hfunded
  obtain ⟨hactive, hone⟩ := one_live_session Outlasted.deps Outlasted.proof hrun
  refine ⟨ls, s, hrun, Outlasted.refused_spec hrefused, ⟨session', hfound', of_decide_eq_true hfunded, ?_⟩, session, hfound,
    hrunning, hactive Outlasted.second session hfound hrunning⟩
  by_contra hrunning'
  have heq := hone _ _ _ _ hfound hfound' hrunning ((Bool.not_eq_false _).mp hrunning')
  exact absurd heq (by decide)

/-- The first session expires while its action is executed, a second live session is created, and the commit of the first
revives it: both run, and their times are not over. -/
theorem two_live_sessions :
    ∃ ls s, (stageSystem Outlasted.deps Outlasted.proof).Run ls s ∧
      ∃ session session', s.shared.sessions Outlasted.first = some session ∧
        s.shared.sessions Outlasted.second = some session' ∧ session.isRunning = true ∧ session'.isRunning = true ∧
        ∃ now, now < session.expiresAt ∧ now < session'.expiresAt := by
  have hplay : ∃ r ∈ Outlasted.played Outlasted.inFlight Outlasted.takesFree (Outlasted.moves ++ Outlasted.commitMoves)
      Outlasted.start,
      Outlasted.runs Outlasted.inFlight r.2 Outlasted.first = true ∧ Outlasted.runs Outlasted.inFlight r.2 Outlasted.second = true := by
    decide
  obtain ⟨⟨ls, s⟩, hr, hfirst, hsecond⟩ := hplay
  have hrun := Outlasted.run_of_played (C := fun _ _ => True) (fun _ _ h => ⟨h, trivial⟩) hr
  obtain ⟨session, hfound, hrunning, htime⟩ := Outlasted.running_of_runs hfirst
  obtain ⟨session', hfound', hrunning', htime'⟩ := Outlasted.running_of_runs hsecond
  exact ⟨ls, s, hrun.of_restrict, session, session', hfound, hfound', hrunning, hrunning', _, htime, htime'⟩

end RouteGuard.Demo
