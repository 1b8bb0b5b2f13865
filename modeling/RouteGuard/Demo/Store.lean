import RouteGuard.Demo.Changes
import RouteGuard.Demo.Orchestrator
import RouteGuard.Lib.Segment

/-!
# The session store of the operations demo

`OperationsDemoStore` keeps one file for each session, one file that names the active live session, and lock files. Its
methods are programs over the file system; a write replaces a file at once.

* `FileOp`, `Disk`, `FileOp.run` : the calls of the file system, and what they do;
* `releaseActive`, `activeLive`, `create`, `mutate` : the methods;
* `StageOp`, `stage` : the calls as one process makes them: everything between two awaits runs without interruption, and
  `mutate` awaits its callback between reading and writing;
* `StageEffect`, `stageSystem` : what these calls do, and the runs of the orchestrator over them;
* `activeLive_keeps`, `createLocked_keeps`, `finishMutate_keeps` : the writes of the pieces.
-/

namespace RouteGuard.Demo
open JsString Json Guarded

/-! ## Files -/

/-- What a version of a session is computed from. The file does not hold it. -/
inductive Origin where
  | created
  | mutated (base : OperationsDemoSession)
  | expired (base : OperationsDemoSession)

/-- The lock files: `create.lock`, and one for each session. -/
inductive LockName where
  | create
  | session (sessionId : JsString)
  deriving DecidableEq, Repr

inductive FileOp where
  | lock (name : LockName)
  | unlock (name : LockName) (token : Nat)
  | clock
  | existsSession (sessionId : JsString)
  | readSession (sessionId : JsString)
  | writeSession (origin : Origin) (session : OperationsDemoSession)
  | readActive
  | writeActive (record : ActiveLiveRecord)
  | unlinkActive

def FileOp.Ans : FileOp → Type
  | .lock _ => Except DemoThrown Nat
  | .unlock .. => Unit
  | .clock => Clock
  | .existsSession _ => Bool
  | .readSession _ => Except DemoThrown (Option OperationsDemoSession)
  | .writeSession .. => Except DemoThrown Unit
  | .readActive => Except DemoThrown (Option ActiveLiveRecord)
  | .writeActive _ => Except DemoThrown Unit
  | .unlinkActive => Except DemoThrown Unit

/-- The files: the sessions by id, the active live session, and the tokens of the locks held. -/
structure Disk where
  sessions : JsString → Option OperationsDemoSession
  active : Option ActiveLiveRecord
  locks : LockName → Option Nat

namespace Disk

def empty : Disk := ⟨fun _ => none, none, fun _ => none⟩

def writeSession (d : Disk) (session : OperationsDemoSession) : Disk :=
  { d with sessions := Function.update d.sessions session.sessionId (some session) }

def withActive (d : Disk) (active : Option ActiveLiveRecord) : Disk := { d with active := active }

def withLock (d : Disk) (name : LockName) (token : Option Nat) : Disk :=
  { d with locks := Function.update d.locks name token }

/-- `releaseFileLock`: a lock that is another's stays. -/
def unlock (d : Disk) (name : LockName) (token : Nat) : Disk :=
  if d.locks name = some token then d.withLock name none else d

section Fields
variable (d : Disk) (session : OperationsDemoSession) (active : Option ActiveLiveRecord) (name : LockName)
  (token : Option Nat)

@[simp] theorem unlock_sessions (token : Nat) : (d.unlock name token).sessions = d.sessions := by
  unfold unlock
  split <;> rfl

@[simp] theorem unlock_active (token : Nat) : (d.unlock name token).active = d.active := by
  unfold unlock
  split <;> rfl

theorem writeSession_self : (d.writeSession session).sessions session.sessionId = some session :=
  Function.update_self ..

theorem writeSession_of_ne {id : JsString} (h : id ≠ session.sessionId) :
    (d.writeSession session).sessions id = d.sessions id := Function.update_of_ne h ..

end Fields

theorem sessions_of_writeSession {d : Disk} {session : OperationsDemoSession} {id : JsString} {found : OperationsDemoSession}
    (h : (d.writeSession session).sessions id = some found) :
    id = session.sessionId ∧ found = session ∨ id ≠ session.sessionId ∧ d.sessions id = some found := by
  by_cases hid : id = session.sessionId
  · subst hid
    rw [writeSession_self] at h
    exact .inl ⟨rfl, (Option.some.inj h).symm⟩
  · rw [writeSession_of_ne d session hid] at h
    exact .inr ⟨hid, h⟩

end Disk

/-- The calls of the file system when nothing fails. A lock is not waited for. -/
def FileOp.run (clock : Clock) (d : Disk) : (op : FileOp) → op.Ans × Disk
  | .lock _ => (.ok 0, d)
  | .unlock name token => ((), d.unlock name token)
  | .clock => (clock, d)
  | .existsSession sessionId => ((d.sessions sessionId).isSome, d)
  | .readSession sessionId => (.ok (d.sessions sessionId), d)
  | .writeSession _ session => (.ok (), d.writeSession session)
  | .readActive => (.ok d.active, d)
  | .writeActive record => (.ok (), d.withActive (some record))
  | .unlinkActive => (.ok (), d.withActive none)

/-! ## The methods -/

abbrev FileM (α : Type) := ExceptT DemoThrown (Prog FileOp FileOp.Ans) α

namespace FileM

def clock : FileM Clock := ExceptT.lift (Prog.perform FileOp.clock)

def existsSession (sessionId : JsString) : FileM Bool := ExceptT.lift (Prog.perform (FileOp.existsSession sessionId))

def readSession (sessionId : JsString) : FileM (Option OperationsDemoSession) :=
  ExceptT.mk (Prog.perform (FileOp.readSession sessionId))

def writeSession (origin : Origin) (session : OperationsDemoSession) : FileM Unit :=
  ExceptT.mk (Prog.perform (FileOp.writeSession origin session))

def readActive : FileM (Option ActiveLiveRecord) := ExceptT.mk (Prog.perform FileOp.readActive)

def writeActive (record : ActiveLiveRecord) : FileM Unit := ExceptT.mk (Prog.perform (FileOp.writeActive record))

def unlinkActive : FileM Unit := ExceptT.mk (Prog.perform FileOp.unlinkActive)

/-- `try { body } finally { releaseFileLock }` after the lock. -/
def withLock {α : Type} (name : LockName) (body : FileM α) : FileM α := do
  let token ← (ExceptT.mk (Prog.perform (FileOp.lock name)) : FileM Nat)
  ExceptT.mk do
    let r ← body.run
    let () ← (Prog.perform (FileOp.unlock name token) : Prog FileOp FileOp.Ans Unit)
    pure r

end FileM

def releaseActive (sessionId : JsString) : FileM Unit := do
  match ← FileM.readActive with
  | none => pure ()
  | some record => if record.sessionId ≠ sessionId then pure () else FileM.unlinkActive

/-- The session of an active record that has expired. -/
def expireFound (nowMs : Int) : Option OperationsDemoSession → FileM Unit
  | some session =>
    if session.workflowState = .expired then pure ()
    else FileM.writeSession (.expired session) (expireActive nowMs session)
  | none => pure ()

def activeLive : FileM (Option ActiveLiveRecord) := do
  match ← FileM.readActive with
  | none => pure none
  | some record =>
    let clock ← FileM.clock
    if clock 0 < record.expiresAt then pure (some record)
    else do
      let session ← FileM.readSession record.sessionId
      expireFound (clock 1) session
      releaseActive record.sessionId
      pure none

def OperationsDemoSession.activeRecord (session : OperationsDemoSession) : ActiveLiveRecord :=
  ⟨session.sessionId, session.idleExpiresAt, session.absoluteExpiresAt⟩

/-- A live session takes the place of the active one. -/
def claimActive (session : OperationsDemoSession) : FileM Unit := do
  match ← activeLive with
  | some _ => throw (.demo .demoSessionActive (js "a live session is already active"))
  | none => FileM.writeActive session.activeRecord

/-- What `create` does under its lock. -/
def createLocked (session : OperationsDemoSession) : FileM Unit := do
  let found ← FileM.existsSession session.sessionId
  if found then throw (.demo .demoPersistenceConflict (js "session already exists"))
  else do
    (if session.mode = .live then claimActive session else pure () : FileM Unit)
    FileM.writeSession .created session

def create (session : OperationsDemoSession) : FileM Unit := FileM.withLock .create (createLocked session)

def loadSession (sessionId : JsString) : FileM OperationsDemoSession := do
  match ← FileM.readSession sessionId with
  | none => throw (.demo .demoSessionNotFound (js "session not found"))
  | some current => pure current

section Mutate
variable (sha256Hex : JsString → JsString) (config : OperationsDemoConfig)

/-- The active record after a write of the session. -/
def settleActive (next : OperationsDemoSession) : FileM Unit :=
  if next.mode = .live then
    if next.workflowState.isTerminal then releaseActive next.sessionId else FileM.writeActive next.activeRecord
  else pure ()

/-- What `mutate` does once its callback has been awaited; the callback is the first line. -/
def finishMutate (change : SessionChange) (clock : Clock) (current : OperationsDemoSession) :
    FileM OperationsDemoSession := do
  let next ← (change.apply sha256Hex config clock current : Except DemoThrown _)
  (require (next.sessionId = current.sessionId ∧ next.recordVersion = current.recordVersion + 1)
    (.demo .demoPersistenceConflict (js "invalid session compare-and-swap")) : Except DemoThrown Unit)
  FileM.writeSession (.mutated current) next
  settleActive next
  pure next

def mutate (sessionId : JsString) (change : SessionChange) : FileM OperationsDemoSession :=
  FileM.withLock (.session sessionId) do
    let current ← loadSession sessionId
    let clock ← FileM.clock
    finishMutate sha256Hex config change clock current

end Mutate

/-! ## The calls of one process -/

/-- The pieces that run without interruption; `demo` is a call that changes no file of the store. -/
inductive StageOp where
  | demo (op : DemoOp)
  | clock
  /-- `mutate` up to its await: the lock is taken, and the session is read. -/
  | begin (sessionId : JsString)
  /-- The rest of `mutate`. -/
  | finish (token : Nat) (sessionId : JsString) (change : SessionChange) (clock : Clock)
      (current : OperationsDemoSession)
  | create (clock : Clock) (session : OperationsDemoSession)
  | activeLive (clock : Clock)

def StageOp.Ans : StageOp → Type
  | .demo op => op.Ans
  | .clock => Clock
  | .begin _ => Except DemoThrown (Nat × Clock × OperationsDemoSession)
  | .finish .. => Except DemoThrown OperationsDemoSession
  | .create .. => Except DemoThrown Unit
  | .activeLive _ => Except DemoThrown (Option ActiveLiveRecord)

/-- How a call is made. -/
def stage : (op : DemoOp) → Prog StageOp StageOp.Ans op.Ans
  | .mutate sessionId change => do
    match ← (Prog.perform (StageOp.begin sessionId) :
      Prog StageOp StageOp.Ans (Except DemoThrown (Nat × Clock × OperationsDemoSession))) with
    | .error e => pure (.error e)
    | .ok (token, clock, current) => Prog.perform (StageOp.finish token sessionId change clock current)
  | .create session => do
    let clock ← (Prog.perform StageOp.clock : Prog StageOp StageOp.Ans Clock)
    Prog.perform (StageOp.create clock session)
  | .activeLive => do
    let clock ← (Prog.perform StageOp.clock : Prog StageOp StageOp.Ans Clock)
    Prog.perform (StageOp.activeLive clock)
  | op => Prog.perform (StageOp.demo op)

/-- A piece runs to its end, or it is stopped on the way: a call of it fails, or the process ends. -/
def Piece {α : Type} (clock : Clock) (x : FileM α) (d : Disk) (r : Except DemoThrown α) (d' : Disk) : Prop :=
  (r, d') = x.run.exec (FileOp.run clock) d ∨ (∃ e, r = .error e) ∧ d' ∈ x.run.visits (FileOp.run clock) d

section System
variable (deps : DemoDeps) (proof : ReplayProof)

def StageEffect (d : Disk) : (op : StageOp) → op.Ans → Disk → Prop
  | .demo (.get sessionId), r, d' => d' = d ∧ (r = .ok (d.sessions sessionId) ∨ ∃ e, r = .error e)
  | .demo _, _, d' => d' = d
  | .clock, _, d' => d' = d
  | .begin sessionId, r, d' =>
    (∃ token clock current, r = .ok (token, clock, current) ∧ d.sessions sessionId = some current ∧
      d' = d.withLock (.session sessionId) (some token)) ∨ (∃ e, r = .error e) ∧ d' = d
  | .finish token sessionId change clock current, r, d' =>
    ∃ d₁, Piece clock (finishMutate deps.sha256Hex deps.config change clock current) d r d₁ ∧
      d' = d₁.unlock (.session sessionId) token
  | .create clock session, r, d' => Piece clock (createLocked session) d r d'
  | .activeLive clock, r, d' => Piece clock activeLive d r d'

abbrev StagePool := Pool Disk StageOp StageOp.Ans (Except DemoThrown DemoReply)
abbrev StageLabel := PoolLabel DemoCall StageOp StageOp.Ans

/-- A lock is taken under the number of the call, and only where no call that still runs holds it. -/
def TakesFree (s : StagePool) : StageLabel → Prop
  | .call n (.begin sessionId) (.ok (token, _)) =>
    token = n ∧ ∀ m, s.shared.locks (.session sessionId) = some m → s.threads m = none
  | _ => True

/-- Any interleaving of the calls of a client, over a store that starts empty. -/
def stageSystem : System StagePool StageLabel :=
  (poolSystem (fun call => (serve deps proof anyAdapter call).run.handle stage) (StageEffect deps)
    (· = Disk.empty)).restrict TakesFree

end System

/-! ## Pieces -/

theorem Piece.along {α : Type} {clock : Clock} {x : FileM α} {d d' : Disk} {r : Except DemoThrown α} {P : Disk → Prop}
    {Q : α → Disk → Prop} (h : Piece clock x d r d') (hx : Prog.AlongM (FileOp.run clock) P Q x d) : P d' := by
  rcases h with h | ⟨-, h⟩
  · obtain ⟨rfl, rfl⟩ := Prod.mk.inj h
    exact hx.visits _ (Prog.exec_mem_visits ..)
  · exact hx.visits _ h

/-! ## What holds on the way of a piece

Where a property of the sessions survives the writes of a piece, it holds on the way. -/

section Along
variable {clock : Clock} {d : Disk} {P : Disk → Prop}

/-- The property does not look at the active record. -/
def OfSessions (P : Disk → Prop) : Prop := ∀ (d : Disk) (active : Option ActiveLiveRecord), P d → P (d.withActive active)

/-- The active record has expired, and the session it names has not. -/
structure Lapsed (d : Disk) (now : Int) (id : JsString) (session : OperationsDemoSession) : Prop where
  record : ∃ record, d.active = some record ∧ record.sessionId = id ∧ record.expiresAt ≤ now
  found : d.sessions id = some session
  unexpired : session.workflowState ≠ .expired

theorem releaseActive_keeps (hP : P d) (hsessions : OfSessions P) (sessionId : JsString) :
    Prog.AlongM (FileOp.run clock) P (fun _ _ => True) (releaseActive sessionId) d := by
  unfold releaseActive
  refine Prog.AlongM.bind (Prog.AlongM.call FileOp.readActive (fun r => r) rfl hP hP ?_)
  intro active _
  cases active with
  | none => exact Prog.AlongM.pure hP trivial
  | some record =>
    show Prog.AlongM _ _ _ (if record.sessionId ≠ sessionId then _ else _) d
    split
    · exact Prog.AlongM.pure hP trivial
    · exact Prog.AlongM.call FileOp.unlinkActive (fun r => r) rfl hP (hsessions d none hP) fun _ _ => trivial

theorem expireFound_keeps {id : JsString} {now : Int} (hP : P d)
    (hexpire : ∀ session, d.sessions id = some session → session.workflowState ≠ .expired →
      P (d.writeSession (expireActive now session))) :
    Prog.AlongM (FileOp.run clock) P (fun _ _ => True) (expireFound now (d.sessions id)) d := by
  cases hfound : d.sessions id with
  | none => exact Prog.AlongM.pure hP trivial
  | some session =>
    show Prog.AlongM _ _ _ (if session.workflowState = .expired then _ else _) d
    split
    · exact Prog.AlongM.pure hP trivial
    · next hexpired =>
      exact Prog.AlongM.call (FileOp.writeSession (.expired session) (expireActive now session)) (fun r => r) rfl hP
        (hexpire session hfound hexpired) fun _ _ => trivial

theorem activeLive_keeps (hP : P d) (hsessions : OfSessions P)
    (hexpire : ∀ id session now, Lapsed d (clock 0) id session → P (d.writeSession (expireActive now session))) :
    Prog.AlongM (FileOp.run clock) P (fun _ _ => True) activeLive d := by
  unfold activeLive
  refine Prog.AlongM.bind (Prog.AlongM.call FileOp.readActive (fun r => r) rfl hP hP ?_)
  intro active hactive
  obtain rfl : d.active = active := Except.ok.inj hactive
  cases hrecord : d.active with
  | none => exact Prog.AlongM.pure hP trivial
  | some record =>
    refine Prog.AlongM.bind ⟨hP, hP, ?_⟩
    show Prog.AlongM _ _ _ (if clock 0 < record.expiresAt then _ else _) d
    split
    · exact Prog.AlongM.pure hP trivial
    · next hexpired =>
      refine Prog.AlongM.bind (Prog.AlongM.call (FileOp.readSession record.sessionId) (fun r => r) rfl hP hP ?_)
      intro found hfound
      obtain rfl : d.sessions record.sessionId = found := Except.ok.inj hfound
      refine Prog.AlongM.bind (Prog.AlongM.mono (expireFound_keeps hP fun session hsession hstate => ?_) ?_)
      · exact hexpire _ session _ ⟨⟨record, hrecord, rfl, not_lt.mp hexpired⟩, hsession, hstate⟩
      · intro _ d₁ h₁ _
        refine Prog.AlongM.bind (Prog.AlongM.mono (releaseActive_keeps h₁ hsessions record.sessionId) ?_)
        intro _ d₂ h₂ _
        exact Prog.AlongM.pure h₂ trivial

/-- `R` is what holds on the way, `P` what holds until the new session is written. -/
theorem createLocked_keeps {R : Disk → Prop} {session : OperationsDemoSession} (hP : P d) (hsessions : OfSessions P)
    (hexpire : session.mode = .live → ∀ id session now, Lapsed d (clock 0) id session →
      P (d.writeSession (expireActive now session)))
    (hR : ∀ d₁, P d₁ → R d₁) (hwrite : d.sessions session.sessionId = none → ∀ d₁, P d₁ → R (d₁.writeSession session)) :
    Prog.AlongM (FileOp.run clock) R (fun _ _ => True) (createLocked session) d := by
  unfold createLocked
  refine Prog.AlongM.bind ⟨hR d hP, hR d hP, ?_⟩
  show Prog.AlongM _ _ _ (if (d.sessions session.sessionId).isSome = true then _ else _) d
  split
  · exact Prog.AlongM.throw (hR d hP)
  · next hexists =>
    refine Prog.AlongM.bind (Prog.AlongM.mono (Q := fun _ d' => P d') ?_ ?_)
    · show Prog.AlongM _ _ _ (if session.mode = .live then _ else _) d
      split
      · next hmode =>
        refine Prog.AlongM.bind (Prog.AlongM.weaken (Prog.AlongM.mono (activeLive_keeps hP hsessions (hexpire hmode)) ?_) hR)
        intro found d₁ h₁ _
        cases found with
        | some record => exact Prog.AlongM.throw (hR d₁ h₁)
        | none =>
          exact Prog.AlongM.call (FileOp.writeActive session.activeRecord) (fun r => r) rfl (hR d₁ h₁)
            (hR _ (hsessions d₁ _ h₁)) fun _ _ => hsessions d₁ _ h₁
      · exact Prog.AlongM.pure (hR d hP) hP
    · intro _ d₁ _ h₁
      exact Prog.AlongM.call (FileOp.writeSession .created session) (fun r => r) rfl (hR d₁ h₁)
        (hwrite (by simpa using hexists) d₁ h₁) fun _ _ => trivial

theorem finishMutate_keeps {sha256Hex : JsString → JsString} {config : OperationsDemoConfig} {change : SessionChange}
    {current : OperationsDemoSession} (hP : P d) (hsessions : OfSessions P)
    (hwrite : ∀ next, change.apply sha256Hex config clock current = .ok next → P (d.writeSession next)) :
    Prog.AlongM (FileOp.run clock) P (fun _ _ => True) (finishMutate sha256Hex config change clock current) d := by
  unfold finishMutate
  refine Prog.AlongM.bind (Prog.AlongM.ofExcept hP ?_)
  intro next happly
  refine Prog.AlongM.bind (Prog.AlongM.ofExcept hP ?_)
  intro _ _
  refine Prog.AlongM.bind
    (Prog.AlongM.call (FileOp.writeSession (.mutated current) next) (fun r => r) rfl hP (hwrite next happly) fun _ _ => ?_)
  have hsettle : Prog.AlongM (FileOp.run clock) P (fun _ _ => True) (settleActive next) (d.writeSession next) := by
    unfold settleActive
    split
    · split
      · exact releaseActive_keeps (hwrite next happly) hsessions next.sessionId
      · exact Prog.AlongM.call (FileOp.writeActive next.activeRecord) (fun r => r) rfl (hwrite next happly)
          (hsessions _ _ (hwrite next happly)) fun _ _ => trivial
    · exact Prog.AlongM.pure (hwrite next happly) trivial
  refine Prog.AlongM.bind (Prog.AlongM.mono hsettle ?_)
  intro _ d₁ h₁ _
  exact Prog.AlongM.pure h₁ trivial

end Along

end RouteGuard.Demo
