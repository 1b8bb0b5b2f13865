import RouteGuard.Demo.EventStream
import RouteGuard.Demo.Store
import RouteGuard.Lib.Sha256

/-!
# Linear writes

The calls of the store by any number of processes, one file operation at a time; a lock is taken only where no process
that still runs holds it. As long as no session expires under the hands of another call, every version of a session is
computed from the one before it, so that its events are numbered and only added to.

* `FileWorld`, `FileEffect`, `fileSystem` : the files with the versions written, and the runs;
* `fileWatch`, `fileCall_follows` : the order of the calls in one program;
* `ExpiresAlone` : the condition on the steps;
* `Held` : the invariant, with one lemma for each kind of step;
* `writes_linear` : the result, with what a client of the event stream gets; `write_lost` : a run in which a version is lost.
-/

namespace RouteGuard.Demo
open JsString Json Guarded

/-! ## Files and versions -/

/-- A session as it is first stored. -/
structure NewSession where
  session : OperationsDemoSession
  version : session.recordVersion = 1
  events : session.events.map DemoEvent.id = [1]

/-- The session a creation stores. -/
def NewSession.initial (deps : DemoDeps) (mode : DemoMode) (sessionId : JsString) (now eventTime : Int)
    (writeBudget : WriteBudgetSnapshot) (evidenceHashes : List JsString) : NewSession :=
  ⟨initialSession deps mode sessionId now eventTime writeBudget evidenceHashes, rfl, rfl⟩

/-- The session a creation in replay mode stores. -/
def NewSession.replay (new : NewSession) (hcsSequences : List Nat) (evidenceHash : JsString) : NewSession :=
  ⟨replaySession new.session hcsSequences evidenceHash, new.version, new.events⟩

inductive StoreCall where
  | create (new : NewSession)
  | mutate (sessionId : JsString) (change : SessionChange)
  | activeLive

def fileCall (deps : DemoDeps) : StoreCall → FileM Unit
  | .create new => create new.session
  | .mutate sessionId change => do
    let _ ← mutate deps.sha256Hex deps.config sessionId change
    pure ()
  | .activeLive => do
    let _ ← activeLive
    pure ()

/-- The files, and the versions of each session in the order in which they were written. -/
structure FileWorld where
  disk : Disk
  history : JsString → List OperationsDemoSession

namespace FileWorld

def empty : FileWorld := ⟨Disk.empty, fun _ => []⟩

def write (w : FileWorld) (session : OperationsDemoSession) : FileWorld :=
  ⟨w.disk.writeSession session,
    Function.update w.history session.sessionId (w.history session.sessionId ++ [session])⟩

theorem write_history_self (w : FileWorld) (session : OperationsDemoSession) :
    (w.write session).history session.sessionId = w.history session.sessionId ++ [session] := Function.update_self ..

theorem write_history_of_ne (w : FileWorld) (session : OperationsDemoSession) {id : JsString}
    (h : id ≠ session.sessionId) : (w.write session).history id = w.history id := Function.update_of_ne h ..

end FileWorld

/-- A call of the file system, which may fail; a write that fails may have been made. -/
def FileEffect (w : FileWorld) : (op : FileOp) → op.Ans → FileWorld → Prop
  | .lock name, r, w' =>
    (∃ token, r = .ok token ∧ w' = { w with disk := w.disk.withLock name (some token) }) ∨ (∃ e, r = .error e) ∧ w' = w
  | .unlock name token, _, w' => w' = { w with disk := w.disk.unlock name token }
  | .clock, _, w' => w' = w
  | .existsSession id, r, w' => w' = w ∧ r = (w.disk.sessions id).isSome
  | .readSession id, r, w' => w' = w ∧ (r = .ok (w.disk.sessions id) ∨ ∃ e, r = .error e)
  | .writeSession _ session, r, w' => w' = w.write session ∨ (∃ e, r = .error e) ∧ w' = w
  | .readActive, r, w' => w' = w ∧ (r = .ok w.disk.active ∨ ∃ e, r = .error e)
  | .writeActive record, r, w' =>
    w' = { w with disk := w.disk.withActive (some record) } ∨ (∃ e, r = .error e) ∧ w' = w
  | .unlinkActive, r, w' => w' = { w with disk := w.disk.withActive none } ∨ (∃ e, r = .error e) ∧ w' = w

abbrev FilePool := Pool FileWorld FileOp FileOp.Ans (Except DemoThrown Unit)
abbrev FileLabel := PoolLabel StoreCall FileOp FileOp.Ans

/-- A lock is taken under the number of the call, and only where no call that still runs holds it. -/
def LocksExclude (s : FilePool) : FileLabel → Prop
  | .call n (.lock name) (.ok token) => token = n ∧ ∀ m, s.shared.disk.locks name = some m → s.threads m = none
  | _ => True

/-- Any interleaving of the file operations of the calls. -/
def fileSystem (deps : DemoDeps) : System FilePool FileLabel :=
  (poolSystem (fun call => (fileCall deps call).run) FileEffect (· = FileWorld.empty)).restrict LocksExclude

/-! ## One program in its own order -/

/-- What a program holds and has seen: its lock, the session it has read last, and the id it has found free. -/
structure FilePhase where
  held : Option (LockName × Nat)
  seen : Option OperationsDemoSession
  absent : Option JsString

/-- What a version is computed from, and what the program must hold for it. -/
def FilePhase.mayWrite (deps : DemoDeps) (phase : FilePhase) (session : OperationsDemoSession) : Origin → Prop
  | .created =>
    (∃ token, phase.held = some (.create, token)) ∧ phase.absent = some session.sessionId ∧
      session.recordVersion = 1 ∧ session.events.map DemoEvent.id = [1]
  | .mutated base =>
    (∃ token, phase.held = some (.session base.sessionId, token)) ∧ phase.seen = some base ∧
      ∃ change clock, SessionChange.apply deps.sha256Hex deps.config clock base change = .ok session
  | .expired base => ∃ now, session = expireActive now base

def fileWatch (deps : DemoDeps) : Monitor FilePhase FileOp FileOp.Ans where
  start := ⟨none, none, none⟩
  next phase op r :=
    match op, r with
    | .lock name, .ok token => ⟨some (name, token), none, none⟩
    | .unlock .., _ => ⟨none, none, none⟩
    | .existsSession id, false => { phase with absent := some id }
    | .readSession _, .ok (some session) => { phase with seen := some session }
    | .writeSession .created _, _ => ⟨phase.held, none, none⟩
    | .writeSession _ _, _ => { phase with seen := none }
    | _, _ => phase
  may op r :=
    match op, r with
    | .readSession id, .ok (some session) => session.sessionId = id
    | _, _ => True
  ok phase op :=
    match op with
    | .lock _ => phase.held = none
    | .unlock name token => phase.held = some (name, token)
    | .writeSession origin session => phase.mayWrite deps session origin
    | _ => True

section Follows
variable {deps : DemoDeps}

/-- The lock a program holds, and the id it has found free. -/
def FilePhase.Keeps (held : Option (LockName × Nat)) (absent : Option JsString) (phase : FilePhase) : Prop :=
  phase.held = held ∧ phase.absent = absent

section ActiveLive
variable {held : Option (LockName × Nat)} {absent : Option JsString} {phase : FilePhase}

theorem releaseActive_follows (sessionId : JsString) (h : phase.Keeps held absent) :
    Prog.FollowsM (fileWatch deps) (fun phase _ => phase.Keeps held absent) (fun phase _ => phase.Keeps held absent)
      (releaseActive sessionId) phase := by
  unfold releaseActive
  refine Prog.FollowsM.bind (Prog.FollowsM.call (M := fileWatch deps) FileOp.readActive (fun r => r) rfl trivial ?_
    fun _ _ _ _ => h)
  rintro _ active - -
  cases active with
  | none => exact Prog.FollowsM.pure h
  | some record =>
    show Prog.FollowsM _ _ _ (if record.sessionId ≠ sessionId then _ else _) phase
    split
    · exact Prog.FollowsM.pure h
    · exact Prog.FollowsM.call (M := fileWatch deps) FileOp.unlinkActive (fun r => r) rfl trivial (fun _ _ _ _ => h)
        fun _ _ _ _ => h

theorem expireFound_follows (now : Int) (found : Option OperationsDemoSession) (h : phase.Keeps held absent) :
    Prog.FollowsM (fileWatch deps) (fun phase _ => phase.Keeps held absent) (fun phase _ => phase.Keeps held absent)
      (expireFound now found) phase := by
  cases found with
  | none => exact Prog.FollowsM.pure h
  | some session =>
    show Prog.FollowsM _ _ _ (if session.workflowState = .expired then _ else _) phase
    split
    · exact Prog.FollowsM.pure h
    · exact Prog.FollowsM.call (M := fileWatch deps) (FileOp.writeSession (.expired session) (expireActive now session))
        (fun r => r) rfl ⟨now, rfl⟩ (fun _ _ _ _ => h) fun _ _ _ _ => h

theorem activeLive_follows (h : phase.Keeps held absent) :
    Prog.FollowsM (fileWatch deps) (fun phase _ => phase.Keeps held absent) (fun phase _ => phase.Keeps held absent)
      activeLive phase := by
  unfold activeLive
  refine Prog.FollowsM.bind (Prog.FollowsM.call (M := fileWatch deps) FileOp.readActive (fun r => r) rfl trivial ?_
    fun _ _ _ _ => h)
  rintro _ active - -
  cases active with
  | none => exact Prog.FollowsM.pure h
  | some record =>
    refine Prog.FollowsM.bind (Prog.FollowsM.lift (Prog.Follows.perform trivial fun clock _ => ?_))
    show Prog.FollowsM _ _ _ (if (show Clock from clock) 0 < record.expiresAt then _ else _) phase
    split
    · exact Prog.FollowsM.pure h
    · refine Prog.FollowsM.bind (Prog.FollowsM.call (M := fileWatch deps) (FileOp.readSession record.sessionId)
        (fun r => r) rfl trivial ?_ fun _ _ _ hr => ?_)
      · rintro _ found - rfl
        refine Prog.FollowsM.bind (Prog.FollowsM.mono (expireFound_follows _ found ?_) ?_)
        · cases found <;> exact h
        · intro phase' _ h'
          refine Prog.FollowsM.bind (Prog.FollowsM.mono (releaseActive_follows record.sessionId h') ?_)
          intro phase'' _ h''
          exact Prog.FollowsM.pure h''
      · cases hr
        exact h

end ActiveLive

/-- A program whose body keeps the lock gives it back. -/
theorem withLock_follows {α : Type} {name : LockName} {body : FileM α}
    (hbody : ∀ token, Prog.FollowsM (fileWatch deps) (fun phase _ => phase.held = some (name, token))
      (fun phase _ => phase.held = some (name, token)) body ⟨some (name, token), none, none⟩) :
    Prog.FollowsM (fileWatch deps) (fun _ _ => True) (fun _ _ => True) (FileM.withLock name body) ⟨none, none, none⟩ := by
  unfold FileM.withLock
  refine Prog.FollowsM.bind (Prog.FollowsM.call (M := fileWatch deps) (FileOp.lock name) (fun r => r) rfl rfl ?_
    fun _ _ _ _ => trivial)
  rintro _ token - rfl
  refine Prog.Follows.bind (Prog.Follows.mono (hbody token) ?_)
  intro phase r hr
  have hheld : phase.held = some (name, token) := by
    cases r <;> exact hr
  refine ⟨hheld, fun _ _ => ?_⟩
  cases r <;> trivial

theorem createLocked_follows (new : NewSession) (token : Nat) :
    Prog.FollowsM (fileWatch deps) (fun phase _ => phase.held = some (.create, token))
      (fun phase _ => phase.held = some (.create, token)) (createLocked new.session)
      ⟨some (.create, token), none, none⟩ := by
  unfold createLocked
  refine Prog.FollowsM.bind (Prog.FollowsM.lift (Prog.Follows.perform trivial fun found _ => ?_))
  cases found with
  | true => exact Prog.FollowsM.throw rfl
  | false =>
    refine Prog.FollowsM.bind (Prog.FollowsM.mono
      (Q := fun phase _ => phase.Keeps (some (.create, token)) (some new.session.sessionId)) ?_ ?_)
    · show Prog.FollowsM _ _ _ (if new.session.mode = .live then _ else _)
        (⟨some (.create, token), none, some new.session.sessionId⟩ : FilePhase)
      split
      · have hkeeps : FilePhase.Keeps (some (.create, token)) (some new.session.sessionId)
            ⟨some (.create, token), none, some new.session.sessionId⟩ := ⟨rfl, rfl⟩
        refine Prog.FollowsM.bind (Prog.FollowsM.mono_error (Prog.FollowsM.mono (activeLive_follows hkeeps) ?_)
          fun _ _ h => h.1)
        intro phase active h
        cases active with
        | some record => exact Prog.FollowsM.throw h.1
        | none =>
          exact Prog.FollowsM.call (M := fileWatch deps) (FileOp.writeActive new.session.activeRecord) (fun r => r) rfl
            trivial (fun _ _ _ _ => h) fun _ _ _ _ => h.1
      · exact Prog.FollowsM.pure ⟨rfl, rfl⟩
    · intro phase _ h
      refine Prog.FollowsM.call (M := fileWatch deps) (FileOp.writeSession .created new.session) (fun r => r) rfl ?_ ?_ ?_
      · exact ⟨⟨token, h.1⟩, h.2, new.version, new.events⟩
      · exact fun _ _ _ _ => h.1
      · exact fun _ _ _ _ => h.1

theorem settleActive_follows (next : OperationsDemoSession) {held : Option (LockName × Nat)} {phase : FilePhase}
    (h : phase.held = held) :
    Prog.FollowsM (fileWatch deps) (fun phase _ => phase.held = held) (fun phase _ => phase.held = held)
      (settleActive next) phase := by
  unfold settleActive
  split
  · split
    · have hkeeps : phase.Keeps held phase.absent := ⟨h, rfl⟩
      refine Prog.FollowsM.mono_error (Prog.FollowsM.mono (releaseActive_follows next.sessionId hkeeps) ?_)
        fun _ _ h' => h'.1
      exact fun _ _ h' => h'.1
    · exact Prog.FollowsM.call (M := fileWatch deps) (FileOp.writeActive next.activeRecord) (fun r => r) rfl trivial
        (fun _ _ _ _ => h) fun _ _ _ _ => h
  · exact Prog.FollowsM.pure h

theorem mutateLocked_follows (sessionId : JsString) (change : SessionChange) (token : Nat) :
    Prog.FollowsM (fileWatch deps) (fun phase _ => phase.held = some (.session sessionId, token))
      (fun phase _ => phase.held = some (.session sessionId, token))
      (do
        let current ← loadSession sessionId
        let clock ← FileM.clock
        finishMutate deps.sha256Hex deps.config change clock current)
      ⟨some (.session sessionId, token), none, none⟩ := by
  refine Prog.FollowsM.bind (Prog.FollowsM.mono (Q := fun phase current => current.sessionId = sessionId ∧
    phase = (⟨some (.session sessionId, token), some current, none⟩ : FilePhase)) ?_ ?_)
  · unfold loadSession
    refine Prog.FollowsM.bind (Prog.FollowsM.call (M := fileWatch deps) (FileOp.readSession sessionId) (fun r => r) rfl
      trivial ?_ fun _ _ _ hr => ?_)
    · rintro _ found hmay rfl
      cases found with
      | none => exact Prog.FollowsM.throw rfl
      | some current => exact Prog.FollowsM.pure ⟨hmay, rfl⟩
    · cases hr
      rfl
  rintro _ current ⟨rfl, rfl⟩
  refine Prog.FollowsM.bind (Prog.FollowsM.lift (Prog.Follows.perform trivial fun clock _ => ?_))
  show Prog.FollowsM _ _ _ (finishMutate deps.sha256Hex deps.config change clock current)
    (⟨some (.session current.sessionId, token), some current, none⟩ : FilePhase)
  unfold finishMutate
  refine Prog.FollowsM.bind (Prog.FollowsM.ofExcept ?_ fun _ _ => rfl)
  intro next happly
  refine Prog.FollowsM.bind (Prog.FollowsM.ofExcept ?_ fun _ _ => rfl)
  intro _ _
  refine Prog.FollowsM.bind (Prog.FollowsM.call (M := fileWatch deps) (FileOp.writeSession (.mutated current) next)
    (fun r => r) rfl ?_ ?_ fun _ _ _ _ => rfl)
  · exact ⟨⟨token, rfl⟩, rfl, change, clock, happly⟩
  · rintro _ _ - -
    refine Prog.FollowsM.bind (Prog.FollowsM.mono (settleActive_follows next rfl) ?_)
    intro phase _ h
    exact Prog.FollowsM.pure h

theorem fileCall_follows (call : StoreCall) :
    (fileCall deps call).run.Follows (fileWatch deps) (fun _ _ => True) ⟨none, none, none⟩ := by
  cases call with
  | create new => exact Prog.FollowsM.follows (withLock_follows (createLocked_follows new))
  | mutate sessionId change =>
    refine Prog.FollowsM.follows (Prog.FollowsM.bind (Prog.FollowsM.mono
      (withLock_follows (mutateLocked_follows sessionId change)) ?_))
    exact fun _ _ _ => Prog.FollowsM.pure trivial
  | activeLive =>
    have hkeeps : FilePhase.Keeps none none ⟨none, none, none⟩ := ⟨rfl, rfl⟩
    refine Prog.FollowsM.follows (Prog.FollowsM.bind (Prog.FollowsM.mono_error (Prog.FollowsM.mono
      (activeLive_follows hkeeps) ?_) fun _ _ _ => trivial))
    exact fun _ _ _ => Prog.FollowsM.pure trivial

end Follows

/-! ## Histories -/

section Histories
variable {deps : DemoDeps} {session next : OperationsDemoSession}

/-- The version is computed from the one before it: by a callback, or by an expiry. -/
def ComputedFrom (deps : DemoDeps) (session next : OperationsDemoSession) : Prop :=
  (∃ change clock, SessionChange.apply deps.sha256Hex deps.config clock session change = .ok next) ∨
    ∃ now, next = expireActive now session

/-- The next version of a session. -/
structure Succeeds (deps : DemoDeps) (session next : OperationsDemoSession) : Prop where
  computed : ComputedFrom deps session next
  version : next.recordVersion = session.recordVersion + 1
  events : session.events <+: next.events

theorem ComputedFrom.succeeds (h : ComputedFrom deps session next) : Succeeds deps session next := by
  refine ⟨h, ?_, ?_⟩
  · rcases h with ⟨change, clock, happly⟩ | ⟨now, rfl⟩
    · exact (apply_identity happly).1
    · rfl
  · rcases h with ⟨change, clock, happly⟩ | ⟨now, rfl⟩
    · rcases apply_events happly with hevents | ⟨type, data, time, hevents⟩ <;> rw [hevents]
      exact List.prefix_append ..
    · exact List.prefix_rfl

theorem ComputedFrom.sessionId (h : ComputedFrom deps session next) : next.sessionId = session.sessionId := by
  rcases h with ⟨change, clock, happly⟩ | ⟨now, rfl⟩
  · exact (apply_identity happly).2.1
  · rfl

theorem ComputedFrom.numbered (h : ComputedFrom deps session next) (hevents : Numbered session.events) :
    Numbered next.events := by
  rcases h with ⟨change, clock, happly⟩ | ⟨now, rfl⟩
  · rcases apply_events happly with hnext | ⟨type, data, time, hnext⟩
    · rwa [hnext]
    · rw [hnext]
      refine hevents.concat ?_
      have hcursor := hevents.cursorAfter_initial List.prefix_rfl
      exact congrArg (· + 1) hcursor
  · exact hevents

/-- Every version is computed from the one before it, the first is new, and the events are numbered. -/
structure Linear (deps : DemoDeps) (versions : List OperationsDemoSession) : Prop where
  chain : versions.IsChain (Succeeds deps)
  first : ∀ session, versions.head? = some session → session.recordVersion = 1
  numbered : ∀ session ∈ versions, Numbered session.events

theorem Linear.start (h : session.recordVersion = 1) (hevents : session.events.map DemoEvent.id = [1]) :
    Linear deps [session] := by
  refine ⟨.singleton _, ?_, ?_⟩
  · rintro _ ⟨⟩
    exact h
  · intro version hmem
    have hlength : session.events.length = 1 := by
      rw [← List.length_map (f := DemoEvent.id), hevents]
      rfl
    rw [List.mem_singleton.mp hmem, Numbered, hevents, hlength]
    rfl

theorem Linear.concat {versions : List OperationsDemoSession} (h : Linear deps versions)
    (hlast : versions.getLast? = some session) (hnext : ComputedFrom deps session next) :
    Linear deps (versions ++ [next]) := by
  refine ⟨?_, ?_, ?_⟩
  · refine List.IsChain.append h.chain (.singleton _) ?_
    rintro x hx y ⟨⟩
    rw [hlast] at hx
    cases hx
    exact hnext.succeeds
  · intro first hfirst
    refine h.first first ?_
    cases versions with
    | nil => cases hlast
    | cons v vs => exact hfirst
  · intro version hversion
    rcases List.mem_append.mp hversion with hmem | hmem
    · exact h.numbered version hmem
    · obtain rfl := List.mem_singleton.mp hmem
      exact hnext.numbered (h.numbered session (List.mem_of_getLast? hlast))

/-- Later versions have the events of the earlier ones. -/
theorem Linear.pairwise {versions : List OperationsDemoSession} (h : Linear deps versions) :
    versions.Pairwise fun session next => session.events <+: next.events := by
  let extends' (session next : OperationsDemoSession) : Prop := session.events <+: next.events
  have htrans : Trans extends' extends' extends' := ⟨fun h h' => List.IsPrefix.trans h h'⟩
  exact (List.IsChain.imp (S := extends') (fun _ _ hs => hs.events) h.chain).pairwise

end Histories

/-! ## The invariant -/

/-- What the programs hold and have seen is so. -/
structure Held (deps : DemoDeps) (phases : Nat → FilePhase) (w : FileWorld) : Prop where
  keyed : ∀ id session, w.disk.sessions id = some session → session.sessionId = id
  locked : ∀ n name token, (phases n).held = some (name, token) → token = n ∧ w.disk.locks name = some n
  seen : ∀ n token base, (phases n).held = some (.session base.sessionId, token) → (phases n).seen = some base →
    w.disk.sessions base.sessionId = some base
  absent : ∀ n token id, (phases n).held = some (.create, token) → (phases n).absent = some id →
    w.disk.sessions id = none
  linear : ∀ id, Linear deps (w.history id)
  latest : ∀ id, (w.history id).getLast? = w.disk.sessions id

section Steps
variable {deps : DemoDeps} {phases : Nat → FilePhase} {w w' : FileWorld} {n : Nat}

/-- No two programs hold one lock. -/
theorem Held.exclusive (h : Held deps phases w) {m token token' : Nat} {name : LockName}
    (hn : (phases n).held = some (name, token)) (hm : (phases m).held = some (name, token')) : n = m := by
  have hln := (h.locked n name token hn).2
  have hlm := (h.locked m name token' hm).2
  exact Option.some.inj (hln.symm.trans hlm)

/-- A step that writes no session and moves no lock. -/
theorem Held.advance (h : Held deps phases w) (hsessions : w'.disk.sessions = w.disk.sessions)
    (hlocks : w'.disk.locks = w.disk.locks) (hhistory : w'.history = w.history) {phase : FilePhase}
    (hheld : phase.held = none ∨ phase.held = (phases n).held)
    (hseen : ∀ base, phase.seen = some base → (phases n).seen = some base ∨ w.disk.sessions base.sessionId = some base)
    (habsent : ∀ id, phase.absent = some id → (phases n).absent = some id ∨ w.disk.sessions id = none) :
    Held deps (Function.update phases n phase) w' := by
  have hback (m : Nat) (lock : LockName × Nat) (hm : (Function.update phases n phase m).held = some lock) :
      (phases m).held = some lock := by
    rw [Function.update_apply] at hm
    split at hm
    · next heq =>
      subst heq
      rcases hheld with hheld | hheld
      · rw [hheld] at hm
        cases hm
      · exact hheld ▸ hm
    · exact hm
  refine ⟨?_, ?_, ?_, ?_, ?_, ?_⟩
  · rw [hsessions]
    exact h.keyed
  · intro m name token hm
    rw [hlocks]
    exact h.locked m name token (hback m _ hm)
  · intro m token base hm hbase
    rw [hsessions]
    have hold := hback m _ hm
    rw [Function.update_apply] at hbase
    split at hbase
    · next heq =>
      subst heq
      rcases hseen base hbase with hseen | hseen
      · exact h.seen _ token base hold hseen
      · exact hseen
    · exact h.seen m token base hold hbase
  · intro m token id hm hid
    rw [hsessions]
    have hold := hback m _ hm
    rw [Function.update_apply] at hid
    split at hid
    · next heq =>
      subst heq
      rcases habsent id hid with habsent | habsent
      · exact h.absent _ token id hold habsent
      · exact habsent
    · exact h.absent m token id hold hid
  · rw [hhistory]
    exact h.linear
  · rw [hhistory, hsessions]
    exact h.latest

/-- A lock is taken where no program holds it. -/
theorem Held.lock (h : Held deps phases w) {name : LockName}
    (hfree : ∀ m token, (phases m).held ≠ some (name, token)) :
    Held deps (Function.update phases n ⟨some (name, n), none, none⟩)
      { w with disk := w.disk.withLock name (some n) } := by
  refine ⟨h.keyed, ?_, ?_, ?_, h.linear, h.latest⟩
  · intro m name' token hm
    show token = m ∧ Function.update w.disk.locks name (some n) name' = some m
    rw [Function.update_apply] at hm
    split at hm
    · next heq =>
      subst heq
      cases hm
      exact ⟨rfl, Function.update_self ..⟩
    · obtain ⟨htoken, hlock⟩ := h.locked m name' token hm
      refine ⟨htoken, ?_⟩
      rw [Function.update_of_ne]
      · exact hlock
      · rintro rfl
        exact hfree m token hm
  · intro m token base hm hbase
    rw [Function.update_apply] at hm hbase
    split at hm
    · next heq =>
      rw [if_pos heq] at hbase
      cases hbase
    · next hne =>
      rw [if_neg hne] at hbase
      exact h.seen m token base hm hbase
  · intro m token id hm hid
    rw [Function.update_apply] at hm hid
    split at hm
    · next heq =>
      rw [if_pos heq] at hid
      cases hid
    · next hne =>
      rw [if_neg hne] at hid
      exact h.absent m token id hm hid

/-- A lock is given back by the program that holds it. -/
theorem Held.unlock (h : Held deps phases w) {name : LockName} {token : Nat}
    (hheld : (phases n).held = some (name, token)) :
    Held deps (Function.update phases n ⟨none, none, none⟩) { w with disk := w.disk.unlock name token } := by
  obtain ⟨rfl, hlock⟩ := h.locked n name token hheld
  have hother : Held deps (Function.update phases token ⟨none, none, none⟩) w :=
    h.advance rfl rfl rfl (.inl rfl) (by simp) (by simp)
  refine ⟨?_, ?_, ?_, ?_, h.linear, ?_⟩
  · simpa using hother.keyed
  · intro m name' token' hm
    have hm' : (phases m).held = some (name', token') ∧ m ≠ token := by
      rw [Function.update_apply] at hm
      split at hm
      · cases hm
      · next hne => exact ⟨hm, hne⟩
    obtain ⟨htoken', hlock'⟩ := h.locked m name' token' hm'.1
    refine ⟨htoken', ?_⟩
    show (w.disk.unlock name token).locks name' = some m
    rw [Disk.unlock, if_pos hlock]
    show Function.update w.disk.locks name none name' = some m
    rw [Function.update_of_ne]
    · exact hlock'
    · rintro rfl
      rw [hlock] at hlock'
      exact hm'.2 (Option.some.inj hlock').symm
  · simpa using hother.seen
  · simpa using hother.absent
  · simpa using hother.latest

/-- A session is written, and no other program relies on the version before. -/
theorem Held.write (h : Held deps phases w) {session : OperationsDemoSession} {phase : FilePhase}
    (hheld : phase.held = (phases n).held) (hnone : phase.seen = none)
    (hkept : phase.absent = none ∨ phase.absent = (phases n).absent)
    (hlinear : Linear deps (w.history session.sessionId ++ [session]))
    (hseen : ∀ m token base, m ≠ n → (phases m).held = some (.session base.sessionId, token) →
      (phases m).seen = some base → base.sessionId ≠ session.sessionId)
    (habsent : ∀ m token, (phases m).held = some (.create, token) → (phases m).absent = some session.sessionId →
      m = n ∧ phase.absent = none) :
    Held deps (Function.update phases n phase) (w.write session) := by
  have hback (m : Nat) : (Function.update phases n phase m).held = (phases m).held := by
    rw [Function.update_apply]
    split
    · next heq => rw [heq, hheld]
    · rfl
  refine ⟨?_, ?_, ?_, ?_, ?_, ?_⟩
  · intro id found hfound
    rcases Disk.sessions_of_writeSession hfound with ⟨rfl, rfl⟩ | ⟨-, hfound⟩
    · rfl
    · exact h.keyed id found hfound
  · intro m name token hm
    exact h.locked m name token (hback m ▸ hm)
  · intro m token base hm hbase
    rw [hback] at hm
    rw [Function.update_apply] at hbase
    split at hbase
    · rw [hnone] at hbase
      cases hbase
    · next hne =>
      have hid := hseen m token base hne hm hbase
      exact (Disk.writeSession_of_ne _ _ hid).trans (h.seen m token base hm hbase)
  · intro m token id hm hid
    rw [hback] at hm
    have hold : (phases m).absent = some id := by
      rw [Function.update_apply] at hid
      split at hid
      · next heq =>
        subst heq
        rcases hkept with hkept | hkept
        · rw [hkept] at hid
          cases hid
        · exact hkept ▸ hid
      · exact hid
    have hne : id ≠ session.sessionId := by
      rintro rfl
      obtain ⟨rfl, hphase⟩ := habsent m token hm hold
      rw [Function.update_self, hphase] at hid
      cases hid
    exact (Disk.writeSession_of_ne _ _ hne).trans (h.absent m token id hm hold)
  · intro id
    by_cases hid : id = session.sessionId
    · subst hid
      rw [FileWorld.write_history_self]
      exact hlinear
    · rw [FileWorld.write_history_of_ne _ _ hid]
      exact h.linear id
  · intro id
    by_cases hid : id = session.sessionId
    · subst hid
      rw [FileWorld.write_history_self, List.getLast?_concat]
      exact (Disk.writeSession_self ..).symm
    · rw [FileWorld.write_history_of_ne _ _ hid, h.latest id]
      exact (Disk.writeSession_of_ne _ _ hid).symm

/-- A version computed from the durable one, which no other program is about to write over. -/
theorem Held.write_next (h : Held deps phases w) {base session : OperationsDemoSession}
    (hbase : w.disk.sessions base.sessionId = some base) (hnext : ComputedFrom deps base session)
    (hfree : ∀ m token, m ≠ n → (phases m).held ≠ some (.session base.sessionId, token)) :
    Held deps (Function.update phases n { phases n with seen := none }) (w.write session) := by
  have hid := hnext.sessionId
  refine h.write rfl rfl (.inr rfl) ?_ ?_ ?_
  · rw [hid]
    exact (h.linear _).concat ((h.latest _).trans hbase) hnext
  · intro m token base' hne hm _ heq
    rw [heq, hid] at hm
    exact hfree m token hne hm
  · intro m token hm habsent
    have := h.absent m token _ hm habsent
    rw [hid, hbase] at this
    cases this

/-- The first version of a session. -/
theorem Held.write_first (h : Held deps phases w) {session : OperationsDemoSession} {token : Nat}
    (hheld : (phases n).held = some (.create, token)) (habsent : (phases n).absent = some session.sessionId)
    (hversion : session.recordVersion = 1) (hevents : session.events.map DemoEvent.id = [1]) :
    Held deps (Function.update phases n ⟨(phases n).held, none, none⟩) (w.write session) := by
  have hnone := h.absent n token _ hheld habsent
  have hhistory : w.history session.sessionId = [] := by
    rw [← List.getLast?_eq_none_iff, h.latest, hnone]
  refine h.write rfl rfl (.inl rfl) ?_ ?_ ?_
  · rw [hhistory]
    exact .start hversion hevents
  · intro m token' base _ hm hbase heq
    have := h.seen m token' base hm hbase
    rw [heq, hnone] at this
    cases this
  · intro m token' hm _
    exact ⟨(h.exclusive hheld hm).symm, rfl⟩

end Steps

/-! ## Runs -/

/-- An expiry by `activeLive` is written over the version it was computed from, while no call that runs holds the lock of
the session. -/
def ExpiresAlone (s : FilePool) : FileLabel → Prop
  | .call _ (.writeSession (.expired base) _) _ =>
    s.shared.disk.sessions base.sessionId = some base ∧
      ∀ m, s.shared.disk.locks (.session base.sessionId) = some m → s.threads m = none
  | _ => True

section Runs
variable {deps : DemoDeps} {ls : List FileLabel} {s : FilePool}

abbrev aloneSystem (deps : DemoDeps) : System FilePool FileLabel := (fileSystem deps).restrict ExpiresAlone

theorem keyed_of_effect {w w' : FileWorld} {op : FileOp} {r : op.Ans} (h : FileEffect w op r w')
    (hkeyed : ∀ id session, w.disk.sessions id = some session → session.sessionId = id) :
    ∀ id session, w'.disk.sessions id = some session → session.sessionId = id := by
  have hsame (hsessions : w'.disk.sessions = w.disk.sessions) :
      ∀ id session, w'.disk.sessions id = some session → session.sessionId = id := by
    rw [hsessions]
    exact hkeyed
  cases op with
  | lock name => rcases h with ⟨token, -, rfl⟩ | ⟨-, rfl⟩ <;> exact hsame rfl
  | unlock name token =>
    obtain rfl := h
    exact hsame (Disk.unlock_sessions ..)
  | clock =>
    obtain rfl := h
    exact hsame rfl
  | existsSession id | readSession id | readActive =>
    obtain ⟨rfl, -⟩ := h
    exact hsame rfl
  | writeActive record => rcases h with rfl | ⟨-, rfl⟩ <;> exact hsame rfl
  | unlinkActive => rcases h with rfl | ⟨-, rfl⟩ <;> exact hsame rfl
  | writeSession origin session =>
    rcases h with rfl | ⟨-, rfl⟩
    · intro id found hfound
      rcases Disk.sessions_of_writeSession hfound with ⟨rfl, rfl⟩ | ⟨-, hfound⟩
      · rfl
      · exact hkeyed id found hfound
    · exact hsame rfl

theorem keyed_of_run (h : (fileSystem deps).Run ls s) :
    ∀ id session, s.shared.disk.sessions id = some session → session.sessionId = id := by
  refine System.Run.induction (S := fileSystem deps)
    (I := fun _ s => ∀ id session, s.shared.disk.sessions id = some session → session.sessionId = id) ?_ ?_ h
  · rintro s ⟨hempty, -⟩ id session hfound
    rw [show s.shared = FileWorld.empty from hempty] at hfound
    cases hfound
  · rintro ls s l t - ih ⟨hstep, -⟩
    cases hstep with
    | call hn heffect => exact keyed_of_effect heffect ih
    | start hn => exact ih
    | lost => exact ih

theorem file_watched_of_run (h : (fileSystem deps).Run ls s) : (fileWatch deps).Watched (fun _ _ => True) ls s := by
  refine Monitor.watched_of_run (fun _ => fileCall_follows _) ?_ h
  intro ls s n op r w hrun heffect _
  cases op with
  | readSession id =>
    cases r with
    | error e => trivial
    | ok found =>
      cases found with
      | none => trivial
      | some session =>
        rcases heffect.2 with hr | ⟨e, hr⟩
        · exact keyed_of_run hrun id session (Except.ok.inj hr).symm
        · cases hr
  | _ => trivial

/-- One call of a program. -/
theorem Held.call {phases : Nat → FilePhase} {w w' : FileWorld} {n : Nat} {op : FileOp} {r : op.Ans}
    (h : Held deps phases w) (hok : (fileWatch deps).ok (phases n) op) (heffect : FileEffect w op r w')
    (hlock : ∀ name token, (⟨op, r⟩ : (op : FileOp) × op.Ans) = ⟨.lock name, .ok token⟩ →
      token = n ∧ ∀ m token, (phases m).held ≠ some (name, token))
    (hexpire : ∀ base session, op = .writeSession (.expired base) session →
      w.disk.sessions base.sessionId = some base ∧ ∀ m token, (phases m).held ≠ some (.session base.sessionId, token)) :
    Held deps (Function.update phases n ((fileWatch deps).next (phases n) op r)) w' := by
  have hstay (hsessions : w'.disk.sessions = w.disk.sessions) (hlocks : w'.disk.locks = w.disk.locks)
      (hhistory : w'.history = w.history) : Held deps (Function.update phases n (phases n)) w' :=
    h.advance hsessions hlocks hhistory (.inr rfl) (fun _ hbase => .inl hbase) fun _ hid => .inl hid
  cases op with
  | lock name =>
    rcases heffect with ⟨token, rfl, rfl⟩ | ⟨⟨e, rfl⟩, rfl⟩
    · obtain ⟨rfl, hfree⟩ := hlock name token rfl
      exact h.lock hfree
    · exact hstay rfl rfl rfl
  | unlock name token =>
    obtain rfl := heffect
    exact h.unlock hok
  | clock =>
    obtain rfl := heffect
    exact hstay rfl rfl rfl
  | existsSession id =>
    obtain ⟨rfl, hr⟩ := heffect
    cases r with
    | true => exact hstay rfl rfl rfl
    | false =>
      refine h.advance rfl rfl rfl (.inr rfl) (fun _ hbase => .inl hbase) ?_
      rintro _ ⟨⟩
      exact .inr (Option.not_isSome_iff_eq_none.mp (by simp [← hr]))
  | readSession id =>
    obtain ⟨rfl, hr⟩ := heffect
    rcases hr with rfl | ⟨e, rfl⟩
    · cases hfound : w'.disk.sessions id with
      | none => exact hstay rfl rfl rfl
      | some session =>
        refine h.advance rfl rfl rfl (.inr rfl) ?_ fun _ hid => .inl hid
        rintro _ ⟨⟩
        exact .inr (h.keyed id session hfound ▸ hfound)
    · exact hstay rfl rfl rfl
  | readActive =>
    obtain ⟨rfl, -⟩ := heffect
    exact hstay rfl rfl rfl
  | writeActive record => rcases heffect with rfl | ⟨-, rfl⟩ <;> exact hstay rfl rfl rfl
  | unlinkActive => rcases heffect with rfl | ⟨-, rfl⟩ <;> exact hstay rfl rfl rfl
  | writeSession origin session =>
    cases origin with
    | created =>
      obtain ⟨⟨token, hheld⟩, habsent, hversion, hevents⟩ := hok
      rcases heffect with rfl | ⟨-, rfl⟩
      · exact h.write_first hheld habsent hversion hevents
      · exact h.advance rfl rfl rfl (.inr rfl) (fun _ hbase => by cases hbase) fun _ hid => by cases hid
    | mutated base =>
      obtain ⟨⟨token, hheld⟩, hseen, hcomputed⟩ := hok
      rcases heffect with rfl | ⟨-, rfl⟩
      · refine h.write_next (h.seen n token base hheld hseen) (.inl hcomputed) ?_
        intro m token' hne hm
        exact hne (h.exclusive hm hheld)
      · exact h.advance rfl rfl rfl (.inr rfl) (fun _ hbase => by cases hbase) fun _ hid => .inl hid
    | expired base =>
      obtain ⟨hbase, hfree⟩ := hexpire base session rfl
      rcases heffect with rfl | ⟨-, rfl⟩
      · exact h.write_next hbase (.inr hok) fun m token _ => hfree m token
      · exact h.advance rfl rfl rfl (.inr rfl) (fun _ hbase => by cases hbase) fun _ hid => .inl hid

theorem held_of_run (h : (aloneSystem deps).Run ls s) : Held deps ((fileWatch deps).phase ls) s.shared := by
  refine System.Run.induction (S := aloneSystem deps)
    (I := fun ls s => Held deps ((fileWatch deps).phase ls) s.shared) ?_ ?_ h
  · rintro s ⟨hempty, -⟩
    rw [show s.shared = FileWorld.empty from hempty]
    refine ⟨?_, ?_, ?_, ?_, ?_, fun _ => rfl⟩
    · intro id session hfound
      cases hfound
    · intro n name token hheld
      cases hheld
    · intro n token base hheld
      cases hheld
    · intro n token id hheld
      cases hheld
    · exact fun id => ⟨.nil, by simp [FileWorld.empty], by simp [FileWorld.empty]⟩
  · rintro ls s l t hrun ih ⟨⟨hstep, hexclude⟩, halone⟩
    have hfile := hrun.of_restrict
    -- a lock that no running call holds is held by no program
    have hfree (name : LockName) (hlocks : ∀ m, s.shared.disk.locks name = some m → s.threads m = none) (m token : Nat) :
        ((fileWatch deps).phase ls m).held ≠ some (name, token) := by
      intro hm
      have hnone := hlocks m (ih.locked m name token hm).2
      rw [Monitor.phase_of_none hfile.of_restrict m hnone] at hm
      cases hm
    have hidle (n : Nat) : Held deps (Function.update ((fileWatch deps).phase ls) n (fileWatch deps).start) s.shared :=
      ih.advance rfl rfl rfl (.inl rfl) (by simp [fileWatch]) (by simp [fileWatch])
    cases hstep with
    | start hn =>
      rw [Monitor.phase_start]
      exact hidle _
    | lost =>
      rw [Monitor.phase_lost]
      exact hidle _
    | @call n op k r w hn heffect =>
      rw [Monitor.phase_call]
      refine ih.call ((file_watched_of_run hfile).ok hn) heffect ?_ ?_
      · rintro name token heq
        cases heq
        exact ⟨hexclude.1, hfree name hexclude.2⟩
      · rintro base session rfl
        exact ⟨halone.1, hfree _ halone.2⟩

end Runs

/-! ## Clients of the event stream -/

section Clients
variable {deps : DemoDeps} {versions : List OperationsDemoSession}

/-- A connection that polls the versions at these positions, and of whose events so many reach the client. -/
structure Polling where
  positions : List Nat
  reached : Nat

def Polling.connection (versions : List OperationsDemoSession) (polling : Polling) : Connection :=
  ⟨polling.positions.filterMap fun i => versions[i]?.map OperationsDemoSession.events, polling.reached⟩

/-- A client polls a session again and again, and never an older version after a later one. -/
def InOrderOfTime (pollings : List Polling) : Prop := (pollings.flatMap Polling.positions).Pairwise (· ≤ ·)

theorem Linear.events_initial (h : Linear deps versions) {i j : Nat} (hij : i ≤ j) {session next : OperationsDemoSession}
    (hi : versions[i]? = some session) (hj : versions[j]? = some next) : session.events <+: next.events := by
  obtain ⟨hilt, rfl⟩ := List.getElem?_eq_some_iff.mp hi
  obtain ⟨hjlt, rfl⟩ := List.getElem?_eq_some_iff.mp hj
  rcases Nat.eq_or_lt_of_le hij with rfl | hlt
  · exact List.prefix_rfl
  · exact List.pairwise_iff_getElem.mp h.pairwise i j hilt hjlt hlt

theorem Linear.polls_grow (h : Linear deps versions) {pollings : List Polling} (hsorted : InOrderOfTime pollings) :
    ((pollings.map (Polling.connection versions)).flatMap Connection.polls).Pairwise (· <+: ·) := by
  have hpolls : (pollings.map (Polling.connection versions)).flatMap Connection.polls =
      (pollings.flatMap Polling.positions).filterMap fun i => versions[i]?.map OperationsDemoSession.events := by
    rw [List.flatMap_map, List.filterMap_flatMap]
    rfl
  rw [hpolls, List.pairwise_filterMap]
  refine List.Pairwise.imp ?_ hsorted
  intro i j hij events hevents events' hevents'
  obtain ⟨session, hi, rfl⟩ := Option.map_eq_some_iff.mp hevents
  obtain ⟨next, hj, rfl⟩ := Option.map_eq_some_iff.mp hevents'
  exact h.events_initial hij hi hj

/-- What is polled is a first part of the events of the latest version. -/
theorem Linear.polls_initial (h : Linear deps versions) {latest : OperationsDemoSession}
    (hlatest : versions.getLast? = some latest) {pollings : List Polling} :
    ∀ connection ∈ pollings.map (Polling.connection versions), ∀ events ∈ connection.polls, events <+: latest.events := by
  intro connection hconnection events hevents
  obtain ⟨polling, -, rfl⟩ := List.mem_map.mp hconnection
  obtain ⟨i, -, hmap⟩ := List.mem_filterMap.mp hevents
  obtain ⟨session, hi, rfl⟩ := Option.map_eq_some_iff.mp hmap
  have hlt := (List.getElem?_eq_some_iff.mp hi).1
  rw [List.getLast?_eq_getElem?] at hlatest
  exact h.events_initial (by omega) hi hlatest

end Clients

/-! ## An expiry that comes late -/

namespace Late

def deps : DemoDeps where
  config := ⟨12, 50, 15, 60⟩
  liveEnabled := true
  liveDisabledCode := .demoLiveDisabled
  liveAdapter := true
  podWorkflow := true
  adminTokenMatches _ := true
  sha256Hex := Sha256.sha256Hex

def sid : JsString := js "demo-1"

def new : NewSession := .initial deps .live sid 0 0 ⟨12, 0, 0, none, 12, 0, 50⟩ []

def reservation : SessionChange := .reserve ⟨.fundEscrow, js "act-1", js "idempotency-1", .obj []⟩ []

/-- Sixteen minutes have passed. -/
def late (_ : FileWorld) : Int := 960000

/-- Sixteen minutes have passed once the session is written a second time. -/
def lateAfterwards (w : FileWorld) : Int := if (w.history sid).length ≤ 1 then 0 else 960000

/-- Nothing fails. Call 0 is the only one to create a session, call 2 to mutate one. -/
def answer (time : FileWorld → Int) (w : FileWorld) : (op : FileOp) → Option (op.Ans × FileWorld)
  | .lock .create => some (.ok 0, { w with disk := w.disk.withLock .create (some 0) })
  | .lock (.session id) => some (.ok 2, { w with disk := w.disk.withLock (.session id) (some 2) })
  | .unlock name token => some ((), { w with disk := w.disk.unlock name token })
  | .clock => some (fun _ => time w, w)
  | .existsSession id => some ((w.disk.sessions id).isSome, w)
  | .readSession id => some (.ok (w.disk.sessions id), w)
  | .writeSession _ session => some (.ok (), w.write session)
  | .readActive => some (.ok w.disk.active, w)
  | .writeActive record => some (.ok (), { w with disk := w.disk.withActive (some record) })
  | .unlinkActive => some (.ok (), { w with disk := w.disk.withActive none })

theorem answer_effect {time : FileWorld → Int} (w : FileWorld) (op : FileOp) (r : op.Ans × FileWorld)
    (h : answer time w op = some r) : FileEffect w op r.1 r.2 := by
  cases op with
  | lock name =>
    cases name with
    | create =>
      cases h
      exact .inl ⟨0, rfl, rfl⟩
    | session id =>
      cases h
      exact .inl ⟨2, rfl, rfl⟩
  | unlock | clock =>
    cases h
    rfl
  | existsSession id =>
    cases h
    exact ⟨rfl, rfl⟩
  | readSession | readActive =>
    cases h
    exact ⟨rfl, .inl rfl⟩
  | writeSession | writeActive | unlinkActive =>
    cases h
    exact .inl rfl

def locksExclude (s : FilePool) : FileLabel → Bool
  | .call n (.lock name) (.ok token) => token = n && (s.shared.disk.locks name).all fun m => (s.threads m).isNone
  | _ => true

theorem locksExclude_sound {s : FilePool} {l : FileLabel} (h : locksExclude s l = true) : LocksExclude s l := by
  cases l with
  | call n op r =>
    cases op with
    | lock name =>
      cases r with
      | error e => trivial
      | ok token =>
        rw [locksExclude, Bool.and_eq_true, decide_eq_true_eq] at h
        refine ⟨h.1, ?_⟩
        intro m hm
        have hfree := h.2
        rw [hm] at hfree
        simpa using hfree
    | _ => trivial
  | _ => trivial

/-- An expiry is written over its version, and no call that runs holds the lock. -/
def alone (s : FilePool) : FileLabel → Bool
  | .call _ (.writeSession (.expired base) _) _ =>
    s.shared.disk.sessions base.sessionId = some base &&
      (s.shared.disk.locks (.session base.sessionId)).all fun m => (s.threads m).isNone
  | _ => true

theorem expiresAlone_of_alone {s : FilePool} {l : FileLabel} (h : (locksExclude s l && alone s l) = true) :
    locksExclude s l = true ∧ ExpiresAlone s l := by
  rw [Bool.and_eq_true] at h
  refine ⟨h.1, ?_⟩
  have halone := h.2
  cases l with
  | call n op r =>
    cases op with
    | writeSession origin session =>
      cases origin with
      | expired base =>
        rw [alone, Bool.and_eq_true, decide_eq_true_eq] at halone
        refine ⟨halone.1, ?_⟩
        intro m hm
        have hfree := halone.2
        rw [hm] at hfree
        simpa using hfree
      | _ => trivial
    | _ => trivial
  | _ => trivial

def played (time : FileWorld → Int) (check : FilePool → FileLabel → Bool) (moves : List (Move StoreCall)) :
    Option (List FileLabel × FilePool) :=
  Pool.play (fun call => (fileCall deps call).run) (answer time) check moves ⟨FileWorld.empty, fun _ => none⟩

theorem run_of_played {time : FileWorld → Int} {check : FilePool → FileLabel → Bool} {C : FilePool → FileLabel → Prop}
    (hcheck : ∀ s l, check s l = true → locksExclude s l = true ∧ C s l) {moves : List (Move StoreCall)}
    {ls : List FileLabel} {s : FilePool} (h : played time check moves = some (ls, s)) :
    ((fileSystem deps).restrict C).Run ls s := by
  refine ⟨_, ⟨rfl, rfl⟩, System.Steps.mono ?_ (steps_of_play answer_effect (· = FileWorld.empty) h)⟩
  rintro s l t ⟨hstep, hl⟩
  obtain ⟨hfree, hc⟩ := hcheck s l hl
  exact ⟨⟨hstep, locksExclude_sound hfree⟩, hc⟩

def creation : List (Move StoreCall) := Move.request 0 (.create new) 6
def reservationMoves : List (Move StoreCall) := Move.request 2 (.mutate sid reservation) 6

/-- An action is reserved, and then `activeLive` finds the session expired. -/
def aloneMoves : List (Move StoreCall) := creation ++ reservationMoves ++ Move.request 1 .activeLive 4

/-- `activeLive` has read the session when the action is reserved, and then writes it as expired. -/
def moves : List (Move StoreCall) :=
  creation ++ Move.request 1 .activeLive 3 ++ reservationMoves ++ [Move.call 1]

def versions (s : FilePool) : List (Nat × List Nat) :=
  (s.shared.history sid).map fun session => (session.recordVersion, session.events.map DemoEvent.id)

end Late

/-! ## The result -/

/-- **Writes are linear.** Where sessions expire alone, the versions of a session are computed one from the other, each one
version up and with the events of the one before, which are numbered 1, 2, 3; the last is the durable one. A client that
reconnects any number of times with the id it received last has a first part of these events, and all that the version
it polled last has when everything sent on its last connection arrives. -/
theorem writes_linear (deps : DemoDeps) {ls : List FileLabel} {s : FilePool} (h : (aloneSystem deps).Run ls s)
    (id : JsString) {latest : OperationsDemoSession} (hlatest : s.shared.disk.sessions id = some latest) :
    Linear deps (s.shared.history id) ∧ (s.shared.history id).getLast? = some latest ∧
      (∀ pollings, InOrderOfTime pollings →
        receiveAll (pollings.map (Polling.connection (s.shared.history id))) <+: latest.events) ∧
      ∀ pollings polling polled, InOrderOfTime (pollings ++ [polling]) →
        (polling.connection (s.shared.history id)).polls.getLast? = some polled → polled.length ≤ polling.reached →
          receiveAll ((pollings ++ [polling]).map (Polling.connection (s.shared.history id))) = polled := by
  have hheld := held_of_run h
  have hlinear := hheld.linear id
  have hlast : (s.shared.history id).getLast? = some latest := (hheld.latest id).trans hlatest
  have hnumbered := hlinear.numbered latest (List.mem_of_getLast? hlast)
  refine ⟨hlinear, hlast, ?_, ?_⟩
  · intro pollings hsorted
    exact receiveAll_initial hnumbered (hlinear.polls_initial hlast) (hlinear.polls_grow hsorted)
  · intro pollings polling polled hsorted hpolled hreached
    have hinitial : ∀ connection ∈ (pollings ++ [polling]).map (Polling.connection (s.shared.history id)),
        ∀ events ∈ connection.polls, events <+: latest.events := hlinear.polls_initial hlast
    have hgrows := hlinear.polls_grow hsorted
    rw [List.map_append, List.map_singleton] at hinitial hgrows ⊢
    exact receiveAll_complete hnumbered hinitial hgrows hpolled hreached

/-- A session is created, reserved and expired. A client that lost its connection twice has a first part of its events. -/
theorem writes_linear_expired :
    ∃ ls s latest, (aloneSystem Late.deps).Run ls s ∧ s.shared.disk.sessions Late.sid = some latest ∧
      latest.recordVersion = 3 ∧ latest.workflowState = .expired ∧ Linear Late.deps (s.shared.history Late.sid) ∧
      receiveAll ([⟨[0], 1⟩, ⟨[1], 0⟩, ⟨[2], 1⟩].map (Polling.connection (s.shared.history Late.sid))) <+:
        latest.events := by
  have hplay : ∃ r ∈ Late.played Late.lateAfterwards (fun s l => Late.locksExclude s l && Late.alone s l) Late.aloneMoves,
      (r.2.shared.disk.sessions Late.sid).any fun session =>
        session.recordVersion = 3 && session.workflowState = .expired := by
    decide
  obtain ⟨⟨ls, s⟩, hr, hexpired⟩ := hplay
  have hrun := Late.run_of_played (C := ExpiresAlone) (fun _ _ => Late.expiresAlone_of_alone) hr
  obtain ⟨latest, hlatest, hfacts⟩ := (Option.any_eq_true _ _).mp hexpired
  simp only [Bool.and_eq_true, decide_eq_true_eq] at hfacts
  obtain ⟨hlinear, -, hreceived, -⟩ := writes_linear Late.deps hrun Late.sid hlatest
  exact ⟨ls, s, latest, hrun, hlatest, hfacts.1, hfacts.2, hlinear, hreceived _ (by unfold InOrderOfTime; decide)⟩

/-- `activeLive` writes over a version it has not read: the version does not go up, and an event is gone. -/
theorem write_lost :
    ∃ ls s, (fileSystem Late.deps).Run ls s ∧
      (s.shared.history Late.sid).map (fun session => (session.recordVersion, session.events.map DemoEvent.id)) =
        [(1, [1]), (2, [1, 2]), (2, [1])] := by
  have hplay : ∃ r ∈ Late.played Late.late Late.locksExclude Late.moves,
      Late.versions r.2 = [(1, [1]), (2, [1, 2]), (2, [1])] := by
    decide
  obtain ⟨⟨ls, s⟩, hr, hversions⟩ := hplay
  have hrun := Late.run_of_played (C := fun _ _ => True) (fun _ _ h => ⟨h, trivial⟩) hr
  exact ⟨ls, s, hrun.of_restrict, hversions⟩

end RouteGuard.Demo
