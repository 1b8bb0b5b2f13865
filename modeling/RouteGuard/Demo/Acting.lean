import RouteGuard.Demo.Changes
import RouteGuard.Demo.Orchestrator

/-!
# Calls of `act` on one session

Any number of `act` calls on one session, interleaved at their awaits. Each `mutate` is one step, which may also fail,
before or after its write.

* `DemoWorld`, `DemoEffect`, `FreshSession` : the session with the actions committed to it, and the calls on it;
* `ActPhase`, `actWatch` : what one call does in its own order;
* `Watches`, `act_follows_of` : a monitor that sees more, and the programs that follow it;
* `Exclusive` : at most one call has an action in flight, as long as no failure clears the mark of another action.
-/

namespace RouteGuard.Demo
open JsString Json Guarded

/-! ## The session and the calls on it -/

/-- The session, and what has been committed to it: the actions with the states they led to. -/
structure DemoWorld where
  session : OperationsDemoSession
  commits : List (DemoAction × DemoWorkflowState)

/-- The world after a callback has been applied. -/
def DemoWorld.put (w : DemoWorld) (next : OperationsDemoSession) : SessionChange → DemoWorld
  | .commit request _ intendedState _ => ⟨next, w.commits ++ [(request.action, intendedState)]⟩
  | _ => ⟨next, w.commits⟩

@[simp] theorem DemoWorld.put_session (w : DemoWorld) (next : OperationsDemoSession) (change : SessionChange) :
    (w.put next change).session = next := by
  cases change <;> rfl

/-- The states the session has confirmed, in order. -/
def DemoWorld.confirmedStates (w : DemoWorld) : List DemoWorkflowState := .created :: w.commits.map Prod.snd

section Effect
variable (deps : DemoDeps) (sid : JsString)

/-- `mutate` applies the callback and may yet fail, or fails without a write. -/
def MutateEffect (w : DemoWorld) (change : SessionChange) (r : Except DemoThrown OperationsDemoSession)
    (w' : DemoWorld) : Prop :=
  (∃ clock next, change.apply deps.sha256Hex deps.config clock w.session = .ok next ∧ w' = w.put next change ∧
    (r = .ok next ∨ ∃ e, r = .error e)) ∨
  ((∃ e, r = .error e) ∧ w' = w)

/-- What a call does to the session `sid`, and what it answers. -/
def DemoEffect (w : DemoWorld) : (op : DemoOp) → op.Ans → DemoWorld → Prop
  | .get id, r, w' => w' = w ∧ (id = sid → r = .ok (some w.session) ∨ ∃ e, r = .error e)
  | .mutate id change, r, w' => if id = sid then MutateEffect deps w change r w' else w' = w
  | _, _, w' => w' = w

/-- A session as `createSession` stores it. -/
def FreshSession (mode : DemoMode) (w : DemoWorld) : Prop :=
  w.commits = [] ∧ ∃ now eventTime budget evidence hcsSequences evidenceHash,
    w.session =
      if mode = .replay then
        replaySession (initialSession deps mode sid now eventTime budget evidence) hcsSequences evidenceHash
      else initialSession deps mode sid now eventTime budget evidence

abbrev ActPool := Pool DemoWorld DemoOp DemoOp.Ans (Except DemoThrown DemoActionResult)
abbrev ActLabel := PoolLabel DemoActionRequest DemoOp DemoOp.Ans

end Effect

theorem identity_of_effect {deps : DemoDeps} {sid : JsString} {w w' : DemoWorld} {op : DemoOp} {r : op.Ans}
    (h : DemoEffect deps sid w op r w') :
    w'.session.sessionId = w.session.sessionId ∧ w'.session.mode = w.session.mode := by
  cases op with
  | mutate id change =>
    by_cases hid : id = sid
    · rcases (if_pos hid).mp h with ⟨clock, next, happly, rfl, -⟩ | ⟨-, rfl⟩
      · rw [DemoWorld.put_session]
        exact (apply_identity happly).2
      · exact ⟨rfl, rfl⟩
    · rw [(if_neg hid).mp h]
      exact ⟨rfl, rfl⟩
  | get id =>
    rw [h.1]
    exact ⟨rfl, rfl⟩
  | _ =>
    rw [show w' = w from h]
    exact ⟨rfl, rfl⟩

/-! ## One call in its own order -/

/-- How far a call of `act` is: its action is in flight, its commit has been asked for, or its failure is recorded. -/
inductive ActPhase where
  | idle
  | acting (request : DemoActionRequest)
  | asked (request : DemoActionRequest)
  | over

/-- After a reservation: the action is in flight, unless it was found committed. -/
def ActPhase.reserved (phase : ActPhase) (request : DemoActionRequest) (session : OperationsDemoSession) : ActPhase :=
  match session.actionResults.read request.actionId with
  | .value _ => phase
  | _ => .acting request

/-- What is watched of one call on a session whose mode is one of `modes`. -/
def actWatch (sid : JsString) (modes : DemoMode → Prop) : Monitor ActPhase DemoOp DemoOp.Ans where
  start := .idle
  next phase op r :=
    match op, r with
    | .mutate _ (.reserve request _), .ok session => phase.reserved request session
    | .mutate _ (.commit request ..), _ => .asked request
    | .mutate _ (.fail ..), _ => .over
    | _, _ => phase
  may op r :=
    match op, r with
    | .get id, .ok (some session) => id = sid → modes session.mode
    | .mutate id _, .ok session => id = sid → modes session.mode
    | _, _ => True
  ok phase op :=
    match op with
    | .mutate id (.reserve request _) =>
      phase = .idle ∧ id = sid ∧ (∃ mode, modes mode ∧ mode ≠ .replay) ∧ isActionId request.actionId = true ∧
        (ACTION_TRANSITIONS request.action).isSome
    | .mutate id (.commit request _ intendedState _) =>
      phase = .acting request ∧ id = sid ∧ (∃ mode, modes mode ∧ mode ≠ .replay) ∧
        ∃ source, ACTION_TRANSITIONS request.action = some (source, intendedState)
    | .mutate id (.fail request _) => (phase = .acting request ∨ phase = .asked request) ∧ id = sid
    | .execute _ request intendedState _ =>
      phase = .acting request ∧ ∃ source, ACTION_TRANSITIONS request.action = some (source, intendedState)
    | .create _ => False
    | _ => True

/-! ## Monitors that see more -/

/-- The calls of the orchestrator itself, which commits only results that meet `R`, and counts their writes. -/
def DemoOp.Orchestral (R : AdapterActionResult → Prop) : DemoOp → Prop
  | .get _ | .now | .podService .. => True
  | .recordDailyWriteSuccess count => 0 < count ∧ ∃ executed, R executed ∧ executed.writes = count
  | .mutate _ (.commit _ _ _ executed) => R executed
  | .mutate _ (.journal _) => False
  | .mutate .. => True
  | _ => False

/-- A monitor that sees at least what `actWatch` sees, and asks nothing more of the orchestrator. -/
structure Watches {μ : Type} (M : Monitor μ DemoOp DemoOp.Ans) (sid : JsString) (modes : DemoMode → Prop)
    (R : AdapterActionResult → Prop) (phase : μ → ActPhase) : Prop where
  next : ∀ m op r, phase (M.next m op r) = (actWatch sid modes).next (phase m) op r
  may : ∀ op r, M.may op r → (actWatch sid modes).may op r
  ok : ∀ m op, op.Orchestral R → (actWatch sid modes).ok (phase m) op → M.ok m op

theorem watches_actWatch (sid : JsString) (modes : DemoMode → Prop) :
    Watches (actWatch sid modes) sid modes (fun _ => True) id :=
  ⟨fun _ _ _ => rfl, fun _ _ h => h, fun _ _ _ h => h⟩

/-- What is known when the body of the `try` fails. -/
def Failable (request : DemoActionRequest) (phase : ActPhase) : Prop := phase = .acting request ∨ phase = .asked request

section Follows
variable {μ : Type} {M : Monitor μ DemoOp DemoOp.Ans} {deps : DemoDeps} {sid : JsString} {modes : DemoMode → Prop}
  {R : AdapterActionResult → Prop} {phase : μ → ActPhase} {m : μ} {request : DemoActionRequest}

theorem getSession_follows_of (hM : Watches M sid modes R phase) {E : μ → DemoThrown → Prop}
    (hE : ∀ m' e, phase m' = phase m → E m' e) :
    Prog.FollowsM M (fun m' session => phase m' = phase m ∧ modes session.mode) E (getSession sid) m := by
  unfold getSession
  refine Prog.FollowsM.bind (Prog.FollowsM.call (M := M) (.get sid) (fun r => r) rfl (hM.ok _ _ trivial trivial) ?_
    fun r e _ _ => hE _ e (hM.next m _ r))
  rintro _ found hmay rfl
  have hphase : phase (M.next m (.get sid) (.ok found)) = phase m := hM.next ..
  generalize M.next m (.get sid) (.ok found) = m₁ at hphase ⊢
  cases found with
  | none => exact Prog.FollowsM.throw (hE _ _ hphase)
  | some session =>
    have hmode : modes session.mode := hM.may _ _ hmay rfl
    show Prog.FollowsM _ _ _ (if session.workflowState.isTerminal then _ else _) m₁
    split
    · exact Prog.FollowsM.pure ⟨hphase, hmode⟩
    · refine Prog.FollowsM.bind (Prog.FollowsM.lift (Prog.Follows.perform (hM.ok _ _ trivial trivial) fun now _ => ?_))
      have hphase' : phase (M.next m₁ .now now) = phase m := (hM.next ..).trans hphase
      show Prog.FollowsM _ _ _ (if (show Int from now) < session.expiresAt then _ else _) (M.next m₁ .now now)
      split
      · exact Prog.FollowsM.pure ⟨hphase', hmode⟩
      · refine Prog.FollowsM.call (M := M) (.mutate sid .expire) (fun r => r) rfl (hM.ok _ _ trivial trivial) ?_
          fun r e _ _ => hE _ e ((hM.next _ _ r).trans hphase')
        rintro _ session hmay rfl
        exact ⟨(hM.next ..).trans hphase', hM.may _ _ hmay rfl⟩

theorem podResult_follows (hM : Watches M sid modes R phase) {session : OperationsDemoSession}
    (hm : phase m = .acting request) :
    Prog.FollowsM M (fun m _ => phase m = .acting request) (fun m _ => Failable request (phase m))
      (podResult deps session request) m := by
  unfold podResult
  split
  · split
    · refine Prog.FollowsM.bind (Prog.FollowsM.call (M := M) (.podService session request) (fun r => r) rfl
        (hM.ok _ _ trivial trivial) ?_ fun r _ _ _ => .inl ((hM.next _ _ r).trans hm))
      intro r _ _ _
      exact Prog.FollowsM.pure ((hM.next _ _ r).trans hm)
    · exact Prog.FollowsM.throw (.inl hm)
  · exact Prog.FollowsM.pure hm

/-- An adapter that keeps to the monitor while its action is in flight, and whose results meet `R`. -/
def AdapterFollows (M : Monitor μ DemoOp DemoOp.Ans) (sid : JsString) (R : AdapterActionResult → Prop)
    (phase : μ → ActPhase) (adapter : Adapter) (request : DemoActionRequest) : Prop :=
  ∀ session identityHash intendedState pod m, phase m = .acting request →
    (∃ source, ACTION_TRANSITIONS request.action = some (source, intendedState)) →
      M.may (.mutate sid (.reserve request identityHash)) (.ok session) →
        Prog.FollowsM M (fun m executed => phase m = .acting request ∧ R executed)
          (fun m _ => Failable request (phase m)) (adapter session request intendedState pod) m

variable {adapter : Adapter}

theorem executeAndCommit_follows (hM : Watches M sid modes R phase)
    (hadapter : AdapterFollows M sid R phase adapter request) {session : OperationsDemoSession} {identityHash : JsString}
    {intendedState : DemoWorkflowState} (hmode : ∃ mode, modes mode ∧ mode ≠ .replay)
    (hsource : ∃ source, ACTION_TRANSITIONS request.action = some (source, intendedState))
    (hsession : M.may (.mutate sid (.reserve request identityHash)) (.ok session)) (hm : phase m = .acting request) :
    Prog.FollowsM M (fun _ _ => True) (fun m _ => Failable request (phase m))
      (executeAndCommit deps adapter sid session request identityHash intendedState) m := by
  unfold executeAndCommit
  refine Prog.FollowsM.bind (Prog.FollowsM.mono (podResult_follows hM hm) ?_)
  intro m₁ pod hm₁
  refine Prog.FollowsM.bind (Prog.FollowsM.mono (hadapter session identityHash intendedState pod m₁ hm₁ hsource hsession) ?_)
  rintro m₂ executed ⟨hm₂, hexecuted⟩
  have hasked (r : Except DemoThrown OperationsDemoSession) :
      phase (M.next m₂ (.mutate sid (.commit request identityHash intendedState executed)) r) = .asked request :=
    hM.next ..
  refine Prog.FollowsM.bind (Prog.FollowsM.call (M := M)
    (.mutate sid (.commit request identityHash intendedState executed)) (fun r => r) rfl
    (hM.ok _ _ hexecuted ⟨hm₂, rfl, hmode, hsource⟩) ?_ fun r _ _ _ => .inr (hasked r))
  rintro _ committed - rfl
  have hm₃ := hasked (.ok committed)
  generalize M.next m₂ (.mutate sid (.commit request identityHash intendedState executed)) (.ok committed) = m₃ at hm₃ ⊢
  have hresult (m₄ : μ) (hm₄ : phase m₄ = .asked request) : Prog.FollowsM M (fun _ _ => True)
      (fun m _ => Failable request (phase m))
      (match committed.actionResults.read request.actionId with
        | .value result => pure result.response
        | _ => throw .other : DemoM DemoActionResult) m₄ := by
    split
    · exact Prog.FollowsM.pure trivial
    · exact Prog.FollowsM.throw (.inr hm₄)
  show Prog.FollowsM _ _ _ (if 0 < executed.writes then _ else _) m₃
  split
  · next hwrites =>
    refine Prog.FollowsM.bind (Prog.FollowsM.call (M := M) (.recordDailyWriteSuccess executed.writes) (fun r => r) rfl
      (hM.ok _ _ ⟨hwrites, executed, hexecuted, rfl⟩ trivial) ?_ fun r _ _ _ => .inr ((hM.next _ _ r).trans hm₃))
    intro r _ _ _
    exact hresult _ ((hM.next _ _ r).trans hm₃)
  · exact hresult m₃ hm₃

theorem runReserved_follows (hM : Watches M sid modes R phase)
    (hadapter : AdapterFollows M sid R phase adapter request) {session : OperationsDemoSession} {identityHash : JsString}
    {intendedState : DemoWorkflowState} (hmode : ∃ mode, modes mode ∧ mode ≠ .replay)
    (hsource : ∃ source, ACTION_TRANSITIONS request.action = some (source, intendedState))
    (hsession : M.may (.mutate sid (.reserve request identityHash)) (.ok session)) (hm : phase m = .acting request) :
    Prog.FollowsM M (fun _ _ => True) (fun _ _ => True)
      (runReserved deps adapter sid session request identityHash intendedState) m := by
  unfold runReserved
  split
  · refine Prog.FollowsM.tryCatch (executeAndCommit_follows hM hadapter hmode hsource hsession hm) ?_
    intro m' e hm'
    refine Prog.FollowsM.bind (Prog.FollowsM.call (M := M) (.mutate sid (.fail request e)) (fun r => r) rfl
      (hM.ok _ _ trivial ⟨hm', rfl⟩) ?_ fun _ _ _ _ => trivial)
    intro _ _ _ _
    exact Prog.FollowsM.throw trivial
  · exact Prog.FollowsM.throw trivial

theorem assertSafeActionRequest_ok {u : Unit} (h : assertSafeActionRequest request = .ok u) :
    isActionId request.actionId = true := by
  simp only [assertSafeActionRequest, bind_eq_ok, require_eq_ok, exists_const] at h
  exact h.1

theorem act_follows_of (hM : Watches M sid modes R phase) (hadapter : AdapterFollows M sid R phase adapter request)
    (hm : phase m = .idle) :
    Prog.FollowsM M (fun _ _ => True) (fun _ _ => True) (act deps adapter sid request) m := by
  unfold act
  refine Prog.FollowsM.bind (Prog.FollowsM.ofExcept ?_ fun _ _ => trivial)
  intro u hsafe
  refine Prog.FollowsM.bind (Prog.FollowsM.mono (getSession_follows_of hM fun _ _ _ => trivial) ?_)
  rintro m₁ session ⟨hm₁, hmode⟩
  split
  · exact Prog.FollowsM.throw trivial
  · next hreplay =>
    split
    · next prior _ =>
      show Prog.FollowsM _ _ _ (if prior.identityHash = actionIdentityHash deps.sha256Hex request then _ else _) m₁
      split
      · exact Prog.FollowsM.pure trivial
      · exact Prog.FollowsM.throw trivial
    · exact Prog.FollowsM.throw trivial
    · refine Prog.FollowsM.bind (Prog.FollowsM.ofExcept ?_ fun _ _ => trivial)
      intro intendedState htransition
      have hmode' : ∃ mode, modes mode ∧ mode ≠ .replay := ⟨_, hmode, hreplay⟩
      have hsource := (transitionFor_ok htransition).2
      have hidle : phase m₁ = .idle := hm₁.trans hm
      refine Prog.FollowsM.bind (Prog.FollowsM.call (M := M)
        (.mutate sid (.reserve request (actionIdentityHash deps.sha256Hex request))) (fun r => r) rfl
        (hM.ok _ _ trivial ⟨hidle, rfl, hmode', assertSafeActionRequest_ok hsafe, by rw [hsource]; rfl⟩) ?_
        fun _ _ _ _ => trivial)
      rintro _ reserved hmay rfl
      have hnext : phase (M.next m₁ (.mutate sid (.reserve request (actionIdentityHash deps.sha256Hex request)))
          (.ok reserved)) = ActPhase.idle.reserved request reserved := by
        refine (hM.next ..).trans ?_
        rw [hidle]
        rfl
      generalize M.next m₁ (.mutate sid (.reserve request (actionIdentityHash deps.sha256Hex request))) (.ok reserved) =
        m₂ at hnext ⊢
      unfold ActPhase.reserved at hnext
      show Prog.FollowsM _ _ _ _ m₂
      cases hread : reserved.actionResults.read request.actionId with
      | value committed => exact Prog.FollowsM.pure trivial
      | inherited | undefined =>
        rw [hread] at hnext
        exact runReserved_follows hM hadapter hmode' ⟨_, hsource⟩ hmay hnext

end Follows

section AnyAdapter
variable {deps : DemoDeps} {sid : JsString} {modes : DemoMode → Prop} {request : DemoActionRequest}

theorem getSession_follows {E : ActPhase → DemoThrown → Prop} {phase : ActPhase} (hE : ∀ e, E phase e) :
    Prog.FollowsM (actWatch sid modes) (fun phase' session => phase' = phase ∧ modes session.mode) E (getSession sid)
      phase := by
  refine getSession_follows_of (watches_actWatch sid modes) ?_
  rintro _ e rfl
  exact hE e

theorem journal_follows {id : JsString} (work : List JournalChange) :
    Prog.FollowsM (actWatch sid modes) (fun phase _ => phase = .acting request) (fun phase _ => Failable request phase)
      (work.forM (DemoM.journal id)) (.acting request) := by
  induction work with
  | nil => exact Prog.FollowsM.pure rfl
  | cons change work ih =>
    refine Prog.FollowsM.bind ?_
    refine Prog.FollowsM.bind (Prog.FollowsM.lift (Prog.Follows.perform trivial fun r _ => ?_))
    cases r <;> exact Prog.FollowsM.pure ih

/-- The adapter leaves the call where it is. -/
theorem anyAdapter_follows :
    AdapterFollows (actWatch sid modes) sid (fun _ => True) id anyAdapter request := by
  rintro session identityHash intendedState pod _ rfl hsource -
  unfold anyAdapter
  refine Prog.FollowsM.bind (Prog.FollowsM.lift (Prog.Follows.perform ⟨rfl, hsource⟩ fun script _ => ?_))
  obtain ⟨work, outcome⟩ := script
  refine Prog.FollowsM.bind (Prog.FollowsM.mono (journal_follows work) ?_)
  rintro _ _ rfl
  exact Prog.FollowsM.ofExcept (fun _ _ => ⟨rfl, trivial⟩) fun _ _ => .inl rfl

theorem act_follows :
    Prog.FollowsM (actWatch sid modes) (fun _ _ => True) (fun _ _ => True) (act deps anyAdapter sid request) .idle :=
  act_follows_of (watches_actWatch sid modes) anyAdapter_follows rfl

end AnyAdapter

/-! ## One action in flight -/

/-- The action is marked on the session and not committed. -/
structure Marked (w : DemoWorld) (request : DemoActionRequest) : Prop where
  marked : w.session.inFlightActionId = some request.actionId
  named : request.actionId ≠ []
  uncommitted : w.session.actionResults.lookup request.actionId = none

/-- The call has an action in flight that is not committed. -/
def ActPhase.Owns (w : DemoWorld) (request : DemoActionRequest) (phase : ActPhase) : Prop :=
  phase = .acting request ∨ phase = .asked request ∧ w.session.actionResults.lookup request.actionId = none

/-- At most one call has an action in flight; the action is the one marked on the session, and `P` holds of it. -/
structure Exclusive (P : DemoWorld → DemoActionRequest → Prop) (phases : Nat → ActPhase) (w : DemoWorld) : Prop where
  marked : ∀ n request, (phases n).Owns w request → Marked w request
  holds : ∀ n request, (phases n).Owns w request → P w request
  unique : ∀ n m request request', (phases n).Owns w request → (phases m).Owns w request' → n = m

/-- A failure finds no mark of another action. -/
def OwnFailure (sid : JsString) (w : DemoWorld) : DemoOp → Prop
  | .mutate id (.fail request _) =>
    id = sid → w.session.inFlightActionId = none ∨ w.session.inFlightActionId = some request.actionId
  | _ => True

/-- A reservation that marks its action finds `P` of it. -/
def Reserves (sid : JsString) (P : DemoWorld → DemoActionRequest → Prop) (w : DemoWorld) : DemoOp → Prop
  | .mutate id (.reserve request _) =>
    id = sid → w.session.actionResults.read request.actionId = .undefined → truthy w.session.inFlightActionId = false →
      P w request
  | _ => True

section Steps
variable {P : DemoWorld → DemoActionRequest → Prop} {deps : DemoDeps} {sid : JsString} {modes : DemoMode → Prop}
  {phases : Nat → ActPhase} {w w' : DemoWorld} {n : Nat} {request : DemoActionRequest}

theorem not_owns_idle (request : DemoActionRequest) : ¬ ActPhase.idle.Owns w request := by
  rintro (h | ⟨h, -⟩) <;> cases h

theorem not_owns_over (request : DemoActionRequest) : ¬ ActPhase.over.Owns w request := by
  rintro (h | ⟨h, -⟩) <;> cases h

/-- What owns after one call has moved. -/
theorem owns_update {phase : ActPhase} {m : Nat} :
    (Function.update phases n phase m).Owns w request ↔
      m = n ∧ phase.Owns w request ∨ m ≠ n ∧ (phases m).Owns w request := by
  by_cases hm : m = n
  · subst hm
    simp
  · simp [hm]

theorem Exclusive.of_none (h : ∀ m request, ¬ (phases m).Owns w request) : Exclusive P phases w :=
  ⟨fun m request hm => absurd hm (h m request), fun m request hm => absurd hm (h m request),
    fun m _ request _ hm => absurd hm (h m request)⟩

/-- A call moves to where it owns no action, or to where it owned the same one. -/
theorem Exclusive.move (h : Exclusive P phases w) {phase : ActPhase}
    (hphase : ∀ request, phase.Owns w request → (phases n).Owns w request) :
    Exclusive P (Function.update phases n phase) w := by
  have hback (m : Nat) (request : DemoActionRequest) (hm : (Function.update phases n phase m).Owns w request) :
      (phases m).Owns w request := by
    rcases owns_update.mp hm with ⟨rfl, hown⟩ | ⟨-, hown⟩
    · exact hphase request hown
    · exact hown
  exact ⟨fun m request hm => h.marked m request (hback m request hm),
    fun m request hm => h.holds m request (hback m request hm),
    fun m m' request request' hm hm' => h.unique m m' request request' (hback m request hm) (hback m' request' hm')⟩

/-- A write that leaves the mark and the results alone. -/
theorem Exclusive.frame (h : Exclusive P phases w)
    (hmark : w'.session.inFlightActionId = w.session.inFlightActionId)
    (hresults : w'.session.actionResults = w.session.actionResults) (hP : ∀ request, P w request → P w' request) :
    Exclusive P phases w' := by
  have howns (m : Nat) (request : DemoActionRequest) (hm : (phases m).Owns w' request) : (phases m).Owns w request := by
    simpa only [ActPhase.Owns, hresults] using hm
  refine ⟨?_, fun m request hm => hP request (h.holds m request (howns m request hm)), ?_⟩
  · intro m request hm
    have hold := h.marked m request (howns m request hm)
    exact ⟨hmark ▸ hold.marked, hold.named, hresults ▸ hold.uncommitted⟩
  · intro m m' request request' hm hm'
    exact h.unique m m' request request' (howns m request hm) (howns m' request' hm')

/-- Without a mark on the session no call owns an action. -/
theorem Exclusive.not_owns (h : Exclusive P phases w) (hmark : truthy w.session.inFlightActionId = false) (m : Nat)
    (request : DemoActionRequest) : ¬ (phases m).Owns w request := by
  intro hm
  have hold := h.marked m request hm
  rw [hold.marked] at hmark
  simp [truthy, hold.named] at hmark

theorem isActionId_ne_nil {text : JsString} (h : isActionId text = true) : text ≠ [] := by
  rintro rfl
  cases h

/-- A reservation that marks its action. -/
theorem Exclusive.reserve (h : Exclusive P phases w) (hid : isActionId request.actionId = true)
    (hread : w.session.actionResults.read request.actionId = .undefined)
    (hmark : truthy w.session.inFlightActionId = false)
    (hmark' : w'.session.inFlightActionId = some request.actionId)
    (hresults : w'.session.actionResults = w.session.actionResults) (hP : P w' request) {phase : ActPhase}
    (hphase : phase = .idle ∨ phase = .acting request) : Exclusive P (Function.update phases n phase) w' := by
  have howns (m : Nat) (request' : DemoActionRequest) (hm : (Function.update phases n phase m).Owns w' request') :
      m = n ∧ request' = request := by
    rcases owns_update.mp hm with ⟨rfl, hown⟩ | ⟨-, hown⟩
    · refine ⟨rfl, ?_⟩
      rcases hphase with rfl | rfl
      · exact absurd hown (not_owns_idle request')
      · rcases hown with hown | ⟨hown, -⟩ <;> cases hown
        rfl
    · refine absurd ?_ (h.not_owns hmark m request')
      simpa only [ActPhase.Owns, hresults] using hown
  refine ⟨?_, ?_, ?_⟩
  · intro m request' hm
    obtain ⟨-, rfl⟩ := howns m request' hm
    exact ⟨hmark', isActionId_ne_nil hid, hresults ▸ (PlainObject.read_eq_undefined.mp hread).1⟩
  · intro m request' hm
    obtain ⟨-, rfl⟩ := howns m request' hm
    exact hP
  · intro m m' request' request'' hm hm'
    rw [(howns m request' hm).1, (howns m' request'' hm').1]

/-- After a commit no call owns an action: the one that did was the one that committed. -/
theorem Exclusive.commit (h : Exclusive P phases w) (hphase : phases n = .acting request) {committed : CommittedAction}
    (hresults : w'.session.actionResults = w.session.actionResults.insert request.actionId committed) (m : Nat)
    (request' : DemoActionRequest) : ¬ (Function.update phases n (.asked request) m).Owns w' request' := by
  have hown : (phases n).Owns w request := .inl hphase
  have hlookup : w'.session.actionResults.lookup request.actionId = some committed := by
    rw [hresults, AList.lookup_insert]
  intro hm
  rcases owns_update.mp hm with ⟨-, hm | ⟨hm, hlookup'⟩⟩ | ⟨hne, hm⟩
  · cases hm
  · cases hm
    exact absurd (hlookup.symm.trans hlookup') (by simp)
  · refine hne (h.unique m n request' request ?_ hown)
    rcases hm with hm | ⟨hm, hlookup'⟩
    · exact .inl hm
    · refine .inr ⟨hm, ?_⟩
      have hne' : request'.actionId ≠ request.actionId := by
        intro heq
        rw [heq] at hlookup'
        exact absurd (hlookup.symm.trans hlookup') (by simp)
      rwa [hresults, AList.lookup_insert_ne hne'] at hlookup'

/-- After a failure that finds no mark of another action no call owns one. -/
theorem Exclusive.fail (h : Exclusive P phases w) (hphase : phases n = .acting request ∨ phases n = .asked request)
    (hmark : w.session.inFlightActionId = none ∨ w.session.inFlightActionId = some request.actionId)
    (hresults : w'.session.actionResults = w.session.actionResults) (m : Nat) (request' : DemoActionRequest) :
    ¬ (Function.update phases n .over m).Owns w' request' := by
  intro hm
  rcases owns_update.mp hm with ⟨-, hm⟩ | ⟨hne, hm⟩
  · exact not_owns_over request' hm
  · have hown : (phases m).Owns w request' := by simpa only [ActPhase.Owns, hresults] using hm
    have hold := h.marked m request' hown
    rcases hmark with hmark | hmark
    · exact absurd (hold.marked.symm.trans hmark) (by simp)
    · -- both calls carry the marked id, so neither is committed and both own an action
      have hid : request'.actionId = request.actionId := Option.some.inj (hold.marked.symm.trans hmark)
      refine hne (h.unique m n request' request hown ?_)
      rcases hphase with hphase | hphase
      · exact .inl hphase
      · exact .inr ⟨hphase, hid ▸ hold.uncommitted⟩

theorem Exclusive.mutate (h : Exclusive P phases w) {change : SessionChange}
    {r : Except DemoThrown OperationsDemoSession}
    (hP : ∀ w' request, w'.session.lastConfirmedState = w.session.lastConfirmedState → P w request → P w' request)
    (hok : (actWatch sid modes).ok (phases n) (.mutate sid change)) (hfail : OwnFailure sid w (.mutate sid change))
    (hreserve : Reserves sid P w (.mutate sid change)) (heffect : MutateEffect deps w change r w') :
    Exclusive P (Function.update phases n ((actWatch sid modes).next (phases n) (.mutate sid change) r)) w' := by
  rcases heffect with ⟨clock, next, happly, rfl, hr⟩ | ⟨⟨e, rfl⟩, rfl⟩
  · cases change with
    | expire =>
      cases happly
      have hnext : (actWatch sid modes).next (phases n) (.mutate sid .expire) r = phases n := rfl
      rw [hnext, Function.update_eq_self]
      exact h.frame rfl rfl fun request => hP _ request rfl
    | journal change =>
      have hnext : (actWatch sid modes).next (phases n) (.mutate sid (.journal change)) r = phases n := rfl
      have hframe := journal_frame happly
      rw [hnext, Function.update_eq_self]
      refine h.frame ?_ ?_ fun request => hP _ request ?_ <;> rw [DemoWorld.put_session, hframe]
    | commit request identityHash intendedState executed =>
      obtain ⟨-, -, -, -, -, committed, hresults⟩ := commitAction_ok happly
      exact .of_none (h.commit hok.1 hresults)
    | fail request error =>
      cases happly
      exact .of_none (h.fail hok.1 (hfail rfl) rfl)
    | reserve request identityHash =>
      obtain ⟨hidle, -, -, hid, -⟩ := hok
      rcases reserveAction_ok happly with ⟨existing, hread, -, rfl⟩ | ⟨hread, hmark, rfl⟩
      · have hphase (request' : DemoActionRequest) :
            ¬ ((actWatch sid modes).next (phases n) (.mutate sid (.reserve request identityHash)) r).Owns w request' := by
          rcases hr with rfl | ⟨e, rfl⟩
          · show ¬ ((phases n).reserved request _).Owns w request'
            rw [ActPhase.reserved, hread, hidle]
            exact not_owns_idle request'
          · show ¬ (phases n).Owns w request'
            rw [hidle]
            exact not_owns_idle request'
        exact (h.move fun request' hm => absurd hm (hphase request')).frame rfl rfl fun request => hP _ request rfl
      · have hholds : P w request := hreserve rfl hread hmark
        refine h.reserve hid hread hmark ?_ ?_ (hP _ request ?_ hholds) ?_
        any_goals rfl
        rcases hr with rfl | ⟨e, rfl⟩
        · refine .inr ?_
          show (phases n).reserved request _ = .acting request
          have hread' : ((w.session.reserved request clock).withEvent .progressChange
              [(js "action", .str request.action.text), (js "progress", .str DemoProgress.validating.text)]
              (clock 1)).actionResults.read request.actionId = .undefined := hread
          rw [ActPhase.reserved, hread']
        · exact .inl hidle
  · -- nothing was written; a call that asked for its commit still owns its action
    refine h.move fun request' hm => ?_
    cases change with
    | commit request identityHash intendedState executed =>
      rcases hm with hm | ⟨hm, hlookup⟩ <;> cases hm
      exact .inl hok.1
    | fail request error => exact absurd hm (not_owns_over request')
    | _ => exact hm

/-- One more call keeps the actions apart. -/
theorem Exclusive.call (h : Exclusive P phases w) {op : DemoOp} {r : op.Ans}
    (hP : ∀ w' request, w'.session.lastConfirmedState = w.session.lastConfirmedState → P w request → P w' request)
    (hok : (actWatch sid modes).ok (phases n) op) (hfail : OwnFailure sid w op) (hreserve : Reserves sid P w op)
    (heffect : DemoEffect deps sid w op r w') :
    Exclusive P (Function.update phases n ((actWatch sid modes).next (phases n) op r)) w' := by
  cases op with
  | mutate id change =>
    by_cases hid : id = sid
    · subst hid
      exact h.mutate hP hok hfail hreserve ((if_pos rfl).mp heffect)
    · obtain rfl : w' = w := (if_neg hid).mp heffect
      cases change with
      | expire | journal change =>
        rw [show (actWatch sid modes).next (phases n) _ r = phases n from rfl, Function.update_eq_self]
        exact h
      | reserve request identityHash => exact absurd hok.2.1 hid
      | commit request identityHash intendedState executed => exact absurd hok.2.1 hid
      | fail request error => exact absurd hok.2 hid
  | get id =>
    obtain rfl : w' = w := heffect.1
    rw [show (actWatch sid modes).next (phases n) _ r = phases n from rfl, Function.update_eq_self]
    exact h
  | _ =>
    obtain rfl : w' = w := heffect
    rw [show (actWatch sid modes).next (phases n) _ r = phases n from rfl, Function.update_eq_self]
    exact h

end Steps

end RouteGuard.Demo
