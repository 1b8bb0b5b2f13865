import RouteGuard.Demo.ActionOrder

/-!
# Replayed actions

`act` looks an action id up twice: in the session it has read, and again in the callback that marks the action. Both look
it up in a plain object. For ids that `Object.prototype` does not define, each lookup gives what was committed: the
response of the same request, a conflict for another one, and nothing for an id that was not committed.

* `ReplayWorld`, `ReplayEffect`, `replaySystem` : the session with its commits, and the calls of clients on it;
* `committing_serve` : what a commit is asked with;
* `ResultsOfCommits` : the invariant, the stored results are those of the commits;
* `Answers` : what a lookup must answer; `action_replay_exact_iff` : when both lookups do.
-/

namespace RouteGuard.Demo
open JsString Json Guarded

/-! ## The identity of a request -/

/-- What is hashed. -/
def identityFields (request : DemoActionRequest) : List (JsString × Json) :=
  [(js "action", .str request.action.text), (js "actionId", .str request.actionId),
   (js "idempotencyKey", .str request.idempotencyKey), (js "payload", request.payload)]

def identityText (request : DemoActionRequest) : JsString := canonicalize (.obj (identityFields request))

/-- The same action, idempotency key and payload, up to the order of its keys. -/
def SameIdentity (a b : DemoActionRequest) : Prop :=
  a.action = b.action ∧ a.idempotencyKey = b.idempotencyKey ∧ Same a.payload b.payload

theorem action_text_injective {a b : DemoAction} (h : a.text = b.text) : a = b := by
  revert h
  cases a <;> cases b <;> decide

theorem distinct_identity {request : DemoActionRequest} (h : Distinct request.payload) :
    Distinct (.obj (identityFields request)) := by
  have hkeys : [js "action", js "actionId", js "idempotencyKey", js "payload"].Nodup := by decide
  exact ⟨hkeys, trivial, trivial, trivial, h, trivial⟩

theorem identityText_eq_iff {a b : DemoActionRequest} (ha : Distinct a.payload) (hb : Distinct b.payload) :
    identityText a = identityText b ↔ a.actionId = b.actionId ∧ SameIdentity a b := by
  constructor
  · intro h
    have hkeys : (identityFields a).map Prod.fst = (identityFields b).map Prod.fst := rfl
    have hvalues := canonicalize_obj_values hkeys (distinct_identity ha) (distinct_identity hb) h
    simp only [identityFields, List.map_cons, List.map_nil, List.cons.injEq, and_true, canonicalize_str_inj,
      canonicalize_eq_iff ha hb] at hvalues
    obtain ⟨haction, hid, hkey, hpayload⟩ := hvalues
    exact ⟨hid, action_text_injective haction, hkey, hpayload⟩
  · rintro ⟨hid, haction, hkey, hpayload⟩
    refine (canonicalize_eq_iff (distinct_identity ha) (distinct_identity hb)).mpr ⟨rfl, ?_⟩
    rw [identityFields, haction, hid, hkey]
    exact ⟨⟨_, .head _, rfl⟩, ⟨_, .tail _ (.head _), rfl⟩, ⟨_, .tail _ (.tail _ (.head _)), rfl⟩,
      ⟨_, .tail _ (.tail _ (.tail _ (.head _))), hpayload⟩, trivial⟩

/-! ## The programs, by their lookups -/

/-- The error for another request under the id of a committed action. -/
def identityConflict : DemoThrown :=
  .demo .demoActionConflict (js "action identity conflicts with the committed action")

section Programs
variable (deps : DemoDeps) (adapter : Adapter) (sid : JsString) (request : DemoActionRequest)

/-- The rest of `act` after the callback of the reservation. -/
def afterReserve (intendedState : DemoWorkflowState) (session : OperationsDemoSession) : DemoM DemoActionResult :=
  match session.actionResults.read request.actionId with
  | .value committed => pure committed.response
  | _ => runReserved deps adapter sid session request (actionIdentityHash deps.sha256Hex request) intendedState

/-- What `act` does for an id it has not found. -/
def takeUp (session : OperationsDemoSession) : DemoM DemoActionResult := do
  let intendedState ← (transitionFor session.transitionState request.action : Except DemoThrown _)
  let session ← DemoM.mutate sid (.reserve request (actionIdentityHash deps.sha256Hex request))
  afterReserve deps adapter sid request intendedState session

/-- The rest of `act` after it has read the session. -/
def actOn (session : OperationsDemoSession) : DemoM DemoActionResult :=
  if session.mode = .replay then throw (.demo .demoActionNotAllowed (js "replay is immutable"))
  else
    match session.actionResults.read request.actionId with
    | .value prior =>
      if prior.identityHash = actionIdentityHash deps.sha256Hex request then pure prior.response else throw identityConflict
    | .inherited => throw identityConflict
    | .undefined => takeUp deps adapter sid request session

/-- What `act` does for an action it does not know, in a session of any mode. -/
def unknownAction (session : OperationsDemoSession) : DemoM DemoActionResult :=
  if session.mode = .replay then throw (.demo .demoActionNotAllowed (js "replay is immutable"))
  else takeUp deps adapter sid request session

/-- The reservation on the session as it is then, with the rest of `act`. -/
def reserveOn (clock : Clock) (intendedState : DemoWorkflowState) (session : OperationsDemoSession) :
    DemoM DemoActionResult := do
  let session ←
    (reserveAction clock request (actionIdentityHash deps.sha256Hex request) session : Except DemoThrown _)
  afterReserve deps adapter sid request intendedState session

/-- The session once an action is marked. -/
def OperationsDemoSession.marked (session : OperationsDemoSession) (clock : Clock) : OperationsDemoSession :=
  (session.reserved request clock).withEvent .progressChange
    [(js "action", .str request.action.text), (js "progress", .str DemoProgress.validating.text)] (clock 1)

/-- What the reservation leads to for an action that is not committed. -/
def reserveUnknown (clock : Clock) (intendedState : DemoWorkflowState) (session : OperationsDemoSession) :
    DemoM DemoActionResult :=
  if truthy session.inFlightActionId then
    throw (.demo .demoActionInProgress (js "another action is in progress"))
  else
    runReserved deps adapter sid (session.marked request clock) request (actionIdentityHash deps.sha256Hex request)
      intendedState

theorem act_eq : act deps adapter sid request = (do
    assertSafeActionRequest request
    let session ← getSession sid
    actOn deps adapter sid request session) := rfl

end Programs

/-! ## The session with its commits -/

/-- The session, and what has been committed to it: the requests with their responses. -/
structure ReplayWorld where
  session : OperationsDemoSession
  committed : List (DemoActionRequest × DemoActionResult)

/-- The response of a commit that leaves the session so. -/
def commitResponse (request : DemoActionRequest) (intendedState : DemoWorkflowState) (executed : AdapterActionResult)
    (next : OperationsDemoSession) : DemoActionResult :=
  { outcome := .applied, sessionId := next.sessionId, action := request.action, workflowState := intendedState,
    progress := .confirmed, writesUsed := next.writesUsed, transactions := executed.transactions }

/-- The world after a callback has been applied. -/
def ReplayWorld.put (w : ReplayWorld) (next : OperationsDemoSession) : SessionChange → ReplayWorld
  | .commit request _ intendedState executed =>
    ⟨next, w.committed ++ [(request, commitResponse request intendedState executed next)]⟩
  | _ => ⟨next, w.committed⟩

section Effect
variable (deps : DemoDeps) (sid : JsString)

/-- `mutate` applies the callback and may yet fail, or fails without a write. -/
def ReplayMutates (w : ReplayWorld) (change : SessionChange) (r : Except DemoThrown OperationsDemoSession)
    (w' : ReplayWorld) : Prop :=
  (∃ clock next, change.apply deps.sha256Hex deps.config clock w.session = .ok next ∧ w' = w.put next change ∧
    (r = .ok next ∨ ∃ e, r = .error e)) ∨
  ((∃ e, r = .error e) ∧ w' = w)

/-- What a call does to the session `sid`, and what it answers. A look for the active live session may expire it. -/
def ReplayEffect (w : ReplayWorld) : (op : DemoOp) → op.Ans → ReplayWorld → Prop
  | .get id, r, w' => w' = w ∧ (id = sid → r = .ok (some w.session) ∨ ∃ e, r = .error e)
  | .mutate id change, r, w' => if id = sid then ReplayMutates deps w change r w' else w' = w
  | .activeLive, _, w' => w' = w ∨ ∃ now, w' = ⟨expireActive now w.session, w.committed⟩
  | _, _, w' => w' = w

/-- A call of a client on the session. The payload of a request is a JSON value, whose objects have distinct keys. -/
inductive SessionCall where
  | act (request : DemoActionRequest) (distinct : Distinct request.payload)
  | read
  | activeLive

def serveSession : SessionCall → DemoM DemoReply
  | .act request _ => .result <$> act deps anyAdapter sid request
  | .read => .session <$> getSession sid
  | .activeLive => .active <$> DemoM.activeLive

abbrev ReplayPool := Pool ReplayWorld DemoOp DemoOp.Ans (Except DemoThrown DemoReply)
abbrev ReplayLabel := PoolLabel SessionCall DemoOp DemoOp.Ans

/-- A session as `createSession` stores it. -/
def FreshReplay (mode : DemoMode) (w : ReplayWorld) : Prop := FreshSession deps sid mode ⟨w.session, []⟩ ∧ w.committed = []

/-- Any interleaving of the calls of clients on a session, whatever the adapters do. -/
def replaySystem (mode : DemoMode) : System ReplayPool ReplayLabel :=
  poolSystem (fun call => (serveSession deps sid call).run) (ReplayEffect deps sid) (FreshReplay deps sid mode)

end Effect

/-! ## What a commit is asked with -/

section Follows
variable (deps : DemoDeps) (sid : JsString) (mode : DemoMode)

/-- A commit carries the hash of its request; on the session it is made in a mode that acts. -/
def Committing : DemoOp → Prop
  | .mutate id (.commit request identityHash _ _) =>
    identityHash = actionIdentityHash deps.sha256Hex request ∧ Distinct request.payload ∧ (id = sid → mode ≠ .replay)
  | _ => True

def commitWatch : Monitor ActPhase DemoOp DemoOp.Ans :=
  { actWatch sid (· = mode) with ok := fun _ => Committing deps sid mode }

variable {deps sid mode} {request : DemoActionRequest} {phase : ActPhase}

theorem watches_commitWatch :
    Watches (commitWatch deps sid mode) sid (· = mode) (fun _ => False) id := by
  refine ⟨fun _ _ _ => rfl, fun _ _ h => h, fun m op h _ => ?_⟩
  cases op with
  | mutate id change =>
    cases change with
    | commit request identityHash intendedState executed => exact h.elim
    | _ => trivial
  | _ => trivial

/-- A program whose calls are no commits. -/
theorem committing_adapter {session : OperationsDemoSession} {intendedState : DemoWorkflowState} {pod : Option Json} :
    Prog.FollowsM (commitWatch deps sid mode) (fun _ _ => True) (fun _ _ => True)
      (anyAdapter session request intendedState pod) phase := by
  unfold anyAdapter
  refine Prog.FollowsM.bind (Prog.FollowsM.lift (Prog.Follows.perform trivial fun script _ => ?_))
  obtain ⟨work, outcome⟩ := script
  have hwork : ∀ (work : List JournalChange) (phase : ActPhase), Prog.FollowsM (commitWatch deps sid mode)
      (fun _ _ => True) (fun _ _ => True) (work.forM (DemoM.journal session.sessionId)) phase := by
    intro work
    induction work with
    | nil => exact fun _ => Prog.FollowsM.pure trivial
    | cons change work ih =>
      intro phase
      refine Prog.FollowsM.bind (Prog.FollowsM.bind (Prog.FollowsM.lift (Prog.Follows.perform trivial fun r _ => ?_)))
      cases r <;> exact Prog.FollowsM.pure (ih _)
  refine Prog.FollowsM.bind (Prog.FollowsM.mono (hwork work _) ?_)
  rintro _ _ -
  exact Prog.FollowsM.ofExcept (fun _ _ => trivial) fun _ _ => trivial

theorem committing_podResult {session : OperationsDemoSession} :
    Prog.FollowsM (commitWatch deps sid mode) (fun _ _ => True) (fun _ _ => True)
      (podResult deps session request) phase := by
  unfold podResult
  split
  · split
    · refine Prog.FollowsM.bind (Prog.FollowsM.call (M := commitWatch deps sid mode) (.podService session request)
        (fun r => r) rfl trivial ?_ fun _ _ _ _ => trivial)
      intro r _ _ _
      exact Prog.FollowsM.pure trivial
    · exact Prog.FollowsM.throw trivial
  · exact Prog.FollowsM.pure trivial

theorem committing_runReserved {id : JsString} {session : OperationsDemoSession} {intendedState : DemoWorkflowState}
    (hdistinct : Distinct request.payload) (hmode : id = sid → mode ≠ .replay) :
    Prog.FollowsM (commitWatch deps sid mode) (fun _ _ => True) (fun _ _ => True)
      (runReserved deps anyAdapter id session request (actionIdentityHash deps.sha256Hex request) intendedState) phase := by
  unfold runReserved
  split
  · refine @Prog.FollowsM.tryCatch _ _ _ _ _ _ _ _ _ (fun _ _ => True) _ _ ?_ fun m e _ => ?_
    · unfold executeAndCommit
      refine Prog.FollowsM.bind (Prog.FollowsM.mono committing_podResult fun m pod _ => ?_)
      refine Prog.FollowsM.bind (Prog.FollowsM.mono committing_adapter fun m executed _ => ?_)
      refine Prog.FollowsM.bind (Prog.FollowsM.call (M := commitWatch deps sid mode)
        (.mutate id (.commit request (actionIdentityHash deps.sha256Hex request) intendedState executed)) (fun r => r) rfl
        ⟨rfl, hdistinct, hmode⟩ ?_ fun _ _ _ _ => trivial)
      rintro _ committed - rfl
      have hresult (m : ActPhase) : Prog.FollowsM (commitWatch deps sid mode) (fun _ _ => True) (fun _ _ => True)
          (match committed.actionResults.read request.actionId with
            | .value result => pure result.response
            | _ => throw .other : DemoM DemoActionResult) m := by
        split
        · exact Prog.FollowsM.pure trivial
        · exact Prog.FollowsM.throw trivial
      show Prog.FollowsM _ _ _ (if 0 < executed.writes then _ else _) _
      split
      · refine Prog.FollowsM.bind (Prog.FollowsM.call (M := commitWatch deps sid mode)
          (.recordDailyWriteSuccess executed.writes) (fun r => r) rfl trivial ?_ fun _ _ _ _ => trivial)
        intro r _ _ _
        exact hresult _
      · exact hresult _
    · refine Prog.FollowsM.bind (Prog.FollowsM.call (M := commitWatch deps sid mode) (.mutate id (.fail request e))
        (fun r => r) rfl trivial ?_ fun _ _ _ _ => trivial)
      intro _ _ _ _
      exact Prog.FollowsM.throw trivial
  · exact Prog.FollowsM.throw trivial

theorem committing_act (hdistinct : Distinct request.payload) :
    Prog.FollowsM (commitWatch deps sid mode) (fun _ _ => True) (fun _ _ => True) (act deps anyAdapter sid request)
      phase := by
  rw [act_eq]
  refine Prog.FollowsM.bind (Prog.FollowsM.ofExcept ?_ fun _ _ => trivial)
  intro _ _
  refine Prog.FollowsM.bind (Prog.FollowsM.mono (getSession_follows_of watches_commitWatch fun _ _ _ => trivial) ?_)
  rintro m₁ session ⟨-, hmode⟩
  show Prog.FollowsM _ _ _ (actOn deps anyAdapter sid request session) m₁
  unfold actOn
  split
  · exact Prog.FollowsM.throw trivial
  · next hreplay =>
    split
    · split
      · exact Prog.FollowsM.pure trivial
      · exact Prog.FollowsM.throw trivial
    · exact Prog.FollowsM.throw trivial
    · unfold takeUp
      refine Prog.FollowsM.bind (Prog.FollowsM.ofExcept ?_ fun _ _ => trivial)
      intro intendedState _
      refine Prog.FollowsM.bind (Prog.FollowsM.call (M := commitWatch deps sid mode)
        (.mutate sid (.reserve request (actionIdentityHash deps.sha256Hex request))) (fun r => r) rfl trivial ?_
        fun _ _ _ _ => trivial)
      rintro _ reserved - rfl
      show Prog.FollowsM _ _ _ (afterReserve deps anyAdapter sid request intendedState reserved) _
      unfold afterReserve
      split
      · exact Prog.FollowsM.pure trivial
      · exact committing_runReserved hdistinct fun _ => hmode ▸ hreplay

theorem committing_serve (call : SessionCall) :
    Prog.FollowsM (commitWatch deps sid mode) (fun _ _ => True) (fun _ _ => True) (serveSession deps sid call) .idle := by
  cases call with
  | act request distinct => exact Prog.FollowsM.map _ (committing_act distinct)
  | read =>
    refine Prog.FollowsM.map _ (Prog.FollowsM.mono (getSession_follows_of watches_commitWatch fun _ _ _ => trivial) ?_)
    exact fun _ _ _ => trivial
  | activeLive =>
    refine Prog.FollowsM.map _ (Prog.FollowsM.call (M := commitWatch deps sid mode) .activeLive (fun r => r) rfl trivial ?_
      fun _ _ _ _ => trivial)
    exact fun _ _ _ _ => trivial

end Follows

/-! ## The stored results are those of the commits -/

/-- The invariant. -/
structure ResultsOfCommits (deps : DemoDeps) (mode : DemoMode) (w : ReplayWorld) : Prop where
  mode_eq : w.session.mode = mode
  replay : mode = .replay → w.committed = []
  inFlight : ∀ id, w.session.inFlightActionId = some id →
    w.session.actionResults.lookup id = none ∧ id ∉ objectPrototypeNames
  stored : ∀ id result, w.session.actionResults.lookup id = some result ↔
    ∃ c ∈ w.committed, c.1.actionId = id ∧ result = ⟨actionIdentityHash deps.sha256Hex c.1, c.2⟩
  distinct : ∀ c ∈ w.committed, Distinct c.1.payload
  named : ∀ c ∈ w.committed, c.1.actionId ∉ objectPrototypeNames

section Steps
variable {deps : DemoDeps} {sid : JsString} {mode : DemoMode} {w w' : ReplayWorld}

/-- A write that leaves the commits and the results alone, and marks no action. -/
theorem ResultsOfCommits.frame (h : ResultsOfCommits deps mode w) (hcommitted : w'.committed = w.committed)
    (hmode : w'.session.mode = w.session.mode) (hresults : w'.session.actionResults = w.session.actionResults)
    (hmark : ∀ id, w'.session.inFlightActionId = some id →
      w.session.actionResults.lookup id = none ∧ id ∉ objectPrototypeNames) : ResultsOfCommits deps mode w' := by
  refine ⟨hmode.trans h.mode_eq, ?_, ?_, ?_, ?_, ?_⟩
  · rw [hcommitted]
    exact h.replay
  · rw [hresults]
    exact hmark
  · rw [hcommitted, hresults]
    exact h.stored
  · rw [hcommitted]
    exact h.distinct
  · rw [hcommitted]
    exact h.named

theorem ResultsOfCommits.commit (h : ResultsOfCommits deps mode w) {config : OperationsDemoConfig} {clock : Clock}
    {request : DemoActionRequest} {intendedState : DemoWorkflowState} {executed : AdapterActionResult}
    {next : OperationsDemoSession} (hdistinct : Distinct request.payload) (hmode : mode ≠ .replay)
    (hcommit : commitAction config clock request (actionIdentityHash deps.sha256Hex request) intendedState executed
      w.session = .ok next) :
    ResultsOfCommits deps mode
      ⟨next, w.committed ++ [(request, commitResponse request intendedState executed next)]⟩ := by
  simp only [commitAction, bind_eq_ok, require_eq_ok, exists_const, pure_eq_ok] at hcommit
  obtain ⟨hflight, -, rfl⟩ := hcommit
  obtain ⟨huncommitted, hnamed⟩ := h.inFlight _ hflight
  refine ⟨h.mode_eq, fun hreplay => absurd hreplay hmode, fun id hid => (by cases hid), fun id result => ?_, ?_, ?_⟩
  · rw [OperationsDemoSession.withEvent_actionResults]
    simp only [List.mem_append, List.mem_singleton, or_and_right, exists_or]
    by_cases hid : id = request.actionId
    · subst hid
      rw [AList.lookup_insert]
      -- the id was not committed before
      have hold : ¬ ∃ c, c ∈ w.committed ∧ c.1.actionId = request.actionId ∧
          result = ⟨actionIdentityHash deps.sha256Hex c.1, c.2⟩ := by
        rintro hc
        rw [(h.stored _ _).mpr hc] at huncommitted
        cases huncommitted
      rw [or_iff_right hold]
      constructor
      · intro hr
        exact ⟨_, rfl, rfl, (Option.some.inj hr).symm⟩
      · rintro ⟨_, rfl, -, rfl⟩
        rfl
    · rw [AList.lookup_insert_ne hid, h.stored id result]
      refine ⟨.inl, ?_⟩
      rintro (hc | ⟨_, rfl, heq, -⟩)
      · exact hc
      · exact absurd heq.symm hid
  · exact List.forall_mem_append.mpr ⟨h.distinct, List.forall_mem_singleton.mpr hdistinct⟩
  · exact List.forall_mem_append.mpr ⟨h.named, List.forall_mem_singleton.mpr hnamed⟩

theorem ResultsOfCommits.mutate (h : ResultsOfCommits deps mode w) {change : SessionChange}
    {r : Except DemoThrown OperationsDemoSession} (hok : Committing deps sid mode (.mutate sid change))
    (heffect : ReplayMutates deps w change r w') : ResultsOfCommits deps mode w' := by
  obtain ⟨clock, next, happly, rfl, -⟩ | ⟨-, rfl⟩ := heffect
  · cases change with
    | expire =>
      cases happly
      exact h.frame rfl rfl rfl h.inFlight
    | fail request error =>
      cases happly
      exact h.frame rfl rfl rfl fun id hid => by cases hid
    | reserve request identityHash =>
      rcases reserveAction_ok happly with ⟨_, -, -, rfl⟩ | ⟨hread, -, rfl⟩
      · exact h.frame rfl rfl rfl h.inFlight
      · refine h.frame rfl rfl rfl fun id hid => ?_
        obtain rfl : request.actionId = id := Option.some.inj hid
        exact PlainObject.read_eq_undefined.mp hread
    | commit request identityHash intendedState executed =>
      obtain ⟨rfl, hdistinct, hmode⟩ := hok
      exact h.commit hdistinct (hmode rfl) happly
    | journal change =>
      have hframe := journal_frame happly
      refine h.frame rfl ?_ ?_ fun id hid => h.inFlight id ?_
      · show next.mode = _
        rw [hframe]
      · show next.actionResults = _
        rw [hframe]
      · have hmark : next.inFlightActionId = w.session.inFlightActionId := by rw [hframe]
        exact hmark.symm.trans hid
  · exact h

theorem ResultsOfCommits.call (h : ResultsOfCommits deps mode w) {op : DemoOp} {r : op.Ans} (hok : Committing deps sid mode op)
    (heffect : ReplayEffect deps sid w op r w') : ResultsOfCommits deps mode w' := by
  cases op with
  | mutate id change =>
    by_cases hid : id = sid
    · subst hid
      exact h.mutate hok ((if_pos rfl).mp heffect)
    · rw [(if_neg hid).mp heffect]
      exact h
  | get id =>
    rw [heffect.1]
    exact h
  | activeLive =>
    obtain rfl | ⟨now, rfl⟩ := heffect
    · exact h
    · exact h.frame rfl rfl rfl h.inFlight
  | _ =>
    rw [show w' = w from heffect]
    exact h

/-- The sessions a call is answered with have the mode of the session. -/
theorem may_of_replayEffect (h : ResultsOfCommits deps mode w) {op : DemoOp} {r : op.Ans}
    (heffect : ReplayEffect deps sid w op r w') : (actWatch sid (· = mode)).may op r := by
  cases op with
  | get id =>
    cases r with
    | error e => trivial
    | ok found =>
      cases found with
      | none => trivial
      | some session =>
        intro hid
        rcases heffect.2 hid with hr | ⟨e, hr⟩ <;> cases hr
        exact h.mode_eq
  | mutate id change =>
    cases r with
    | error e => trivial
    | ok session =>
      intro hid
      rcases (if_pos hid).mp heffect with ⟨clock, next, happly, -, hr | ⟨e, hr⟩⟩ | ⟨⟨e, hr⟩, -⟩ <;> cases hr
      exact (apply_identity happly).2.2.trans h.mode_eq
  | _ => trivial

theorem resultsOfCommits_of_fresh (h : FreshReplay deps sid mode w) : ResultsOfCommits deps mode w := by
  obtain ⟨⟨-, now, eventTime, budget, evidence, hcsSequences, evidenceHash, hsession⟩, hcommitted⟩ := h
  have hfields : w.session.mode = mode ∧ w.session.inFlightActionId = none ∧ w.session.actionResults = ∅ := by
    have hsession' : w.session = _ := hsession
    rw [hsession']
    split <;> exact ⟨rfl, rfl, rfl⟩
  obtain ⟨hmode, hflight, hresults⟩ := hfields
  refine ⟨hmode, fun _ => hcommitted, fun id hid => ?_, fun id result => ?_, ?_, ?_⟩
  · rw [hflight] at hid
    cases hid
  · rw [hresults, hcommitted, AList.lookup_empty]
    simp
  · rw [hcommitted]
    exact fun _ hc => by cases hc
  · rw [hcommitted]
    exact fun _ hc => by cases hc

end Steps

/-- In every run: the programs in flight commit as they must, and the stored results are those of the commits. -/
theorem resultsOfCommits_of_run {deps : DemoDeps} {sid : JsString} {mode : DemoMode} {ls : List ReplayLabel} {s : ReplayPool}
    (h : (replaySystem deps sid mode).Run ls s) : ResultsOfCommits deps mode s.shared := by
  have hall : ResultsOfCommits deps mode s.shared ∧ (commitWatch deps sid mode).Watched (fun _ _ => True) ls s := by
    refine System.Run.induction (S := replaySystem deps sid mode)
      (I := fun ls s => ResultsOfCommits deps mode s.shared ∧ (commitWatch deps sid mode).Watched (fun _ _ => True) ls s) ?_ ?_ h
    · rintro s ⟨hfresh, hthreads⟩
      refine ⟨resultsOfCommits_of_fresh hfresh, fun n p hp => ?_⟩
      rw [hthreads] at hp
      cases hp
    · rintro ls s l t - ⟨hrecorded, hwatched⟩ hstep
      refine ⟨?_, hwatched.step (fun call => (committing_serve call).follows) hstep ?_⟩
      · cases hstep with
        | start hn => exact hrecorded
        | call hn heffect => exact hrecorded.call (hwatched.ok hn) heffect
        | lost => exact hrecorded
      · rintro n op r rfl
        cases hstep with
        | call hn heffect => exact may_of_replayEffect hrecorded heffect
  exact hall.1

/-! ## What a lookup answers -/

/-- The digest tells the committed requests and this one apart, as far as their texts differ. -/
def TellsApart (sha256Hex : JsString → JsString) (committed : List (DemoActionRequest × DemoActionResult))
    (request : DemoActionRequest) : Prop :=
  ∀ c ∈ committed, sha256Hex (identityText c.1) = sha256Hex (identityText request) →
    identityText c.1 = identityText request

/-- What a lookup must come to, where `unknown` is what happens to an id that is not found: the committed response of the
same request and nothing else, a conflict for another request, and `unknown` for an id that was not committed. -/
structure Answers (committed : List (DemoActionRequest × DemoActionResult)) (request : DemoActionRequest)
    (answer unknown : DemoM DemoActionResult) : Prop where
  replays : ∀ response, answer = pure response ↔
    ∃ c ∈ committed, c.1.actionId = request.actionId ∧ SameIdentity c.1 request ∧ c.2 = response
  conflicts : answer = throw identityConflict ↔
    ∃ c ∈ committed, c.1.actionId = request.actionId ∧ ¬ SameIdentity c.1 request
  isNew : (∀ c ∈ committed, c.1.actionId ≠ request.actionId) → answer = unknown

/-- Both lookups of a request. The second one is made in modes that act. -/
def ReplayExact (deps : DemoDeps) (sid : JsString) (w : ReplayWorld) (request : DemoActionRequest) : Prop :=
  Answers w.committed request (actOn deps anyAdapter sid request w.session)
    (unknownAction deps anyAdapter sid request w.session) ∧
  (w.session.mode ≠ .replay → ∀ clock intendedState,
    Answers w.committed request (reserveOn deps anyAdapter sid request clock intendedState w.session)
      (reserveUnknown deps anyAdapter sid request clock intendedState w.session))

section Lookup
variable {deps : DemoDeps} {sid : JsString} {mode : DemoMode} {w : ReplayWorld} {request : DemoActionRequest}
  {answer unknown : DemoM DemoActionResult} {clock : Clock} {intendedState : DemoWorkflowState}
  {session : OperationsDemoSession}

theorem pure_ne_throw {response : DemoActionResult} {e : DemoThrown} :
    (pure response : DemoM DemoActionResult) ≠ throw e := by
  intro h
  cases congrArg ExceptT.run h

theorem pure_inj {a b : DemoActionResult} : (pure a : DemoM DemoActionResult) = pure b ↔ a = b := by
  refine ⟨fun h => ?_, congrArg _⟩
  cases congrArg ExceptT.run h
  rfl

/-- An answer that is neither a response nor a conflict. -/
def Elsewhere (x : DemoM DemoActionResult) : Prop := (∀ response, x ≠ pure response) ∧ x ≠ throw identityConflict

theorem elsewhere_call {x : DemoM DemoActionResult} {op : DemoOp}
    {k : op.Ans → Prog DemoOp DemoOp.Ans (Except DemoThrown DemoActionResult)} (h : x.run = .call op k) : Elsewhere x := by
  refine ⟨?_, ?_⟩
  · rintro response rfl
    cases h
  · rintro rfl
    cases h

theorem elsewhere_throw {code : DemoErrorCode} {message : JsString} (h : code ≠ .demoActionConflict) :
    Elsewhere (throw (.demo code message)) := by
  refine ⟨fun response => pure_ne_throw.symm, fun heq => ?_⟩
  have herror : Except.error (.demo code message) = (Except.error identityConflict : Except DemoThrown DemoActionResult) :=
    Prog.ret.inj (congrArg ExceptT.run heq)
  cases herror
  exact h rfl

theorem transitionFor_error {state : DemoWorkflowState} {action : DemoAction} {e : DemoThrown}
    (h : transitionFor state action = .error e) : ∃ message, e = .demo .demoActionNotAllowed message := by
  unfold transitionFor at h
  split at h
  · cases h
    exact ⟨_, rfl⟩
  · split at h
    · split at h
      · cases h
      · cases h
        exact ⟨_, rfl⟩
    · cases h
      exact ⟨_, rfl⟩

/-- An action taken up goes on to the store, or fails as not allowed. -/
theorem elsewhere_takeUp : Elsewhere (takeUp deps anyAdapter sid request session) := by
  cases htransition : transitionFor session.transitionState request.action with
  | error e =>
    obtain ⟨message, rfl⟩ := transitionFor_error htransition
    have hthrow : takeUp deps anyAdapter sid request session = throw (.demo .demoActionNotAllowed message) := by
      rw [takeUp, htransition]
      rfl
    rw [hthrow]
    exact elsewhere_throw (by decide)
  | ok target =>
    rw [takeUp, htransition]
    exact elsewhere_call rfl

theorem elsewhere_unknownAction : Elsewhere (unknownAction deps anyAdapter sid request session) := by
  unfold unknownAction
  split
  · exact elsewhere_throw (by decide)
  · exact elsewhere_takeUp

/-- A marked action goes on to the pod workflow, to the adapter, or to the record of its failure. -/
theorem elsewhere_runReserved {identityHash : JsString} :
    Elsewhere (runReserved deps anyAdapter sid session request identityHash intendedState) := by
  unfold runReserved executeAndCommit podResult
  split
  · split
    · split
      · exact elsewhere_call rfl
      · exact elsewhere_call rfl
    · exact elsewhere_call rfl
  · exact elsewhere_throw (by decide)

theorem elsewhere_reserveUnknown :
    Elsewhere (reserveUnknown deps anyAdapter sid request clock intendedState session) := by
  unfold reserveUnknown
  split
  · exact elsewhere_throw (by decide)
  · exact elsewhere_runReserved

theorem reserveOn_ok {next : OperationsDemoSession}
    (h : reserveAction clock request (actionIdentityHash deps.sha256Hex request) session = .ok next) :
    reserveOn deps anyAdapter sid request clock intendedState session =
      afterReserve deps anyAdapter sid request intendedState next := by
  rw [reserveOn, h]
  rfl

theorem reserveOn_error {e : DemoThrown}
    (h : reserveAction clock request (actionIdentityHash deps.sha256Hex request) session = .error e) :
    reserveOn deps anyAdapter sid request clock intendedState session = throw e := by
  rw [reserveOn, h]
  rfl

/-- The reservation of an id that is found. -/
theorem reserveOn_value {prior : CommittedAction} (hread : session.actionResults.read request.actionId = .value prior) :
    reserveOn deps anyAdapter sid request clock intendedState session =
      if prior.identityHash = actionIdentityHash deps.sha256Hex request then pure prior.response
      else throw identityConflict := by
  by_cases hhash : prior.identityHash = actionIdentityHash deps.sha256Hex request
  · have hreserve : reserveAction clock request (actionIdentityHash deps.sha256Hex request) session =
        .ok { session with recordVersion := session.recordVersion + 1 } := by
      rw [reserveAction, hread]
      exact if_neg (not_not.mpr hhash)
    rw [reserveOn_ok hreserve, if_pos hhash, afterReserve, hread]
  · have hreserve : reserveAction clock request (actionIdentityHash deps.sha256Hex request) session =
        .error identityConflict := by
      rw [reserveAction, hread]
      exact if_pos hhash
    rw [reserveOn_error hreserve, if_neg hhash]

/-- The reservation of an id that is not there. -/
theorem reserveOn_undefined (hread : session.actionResults.read request.actionId = .undefined) :
    reserveOn deps anyAdapter sid request clock intendedState session =
      reserveUnknown deps anyAdapter sid request clock intendedState session := by
  by_cases hflight : truthy session.inFlightActionId
  · have hreserve : reserveAction clock request (actionIdentityHash deps.sha256Hex request) session =
        .error (.demo .demoActionInProgress (js "another action is in progress")) := by
      rw [reserveAction, hread]
      exact if_pos hflight
    rw [reserveOn_error hreserve, reserveUnknown, if_pos hflight]
  · have hreserve : reserveAction clock request (actionIdentityHash deps.sha256Hex request) session =
        .ok (session.marked request clock) := by
      rw [reserveAction, hread]
      exact if_neg hflight
    have hmarked : (session.marked request clock).actionResults.read request.actionId = .undefined := hread
    rw [reserveOn_ok hreserve, reserveUnknown, if_neg hflight, afterReserve, hmarked]

/-- The hash of a committed request is the one of this request exactly when the requests are the same. -/
theorem identityHash_eq_iff {a b : DemoActionRequest} (ha : Distinct a.payload) (hb : Distinct b.payload)
    (hid : a.actionId = b.actionId)
    (happart : deps.sha256Hex (identityText a) = deps.sha256Hex (identityText b) → identityText a = identityText b) :
    actionIdentityHash deps.sha256Hex a = actionIdentityHash deps.sha256Hex b ↔ SameIdentity a b := by
  have htext := identityText_eq_iff ha hb
  constructor
  · intro h
    exact (htext.mp (happart (List.append_cancel_left h))).2
  · intro h
    have heq := htext.mpr ⟨hid, h⟩
    show js "sha256:" ++ deps.sha256Hex (identityText a) = js "sha256:" ++ deps.sha256Hex (identityText b)
    rw [heq]

/-- A lookup that tells a found result from one that is not there answers as it must. -/
theorem ResultsOfCommits.answers (h : ResultsOfCommits deps mode w) (hdistinct : Distinct request.payload)
    (happart : TellsApart deps.sha256Hex w.committed request) (hname : request.actionId ∉ objectPrototypeNames)
    (hvalue : ∀ prior, w.session.actionResults.read request.actionId = .value prior →
      answer = if prior.identityHash = actionIdentityHash deps.sha256Hex request then pure prior.response
        else throw identityConflict)
    (hundefined : w.session.actionResults.read request.actionId = .undefined → answer = unknown)
    (hunknown : Elsewhere unknown) : Answers w.committed request answer unknown := by
  -- what is found is one committed request, whatever the others are
  have hfound : ∀ c ∈ w.committed, c.1.actionId = request.actionId →
      (SameIdentity c.1 request → answer = pure c.2) ∧ (¬ SameIdentity c.1 request → answer = throw identityConflict) := by
    intro c hc hid
    have hlookup := (h.stored request.actionId _).mpr ⟨c, hc, hid, rfl⟩
    have hanswer := hvalue _ (PlainObject.read_eq_value.mpr hlookup)
    have hiff := identityHash_eq_iff (h.distinct c hc) hdistinct hid (happart c hc)
    refine ⟨fun hsame => ?_, fun hsame => ?_⟩
    · rw [hanswer, if_pos (hiff.mpr hsame)]
    · rw [hanswer, if_neg (fun heq => hsame (hiff.mp heq))]
  have hmissing : (∀ c ∈ w.committed, c.1.actionId ≠ request.actionId) → answer = unknown := by
    intro hnone
    refine hundefined (PlainObject.read_eq_undefined.mpr ⟨?_, hname⟩)
    refine Option.eq_none_iff_forall_ne_some.mpr fun result hresult => ?_
    obtain ⟨c, hc, hid, -⟩ := (h.stored _ _).mp hresult
    exact hnone c hc hid
  have hcommitted : ∀ x, answer = x → ¬ Elsewhere x → ∃ c ∈ w.committed, c.1.actionId = request.actionId := by
    intro x hx helse
    by_contra hnone
    rw [hmissing fun c hc hid => hnone ⟨c, hc, hid⟩] at hx
    exact helse (hx ▸ hunknown)
  refine ⟨fun response => ⟨fun hpure => ?_, ?_⟩, ⟨fun hthrow => ?_, ?_⟩, hmissing⟩
  · obtain ⟨c, hc, hid⟩ := hcommitted _ hpure fun helse => helse.1 response rfl
    obtain ⟨hsame, hother⟩ := hfound c hc hid
    by_cases hidentity : SameIdentity c.1 request
    · exact ⟨c, hc, hid, hidentity, pure_inj.mp ((hsame hidentity).symm.trans hpure)⟩
    · exact absurd (hpure.symm.trans (hother hidentity)) pure_ne_throw
  · rintro ⟨c, hc, hid, hidentity, rfl⟩
    exact (hfound c hc hid).1 hidentity
  · obtain ⟨c, hc, hid⟩ := hcommitted _ hthrow fun helse => helse.2 rfl
    refine ⟨c, hc, hid, fun hidentity => ?_⟩
    exact pure_ne_throw (((hfound c hc hid).1 hidentity).symm.trans hthrow)
  · rintro ⟨c, hc, hid, hidentity⟩
    exact (hfound c hc hid).2 hidentity

end Lookup

/-! ## The result -/

/-- **Replays are exact but for inherited names.** In every session that calls of clients reach, also after its expiry or
its completion: an accepted request is answered by what `act` does on the session it reads, and both lookups of its id, on
any reachable session, answer as the commits say if and only if `Object.prototype` does not define the id, or the session
is a replay, which is not looked into. -/
theorem action_replay_exact_iff {deps : DemoDeps} {sid : JsString} {mode : DemoMode} {ls : List ReplayLabel}
    {s : ReplayPool} (h : (replaySystem deps sid mode).Run ls s) {request : DemoActionRequest}
    (hsafe : assertSafeActionRequest request = .ok ()) (hdistinct : Distinct request.payload)
    (happart : TellsApart deps.sha256Hex s.shared.committed request) :
    act deps anyAdapter sid request = (do
      let session ← getSession sid
      actOn deps anyAdapter sid request session) ∧
    (ReplayExact deps sid s.shared request ↔ (request.actionId ∈ objectPrototypeNames → mode = .replay)) := by
  have hrecorded := resultsOfCommits_of_run h
  refine ⟨?_, fun hexact hname => ?_, fun hname => ⟨?_, fun hmode clock intendedState => ?_⟩⟩
  · rw [act_eq, hsafe]
    rfl
  · by_contra hmode
    -- the inherited property is taken for a commit of another request
    have hnone : s.shared.session.actionResults.lookup request.actionId = none := by
      refine Option.eq_none_iff_forall_ne_some.mpr fun result hresult => ?_
      obtain ⟨c, hc, hid, -⟩ := (hrecorded.stored _ _).mp hresult
      exact hrecorded.named c hc (hid ▸ hname)
    have hread := PlainObject.read_eq_inherited.mpr ⟨hnone, hname⟩
    have hthrow : actOn deps anyAdapter sid request s.shared.session = throw identityConflict := by
      rw [actOn, if_neg (hrecorded.mode_eq ▸ hmode), hread]
    obtain ⟨c, hc, hid, -⟩ := hexact.1.conflicts.mp hthrow
    exact hrecorded.named c hc (hid ▸ hname)
  · by_cases hmode : s.shared.session.mode = .replay
    · -- a replay has no commits, and every request fails alike
      have hnone := hrecorded.replay (hrecorded.mode_eq ▸ hmode)
      have hactOn : actOn deps anyAdapter sid request s.shared.session =
          unknownAction deps anyAdapter sid request s.shared.session := by
        rw [actOn, unknownAction, if_pos hmode, if_pos hmode]
      have helsewhere : Elsewhere (unknownAction deps anyAdapter sid request s.shared.session) := elsewhere_unknownAction
      rw [hactOn, hnone]
      refine ⟨fun response => ⟨fun hpure => absurd hpure (helsewhere.1 response), ?_⟩,
        ⟨fun hthrow => absurd hthrow helsewhere.2, ?_⟩, fun _ => rfl⟩
      · rintro ⟨c, hc, -⟩
        cases hc
      · rintro ⟨c, hc, -⟩
        cases hc
    · have hown : request.actionId ∉ objectPrototypeNames := fun hmem => hmode (hrecorded.mode_eq.trans (hname hmem))
      refine hrecorded.answers hdistinct happart hown (fun prior hread => ?_) (fun hread => ?_) elsewhere_unknownAction
      · rw [actOn, if_neg hmode, hread]
      · rw [actOn, if_neg hmode, hread, unknownAction, if_neg hmode]
  · have hown : request.actionId ∉ objectPrototypeNames := fun hmem => hmode (hrecorded.mode_eq.trans (hname hmem))
    exact hrecorded.answers hdistinct happart hown (fun _ => reserveOn_value) reserveOn_undefined elsewhere_reserveUnknown

/-! ## Two runs -/

namespace ReplaySample

/-- A store and an adapter that do not fail, while the clock stands still. -/
def answer (w : ReplayWorld) : (op : DemoOp) → Option (op.Ans × ReplayWorld)
  | .get id => if id = Overlap.sid then some (.ok (some w.session), w) else none
  | .now => some ((0 : Int), w)
  | .mutate id change =>
    if id = Overlap.sid then
      match change.apply Overlap.deps.sha256Hex Overlap.deps.config (fun _ => 0) w.session with
      | .ok next => some (.ok next, w.put next change)
      | .error e => some (.error e, w)
    else none
  | .execute .. => some (([], .ok ⟨[], [], [], [], 0⟩), w)
  | _ => none

theorem answer_effect (w : ReplayWorld) (op : DemoOp) (r : op.Ans × ReplayWorld) (h : answer w op = some r) :
    ReplayEffect Overlap.deps Overlap.sid w op r.1 r.2 := by
  cases op with
  | get id =>
    simp only [answer] at h
    split at h
    · cases h
      exact ⟨rfl, fun _ => .inl rfl⟩
    · cases h
  | mutate id change =>
    simp only [answer] at h
    split at h
    · next hid =>
      refine (if_pos hid).mpr ?_
      split at h
      · next next happly =>
        cases h
        exact .inl ⟨_, next, happly, rfl, .inl rfl⟩
      · next e happly =>
        cases h
        exact .inr ⟨⟨e, rfl⟩, rfl⟩
    · cases h
  | now | execute =>
    cases h
    rfl
  | _ => cases h

theorem distinct_request (actionId : String) : Distinct (Overlap.request actionId).payload := ⟨List.nodup_nil, trivial⟩

/-- One request, for so many of its calls. -/
def played (actionId : String) (calls : Nat) : Option (List ReplayLabel × ReplayPool) :=
  Pool.play (fun call => (serveSession Overlap.deps Overlap.sid call).run) answer (fun _ _ => true)
    (Move.request 0 (.act (Overlap.request actionId) (distinct_request actionId)) calls)
    ⟨⟨Overlap.world.session, []⟩, fun _ => none⟩

theorem run_of_played {actionId : String} {calls : Nat} {ls : List ReplayLabel} {s : ReplayPool}
    (h : played actionId calls = some (ls, s)) : (replaySystem Overlap.deps Overlap.sid .simulation).Run ls s :=
  (run_of_play answer_effect
    (⟨⟨rfl, 0, 0, _, [], [], [], rfl⟩, rfl⟩ : FreshReplay Overlap.deps Overlap.sid .simulation ⟨Overlap.world.session, []⟩)
    h).of_restrict

/-- The error a call has ended with. -/
def failure (s : ReplayPool) (n : Nat) : Option DemoThrown :=
  match s.threads n with
  | some (.ret (.error e)) => some e
  | _ => none

end ReplaySample

open ReplaySample in
/-- A committed action is replayed. -/
theorem action_replay_exact_iff_funded :
    ∃ ls s, (replaySystem Overlap.deps Overlap.sid .simulation).Run ls s ∧ ∃ c ∈ s.shared.committed,
      actOn Overlap.deps anyAdapter Overlap.sid (Overlap.request "act-1") s.shared.session = pure c.2 := by
  have hplay : ∃ r ∈ played "act-1" 5, r.2.shared.committed.length = 1 ∧
      ∀ c ∈ r.2.shared.committed, identityText c.1 = identityText (Overlap.request "act-1") := by
    decide +kernel
  obtain ⟨⟨ls, s⟩, hr, hlength, htexts⟩ := hplay
  have hrun := run_of_played hr
  have hsafe : assertSafeActionRequest (Overlap.request "act-1") = .ok () := by decide
  have hexact := (action_replay_exact_iff hrun hsafe (distinct_request "act-1") fun c hc _ => htexts c hc).2.mpr
    fun hname => absurd hname (by decide)
  obtain ⟨c, hc⟩ := List.exists_mem_of_length_pos (hlength ▸ Nat.one_pos)
  obtain ⟨hid, hsame⟩ :=
    (identityText_eq_iff ((resultsOfCommits_of_run hrun).distinct c hc) (distinct_request "act-1")).mp (htexts c hc)
  exact ⟨ls, s, hrun, c, hc, (hexact.1.replays c.2).mpr ⟨c, hc, hid, hsame, rfl⟩⟩

open ReplaySample in
/-- A request with the id `constructor` fails as a changed identity in a session without commits. -/
theorem inherited_name_conflicts :
    assertSafeActionRequest (Overlap.request "constructor") = .ok () ∧
      ∃ ls s, (replaySystem Overlap.deps Overlap.sid .simulation).Run ls s ∧ s.shared.committed = [] ∧
        failure s 0 = some identityConflict := by
  have hplay : ∃ r ∈ played "constructor" 2, r.2.shared.committed.length = 0 ∧
      failure r.2 0 = some identityConflict := by
    decide
  obtain ⟨⟨ls, s⟩, hr, hlength, hfailure⟩ := hplay
  exact ⟨by decide, ls, s, run_of_played hr, List.length_eq_zero_iff.mp hlength, hfailure⟩

end RouteGuard.Demo
