import RouteGuard.Demo.Acting
import RouteGuard.Lib.Sha256

/-!
# The order of the actions

* `actSystem` : any interleaving of `act` calls on one session;
* `InOrder` : the steps of a run in which no action is reserved from a state that has passed, and no failure clears the
  mark of another action;
* `actions_in_order` : in such runs the actions are executed one at a time and committed in order;
* `action_committed_twice` : otherwise they need not be.
-/

namespace RouteGuard.Demo
open JsString Json Guarded

/-- Any interleaving of `act` calls on the session, whatever the adapters do. -/
def actSystem (deps : DemoDeps) (sid : JsString) (mode : DemoMode) : System ActPool ActLabel :=
  poolSystem (fun request => (act deps anyAdapter sid request).run) (DemoEffect deps sid) (FreshSession deps sid mode)

/-! ## The invariant -/

/-- The action is marked on the session and not committed, and it leads on from the confirmed state. -/
structure Holds (w : DemoWorld) (request : DemoActionRequest) : Prop where
  marked : w.session.inFlightActionId = some request.actionId
  named : request.actionId ≠ []
  uncommitted : w.session.actionResults.lookup request.actionId = none
  source : ∃ target, ACTION_TRANSITIONS request.action = some (w.session.lastConfirmedState, target)

/-- The commits so far are the first `k` actions, and the confirmed states the first `k + 1` of the chain. -/
def Chained (mode : DemoMode) (w : DemoWorld) : Prop :=
  ∃ k, w.commits.map Prod.fst = (transitionOrder.take 8).take k ∧ w.confirmedStates = workflowChain.take (k + 1) ∧
    (mode ≠ .replay → workflowChain[k]? = some w.session.lastConfirmedState)

/-- At most one call has an action in flight, and it is the one marked on the session. -/
structure Ordered (mode : DemoMode) (phases : Nat → ActPhase) (w : DemoWorld) : Prop where
  mode_eq : w.session.mode = mode
  chained : Chained mode w
  holds : ∀ n request, (phases n).Owns w request → Holds w request
  unique : ∀ n m request request', (phases n).Owns w request → (phases m).Owns w request' → n = m

/-- An action is reserved from the state it starts in, and a failure finds no mark of another action. -/
def InOrder (sid : JsString) (w : DemoWorld) : DemoOp → Prop
  | .mutate id (.reserve request _) =>
    id = sid → w.session.actionResults.read request.actionId = .undefined → truthy w.session.inFlightActionId = false →
      (ACTION_TRANSITIONS request.action).map Prod.fst = some w.session.lastConfirmedState
  | .mutate id (.fail request _) =>
    id = sid → w.session.inFlightActionId = none ∨ w.session.inFlightActionId = some request.actionId
  | _ => True

/-- The action leads on from the confirmed state. -/
def LeadsOn (w : DemoWorld) (request : DemoActionRequest) : Prop :=
  ∃ target, ACTION_TRANSITIONS request.action = some (w.session.lastConfirmedState, target)

section Steps
variable {deps : DemoDeps} {sid : JsString} {mode : DemoMode} {phases : Nat → ActPhase} {w w' : DemoWorld} {n : Nat}

theorem leadsOn_of_inOrder {op : DemoOp} (h : InOrder sid w op) : Reserves sid LeadsOn w op ∧ OwnFailure sid w op := by
  cases op with
  | mutate id change =>
    cases change with
    | reserve request identityHash =>
      refine ⟨fun hid hread hmark => ?_, trivial⟩
      obtain ⟨⟨source, target⟩, htransition, hsource⟩ := Option.map_eq_some_iff.mp (h hid hread hmark)
      exact ⟨target, hsource ▸ htransition⟩
    | fail request error => exact ⟨trivial, h⟩
    | _ => exact ⟨trivial, trivial⟩
  | _ => exact ⟨trivial, trivial⟩

theorem Ordered.exclusive (h : Ordered mode phases w) : Exclusive LeadsOn phases w := by
  refine ⟨?_, fun n request hn => (h.holds n request hn).source, h.unique⟩
  intro n request hn
  have hold := h.holds n request hn
  exact ⟨hold.marked, hold.named, hold.uncommitted⟩

theorem Exclusive.ordered (h : Exclusive LeadsOn phases w) (hmode : w.session.mode = mode) (hchained : Chained mode w) :
    Ordered mode phases w := by
  refine ⟨hmode, hchained, ?_, h.unique⟩
  intro n request hn
  have hmarked := h.marked n request hn
  exact ⟨hmarked.marked, hmarked.named, hmarked.uncommitted, h.holds n request hn⟩

theorem Chained.frame (h : Chained mode w) (hcommits : w'.commits = w.commits)
    (hconfirmed : w'.session.lastConfirmedState = w.session.lastConfirmedState) : Chained mode w' := by
  obtain ⟨k, hactions, hstates, hlast⟩ := h
  refine ⟨k, hcommits ▸ hactions, ?_, hconfirmed ▸ hlast⟩
  rw [DemoWorld.confirmedStates, hcommits]
  exact hstates

/-- A commit that is applied: the confirmed state goes one up. -/
theorem Ordered.commit (h : Ordered mode phases w) {request : DemoActionRequest} {identityHash : JsString}
    {intendedState : DemoWorkflowState} {executed : AdapterActionResult} {config : OperationsDemoConfig} {clock : Clock}
    {next : OperationsDemoSession} (hphase : phases n = .acting request) (hmode : mode ≠ .replay)
    (hsource : ∃ source, ACTION_TRANSITIONS request.action = some (source, intendedState))
    (hcommit : commitAction config clock request identityHash intendedState executed w.session = .ok next) :
    Chained mode (w.put next (.commit request identityHash intendedState executed)) := by
  obtain ⟨-, -, -, hconfirmed, -⟩ := commitAction_ok hcommit
  obtain ⟨k, hactions, hstates, hlast⟩ := h.chained
  obtain ⟨target, htarget⟩ := (h.holds n request (.inl hphase)).source
  obtain ⟨source, hsource⟩ := hsource
  obtain ⟨haction, hstate⟩ := transition_step htarget (hlast hmode)
  obtain ⟨rfl, rfl⟩ : source = w.session.lastConfirmedState ∧ intendedState = target := by
    rw [hsource] at htarget
    cases htarget
    exact ⟨rfl, rfl⟩
  refine ⟨k + 1, ?_, ?_, fun _ => hconfirmed.symm ▸ hstate⟩
  · rw [List.take_add_one, haction]
    show (w.commits ++ [(request.action, intendedState)]).map Prod.fst = _
    rw [List.map_append, hactions]
    rfl
  · rw [List.take_add_one, hstate]
    show DemoWorkflowState.created :: (w.commits ++ [(request.action, intendedState)]).map Prod.snd = _
    rw [List.map_append, ← List.cons_append]
    exact congrArg (· ++ _) hstates

theorem Ordered.mutate (h : Ordered mode phases w) {change : SessionChange} {r : Except DemoThrown OperationsDemoSession}
    (hok : (actWatch sid (· = mode)).ok (phases n) (.mutate sid change)) (heffect : MutateEffect deps w change r w') :
    Chained mode w' := by
  rcases heffect with ⟨clock, next, happly, rfl, -⟩ | ⟨-, rfl⟩
  · cases change with
    | commit request identityHash intendedState executed =>
      obtain ⟨hacting, -, ⟨mode', rfl, hmode⟩, hsource⟩ := hok
      exact h.commit hacting hmode hsource happly
    | expire =>
      cases happly
      exact h.chained.frame rfl rfl
    | fail request error =>
      cases happly
      exact h.chained.frame rfl rfl
    | reserve request identityHash =>
      rcases reserveAction_ok happly with ⟨_, -, -, rfl⟩ | ⟨-, -, rfl⟩ <;> exact h.chained.frame rfl rfl
    | journal change =>
      refine h.chained.frame rfl ?_
      rw [DemoWorld.put_session, journal_frame happly]
  · exact h.chained

/-- One more call keeps the order. -/
theorem Ordered.call (h : Ordered mode phases w) {op : DemoOp} {r : op.Ans}
    (hok : (actWatch sid (· = mode)).ok (phases n) op) (hin : InOrder sid w op) (heffect : DemoEffect deps sid w op r w') :
    Ordered mode (Function.update phases n ((actWatch sid (· = mode)).next (phases n) op r)) w' := by
  obtain ⟨hreserve, hfail⟩ := leadsOn_of_inOrder hin
  have hexclusive := h.exclusive.call (fun w' request hconfirmed hP => by rwa [LeadsOn, hconfirmed]) hok hfail hreserve heffect
  refine hexclusive.ordered ((identity_of_effect heffect).2.trans h.mode_eq) ?_
  cases op with
  | mutate id change =>
    by_cases hid : id = sid
    · subst hid
      exact h.mutate hok ((if_pos rfl).mp heffect)
    · obtain rfl : w' = w := (if_neg hid).mp heffect
      exact h.chained
  | get id =>
    obtain rfl : w' = w := heffect.1
    exact h.chained
  | _ =>
    obtain rfl : w' = w := heffect
    exact h.chained

/-- A call that has an action in flight no more. -/
theorem Ordered.idle (h : Ordered mode phases w) : Ordered mode (Function.update phases n .idle) w :=
  (h.exclusive.move fun request hm => absurd hm (not_owns_idle request)).ordered h.mode_eq h.chained

end Steps

/-! ## Runs -/

section Runs
variable (deps : DemoDeps) (sid : JsString) (mode : DemoMode)

/-- The runs whose reservations and failures come in order. -/
def orderedSystem : System ActPool ActLabel :=
  (actSystem deps sid mode).restrict fun s l =>
    match l with
    | .call _ op _ => InOrder sid s.shared op
    | _ => True

variable {deps sid mode} {ls : List ActLabel} {s : ActPool}

theorem ordered_of_fresh {w : DemoWorld} (h : FreshSession deps sid mode w) : Ordered mode (fun _ => .idle) w := by
  obtain ⟨hcommits, now, eventTime, budget, evidence, hcsSequences, evidenceHash, hsession⟩ := h
  refine ⟨?_, ⟨0, ?_, ?_, ?_⟩, fun _ request hm => absurd hm (not_owns_idle request),
    fun _ _ request _ hm => absurd hm (not_owns_idle request)⟩
  · rw [hsession]
    split <;> rfl
  · rw [hcommits]
    rfl
  · rw [DemoWorld.confirmedStates, hcommits]
    rfl
  · intro hreplay
    rw [hsession, if_neg hreplay]
    rfl

theorem mode_of_run (h : (orderedSystem deps sid mode).Run ls s) : s.shared.session.mode = mode := by
  refine System.Run.induction (S := orderedSystem deps sid mode) (I := fun _ s => s.shared.session.mode = mode) ?_ ?_ h
  · rintro s ⟨hfresh, -⟩
    exact (ordered_of_fresh hfresh).mode_eq
  · rintro ls s l t - ih ⟨hstep, -⟩
    cases hstep with
    | call hn heffect => exact (identity_of_effect heffect).2.trans ih
    | start hn => exact ih
    | lost => exact ih

/-- The sessions a call is answered with have the mode of the session. -/
theorem may_of_effect {w w' : DemoWorld} {op : DemoOp} {r : op.Ans} (hmode : w.session.mode = mode)
    (h : DemoEffect deps sid w op r w') : (actWatch sid (· = mode)).may op r := by
  cases op with
  | get id =>
    cases r with
    | error e => trivial
    | ok found =>
      cases found with
      | none => trivial
      | some session =>
        intro hid
        rcases h.2 hid with hr | ⟨e, hr⟩ <;> cases hr
        exact hmode
  | mutate id change =>
    cases r with
    | error e => trivial
    | ok session =>
      intro hid
      rcases (if_pos hid).mp h with ⟨clock, next, happly, -, hr⟩ | ⟨⟨e, hr⟩, -⟩
      · rcases hr with hr | ⟨e, hr⟩ <;> cases hr
        exact (apply_identity happly).2.2.trans hmode
      · cases hr
  | _ => trivial

theorem watched_of_run (h : (orderedSystem deps sid mode).Run ls s) :
    (actWatch sid (· = mode)).Watched (fun _ _ => True) ls s :=
  Monitor.watched_of_run (fun _ => act_follows.follows) (fun _ _ _ _ _ _ hrun heffect _ => may_of_effect (mode_of_run hrun) heffect)
    h

theorem ordered_of_run (h : (orderedSystem deps sid mode).Run ls s) :
    Ordered mode ((actWatch sid (· = mode)).phase ls) s.shared := by
  refine System.Run.induction (S := orderedSystem deps sid mode)
    (I := fun ls s => Ordered mode ((actWatch sid (· = mode)).phase ls) s.shared) ?_ ?_ h
  · rintro s ⟨hfresh, -⟩
    exact ordered_of_fresh hfresh
  · rintro ls s l t hrun ih ⟨hstep, hin⟩
    cases hstep with
    | start hn =>
      rw [Monitor.phase_start]
      exact ih.idle
    | call hn heffect =>
      rw [Monitor.phase_call]
      exact ih.call ((watched_of_run hrun).ok hn) hin heffect
    | lost =>
      rw [Monitor.phase_lost]
      exact ih.idle

end Runs

/-! ## Two requests for one action -/

namespace Overlap

def deps : DemoDeps where
  config := ⟨12, 50, 15, 60⟩
  liveEnabled := false
  liveDisabledCode := .demoLiveDisabled
  liveAdapter := false
  podWorkflow := false
  adminTokenMatches _ := false
  sha256Hex := Sha256.sha256Hex

def sid : JsString := js "demo-1"

def request (actionId : String) : DemoActionRequest := ⟨.fundEscrow, js actionId, js "idempotency-1", .obj []⟩

/-- A simulation session just created. -/
def world : DemoWorld := ⟨initialSession deps .simulation sid 0 0 ⟨0, 0, 0, none, 12, 0, 50⟩ [], []⟩

/-- A store and an adapter that do not fail, while the clock stands still. -/
def answer (w : DemoWorld) : (op : DemoOp) → Option (op.Ans × DemoWorld)
  | .get id => if id = sid then some (.ok (some w.session), w) else none
  | .now => some ((0 : Int), w)
  | .mutate id change =>
    if id = sid then
      match change.apply deps.sha256Hex deps.config (fun _ => 0) w.session with
      | .ok next => some (.ok next, w.put next change)
      | .error e => some (.error e, w)
    else none
  | .execute .. => some (([], .ok ⟨[], [], [], [], 0⟩), w)
  | _ => none

theorem answer_effect (w : DemoWorld) (op : DemoOp) (r : op.Ans × DemoWorld) (h : answer w op = some r) :
    DemoEffect deps sid w op r.1 r.2 := by
  cases op with
  | get id =>
    simp only [answer] at h
    split at h
    · cases h
      exact ⟨rfl, fun _ => .inl rfl⟩
    · cases h
  | mutate id change =>
    simp only [answer] at h
    split at h
    · next hid =>
      refine (if_pos hid).mpr ?_
      split at h
      · next next happly =>
        cases h
        exact .inl ⟨_, next, happly, rfl, .inl rfl⟩
      · next e happly =>
        cases h
        exact .inr ⟨⟨e, rfl⟩, rfl⟩
    · cases h
  | now | execute =>
    cases h
    rfl
  | _ => cases h

def played (check : ActPool → ActLabel → Bool) (moves : List (Move DemoActionRequest)) :
    Option (List ActLabel × ActPool) :=
  Pool.play (fun request => (act deps anyAdapter sid request).run) answer check moves ⟨world, fun _ => none⟩

theorem run_of_played {check : ActPool → ActLabel → Bool} {moves : List (Move DemoActionRequest)} {ls : List ActLabel}
    {s : ActPool} (h : played check moves = some (ls, s)) :
    ((actSystem deps sid .simulation).restrict fun s l => check s l = true).Run ls s :=
  run_of_play answer_effect (⟨rfl, 0, 0, _, [], [], [], rfl⟩ : FreshSession deps sid .simulation world) h

/-- Both requests read the session; then the first runs to its end, and the second goes on. -/
def moves (calls : Nat) : List (Move DemoActionRequest) :=
  .start 0 (request "act-1") :: .start 1 (request "act-2") ::
    ([0, 1, 0, 1].map Move.call ++ Move.calls 0 3 ++ Move.calls 1 calls)

/-- The action whose adapter the request is about to invoke. -/
def executing (s : ActPool) (n : Nat) : Option DemoAction :=
  match s.threads n with
  | some (.call (.execute _ request _ _) _) => some request.action
  | _ => none

/-- The request was refused. -/
def refused (s : ActPool) (n : Nat) : Bool :=
  match s.threads n with
  | some (.ret (.error _)) => true
  | _ => false

theorem refused_spec {s : ActPool} {n : Nat} (h : refused s n) : ∃ e, s.threads n = some (.ret (.error e)) := by
  unfold refused at h
  split at h
  · exact ⟨_, by assumption⟩
  · cases h

/-- A second request for the first action comes while that is in flight; after its commit the next action is started. -/
def contended : List (Move DemoActionRequest) :=
  .start 0 (request "act-1") :: .start 1 (request "act-2") ::
    ([0, 1, 0, 1, 0, 1, 0, 0].map Move.call ++ Move.request 2 { request "act-3" with action := .openTender } 3)

theorem executes_of_executing {s : ActPool} {n : Nat} {action : DemoAction} (h : executing s n = some action) :
    ∃ session request intendedState pod k, s.threads n = some (.call (.execute session request intendedState pod) k) ∧
      request.action = action := by
  unfold executing at h
  split at h
  · next session request intendedState pod k hn =>
    cases h
    exact ⟨session, request, intendedState, pod, k, hn, rfl⟩
  · cases h

/-- The steps of a run in order, as far as one request makes them without failing. -/
def inOrder (s : ActPool) : ActLabel → Bool
  | .call _ (.mutate _ (.reserve request _)) _ =>
    (ACTION_TRANSITIONS request.action).map Prod.fst = some s.shared.session.lastConfirmedState
  | .call _ (.mutate _ (.fail ..)) _ => false
  | _ => true

theorem ordered_of_played {moves : List (Move DemoActionRequest)} {ls : List ActLabel} {s : ActPool}
    (h : played inOrder moves = some (ls, s)) : (orderedSystem deps sid .simulation).Run ls s := by
  refine (run_of_played h).restrict_mono ?_
  intro s l hl
  cases l with
  | call n op r =>
    cases op with
    | mutate id change =>
      cases change with
      | reserve request identityHash => exact fun _ _ _ => of_decide_eq_true hl
      | fail request error => cases hl
      | _ => trivial
    | _ => trivial
  | _ => trivial

end Overlap

/-! ## The result -/

/-- **Actions one at a time and in order.** Where every action is reserved from the state it starts in and no failure
clears the mark of another action, an adapter is invoked only for the action that starts in the confirmed state, while it
alone is in flight; every action is committed at most once, and the confirmed states are a first part of the chain. -/
theorem actions_in_order (deps : DemoDeps) (sid : JsString) (mode : DemoMode) {ls : List ActLabel} {s : ActPool}
    (h : (orderedSystem deps sid mode).Run ls s) :
    (∀ n session request intendedState pod k,
      s.threads n = some (.call (.execute session request intendedState pod) k) →
        ACTION_TRANSITIONS request.action = some (s.shared.session.lastConfirmedState, intendedState) ∧
          s.shared.session.inFlightActionId = some request.actionId ∧
          ∀ m request', m ≠ n → (actWatch sid (· = mode)).phase ls m ≠ .acting request') ∧
      (s.shared.commits.map Prod.fst).Nodup ∧ s.shared.confirmedStates <+: workflowChain ∧
      (mode ≠ .replay → s.shared.confirmedStates.getLast? = some s.shared.session.lastConfirmedState) := by
  have hordered := ordered_of_run h
  obtain ⟨k, hactions, hstates, hlast⟩ := hordered.chained
  refine ⟨?_, ?_, ?_, ?_⟩
  · intro n session request intendedState pod k hn
    obtain ⟨hacting, source, hsource⟩ := (watched_of_run h).ok hn
    have hown : ((actWatch sid (· = mode)).phase ls n).Owns s.shared request := .inl hacting
    have hholds := hordered.holds n request hown
    obtain ⟨target, htarget⟩ := hholds.source
    refine ⟨?_, hholds.marked, ?_⟩
    · rw [hsource] at htarget ⊢
      cases htarget
      rfl
    · intro m request' hne hm
      exact hne (hordered.unique m n request' request (.inl hm) hown)
  · rw [hactions]
    exact (List.take_sublist _ _).nodup (by decide)
  · rw [hstates]
    exact List.take_prefix _ _
  · intro hreplay
    have hk := hlast hreplay
    rw [hstates, List.getLast?_take, if_neg (Nat.succ_ne_zero k), Nat.add_sub_cancel, hk]
    rfl

/-- While the second action is executed, it alone is in flight, and the request that came too late was refused. -/
theorem actions_in_order_contended :
    ∃ ls s, (orderedSystem Overlap.deps Overlap.sid .simulation).Run ls s ∧
      s.shared.commits = [(.fundEscrow, .escrowFunded)] ∧ (∃ e, s.threads 1 = some (.ret (.error e))) ∧
      (∃ session request pod k, s.threads 2 = some (.call (.execute session request .accessActivated pod) k) ∧
        s.shared.session.lastConfirmedState = .escrowFunded ∧
        s.shared.session.inFlightActionId = some request.actionId) ∧
      s.shared.confirmedStates <+: workflowChain := by
  have hplay : ∃ r ∈ Overlap.played Overlap.inOrder Overlap.contended,
      r.2.shared.commits = [(.fundEscrow, .escrowFunded)] ∧ Overlap.refused r.2 1 ∧
        Overlap.executing r.2 2 = some .openTender := by
    decide
  obtain ⟨⟨ls, s⟩, hr, hcommits, hrefused, hexecuting⟩ := hplay
  have hrun := Overlap.ordered_of_played hr
  obtain ⟨session, request, intendedState, pod, k, hn, haction⟩ := Overlap.executes_of_executing hexecuting
  obtain ⟨hexecute, -, hchain, -⟩ := actions_in_order Overlap.deps Overlap.sid .simulation hrun
  obtain ⟨htransition, hmarked, -⟩ := hexecute 2 session request intendedState pod k hn
  rw [haction] at htransition
  obtain ⟨hstate, rfl⟩ := Prod.mk.inj (Option.some.inj htransition)
  exact ⟨ls, s, hrun, hcommits, Overlap.refused_spec hrefused, ⟨session, request, pod, k, hn, hstate.symm, hmarked⟩, hchain⟩

/-- Two requests for the same action under different ids read the session before either marks it. The second is marked,
and executed, after the first is committed; it is committed too. -/
theorem action_committed_twice :
    (∃ ls s, (actSystem Overlap.deps Overlap.sid .simulation).Run ls s ∧
      ∃ n session request intendedState pod k, s.threads n = some (.call (.execute session request intendedState pod) k) ∧
        (ACTION_TRANSITIONS request.action).map Prod.fst ≠ some s.shared.session.lastConfirmedState) ∧
    ∃ ls s, (actSystem Overlap.deps Overlap.sid .simulation).Run ls s ∧
      ¬ (s.shared.commits.map Prod.fst).Nodup ∧ ¬ s.shared.confirmedStates <+: workflowChain := by
  have hplay : (∃ r ∈ Overlap.played (fun _ _ => true) (Overlap.moves 1),
      Overlap.executing r.2 1 = some .fundEscrow ∧ r.2.shared.session.lastConfirmedState = .escrowFunded) ∧
      ∃ r ∈ Overlap.played (fun _ _ => true) (Overlap.moves 3),
        ¬ (r.2.shared.commits.map Prod.fst).Nodup ∧ ¬ r.2.shared.confirmedStates <+: workflowChain := by
    decide
  obtain ⟨⟨⟨ls, s⟩, hr, hexecuting, hconfirmed⟩, ⟨ls', s'⟩, hr', hnodup, hinitial⟩ := hplay
  obtain ⟨session, request, intendedState, pod, k, hn, haction⟩ := Overlap.executes_of_executing hexecuting
  refine ⟨⟨ls, s, (Overlap.run_of_played hr).of_restrict, 1, session, request, intendedState, pod, k, hn, ?_⟩,
    ls', s', (Overlap.run_of_played hr').of_restrict, hnodup, hinitial⟩
  rw [haction, hconfirmed]
  decide

end RouteGuard.Demo
