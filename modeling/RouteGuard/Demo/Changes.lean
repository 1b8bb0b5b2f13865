import RouteGuard.Demo.Session

/-!
# What the callbacks do

One inversion lemma for each callback, and from them what every callback does: it raises the version by one, keeps the
identity of the session, and adds at most one event.

* `reserveAction_ok`, `commitAction_ok`, `journal_frame` : a callback that does not fail;
* `SessionChange.recordVersion`, `sessionId`, `mode`, `events` : what holds of all of them.
-/

namespace RouteGuard.Demo
open JsString Json Guarded

/-! ## Transitions -/

theorem transitionFor_ok {state target : DemoWorkflowState} {action : DemoAction}
    (h : transitionFor state action = .ok target) :
    state.isTerminal = false ∧ ACTION_TRANSITIONS action = some (state, target) := by
  unfold transitionFor at h
  split at h
  · cases h
  · next hterminal =>
    refine ⟨by simpa using hterminal, ?_⟩
    split at h
    · next source target' heq =>
      split at h
      · next hsource =>
        cases h
        rw [heq, hsource]
      · cases h
    · cases h

/-- The transitions go up the chain, one action after the other. -/
theorem transition_step {action : DemoAction} {source target : DemoWorkflowState} {k : Nat}
    (h : ACTION_TRANSITIONS action = some (source, target)) (hk : workflowChain[k]? = some source) :
    (transitionOrder.take 8)[k]? = some action ∧ workflowChain[k + 1]? = some target := by
  have hlt : k < 9 := (List.getElem?_eq_some_iff.mp hk).1
  interval_cases k <;> cases hk <;> cases action <;> cases h <;> exact ⟨rfl, rfl⟩

/-! ## The orchestrator's callbacks -/

section Callbacks
variable {config : OperationsDemoConfig} {clock : Clock} {request : DemoActionRequest} {identityHash : JsString}
  {current next : OperationsDemoSession}

/-- The session with an action in flight. -/
def OperationsDemoSession.reserved (current : OperationsDemoSession) (request : DemoActionRequest) (clock : Clock) :
    OperationsDemoSession :=
  { current with
    recordVersion := current.recordVersion + 1, inFlightActionId := some request.actionId, progress := .validating,
    updatedAt := clock 0 }

theorem reserveAction_ok (h : reserveAction clock request identityHash current = .ok next) :
    (∃ existing, current.actionResults.read request.actionId = .value existing ∧
      existing.identityHash = identityHash ∧ next = { current with recordVersion := current.recordVersion + 1 }) ∨
    (current.actionResults.read request.actionId = .undefined ∧ truthy current.inFlightActionId = false ∧
      next = (current.reserved request clock).withEvent .progressChange
        [(js "action", .str request.action.text), (js "progress", .str DemoProgress.validating.text)] (clock 1)) := by
  unfold reserveAction at h
  split at h
  · next existing hread =>
    split at h
    · cases h
    · next hhash =>
      cases h
      exact .inl ⟨existing, hread, not_not.mp hhash, rfl⟩
  · cases h
  · next hread =>
    split at h
    · cases h
    · next hflight =>
      cases h
      exact .inr ⟨hread, by simpa using hflight, rfl⟩

theorem commitAction_ok {intendedState : DemoWorkflowState} {executed : AdapterActionResult}
    (h : commitAction config clock request identityHash intendedState executed current = .ok next) :
    current.inFlightActionId = some request.actionId ∧ next.inFlightActionId = none ∧
      next.workflowState = intendedState ∧ next.lastConfirmedState = intendedState ∧
      next.steps = current.steps ++ executed.steps ∧
      ∃ committed, next.actionResults = current.actionResults.insert request.actionId committed := by
  simp only [commitAction, bind_eq_ok, require_eq_ok, exists_const, pure_eq_ok] at h
  obtain ⟨hflight, -, rfl⟩ := h
  exact ⟨hflight, rfl, rfl, rfl, rfl, _, rfl⟩

end Callbacks

/-! ## The journal's callbacks -/

section Journal
variable {sha256Hex : JsString → JsString} {clock : Clock} {session next : OperationsDemoSession}

/-- A write of the journal changes nothing but the steps, the progress, the budget and the events. -/
theorem journal_frame {change : JournalChange} (h : change.apply sha256Hex clock session = .ok next) :
    next =
      { session with
        recordVersion := session.recordVersion + 1, progress := next.progress, updatedAt := next.updatedAt,
        steps := next.steps, writesUsed := next.writesUsed, writeBudget := next.writeBudget, events := next.events } := by
  cases change with
  | progress actionId stage =>
    simp only [JournalChange.apply, journalProgress, bind_eq_ok, require_eq_ok, exists_const, pure_eq_ok] at h
    obtain ⟨-, rfl⟩ := h
    rfl
  | plan planned =>
    cases h
    rfl
  | receipt actionId subStep transactionId hcsSequence =>
    simp only [JournalChange.apply, journalReceipt] at h
    split at h
    · cases h
    · cases h
      rfl
  | verify actionId subStep evidenceHash hcsSequence =>
    simp only [JournalChange.apply, journalVerify] at h
    split at h
    · cases h
    · simp only [bind_eq_ok, require_eq_ok, exists_const, pure_eq_ok] at h
      obtain ⟨-, rfl⟩ := h
      rfl

theorem journal_events {change : JournalChange} (h : change.apply sha256Hex clock session = .ok next) :
    next.events = session.events ∨
      ∃ type data time, next.events = session.events ++ [⟨session.nextEventId, type, time, data⟩] := by
  cases change with
  | progress actionId stage =>
    simp only [JournalChange.apply, journalProgress, bind_eq_ok, require_eq_ok, exists_const, pure_eq_ok] at h
    obtain ⟨-, rfl⟩ := h
    exact .inr ⟨_, _, _, rfl⟩
  | plan planned =>
    cases h
    exact .inl rfl
  | receipt actionId subStep transactionId hcsSequence =>
    simp only [JournalChange.apply, journalReceipt] at h
    split at h
    · cases h
    · cases h
      exact .inr ⟨_, _, _, rfl⟩
  | verify actionId subStep evidenceHash hcsSequence =>
    simp only [JournalChange.apply, journalVerify] at h
    split at h
    · cases h
    · simp only [bind_eq_ok, require_eq_ok, exists_const, pure_eq_ok] at h
      obtain ⟨-, rfl⟩ := h
      exact .inr ⟨_, _, _, rfl⟩

end Journal

/-! ## All callbacks -/

section All
variable {sha256Hex : JsString → JsString} {config : OperationsDemoConfig} {clock : Clock}
  {session next : OperationsDemoSession} {change : SessionChange}

/-- A callback that does not fail, by its kind. -/
theorem apply_cases {P : SessionChange → OperationsDemoSession → Prop}
    (h : change.apply sha256Hex config clock session = .ok next) (expire : P .expire (expireSession clock session))
    (reserve : ∀ request identityHash next, reserveAction clock request identityHash session = .ok next →
      P (.reserve request identityHash) next)
    (commit : ∀ request identityHash intendedState executed next,
      commitAction config clock request identityHash intendedState executed session = .ok next →
        P (.commit request identityHash intendedState executed) next)
    (fail : ∀ request error, P (.fail request error) (failAction clock request error session))
    (journal : ∀ change next, change.apply sha256Hex clock session = .ok next → P (.journal change) next) :
    P change next := by
  cases change with
  | expire =>
    cases h
    exact expire
  | reserve request identityHash => exact reserve request identityHash next h
  | commit request identityHash intendedState executed => exact commit request identityHash intendedState executed next h
  | fail request error =>
    cases h
    exact fail request error
  | journal change => exact journal change next h

/-- A callback raises the version by one and keeps the identity and the mode of the session. -/
theorem apply_identity (h : change.apply sha256Hex config clock session = .ok next) :
    next.recordVersion = session.recordVersion + 1 ∧ next.sessionId = session.sessionId ∧ next.mode = session.mode := by
  refine apply_cases (P := fun _ next => next.recordVersion = session.recordVersion + 1 ∧
    next.sessionId = session.sessionId ∧ next.mode = session.mode) h ⟨rfl, rfl, rfl⟩ ?_ ?_ (fun _ _ => ⟨rfl, rfl, rfl⟩) ?_
  · intro request identityHash next h
    rcases reserveAction_ok h with ⟨_, -, -, rfl⟩ | ⟨-, -, rfl⟩ <;> exact ⟨rfl, rfl, rfl⟩
  · intro request identityHash intendedState executed next h
    simp only [commitAction, bind_eq_ok, require_eq_ok, exists_const, pure_eq_ok] at h
    obtain ⟨-, -, rfl⟩ := h
    exact ⟨rfl, rfl, rfl⟩
  · intro change next h
    rw [journal_frame h]
    exact ⟨rfl, rfl, rfl⟩

/-- A callback adds at most one event, under the next id. -/
theorem apply_events (h : change.apply sha256Hex config clock session = .ok next) :
    next.events = session.events ∨
      ∃ type data time, next.events = session.events ++ [⟨session.nextEventId, type, time, data⟩] := by
  refine apply_cases (P := fun _ next => next.events = session.events ∨
    ∃ type data time, next.events = session.events ++ [⟨session.nextEventId, type, time, data⟩]) h
    (.inr ⟨_, _, _, rfl⟩) ?_ ?_ (fun _ _ => .inr ⟨_, _, _, rfl⟩) fun _ _ h => journal_events h
  · intro request identityHash next h
    rcases reserveAction_ok h with ⟨_, -, -, rfl⟩ | ⟨-, -, rfl⟩
    · exact .inl rfl
    · exact .inr ⟨_, _, _, rfl⟩
  · intro request identityHash intendedState executed next h
    simp only [commitAction, bind_eq_ok, require_eq_ok, exists_const, pure_eq_ok] at h
    obtain ⟨-, -, rfl⟩ := h
    exact .inr ⟨_, _, _, rfl⟩

end All

end RouteGuard.Demo
