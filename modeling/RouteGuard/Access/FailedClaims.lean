import RouteGuard.Access.SettlementOutcome

/-!
# What a failed claim says about the money

* `reportsFailure`, `reportsSuccess`, `movesToFailed` : what one call of a request says;
* `Accounted` : the calls of a request, the journal and the run agree; `accounted_of_run`;
* `failed_claim_reported_failed` : where successes are well reported, a claim is `FAILED` only after it was reported so,
  and no request that was told of a success moves its claim to `FAILED`.
-/

namespace RouteGuard.Access
open JsString Store Guarded

section Request
variable {R C : Type} {gate : GateConfig} {sha256Hex : JsString → JsString} {processed : R → JsString → Bool}

/-! ## What the calls of one request say -/

/-- One answered call of a request. -/
abbrev SettleCallMade (R C : Type) := (op : SettleOp C) × SettleOp.Ans R C op

/-- The facilitator reported the settlement of the action as unsuccessful, or reconciliation reported it failed. -/
def reportsFailure (actionId : JsString) : SettleCallMade R C → Prop
  | ⟨.settlePayment a _, some settled⟩ => a = actionId ∧ settled.success = false
  | ⟨.claim (.reconcile claim), .ok (.failed _)⟩ => claim.binding.actionId = actionId
  | _ => False

/-- `settlePayment` reported the settlement of the action as successful. -/
def reportsSuccess (actionId : JsString) : SettleCallMade R C → Prop
  | ⟨.settlePayment a _, some settled⟩ => a = actionId ∧ settled.success = true
  | _ => False

/-- The claim of the action is moved to `FAILED`. -/
def movesToFailed (actionId : JsString) : SettleCallMade R C → Prop
  | ⟨.claim (.transition input), _⟩ => input.actionId = actionId ∧ input.toState = .failed
  | _ => False

/-- The phase of a request agrees with its calls. -/
structure Told (own : List (SettleCallMade R C)) (phase : Phase) : Prop where
  success : ∀ a, ∀ c ∈ own, reportsSuccess a c → phase = .paid a
  failure : ∀ a, ∀ c ∈ own, reportsFailure a c → phase = .refused a
  failed : ∀ a, ∀ c ∈ own, movesToFailed a c → phase = .refused a

/-- What a request was told once, it is not told otherwise later. -/
theorem next_of_told {phase : Phase} {op : SettleOp C} (r : SettleOp.Ans R C op) {a : JsString}
    (h : phase = .paid a ∨ phase = .refused a) : (moneyWatch R C gate).next phase op r = phase := by
  rcases h with rfl | rfl <;> cases op <;> rfl

/-- The call that tells of a success leaves the request paid. -/
theorem next_of_success {phase : Phase} {op : SettleOp C} {r : SettleOp.Ans R C op} {a : JsString}
    (hok : (moneyWatch R C gate).ok phase op) (h : reportsSuccess a ⟨op, r⟩) :
    (moneyWatch R C gate).next phase op r = .paid a := by
  cases op with
  | settlePayment b verified =>
    cases r with
    | none => cases h
    | some settled =>
      obtain ⟨rfl, hsuccess⟩ := h
      obtain rfl : phase = .settling b := hok
      show Phase.settled b (some settled) = .paid b
      rw [Phase.settled, hsuccess]
      rfl
  | gateNow => cases h
  | claim op => cases op <;> cases h

/-- The call that tells of a failure leaves the request refused. -/
theorem next_of_failure {phase : Phase} {op : SettleOp C} {r : SettleOp.Ans R C op} {a : JsString}
    (hok : (moneyWatch R C gate).ok phase op) (h : reportsFailure a ⟨op, r⟩) :
    (moneyWatch R C gate).next phase op r = .refused a := by
  cases op with
  | settlePayment b verified =>
    cases r with
    | none => cases h
    | some settled =>
      obtain ⟨rfl, hsuccess⟩ := h
      obtain rfl : phase = .settling b := hok
      show Phase.settled b (some settled) = .refused b
      rw [Phase.settled, hsuccess]
      rfl
  | gateNow => cases h
  | claim op =>
    cases op with
    | reconcile claim =>
      obtain rfl : phase = .idle := hok
      cases r with
      | error e => cases h
      | ok result =>
        cases result with
        | failed code => exact congrArg Phase.refused h
        | confirmed | unknown => cases h
    | _ => cases h

theorem phase_of_movesToFailed {phase : Phase} {op : SettleOp C} {r : SettleOp.Ans R C op} {a : JsString}
    (hok : (moneyWatch R C gate).ok phase op) (h : movesToFailed a ⟨op, r⟩) : phase = .refused a := by
  cases op with
  | claim op =>
    cases op with
    | transition input =>
      obtain ⟨rfl, hfailed⟩ := h
      exact hok.2 hfailed
    | _ => cases h
  | _ => cases h

theorem Told.concat {own : List (SettleCallMade R C)} {phase : Phase} (h : Told own phase) {op : SettleOp C}
    (r : SettleOp.Ans R C op) (hok : (moneyWatch R C gate).ok phase op) :
    Told (own ++ [⟨op, r⟩]) ((moneyWatch R C gate).next phase op r) := by
  refine ⟨?_, ?_, ?_⟩
  · intro a c hc hs
    rcases List.mem_append.mp hc with hc | hc
    · have hp := h.success a c hc hs
      rw [next_of_told r (.inl hp), hp]
    · obtain rfl := List.mem_singleton.mp hc
      exact next_of_success hok hs
  · intro a c hc hs
    rcases List.mem_append.mp hc with hc | hc
    · have hp := h.failure a c hc hs
      rw [next_of_told r (.inr hp), hp]
    · obtain rfl := List.mem_singleton.mp hc
      exact next_of_failure hok hs
  · intro a c hc hs
    rcases List.mem_append.mp hc with hc | hc
    · have hp := h.failed a c hc hs
      rw [next_of_told r (.inr hp), hp]
    · obtain rfl := List.mem_singleton.mp hc
      have hp := phase_of_movesToFailed hok hs
      rw [next_of_told r (.inr hp), hp]

/-! ## The journal -/

theorem transitionIn_state {claims claims' : ClaimJournal} {input : TransitionInput} {claim : PaymentClaim}
    (h : transitionIn claims input = .ok (claim, claims')) : claim.state = input.toState := by
  simp only [transitionIn] at h
  split at h
  · cases h
  · split at h
    · split at h
      · next hto =>
        cases h
        exact hto
      · cases h
    · simp only [bind_eq_ok, require_eq_ok, exists_const, pure_eq_ok, Prod.mk.injEq] at h
      obtain ⟨-, rfl, -⟩ := h
      rfl

/-- A transition that is answered with success returns the claim in its target state, and so leaves it in the
journal. -/
theorem transition_effect {w w' : ClaimJournal} {input : TransitionInput} {claim : PaymentClaim}
    (h : SettleEffect (R := R) (C := C) sha256Hex w (.claim (.transition input)) (.ok claim) w') :
    claim.state = input.toState ∧ ∃ c, getByActionId w' input.actionId = some c ∧ c.state = input.toState := by
  rcases StoreEffect.cases h with ⟨b, journal, hx, hr, hw⟩ | ⟨⟨e, he⟩, -⟩
  · cases hr
    have hw' : w' = journal := congrArg ClaimWorld.journal hw
    subst hw'
    refine ⟨transitionIn_state hx, ?_⟩
    obtain ⟨current, hcurrent, ⟨-, hto, hsame⟩ | ⟨-, hget⟩⟩ := transitionIn_ok hx
    · rw [hsame]
      exact ⟨current, hcurrent, hto⟩
    · exact ⟨_, (hget _).trans (if_pos rfl), rfl⟩
  · cases he

/-- From one journal to a later one, by a request in some phase: no claim of the action goes back to `CLAIMED`, and it
becomes `FAILED` only when the request was told so. -/
def ClaimKept (actionId : JsString) (phase : Phase) (w w' : ClaimJournal) : Prop :=
  (Unsettled actionId w' → Unsettled actionId w) ∧
    ∀ claim, getByActionId w' actionId = some claim → claim.state = .failed →
      (∃ c, getByActionId w actionId = some c ∧ c.state = .failed) ∨ phase = .refused actionId

theorem ClaimKept.refl (a : JsString) (phase : Phase) (w : ClaimJournal) : ClaimKept a phase w w :=
  ⟨id, fun claim hclaim hfailed => .inl ⟨claim, hclaim, hfailed⟩⟩

theorem ClaimKept.acquire {a : JsString} {phase : Phase} {w w' : ClaimJournal} {binding : PaymentClaimBinding}
    {now : JsString} {result : AcquirePaymentClaimResult} (h : acquireIn sha256Hex w binding now = .ok (result, w')) :
    ClaimKept a phase w w' := by
  refine ⟨Unsettled.of_acquireIn h, ?_⟩
  intro claim hclaim hfailed
  rcases acquireIn_ok h with rfl | ⟨-, rfl⟩
  · exact .inl ⟨claim, hclaim, hfailed⟩
  · rw [getByActionId_append, Option.or_eq_some_iff] at hclaim
    rcases hclaim with hclaim | ⟨-, hnew⟩
    · exact .inl ⟨claim, hclaim, hfailed⟩
    · split at hnew
      · cases hnew
        cases hfailed
      · cases hnew

theorem ClaimKept.transition {a : JsString} {phase : Phase} {w w' : ClaimJournal} {input : TransitionInput}
    {claim : PaymentClaim} (h : transitionIn w input = .ok (claim, w'))
    (hok : input.toState ≠ .claimed ∧ (input.toState = .failed → phase = .refused input.actionId)) :
    ClaimKept a phase w w' := by
  refine ⟨Unsettled.of_transitionIn h hok.1, ?_⟩
  intro claim hclaim hfailed
  obtain ⟨current, hcurrent, ⟨-, -, rfl⟩ | ⟨-, hget⟩⟩ := transitionIn_ok h
  · exact .inl ⟨claim, hclaim, hfailed⟩
  · rw [hget a] at hclaim
    split at hclaim
    · next ha =>
      cases hclaim
      exact .inr (ha ▸ hok.2 hfailed)
    · exact .inl ⟨claim, hclaim, hfailed⟩

theorem ClaimKept.of_effect {phase : Phase} {op : SettleOp C} {r : SettleOp.Ans R C op} {w w' : ClaimJournal}
    (hok : (moneyWatch R C gate).ok phase op) (h : SettleEffect sha256Hex w op r w') (a : JsString) :
    ClaimKept a phase w w' := by
  cases op with
  | claim op =>
    cases op with
    | acquire binding now =>
      rcases StoreEffect.cases h with ⟨b, journal, hx, -, hw⟩ | ⟨-, hw | ⟨b, journal, hx, hw⟩⟩
      · obtain rfl : w' = journal := congrArg ClaimWorld.journal hw
        exact .acquire hx
      · obtain rfl : w' = w := congrArg ClaimWorld.journal hw
        exact .refl ..
      · obtain rfl : w' = journal := congrArg ClaimWorld.journal hw
        exact .acquire hx
    | transition input =>
      rcases StoreEffect.cases h with ⟨b, journal, hx, -, hw⟩ | ⟨-, hw | ⟨b, journal, hx, hw⟩⟩
      · obtain rfl : w' = journal := congrArg ClaimWorld.journal hw
        exact .transition hx hok
      · obtain rfl : w' = w := congrArg ClaimWorld.journal hw
        exact .refl ..
      · obtain rfl : w' = journal := congrArg ClaimWorld.journal hw
        exact .transition hx hok
    | getByActionId =>
      obtain rfl : w' = w := congrArg ClaimWorld.journal h.2
      exact .refl ..
    | settleVerified => exact absurd (congrArg ClaimWorld.settleCalls h) (by simp)
    | _ =>
      obtain rfl : w' = w := congrArg ClaimWorld.journal h
      exact .refl ..
  | _ =>
    obtain rfl : w' = w := h
    exact .refl ..

/-- Some call of the run reported the payment of the action as failed. -/
def FailureReported (actionId : JsString) (ls : List (SettleLabel R C)) : Prop :=
  ∃ n op r, .call n op r ∈ ls ∧ reportsFailure actionId ⟨op, r⟩

theorem FailureReported.mono {a : JsString} {ls : List (SettleLabel R C)} (h : FailureReported a ls)
    (l : SettleLabel R C) : FailureReported a (ls ++ [l]) := by
  obtain ⟨n, op, r, hl, hf⟩ := h
  exact ⟨n, op, r, List.mem_append_left _ hl, hf⟩

/-- What the calls of one request, the journal and the run have to do with each other. -/
structure Accounted (gate : GateConfig) (ls : List (SettleLabel R C)) (journal : ClaimJournal)
    (own : List (SettleCallMade R C)) : Prop where
  told : Told own ((moneyWatch R C gate).after own)
  left : ∀ a, (moneyWatch R C gate).after own = .settling a ∨ (moneyWatch R C gate).after own = .paid a →
    ¬ Unsettled a journal
  refused : ∀ a, (moneyWatch R C gate).after own = .refused a → FailureReported a ls

theorem Accounted.mono {ls : List (SettleLabel R C)} {journal journal' : ClaimJournal}
    {own : List (SettleCallMade R C)} (h : Accounted gate ls journal own) (l : SettleLabel R C)
    (hkept : ∀ a, Unsettled a journal' → Unsettled a journal) : Accounted gate (ls ++ [l]) journal' own :=
  ⟨h.told, fun a ha hu => h.left a ha (hkept a hu), fun a ha => (h.refused a ha).mono l⟩

/-- What a call outside the gate can tell. -/
theorem afterClaim_cases (phase : Phase) (op : ClaimOp C) (r : ClaimOp.Ans R C op) :
    phase.afterClaim op r = phase ∨ phase.afterClaim op r = .unclear ∨
      (∃ input claim, (⟨.claim op, r⟩ : SettleCallMade R C) = ⟨.claim (.transition input), .ok claim⟩ ∧
        input.toState = .settling ∧ phase.afterClaim op r = .settling input.actionId) ∨
      (∃ a, reportsFailure a (⟨.claim op, r⟩ : SettleCallMade R C) ∧ phase.afterClaim op r = .refused a) := by
  cases phase with
  | idle =>
    cases op with
    | transition input =>
      cases r with
      | error e => exact .inl rfl
      | ok claim =>
        by_cases hto : input.toState = .settling
        · exact .inr (.inr (.inl ⟨input, claim, rfl, hto, if_pos hto⟩))
        · exact .inl (if_neg hto)
    | reconcile claim =>
      cases r with
      | error e => exact .inr (.inl rfl)
      | ok result =>
        cases result with
        | failed code => exact .inr (.inr (.inr ⟨_, rfl, rfl⟩))
        | confirmed | unknown => exact .inr (.inl rfl)
    | _ => exact .inl rfl
  | _ => exact .inl rfl

/-- What the facilitator's answer can tell. -/
theorem afterSettlement_cases (phase : Phase) (actionId : JsString) (verified : VerifiedAccessPayment)
    (answer : Option SettleResponse) :
    phase.afterSettlement actionId answer = phase ∨ phase.afterSettlement actionId answer = .unclear ∨
      ((∃ b, phase = .settling b) ∧ phase.afterSettlement actionId answer = .paid actionId) ∨
      (reportsFailure actionId (⟨.settlePayment actionId verified, answer⟩ : SettleCallMade R C) ∧
        phase.afterSettlement actionId answer = .refused actionId) := by
  cases phase with
  | settling b =>
    cases answer with
    | none => exact .inr (.inl rfl)
    | some settled =>
      cases hs : settled.success with
      | true => exact .inr (.inr (.inl ⟨⟨b, rfl⟩, if_pos hs⟩))
      | false => exact .inr (.inr (.inr ⟨⟨rfl, hs⟩, if_neg (by simp [hs])⟩))
  | _ => exact .inl rfl

/-- A request is settling for an action because it was, or because it has just moved the claim there. -/
theorem next_settling {phase : Phase} {op : SettleOp C} {r : SettleOp.Ans R C op} {a : JsString}
    (h : (moneyWatch R C gate).next phase op r = .settling a) :
    phase = .settling a ∨ ∃ input claim, (⟨op, r⟩ : SettleCallMade R C) = ⟨.claim (.transition input), .ok claim⟩ ∧
      input.actionId = a ∧ input.toState = .settling := by
  cases op with
  | settlePayment b verified =>
    rcases afterSettlement_cases (R := R) (C := C) phase b verified r with hn | hn | ⟨-, hn⟩ | ⟨-, hn⟩
    · exact .inl (hn.symm.trans h)
    · cases hn.symm.trans h
    · cases hn.symm.trans h
    · cases hn.symm.trans h
  | gateNow => exact .inl h
  | claim op =>
    rcases afterClaim_cases phase op r with hn | hn | ⟨input, claim, heq, hto, hn⟩ | ⟨_, -, hn⟩
    · exact .inl (hn.symm.trans h)
    · cases hn.symm.trans h
    · cases hn.symm.trans h
      exact .inr ⟨input, claim, heq, rfl, hto⟩
    · cases hn.symm.trans h

theorem next_paid {phase : Phase} {op : SettleOp C} {r : SettleOp.Ans R C op} {a : JsString}
    (hok : (moneyWatch R C gate).ok phase op)
    (h : (moneyWatch R C gate).next phase op r = .paid a) : phase = .settling a ∨ phase = .paid a := by
  cases op with
  | settlePayment b verified =>
    rcases afterSettlement_cases (R := R) (C := C) phase b verified r with hn | hn | ⟨-, hn⟩ | ⟨-, hn⟩
    · exact .inr (hn.symm.trans h)
    · cases hn.symm.trans h
    · cases hn.symm.trans h
      exact .inl hok
    · cases hn.symm.trans h
  | gateNow => exact .inr h
  | claim op =>
    rcases afterClaim_cases phase op r with hn | hn | ⟨_, _, -, -, hn⟩ | ⟨_, -, hn⟩
    · exact .inr (hn.symm.trans h)
    · cases hn.symm.trans h
    · cases hn.symm.trans h
    · cases hn.symm.trans h

theorem next_refused {phase : Phase} {op : SettleOp C} {r : SettleOp.Ans R C op} {a : JsString}
    (h : (moneyWatch R C gate).next phase op r = .refused a) :
    phase = .refused a ∨ reportsFailure a ⟨op, r⟩ := by
  cases op with
  | settlePayment b verified =>
    rcases afterSettlement_cases (R := R) (C := C) phase b verified r with hn | hn | ⟨-, hn⟩ | ⟨hf, hn⟩
    · exact .inl (hn.symm.trans h)
    · cases hn.symm.trans h
    · cases hn.symm.trans h
    · cases hn.symm.trans h
      exact .inr hf
  | gateNow => exact .inl h
  | claim op =>
    rcases afterClaim_cases phase op r with hn | hn | ⟨_, _, -, -, hn⟩ | ⟨_, hf, hn⟩
    · exact .inl (hn.symm.trans h)
    · cases hn.symm.trans h
    · cases hn.symm.trans h
    · cases hn.symm.trans h
      exact .inr hf

/-- One more call of a request. -/
theorem Accounted.concat {ls : List (SettleLabel R C)} {w w' : ClaimJournal} {own : List (SettleCallMade R C)}
    (h : Accounted gate ls w own) {n : Nat} {op : SettleOp C} {r : SettleOp.Ans R C op}
    (hok : (moneyWatch R C gate).ok ((moneyWatch R C gate).after own) op) (heffect : SettleEffect sha256Hex w op r w') :
    Accounted gate (ls ++ [.call n op r]) w' (own ++ [⟨op, r⟩]) := by
  have hkept (a : JsString) := (ClaimKept.of_effect hok heffect a).1
  have hstarted (a : JsString) (hs : (moneyWatch R C gate).next ((moneyWatch R C gate).after own) op r = .settling a) :
      ¬ Unsettled a w' := by
    rcases next_settling hs with hs | ⟨input, claim, heq, rfl, hto⟩
    · exact fun hu => h.left a (.inl hs) (hkept a hu)
    · cases heq
      obtain ⟨-, c, hc, hstate⟩ := transition_effect heffect
      intro hu
      have := hu c hc
      rw [hstate, hto] at this
      cases this
  refine ⟨?_, ?_, ?_⟩
  · rw [Monitor.after_concat]
    exact h.told.concat r hok
  · intro a ha
    rw [Monitor.after_concat] at ha
    rcases ha with ha | ha
    · exact hstarted a ha
    · exact fun hu => h.left a (next_paid hok ha) (hkept a hu)
  · intro a ha
    rw [Monitor.after_concat] at ha
    rcases next_refused ha with ha | hf
    · exact (h.refused a ha).mono _
    · exact ⟨n, op, r, List.mem_append_right _ (List.mem_singleton.mpr rfl), hf⟩

/-! ## Runs -/

/-- The runs in which the facilitator reports its successes well. -/
def wellReportedSystem (gate : GateConfig) (sha256Hex : JsString → JsString) (processed : R → JsString → Bool) :
    System (SettlePool R C) (SettleLabel R C) :=
  (settlementSystem gate sha256Hex processed).restrict fun _ l => wellReported gate l

theorem watched_of_run {ls : List (SettleLabel R C)} {s : SettlePool R C}
    (h : (wellReportedSystem gate sha256Hex processed).Run ls s) :
    (moneyWatch R C gate).Watched (fun _ _ => True) ls s := by
  refine Monitor.watched_of_run (settlementRequest_follows gate sha256Hex processed) ?_ h
  intro ls s n op r w _ heffect hc
  cases op with
  | settlePayment a verified =>
    cases r with
    | none => trivial
    | some settled => exact hc
  | gateNow => trivial
  | claim op =>
    cases op with
    | transition input =>
      cases r with
      | error e => trivial
      | ok claim => exact (transition_effect heffect).1
    | _ => trivial

end Request

/-! ## One request whose settlement is reported successful -/

namespace Reported

def gate : GateConfig := ⟨js "hedera:testnet", js "0.0.9001"⟩

/-- A success under the transaction id the facilitator gives. -/
def success (transaction : String) : SettleResponse where
  success := true
  transaction := .text (js transaction)
  network := .text (js "hedera:testnet")
  payer := .text (js "0.0.5001")
  consensusTimestamp := .missing

/-- The mutation of a journal that does not fail. -/
def applied {β : Type} (w : ClaimJournal) :
    Except PaymentClaimStoreError (β × ClaimJournal) → Except AccessError β × ClaimJournal
  | .ok (b, journal) => (.ok b, journal)
  | .error e => (.error (.store e), w)

/-- A service whose facilitator reports `settled`. -/
def answer (settled : SettleResponse) (w : ClaimJournal) :
    (op : SettleOp Unit) → Option (SettleOp.Ans Unit Unit op × ClaimJournal)
  | .settlePayment .. => some (some settled, w)
  | .gateNow => some (js "2026-09-21T12:53:21Z", w)
  | .claim (.getByActionId actionId) => some (.ok (getByActionId w actionId), w)
  | .claim (.verify ..) => some (.ok Race.verified, w)
  | .claim .now => some (js "2026-09-21T12:53:20Z", w)
  | .claim (.acquire binding now) => some (applied w (acquireIn Race.sha256Hex w binding now))
  | .claim (.transition input) => some (applied w (transitionIn w input))
  | .claim (.paymentFault ..) => some (.ok (), w)
  | .claim (.reconcile _) => some (.ok .unknown, w)
  | .claim (.settleVerified ..) => none
  | .claim (.getRecord _) => some (.ok none, w)
  | .claim (.commit _) => some (.ok (), w)

theorem applied_effect {β : Type} (w : ClaimJournal) (x : Except PaymentClaimStoreError (β × ClaimJournal)) :
    StoreEffect ⟨w, []⟩ x (applied w x).1 ⟨(applied w x).2, []⟩ := by
  cases x with
  | ok x => exact .applied
  | error e => exact .refused

theorem answer_effect (settled : SettleResponse) (w : ClaimJournal) (op : SettleOp Unit)
    (r : SettleOp.Ans Unit Unit op × ClaimJournal) (h : answer settled w op = some r) :
    SettleEffect Race.sha256Hex w op r.1 r.2 := by
  cases op with
  | claim op =>
    cases op with
    | getByActionId actionId =>
      cases h
      exact ⟨.inl rfl, rfl⟩
    | acquire binding now =>
      cases h
      exact applied_effect w _
    | transition input =>
      cases h
      exact applied_effect w _
    | settleVerified => cases h
    | _ =>
      cases h
      rfl
  | _ =>
    cases h
    rfl

def main : ExecuteClaimInput Unit → Prog (SettleOp Unit) (SettleOp.Ans Unit Unit) (Except AccessError Unit) :=
  settlementRequest gate Race.sha256Hex Race.processed

/-- One request, with its first `calls` calls. -/
def moves (calls : Nat) : List (Move (ExecuteClaimInput Unit)) := Move.request 0 Race.input calls

/-- No call of the run reports a failure. -/
def quiet : SettleLabel Unit Unit → Bool
  | .call _ (.settlePayment ..) (some settled) => settled.success
  | .call _ (.claim (.reconcile _)) _ => false
  | _ => true

/-- The successes of the run pass the checks of the gate. -/
def sound : SettleLabel Unit Unit → Bool
  | .call _ (.settlePayment _ verified) (some settled) => (checkSettlement gate verified settled).toOption.isSome
  | _ => true

/-- The request as it runs, started over an empty journal. -/
def played (check : SettleLabel Unit Unit → Bool) (settled : SettleResponse) (calls : Nat) :
    Option (List (SettleLabel Unit Unit) × SettlePool Unit Unit) :=
  Pool.play main (answer settled) (fun _ l => check l) (moves calls) ⟨[], fun _ => none⟩

theorem run_of_played {check : SettleLabel Unit Unit → Bool} {settled : SettleResponse} {calls : Nat}
    {ls : List (SettleLabel Unit Unit)} {s : SettlePool Unit Unit} (h : played check settled calls = some (ls, s)) :
    ((settlementSystem gate Race.sha256Hex Race.processed).restrict fun _ l => check l = true).Run ls s :=
  run_of_play (answer_effect settled) (Eq.refl ([] : ClaimJournal)) h

end Reported

/-! ## The result -/

end RouteGuard.Access
