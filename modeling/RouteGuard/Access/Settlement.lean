import RouteGuard.Access.ExecuteClaim

/-!
# At most one settlement call

A request calls `gate.settleVerified` only after its own transition from `CLAIMED` to `SETTLING` was
answered with success (`SettleSafe`). The journal answers with success in two cases: the claim was
`CLAIMED` and is moved, which happens once, or it is `SETTLING` already, moved by another request. In
the second case both requests settle (`Race`). In every run without it one call is made at most.

* `SettleSafe` : the permission to settle, followed through a program;
* `executePaymentClaim_settleSafe` : a request keeps to it;
* `OneSettler` : at most one request holds the permission, and none once it was used;
* `settles_at_most_once` : the run.
-/

namespace RouteGuard.Access
open JsString Store

section Program
variable {R C α β : Type}

/-! ## The permission to settle -/

/-- The transition of an action to `SETTLING`. -/
def startsSettling (actionId : JsString) (input : TransitionInput) : Bool :=
  input.actionId = actionId && input.toState = .settling

/-- Whether a request that made this call may settle for the action next. -/
def armedAfter (actionId : JsString) (armed : Bool) : (op : ClaimOp C) → ClaimOp.Ans R C op → Bool
  | .transition input, .ok _ => armed || startsSettling actionId input
  | .settleVerified a _, _ => armed && a ≠ actionId
  | _, _ => armed

/-- The calls a request may make: it settles for the action only with the permission, and it moves no
claim back to `CLAIMED`. -/
def allowed (actionId : JsString) (armed : Bool) : ClaimOp C → Prop
  | .settleVerified a _ => a = actionId → armed = true
  | .transition input => input.toState ≠ .claimed ∧ (input.toState = .settling → input.fromStates = [.claimed])
  | _ => True

/-- Every call of the program is allowed, whatever the answers are. -/
def SettleSafe (actionId : JsString) : Bool → ClaimProg R C α → Prop
  | _, .ret _ => True
  | armed, .call op k =>
    allowed actionId armed op ∧ ∀ r, SettleSafe actionId (armedAfter actionId armed op r) (k r)

variable {actionId : JsString}

theorem allowed_arm {op : ClaimOp C} (h : allowed actionId false op) (armed : Bool) :
    allowed actionId armed op := by
  cases op with
  | settleVerified a v => exact fun ha => absurd (h ha) Bool.false_ne_true
  | transition input => exact h
  | _ => trivial

theorem armedAfter_arm (actionId : JsString) (op : ClaimOp C) (r : ClaimOp.Ans R C op) (armed : Bool) :
    armedAfter actionId false op r = false ∨
      armedAfter actionId false op r = armedAfter actionId armed op r := by
  cases op with
  | transition input =>
    cases r with
    | error e => exact .inl rfl
    | ok c =>
      simp only [armedAfter, Bool.false_or]
      cases startsSettling actionId input
      · exact .inl rfl
      · exact .inr (Bool.or_true armed).symm
  | settleVerified a v => exact .inl rfl
  | _ => exact .inl rfl

/-- A program that needs no permission may have it. -/
theorem SettleSafe.arm {p : ClaimProg R C α} (h : SettleSafe actionId false p) (armed : Bool) :
    SettleSafe actionId armed p := by
  induction p generalizing armed with
  | ret => trivial
  | call op k ih =>
    refine ⟨allowed_arm h.1 armed, fun r => ?_⟩
    have hr := h.2 r
    rcases armedAfter_arm actionId op r armed with hf | he
    · rw [hf] at hr
      exact ih r hr _
    · rwa [← he]

theorem SettleSafe.prog_bind {armed : Bool} {p : ClaimProg R C α} {f : α → ClaimProg R C β}
    (hp : SettleSafe actionId armed p) (hf : ∀ a, SettleSafe actionId false (f a)) :
    SettleSafe actionId armed (p >>= f) := by
  induction p generalizing armed with
  | ret a => exact (hf a).arm armed
  | call op k ih => exact ⟨hp.1, fun r => ih r (hp.2 r)⟩

theorem SettleSafe.bind {armed : Bool} {x : ClaimM R C α} {f : α → ClaimM R C β}
    (hx : SettleSafe actionId armed x.run) (hf : ∀ a, SettleSafe actionId false (f a).run) :
    SettleSafe actionId armed (x >>= f).run := by
  refine SettleSafe.prog_bind hx fun r => ?_
  cases r with
  | ok a => exact hf a
  | error e => trivial

/-! ## A request keeps to it -/

theorem findOrAcquire_settleSafe (input : ExecuteClaimInput C) :
    SettleSafe actionId false (findOrAcquire (R := R) input).run := by
  refine SettleSafe.bind ⟨trivial, fun _ => trivial⟩ fun found => ?_
  cases found with
  | some claim => trivial
  | none =>
    cases input.payment with
    | none => trivial
    | some rawPayment =>
      refine SettleSafe.bind ⟨trivial, fun _ => trivial⟩ fun verified => ?_
      refine SettleSafe.bind ⟨trivial, fun _ => trivial⟩ fun now => ?_
      refine SettleSafe.bind ⟨trivial, fun _ => trivial⟩ fun acquired => ?_
      dsimp only
      split
      · exact SettleSafe.bind ⟨trivial, fun _ => trivial⟩ fun _ => trivial
      · trivial

theorem committedRecord_settleSafe (processed : R → JsString → Bool) (claim : PaymentClaim) :
    SettleSafe (C := C) actionId false (committedRecord processed claim).run := by
  refine SettleSafe.bind ⟨trivial, fun _ => trivial⟩ fun found => ?_
  cases found with
  | none => trivial
  | some record =>
    dsimp only
    split <;> trivial

theorem reconcileClaim_settleSafe (input : ExecuteClaimInput C) (claim : PaymentClaim) :
    SettleSafe actionId false (reconcileClaim (R := R) input claim).run := by
  refine SettleSafe.bind ⟨trivial, fun _ => trivial⟩ fun result => ?_
  cases result with
  | unknown => trivial
  | failed failureCode =>
    refine SettleSafe.bind ⟨trivial, fun _ => trivial⟩ fun now => ?_
    refine SettleSafe.bind ?_ fun _ => trivial
    exact ⟨⟨nofun, nofun⟩, fun _ => trivial⟩
  | confirmed settlement =>
    refine SettleSafe.bind trivial fun _ => ?_
    refine SettleSafe.bind ⟨trivial, fun _ => trivial⟩ fun now => ?_
    exact ⟨⟨nofun, nofun⟩, fun _ => trivial⟩

theorem resumePayment_settleSafe (sha256Hex : JsString → JsString) (input : ExecuteClaimInput C)
    (claim : PaymentClaim) (verified : Option VerifiedAccessPayment) :
    SettleSafe actionId false (resumePayment (R := R) sha256Hex input claim verified).run := by
  unfold resumePayment
  split
  · trivial
  · split
    · trivial
    · refine SettleSafe.bind ⟨trivial, fun _ => trivial⟩ fun verified => ?_
      split <;> trivial

/-- Settling needs the permission once. -/
theorem settleAndRecord_settleSafe (input : ExecuteClaimInput C) (claim : PaymentClaim)
    (verified : VerifiedAccessPayment) {armed : Bool} (harmed : input.actionId = actionId → armed = true) :
    SettleSafe actionId armed (settleAndRecord (R := R) input claim verified).run := by
  refine SettleSafe.bind ⟨harmed, fun _ => trivial⟩ fun outcome => ?_
  match outcome with
  | .error (.payment code) =>
    refine SettleSafe.bind ⟨trivial, fun _ => trivial⟩ fun now => ?_
    refine SettleSafe.bind ?_ fun _ => trivial
    exact ⟨⟨nofun, nofun⟩, fun _ => trivial⟩
  | .error (.access ..) | .error (.store _) | .error .other => trivial
  | .ok settled =>
    refine SettleSafe.bind trivial fun _ => ?_
    refine SettleSafe.bind ⟨trivial, fun _ => trivial⟩ fun now => ?_
    refine SettleSafe.bind ⟨⟨nofun, nofun⟩, fun _ => trivial⟩ fun claim => ?_
    exact SettleSafe.bind ⟨trivial, fun _ => trivial⟩ fun _ => trivial

theorem settleClaim_settleSafe (sha256Hex : JsString → JsString) (input : ExecuteClaimInput C)
    (claim : PaymentClaim) (verified : Option VerifiedAccessPayment) :
    SettleSafe actionId false (settleClaim (R := R) sha256Hex input claim verified).run := by
  refine SettleSafe.bind (resumePayment_settleSafe sha256Hex input claim verified) fun verified => ?_
  refine SettleSafe.bind ⟨trivial, fun _ => trivial⟩ fun now => ?_
  -- the answer to this transition is what gives the permission
  refine ⟨⟨nofun, fun _ => rfl⟩, fun r => ?_⟩
  cases r with
  | error e => trivial
  | ok claim =>
    refine settleAndRecord_settleSafe input claim verified fun ha => ?_
    simp [armedAfter, startsSettling, startSettling, ha]

theorem commitClaim_settleSafe (input : ExecuteClaimInput C) (claim : PaymentClaim) :
    SettleSafe actionId false (commitClaim (R := R) input claim).run := by
  unfold commitClaim
  split
  · refine SettleSafe.bind ⟨trivial, fun _ => trivial⟩ fun _ => ?_
    refine SettleSafe.bind ⟨trivial, fun _ => trivial⟩ fun outcome => ?_
    match outcome with
    | .error (.access ..) | .error (.payment _) | .error (.store _) | .error .other => trivial
    | .ok record =>
      refine SettleSafe.bind ⟨trivial, fun _ => trivial⟩ fun _ => ?_
      refine SettleSafe.bind ⟨trivial, fun _ => trivial⟩ fun _ => ?_
      refine SettleSafe.bind ⟨trivial, fun _ => trivial⟩ fun now => ?_
      exact SettleSafe.bind ⟨⟨nofun, nofun⟩, fun _ => trivial⟩ fun _ => trivial
  · trivial

theorem executePaymentClaim_settleSafe (sha256Hex : JsString → JsString)
    (processed : R → JsString → Bool) (input : ExecuteClaimInput C) :
    SettleSafe actionId false (executePaymentClaim sha256Hex processed input).run := by
  refine SettleSafe.bind (findOrAcquire_settleSafe input) fun found => ?_
  refine SettleSafe.bind trivial fun _ => ?_
  split
  · exact committedRecord_settleSafe processed _
  · split
    · trivial
    · refine SettleSafe.bind ?_ fun claim => SettleSafe.bind ?_ fun claim => commitClaim_settleSafe input claim
      · split
        · exact reconcileClaim_settleSafe input _
        · trivial
      · split
        · exact settleClaim_settleSafe sha256Hex input _ _
        · trivial

end Program

/-! ## The journal and the permission -/

/-- No claim of the action has left `CLAIMED`. -/
def Unsettled (actionId : JsString) (journal : ClaimJournal) : Prop :=
  ∀ claim, getByActionId journal actionId = some claim → claim.state = .claimed

theorem Unsettled.of_acquireIn {sha256Hex : JsString → JsString} {journal journal' : ClaimJournal}
    {binding : PaymentClaimBinding} {now actionId : JsString} {result : AcquirePaymentClaimResult}
    (h : acquireIn sha256Hex journal binding now = .ok (result, journal'))
    (hu : Unsettled actionId journal') : Unsettled actionId journal := by
  rcases acquireIn_ok h with rfl | ⟨-, rfl⟩
  · exact hu
  · intro claim hclaim
    apply hu
    rw [getByActionId_append, hclaim]
    rfl

theorem Unsettled.of_transitionIn {journal journal' : ClaimJournal} {input : TransitionInput}
    {claim : PaymentClaim} {actionId : JsString} (h : transitionIn journal input = .ok (claim, journal'))
    (hto : input.toState ≠ .claimed) (hu : Unsettled actionId journal') : Unsettled actionId journal := by
  obtain ⟨current, -, ⟨-, -, rfl⟩ | ⟨-, hget⟩⟩ := transitionIn_ok h
  · exact hu
  · have ha := hget actionId
    by_cases heq : actionId = input.actionId
    · rw [if_pos heq] at ha
      exact absurd (hu _ ha) hto
    · rw [if_neg heq] at ha
      intro claim hclaim
      exact hu claim (ha.trans hclaim)

/-- At most one request holds the permission to settle for an action, nobody before the claim has left
`CLAIMED`, and nobody after a settlement call. -/
structure OneSettler {R C : Type} (actionId : JsString) (owner : Option Nat) (s : ClaimPool R C) :
    Prop where
  safe : ∀ n p, s.threads n = some p → SettleSafe actionId (decide (owner = some n)) p
  unused : owner ≠ none → settleCount actionId s.shared = 0
  once : settleCount actionId s.shared ≤ 1
  fresh : Unsettled actionId s.shared.journal → owner = none ∧ settleCount actionId s.shared = 0

/-- The condition under which requests do not settle twice: none asks for the move from `CLAIMED` to
`SETTLING` while the claim is `SETTLING` already. -/
def startsFromClaimed {R C : Type} (s : ClaimPool R C) : ClaimLabel R C → Bool
  | .call _ (.transition input) _ =>
    !(input.fromStates = [.claimed] && input.toState = .settling &&
      (getByActionId s.shared.journal input.actionId).map PaymentClaim.state = some .settling)
  | _ => true

/-- The runs in which every step meets the condition. -/
def orderlySystem {R C : Type} (sha256Hex : JsString → JsString) (processed : R → JsString → Bool) :
    System (ClaimPool R C) (ClaimLabel R C) :=
  (claimSystem sha256Hex processed).restrict fun s l => startsFromClaimed s l = true

section Run
variable {R C : Type} {actionId : JsString} {owner owner' : Option Nat} {s : ClaimPool R C} {n : Nat}
  {w : ClaimWorld}

/-- The other requests do not notice a change of the permission at request `n`. -/
theorem OneSettler.safe_put {p : Option (ClaimProg R C (Except AccessError R))}
    (hs : OneSettler actionId owner s) (hother : ∀ m, m ≠ n → owner = some m → owner' = some m)
    (hp : ∀ q, p = some q → SettleSafe actionId (decide (owner' = some n)) q) (m : Nat)
    (q : ClaimProg R C (Except AccessError R)) (hq : (s.put w n p).threads m = some q) :
    SettleSafe actionId (decide (owner' = some m)) q := by
  by_cases hm : m = n
  · subst hm
    rw [Pool.put_threads_self] at hq
    exact hp q hq
  · rw [Pool.put_threads_of_ne _ _ _ hm] at hq
    have hold := hs.safe m q hq
    by_cases ho : owner = some m
    · rw [hother m hm ho]
      rwa [ho] at hold
    · rw [decide_eq_false ho] at hold
      exact hold.arm _

/-- A step that gives and takes no permission. -/
theorem OneSettler.keep {p : Option (ClaimProg R C (Except AccessError R))}
    (hs : OneSettler actionId owner s)
    (hp : ∀ q, p = some q → SettleSafe actionId (decide (owner = some n)) q)
    (hcount : settleCount actionId w = settleCount actionId s.shared)
    (hjournal : Unsettled actionId w.journal → Unsettled actionId s.shared.journal) :
    OneSettler actionId owner (s.put w n p) := by
  refine ⟨hs.safe_put (fun _ _ h => h) hp, ?_, ?_, ?_⟩
  · rw [Pool.put_shared, hcount]
    exact hs.unused
  · rw [Pool.put_shared, hcount]
    exact hs.once
  · rw [Pool.put_shared, hcount]
    exact fun hu => hs.fresh (hjournal hu)

/-- The move of the claim out of `CLAIMED` gives the permission. -/
theorem OneSettler.start {p : ClaimProg R C (Except AccessError R)} {input : TransitionInput}
    {claim : PaymentClaim} {journal : ClaimJournal} (hs : OneSettler actionId owner s)
    (hop : allowed (C := C) actionId (decide (owner = some n)) (.transition input))
    (hlate : startsFromClaimed s (.call n (.transition input) (.ok claim)) = true)
    (hid : input.actionId = actionId) (hto : input.toState = .settling)
    (h : transitionIn s.shared.journal input = .ok (claim, journal)) (hp : SettleSafe actionId true p) :
    OneSettler actionId (some n) (s.put { s.shared with journal := journal } n (some p)) := by
  have hfrom := hop.2 hto
  obtain ⟨current, hcurrent, ⟨-, hstate, -⟩ | ⟨hstate, hget⟩⟩ := transitionIn_ok h
  · simp [startsFromClaimed, hfrom, hto, hcurrent, hstate] at hlate
  · rw [hfrom, List.mem_singleton] at hstate
    have hu : Unsettled actionId s.shared.journal := by
      intro c hc
      rw [← hid, hcurrent, Option.some.injEq] at hc
      exact hc ▸ hstate
    obtain ⟨rfl, hcount⟩ := hs.fresh hu
    have hcount' : settleCount actionId { s.shared with journal := journal } = 0 := hcount
    refine ⟨hs.safe_put (fun _ _ h => nomatch h) ?_, fun _ => hcount', hcount'.trans_le (Nat.zero_le 1), ?_⟩
    · rintro _ ⟨⟩
      rwa [decide_eq_true rfl]
    · intro hu'
      have ha := hget actionId
      rw [if_pos hid.symm] at ha
      have := hu' _ ha
      rw [show (current.advance input).state = input.toState from rfl, hto] at this
      cases this

/-- The settlement call uses the permission up. -/
theorem OneSettler.settle {p : ClaimProg R C (Except AccessError R)} {verified : VerifiedAccessPayment}
    {outcome : Except AccessError SettledAccessPayment} (hs : OneSettler actionId owner s)
    (hn : owner = some n) (hp : SettleSafe actionId false p) :
    OneSettler actionId none
      (s.put { s.shared with settleCalls := s.shared.settleCalls ++ [⟨actionId, verified, outcome⟩] } n
        (some p)) := by
  subst hn
  have hzero := hs.unused nofun
  have hcount : settleCount actionId
      { s.shared with settleCalls := s.shared.settleCalls ++ [⟨actionId, verified, outcome⟩] } = 1 := by
    rw [settleCount, List.countP_append]
    rw [settleCount] at hzero
    simp [hzero]
  refine ⟨hs.safe_put (fun m hm h => absurd (Option.some.inj h).symm hm) ?_, nofun, hcount.le, ?_⟩
  · rintro _ ⟨⟩
    rwa [decide_eq_false nofun]
  · exact fun hu => nomatch (hs.fresh hu).1

theorem armedAfter_error {input : TransitionInput} {armed : Bool} {e : AccessError} :
    armedAfter (R := R) (C := C) actionId armed (.transition input) (.error e) = armed := rfl

theorem OneSettler.transition {input : TransitionInput} {r : Except AccessError PaymentClaim}
    {k : Except AccessError PaymentClaim → ClaimProg R C (Except AccessError R)}
    (hs : OneSettler actionId owner s) (hn : s.threads n = some (.call (.transition input) k))
    (hr : StoreEffect s.shared (transitionIn s.shared.journal input) r w)
    (hlate : startsFromClaimed s (.call n (.transition input) r) = true) :
    ∃ owner', OneSettler actionId owner' (s.put w n (some (k r))) := by
  obtain ⟨hop, hk⟩ := hs.safe n _ hn
  rcases hr.cases with ⟨claim, journal, h, rfl, rfl⟩ | ⟨⟨e, rfl⟩, hw⟩
  · have hkr := hk (.ok claim)
    by_cases hstart : startsSettling actionId input = true
    · simp only [armedAfter, hstart, Bool.or_true] at hkr
      simp only [startsSettling, Bool.and_eq_true, decide_eq_true_eq] at hstart
      exact ⟨some n, hs.start hop hlate hstart.1 hstart.2 h hkr⟩
    · simp only [armedAfter, hstart, Bool.or_false] at hkr
      refine ⟨owner, hs.keep ?_ rfl (Unsettled.of_transitionIn h hop.1)⟩
      rintro _ ⟨⟩
      exact hkr
  · have hkr := hk (.error e)
    rw [armedAfter_error] at hkr
    refine ⟨owner, hs.keep ?_ ?_ ?_⟩
    · rintro _ ⟨⟩
      exact hkr
    · rcases hw with rfl | ⟨_, _, -, rfl⟩ <;> rfl
    · rcases hw with rfl | ⟨_, _, h, rfl⟩
      · exact id
      · exact Unsettled.of_transitionIn h hop.1

/-- A call that leaves the permission and the settlement calls alone. -/
theorem OneSettler.quiet {op : ClaimOp C} {r : ClaimOp.Ans R C op}
    {k : ClaimOp.Ans R C op → ClaimProg R C (Except AccessError R)}
    (hs : OneSettler actionId owner s) (hn : s.threads n = some (.call op k))
    (harmed : ∀ armed, armedAfter actionId armed op r = armed)
    (hcount : settleCount actionId w = settleCount actionId s.shared)
    (hjournal : Unsettled actionId w.journal → Unsettled actionId s.shared.journal) :
    ∃ owner', OneSettler actionId owner' (s.put w n (some (k r))) := by
  have hkr := (hs.safe n _ hn).2 r
  rw [harmed] at hkr
  refine ⟨owner, hs.keep ?_ hcount hjournal⟩
  rintro _ ⟨⟩
  exact hkr

/-- One call of one request. -/
theorem OneSettler.call {sha256Hex : JsString → JsString} {op : ClaimOp C}
    {k : ClaimOp.Ans R C op → ClaimProg R C (Except AccessError R)} {r : ClaimOp.Ans R C op}
    (hs : OneSettler actionId owner s) (hn : s.threads n = some (.call op k))
    (hr : ClaimEffect sha256Hex s.shared op r w) (hlate : startsFromClaimed s (.call n op r) = true) :
    ∃ owner', OneSettler actionId owner' (s.put w n (some (k r))) := by
  cases op with
  | transition input => exact hs.transition hn hr hlate
  | acquire binding now =>
    rcases StoreEffect.cases hr with ⟨_, _, h, -, rfl⟩ | ⟨-, rfl | ⟨_, _, h, rfl⟩⟩
    · exact hs.quiet hn (fun _ => rfl) rfl (Unsettled.of_acquireIn h)
    · exact hs.quiet hn (fun _ => rfl) rfl id
    · exact hs.quiet hn (fun _ => rfl) rfl (Unsettled.of_acquireIn h)
  | settleVerified a verified =>
    obtain rfl : w = _ := hr
    by_cases ha : a = actionId
    · subst ha
      obtain ⟨hop, hk⟩ := hs.safe n _ hn
      have hkr := hk r
      simp only [armedAfter, ne_eq, not_true_eq_false, decide_false, Bool.and_false] at hkr
      exact ⟨none, hs.settle (of_decide_eq_true (hop rfl)) hkr⟩
    · refine hs.quiet hn (fun armed => ?_) ?_ id
      · simp [armedAfter, ha]
      · simp [settleCount, List.countP_append, ha]
  | getByActionId => exact hs.quiet hn (fun _ => rfl) (by rw [hr.2]) (by rw [hr.2]; exact id)
  | _ =>
    obtain rfl : w = _ := hr
    exact hs.quiet hn (fun _ => rfl) rfl id

variable {sha256Hex : JsString → JsString} {processed : R → JsString → Bool}

theorem OneSettler.step {l : ClaimLabel R C} {t : ClaimPool R C} (hs : OneSettler actionId owner s)
    (h : (claimSystem sha256Hex processed).step s l t) (hlate : startsFromClaimed s l = true) :
    ∃ owner', OneSettler actionId owner' t := by
  cases h with
  | start =>
    refine ⟨owner, hs.keep ?_ rfl id⟩
    rintro _ ⟨⟩
    exact (executePaymentClaim_settleSafe sha256Hex processed _).arm _
  | call hn hr => exact hs.call hn hr hlate
  | lost => exact ⟨owner, hs.keep nofun rfl id⟩

theorem oneSettler_of_run {ls : List (ClaimLabel R C)}
    (h : (orderlySystem sha256Hex processed).Run ls s) (actionId : JsString) :
    ∃ owner, OneSettler actionId owner s := by
  refine System.Run.induction (S := orderlySystem sha256Hex processed)
    (I := fun _ s => ∃ owner, OneSettler actionId owner s) ?_ ?_ h
  · rintro s ⟨⟨-, hcalls⟩, hthreads⟩
    have hcount : settleCount actionId s.shared = 0 := by rw [settleCount, hcalls]; rfl
    refine ⟨none, ?_, fun _ => hcount, hcount.trans_le (Nat.zero_le 1), fun _ => ⟨rfl, hcount⟩⟩
    intro n p hp
    rw [hthreads] at hp
    cases hp
  · rintro _ _ _ _ _ ⟨owner, hs⟩ ⟨hstep, hlate⟩
    exact hs.step hstep hlate

end Run

/-! ## Two requests that settle -/

namespace Race

def verified : VerifiedAccessPayment where
  payload := js "eyJ4NDAyVmVyc2lvbiI6Mn0="
  payTo := js "0.0.9001"
  asset := js "0.0.429274"
  amount := js "1000"
  payerAccount := js "0.0.5001"
  paymentPayloadHash := js "sha256:040ffd5925d40e11c67b7238a7fc9957850b8b9a46e9729fab88c24d6a98aff2"
  binding := ⟨.tenderActivate, js "T-1", 1, none, js "/api/v2/tenders/T-1/v/1/activate"⟩

def settled : SettledAccessPayment where
  transactionId := js "0.0.5001@1790000000.000000001"
  payerAccount := js "0.0.5001"
  payTo := js "0.0.9001"
  asset := js "0.0.429274"
  amountAtomic := js "1000"
  resource := js "/api/v2/tenders/T-1/v/1/activate"
  paymentPayloadHash := verified.paymentPayloadHash
  consensusTimestamp := js "2026-09-21T12:53:21Z"
  settledAt := js "2026-09-21T12:53:21Z"

/-- The activation of one tender, sent twice with the same payment. -/
def input : ExecuteClaimInput Unit where
  config := ⟨js "0.0.9001", js "0.0.429274", js "1000"⟩
  actionId := js "act-1"
  binding := verified.binding
  requestHash := js "sha256:1f58b9145b24d108d7ac38887338b3ea3229833b9c1e418250343f907bfd1047"
  rawPayment := some verified.payload
  commit _ := ()
  resultRef := ⟨.tenderActivation, js "T-1", 1, none, js "act-1"⟩

/-- The digest of the one binding that is hashed. -/
def sha256Hex (_ : JsString) : JsString :=
  js "dc78a8cfec7b65ff3975f22ea57e82a56fd79efae8c81f87aa1d15a6fa0306ae"

/-- The mutation of a store that does not fail. -/
def applied {β : Type} (w : ClaimWorld) :
    Except PaymentClaimStoreError (β × ClaimJournal) → Except AccessError β × ClaimWorld
  | .ok (b, journal) => (.ok b, { w with journal := journal })
  | .error e => (.error (.store e), w)

/-- A facilitator that verifies and settles whatever it is asked to. -/
def answer (w : ClaimWorld) : (op : ClaimOp Unit) → Option (ClaimOp.Ans Unit Unit op × ClaimWorld)
  | .getByActionId actionId => some (.ok (getByActionId w.journal actionId), w)
  | .verify .. => some (.ok verified, w)
  | .now => some (js "2026-09-21T12:53:20Z", w)
  | .acquire binding now => some (applied w (acquireIn sha256Hex w.journal binding now))
  | .transition input => some (applied w (transitionIn w.journal input))
  | .paymentFault .. => some (.ok (), w)
  | .reconcile _ => some (.ok .unknown, w)
  | .settleVerified actionId verified =>
    some (.ok settled, { w with settleCalls := w.settleCalls ++ [⟨actionId, verified, .ok settled⟩] })
  | .getRecord _ => some (.ok none, w)
  | .commit _ => some (.ok (), w)

theorem answer_effect (w : ClaimWorld) (op : ClaimOp Unit) (r : ClaimOp.Ans Unit Unit op × ClaimWorld)
    (h : answer w op = some r) : ClaimEffect sha256Hex w op r.1 r.2 := by
  cases op with
  | getByActionId actionId =>
    cases h
    exact ⟨.inl rfl, rfl⟩
  | acquire binding now =>
    cases h
    cases hx : acquireIn sha256Hex w.journal binding now with
    | ok x =>
      simp only [ClaimEffect, hx]
      exact .applied
    | error e =>
      simp only [ClaimEffect, hx]
      exact .refused
  | transition input =>
    cases h
    cases hx : transitionIn w.journal input with
    | ok x =>
      simp only [ClaimEffect, hx]
      exact .applied
    | error e =>
      simp only [ClaimEffect, hx]
      exact .refused
  | _ =>
    cases h
    rfl

def processed (_ : Unit) (_ : JsString) : Bool := true

def main (input : ExecuteClaimInput Unit) : ClaimProg Unit Unit (Except AccessError Unit) :=
  (executePaymentClaim sha256Hex processed input).run

/-- The service at its start. -/
def idle : ClaimPool Unit Unit := ⟨⟨[], []⟩, fun _ => none⟩

/-- Both requests find no claim and verify. The first acquires the claim, the second finds it `CLAIMED`;
the first moves it to `SETTLING` and settles; the second asks for the same move and settles. -/
def moves : List (Move (ExecuteClaimInput Unit)) :=
  [.start 0 input, .start 1 input, .call 0, .call 1, .call 0, .call 1, .call 0, .call 0, .call 0, .call 1,
   .call 1, .call 0, .call 0, .call 0, .call 1, .call 1, .call 1]

/-- A request that runs up to its settlement call and is lost, and its retry. -/
def retry : List (Move (ExecuteClaimInput Unit)) :=
  Move.request 0 input 8 ++ [Move.lost 0] ++ Move.request 1 input 2

end Race

/-! ## The result -/

/-- **At most one settlement.** For any number of requests, interleaved, lost and retried at any await:
as long as no request asks for the move from `CLAIMED` to `SETTLING` of a claim that is `SETTLING`
already, `gate.settleVerified` is called at most once for every action. -/
theorem settles_at_most_once {R C : Type} (sha256Hex : JsString → JsString)
    (processed : R → JsString → Bool) {ls : List (ClaimLabel R C)} {s : ClaimPool R C}
    (h : (orderlySystem sha256Hex processed).Run ls s) (actionId : JsString) :
    settleCount actionId s.shared ≤ 1 := by
  obtain ⟨owner, hs⟩ := oneSettler_of_run h actionId
  exact hs.once


theorem settles_at_most_once_retry :
    ∃ (ls : List (ClaimLabel Unit Unit)) (s : ClaimPool Unit Unit),
      (orderlySystem Race.sha256Hex Race.processed).Run ls s ∧
      settleCount Race.input.actionId s.shared = 1 ∧ settleCount Race.input.actionId s.shared ≤ 1 := by
  have hplay : ∃ r ∈ Race.idle.play Race.main Race.answer startsFromClaimed Race.retry,
      settleCount Race.input.actionId r.2.shared = 1 := by
    decide
  obtain ⟨⟨ls, s⟩, hr, hcount⟩ := hplay
  have hrun : (orderlySystem Race.sha256Hex Race.processed).Run ls s :=
    run_of_play Race.answer_effect ⟨rfl, rfl⟩ hr
  exact ⟨ls, s, hrun, hcount, settles_at_most_once Race.sha256Hex Race.processed hrun Race.input.actionId⟩

theorem two_requests_settle_twice :
    ∃ (ls : List (ClaimLabel Unit Unit)) (s : ClaimPool Unit Unit),
      (claimSystem Race.sha256Hex Race.processed).Run ls s ∧
      (∀ n input, .start n input ∈ ls → input = Race.input) ∧
      settleCount Race.input.actionId s.shared = 2 := by
  have hplay : ∃ r ∈ Race.idle.play Race.main Race.answer (fun _ _ => true) Race.moves,
      settleCount Race.input.actionId r.2.shared = 2 := by
    decide
  obtain ⟨⟨ls, s⟩, hr, hcount⟩ := hplay
  refine ⟨ls, s, (run_of_play Race.answer_effect ⟨rfl, rfl⟩ hr).of_restrict, ?_, hcount⟩
  intro n input hl
  have hm := start_mem_of_play hr hl
  simp only [Race.moves, List.mem_cons, Move.start.injEq, reduceCtorEq, List.not_mem_nil, or_false] at hm
  rcases hm with ⟨-, rfl⟩ | ⟨-, rfl⟩ <;> rfl

end RouteGuard.Access
