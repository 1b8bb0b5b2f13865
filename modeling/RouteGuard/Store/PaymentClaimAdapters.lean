import RouteGuard.Lib.Sha256
import RouteGuard.Lib.System
import RouteGuard.Store.PaymentClaimStore

/-!
# The two payment-claim adapters

Both adapters run one mutation of the journal at a time. The file adapter reads the whole journal, mutates it in memory
and writes it back under a new name, and may fail at every host call on the way.

* `Change` : what a call can do to the journal, with its answer;
* `NoTwo` : no two claims share a value;
* `Journal` : the invariant, kept by every change;
* `payment_claims_unique` : the journals of either adapter.
-/

namespace RouteGuard.Store
open JsString Guarded

/-! ## Calls -/

inductive ClaimCall where
  | acquire (binding : PaymentClaimBinding) (now : JsString)
  | transition (input : TransitionInput)
  deriving DecidableEq, Repr

inductive ClaimAnswer where
  | acquired (result : AcquirePaymentClaimResult)
  | moved (claim : PaymentClaim)
  deriving DecidableEq, Repr

/-- The host calls of the file adapter that can throw. -/
inductive HostCall where
  | acquireFileLock | readFileSync | openSync | writeSync | closeSync | renameSync
  deriving DecidableEq, Repr

/-- The host calls before the mutation. -/
def HostCall.comesFirst : HostCall → Bool
  | .acquireFileLock | .readFileSync => true
  | _ => false

inductive ClaimFailure where
  | store (error : PaymentClaimStoreError)
  | host (call : HostCall)
  deriving DecidableEq, Repr

section Adapters
variable (sha256Hex : JsString → JsString)

/-- The mutation of a call. -/
def ClaimCall.mutation : ClaimCall → ClaimJournal → Except PaymentClaimStoreError (ClaimAnswer × ClaimJournal)
  | .acquire binding now, claims => do
    let (result, claims) ← acquireIn sha256Hex claims binding now
    pure (.acquired result, claims)
  | .transition input, claims => do
    let (claim, claims) ← transitionIn claims input
    pure (.moved claim, claims)

namespace InMemoryPaymentClaimStore

/-- A mutation throws before it touches the array. -/
def mutate (call : ClaimCall) (claims : ClaimJournal) : Except ClaimFailure ClaimAnswer × ClaimJournal :=
  match call.mutation sha256Hex claims with
  | .error e => (.error (.store e), claims)
  | .ok (answer, claims) => (.ok answer, claims)

end InMemoryPaymentClaimStore

namespace FilePaymentClaimStore

/-- A missing file stands for the empty journal. -/
def read (file : Option ClaimJournal) : ClaimJournal := file.getD []

/-- `failing` is the host call that throws, if one does. The file changes with the last one, `renameSync`, and
`releaseFileLock`, which comes after it, does not throw. -/
def mutate (failing : Option HostCall) (call : ClaimCall) (file : Option ClaimJournal) :
    Except ClaimFailure ClaimAnswer × Option ClaimJournal :=
  match failing.filter HostCall.comesFirst with
  | some host => (.error (.host host), file)
  | none =>
    match call.mutation sha256Hex (read file) with
    | .error e => (.error (.store e), file)
    | .ok (answer, claims) =>
      match failing with
      | some host => (.error (.host host), file)
      | none => (.ok answer, some claims)

end FilePaymentClaimStore

inductive ClaimAdapter where
  | memory | file
  deriving DecidableEq, Repr

/-- The state of an adapter: the array, or the file. -/
abbrev ClaimAdapter.State : ClaimAdapter → Type
  | .memory => ClaimJournal
  | .file => Option ClaimJournal

def ClaimAdapter.empty : (adapter : ClaimAdapter) → adapter.State
  | .memory => []
  | .file => none

/-- The claims a reader sees. -/
def ClaimAdapter.claims : (adapter : ClaimAdapter) → adapter.State → ClaimJournal
  | .memory, claims => claims
  | .file, journal => FilePaymentClaimStore.read journal

def ClaimAdapter.mutate : (adapter : ClaimAdapter) → Option HostCall → ClaimCall → adapter.State →
    Except ClaimFailure ClaimAnswer × adapter.State
  | .memory, _, call, claims => InMemoryPaymentClaimStore.mutate sha256Hex call claims
  | .file, failing, call, journal => FilePaymentClaimStore.mutate sha256Hex failing call journal

/-- A call, the host call that fails in it, and its answer. -/
structure ClaimLabel where
  call : ClaimCall
  failing : Option HostCall
  answer : Except ClaimFailure ClaimAnswer

/-- Calls in any order and with any arguments, from the empty journal on. -/
def claimSystem (adapter : ClaimAdapter) : System adapter.State ClaimLabel where
  init s := s = adapter.empty
  step s l t := adapter.mutate sha256Hex l.failing l.call s = (l.answer, t)

end Adapters

/-! ## What a call can do -/

/-- Every change of the journal `claims`, with the call and the answer it belongs to. -/
inductive Change (claims : ClaimJournal) : ClaimCall → Except ClaimFailure ClaimAnswer → ClaimJournal → Prop
  | thrown (call : ClaimCall) (e : ClaimFailure) : Change claims call (.error e) claims
  | existing {binding : PaymentClaimBinding} {claim : PaymentClaim} (now : JsString)
      (found : getByActionId claims binding.actionId = some claim) :
      Change claims (.acquire binding now) (.ok (.acquired ⟨claim, .existing⟩)) claims
  | created {binding : PaymentClaimBinding} (now : JsString) (action : ∀ c ∈ claims, c.binding.actionId ≠ binding.actionId)
      (payload : ∀ c ∈ claims, c.binding.paymentPayloadHash ≠ binding.paymentPayloadHash) :
      Change claims (.acquire binding now) (.ok (.acquired ⟨createClaim binding now, .created⟩))
        (claims ++ [createClaim binding now])
  | reached {input : TransitionInput} {current : PaymentClaim} (found : getByActionId claims input.actionId = some current)
      (outside : current.state ∉ input.fromStates) (state : current.state = input.toState) :
      Change claims (.transition input) (.ok (.moved current)) claims
  | applied {input : TransitionInput} {i : Nat} {current : PaymentClaim}
      (found : getByActionId claims input.actionId = some current) (at_index : claims[i]? = some current)
      (state : current.state ∈ input.fromStates) (free : settlementTaken claims i input.settlement = false) :
      Change claims (.transition input) (.ok (.moved (current.advance input))) (claims.set i (current.advance input))

section Changes
variable {sha256Hex : JsString → JsString} {claims claims' : ClaimJournal}

theorem acquireIn_change {binding : PaymentClaimBinding} {now : JsString} {result : AcquirePaymentClaimResult}
    (h : acquireIn sha256Hex claims binding now = .ok (result, claims')) :
    Change claims (.acquire binding now) (.ok (.acquired result)) claims' := by
  unfold acquireIn at h
  split at h
  · next claim hfound =>
    simp only [bind_eq_ok, require_eq_ok, exists_const, pure_eq_ok, Prod.mk.injEq] at h
    obtain ⟨-, rfl, rfl⟩ := h
    exact .existing now hfound
  · next hnone =>
    simp only [bind_eq_ok, require_eq_ok, exists_const, pure_eq_ok, Prod.mk.injEq, List.any_eq_true, decide_eq_true_eq,
      not_exists, not_and] at h
    obtain ⟨hpayload, rfl, rfl⟩ := h
    refine .created now (fun c hc => ?_) hpayload
    simpa using List.find?_eq_none.mp hnone c hc

theorem transitionIn_change {input : TransitionInput} {claim : PaymentClaim}
    (h : transitionIn claims input = .ok (claim, claims')) :
    Change claims (.transition input) (.ok (.moved claim)) claims' := by
  unfold transitionIn at h
  simp only at h
  split at h
  · cases h
  · next current hindex =>
    have hfound := (getElem?_findIdx claims input.actionId).symm.trans hindex
    split at h
    · next houtside =>
      split at h
      · next hstate =>
        cases h
        exact .reached hfound houtside hstate
      · cases h
    · next hstate =>
      simp only [bind_eq_ok, require_eq_ok, exists_const, pure_eq_ok, Prod.mk.injEq, Bool.not_eq_true] at h
      obtain ⟨hfree, rfl, rfl⟩ := h
      exact .applied hfound hindex (not_not.mp hstate) hfree

theorem mutation_change {call : ClaimCall} {answer : ClaimAnswer}
    (h : call.mutation sha256Hex claims = .ok (answer, claims')) : Change claims call (.ok answer) claims' := by
  cases call with
  | acquire binding now =>
    simp only [ClaimCall.mutation, bind_eq_ok, pure_eq_ok, Prod.exists, Prod.mk.injEq] at h
    obtain ⟨result, claims', hacquire, rfl, rfl⟩ := h
    exact acquireIn_change hacquire
  | transition input =>
    simp only [ClaimCall.mutation, bind_eq_ok, pure_eq_ok, Prod.exists, Prod.mk.injEq] at h
    obtain ⟨claim, claims', htransition, rfl, rfl⟩ := h
    exact transitionIn_change htransition

theorem InMemoryPaymentClaimStore.mutate_change {call : ClaimCall} {answer : Except ClaimFailure ClaimAnswer}
    (h : InMemoryPaymentClaimStore.mutate sha256Hex call claims = (answer, claims')) :
    Change claims call answer claims' := by
  unfold InMemoryPaymentClaimStore.mutate at h
  split at h
  · cases h
    exact .thrown call _
  · next hok =>
    cases h
    exact mutation_change hok

theorem FilePaymentClaimStore.mutate_change {failing : Option HostCall} {call : ClaimCall}
    {answer : Except ClaimFailure ClaimAnswer} {file file' : Option ClaimJournal}
    (h : FilePaymentClaimStore.mutate sha256Hex failing call file = (answer, file')) :
    Change (read file) call answer (read file') := by
  unfold FilePaymentClaimStore.mutate at h
  split at h
  · cases h
    exact .thrown call _
  · split at h
    · cases h
      exact .thrown call _
    · next hok =>
      split at h
      · cases h
        exact .thrown call _
      · cases h
        exact mutation_change hok

/-- Every call of either adapter is one of the changes. -/
theorem ClaimAdapter.mutate_change {adapter : ClaimAdapter} {failing : Option HostCall} {call : ClaimCall}
    {answer : Except ClaimFailure ClaimAnswer} {s t : adapter.State}
    (h : adapter.mutate sha256Hex failing call s = (answer, t)) :
    Change (adapter.claims s) call answer (adapter.claims t) := by
  cases adapter with
  | memory => exact InMemoryPaymentClaimStore.mutate_change h
  | file => exact FilePaymentClaimStore.mutate_change h

end Changes

/-! ## No value twice -/

/-- No two claims share a value of `f`. -/
def NoTwo (f : PaymentClaim → Option JsString) (claims : ClaimJournal) : Prop :=
  ∀ (i j : Nat) (c d : PaymentClaim) (v : JsString), claims[i]? = some c → claims[j]? = some d → f c = some v →
    f d = some v → i = j

section NoTwo
variable {f : PaymentClaim → Option JsString} {claims : ClaimJournal}

theorem getElem?_singleton_eq {claim c : PaymentClaim} {i : Nat} (h : [claim][i]? = some c) : i = 0 ∧ c = claim := by
  cases i with
  | zero =>
    cases h
    exact ⟨rfl, rfl⟩
  | succ i => cases h

theorem NoTwo.append {claim : PaymentClaim} (h : NoTwo f claims) (hnew : ∀ c ∈ claims, ∀ v ∈ f claim, f c ≠ some v) :
    NoTwo f (claims ++ [claim]) := by
  intro i j c d v hi hj hc hd
  rw [List.getElem?_append] at hi hj
  split_ifs at hi hj with hil hjl hjl
  · exact h i j c d v hi hj hc hd
  · obtain ⟨_, rfl⟩ := getElem?_singleton_eq hj
    exact absurd hc (hnew c (List.mem_of_getElem? hi) v hd)
  · obtain ⟨_, rfl⟩ := getElem?_singleton_eq hi
    exact absurd hd (hnew d (List.mem_of_getElem? hj) v hc)
  · obtain ⟨hi, -⟩ := getElem?_singleton_eq hi
    obtain ⟨hj, -⟩ := getElem?_singleton_eq hj
    omega

/-- A claim that is replaced keeps its value, or takes one that no other claim has. -/
theorem NoTwo.set {i : Nat} {current next : PaymentClaim} (h : NoTwo f claims) (hi : claims[i]? = some current)
    (hnext : f next = f current ∨ ∀ (j : Nat) (d : PaymentClaim), j ≠ i → claims[j]? = some d → ∀ v ∈ f next, f d ≠ some v) :
    NoTwo f (claims.set i next) := by
  -- the value at an index is that of the claim before, or the one of `next` at `i`
  have hold {j : Nat} {d : PaymentClaim} (hj : (claims.set i next)[j]? = some d) :
      (j = i ∧ d = next) ∨ (j ≠ i ∧ claims[j]? = some d) := by
    rw [List.getElem?_set] at hj
    split_ifs at hj with hji hlt
    · cases hj
      exact .inl ⟨hji.symm, rfl⟩
    · exact .inr ⟨Ne.symm hji, hj⟩
  have hother {j : Nat} {d : PaymentClaim} {v : JsString} (hji : j ≠ i) (hj : claims[j]? = some d)
      (hv : f next = some v) : f d ≠ some v := by
    intro hd
    rcases hnext with hsame | hfree
    · exact hji (h j i d current v hj hi hd (hsame ▸ hv))
    · exact hfree j d hji hj v hv hd
  intro j k c d v hj hk hc hd
  rcases hold hj with ⟨rfl, rfl⟩ | ⟨hji, hjold⟩
  · rcases hold hk with ⟨rfl, rfl⟩ | ⟨hki, hkold⟩
    · rfl
    · exact absurd hd (hother hki hkold hc)
  · rcases hold hk with ⟨rfl, rfl⟩ | ⟨-, hkold⟩
    · exact absurd hc (hother hji hjold hd)
    · exact h j k c d v hjold hkold hc hd

end NoTwo

/-! ## The journal -/

/-- No two claims share an action, a payment payload or the transaction of a settlement. -/
structure Journal (claims : ClaimJournal) : Prop where
  actions : NoTwo (fun c => some c.binding.actionId) claims
  payloads : NoTwo (fun c => some c.binding.paymentPayloadHash) claims
  settlements : NoTwo (fun c => c.settlement.map SettledAccessPayment.transactionId) claims

theorem Journal.nil : Journal [] where
  actions := by simp [NoTwo]
  payloads := by simp [NoTwo]
  settlements := by simp [NoTwo]

theorem settlement_free {claims : ClaimJournal} {i : Nat} {settlement : SettledAccessPayment}
    (h : settlementTaken claims i (some settlement) = false) {j : Nat} {d : PaymentClaim} (hji : j ≠ i)
    (hj : claims[j]? = some d) : d.settlement.map SettledAccessPayment.transactionId ≠ some settlement.transactionId := by
  simp only [settlementTaken, List.any_eq_false, decide_eq_true_eq] at h
  exact h d (List.mem_eraseIdx_iff_getElem?.mpr ⟨j, hji, hj⟩)

/-- What one call keeps. -/
theorem Change.journal {claims claims' : ClaimJournal} {call : ClaimCall} {answer : Except ClaimFailure ClaimAnswer}
    (h : Change claims call answer claims') (hj : Journal claims) : Journal claims' := by
  cases h with
  | thrown | existing | reached => exact hj
  | created now action payload =>
    refine ⟨hj.actions.append ?_, hj.payloads.append ?_, hj.settlements.append ?_⟩
    · rintro c hc v ⟨⟩ heq
      exact action c hc (Option.some.inj heq)
    · rintro c hc v ⟨⟩ heq
      exact payload c hc (Option.some.inj heq)
    · rintro c hc v ⟨⟩
  | @applied input i current found at_index state free =>
    refine ⟨hj.actions.set at_index (.inl rfl), hj.payloads.set at_index (.inl rfl), hj.settlements.set at_index ?_⟩
    cases hs : input.settlement with
    | none =>
      refine .inl ?_
      simp [PaymentClaim.advance, hs]
    | some settlement =>
      refine .inr fun j d hji hjd v hv => ?_
      rw [hs] at free
      have hvalue : v = settlement.transactionId := by simpa [PaymentClaim.advance, hs, eq_comm] using hv
      rw [hvalue]
      exact settlement_free free hji hjd

/-- A claim stays in its place and under its binding. -/
def Kept (claims claims' : ClaimJournal) : Prop :=
  ∀ (i : Nat) (c : PaymentClaim), claims[i]? = some c → ∃ c' : PaymentClaim, claims'[i]? = some c' ∧ c'.binding = c.binding

theorem Kept.refl (claims : ClaimJournal) : Kept claims claims := fun _ c hc => ⟨c, hc, rfl⟩

theorem Kept.trans {a b c : ClaimJournal} (h : Kept a b) (h' : Kept b c) : Kept a c := by
  intro i x hx
  obtain ⟨y, hy, hyx⟩ := h i x hx
  obtain ⟨z, hz, hzy⟩ := h' i y hy
  exact ⟨z, hz, hzy.trans hyx⟩

theorem Change.kept {claims claims' : ClaimJournal} {call : ClaimCall} {answer : Except ClaimFailure ClaimAnswer}
    (h : Change claims call answer claims') : Kept claims claims' := by
  cases h with
  | thrown | existing | reached => exact Kept.refl claims
  | created =>
    intro i c hc
    obtain ⟨hlt, -⟩ := List.getElem?_eq_some_iff.mp hc
    exact ⟨c, by rw [List.getElem?_append_left hlt, hc], rfl⟩
  | @applied input i current found at_index state free =>
    intro j c hc
    by_cases hij : i = j
    · subst hij
      obtain rfl := Option.some.inj (at_index.symm.trans hc)
      obtain ⟨hlt, -⟩ := List.getElem?_eq_some_iff.mp hc
      exact ⟨current.advance input, by simp [hlt], rfl⟩
    · exact ⟨c, by rw [List.getElem?_set_ne hij, hc], rfl⟩

/-- The claim `current` is replaced by its next version, and no other claim changes. -/
def VersionUp (claims claims' : ClaimJournal) (current next : PaymentClaim) : Prop :=
  ∃ i : Nat, claims[i]? = some current ∧ claims' = claims.set i next ∧ next.binding = current.binding ∧
    next.claimVersion = current.claimVersion + 1

/-- A call that throws changes nothing. A transition that answers has applied one new version to the claim of its action,
or, where the claim was in none of the expected states, nothing. -/
theorem Change.effect {claims claims' : ClaimJournal} {call : ClaimCall} {answer : Except ClaimFailure ClaimAnswer}
    (h : Change claims call answer claims') :
    (∀ e, answer = .error e → claims' = claims) ∧
      ∀ input next, call = .transition input → answer = .ok (.moved next) →
        ∃ current, getByActionId claims input.actionId = some current ∧
          if current.state ∈ input.fromStates then VersionUp claims claims' current next
          else next = current ∧ claims' = claims := by
  cases h with
  | thrown call e => exact ⟨fun _ _ => rfl, fun _ _ _ h => (by cases h)⟩
  | existing | created => exact ⟨fun _ h => (by cases h), fun _ _ h => (by cases h)⟩
  | reached found outside state =>
    refine ⟨fun _ h => (by cases h), fun input next hcall hanswer => ?_⟩
    cases hcall
    cases hanswer
    exact ⟨_, found, by rw [if_neg outside]; exact ⟨rfl, rfl⟩⟩
  | @applied _ i current found at_index state free =>
    refine ⟨fun _ h => (by cases h), fun input next hcall hanswer => ?_⟩
    cases hcall
    cases hanswer
    exact ⟨current, found, by rw [if_pos state]; exact ⟨i, at_index, rfl, rfl, rfl⟩⟩

/-! ## Every run -/

section Runs
variable {sha256Hex : JsString → JsString} {adapter : ClaimAdapter} {ls : List ClaimLabel} {s : adapter.State}

theorem journal_of_run (hrun : (claimSystem sha256Hex adapter).Run ls s) : Journal (adapter.claims s) := by
  refine System.Run.induction (I := fun _ s => Journal (adapter.claims s)) ?_ ?_ hrun
  · rintro s rfl
    cases adapter <;> exact Journal.nil
  · intro ls t l u _ ih hl
    exact (ClaimAdapter.mutate_change hl).journal ih

theorem kept_of_steps {ms : List ClaimLabel} {t : adapter.State} (h : (claimSystem sha256Hex adapter).Steps s ms t) :
    Kept (adapter.claims s) (adapter.claims t) := by
  induction h with
  | nil => exact Kept.refl _
  | snoc _ hl ih => exact ih.trans (ClaimAdapter.mutate_change hl).kept

/-- In every journal that calls of either adapter lead to, no two claims share an action, a payload or the transaction of a
settlement; from there on every claim keeps its place and its binding; and a further call changes nothing where it throws,
and raises the version of one claim by one where it applies a transition. -/
theorem payment_claims_unique (hrun : (claimSystem sha256Hex adapter).Run ls s) :
    Journal (adapter.claims s) ∧
      (∀ (ms : List ClaimLabel) (t : adapter.State), (claimSystem sha256Hex adapter).Steps s ms t →
        Kept (adapter.claims s) (adapter.claims t)) ∧
      ∀ (l : ClaimLabel) (t : adapter.State), (claimSystem sha256Hex adapter).step s l t →
        (∀ e, l.answer = .error e → adapter.claims t = adapter.claims s) ∧
          ∀ input next, l.call = .transition input → l.answer = .ok (.moved next) →
            ∃ current, getByActionId (adapter.claims s) input.actionId = some current ∧
              if current.state ∈ input.fromStates then VersionUp (adapter.claims s) (adapter.claims t) current next
              else next = current ∧ adapter.claims t = adapter.claims s :=
  ⟨journal_of_run hrun, fun _ _ h => kept_of_steps h, fun _ _ hl => (ClaimAdapter.mutate_change hl).effect⟩

end Runs

/-! ## A refused payload and a lost rename -/

namespace TwoActions

def binding (actionId : JsString) : PaymentClaimBinding where
  actionType := .tenderActivate
  actionId := actionId
  tenderId := js "t"
  tenderVersion := 1
  bidId := none
  payerAccount := js "0.0.5"
  payTo := js "0.0.9"
  asset := js "0.0.1"
  amountAtomic := js "1000"
  resource := js "/api/v2/tenders/t/v/1/activate"
  paymentPayloadHash := js "h"
  requestHash := js "r"

def settle : TransitionInput := { actionId := js "a", fromStates := [.claimed], toState := .settling, now := js "n" }

def first : PaymentClaim := createClaim (binding (js "a")) (js "n")

def created : ClaimLabel := ⟨.acquire (binding (js "a")) (js "n"), none, .ok (.acquired ⟨first, .created⟩)⟩

def refused : ClaimLabel :=
  ⟨.acquire (binding (js "b")) (js "n"), none,
    .error (.store ⟨.paymentAlreadyUsed, "payment payload is already claimed by another action"⟩)⟩

def lost : ClaimLabel := ⟨.transition settle, some .renameSync, .error (.host .renameSync)⟩

def moved : ClaimLabel := ⟨.transition settle, none, .ok (.moved (first.advance settle))⟩

/-- The transition is made again after its rename failed. -/
theorem run : (claimSystem Sha256.sha256Hex .file).Run [created, refused, lost, moved] (some [first.advance settle]) := by
  have h0 : (claimSystem Sha256.sha256Hex .file).Run [] none := System.Run.start rfl
  have h1 : (claimSystem Sha256.sha256Hex .file).Run [created] (some [first]) := h0.snoc rfl
  have h2 : (claimSystem Sha256.sha256Hex .file).Run [created, refused] (some [first]) := h1.snoc rfl
  have h3 : (claimSystem Sha256.sha256Hex .file).Run [created, refused, lost] (some [first]) := h2.snoc rfl
  exact h3.snoc rfl

end TwoActions

theorem payment_claims_unique_two_actions : Journal [TwoActions.first.advance TwoActions.settle] :=
  (payment_claims_unique TwoActions.run).1

end RouteGuard.Store
