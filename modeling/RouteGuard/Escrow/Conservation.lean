import RouteGuard.Escrow.MockLedger

/-!
# Conservation and single settlement

What a run did to one tender is a `TenderHistory`: its successful calls, its storage and its outbound
transfers, one `TenderStep` at a time (`history_of_run`). Everything said about a tender is then an
induction over its history.

* `Account` : what was paid to either party and what is still held add up to what was funded;
* `Recorded` : the recorded parties are those of the registration and the allocation, and every
  transfer went to them;
* `settlements_eq` : one settlement in a terminal state, none before;
* `escrow_conservation` : the four together, over every run.
-/

namespace RouteGuard.Escrow

/-! ## The history of one tender -/

/-- The successful calls for a tender, in order. -/
def callsOn (k : Bytes32) (ls : List EscrowLabel) : List EscrowCall :=
  ls.filterMap fun
    | .success _ call => if call.tenderKey = k then some call else none
    | _ => none

/-- The outbound transfers for a tender. -/
def payoutsOf (k : Bytes32) (ps : List Payout) : List Payout := ps.filter (·.tenderKey = k)

/-- The sum of the transfers to one party. -/
def paidTo (p : Party) (ps : List Payout) : Nat := totalPaid (ps.filter (·.party = p))

/-- The states no operation leaves. -/
def EscrowState.isTerminal : EscrowState → Bool
  | .released | .refunded | .partiallyReleased => true
  | _ => false

/-- The calls that made a tender what it is, with the transfers they caused. -/
inductive TenderHistory (k : Bytes32) : List EscrowCall → TenderEscrow → List Payout → Prop
  | nil : TenderHistory k [] {} []
  | snoc {calls : List EscrowCall} {t t' : TenderEscrow} {ps paid : List Payout} {caller : Address}
      {call : EscrowCall} (h : TenderHistory k calls t ps) (hkey : call.tenderKey = k)
      (hstep : TenderStep caller call t t' paid) : TenderHistory k (calls ++ [call]) t' (ps ++ paid)

theorem TenderStep.paid_key {caller : Address} {call : EscrowCall} {t t' : TenderEscrow}
    {paid : List Payout} (h : TenderStep caller call t t' paid) :
    ∀ p ∈ paid, p.tenderKey = call.tenderKey := by
  cases h <;> simp [mem_positive, EscrowCall.tenderKey]
  grind

theorem callsOn_success (k : Bytes32) (ls : List EscrowLabel) (caller : Address) (call : EscrowCall) :
    callsOn k (ls ++ [.success caller call]) =
      callsOn k ls ++ if call.tenderKey = k then [call] else [] := by
  unfold callsOn
  rw [List.filterMap_append]
  by_cases hk : call.tenderKey = k <;> simp [hk]

theorem callsOn_other (k : Bytes32) (ls : List EscrowLabel) {l : EscrowLabel}
    (hl : ∀ caller call, l ≠ .success caller call) : callsOn k (ls ++ [l]) = callsOn k ls := by
  cases l with
  | success caller call => exact absurd rfl (hl caller call)
  | reverted => simp [callsOn]
  | environment => simp [callsOn]

theorem tenderKey_of_mem_callsOn {k : Bytes32} {ls : List EscrowLabel} {call : EscrowCall}
    (h : call ∈ callsOn k ls) : call.tenderKey = k := by
  obtain ⟨l, -, hl⟩ := List.mem_filterMap.mp h
  split at hl
  · split at hl
    · next hk =>
      cases hl
      exact hk
    · cases hl
  · cases hl

theorem payoutsOf_append (k : Bytes32) (ps qs : List Payout) :
    payoutsOf k (ps ++ qs) = payoutsOf k ps ++ payoutsOf k qs :=
  List.filter_append ..

theorem payoutsOf_eq_self {k : Bytes32} {ps : List Payout} (h : ∀ p ∈ ps, p.tenderKey = k) :
    payoutsOf k ps = ps :=
  List.filter_eq_self.mpr fun p hp => by simpa using h p hp

theorem payoutsOf_eq_nil {k k' : Bytes32} {ps : List Payout} (h : ∀ p ∈ ps, p.tenderKey = k')
    (hk : k' ≠ k) : payoutsOf k ps = [] := by
  apply List.filter_eq_nil_iff.mpr
  intro p hp
  simpa [h p hp] using hk

/-- A successful call extends the history of its own tender and leaves the others alone. -/
theorem success_history {d : Deployment} {B : TokenBoundary d.self} {caller : Address} {call : EscrowCall}
    {w w' : World} (hself : caller ≠ d.self) (hex : exec d B caller call w = .ok w') (k : Bytes32) :
    (call.tenderKey = k ∧ ∃ paid, TenderStep caller call (w.tenders k) (w'.tenders k) paid ∧
        payoutsOf k w'.payouts = payoutsOf k w.payouts ++ paid) ∨
      (call.tenderKey ≠ k ∧ w'.tenders k = w.tenders k ∧ payoutsOf k w'.payouts = payoutsOf k w.payouts) := by
  obtain ⟨t', paid, hstep, hc⟩ := exec_ok hself hex
  have hkeys := hstep.paid_key
  have hps := payoutsOf_append k w.payouts paid
  rw [← hc.payouts] at hps
  by_cases hk : call.tenderKey = k
  · subst hk
    refine .inl ⟨rfl, paid, ?_, ?_⟩
    · rw [hc.tenders, Function.update_self]
      exact hstep
    · rw [hps, payoutsOf_eq_self hkeys]
  · refine .inr ⟨hk, ?_, ?_⟩
    · rw [hc.tenders, Function.update_of_ne (Ne.symm hk)]
    · rw [hps, payoutsOf_eq_nil hkeys hk, List.append_nil]

/-- Every run is, for each tender, a history of that tender. -/
theorem history_of_run {d : Deployment} {ls : List EscrowLabel} {w : World}
    (h : (escrowSystem d).Run ls w) (k : Bytes32) :
    TenderHistory k (callsOn k ls) (w.tenders k) (payoutsOf k w.payouts) := by
  refine System.Run.induction (S := escrowSystem d)
    (I := fun ls w => TenderHistory k (callsOn k ls) (w.tenders k) (payoutsOf k w.payouts)) ?_ ?_ h
  · rintro w ⟨htenders, -, -, -, -, hpayouts⟩
    rw [htenders, hpayouts]
    exact .nil
  · intro ls w l w' _ ih hstep
    cases hstep with
    | success B hself hex =>
      rw [callsOn_success]
      rcases success_history hself hex k with ⟨hk, paid, hs, hps⟩ | ⟨hk, ht, hps⟩
      · rw [if_pos hk, hps]
        exact ih.snoc hk hs
      · rw [if_neg hk, List.append_nil, ht, hps]
        exact ih
    | reverted B hself hex =>
      rw [callsOn_other k ls (by simp), submit_of_error hex]
      exact ih
    | environment =>
      rw [callsOn_other k ls (by simp)]
      exact ih

/-! ## The account of one tender -/

@[simp] theorem paidTo_nil (p : Party) : paidTo p [] = 0 := rfl

@[simp] theorem paidTo_append (p : Party) (ps qs : List Payout) : paidTo p (ps ++ qs) = paidTo p ps + paidTo p qs := by
  simp [paidTo, totalPaid_append]

@[simp] theorem paidTo_singleton (p : Party) (q : Payout) : paidTo p [q] = if q.party = p then q.amount else 0 := by
  by_cases h : q.party = p <;> simp [paidTo, h]

@[simp] theorem paidTo_positive (p : Party) (q : Payout) :
    paidTo p (positive q) = if q.party = p then q.amount else 0 := by
  unfold positive
  split
  · exact paidTo_singleton p q
  · next hq =>
    have : q.amount = 0 := by omega
    simp [paidTo, this]

/-- Nothing goes to anyone but the two parties. -/
theorem totalPaid_eq (ps : List Payout) : totalPaid ps = paidTo .winner ps + paidTo .shipper ps := by
  induction ps with
  | nil => rfl
  | cons p ps ih =>
    rw [← List.singleton_append, totalPaid_append, paidTo_append, paidTo_append, ih, paidTo_singleton,
      paidTo_singleton, totalPaid_singleton]
    cases p.party
    · simp only [if_true, reduceCtorEq, if_false]
      omega
    · simp only [if_true, reduceCtorEq, if_false]
      omega

/-- Whether the budget has come in. -/
def EscrowState.isFunded : EscrowState → Bool
  | .unregistered | .registered => false
  | _ => true

/-- The books of one tender: what the winner and the shipper were paid, beside its storage. -/
structure Account (t : TenderEscrow) (toWinner toShipper : Nat) : Prop where
  balanced : toWinner + toShipper + t.balance = t.fundedAmount
  budget : t.maxBudget ≤ maxHtsAmount
  funded : t.fundedAmount = if t.state.isFunded then t.maxBudget else 0
  unpaid : t.state ≠ .released → t.state ≠ .partiallyReleased → toWinner = 0
  excess : t.excessRefunded ≤ toShipper
  locked : (t.lockedAmount = 0 ∧ t.excessRefunded = 0) ∨
    t.lockedAmount + t.excessRefunded = t.fundedAmount

theorem Account.step {caller : Address} {call : EscrowCall} {t t' : TenderEscrow} {paid : List Payout}
    {a b : Nat} (hacc : Account t a b) (h : TenderStep caller call t t' paid) :
    Account t' (a + paidTo .winner paid) (b + paidTo .shipper paid) := by
  obtain ⟨hbal, hbudget, hfunded, hunpaid, hexcess, hlocked⟩ := hacc
  cases h with
  | register hstate _ hmax =>
    have hm := toUint64_eq hmax
    simp [TenderEscrow.balance, EscrowState.isFunded, hstate] at hbal hfunded hunpaid
    constructor <;> simp [TenderEscrow.balance, EscrowState.isFunded] <;> omega
  | fund hstate _ ha =>
    have hm := toUint64_eq (ha ▸ hbudget)
    simp [TenderEscrow.balance, EscrowState.isFunded, hstate] at hbal hfunded hunpaid
    constructor <;> simp [TenderEscrow.balance, EscrowState.isFunded] <;> omega
  | @allocate _ _ n _ _ _ hstate _ _ hle =>
    have hm := toUint64_le n
    simp [TenderEscrow.balance, EscrowState.isFunded, hstate] at hbal hfunded hunpaid
    constructor <;> simp [TenderEscrow.balance, EscrowState.isFunded] <;> omega
  | dispute hstate | refundNoBid hstate | release hstate | resolveRelease hstate | refund hstate =>
    simp [TenderEscrow.balance, EscrowState.isFunded, hstate] at hbal hfunded hunpaid
    constructor <;> simp [TenderEscrow.balance, EscrowState.isFunded] <;> omega
  | split hstate ha hb hsum =>
    have ha' := toUint64_eq ha
    have hb' := toUint64_eq hb
    simp [TenderEscrow.balance, EscrowState.isFunded, hstate] at hbal hfunded hunpaid
    constructor <;> simp [TenderEscrow.balance, EscrowState.isFunded] <;> omega

theorem TenderHistory.account {k : Bytes32} {calls : List EscrowCall} {t : TenderEscrow} {ps : List Payout}
    (h : TenderHistory k calls t ps) : Account t (paidTo .winner ps) (paidTo .shipper ps) := by
  induction h with
  | nil => exact ⟨rfl, Nat.zero_le _, rfl, fun _ _ => rfl, Nat.zero_le _, .inl ⟨rfl, rfl⟩⟩
  | snoc _ _ hstep ih =>
    rw [paidTo_append, paidTo_append]
    exact ih.step hstep

/-! ## The parties of one tender -/

/-- The account recorded for a party. -/
def TenderEscrow.recorded (t : TenderEscrow) : Party → Address
  | .winner => t.winner
  | .shipper => t.shipper

/-- Whether a winner has been recorded; a refunded tender may or may not have one. -/
def EscrowState.beforeAllocation : EscrowState → Bool
  | .unregistered | .registered | .funded => true
  | _ => false

/-- What the calls of a tender say about its storage and its transfers. -/
structure Recorded (calls : List EscrowCall) (t : TenderEscrow) (ps : List Payout) : Prop where
  blank : t.state = .unregistered → calls = []
  registered : t.state ≠ .unregistered →
    ∃ k i v tok c h, .registerTender k i v t.shipper t.maxBudget tok c h ∈ calls
  shipper : ∀ {k i v s m tok c h}, .registerTender k i v s m tok c h ∈ calls →
    s = t.shipper ∧ m = t.maxBudget
  unallocated : t.state.beforeAllocation → ∀ {k wn a m h}, .allocateWinner k wn a m h ∉ calls
  winner : ∀ {k wn a m h}, .allocateWinner k wn a m h ∈ calls → wn = t.winner ∧ a = t.lockedAmount
  paid : ∀ p ∈ ps, p.receiver = t.recorded p.party
  paidWinner : ∀ p ∈ ps, p.party = .winner →
    (∃ call ∈ calls, call.isRelease) ∧ ∃ k a m h, .allocateWinner k t.winner a m h ∈ calls
  unpaid : t.state.beforeAllocation → ps = []
  allocated : t.state = .allocated ∨ t.state = .disputed →
    (∃ k a m h, .allocateWinner k t.winner a m h ∈ calls) ∧ ∀ p ∈ ps, p.party = .shipper


/-- Apart from registration and allocation, an operation keeps the parties and the amounts agreed with
them, pays nobody else, and pays the winner only as a release of an allocated tender. -/
structure Keeps (call : EscrowCall) (t t' : TenderEscrow) (qs : List Payout) : Prop where
  noRegister : ∀ k i v s m tok c h, call ≠ .registerTender k i v s m tok c h
  noAllocate : ∀ k wn a m h, call ≠ .allocateWinner k wn a m h
  before : t.state ≠ .unregistered
  after : t'.state ≠ .unregistered
  shipper : t'.shipper = t.shipper
  winner : t'.winner = t.winner
  maxBudget : t'.maxBudget = t.maxBudget
  lockedAmount : t'.lockedAmount = t.lockedAmount
  paid : ∀ p ∈ qs, p.receiver = t.recorded p.party
  paidWinner : ∀ p ∈ qs, p.party = .winner →
    call.isRelease ∧ (t.state = .allocated ∨ t.state = .disputed)
  unpaid : t'.state.beforeAllocation → t.state.beforeAllocation ∧ qs = []
  allocated : t'.state = .allocated ∨ t'.state = .disputed →
    (t.state = .allocated ∨ t.state = .disputed) ∧ qs = []

theorem TenderStep.cases_keeps {caller : Address} {call : EscrowCall} {t t' : TenderEscrow}
    {paid : List Payout} (h : TenderStep caller call t t' paid) :
    (∃ k i v tok c h, call = .registerTender k i v t'.shipper t'.maxBudget tok c h ∧
        t.state = .unregistered ∧ t'.state = .registered ∧ paid = []) ∨
    (∃ k m h, call = .allocateWinner k t'.winner t'.lockedAmount m h ∧ t.state = .funded ∧
        t'.state = .allocated ∧ t'.shipper = t.shipper ∧ t'.maxBudget = t.maxBudget ∧
        ∀ p ∈ paid, p.party = .shipper ∧ p.receiver = t'.shipper) ∨
    Keeps call t t' paid := by
  cases h with
  | @register k i v _ _ tok c h _ hstate _ hmax =>
    refine .inl ⟨k, i, v, tok, c, h, ?_, hstate, rfl, rfl⟩
    simp only [toUint64_eq hmax]
  | @allocate k _ _ m h _ hstate _ hmax =>
    refine .inr (.inl ⟨k, m, h, ?_, hstate, rfl, rfl, rfl, ?_⟩)
    · simp only [toUint64_eq hmax]
    · intro p hp
      rw [(mem_positive.mp hp).1]
      exact ⟨rfl, rfl⟩
  | fund hstate =>
    refine .inr (.inr ?_)
    constructor <;> simp [hstate, EscrowState.beforeAllocation]
  | dispute hstate =>
    refine .inr (.inr ?_)
    constructor <;> simp [hstate, EscrowState.beforeAllocation]
  | refundNoBid hstate =>
    refine .inr (.inr ?_)
    constructor <;> simp [hstate, EscrowState.beforeAllocation, TenderEscrow.recorded]
  | release hstate | resolveRelease hstate | refund hstate =>
    refine .inr (.inr ?_)
    constructor <;> simp [hstate, EscrowState.beforeAllocation, TenderEscrow.recorded, EscrowCall.isRelease]
  | split hstate =>
    refine .inr (.inr ?_)
    constructor <;>
      simp [hstate, EscrowState.beforeAllocation, TenderEscrow.recorded, EscrowCall.isRelease, mem_positive]
    rintro p (⟨rfl, -⟩ | ⟨rfl, -⟩)
    · rfl
    · rfl

theorem Recorded.keep {calls : List EscrowCall} {call : EscrowCall} {t t' : TenderEscrow}
    {ps paid : List Payout} (hr : Recorded calls t ps) (hk : Keeps call t t' paid) :
    Recorded (calls ++ [call]) t' (ps ++ paid) where
  blank h := absurd h hk.after
  registered _ := by
    obtain ⟨k, i, v, tok, c, h, hm⟩ := hr.registered hk.before
    rw [hk.shipper, hk.maxBudget]
    exact ⟨k, i, v, tok, c, h, List.mem_append_left _ hm⟩
  shipper h := by
    rw [hk.shipper, hk.maxBudget]
    refine hr.shipper ((List.mem_append.mp h).resolve_right fun hc => ?_)
    exact hk.noRegister _ _ _ _ _ _ _ _ (List.mem_singleton.mp hc).symm
  unallocated hb _ _ _ _ _ h := by
    refine (List.mem_append.mp h).elim (hr.unallocated (hk.unpaid hb).1) fun hc => ?_
    exact hk.noAllocate _ _ _ _ _ (List.mem_singleton.mp hc).symm
  winner h := by
    rw [hk.winner, hk.lockedAmount]
    refine hr.winner ((List.mem_append.mp h).resolve_right fun hc => ?_)
    exact hk.noAllocate _ _ _ _ _ (List.mem_singleton.mp hc).symm
  paid p hp := by
    have hrec : t'.recorded = t.recorded := by
      funext q
      cases q
      · exact hk.winner
      · exact hk.shipper
    rw [hrec]
    exact (List.mem_append.mp hp).elim (hr.paid p) (hk.paid p)
  paidWinner p hp hw := by
    rw [hk.winner]
    rcases List.mem_append.mp hp with hp | hp
    · obtain ⟨⟨c, hc, hrel⟩, k, a, m, h, hm⟩ := hr.paidWinner p hp hw
      exact ⟨⟨c, List.mem_append_left _ hc, hrel⟩, k, a, m, h, List.mem_append_left _ hm⟩
    · obtain ⟨hrel, hstate⟩ := hk.paidWinner p hp hw
      obtain ⟨k, a, m, h, hm⟩ := (hr.allocated hstate).1
      exact ⟨⟨call, by simp, hrel⟩, k, a, m, h, List.mem_append_left _ hm⟩
  unpaid hb := by rw [(hk.unpaid hb).2, hr.unpaid (hk.unpaid hb).1, List.append_nil]
  allocated hs := by
    obtain ⟨hs', hnil⟩ := hk.allocated hs
    obtain ⟨⟨k, a, m, h, hm⟩, hps⟩ := hr.allocated hs'
    rw [hk.winner, hnil, List.append_nil]
    exact ⟨⟨k, a, m, h, List.mem_append_left _ hm⟩, hps⟩

/-- The first call of a tender. -/
theorem Recorded.register {t' : TenderEscrow} {k i c h : Bytes32} {v : BitVec 32} {tok : Address}
    (hstate : t'.state = .registered) :
    Recorded [.registerTender k i v t'.shipper t'.maxBudget tok c h] t' [] where
  blank h := absurd h (by simp [hstate])
  registered _ := ⟨k, i, v, tok, c, h, List.mem_singleton_self _⟩
  shipper hm := by
    cases List.mem_singleton.mp hm
    exact ⟨rfl, rfl⟩
  unallocated _ _ _ _ _ _ hm := by cases List.mem_singleton.mp hm
  winner hm := by cases List.mem_singleton.mp hm
  paid _ hp := absurd hp List.not_mem_nil
  paidWinner _ hp := absurd hp List.not_mem_nil
  unpaid _ := rfl
  allocated h := by simp [hstate] at h

/-- The only call that records a winner. -/
theorem Recorded.allocate {calls : List EscrowCall} {t t' : TenderEscrow} {ps paid : List Payout}
    {k m h : Bytes32} (hr : Recorded calls t ps) (hstate : t.state = .funded)
    (hstate' : t'.state = .allocated) (hshipper : t'.shipper = t.shipper)
    (hbudget : t'.maxBudget = t.maxBudget)
    (hpaid : ∀ p ∈ paid, p.party = .shipper ∧ p.receiver = t'.shipper) :
    Recorded (calls ++ [.allocateWinner k t'.winner t'.lockedAmount m h]) t' (ps ++ paid) := by
  have hbefore : t.state.beforeAllocation := by rw [hstate]; rfl
  have hps := hr.unpaid hbefore
  subst hps
  exact
    { blank := fun h => absurd h (by simp [hstate'])
      registered := by
        obtain ⟨k, i, v, tok, c, h, hm⟩ := hr.registered (by simp [hstate])
        rw [hshipper, hbudget]
        exact fun _ => ⟨k, i, v, tok, c, h, List.mem_append_left _ hm⟩
      shipper := by
        intro _ _ _ _ _ _ _ _ hm
        rw [hshipper, hbudget]
        exact hr.shipper ((List.mem_append.mp hm).resolve_right (by simp))
      unallocated := by simp [hstate', EscrowState.beforeAllocation]
      winner := by
        intro _ _ _ _ _ hm
        rcases List.mem_append.mp hm with hm | hm
        · exact absurd hm (hr.unallocated hbefore)
        · cases List.mem_singleton.mp hm
          exact ⟨rfl, rfl⟩
      paid := by
        intro p hp
        obtain ⟨hparty, hrec⟩ := hpaid p hp
        rw [hparty]
        exact hrec
      paidWinner := by
        intro p hp hw
        rw [(hpaid p hp).1] at hw
        cases hw
      unpaid := by simp [hstate', EscrowState.beforeAllocation]
      allocated := fun _ => ⟨⟨k, t'.lockedAmount, m, h, by simp⟩, fun p hp => (hpaid p hp).1⟩ }

theorem Recorded.step {caller : Address} {calls : List EscrowCall} {call : EscrowCall} {t t' : TenderEscrow}
    {ps paid : List Payout} (hr : Recorded calls t ps) (hstep : TenderStep caller call t t' paid) :
    Recorded (calls ++ [call]) t' (ps ++ paid) := by
  rcases hstep.cases_keeps with ⟨k, i, v, tok, c, h, rfl, hstate, hstate', rfl⟩ |
    ⟨k, m, h, rfl, hstate, hstate', hshipper, hbudget, hpaid⟩ | hk
  · rw [hr.blank hstate, hr.unpaid (by rw [hstate]; rfl)]
    exact .register hstate'
  · exact hr.allocate hstate hstate' hshipper hbudget hpaid
  · exact hr.keep hk

theorem TenderHistory.recorded {k : Bytes32} {calls : List EscrowCall} {t : TenderEscrow} {ps : List Payout}
    (h : TenderHistory k calls t ps) : Recorded calls t ps := by
  induction h with
  | nil => constructor <;> simp [EscrowState.beforeAllocation]
  | snoc _ _ hstep ih => exact ih.step hstep

/-! ## Settlements -/

theorem TenderStep.settles {caller : Address} {call : EscrowCall} {t t' : TenderEscrow}
    {paid : List Payout} (h : TenderStep caller call t t' paid) :
    t.state.isTerminal = false ∧ t'.state.isTerminal = call.isSettlement := by
  cases h <;> simp_all [EscrowState.isTerminal, EscrowCall.isSettlement]

/-- A tender in a terminal state was settled once, any other not at all. -/
theorem TenderHistory.settlements_eq {k : Bytes32} {calls : List EscrowCall} {t : TenderEscrow}
    {ps : List Payout} (h : TenderHistory k calls t ps) :
    calls.countP EscrowCall.isSettlement = if t.state.isTerminal then 1 else 0 := by
  induction h with
  | nil => rfl
  | snoc _ _ hstep ih =>
    obtain ⟨hbefore, hafter⟩ := hstep.settles
    rw [List.countP_append, ih, hbefore, hafter, List.countP_singleton]
    simp

theorem terminal_frozen {d : Deployment} {w w' : World} {l : EscrowLabel} {k : Bytes32}
    (hterm : (w.tenders k).state.isTerminal) (h : EscrowStep d w l w') :
    w'.tenders k = w.tenders k ∧ payoutsOf k w'.payouts = payoutsOf k w.payouts := by
  cases h with
  | success B hself hex =>
    rcases success_history hself hex k with ⟨_, _, hstep, _⟩ | ⟨_, ht, hps⟩
    · rw [hstep.settles.1] at hterm
      cases hterm
    · exact ⟨ht, hps⟩
  | reverted B _ hex =>
    rw [submit_of_error hex]
    exact ⟨rfl, rfl⟩
  | environment => exact ⟨rfl, rfl⟩

theorem terminal_frozen_steps {d : Deployment} {w w' : World} {ms : List EscrowLabel} {k : Bytes32}
    (hterm : (w.tenders k).state.isTerminal) (h : (escrowSystem d).Steps w ms w') :
    w'.tenders k = w.tenders k ∧ payoutsOf k w'.payouts = payoutsOf k w.payouts := by
  induction h with
  | nil => exact ⟨rfl, rfl⟩
  | snoc _ hl ih =>
    obtain ⟨ht, hps⟩ := ih
    obtain ⟨ht', hps'⟩ := terminal_frozen (by rw [ht]; exact hterm) hl
    exact ⟨ht'.trans ht, hps'.trans hps⟩

/-! ## The result -/

/-- **Conservation and single settlement.** For every run and every tender: a settled tender has paid
out exactly its budget, the excess refund among the shipper's share; the winner is paid only after a
release; at most one settlement succeeds and nothing changes a settled tender; every transfer went to
the accounts recorded for the tender, which are those of its registration and its allocation. -/
theorem escrow_conservation (d : Deployment) {ls : List EscrowLabel} {w : World}
    (h : (escrowSystem d).Run ls w) (k : Bytes32) :
    ((w.tenders k).state.isTerminal →
      paidTo .winner (payoutsOf k w.payouts) + paidTo .shipper (payoutsOf k w.payouts) =
          (w.tenders k).fundedAmount ∧
        totalPaid (payoutsOf k w.payouts) = (w.tenders k).fundedAmount ∧
        (w.tenders k).fundedAmount = (w.tenders k).maxBudget ∧
        (w.tenders k).excessRefunded ≤ paidTo .shipper (payoutsOf k w.payouts)) ∧
    ((∃ p ∈ payoutsOf k w.payouts, p.party = .winner) → ∃ call ∈ callsOn k ls, call.isRelease) ∧
    (callsOn k ls).countP EscrowCall.isSettlement ≤ 1 ∧
    ((w.tenders k).state.isTerminal → ∀ ms w', (escrowSystem d).Steps w ms w' →
      w'.tenders k = w.tenders k ∧ payoutsOf k w'.payouts = payoutsOf k w.payouts) ∧
    ((∀ p ∈ payoutsOf k w.payouts, p.receiver = (w.tenders k).recorded p.party) ∧
      (∀ {i v s m tok c h}, .registerTender k i v s m tok c h ∈ callsOn k ls →
        s = (w.tenders k).shipper ∧ m = (w.tenders k).maxBudget) ∧
      (∀ {wn a m h}, .allocateWinner k wn a m h ∈ callsOn k ls →
        wn = (w.tenders k).winner ∧ a = (w.tenders k).lockedAmount) ∧
      ((w.tenders k).state ≠ .unregistered →
        ∃ i v s m tok c h, .registerTender k i v s m tok c h ∈ callsOn k ls) ∧
      ((∃ p ∈ payoutsOf k w.payouts, p.party = .winner) →
        ∃ wn a m h, .allocateWinner k wn a m h ∈ callsOn k ls)) := by
  have hist := history_of_run h k
  have hacc := hist.account
  have hrec := hist.recorded
  refine ⟨fun hterm => ?_, ?_, ?_, fun hterm ms w' hs => terminal_frozen_steps hterm hs,
    hrec.paid, hrec.shipper, hrec.winner, ?_, ?_⟩
  · have hbal := hacc.balanced
    have hfunded := hacc.funded
    have hzero : (w.tenders k).balance = 0 ∧ (w.tenders k).state.isFunded := by
      revert hterm
      unfold TenderEscrow.balance
      cases (w.tenders k).state <;> simp [EscrowState.isTerminal, EscrowState.isFunded]
    rw [if_pos hzero.2] at hfunded
    have hsum : paidTo .winner (payoutsOf k w.payouts) + paidTo .shipper (payoutsOf k w.payouts) =
        (w.tenders k).fundedAmount := by omega
    exact ⟨hsum, (totalPaid_eq _).trans hsum, hfunded, hacc.excess⟩
  · rintro ⟨p, hp, hw⟩
    exact (hrec.paidWinner p hp hw).1
  · rw [hist.settlements_eq]
    split <;> omega
  · intro hstate
    obtain ⟨k', i, v, tok, c, h, hm⟩ := hrec.registered hstate
    obtain rfl : k' = k := tenderKey_of_mem_callsOn hm
    exact ⟨i, v, _, _, tok, c, h, hm⟩
  · rintro ⟨p, hp, hw⟩
    obtain ⟨k', a, m, h, hm⟩ := (hrec.paidWinner p hp hw).2
    obtain rfl : k' = k := tenderKey_of_mem_callsOn hm
    exact ⟨_, a, m, h, hm⟩

theorem escrow_conservation_sample :
    ∃ w, (escrowSystem Sample.deployment).Run (Sample.split.map fun c => .success c.1 c.2) w ∧
      (w.tenders Sample.tenderKey).state = .partiallyReleased ∧
      paidTo .winner (payoutsOf Sample.tenderKey w.payouts) +
        paidTo .shipper (payoutsOf Sample.tenderKey w.payouts) = (w.tenders Sample.tenderKey).fundedAmount ∧
      (w.tenders Sample.tenderKey).fundedAmount = 1000 := by
  obtain ⟨w, hrun, hstate, hfunded⟩ := run_of_runCalls Sample.boundary Sample.split Sample.operator
    Sample.balances (fun w => (w.tenders Sample.tenderKey).state = .partiallyReleased ∧
      (w.tenders Sample.tenderKey).fundedAmount = 1000) (by decide) (by decide)
  have hc := (escrow_conservation Sample.deployment hrun Sample.tenderKey).1 (by rw [hstate]; rfl)
  exact ⟨w, hrun, hstate, hc.1, hfunded⟩

end RouteGuard.Escrow
