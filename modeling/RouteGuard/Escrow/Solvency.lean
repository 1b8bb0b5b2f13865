import RouteGuard.Escrow.MockLedger

/-!
# Solvency

In every reachable world `totalEscrowedAmount` is the sum of the tender balances and the contract
holds at least that much of the token. One `TenderStep` conserves the balance of its tender
(`TenderStep.balance_eq`); the sum over all keys follows by changing one summand.
-/

namespace RouteGuard.Escrow
open Guarded

/-! ## One key of a sum -/

theorem sum_update_add {K : Type} [Fintype K] [DecidableEq K] (f : K → Nat) (k : K) (v : Nat) :
    (∑ x, Function.update f k v x) + f k = (∑ x, f x) + v := by
  rw [Finset.sum_update_of_mem (Finset.mem_univ k), ← Finset.add_sum_erase _ f (Finset.mem_univ k),
    Finset.sdiff_singleton_eq_erase]
  omega

/-! ## The invariant -/

/-- Between transactions: the books add up, and the contract can cover them. -/
structure Solvent (d : Deployment) (w : World) : Prop where
  idle : w.entered = false
  total : w.totalEscrowedAmount = ∑ k, tenderBalance w k
  covered : w.totalEscrowedAmount ≤ w.ledger d.self

/-- A step of a tender keeps what came in equal to what is held plus what went out. -/
theorem TenderStep.balance_eq {caller : Address} {call : EscrowCall} {t t' : TenderEscrow}
    {paid : List Payout} (h : TenderStep caller call t t' paid) :
    t'.balance + totalPaid paid = t.balance + call.received := by
  cases h with
  | register hstate | fund hstate | dispute hstate | refundNoBid hstate | release hstate | resolveRelease hstate
  | refund hstate => simp [TenderEscrow.balance, EscrowCall.received, hstate]
  | @allocate _ _ a _ _ _ hstate _ _ hbudget =>
    have := toUint64_le a
    simp only [TenderEscrow.balance, EscrowCall.received, hstate, totalPaid_positive]
    omega
  | split hstate ha hb hsum =>
    simp only [TenderEscrow.balance, EscrowCall.received, hstate, totalPaid_append, totalPaid_positive,
      toUint64_eq ha, toUint64_eq hb]
    omega

theorem tenderBalance_update (w w' : World) (k : Bytes32) (t : TenderEscrow)
    (h : w'.tenders = Function.update w.tenders k t) :
    tenderBalance w' = Function.update (tenderBalance w) k t.balance := by
  funext x
  unfold tenderBalance
  rw [h]
  by_cases hx : x = k
  · subst hx
    simp
  · simp [Function.update_of_ne hx]

theorem Solvent.success {d : Deployment} {B : TokenBoundary d.self} {caller : Address}
    {call : EscrowCall} {w w' : World} (hs : Solvent d w) (hself : caller ≠ d.self)
    (hex : exec d B caller call w = .ok w') : Solvent d w' := by
  obtain ⟨t', paid, hstep, hc⟩ := exec_ok hself hex
  have hbal := hstep.balance_eq
  have hsum := sum_update_add (tenderBalance w) call.tenderKey t'.balance
  rw [← tenderBalance_update w w' call.tenderKey t' hc.tenders] at hsum
  have hkey : tenderBalance w call.tenderKey = (w.tenders call.tenderKey).balance := rfl
  have htot := hs.total
  have hcov := hs.covered
  have htotal := hc.total
  have hledger := hc.ledger
  exact ⟨hc.entered, by omega, by omega⟩

theorem Solvent.step {d : Deployment} {w w' : World} {l : EscrowLabel} (hs : Solvent d w)
    (h : EscrowStep d w l w') : Solvent d w' := by
  cases h with
  | success B hself hex => exact hs.success hself hex
  | reverted B _ hex =>
    rw [submit_of_error hex]
    exact hs
  | environment hle => exact ⟨hs.idle, hs.total, le_trans hs.covered hle⟩

theorem solvent_of_run {d : Deployment} {ls : List EscrowLabel} {w : World}
    (h : (escrowSystem d).Run ls w) : Solvent d w := by
  refine System.Run.induction (S := escrowSystem d) (I := fun _ w => Solvent d w) ?_ ?_ h
  · rintro w ⟨htenders, -, htotal, hidle, -, -⟩
    refine ⟨hidle, ?_, by omega⟩
    rw [htotal]
    symm
    apply Finset.sum_eq_zero
    intro k _
    simp [tenderBalance, htenders, TenderEscrow.balance]
  · intro _ _ _ _ _ hs hstep
    exact hs.step hstep

/-! ## What a solvent contract can always pay -/

theorem Solvent.balance_le {d : Deployment} {w : World} (hs : Solvent d w) (k : Bytes32) :
    tenderBalance w k ≤ w.totalEscrowedAmount := by
  rw [hs.total]
  exact Finset.single_le_sum (f := tenderBalance w) (fun _ _ => Nat.zero_le _) (Finset.mem_univ k)

/-- The two ways a call could fail for want of money. -/
def IsShortfall {d : Deployment} (B : TokenBoundary d.self) (e : EscrowError) : Prop :=
  e = .arithmeticUnderflow ∨ e = .tokenTransferFailed B.shortCode

theorem not_isShortfall {d : Deployment} {B : TokenBoundary d.self} {e : EscrowError}
    (hu : e ≠ .arithmeticUnderflow) (ht : ∀ code, e ≠ .tokenTransferFailed code) : ¬ IsShortfall B e := by
  rintro (h | h)
  · exact hu h
  · exact ht _ h

section Shortfall
variable {d : Deployment} {B : TokenBoundary d.self} {caller : Address} {w : World}

theorem onlyOwner_avoids : Avoids (IsShortfall B) (onlyOwner caller w) := by
  intro e h
  rw [← (require_eq_error.mp h).2]
  exact not_isShortfall nofun nofun

theorem requireState_avoids {k : Bytes32} {t : TenderEscrow} {s : EscrowState} :
    Avoids (IsShortfall B) (requireState k t s) := by
  intro e h
  rw [← (require_eq_error.mp h).2]
  exact not_isShortfall nofun nofun

theorem nonReentrant_avoids {body : World → Except EscrowError World}
    (hbody : Avoids (IsShortfall B) (body { w with entered := true })) :
    Avoids (IsShortfall B) (nonReentrant w body) := by
  refine .check (not_isShortfall nofun nofun) fun _ => ?_
  exact .bind hbody fun _ _ => .pure _

theorem consumeAuthorizationHash_avoids {h : Bytes32} :
    Avoids (IsShortfall B) (consumeAuthorizationHash w h) :=
  .check (not_isShortfall nofun nofun) fun _ => .pure _

theorem subEscrowed_avoids {n : Nat} (hn : n ≤ w.totalEscrowedAmount) :
    Avoids (IsShortfall B) (subEscrowed w n) :=
  .pass hn (.pure _)

theorem payOut_avoids {p : Payout} (hin : w.entered = true) (hle : p.amount ≤ w.ledger d.self) :
    Avoids (IsShortfall B) (payOut d B w p) := by
  intro e hex
  unfold payOut at hex
  split at hex
  · cases hex
  · next code heq =>
    cases hex
    rintro (h | h)
    · cases h
    · cases h
      exact absurd (B.transferOut_short hin heq) (by omega)

theorem payOutPositive_avoids {p : Payout} (hin : w.entered = true) (hle : p.amount ≤ w.ledger d.self) :
    Avoids (IsShortfall B) (payOutPositive d B w p) := by
  unfold payOutPositive
  split
  · exact payOut_avoids hin hle
  · exact .pure w

theorem settleFull_avoids {f : FullSettlement} {k h : Bytes32} (hs : Solvent d w)
    (hamount : ∀ t : TenderEscrow, t.state = f.expected → f.amount t = t.balance) :
    Avoids (IsShortfall B) (settleFull d B caller f k h w) := by
  refine .bind onlyOwner_avoids fun _ _ => nonReentrant_avoids ?_
  refine .bind requireState_avoids fun _ hstate => ?_
  have hle := hs.balance_le k
  have hcov := hs.covered
  have ham : f.amount (w.tenders k) = tenderBalance w k := hamount _ (require_eq_ok.mp hstate)
  refine .check (not_isShortfall nofun nofun) fun _ => ?_
  refine .bind consumeAuthorizationHash_avoids fun w₁ hw₁ => ?_
  obtain ⟨-, rfl⟩ := consumeAuthorizationHash_eq_ok.mp hw₁
  refine .bind (subEscrowed_avoids (ham.trans_le hle)) fun w₂ hw₂ => ?_
  obtain ⟨-, rfl⟩ := subEscrowed_eq_ok.mp hw₂
  exact payOut_avoids rfl (ham.trans_le (hle.trans hcov))

theorem allocateWinner_avoids {k : Bytes32} {wn : Address} {a : Nat} {m h : Bytes32} (hs : Solvent d w) :
    Avoids (IsShortfall B) (allocateWinner d B caller k wn a m h w) := by
  refine .bind onlyOwner_avoids fun _ _ => nonReentrant_avoids ?_
  refine .bind requireState_avoids fun _ hstate => ?_
  have hle := hs.balance_le k
  have hcov := hs.covered
  have hbal : tenderBalance w k = (w.tenders k).fundedAmount := by
    rw [tenderBalance, TenderEscrow.balance, require_eq_ok.mp hstate]
  refine .check (not_isShortfall nofun nofun) fun _ => ?_
  refine .check (not_isShortfall nofun nofun) fun _ => ?_
  refine .check (not_isShortfall nofun nofun) fun _ => ?_
  refine .check (not_isShortfall nofun nofun) fun hbudget => ?_
  refine .check (not_isShortfall nofun nofun) fun _ => ?_
  refine .bind consumeAuthorizationHash_avoids fun w₁ hw₁ => ?_
  obtain ⟨-, rfl⟩ := consumeAuthorizationHash_eq_ok.mp hw₁
  have hexcess : (w.tenders k).fundedAmount - toUint64 a ≤ w.totalEscrowedAmount := by omega
  refine .pass ((toUint64_le a).trans hbudget) ?_
  refine .bind (subEscrowed_avoids hexcess) fun w₂ hw₂ => ?_
  obtain ⟨-, rfl⟩ := subEscrowed_eq_ok.mp hw₂
  dsimp only
  split
  · exact .bind (payOut_avoids rfl (hexcess.trans hcov)) fun _ _ => .pure _
  · exact .pure _

theorem partialRelease_avoids {k : Bytes32} {a b : Nat} {h : Bytes32} (hs : Solvent d w) :
    Avoids (IsShortfall B) (partialRelease d B caller k a b h w) := by
  refine .bind onlyOwner_avoids fun _ _ => nonReentrant_avoids ?_
  refine .bind requireState_avoids fun _ hstate => ?_
  have hle := hs.balance_le k
  have hcov := hs.covered
  have hbal : tenderBalance w k = (w.tenders k).lockedAmount := by
    rw [tenderBalance, TenderEscrow.balance, require_eq_ok.mp hstate]
  refine .check (not_isShortfall nofun nofun) fun _ => ?_
  refine .check (not_isShortfall nofun nofun) fun ha => ?_
  refine .check (not_isShortfall nofun nofun) fun hb => ?_
  refine .check (not_isShortfall nofun nofun) fun _ => ?_
  refine .check (not_isShortfall nofun nofun) fun hsum => ?_
  have hsum' : a + b = (w.tenders k).lockedAmount := hsum
  refine .bind consumeAuthorizationHash_avoids fun w₁ hw₁ => ?_
  obtain ⟨-, rfl⟩ := consumeAuthorizationHash_eq_ok.mp hw₁
  refine .bind (subEscrowed_avoids (hbal ▸ hle)) fun w₂ hw₂ => ?_
  obtain ⟨-, rfl⟩ := subEscrowed_eq_ok.mp hw₂
  have hfirst : toUint64 a ≤ w.ledger d.self := by
    have := toUint64_le a
    omega
  refine .bind (payOutPositive_avoids rfl hfirst) fun w₃ hw₃ => ?_
  -- the second share is covered by what the first one left
  have hp := payOutPositive_paidOut (by rfl) hw₃
  refine payOutPositive_avoids hp.entered ?_
  have hl := hp.ledger
  rw [totalPaid_positive] at hl
  change w.ledger d.self ≤ w₃.ledger d.self + toUint64 a at hl
  have ha' := toUint64_le a
  have hb' := toUint64_le b
  show toUint64 b ≤ w₃.ledger d.self
  omega

/-- A solvent contract never fails for want of money, except that a shipper may not be able to fund. -/
theorem exec_avoids_shortfall {call : EscrowCall} (hs : Solvent d w)
    (hfund : ∀ k a, call ≠ .fundTender k a) : Avoids (IsShortfall B) (exec d B caller call w) := by
  cases call with
  | fundTender k a => exact absurd rfl (hfund k a)
  | registerTender =>
    refine .bind onlyOwner_avoids fun _ _ => nonReentrant_avoids ?_
    iterate 8 refine .check (not_isShortfall nofun nofun) fun _ => ?_
    exact .bind consumeAuthorizationHash_avoids fun _ _ => .pure _
  | allocateWinner => exact allocateWinner_avoids hs
  | openDispute =>
    refine .bind onlyOwner_avoids fun _ _ => nonReentrant_avoids ?_
    refine .bind requireState_avoids fun _ _ => .check (not_isShortfall nofun nofun) fun _ => ?_
    exact .bind consumeAuthorizationHash_avoids fun _ _ => .pure _
  | partialRelease => exact partialRelease_avoids hs
  | refundNoQualifiedBid =>
    refine settleFull_avoids hs fun t ht => ?_
    simp only [noQualifiedBidRefund] at ht
    simp [noQualifiedBidRefund, TenderEscrow.balance, ht]
  | releaseFull =>
    refine settleFull_avoids hs fun t ht => ?_
    simp only [fullRelease] at ht
    simp [fullRelease, TenderEscrow.balance, ht]
  | resolveDisputeRelease =>
    refine settleFull_avoids hs fun t ht => ?_
    simp only [disputeRelease] at ht
    simp [disputeRelease, TenderEscrow.balance, ht]
  | refundFull =>
    refine settleFull_avoids hs fun t ht => ?_
    simp only [disputeRefund] at ht
    simp [disputeRefund, TenderEscrow.balance, ht]

/-- Funding subtracts nothing. -/
theorem fundTender_no_underflow {k : Bytes32} {a : Nat} :
    Avoids (· = .arithmeticUnderflow) (fundTender d B caller k a w) := by
  refine .check nofun fun _ => .bind ?_ fun _ _ => .pure _
  refine .check nofun fun _ => .check nofun fun _ => .check nofun fun _ => ?_
  refine .bind (.check nofun fun _ => .pure _) fun _ _ => .bind ?_ fun _ _ => .pure _
  intro e hex
  unfold payIn at hex
  split at hex <;> cases hex
  nofun

end Shortfall

/-! ## The result -/

/-- **Escrow solvency.** In every reachable world the escrowed total is the sum of the tender balances
and the contract holds it; hence no call underflows the total, and none that pays out fails for want
of contract balance. -/
theorem escrow_solvency (d : Deployment) {ls : List EscrowLabel} {w : World}
    (h : (escrowSystem d).Run ls w) :
    w.totalEscrowedAmount = ∑ k, tenderBalance w k ∧
    w.totalEscrowedAmount ≤ w.ledger d.self ∧
    (∀ (B : TokenBoundary d.self) (caller : Address) (call : EscrowCall),
      exec d B caller call w ≠ .error .arithmeticUnderflow) ∧
    (∀ (B : TokenBoundary d.self) (caller : Address) (call : EscrowCall),
      (∀ k a, call ≠ .fundTender k a) →
        exec d B caller call w ≠ .error (.tokenTransferFailed B.shortCode)) := by
  have hs := solvent_of_run h
  refine ⟨hs.total, hs.covered, fun B caller call hex => ?_, fun B caller call hfund hex => ?_⟩
  · by_cases hfund : ∀ k a, call ≠ .fundTender k a
    · exact exec_avoids_shortfall hs hfund _ hex (.inl rfl)
    · push Not at hfund
      obtain ⟨k, a, rfl⟩ := hfund
      exact fundTender_no_underflow _ hex rfl
  · exact exec_avoids_shortfall hs hfund _ hex (.inr rfl)

theorem escrow_solvency_sample :
    ∃ w, (escrowSystem Sample.deployment).Run (Sample.disputed.map fun c => .success c.1 c.2) w ∧
      w.totalEscrowedAmount = 700 ∧ w.totalEscrowedAmount = ∑ k, tenderBalance w k ∧
      w.totalEscrowedAmount ≤ w.ledger Sample.deployment.self := by
  obtain ⟨w, hrun, htotal⟩ := run_of_runCalls Sample.boundary Sample.disputed Sample.operator
    Sample.balances (fun w => w.totalEscrowedAmount = 700) (by decide) (by decide)
  have hs := escrow_solvency Sample.deployment hrun
  exact ⟨w, hrun, htotal, hs.1, hs.2.1⟩

end RouteGuard.Escrow
