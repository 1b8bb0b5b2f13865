import RouteGuard.Escrow.Solvency

/-!
# When a call succeeds

The converse of `exec_ok`: over a token that carries out the transfers it can, a solvent contract accepts a call whose
arguments and state pass its checks; so no money that it holds is stuck (`balance_settleable`).
-/

namespace RouteGuard.Escrow
open Guarded

/-- The token carries out every transfer that the sender's balance covers. -/
structure TokenBoundary.Honours {escrow : Address} (B : TokenBoundary escrow) : Prop where
  transferIn : ∀ (w : World) (sender : Address) (amount : Nat), w.entered = true → sender ≠ 0 →
    sender ≠ escrow → amount ≤ w.ledger sender → ∃ w', B.transferIn w sender amount = .ok w'
  transferOut : ∀ (w : World) (receiver : Address) (amount : Nat), w.entered = true → receiver ≠ 0 →
    amount ≤ w.ledger escrow → ∃ w', B.transferOut w receiver amount = .ok w'

/-- A ledger without a failing account is such a token. -/
theorem honours_mockLedger (d : Deployment) (reentrant : Option (Address × EscrowCall)) :
    (mockLedger d 0 reentrant).Honours where
  transferIn w sender amount _ hzero _ hle := ⟨_, ledgerTransfer_eq_ok.mpr ⟨hzero, hle, rfl⟩⟩
  transferOut w receiver amount _ hzero hle := by
    refine ⟨_, bind_eq_ok.mpr ⟨_, ledgerTransfer_eq_ok.mpr ⟨hzero, hle, rfl⟩, rfl⟩⟩

section Operations
variable {d : Deployment} {B : TokenBoundary d.self} {caller : Address} {w : World}

theorem payIn_succeeds (hB : B.Honours) {sender : Address} {amount : Nat} (hin : w.entered = true)
    (hzero : sender ≠ 0) (hself : sender ≠ d.self) (hle : amount ≤ w.ledger sender) :
    Avoids (fun _ => True) (payIn d B w sender amount) := by
  obtain ⟨w', hw'⟩ := hB.transferIn w sender amount hin hzero hself hle
  refine .of_ok (a := w') ?_
  rw [payIn, hw']

theorem payOut_succeeds (hB : B.Honours) {p : Payout} (hin : w.entered = true) (hzero : p.receiver ≠ 0)
    (hle : p.amount ≤ w.ledger d.self) : Avoids (fun _ => True) (payOut d B w p) := by
  obtain ⟨w', hw'⟩ := hB.transferOut w p.receiver p.amount hin hzero hle
  refine .of_ok (a := { w' with payouts := w'.payouts ++ [p] }) ?_
  rw [payOut, hw']

theorem consumeAuthorizationHash_succeeds {h : Bytes32} (hfresh : w.authorizationHashUsed h = false) :
    Avoids (fun _ => True) (consumeAuthorizationHash w h) :=
  .pass hfresh (.pure _)

/-! ## The operations -/

theorem registerTender_accepts {k i : Bytes32} {v : BitVec 32} {s : Address} {m : Nat} {tok : Address}
    {c h : Bytes32} (hidle : w.entered = false) (howner : caller = w.owner)
    (hstate : (w.tenders k).state = .unregistered) (hs : s ≠ 0) (htok : tok = d.escrowToken) (hi : i ≠ 0)
    (hc : c ≠ 0) (hv : v ≠ 0) (hm : m ≠ 0) (hmax : m ≤ maxHtsAmount) (hk : k = d.computeTenderKey i v)
    (hfresh : w.authorizationHashUsed c = false) :
    Avoids (fun _ => True) (registerTender d caller k i v s m tok c h w) := by
  refine .pass howner (.pass hidle (.bind ?_ fun _ _ => .pure _))
  refine .pass hstate (.pass hs (.pass htok (.pass ⟨hi, hc⟩ (.pass hv (.pass hm (.pass hmax (.pass hk ?_)))))))
  exact .bind (consumeAuthorizationHash_succeeds hfresh) fun _ _ => .pure _

theorem fundTender_accepts (hB : B.Honours) {k : Bytes32} {a : Nat} (hidle : w.entered = false)
    (hstate : (w.tenders k).state = .registered) (hcaller : caller = (w.tenders k).shipper) (hzero : caller ≠ 0)
    (hself : caller ≠ d.self) (ha : a = (w.tenders k).maxBudget) (hroom : w.totalEscrowedAmount + a < 2 ^ 256)
    (hle : a ≤ w.ledger caller) : Avoids (fun _ => True) (fundTender d B caller k a w) := by
  have hnarrow := toUint64_le a
  refine .pass hidle (.bind ?_ fun _ _ => .pure _)
  refine .pass hstate (.pass hcaller (.pass ha ?_))
  refine .bind (.pass ?_ (.pure _)) fun w₁ hw₁ => ?_
  · show w.totalEscrowedAmount + toUint64 a < 2 ^ 256
    omega
  obtain ⟨-, rfl⟩ := addEscrowed_eq_ok.mp hw₁
  exact .bind (payIn_succeeds hB rfl hzero hself (hnarrow.trans hle)) fun _ _ => .pure _

theorem allocateWinner_accepts (hs : Solvent d w) (hB : B.Honours) {k : Bytes32} {wn : Address} {a : Nat}
    {m h : Bytes32} (howner : caller = w.owner) (hstate : (w.tenders k).state = .funded)
    (hshipper : (w.tenders k).shipper ≠ 0) (hwn : wn ≠ 0) (ha : a ≠ 0) (hmax : a ≤ maxHtsAmount)
    (hbudget : a ≤ (w.tenders k).fundedAmount) (hm : m ≠ 0) (hh : h ≠ 0)
    (hfresh : w.authorizationHashUsed h = false) :
    Avoids (fun _ => True) (allocateWinner d B caller k wn a m h w) := by
  have hbalance : tenderBalance w k = (w.tenders k).fundedAmount := by
    rw [tenderBalance, TenderEscrow.balance, hstate]
  have hle := hs.balance_le k
  have hexcess : (w.tenders k).fundedAmount - toUint64 a ≤ w.totalEscrowedAmount := by omega
  refine .pass howner (.pass hs.idle (.bind ?_ fun _ _ => .pure _))
  refine .pass hstate (.pass hwn (.pass ha (.pass hmax (.pass hbudget (.pass ⟨hm, hh⟩ ?_)))))
  refine .bind (consumeAuthorizationHash_succeeds hfresh) fun w₁ hw₁ => ?_
  obtain ⟨-, rfl⟩ := consumeAuthorizationHash_eq_ok.mp hw₁
  refine .pass ((toUint64_le a).trans hbudget) (.bind (.pass hexcess (.pure _)) fun w₂ hw₂ => ?_)
  obtain ⟨-, rfl⟩ := subEscrowed_eq_ok.mp hw₂
  dsimp only
  split
  · exact .bind (payOut_succeeds hB rfl hshipper (hexcess.trans hs.covered)) fun _ _ => .pure _
  · exact .pure _

/-- The owner settles in full, with a fresh hash, where the payee has an account. -/
theorem settleFull_accepts (hs : Solvent d w) (hB : B.Honours) {f : FullSettlement} {k h : Bytes32}
    (hstate : (w.tenders k).state = f.expected) (hamount : f.amount (w.tenders k) = tenderBalance w k)
    (hpayee : f.payee (w.tenders k) ≠ 0) (hh : h ≠ 0) (hfresh : w.authorizationHashUsed h = false) :
    Avoids (fun _ => True) (settleFull d B w.owner f k h w) := by
  have hle : f.amount (w.tenders k) ≤ w.totalEscrowedAmount := hamount.trans_le (hs.balance_le k)
  refine .pass rfl (.pass hs.idle (.bind ?_ fun _ _ => .pure _))
  refine .pass hstate (.pass hh (.bind (consumeAuthorizationHash_succeeds hfresh) fun w₁ hw₁ => ?_))
  obtain ⟨-, rfl⟩ := consumeAuthorizationHash_eq_ok.mp hw₁
  refine .bind (.pass hle (.pure _)) fun w₂ hw₂ => ?_
  obtain ⟨-, rfl⟩ := subEscrowed_eq_ok.mp hw₂
  exact payOut_succeeds hB rfl hpayee (hle.trans hs.covered)

/-! ## No escrowed money is stuck -/

/-- Whom a tender may have to pay has an account. -/
structure TenderEscrow.Payable (t : TenderEscrow) : Prop where
  shipper : t.state ≠ .unregistered → t.shipper ≠ 0
  winner : t.state = .allocated ∨ t.state = .disputed → t.winner ≠ 0

theorem exec_payable {call : EscrowCall} {w' : World} (hp : ∀ k, (w.tenders k).Payable) (hself : caller ≠ d.self)
    (hex : exec d B caller call w = .ok w') (k : Bytes32) : (w'.tenders k).Payable := by
  obtain ⟨_, _, hstep, hc⟩ := exec_ok hself hex
  have hold := hp call.tenderKey
  rw [hc.tenders]
  obtain rfl | hk := eq_or_ne k call.tenderKey
  · rw [Function.update_self]
    cases hstep with
    | register =>
      simp only [exec, registerTender, onlyOwner, bind_eq_ok, require_eq_ok, exists_const, nonReentrant_eq_ok] at hex
      obtain ⟨-, -, _, ⟨-, hs, -⟩, -⟩ := hex
      exact ⟨fun _ => hs, by simp⟩
    | allocate hstate =>
      simp only [exec, allocateWinner, onlyOwner, requireState, bind_eq_ok, require_eq_ok, exists_const,
        nonReentrant_eq_ok] at hex
      obtain ⟨-, -, _, ⟨-, hwn, -⟩, -⟩ := hex
      exact ⟨fun _ => hold.shipper (by simp [hstate]), fun _ => hwn⟩
    | dispute hstate => exact ⟨fun _ => hold.shipper (by simp [hstate]), fun _ => hold.winner (.inl hstate)⟩
    | fund hstate | refundNoBid hstate | release hstate | resolveRelease hstate | refund hstate | split hstate =>
      exact ⟨fun _ => hold.shipper (by simp [hstate]), by simp⟩
  · rw [Function.update_of_ne hk]
    exact hp k

theorem payable_of_run {ls : List EscrowLabel} (h : (escrowSystem d).Run ls w) :
    ∀ k, (w.tenders k).Payable := by
  refine System.Run.induction (S := escrowSystem d) (I := fun _ w => ∀ k, (w.tenders k).Payable) ?_ ?_ h
  · rintro w ⟨htenders, -⟩ k
    rw [htenders]
    exact ⟨absurd rfl, by simp⟩
  · intro _ _ _ _ _ hp hstep
    cases hstep with
    | success B hself hex => exact exec_payable hp hself hex
    | reverted B _ hex => exact (submit_of_error hex).symm ▸ hp
    | environment => exact hp

def fullSettlements : List FullSettlement := [noQualifiedBidRefund, fullRelease, disputeRelease, disputeRefund]

/-- **No escrowed money is stuck.** In every reachable world a tender that holds money awaits a full settlement, and over
a token that honours its transfers the owner, with any fresh hash, pays out by it all that the tender holds. -/
theorem balance_settleable {ls : List EscrowLabel} (hrun : (escrowSystem d).Run ls w) (hB : B.Honours) {h : Bytes32}
    (hh : h ≠ 0) (hfresh : w.authorizationHashUsed h = false) (k : Bytes32) :
    (0 < tenderBalance w k → ∃ f ∈ fullSettlements, (w.tenders k).state = f.expected) ∧
    ∀ f ∈ fullSettlements, (w.tenders k).state = f.expected →
      ∃ w', settleFull d B w.owner f k h w = .ok w' ∧ tenderBalance w' k = 0 ∧
        w'.payouts = w.payouts ++ [⟨k, f.party, f.payee (w.tenders k), tenderBalance w k⟩] := by
  obtain ⟨hshipper, hwinner⟩ := payable_of_run hrun k
  constructor
  · cases hstate : (w.tenders k).state <;> simp [tenderBalance, TenderEscrow.balance, hstate, fullSettlements,
      noQualifiedBidRefund, fullRelease, disputeRelease, disputeRefund]
  · intro f hf hstate
    have hopen : f.amount (w.tenders k) = tenderBalance w k ∧ f.payee (w.tenders k) ≠ 0 ∧
        ∀ t : TenderEscrow, t.state = f.final → t.balance = 0 := by
      simp only [fullSettlements, List.mem_cons, List.not_mem_nil, or_false] at hf
      rcases hf with rfl | rfl | rfl | rfl <;>
        simp_all [tenderBalance, TenderEscrow.balance, noQualifiedBidRefund, fullRelease, disputeRelease, disputeRefund]
    obtain ⟨hamount, hpayee, hfinal⟩ := hopen
    obtain ⟨w', hw'⟩ := (settleFull_accepts (solvent_of_run hrun) hB hstate hamount hpayee hh hfresh).exists_ok
    obtain ⟨-, hc⟩ := settleFull_ok (.releaseFull k h) hw' rfl rfl rfl
    refine ⟨w', hw', ?_, hamount ▸ hc.payouts⟩
    rw [tenderBalance, hc.tenders]
    exact hfinal _ (by simp [EscrowCall.tenderKey])

end Operations

open Sample in
theorem balance_settleable_sample :
    ∃ w w', (escrowSystem deployment).Run (disputed.map fun c => .success c.1 c.2) w ∧
      settleFull deployment boundary w.owner disputeRefund tenderKey 15 w = .ok w' ∧ tenderBalance w' tenderKey = 0 := by
  obtain ⟨w, hrun, hstate, hfresh⟩ := run_of_runCalls boundary disputed operator balances
    (fun w => (w.tenders tenderKey).state = .disputed ∧ w.authorizationHashUsed 15 = false) (by decide) (by decide)
  obtain ⟨-, hsettles⟩ := balance_settleable hrun (honours_mockLedger _ _) (by decide) hfresh tenderKey
  obtain ⟨w', hsettle, hzero, -⟩ := hsettles disputeRefund (by simp [fullSettlements]) hstate
  exact ⟨w, w', hrun, hsettle, hzero⟩

end RouteGuard.Escrow
