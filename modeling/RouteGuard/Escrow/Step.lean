import RouteGuard.Escrow.Contract

/-!
# What a successful call does

`exec_ok` says it once: a successful call moves the storage of its own tender by one `TenderStep`
and touches the rest of the world as `Committed` lists. Every invariant of the contract is derived
from these two and never unfolds an operation.
-/

namespace RouteGuard.Escrow
open Guarded

/-! ## The effect of a call -/

/-- The sum of some outbound transfers. -/
def totalPaid (ps : List Payout) : Nat := (ps.map Payout.amount).sum

@[simp] theorem totalPaid_nil : totalPaid [] = 0 := rfl

@[simp] theorem totalPaid_singleton (p : Payout) : totalPaid [p] = p.amount := by simp [totalPaid]

theorem totalPaid_append (ps qs : List Payout) : totalPaid (ps ++ qs) = totalPaid ps + totalPaid qs := by
  simp [totalPaid]

/-- A transfer that is made only when its amount is positive. -/
def positive (p : Payout) : List Payout := if 0 < p.amount then [p] else []

@[simp] theorem totalPaid_positive (p : Payout) : totalPaid (positive p) = p.amount := by
  unfold positive
  split
  · simp
  · simp only [totalPaid_nil]
    omega

theorem mem_positive {p q : Payout} : q ∈ positive p ↔ q = p ∧ 0 < p.amount := by
  unfold positive
  split <;> simp_all

/-- One operation on the storage of one tender, with the transfers it makes. -/
inductive TenderStep (caller : Address) : EscrowCall → TenderEscrow → TenderEscrow → List Payout → Prop
  | register {k i v s m tok c h t} (hstate : t.state = .unregistered) (hpos : m ≠ 0)
      (hmax : m ≤ maxHtsAmount) :
      TenderStep caller (.registerTender k i v s m tok c h) t
        { t with
          state := .registered
          tenderVersion := v
          shipper := s
          maxBudget := toUint64 m
          tenderIdHash := i
          manifestHash := h
          creationAuthHash := c } []
  | fund {k a t} (hstate : t.state = .registered) (hcaller : caller = t.shipper) (ha : a = t.maxBudget) :
      TenderStep caller (.fundTender k a) t { t with state := .funded, fundedAmount := toUint64 a } []
  | allocate {k wn a m h t} (hstate : t.state = .funded) (hpos : a ≠ 0) (hmax : a ≤ maxHtsAmount)
      (hbudget : a ≤ t.fundedAmount) :
      TenderStep caller (.allocateWinner k wn a m h) t
        { t with
          state := .allocated
          winner := wn
          lockedAmount := toUint64 a
          excessRefunded := t.fundedAmount - toUint64 a
          decisionManifestHash := m }
        (positive ⟨k, .shipper, t.shipper, t.fundedAmount - toUint64 a⟩)
  | dispute {k h t} (hstate : t.state = .allocated) :
      TenderStep caller (.openDispute k h) t { t with state := .disputed, disputeAuthHash := h } []
  | refundNoBid {k h t} (hstate : t.state = .funded) :
      TenderStep caller (.refundNoQualifiedBid k h) t
        { t with state := .refunded, settlementAuthHash := h } [⟨k, .shipper, t.shipper, t.fundedAmount⟩]
  | release {k h t} (hstate : t.state = .allocated) :
      TenderStep caller (.releaseFull k h) t { t with state := .released, settlementAuthHash := h }
        [⟨k, .winner, t.winner, t.lockedAmount⟩]
  | resolveRelease {k h t} (hstate : t.state = .disputed) :
      TenderStep caller (.resolveDisputeRelease k h) t
        { t with state := .released, settlementAuthHash := h } [⟨k, .winner, t.winner, t.lockedAmount⟩]
  | refund {k h t} (hstate : t.state = .disputed) :
      TenderStep caller (.refundFull k h) t { t with state := .refunded, settlementAuthHash := h }
        [⟨k, .shipper, t.shipper, t.lockedAmount⟩]
  | split {k a b h t} (hstate : t.state = .disputed) (ha : a ≤ maxHtsAmount) (hb : b ≤ maxHtsAmount)
      (hsum : a + b = t.lockedAmount) :
      TenderStep caller (.partialRelease k a b h) t
        { t with state := .partiallyReleased, settlementAuthHash := h }
        (positive ⟨k, .winner, t.winner, toUint64 a⟩ ++ positive ⟨k, .shipper, t.shipper, toUint64 b⟩)

/-- The used hashes after a call consumed `h`, if it consumes one. -/
def markUsed (used : Bytes32 → Bool) : Option Bytes32 → Bytes32 → Bool
  | some h => Function.update used h true
  | none => used

/-- Everything a successful call leaves in the world, given its tender's new storage and the
transfers it made. -/
structure Committed (d : Deployment) (call : EscrowCall) (w w' : World) (t' : TenderEscrow)
    (paid : List Payout) : Prop where
  idle : w.entered = false
  tenders : w'.tenders = Function.update w.tenders call.tenderKey t'
  fresh : ∀ h, call.authorizationHash = some h → h ≠ 0 ∧ w.authorizationHashUsed h = false
  used : w'.authorizationHashUsed = markUsed w.authorizationHashUsed call.authorizationHash
  total : w'.totalEscrowedAmount + totalPaid paid = w.totalEscrowedAmount + call.received
  ledger : w.ledger d.self + call.received ≤ w'.ledger d.self + totalPaid paid
  payouts : w'.payouts = w.payouts ++ paid
  entered : w'.entered = false

/-! ## Narrowing -/

theorem maxHtsAmount_lt : maxHtsAmount < 2 ^ 64 := by decide

/-- Below the HTS bound the narrowing to `uint64` changes nothing. -/
theorem toUint64_eq {x : Nat} (h : x ≤ maxHtsAmount) : toUint64 x = x :=
  Nat.mod_eq_of_lt (lt_of_le_of_lt h maxHtsAmount_lt)

theorem toUint64_le (x : Nat) : toUint64 x ≤ x := Nat.mod_le _ _

/-! ## The building blocks -/

theorem nonReentrant_eq_ok {w w' : World} {body : World → Except EscrowError World} :
    nonReentrant w body = .ok w' ↔
      w.entered = false ∧ ∃ w₁, body { w with entered := true } = .ok w₁ ∧ w' = { w₁ with entered := false } := by
  simp only [nonReentrant, bind_eq_ok, require_eq_ok, exists_const, pure_eq_ok, eq_comm (b := w')]

theorem nonReentrant_eq_error {w : World} {body : World → Except EscrowError World} {e : EscrowError} :
    nonReentrant w body = .error e ↔
      (w.entered = true ∧ e = .reentrancyGuardReentrantCall) ∨
        (w.entered = false ∧ body { w with entered := true } = .error e) := by
  simp only [nonReentrant, bind_eq_error, require_eq_error, require_eq_ok, exists_const, pure_ne_error,
    and_false, exists_false, or_false, Bool.not_eq_false, eq_comm (b := e)]

theorem consumeAuthorizationHash_eq_ok {w w' : World} {h : Bytes32} :
    consumeAuthorizationHash w h = .ok w' ↔
      w.authorizationHashUsed h = false ∧
        w' = { w with authorizationHashUsed := Function.update w.authorizationHashUsed h true } := by
  simp only [consumeAuthorizationHash, bind_eq_ok, require_eq_ok, exists_const, pure_eq_ok, eq_comm (b := w')]

theorem addEscrowed_eq_ok {w w' : World} {n : Nat} :
    addEscrowed w n = .ok w' ↔ w.totalEscrowedAmount + n < 2 ^ 256 ∧
      w' = { w with totalEscrowedAmount := w.totalEscrowedAmount + n } := by
  simp only [addEscrowed, bind_eq_ok, require_eq_ok, exists_const, pure_eq_ok, eq_comm (b := w')]

theorem subEscrowed_eq_ok {w w' : World} {n : Nat} :
    subEscrowed w n = .ok w' ↔ n ≤ w.totalEscrowedAmount ∧
      w' = { w with totalEscrowedAmount := w.totalEscrowedAmount - n } := by
  simp only [subEscrowed, bind_eq_ok, require_eq_ok, exists_const, pure_eq_ok, eq_comm (b := w')]

theorem moveTokens_in {L : Address → Nat} {a b : Address} {n : Nat} (hab : a ≠ b) :
    moveTokens L a b n b = L b + n := by
  simp [moveTokens, Function.update_of_ne hab.symm]

theorem moveTokens_out {L : Address → Nat} {a b : Address} {n : Nat} :
    L a ≤ moveTokens L a b n a + n := by
  unfold moveTokens
  by_cases hab : a = b
  · subst hab
    simp only [Function.update_self]
    omega
  · simp only [Function.update_of_ne hab, Function.update_self]
    omega

section Boundary
variable {d : Deployment} {B : TokenBoundary d.self}

theorem payIn_eq_ok {w w' : World} {sender : Address} {n : Nat} (hin : w.entered = true)
    (hself : sender ≠ d.self) (h : payIn d B w sender n = .ok w') :
    w' = { w with ledger := moveTokens w.ledger sender d.self n, owner := w'.owner } := by
  unfold payIn at h
  split at h
  · next w₁ heq =>
    cases h
    exact (B.transferIn_ok hin hself heq).2
  · cases h

/-- What a list of transfers leaves: besides the payout log only the ledger, the owner and the event
log may differ. -/
structure PaidOut (d : Deployment) (w w' : World) (ps : List Payout) : Prop where
  tenders : w'.tenders = w.tenders
  used : w'.authorizationHashUsed = w.authorizationHashUsed
  total : w'.totalEscrowedAmount = w.totalEscrowedAmount
  entered : w'.entered = w.entered
  payouts : w'.payouts = w.payouts ++ ps
  ledger : w.ledger d.self ≤ w'.ledger d.self + totalPaid ps

theorem PaidOut.refl (w : World) : PaidOut d w w [] := ⟨rfl, rfl, rfl, rfl, by simp, by simp⟩

theorem PaidOut.trans {w₁ w₂ w₃ : World} {ps qs : List Payout} (h : PaidOut d w₁ w₂ ps)
    (h' : PaidOut d w₂ w₃ qs) : PaidOut d w₁ w₃ (ps ++ qs) where
  tenders := h'.tenders.trans h.tenders
  used := h'.used.trans h.used
  total := h'.total.trans h.total
  entered := h'.entered.trans h.entered
  payouts := by rw [h'.payouts, h.payouts, List.append_assoc]
  ledger := by
    have hl := h.ledger
    have hl' := h'.ledger
    rw [totalPaid_append]
    omega

theorem PaidOut.emit {w w' : World} {ps : List Payout} (h : PaidOut d w w' ps) (e : EscrowEvent) :
    PaidOut d w (w'.emit e) ps :=
  ⟨h.tenders, h.used, h.total, h.entered, h.payouts, h.ledger⟩

theorem payOut_paidOut {w w' : World} {p : Payout} (hin : w.entered = true)
    (h : payOut d B w p = .ok w') : PaidOut d w w' [p] := by
  unfold payOut at h
  split at h
  · next w₁ heq =>
    cases h
    have hw := (B.transferOut_ok hin heq).2
    generalize w₁.owner = o at hw
    subst hw
    exact ⟨rfl, rfl, rfl, rfl, rfl, by simpa using moveTokens_out⟩
  · cases h

theorem payOutPositive_paidOut {w w' : World} {p : Payout} (hin : w.entered = true)
    (h : payOutPositive d B w p = .ok w') : PaidOut d w w' (positive p) := by
  unfold payOutPositive at h
  unfold positive
  split at h
  · next hp =>
    rw [if_pos hp]
    exact payOut_paidOut hin h
  · next hp =>
    rw [if_neg hp]
    rw [pure_eq_ok] at h
    subst h
    exact PaidOut.refl w

/-- The excess of an allocation: transferred and logged when there is one. -/
theorem payExcess_paidOut {w w' : World} {p : Payout} {e : EscrowEvent} (hin : w.entered = true)
    (h : (if 0 < p.amount then (do let w₁ ← payOut d B w p; pure (w₁.emit e)) else pure w) = .ok w') :
    PaidOut d w w' (positive p) := by
  unfold positive
  split at h
  · next hp =>
    rw [if_pos hp]
    simp only [bind_eq_ok, pure_eq_ok] at h
    obtain ⟨w₁, hw₁, rfl⟩ := h
    exact (payOut_paidOut hin hw₁).emit e
  · next hp =>
    rw [if_neg hp]
    rw [pure_eq_ok] at h
    subst h
    exact PaidOut.refl w

/-- An operation that brings nothing in: it prepares the storage, pays, and leaves. -/
theorem Committed.of_paidOut {call : EscrowCall} {w w₁ w₂ : World} {t' : TenderEscrow}
    {paid : List Payout} (h : PaidOut d w₁ w₂ paid) (hidle : w.entered = false)
    (hreceived : call.received = 0)
    (hfresh : ∀ h, call.authorizationHash = some h → h ≠ 0 ∧ w.authorizationHashUsed h = false)
    (htenders : w₁.tenders = Function.update w.tenders call.tenderKey t')
    (hused : w₁.authorizationHashUsed = markUsed w.authorizationHashUsed call.authorizationHash)
    (htotal : w₁.totalEscrowedAmount + totalPaid paid = w.totalEscrowedAmount)
    (hledger : w₁.ledger = w.ledger) (hpayouts : w₁.payouts = w.payouts) :
    Committed d call w { w₂ with entered := false } t' paid where
  idle := hidle
  tenders := h.tenders.trans htenders
  fresh := hfresh
  used := h.used.trans hused
  total := by
    rw [hreceived, ← htotal]
    exact congrArg (· + totalPaid paid) h.total
  ledger := by
    rw [hreceived, ← hledger]
    exact h.ledger
  payouts := by rw [← hpayouts]; exact h.payouts
  entered := rfl

end Boundary

/-! ## The operations -/

section Operations
variable {d : Deployment} {B : TokenBoundary d.self} {caller : Address} {w w' : World}

theorem registerTender_ok {k i v s m tok c h} (hex : registerTender d caller k i v s m tok c h w = .ok w') :
    ∃ t' paid, TenderStep caller (.registerTender k i v s m tok c h) (w.tenders k) t' paid ∧
      Committed d (.registerTender k i v s m tok c h) w w' t' paid := by
  simp only [registerTender, onlyOwner, bind_eq_ok, require_eq_ok, exists_const, nonReentrant_eq_ok,
    consumeAuthorizationHash_eq_ok, pure_eq_ok] at hex
  obtain ⟨-, hidle, w₁, ⟨hstate, -, -, ⟨-, hc⟩, -, hpos, hmax, -, w₂, ⟨hfresh, rfl⟩, rfl⟩, rfl⟩ := hex
  refine ⟨_, _, .register hstate hpos hmax, .of_paidOut (PaidOut.refl _) hidle rfl ?_ rfl rfl rfl rfl rfl⟩
  rintro _ ⟨⟩
  exact ⟨hc, hfresh⟩

theorem fundTender_ok {k a} (hself : caller ≠ d.self) (hex : fundTender d B caller k a w = .ok w') :
    ∃ t' paid, TenderStep caller (.fundTender k a) (w.tenders k) t' paid ∧
      Committed d (.fundTender k a) w w' t' paid := by
  simp only [fundTender, requireState, bind_eq_ok, require_eq_ok, exists_const, nonReentrant_eq_ok,
    addEscrowed_eq_ok, pure_eq_ok] at hex
  obtain ⟨hidle, w₁, ⟨hstate, hcaller, ha, w₂, ⟨-, rfl⟩, w₃, hpay, rfl⟩, rfl⟩ := hex
  have hw := payIn_eq_ok (by rfl) hself hpay
  generalize w₃.owner = o at hw
  subst hw
  refine ⟨_, _, .fund hstate hcaller ha, ?_⟩
  exact
    { idle := hidle
      tenders := rfl
      fresh := by rintro _ ⟨⟩
      used := rfl
      total := rfl
      ledger := by simp [World.emit, World.setTender, EscrowCall.received, moveTokens_in hself]
      payouts := by simp [World.emit, World.setTender]
      entered := rfl }

theorem allocateWinner_ok {k wn a m h} (hex : allocateWinner d B caller k wn a m h w = .ok w') :
    ∃ t' paid, TenderStep caller (.allocateWinner k wn a m h) (w.tenders k) t' paid ∧
      Committed d (.allocateWinner k wn a m h) w w' t' paid := by
  simp only [allocateWinner, onlyOwner, requireState, bind_eq_ok, require_eq_ok, exists_const,
    nonReentrant_eq_ok, consumeAuthorizationHash_eq_ok, subEscrowed_eq_ok] at hex
  obtain ⟨-, hidle, w₁, ⟨hstate, -, hpos, hmax, hbudget, ⟨-, hh⟩, w₂, ⟨hfresh, rfl⟩, -, w₃, ⟨htot, rfl⟩,
    hpay⟩, rfl⟩ := hex
  have hp := payExcess_paidOut
    (p := ⟨k, .shipper, (w.tenders k).shipper, (w.tenders k).fundedAmount - toUint64 a⟩) (by rfl) hpay
  refine ⟨_, _, .allocate hstate hpos hmax hbudget, .of_paidOut hp hidle rfl ?_ rfl rfl ?_ rfl rfl⟩
  · rintro _ ⟨⟩
    exact ⟨hh, hfresh⟩
  · rw [totalPaid_positive]
    exact Nat.sub_add_cancel htot

/-- The four full settlements at once. -/
theorem settleFull_ok (call : EscrowCall) {f : FullSettlement} {k h}
    (hex : settleFull d B caller f k h w = .ok w') (hreceived : call.received = 0)
    (hhash : call.authorizationHash = some h) (hkey : call.tenderKey = k) :
    (w.tenders k).state = f.expected ∧
      Committed d call w w' { w.tenders k with state := f.final, settlementAuthHash := h }
        [⟨k, f.party, f.payee (w.tenders k), f.amount (w.tenders k)⟩] := by
  simp only [settleFull, onlyOwner, requireState, bind_eq_ok, require_eq_ok, exists_const,
    nonReentrant_eq_ok, consumeAuthorizationHash_eq_ok, subEscrowed_eq_ok] at hex
  obtain ⟨-, hidle, w₁, ⟨hstate, hh, w₂, ⟨hfresh, rfl⟩, w₃, ⟨htot, rfl⟩, hpay⟩, rfl⟩ := hex
  refine ⟨hstate, .of_paidOut (payOut_paidOut (by rfl) hpay) hidle hreceived ?_ ?_ ?_ ?_ ?_ ?_⟩
  · intro h' hh'
    rw [hhash, Option.some.injEq] at hh'
    subst hh'
    exact ⟨hh, hfresh⟩
  · rw [hkey]
    rfl
  · rw [hhash]
    rfl
  · rw [totalPaid_singleton]
    exact Nat.sub_add_cancel htot
  · rfl
  · rfl

theorem openDispute_ok {k h} (hex : openDispute caller k h w = .ok w') :
    ∃ t' paid, TenderStep caller (.openDispute k h) (w.tenders k) t' paid ∧
      Committed d (.openDispute k h) w w' t' paid := by
  simp only [openDispute, onlyOwner, requireState, bind_eq_ok, require_eq_ok, exists_const,
    nonReentrant_eq_ok, consumeAuthorizationHash_eq_ok, pure_eq_ok] at hex
  obtain ⟨-, hidle, w₁, ⟨hstate, hh, w₂, ⟨hfresh, rfl⟩, rfl⟩, rfl⟩ := hex
  refine ⟨_, _, .dispute hstate, .of_paidOut (PaidOut.refl _) hidle rfl ?_ rfl rfl rfl rfl rfl⟩
  rintro _ ⟨⟩
  exact ⟨hh, hfresh⟩

theorem partialRelease_ok {k a b h} (hex : partialRelease d B caller k a b h w = .ok w') :
    ∃ t' paid, TenderStep caller (.partialRelease k a b h) (w.tenders k) t' paid ∧
      Committed d (.partialRelease k a b h) w w' t' paid := by
  simp only [partialRelease, onlyOwner, requireState, bind_eq_ok, require_eq_ok, exists_const,
    nonReentrant_eq_ok, consumeAuthorizationHash_eq_ok, subEscrowed_eq_ok] at hex
  obtain ⟨-, hidle, w₁, ⟨hstate, hh, ha, hb, -, hsum, w₂, ⟨hfresh, rfl⟩, w₃, ⟨htot, rfl⟩, w₄, hpay,
    hpay'⟩, rfl⟩ := hex
  have hp := payOutPositive_paidOut (by rfl) hpay
  have hp' := payOutPositive_paidOut hp.entered hpay'
  refine ⟨_, _, .split hstate ha hb hsum, .of_paidOut (hp.trans hp') hidle rfl ?_ rfl rfl ?_ rfl rfl⟩
  · rintro _ ⟨⟩
    exact ⟨hh, hfresh⟩
  · rw [totalPaid_append, totalPaid_positive, totalPaid_positive, toUint64_eq ha, toUint64_eq hb, hsum]
    exact Nat.sub_add_cancel htot

/-- **What a successful call does**: one step of its own tender, and `Committed` for the rest. -/
theorem exec_ok {call : EscrowCall} (hself : caller ≠ d.self) (hex : exec d B caller call w = .ok w') :
    ∃ t' paid, TenderStep caller call (w.tenders call.tenderKey) t' paid ∧
      Committed d call w w' t' paid := by
  cases call with
  | registerTender => exact registerTender_ok hex
  | fundTender => exact fundTender_ok hself hex
  | allocateWinner => exact allocateWinner_ok hex
  | openDispute => exact openDispute_ok hex
  | partialRelease => exact partialRelease_ok hex
  | refundNoQualifiedBid k h =>
    obtain ⟨hstate, hc⟩ := settleFull_ok (.refundNoQualifiedBid k h) hex rfl rfl rfl
    exact ⟨_, _, .refundNoBid hstate, hc⟩
  | releaseFull k h =>
    obtain ⟨hstate, hc⟩ := settleFull_ok (.releaseFull k h) hex rfl rfl rfl
    exact ⟨_, _, .release hstate, hc⟩
  | resolveDisputeRelease k h =>
    obtain ⟨hstate, hc⟩ := settleFull_ok (.resolveDisputeRelease k h) hex rfl rfl rfl
    exact ⟨_, _, .resolveRelease hstate, hc⟩
  | refundFull k h =>
    obtain ⟨hstate, hc⟩ := settleFull_ok (.refundFull k h) hex rfl rfl rfl
    exact ⟨_, _, .refund hstate, hc⟩

end Operations

end RouteGuard.Escrow
