import RouteGuard.Lifecycle.Transitions

/-!
# The money of a tender

Amounts are decimal strings carried through funding, award, referee decision and settlement.

* `AddsUp` : two amounts and their total, as `BigInt` reads them;
* `Money` : the invariant, with the amounts that each state determines;
* `lifecycle_money_conserved` : what every run of the reducer keeps.
-/

namespace RouteGuard.Lifecycle
open JsString Guarded Access Auth

/-- Three recorded amounts, the first two adding up to the third. -/
def AddsUp (a b total : Option JsString) : Prop :=
  ∃ x y z : Int, a.bind bigInt = some x ∧ b.bind bigInt = some y ∧ total.bind bigInt = some z ∧ x + y = z

/-! ## The invariant -/

/-- A winner was selected. -/
def Awarded (r : LifecycleRecord) : Prop :=
  HasEvent r .winnerSelectionConfirmed ∧ ¬ HasEvent r .noQualifiedBidConfirmed

/-- No bid was qualified. -/
def Unawarded (r : LifecycleRecord) : Prop :=
  HasEvent r .noQualifiedBidConfirmed ∧ ¬ HasEvent r .winnerSelectionConfirmed

/-- The auction is not decided. -/
def Undecided (r : LifecycleRecord) : Prop :=
  ¬ HasEvent r .winnerSelectionConfirmed ∧ ¬ HasEvent r .noQualifiedBidConfirmed

/-- `l` is locked: the winning amount, which together with the excess is the budget. -/
structure Locks (r : LifecycleRecord) (l : JsString) : Prop where
  locked : r.lockedAmountAtomic = some l
  positive : isPositiveAtomicString l
  winning : r.winningAmountAtomic = some l
  excess : ∃ x, r.excessRefundAtomic = some x ∧ isNonNegativeAtomicString x ∧
    digitsValue l + digitsValue x = digitsValue r.maximumFreightBudgetAtomic

/-- The release and the refund are recorded and add up to `total`. -/
structure Splits (r : LifecycleRecord) (total : JsString) : Prop where
  amounts : ∃ rel ref, r.releaseAmountAtomic = some rel ∧ r.refundAmountAtomic = some ref ∧
    isNonNegativeAtomicString rel ∧ isNonNegativeAtomicString ref ∧
    digitsValue rel + digitsValue ref = digitsValue total

/-- What each state determines about the amounts. -/
def MoneyAt (r : LifecycleRecord) : V2LifecycleState → Prop
  | .draft | .escrowFunded | .tenderOpened | .bidding | .auctionClosed =>
    Undecided r ∧ r.lockedAmountAtomic = none
  | .noQualifiedBid => Unawarded r ∧ r.lockedAmountAtomic = none
  | .winnerSelected => Awarded r ∧ r.lockedAmountAtomic = none
  | .refereeDecision | .partialRelease => Awarded r ∧ ∃ l, Locks r l ∧ Splits r l
  | .paymentReleased =>
    Awarded r ∧ ∃ l, Locks r l ∧ r.releaseAmountAtomic = some l ∧ r.refundAmountAtomic = some (js "0")
  | .refunded =>
    r.releaseAmountAtomic = some (js "0") ∧
      (Awarded r ∧ (∃ l, Locks r l ∧ r.refundAmountAtomic = some l) ∨
        Unawarded r ∧ r.lockedAmountAtomic = none ∧ r.refundAmountAtomic = some r.maximumFreightBudgetAtomic)
  | .tenderCompleted =>
    Awarded r ∧ (∃ l, Locks r l ∧ Splits r l) ∨
      Unawarded r ∧ r.lockedAmountAtomic = none ∧ Splits r r.maximumFreightBudgetAtomic
  | .winningAmountLocked | .routeReserved | .inTransit | .deliveryReported | .podSubmitted | .podUnderReview
  | .podCorrectionRequested | .podResubmitted | .podAccepted | .podDeemedAccepted | .podDisputed =>
    Awarded r ∧ ∃ l, Locks r l

structure Money (r : LifecycleRecord) : Prop where
  budget : isPositiveAtomicString r.maximumFreightBudgetAtomic
  funded : r.state ≠ .draft → r.fundedAmountAtomic = some r.maximumFreightBudgetAtomic
  phase : MoneyAt r r.state

/-! ## One event -/

theorem Locks.frame {r r' : LifecycleRecord} {l : JsString} (h : Locks r l)
    (ha : r'.toAuctionFields = r.toAuctionFields) (hb : r'.toTenderBinding = r.toTenderBinding) :
    Locks r' l := by
  obtain ⟨h1, h2, h3, h4⟩ := h
  refine ⟨ha ▸ h1, h2, ha ▸ h3, ?_⟩
  rw [ha, hb]
  exact h4

theorem Splits.frame {r r' : LifecycleRecord} {total : JsString} (h : Splits r total)
    (hs : r'.toSettlementFields = r.toSettlementFields) : Splits r' total := by
  obtain ⟨h1⟩ := h
  constructor
  rw [hs]
  exact h1

/-- The branch does not change with an event that decides nothing. -/
theorem branch_frame {r r' : LifecycleRecord} {type : LifecycleEventType}
    (hh : ∀ t, HasEvent r' t ↔ HasEvent r t ∨ type = t) (h1 : type ≠ .winnerSelectionConfirmed)
    (h2 : type ≠ .noQualifiedBidConfirmed) :
    (Undecided r' ↔ Undecided r) ∧ (Awarded r' ↔ Awarded r) ∧ (Unawarded r' ↔ Unawarded r) := by
  simp only [Undecided, Awarded, Unawarded, hh, h1, h2, or_false, iff_self, and_self]

/-- An event that changes neither the state nor an amount. -/
theorem MoneyAt.frame {r r' : LifecycleRecord} {s : V2LifecycleState} (h : MoneyAt r s)
    (hbranch : (Undecided r' ↔ Undecided r) ∧ (Awarded r' ↔ Awarded r) ∧ (Unawarded r' ↔ Unawarded r))
    (ha : r'.toAuctionFields = r.toAuctionFields) (hb : r'.toTenderBinding = r.toTenderBinding)
    (hs : r'.toSettlementFields = r.toSettlementFields) : MoneyAt r' s := by
  obtain ⟨h1, h2, h3⟩ := hbranch
  have hlocks : ∀ l, Locks r l → Locks r' l := fun l hl => hl.frame ha hb
  have hsplits : ∀ t, Splits r t → Splits r' t := fun t ht => ht.frame hs
  cases s with
  | draft | escrowFunded | tenderOpened | bidding | auctionClosed => exact ⟨h1.mpr h.1, ha ▸ h.2⟩
  | noQualifiedBid => exact ⟨h3.mpr h.1, ha ▸ h.2⟩
  | winnerSelected => exact ⟨h2.mpr h.1, ha ▸ h.2⟩
  | refereeDecision | partialRelease =>
    obtain ⟨haw, l, hl, ht⟩ := h
    exact ⟨h2.mpr haw, l, hlocks l hl, hsplits l ht⟩
  | paymentReleased =>
    obtain ⟨haw, l, hl, hrel, href⟩ := h
    exact ⟨h2.mpr haw, l, hlocks l hl, hs ▸ hrel, hs ▸ href⟩
  | refunded =>
    obtain ⟨hrel, hcase⟩ := h
    refine ⟨hs ▸ hrel, ?_⟩
    rcases hcase with ⟨haw, l, hl, href⟩ | ⟨hun, hnone, href⟩
    · exact .inl ⟨h2.mpr haw, l, hlocks l hl, hs ▸ href⟩
    · exact .inr ⟨h3.mpr hun, ha ▸ hnone, by rw [hs, hb]; exact href⟩
  | tenderCompleted =>
    rcases h with ⟨haw, l, hl, ht⟩ | ⟨hun, hnone, ht⟩
    · exact .inl ⟨h2.mpr haw, l, hlocks l hl, hsplits l ht⟩
    · exact .inr ⟨h3.mpr hun, ha ▸ hnone, hb ▸ hsplits _ ht⟩
  | winningAmountLocked | routeReserved | inTransit | deliveryReported | podSubmitted | podUnderReview
  | podCorrectionRequested | podResubmitted | podAccepted | podDeemedAccepted | podDisputed =>
    obtain ⟨haw, l, hl⟩ := h
    exact ⟨h2.mpr haw, l, hlocks l hl⟩

theorem atomic_zero : isNonNegativeAtomicString (js "0") ∧ digitsValue (js "0") = 0 := by decide

theorem ne_nil_of_positive {s : JsString} (h : isPositiveAtomicString s) : s ≠ [] := by
  rintro rfl
  exact absurd h (by decide)

/-- **One event.** Every transition keeps the money invariant. -/
theorem Money.step {p : Platform} {context : LifecycleReduceContext p} {r next : LifecycleRecord}
    {event : LifecycleEvent} (hm : Money r) (h : Reduces p context r event event.body next) : Money next := by
  have hh := hasEvent_of_reduces h
  have htype : event.type = event.body.type := rfl
  obtain ⟨hbudget, hfunded, hphase⟩ := hm
  generalize event.body = b at h htype
  rw [htype] at hh
  cases h with
  | escrowFundingConfirmed hs _ _ _ ha _ =>
    rw [hs] at hphase
    have hb := branch_frame hh nofun nofun
    exact ⟨hbudget, fun _ => congrArg some ha, hb.1.mpr hphase.1, hphase.2⟩
  | tenderActivationPaid hs _ _ =>
    rw [hs] at hphase hfunded
    have hb := branch_frame hh nofun nofun
    exact ⟨hbudget, fun _ => hfunded (by decide), hb.1.mpr hphase.1, hphase.2⟩
  | bidSubmissionPaid hs _ _ _ =>
    have hb := branch_frame hh nofun nofun
    rcases hs with hs | hs <;> rw [hs] at hphase hfunded <;>
      exact ⟨hbudget, fun _ => hfunded (by decide), hb.1.mpr hphase.1, hphase.2⟩
  | biddingStarted hs =>
    rw [hs] at hphase hfunded
    have hb := branch_frame hh nofun nofun
    exact ⟨hbudget, fun _ => hfunded (by decide), hb.1.mpr hphase.1, hphase.2⟩
  | auctionCloseConfirmed hs _ _ _ =>
    rw [hs] at hphase hfunded
    have hb := branch_frame hh nofun nofun
    exact ⟨hbudget, fun _ => hfunded (by decide), hb.1.mpr hphase.1, hphase.2⟩
  | noQualifiedBidConfirmed hs _ =>
    rw [hs] at hphase hfunded
    refine ⟨hbudget, fun _ => hfunded (by decide), ⟨(hh _).mpr (.inr rfl), ?_⟩, hphase.2⟩
    rw [hh]
    rintro (hw | hw)
    · exact hphase.1.1 hw
    · cases hw
  | winnerSelectionConfirmed hs _ _ _ _ _ =>
    rw [hs] at hphase hfunded
    refine ⟨hbudget, fun _ => hfunded (by decide), ⟨(hh _).mpr (.inr rfl), ?_⟩, hphase.2⟩
    rw [hh]
    rintro (hw | hw)
    · exact hphase.1.2 hw
    · cases hw
  | winningAmountAllocationConfirmed hs ha =>
    rw [hs] at hphase hfunded
    have hb := branch_frame hh nofun nofun
    refine ⟨hbudget, fun _ => hfunded (by decide), hb.2.1.mpr hphase.1, _, ⟨rfl, ha.positive, rfl, _, rfl, ha.excess, ?_⟩⟩
    exact ha.budget ▸ ha.conserved
  | routeReservationPublished hs _ | transitStarted hs | deliveryReported hs | podPackageSubmitted hs _
  | podCorrectionRequested hs _ _ _ _ | podPackageResubmitted hs _ _ _ _ _ | podAcceptedByShipper hs _ _
  | podReviewDeadlineExpired hs _ _ _ | podCorrectionDeadlineExpired hs _ _ | podRejectedToDispute hs _ _ _ _ =>
    rw [hs] at hphase hfunded
    have hb := branch_frame hh nofun nofun
    obtain ⟨haw, l, hl⟩ := hphase
    exact ⟨hbudget, fun _ => hfunded (by decide), hb.2.1.mpr haw, l, hl.locked, hl.positive, hl.winning, hl.excess⟩
  | podReviewStarted hs _ =>
    have hb := branch_frame hh nofun nofun
    rcases hs with ⟨hs, -⟩ | ⟨hs, -⟩ <;> rw [hs] at hphase hfunded <;>
      obtain ⟨haw, l, hl⟩ := hphase <;>
      exact ⟨hbudget, fun _ => hfunded (by decide), hb.2.1.mpr haw, l, hl.frame rfl rfl⟩
  | refereeResolutionRecorded hs hr =>
    rw [hs] at hphase hfunded
    have hb := branch_frame hh nofun nofun
    obtain ⟨haw, l, hl⟩ := hphase
    refine ⟨hbudget, fun _ => hfunded (by decide), hb.2.1.mpr haw, l, hl.frame rfl rfl,
      ⟨_, _, rfl, rfl, hr.release, hr.refund, ?_⟩⟩
    have hc := hr.conserved
    rw [hl.locked, Option.getD_some, bigInt_of_atomic (isNonNegativeAtomicString_of_positive hl.positive)] at hc
    exact_mod_cast (Option.some.inj hc).symm
  | escrowReleaseConfirmed hs _ hp hlocked _ =>
    have hb := branch_frame hh nofun nofun
    have hlock : Awarded r ∧ ∃ l, Locks r l := by
      rcases hs with hs | hs | ⟨hs, -⟩ <;> rw [hs] at hphase
      · exact hphase
      · exact hphase
      · obtain ⟨haw, l, hl, -⟩ := hphase
        exact ⟨haw, l, hl⟩
    obtain ⟨haw, l, hl⟩ := hlock
    rw [hl.locked, Option.some_or] at hlocked
    have hdraft : r.state ≠ .draft := by rcases hs with hs | hs | ⟨hs, -⟩ <;> rw [hs] <;> decide
    exact ⟨hbudget, fun _ => hfunded hdraft, hb.2.1.mpr haw, l, hl.frame rfl rfl, hlocked.symm, rfl⟩
  | escrowPartialReleaseConfirmed hs hrel href hc _ =>
    obtain ⟨hs, -⟩ := hs
    rw [hs] at hphase hfunded
    have hb := branch_frame hh nofun nofun
    obtain ⟨haw, l, hl, -⟩ := hphase
    refine ⟨hbudget, fun _ => hfunded (by decide), hb.2.1.mpr haw, l, hl.frame rfl rfl,
      ⟨_, _, rfl, rfl, hrel.2, href.2, ?_⟩⟩
    rw [hl.locked, Option.getD_some, bigInt_of_atomic (isNonNegativeAtomicString_of_positive hl.positive)] at hc
    exact_mod_cast (Option.some.inj hc).symm
  | escrowRefundConfirmed hs _ hp =>
    have hb := branch_frame hh nofun nofun
    rcases hs with ⟨hs, ha⟩ | ⟨⟨hs, -⟩, -, -, hl'⟩
    · rw [hs] at hphase hfunded
      exact ⟨hbudget, fun _ => hfunded (by decide), rfl, .inr ⟨hb.2.2.mpr hphase.1, hphase.2, congrArg some ha⟩⟩
    · rw [hs] at hphase hfunded
      obtain ⟨haw, l, hl, -⟩ := hphase
      have heq := (hl' l hl.locked).resolve_left (ne_nil_of_positive hl.positive)
      exact ⟨hbudget, fun _ => hfunded (by decide), rfl,
        .inl ⟨hb.2.1.mpr haw, l, hl.frame rfl rfl, congrArg some heq⟩⟩
  | tenderCompletionConfirmed hs =>
    have hb := branch_frame hh nofun nofun
    have hdraft : r.state ≠ .draft := by rcases hs with hs | hs | hs <;> rw [hs] <;> decide
    refine ⟨hbudget, fun _ => hfunded hdraft, ?_⟩
    rcases hs with hs | hs | hs <;> rw [hs] at hphase
    · obtain ⟨haw, l, hl, hrel, href⟩ := hphase
      refine .inl ⟨hb.2.1.mpr haw, l, hl.frame rfl rfl, ⟨l, js "0", hrel, href, ?_, atomic_zero.1, ?_⟩⟩
      · exact isNonNegativeAtomicString_of_positive hl.positive
      · rw [atomic_zero.2, Nat.add_zero]
    · obtain ⟨haw, l, hl, ht⟩ := hphase
      exact .inl ⟨hb.2.1.mpr haw, l, hl.frame rfl rfl, ht.frame rfl⟩
    · obtain ⟨hrel, ⟨haw, l, hl, href⟩ | ⟨hun, hnone, href⟩⟩ := hphase
      · refine .inl ⟨hb.2.1.mpr haw, l, hl.frame rfl rfl, ⟨js "0", l, hrel, href, atomic_zero.1, ?_, ?_⟩⟩
        · exact isNonNegativeAtomicString_of_positive hl.positive
        · rw [atomic_zero.2, Nat.zero_add]
      · refine .inr ⟨hb.2.2.mpr hun, hnone, ⟨js "0", _, hrel, href, atomic_zero.1, ?_, ?_⟩⟩
        · exact isNonNegativeAtomicString_of_positive hbudget
        · rw [atomic_zero.2, Nat.zero_add]
          rfl
  | podAdvisoryAnchored _ _ =>
    have hb := branch_frame hh nofun nofun
    exact ⟨hbudget, hfunded, hphase.frame hb rfl rfl rfl⟩

/-! ## Whole runs -/

theorem Money.init {p : Platform} {input : CreateLifecycleInput} {r : LifecycleRecord}
    (h : createLifecycleRecord p input = .ok r) : Money r := by
  simp only [createLifecycleRecord, bind_eq_ok, require_eq_ok, exists_const, pure_eq_ok] at h
  obtain ⟨hb, rfl⟩ := h
  refine ⟨hb, fun hne => absurd rfl hne, ⟨?_, ?_⟩, rfl⟩ <;> rintro ⟨_, hmem, -⟩ <;> cases hmem

theorem money_of_run {p : Platform} {ls : List (LifecycleEvent × LifecycleReduceContext p)}
    {r : LifecycleRecord} (h : (lifecycleSystem p).Run ls r) : Money r := by
  refine System.Run.induction (I := fun _ r => Money r) ?_ ?_ h
  · rintro s ⟨input, hinput⟩
    exact Money.init hinput
  · intro _ t l u _ ih hstep
    exact ih.step (reduceLifecycle_ok hstep).2.2

/-- The amounts of a record are conserved. -/
structure MoneyConserved (r : LifecycleRecord) : Prop where
  /-- A locked amount is the winning amount, and together with the excess it is the funded budget. -/
  locked : ∀ l, r.lockedAmountAtomic = some l → r.winningAmountAtomic = some l ∧
    AddsUp r.lockedAmountAtomic r.excessRefundAtomic (some r.maximumFreightBudgetAtomic) ∧
    r.fundedAmountAtomic = some r.maximumFreightBudgetAtomic
  /-- A settled tender went through one of the two branches, and released and refunded what it holds. -/
  settled : r.state ∈ [.paymentReleased, .partialRelease, .refunded, .tenderCompleted] →
    (HasEvent r .winnerSelectionConfirmed ∧ AddsUp r.releaseAmountAtomic r.refundAmountAtomic r.lockedAmountAtomic) ∨
    (HasEvent r .noQualifiedBidConfirmed ∧
      AddsUp r.releaseAmountAtomic r.refundAmountAtomic (some r.maximumFreightBudgetAtomic))
  /-- The two branches exclude each other. -/
  branch : ¬ (HasEvent r .winnerSelectionConfirmed ∧ HasEvent r .noQualifiedBidConfirmed)
  released : r.state = .paymentReleased →
    ∃ l, r.lockedAmountAtomic = some l ∧ r.releaseAmountAtomic = some l
  refunded : r.state = .refunded → r.releaseAmountAtomic.bind bigInt = some 0

theorem Splits.addsUp {r : LifecycleRecord} {total : JsString} (h : Splits r total)
    (ht : isPositiveAtomicString total) :
    AddsUp r.releaseAmountAtomic r.refundAmountAtomic (some total) := by
  obtain ⟨rel, ref, h1, h2, h3, h4, h5⟩ := h
  refine ⟨digitsValue rel, digitsValue ref, digitsValue total, ?_, ?_, ?_, by exact_mod_cast h5⟩
  · rw [h1, Option.bind_some, bigInt_of_atomic h3]
  · rw [h2, Option.bind_some, bigInt_of_atomic h4]
  · exact bigInt_of_atomic (isNonNegativeAtomicString_of_positive ht)

theorem Locks.addsUp {r : LifecycleRecord} {l : JsString} (h : Locks r l)
    (hb : isPositiveAtomicString r.maximumFreightBudgetAtomic) :
    AddsUp r.lockedAmountAtomic r.excessRefundAtomic (some r.maximumFreightBudgetAtomic) := by
  obtain ⟨h1, h2, -, x, h3, h4, h5⟩ := h
  refine ⟨digitsValue l, digitsValue x, digitsValue r.maximumFreightBudgetAtomic, ?_, ?_, ?_, by exact_mod_cast h5⟩
  · rw [h1, Option.bind_some, bigInt_of_atomic (isNonNegativeAtomicString_of_positive h2)]
  · rw [h3, Option.bind_some, bigInt_of_atomic h4]
  · exact bigInt_of_atomic (isNonNegativeAtomicString_of_positive hb)

/-- The states in which the money has left the escrow determine the branch and the split. -/
theorem Money.settles {r : LifecycleRecord} (h : Money r)
    (hs : r.state ∈ [.paymentReleased, .partialRelease, .refunded, .tenderCompleted]) :
    (Awarded r ∧ ∃ l, Locks r l ∧ Splits r l) ∨ (Unawarded r ∧ Splits r r.maximumFreightBudgetAtomic) := by
  obtain ⟨hbudget, -, hphase⟩ := h
  have whole {t : JsString} (hp : isPositiveAtomicString t) :
      isNonNegativeAtomicString t ∧ digitsValue t + digitsValue (js "0") = digitsValue t ∧
        digitsValue (js "0") + digitsValue t = digitsValue t := by
    rw [atomic_zero.2]
    exact ⟨isNonNegativeAtomicString_of_positive hp, Nat.add_zero _, Nat.zero_add _⟩
  simp only [List.mem_cons, List.not_mem_nil, or_false] at hs
  rcases hs with hs | hs | hs | hs <;> rw [hs] at hphase
  · obtain ⟨haw, l, hl, hrel, href⟩ := hphase
    obtain ⟨ha, hsum, -⟩ := whole hl.positive
    exact .inl ⟨haw, l, hl, ⟨l, js "0", hrel, href, ha, atomic_zero.1, hsum⟩⟩
  · exact .inl hphase
  · obtain ⟨hrel, ⟨haw, l, hl, href⟩ | ⟨hun, -, href⟩⟩ := hphase
    · obtain ⟨ha, -, hsum⟩ := whole hl.positive
      exact .inl ⟨haw, l, hl, ⟨js "0", l, hrel, href, atomic_zero.1, ha, hsum⟩⟩
    · obtain ⟨ha, -, hsum⟩ := whole hbudget
      exact .inr ⟨hun, ⟨js "0", _, hrel, href, atomic_zero.1, ha, hsum⟩⟩
  · rcases hphase with h | ⟨hun, -, ht⟩
    · exact .inl h
    · exact .inr ⟨hun, ht⟩

/-- A locked amount is locked in full. -/
theorem Money.locks {r : LifecycleRecord} (h : Money r) {l : JsString} (hl : r.lockedAmountAtomic = some l) :
    Locks r l ∧ r.state ≠ .draft := by
  obtain ⟨-, -, hphase⟩ := h
  have unique {l' : JsString} (h' : Locks r l') : Locks r l := by
    rw [h'.locked] at hl
    cases hl
    exact h'
  constructor
  swap
  · intro hs
    rw [hs] at hphase
    rw [hphase.2] at hl
    cases hl
  cases hs : r.state <;> rw [hs] at hphase
  case draft | escrowFunded | tenderOpened | bidding | auctionClosed | noQualifiedBid | winnerSelected =>
    rw [hphase.2] at hl
    cases hl
  case refunded =>
    obtain ⟨-, ⟨-, l', h', -⟩ | ⟨-, hnone, -⟩⟩ := hphase
    · exact unique h'
    · rw [hnone] at hl
      cases hl
  case tenderCompleted =>
    rcases hphase with ⟨-, l', h', -⟩ | ⟨-, hnone, -⟩
    · exact unique h'
    · rw [hnone] at hl
      cases hl
  case refereeDecision | partialRelease | paymentReleased =>
    obtain ⟨-, l', h', -⟩ := hphase
    exact unique h'
  all_goals
    obtain ⟨-, l', h'⟩ := hphase
    exact unique h'

theorem Money.branch {r : LifecycleRecord} (h : Money r) :
    ¬ (HasEvent r .winnerSelectionConfirmed ∧ HasEvent r .noQualifiedBidConfirmed) := by
  rintro ⟨hw, hn⟩
  obtain ⟨-, -, hphase⟩ := h
  cases hs : r.state <;> rw [hs] at hphase
  case draft | escrowFunded | tenderOpened | bidding | auctionClosed => exact hphase.1.1 hw
  case noQualifiedBid => exact hphase.1.2 hw
  case refunded =>
    obtain ⟨-, ⟨haw, -⟩ | ⟨hun, -⟩⟩ := hphase
    · exact haw.2 hn
    · exact hun.2 hw
  case tenderCompleted =>
    rcases hphase with ⟨haw, -⟩ | ⟨hun, -⟩
    · exact haw.2 hn
    · exact hun.2 hw
  all_goals exact hphase.1.2 hn

/-- **Money is conserved.** In every record that a created record reaches by successful events, a locked
amount is the winning amount and what the budget leaves over is the excess; a settled tender released and
refunded exactly the locked amount, or the whole budget where no bid was qualified; a full release is the
whole locked amount and a full refund releases nothing. -/
theorem lifecycle_money_conserved (p : Platform) {ls : List (LifecycleEvent × LifecycleReduceContext p)}
    {r : LifecycleRecord} (h : (lifecycleSystem p).Run ls r) : MoneyConserved r := by
  have hm := money_of_run h
  refine ⟨?_, ?_, hm.branch, ?_, ?_⟩
  · intro l hl
    obtain ⟨hlocks, hdraft⟩ := hm.locks hl
    exact ⟨hlocks.winning, hlocks.addsUp hm.budget, hm.funded hdraft⟩
  · intro hs
    rcases hm.settles hs with ⟨haw, l, hl, hsplit⟩ | ⟨hun, hsplit⟩
    · exact .inl ⟨haw.1, hl.locked ▸ hsplit.addsUp hl.positive⟩
    · exact .inr ⟨hun.1, hsplit.addsUp hm.budget⟩
  · intro hs
    have hphase := hm.phase
    rw [hs] at hphase
    obtain ⟨-, l, hl, hrel, -⟩ := hphase
    exact ⟨l, hl.locked, hrel⟩
  · intro hs
    have hphase := hm.phase
    rw [hs] at hphase
    rw [hphase.1]
    decide

/-! ## A tender from creation to completion -/

namespace Sample

/-- No signature verifies. -/
def platform : Platform := asciiPlatform fun _ _ _ => false

def input : CreateLifecycleInput where
  tenderId := js "T-1"
  tenderVersion := 1
  tenderHash := js "sha256:d2a84f4b8b650937ec8f73cd8be2c74add5a911ba64df27458ed8229da804a26"
  maximumFreightBudgetAtomic := js "5000000"
  auctionEndsAt := js "2026-01-02T00:00:00Z"
  createdAt := js "2026-01-01T00:00:00Z"
  trust :=
    ⟨js "02a1633cafcc01ebfb6d78e39f687a1f0995c62fc95f51ead10a02ee0be551b5dc",
     [⟨js "referee-1", js "03d01115d548e7561b15c38f004d734633687cf4419620095bc5b0f47070afe85a"⟩], js "0.0.9001"⟩

def manifest : JsString := js "sha256:4b227777d4dd1fc61c6f884f48641d02b4d121d3fd328cb08b5531fcacdabf8a"

def paid : AccessPaid where
  accessActionType := .tenderActivate
  asset := js "0.0.429274"
  amountAtomic := js "1000"
  resource := js "/api/v2/tenders/T-1/v/1/activate"
  paymentTransactionId := js "0.0.5001@1767225600.000000001"
  paymentPayloadHash := js "sha256:ef2d127de37b942baad06145e54b0c619a1f22327b2ebbcfbec78f5564afe39d"
  payerAccount := js "0.0.5001"
  payTo := js "0.0.9001"

/-- The carrier delivers, the shipper does not react, and the whole locked amount is released. -/
def events : List LifecycleEvent :=
  [⟨js "a01", js "2026-01-01T01:00:00Z",
     .escrowFundingConfirmed ⟨js "0.0.5001@1767225600.1", js "0.0.429274", js "5000000", js "T-1", 1⟩⟩,
   ⟨js "a02", js "2026-01-01T02:00:00Z", .tenderActivationPaid ⟨paid⟩⟩,
   ⟨js "a03", js "2026-01-01T03:00:00Z", .biddingStarted⟩,
   ⟨js "a04", js "2026-01-02T00:00:00Z",
     .auctionCloseConfirmed ⟨js "2026-01-02T00:00:00Z", js "closure-1", manifest⟩⟩,
   ⟨js "a05", js "2026-01-02T01:00:00Z",
     .winnerSelectionConfirmed
       ⟨manifest, js "bid-1", js "carrier-1", js "0.0.6001", js "4000000", js "LOWEST_QUALIFIED_PRICE_V1"⟩⟩,
   ⟨js "a06", js "2026-01-02T02:00:00Z",
     .winningAmountAllocationConfirmed
       ⟨js "tx-lock", some (js "tx-excess"), js "5000000", js "4000000", js "1000000", manifest⟩⟩,
   ⟨js "a07", js "2026-01-02T03:00:00Z", .routeReservationPublished ⟨js "evidence-1", js "0.0.7001@1"⟩⟩,
   ⟨js "a08", js "2026-01-03T00:00:00Z", .transitStarted⟩,
   ⟨js "a09", js "2026-01-04T00:00:00Z", .deliveryReported⟩,
   ⟨js "a10", js "2026-01-04T01:00:00Z", .podPackageSubmitted ⟨js "pod-1", 1, manifest, manifest⟩⟩,
   ⟨js "a11", js "2026-01-04T02:00:00Z", .podReviewStarted⟩,
   ⟨js "a12", js "2026-01-06T02:00:00Z", .podReviewDeadlineExpired⟩,
   ⟨js "a13", js "2026-01-06T03:00:00Z", .escrowReleaseConfirmed ⟨js "tx-release", js "4000000"⟩⟩,
   ⟨js "a14", js "2026-01-06T04:00:00Z", .tenderCompletionConfirmed⟩]

def labels : List (LifecycleEvent × LifecycleReduceContext platform) := events.map fun event => (event, ⟨none⟩)

def next (r : LifecycleRecord) (l : LifecycleEvent × LifecycleReduceContext platform) : Option LifecycleRecord :=
  (reduceLifecycle platform r l.1 l.2).toOption

/-- The record at creation, and after the given events. -/
def after (ls : List (LifecycleEvent × LifecycleReduceContext platform)) : Option LifecycleRecord :=
  (createLifecycleRecord platform input).toOption.bind (System.execute next ls)

theorem run_of_after {ls : List (LifecycleEvent × LifecycleReduceContext platform)} {r : LifecycleRecord}
    (h : after ls = some r) : (lifecycleSystem platform).Run ls r := by
  obtain ⟨s, hs, hexec⟩ := Option.bind_eq_some_iff.mp h
  refine ⟨s, ⟨input, toOption_eq_some.mp hs⟩, System.Steps.of_execute ?_ hexec⟩
  intro s l t ht
  exact toOption_eq_some.mp ht

end Sample

theorem lifecycle_money_conserved_sample :
    ∃ r, (lifecycleSystem Sample.platform).Run Sample.labels r ∧ r.state = .tenderCompleted ∧
      r.releaseAmountAtomic = some (js "4000000") ∧ MoneyConserved r := by
  have hrun : ∃ r ∈ Sample.after Sample.labels,
      r.state = .tenderCompleted ∧ r.releaseAmountAtomic = some (js "4000000") := by
    decide
  obtain ⟨r, hr, hs, hrel⟩ := hrun
  have h := Sample.run_of_after hr
  exact ⟨r, h, hs, hrel, lifecycle_money_conserved Sample.platform h⟩

end RouteGuard.Lifecycle
