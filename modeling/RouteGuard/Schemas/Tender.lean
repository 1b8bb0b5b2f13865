import RouteGuard.Schemas.Bid

/-!
# Freight tenders

`parseV2FreightTender` fills in the three review windows and accepts the tender, or throws. The freight budget is
authoritative in atomic units; a price in cents is for display and must convert to it exactly.
-/

namespace RouteGuard
open JsString Guarded Access Lifecycle

/-- 48 hours. -/
def DEFAULT_REVIEW_WINDOW_SECONDS : Int := 172800

/-- 24 hours. -/
def DEFAULT_CORRECTION_WINDOW_SECONDS : Int := 86400

/-- 24 hours. -/
def DEFAULT_POST_RESUBMIT_REVIEW_WINDOW_SECONDS : Int := 86400

structure Cargo where
  type : JsString
  weightKg : Int
  pallets : Int
  dangerousGoods : Bool
  deriving DecidableEq, Repr

structure PickupWindow where
  earliest : JsString
  latest : JsString
  deriving DecidableEq, Repr

/-- The fields of a tender; `window` is the type of a review window. -/
structure TenderFields (window : Type) where
  tenderId : JsString
  shipperId : JsString
  origin : JsString
  destination : JsString
  cargo : Cargo
  requiredEquipment : JsString
  pickupWindow : PickupWindow
  deliveryDeadline : JsString
  auctionEndsAt : JsString
  maximumFreightBudgetAtomic : JsString
  freightPriceCentsLegacy : Option Int
  version : Int
  reviewWindowSeconds : window
  correctionWindowSeconds : window
  postResubmitReviewWindowSeconds : window
  /-- Nullable and optional. -/
  escrowContractId : Option JsString
  shipperAccountId : Option JsString
  deriving DecidableEq, Repr

abbrev V2FreightTender := TenderFields Int

/-- What is parsed: a window may be missing. -/
abbrev V2FreightTenderInput := TenderFields (Option Int)

def USDC_ATOMIC_PER_CENT : Nat := 10000

/-- Cents to atomic units, or nothing where it throws. -/
def centsToUsdcAtomic (cents : Int) : Option JsString :=
  if 0 ≤ cents ∧ cents ≤ MAX_SAFE_INTEGER then some (decimal (cents.toNat * USDC_ATOMIC_PER_CENT)) else none

def isBeforeUtc (a b : JsString) : Except JsString Bool := do
  let c ← compareUtc a b
  pure (c < 0)

/-- Both are timestamps, and the comparison fails: what each of the three time rules reports. -/
def outOfOrder (compare : JsString → JsString → Except JsString Bool) (a b : JsString) : Bool :=
  isUtcIsoTimestamp a && isUtcIsoTimestamp b && (compare a b).toOption = some false

namespace TenderFields

/-- The checks of the fields by themselves. -/
def fieldsValid (t : V2FreightTender) : Bool :=
  bounded 128 t.tenderId && bounded 128 t.shipperId && bounded 256 t.origin && bounded 256 t.destination &&
    (bounded 128 t.cargo.type && isSafePositiveInteger t.cargo.weightKg && isSafePositiveInteger t.cargo.pallets) &&
    bounded 128 t.requiredEquipment &&
    (isUtcIsoTimestamp t.pickupWindow.earliest && isUtcIsoTimestamp t.pickupWindow.latest) &&
    isUtcIsoTimestamp t.deliveryDeadline && isUtcIsoTimestamp t.auctionEndsAt &&
    isPositiveAtomicString t.maximumFreightBudgetAtomic && t.freightPriceCentsLegacy.all (0 < ·) &&
    isSafePositiveInteger t.version &&
    (0 < t.reviewWindowSeconds && 0 < t.correctionWindowSeconds && 0 < t.postResubmitReviewWindowSeconds) &&
    t.escrowContractId.all (bounded 64) &&
    t.shipperAccountId.all fun id => bounded 64 id && isValidHederaAccountId id

/-- The checks across fields. -/
def refined (t : V2FreightTender) : Bool :=
  !outOfOrder isBeforeOrEqualUtc t.pickupWindow.earliest t.pickupWindow.latest &&
    !outOfOrder isBeforeOrEqualUtc t.pickupWindow.latest t.deliveryDeadline &&
    !outOfOrder isBeforeUtc t.auctionEndsAt t.pickupWindow.earliest &&
    t.freightPriceCentsLegacy.all fun cents => centsToUsdcAtomic cents = some t.maximumFreightBudgetAtomic

def withDefaults (t : V2FreightTenderInput) : V2FreightTender :=
  { t with
    reviewWindowSeconds := t.reviewWindowSeconds.getD DEFAULT_REVIEW_WINDOW_SECONDS
    correctionWindowSeconds := t.correctionWindowSeconds.getD DEFAULT_CORRECTION_WINDOW_SECONDS
    postResubmitReviewWindowSeconds :=
      t.postResubmitReviewWindowSeconds.getD DEFAULT_POST_RESUBMIT_REVIEW_WINDOW_SECONDS }

end TenderFields

/-- The tender with its defaults, or nothing where the schema throws. -/
def parseV2FreightTender (input : V2FreightTenderInput) : Option V2FreightTender :=
  if input.withDefaults.fieldsValid && input.withDefaults.refined then some input.withDefaults else none

/-- What the escrow takes from a tender: its id, its version and its budget. -/
theorem parseV2FreightTender_escrowed {input : V2FreightTenderInput} {t : V2FreightTender}
    (h : parseV2FreightTender input = some t) :
    bounded 128 t.tenderId ∧ isSafePositiveInteger t.version ∧ isPositiveAtomicString t.maximumFreightBudgetAtomic := by
  unfold parseV2FreightTender at h
  split at h
  next hv =>
    cases h
    simp only [TenderFields.fieldsValid, Bool.and_eq_true] at hv
    obtain ⟨⟨⟨⟨⟨⟨⟨⟨⟨⟨⟨⟨⟨⟨⟨hid, -⟩, -⟩, -⟩, -⟩, -⟩, -⟩, -⟩, -⟩, hbudget⟩, -⟩, hversion⟩, -⟩, -⟩, -⟩, -⟩ := hv
    exact ⟨hid, hversion, hbudget⟩
  next => cases h

end RouteGuard
