import RouteGuard.Auth.Canonical
import RouteGuard.Trust.Policy

/-!
# Verification and sealed authorizations

An authorization is the result of a signature check. The program marks the objects it returns in a private
set, so that a look-alike object is recognised and refused.

* `verifyShipperPodReview`, `verifyRefereeResolution`, `verifyCarrierBid`, `verifyCarrierPodSubmission` : the
  checks;
* `SealedAuth` : an authorization that one of them returned;
* `AuthObject` : any object of the type, sealed or not.
-/

namespace RouteGuard.Auth
open JsString Guarded Trust

structure VerifiedShipperReviewAuth where
  actionId : JsString
  reviewAction : ShipperReviewActionKind
  payloadHash : JsString
  trustedKeyFingerprint : JsString
  signPayload : ShipperPodReviewSignPayload
  deriving DecidableEq, Repr

structure VerifiedRefereeResolutionAuth where
  actionId : JsString
  refereeId : JsString
  payloadHash : JsString
  trustedKeyFingerprint : JsString
  signPayload : RefereeResolutionSignPayload
  resolution : RefereeResolution
  releaseAmountAtomic : JsString
  refundAmountAtomic : JsString
  disputeId : JsString
  podId : JsString
  deriving DecidableEq, Repr

structure VerifiedCarrierBidAuth where
  actionId : JsString
  bidId : JsString
  carrierId : JsString
  carrierAccountId : JsString
  bidHash : JsString
  payloadHash : JsString
  trustedKeyFingerprint : JsString
  signPayload : CarrierBidSignPayload
  deriving DecidableEq, Repr

structure VerifiedCarrierPodAuth where
  actionId : JsString
  podId : JsString
  podVersion : Int
  payloadHash : JsString
  trustedKeyFingerprint : JsString
  signPayload : CarrierPodSubmissionSignPayload
  deriving DecidableEq, Repr

/-- The union by `kind`. -/
inductive VerifiedAuth where
  | shipperPodReview (auth : VerifiedShipperReviewAuth)
  | refereeResolution (auth : VerifiedRefereeResolutionAuth)
  | carrierBid (auth : VerifiedCarrierBidAuth)
  | carrierPodSubmission (auth : VerifiedCarrierPodAuth)
  deriving DecidableEq, Repr

structure AuthorizationError where
  code : JsString
  message : JsString
  deriving DecidableEq, Repr

/-- The signed payload of a review; the reason codes are signed in sorted order. -/
def buildShipperPodReviewSignPayload (input : ShipperPodReviewSignPayload) : ShipperPodReviewSignPayload :=
  { input with reasonCodes := input.reasonCodes.insertionSort (· ≤ ·) }

def verifyShipperPodReview (p : Platform) (policy : TrustPolicy) (input : ShipperPodReviewSignPayload)
    (signature : JsString) : Except AuthorizationError VerifiedShipperReviewAuth := do
  require (signature ≠ []) ⟨js "MISSING_SIGNATURE", js "shipper signature required"⟩
  let signPayload := buildShipperPodReviewSignPayload input
  require (verifyCanonicalPayload p signPayload.toJson signature policy.shipperPublicKey)
    ⟨js "SHIPPER_SIGNATURE_INVALID", js "shipper signature verification failed"⟩
  pure
    { actionId := input.actionId
      reviewAction := input.reviewAction
      payloadHash := canonicalSha256 p.sha256Hex signPayload.toJson
      trustedKeyFingerprint := publicKeyFingerprint p policy.shipperPublicKey
      signPayload }

def asciiLower (u : UInt16) : UInt16 := if 0x41 ≤ u && u ≤ 0x5A then u + 0x20 else u

/-- `/^(ai|model|gpt|llm|assistant|bot)/i`. -/
def startsLikeAutomation (s : JsString) : Bool :=
  [js "ai", js "model", js "gpt", js "llm", js "assistant", js "bot"].any fun word =>
    word.isPrefixOf (s.map asciiLower)

def verifyRefereeResolution (p : Platform) (policy : TrustPolicy) (input : RefereeResolutionSignPayload)
    (signature : JsString) (eventPublicKey : Option JsString) :
    Except AuthorizationError VerifiedRefereeResolutionAuth := do
  require (¬ (startsLikeAutomation input.refereeId ∨ input.refereeId = js "AI"))
    ⟨js "AI_REFEREE", js "AI/model identities cannot be referees"⟩
  let trusted ← (resolveTrustedReferee p policy input.refereeId).mapError fun message =>
    AuthorizationError.mk (js "REFEREE_NOT_TRUSTED") message
  require (∀ key ∈ eventPublicKey, trim key = trusted.publicKey)
    ⟨js "REFEREE_KEY_MISMATCH", js "event public key does not match trusted registry key"⟩
  require (signature ≠ []) ⟨js "MISSING_SIGNATURE", js "referee signature required"⟩
  require (verifyCanonicalPayload p input.toJson signature trusted.publicKey)
    ⟨js "REFEREE_SIGNATURE_INVALID", js "referee signature verification failed"⟩
  pure
    { actionId := input.actionId
      refereeId := input.refereeId
      payloadHash := canonicalSha256 p.sha256Hex input.toJson
      trustedKeyFingerprint := publicKeyFingerprint p trusted.publicKey
      signPayload := input
      resolution := input.resolution
      releaseAmountAtomic := input.releaseAmountAtomic
      refundAmountAtomic := input.refundAmountAtomic
      disputeId := input.disputeId
      podId := input.podId }

def verifyCarrierBid (p : Platform) (registeredPublicKey : JsString) (input : CarrierBidSignPayload)
    (signature : JsString) : Except AuthorizationError VerifiedCarrierBidAuth := do
  require (signature ≠ []) ⟨js "MISSING_SIGNATURE", js "carrier bid signature required"⟩
  require (registeredPublicKey ≠ []) ⟨js "CARRIER_NOT_REGISTERED", js "carrier has no registered signing key"⟩
  require (verifyCanonicalPayload p input.toJson signature registeredPublicKey)
    ⟨js "CARRIER_SIGNATURE_INVALID", js "carrier bid signature verification failed"⟩
  pure
    { actionId := input.actionId
      bidId := input.bidId
      carrierId := input.carrierId
      carrierAccountId := input.carrierAccountId
      bidHash := input.bidHash
      payloadHash := canonicalSha256 p.sha256Hex input.toJson
      trustedKeyFingerprint := publicKeyFingerprint p registeredPublicKey
      signPayload := input }

def verifyCarrierPodSubmission (p : Platform) (registeredPublicKey : JsString)
    (input : CarrierPodSubmissionSignPayload) (signature : JsString) :
    Except AuthorizationError VerifiedCarrierPodAuth := do
  require (signature ≠ []) ⟨js "MISSING_SIGNATURE", js "carrier POD signature required"⟩
  require (registeredPublicKey ≠ []) ⟨js "CARRIER_NOT_REGISTERED", js "carrier has no registered signing key"⟩
  require (verifyCanonicalPayload p input.toJson signature registeredPublicKey)
    ⟨js "POD_SIGNATURE_INVALID", js "carrier POD signature verification failed"⟩
  pure
    { actionId := input.actionId
      podId := input.podId
      podVersion := input.podVersion
      payloadHash := canonicalSha256 p.sha256Hex input.toJson
      trustedKeyFingerprint := publicKeyFingerprint p registeredPublicKey
      signPayload := input }

/-! ## Sealed authorizations -/

/-- One of the checks returned the authorization. -/
inductive Verified (p : Platform) : VerifiedAuth → Prop
  | shipperPodReview {policy input signature auth} (h : verifyShipperPodReview p policy input signature = .ok auth) :
      Verified p (.shipperPodReview auth)
  | refereeResolution {policy input signature key auth}
      (h : verifyRefereeResolution p policy input signature key = .ok auth) : Verified p (.refereeResolution auth)
  | carrierBid {key input signature auth} (h : verifyCarrierBid p key input signature = .ok auth) :
      Verified p (.carrierBid auth)
  | carrierPodSubmission {key input signature auth}
      (h : verifyCarrierPodSubmission p key input signature = .ok auth) : Verified p (.carrierPodSubmission auth)

/-- A member of the private set `sealedAuth`. -/
structure SealedAuth (p : Platform) where
  auth : VerifiedAuth
  verified : Verified p auth

/-- An object of the type `VerifiedAuth`: sealed, or built by somebody else. -/
inductive AuthObject (p : Platform) where
  | sealed (s : SealedAuth p)
  | plain (auth : VerifiedAuth)

/-- A check followed by `seal`. -/
def sealing {p : Platform} {α : Type} (wrap : α → VerifiedAuth) (x : Except AuthorizationError α)
    (hx : ∀ a, x = .ok a → Verified p (wrap a)) : Except AuthorizationError (SealedAuth p) :=
  match x, hx with
  | .ok a, hx => .ok ⟨wrap a, hx a rfl⟩
  | .error e, _ => .error e

theorem sealing_eq_ok {p : Platform} {α : Type} {wrap : α → VerifiedAuth} {x : Except AuthorizationError α}
    {hx : ∀ a, x = .ok a → Verified p (wrap a)} {s : SealedAuth p} (h : sealing wrap x hx = .ok s) :
    ∃ a, x = .ok a ∧ s.auth = wrap a := by
  cases x with
  | ok a =>
    cases h
    exact ⟨a, rfl, rfl⟩
  | error e => cases h

/-- A verified review: the signature of its payload verifies under the shipper key of the policy. -/
theorem verifyShipperPodReview_ok {p : Platform} {policy : TrustPolicy} {input : ShipperPodReviewSignPayload}
    {signature : JsString} {auth : VerifiedShipperReviewAuth}
    (h : verifyShipperPodReview p policy input signature = .ok auth) :
    verifyCanonicalPayload p (buildShipperPodReviewSignPayload input).toJson signature policy.shipperPublicKey ∧
      auth = ⟨input.actionId, input.reviewAction,
        canonicalSha256 p.sha256Hex (buildShipperPodReviewSignPayload input).toJson,
        publicKeyFingerprint p policy.shipperPublicKey, buildShipperPodReviewSignPayload input⟩ := by
  simp only [verifyShipperPodReview, bind_eq_ok, require_eq_ok, exists_const, pure_eq_ok] at h
  exact ⟨h.2.1, h.2.2.symm⟩

/-- A verified resolution: the signature of its payload verifies under the registered key of the referee. -/
theorem verifyRefereeResolution_ok {p : Platform} {policy : TrustPolicy} {input : RefereeResolutionSignPayload}
    {signature : JsString} {key : Option JsString} {auth : VerifiedRefereeResolutionAuth}
    (h : verifyRefereeResolution p policy input signature key = .ok auth) :
    ∃ referee ∈ policy.referees, referee.refereeId = trim input.refereeId ∧
      verifyCanonicalPayload p input.toJson signature referee.publicKey ∧
      auth = ⟨input.actionId, input.refereeId, canonicalSha256 p.sha256Hex input.toJson,
        publicKeyFingerprint p referee.publicKey, input, input.resolution, input.releaseAmountAtomic,
        input.refundAmountAtomic, input.disputeId, input.podId⟩ := by
  simp only [verifyRefereeResolution, bind_eq_ok, require_eq_ok, exists_const, pure_eq_ok, mapError_eq_ok] at h
  obtain ⟨-, referee, hr, -, -, hv, rfl⟩ := h
  obtain ⟨hmem, hid⟩ := resolveTrustedReferee_ok hr
  exact ⟨referee, hmem, hid, hv, rfl⟩

theorem verifyCarrierBid_ok {p : Platform} {key : JsString} {input : CarrierBidSignPayload}
    {signature : JsString} {auth : VerifiedCarrierBidAuth}
    (h : verifyCarrierBid p key input signature = .ok auth) :
    verifyCanonicalPayload p input.toJson signature key ∧
      auth = ⟨input.actionId, input.bidId, input.carrierId, input.carrierAccountId, input.bidHash,
        canonicalSha256 p.sha256Hex input.toJson, publicKeyFingerprint p key, input⟩ := by
  simp only [verifyCarrierBid, bind_eq_ok, require_eq_ok, exists_const, pure_eq_ok] at h
  exact ⟨h.2.2.1, h.2.2.2.symm⟩

end RouteGuard.Auth
