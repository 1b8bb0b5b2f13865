import RouteGuard.Auth.Verify
import RouteGuard.Domain.PaymentOption

/-!
# Registered referees and the resolutions they sign

The registry of a policy and the check of a resolution each refuse automated referees, by two filters of their own.

* `createTrustPolicy` : a policy from configuration;
* `createTrustPolicy_referee` : what it makes sure of for each referee;
* `registered_referee_acts_iff` : which registered referees can act.
-/

namespace RouteGuard.Trust
open JsString Guarded Auth

/-- What `createTrustPolicy` is given. -/
structure TrustPolicyInput where
  shipperPublicKey : JsString
  referees : List TrustedRefereeEntry
  accessTreasuryAccountId : JsString
  deriving DecidableEq, Repr

def TrustedRefereeEntry.trimmed (r : TrustedRefereeEntry) : TrustedRefereeEntry := ⟨trim r.refereeId, trim r.publicKey⟩

section Create
variable (p : Platform)

/-- The checks of a referee, its id and key trimmed, after the referees before it. -/
def checkReferee (earlier : List TrustedRefereeEntry) (r : TrustedRefereeEntry) : Except JsString Unit := do
  require (r.refereeId ≠ [] ∧ 32 ≤ r.publicKey.length) (js "each referee requires refereeId and publicKey")
  assertHumanRefereeIdentity p r.refereeId
  require (r.refereeId ∉ earlier.map TrustedRefereeEntry.refereeId) (js "duplicate refereeId: " ++ r.refereeId)

def createTrustPolicy (input : TrustPolicyInput) : Except JsString TrustPolicy := do
  let shipperPublicKey := trim input.shipperPublicKey
  require (32 ≤ shipperPublicKey.length) (js "shipperPublicKey is required and must be a valid key encoding")
  require (isValidHederaAccountId input.accessTreasuryAccountId)
    (js "accessTreasuryAccountId must be a valid Hedera account id")
  require (1 ≤ input.referees.length) (js "at least one trusted referee is required")
  let referees := input.referees.map TrustedRefereeEntry.trimmed
  eachAfter (checkReferee p) [] referees
  pure ⟨shipperPublicKey, referees, trim input.accessTreasuryAccountId⟩

end Create

section Registered
variable {p : Platform} {input : TrustPolicyInput} {policy : TrustPolicy}

/-! ## The registry -/

theorem createTrustPolicy_referees (h : createTrustPolicy p input = .ok policy) :
    policy.referees = input.referees.map TrustedRefereeEntry.trimmed ∧
      ∀ before r after, policy.referees = before ++ r :: after → checkReferee p before r = .ok () := by
  simp only [createTrustPolicy, bind_eq_ok, require_eq_ok, exists_const, pure_eq_ok] at h
  obtain ⟨-, -, -, _, heach, rfl⟩ := h
  refine ⟨rfl, fun before r after heq => ?_⟩
  have hcheck := eachAfter_eq_ok.mp heach before r after heq
  rwa [List.nil_append] at hcheck

/-- A registered referee has an id of its own without white space around it, which the registry takes for a human one. -/
theorem createTrustPolicy_referee (h : createTrustPolicy p input = .ok policy) {r : TrustedRefereeEntry}
    (hr : r ∈ policy.referees) :
    r.refereeId ≠ [] ∧ trim r.refereeId = r.refereeId ∧ assertHumanRefereeIdentity p r.refereeId = .ok () ∧
      policy.referees.find? (fun other => other.refereeId = r.refereeId) = some r := by
  obtain ⟨htrimmed, hchecks⟩ := createTrustPolicy_referees h
  obtain ⟨before, after, hsplit⟩ := List.append_of_mem hr
  have hcheck := hchecks before r after hsplit
  simp only [checkReferee, bind_eq_ok, require_eq_ok, exists_const] at hcheck
  obtain ⟨hne, _, hhuman, hnew⟩ := hcheck
  refine ⟨hne.1, ?_, hhuman, ?_⟩
  · rw [htrimmed] at hr
    obtain ⟨r, -, rfl⟩ := List.mem_map.mp hr
    exact trim_trim r.refereeId
  · rw [hsplit, List.find?_append, List.find?_cons_of_pos (by simp), Option.or_eq_right_of_none]
    refine List.find?_eq_none.mpr fun other hother => ?_
    rw [decide_eq_true_eq]
    exact fun heq => hnew (heq ▸ List.mem_map_of_mem hother)

/-- The registered id is found again. -/
theorem resolveTrustedReferee_registered (h : createTrustPolicy p input = .ok policy) {r : TrustedRefereeEntry}
    (hr : r ∈ policy.referees) : resolveTrustedReferee p policy r.refereeId = .ok r := by
  obtain ⟨hne, htrim, hhuman, hfind⟩ := createTrustPolicy_referee h hr
  have hrequire : require (r.refereeId ≠ []) (js "refereeId is required") = .ok () := require_eq_ok.mpr hne
  simp only [resolveTrustedReferee, htrim, hrequire, hhuman, hfind]
  rfl

/-! ## Who can act -/

/-- A resolution signed with the key of a registered referee, under the registered id, is verified exactly when the id
does not begin with one of the words of the second filter. -/
theorem registered_referee_acts_iff (h : createTrustPolicy p input = .ok policy) {r : TrustedRefereeEntry}
    (hr : r ∈ policy.referees) {payload : RefereeResolutionSignPayload} {signature : JsString} {key : Option JsString}
    (hid : payload.refereeId = r.refereeId) (hkey : ∀ k ∈ key, trim k = r.publicKey)
    (hsigned : verifyCanonicalPayload p payload.toJson signature r.publicKey = true) :
    (∃ auth, verifyRefereeResolution p policy payload signature key = .ok auth) ↔
      startsLikeAutomation r.refereeId = false := by
  have hresolve := resolveTrustedReferee_registered h hr
  have hne : signature ≠ [] := by
    rintro rfl
    simp [verifyCanonicalPayload, isSignatureHex] at hsigned
  simp only [verifyRefereeResolution, bind_eq_ok, require_eq_ok, exists_const, pure_eq_ok, mapError_eq_ok, hid, hresolve,
    Except.ok.injEq]
  constructor
  · rintro ⟨_, hfilter, -⟩
    simpa using (not_or.mp hfilter).1
  · intro hfilter
    refine ⟨_, ?_, r, rfl, hkey, hne, hsigned, rfl⟩
    rintro (hauto | hai)
    · rw [hfilter] at hauto
      cases hauto
    · rw [hai] at hfilter
      revert hfilter
      decide

end Registered

/-! ## A referee named Aida -/

namespace Aida

/-- Every signature of the right form is taken for one of the key. -/
def platform : Platform := asciiPlatform fun _ _ _ => true

def registry : TrustPolicyInput where
  shipperPublicKey := List.replicate 66 0x61
  referees := [⟨js " Aida Modelson", List.replicate 66 0x62⟩, ⟨js "Lloyd Human", List.replicate 66 0x63⟩]
  accessTreasuryAccountId := js "0.0.9"

def policy : TrustPolicy where
  shipperPublicKey := List.replicate 66 0x61
  referees := [⟨js "Aida Modelson", List.replicate 66 0x62⟩, ⟨js "Lloyd Human", List.replicate 66 0x63⟩]
  accessTreasuryAccountId := js "0.0.9"

def resolutionBy (refereeId : JsString) : RefereeResolutionSignPayload where
  tenderId := js "t"
  tenderVersion := 1
  podId := js "p"
  disputeId := js "d"
  resolution := .releaseFull
  releaseAmountAtomic := js "5"
  refundAmountAtomic := js "0"
  rationaleCode := js "DELIVERED"
  refereeId := refereeId
  signedAt := js "2026-01-02T00:00:00Z"
  actionId := js "a"

def signature : JsString := List.replicate 128 0x61

theorem created : createTrustPolicy platform registry = .ok policy := by decide

end Aida

theorem registered_referee_acts_iff_lloyd :
    ∃ auth, verifyRefereeResolution Aida.platform Aida.policy (Aida.resolutionBy (js "Lloyd Human"))
      Aida.signature none = .ok auth := by
  have hsigned : verifyCanonicalPayload Aida.platform (Aida.resolutionBy (js "Lloyd Human")).toJson
      Aida.signature (List.replicate 66 0x63) = true := by decide +kernel
  have hmem : (⟨js "Lloyd Human", List.replicate 66 0x63⟩ : TrustedRefereeEntry) ∈ Aida.policy.referees :=
    List.mem_cons_of_mem _ List.mem_cons_self
  exact (registered_referee_acts_iff Aida.created hmem rfl (by simp) hsigned).mpr (by decide)

/-- A referee that the registry takes is refused although its signature is valid. -/
theorem registered_referee_refused :
    createTrustPolicy Aida.platform Aida.registry = .ok Aida.policy ∧
      ⟨js "Aida Modelson", List.replicate 66 0x62⟩ ∈ Aida.policy.referees ∧
      verifyCanonicalPayload Aida.platform (Aida.resolutionBy (js "Aida Modelson")).toJson Aida.signature
        (List.replicate 66 0x62) = true ∧
      verifyRefereeResolution Aida.platform Aida.policy (Aida.resolutionBy (js "Aida Modelson"))
        Aida.signature none = .error ⟨js "AI_REFEREE", js "AI/model identities cannot be referees"⟩ := by
  refine ⟨Aida.created, List.mem_cons_self, by decide +kernel, by decide⟩

end RouteGuard.Trust
