import RouteGuard.Domain.Signature
import RouteGuard.Lib.Guarded

/-!
# Trust policies

The keys and the referee registry come from configuration and are snapshotted on the record when a
tender is created; events never supply them.
-/

namespace RouteGuard.Trust
open JsString Guarded

structure TrustedRefereeEntry where
  refereeId : JsString
  publicKey : JsString
  deriving DecidableEq, Repr

structure TrustPolicy where
  shipperPublicKey : JsString
  referees : List TrustedRefereeEntry
  accessTreasuryAccountId : JsString
  deriving DecidableEq, Repr

structure TrustPolicySnapshot extends TrustPolicy where
  shipperKeyFingerprint : JsString
  deriving DecidableEq, Repr

def TRUST_POLICY_SCHEMA : JsString := js "routeguard-v2-trust-1.0"

def SIGNATURE_ALGORITHM_HIERO_ECDSA : JsString := js "ECDSA_SECP256K1_HIERO"

def TrustedRefereeEntry.toJson (r : TrustedRefereeEntry) : Json :=
  .obj [(js "refereeId", .str r.refereeId), (js "publicKey", .str r.publicKey)]

def TrustPolicySnapshot.toJson (t : TrustPolicySnapshot) : Json :=
  .obj
    [(js "schemaVersion", .str TRUST_POLICY_SCHEMA), (js "shipperPublicKey", .str t.shipperPublicKey),
     (js "shipperKeyFingerprint", .str t.shipperKeyFingerprint),
     (js "referees", .arr (t.referees.map TrustedRefereeEntry.toJson)),
     (js "accessTreasuryAccountId", .str t.accessTreasuryAccountId),
     (js "signatureAlgorithm", .str SIGNATURE_ALGORITHM_HIERO_ECDSA)]

def publicKeyFingerprint (p : Platform) (publicKeyHex : JsString) : JsString :=
  p.sha256Hex (p.toLowerCase (trim publicKeyHex))

def snapshotTrustPolicy (p : Platform) (policy : TrustPolicy) : TrustPolicySnapshot :=
  { policy with shipperKeyFingerprint := publicKeyFingerprint p policy.shipperPublicKey }

/-! ## Human referees -/

def RESERVED_AUTOMATION_REFEREE_IDS : List JsString :=
  [js "ai", js "model", js "llm", js "bot", js "ai-referee", js "model-referee", js "llm-referee", js "bot-referee",
   js "automated-referee", js "automation-agent", js "routeguard-ai"]

/-- Every run of units in the class becomes one hyphen. -/
def collapse (c : UInt16 → Bool) : (inRun : Bool) → JsString → JsString
  | _, [] => []
  | inRun, u :: rest =>
    if c u then if inRun then collapse c true rest else 0x2D :: collapse c true rest
    else u :: collapse c false rest

def normalizedRefereeIdentity (p : Platform) (refereeId : JsString) : JsString :=
  collapse (· = 0x2D) false
    (collapse (fun u => isWhitespace u || u = 0x5F) false (p.toLowerCase (trim refereeId)))

/-- `/^(ai|model|llm|bot|gpt|assistant)-(referee|agent|model)(?:-[0-9]+)?$/`. -/
def explicitAutomationPattern (s : JsString) : Bool :=
  [js "ai", js "model", js "llm", js "bot", js "gpt", js "assistant"].any fun subject =>
    [js "referee", js "agent", js "model"].any fun role =>
      let head := subject ++ js "-" ++ role
      s = head || ((head ++ js "-").isPrefixOf s && s.drop (head.length + 1) ≠ [] &&
        (s.drop (head.length + 1)).all isDigit)

def assertHumanRefereeIdentity (p : Platform) (refereeId : JsString) : Except JsString Unit :=
  let normalized := normalizedRefereeIdentity p refereeId
  require (¬ (normalized ∈ RESERVED_AUTOMATION_REFEREE_IDS ∨ explicitAutomationPattern normalized))
    (js "AI/model/automation identities cannot be referees")

/-- The registered referee with the trimmed id. -/
def resolveTrustedReferee (p : Platform) (policy : TrustPolicy) (refereeId : JsString) :
    Except JsString TrustedRefereeEntry := do
  let id := trim refereeId
  require (id ≠ []) (js "refereeId is required")
  assertHumanRefereeIdentity p id
  match policy.referees.find? fun r => r.refereeId = id with
  | some found => pure found
  | none => .error (js "refereeId not in trusted registry: " ++ id)

theorem resolveTrustedReferee_ok {p : Platform} {policy : TrustPolicy} {refereeId : JsString}
    {found : TrustedRefereeEntry} (h : resolveTrustedReferee p policy refereeId = .ok found) :
    found ∈ policy.referees ∧ found.refereeId = trim refereeId := by
  simp only [resolveTrustedReferee, bind_eq_ok] at h
  obtain ⟨-, -, -, -, h⟩ := h
  split at h
  · next r hr =>
    cases h
    exact ⟨List.mem_of_find?_eq_some hr, by simpa using List.find?_some hr⟩
  · cases h

end RouteGuard.Trust
