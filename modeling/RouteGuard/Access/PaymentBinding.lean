import RouteGuard.Access.ExecuteClaim
import RouteGuard.Access.Resource
import RouteGuard.Lib.Separated
import RouteGuard.Lib.UriComponent

/-!
# What a payment is bound to

The gate accepts a payment for a binding when its terms are the configured ones and the resource it
declares is that of the binding.

* `ProtectedAction` : an activation or a bid submission, by the arguments of its resource builder;
* `resource_injective` : no two protected actions have one resource;
* `payment_binds_one_action` : so no payment passes for two of them.
-/

namespace RouteGuard.Access
open JsString Guarded Separated Uri

/-! ## The gate's check -/

/-- The terms a payment declares. -/
structure AcceptedTerms where
  scheme : JsString
  network : JsString
  asset : JsString
  amount : JsString
  payTo : JsString
  deriving DecidableEq, Repr

/-- `resource` is `payload.resource?.url`. -/
structure PaymentPayload where
  accepted : AcceptedTerms
  resource : Option JsString
  deriving DecidableEq, Repr

/-- An `AccessPaymentError` with its message. -/
structure AccessPaymentError where
  code : AccessPaymentErrorCode
  message : JsString
  deriving DecidableEq, Repr

/-- `config.scheme`. -/
def SCHEME : JsString := js "exact"

/-- `config.network`. -/
def NETWORK : JsString := js "hedera:testnet"

def assertBinding (config : AccessConfig) (payload : PaymentPayload) (binding : AccessActionBinding) :
    Except AccessPaymentError Unit := do
  let accepted := payload.accepted
  require (accepted.scheme = SCHEME) ⟨.paymentSchemeMismatch, js "payment scheme must be " ++ SCHEME⟩
  require (accepted.network = NETWORK) ⟨.paymentNetworkMismatch, js "payment network must be " ++ NETWORK⟩
  require (accepted.asset = config.asset)
    ⟨.paymentAssetMismatch, js "payment asset is not the configured access token"⟩
  require (accepted.amount = config.amountAtomic)
    ⟨.paymentAmountMismatch, js "payment amount is not the exact access fee"⟩
  require (accepted.payTo = config.accessTreasuryAccountId)
    ⟨.paymentRecipientMismatch, js "payment recipient is not the configured access treasury"⟩
  require (∃ url ∈ payload.resource, url ≠ [])
    ⟨.paymentResourceMismatch, js "payment payload must declare the protected resource it pays for"⟩
  require (payload.resource = some binding.resource)
    ⟨.paymentResourceMismatch, js "payment was issued for a different protected resource"⟩

theorem resource_of_assertBinding {config : AccessConfig} {payload : PaymentPayload} {binding : AccessActionBinding}
    (h : assertBinding config payload binding = .ok ()) : payload.resource = some binding.resource := by
  simp only [assertBinding, check_eq_ok, require_eq_ok] at h
  exact h.2.2.2.2.2.2

/-! ## The paths -/

/-- A protected action, by the arguments its resource is built from. -/
inductive ProtectedAction where
  | tenderActivate (tenderId : JsString) (tenderVersion : Int)
  | bidSubmit (tenderId : JsString) (tenderVersion : Int) (bidId : JsString)
  deriving DecidableEq, Repr

namespace ProtectedAction

def resource : ProtectedAction → Except JsString JsString
  | .tenderActivate tenderId tenderVersion => tenderActivateResource tenderId tenderVersion
  | .bidSubmit tenderId tenderVersion bidId => bidSubmitResource tenderId tenderVersion bidId

def tenderId : ProtectedAction → JsString
  | .tenderActivate tenderId _ => tenderId
  | .bidSubmit tenderId _ _ => tenderId

def tenderVersion : ProtectedAction → Int
  | .tenderActivate _ tenderVersion => tenderVersion
  | .bidSubmit _ tenderVersion _ => tenderVersion

/-- What follows the slash after the version. -/
def Ending : ProtectedAction → JsString → Prop
  | .tenderActivate .., ending => ending = js "activate"
  | .bidSubmit _ _ bidId, ending => ∃ bid, encodeURIComponent bidId = some bid ∧ ending = js "bids/" ++ bid

end ProtectedAction

/-- A path of a tender version. -/
def versionPath (tender : JsString) (tenderVersion : Int) (ending : JsString) : JsString :=
  js "/api/v2/tenders/" ++ (tender ++ 0x2F :: (js "v/" ++ (decimalInt tenderVersion ++ 0x2F :: ending)))

theorem encoded_eq_ok {s t : JsString} : encoded s = .ok t ↔ encodeURIComponent s = some t := by
  unfold encoded
  split <;> simp_all

theorem resource_spec {a : ProtectedAction} {r : JsString} (h : a.resource = .ok r) :
    1 ≤ a.tenderVersion ∧ ∃ tender ending, encodeURIComponent a.tenderId = some tender ∧ a.Ending ending ∧
      r = versionPath tender a.tenderVersion ending := by
  cases a with
  | tenderActivate tenderId tenderVersion =>
    simp only [ProtectedAction.resource, tenderActivateResource, assertVersion, bind_eq_ok, require_eq_ok, encoded_eq_ok,
      pure_eq_ok] at h
    obtain ⟨_, _, _, hversion, tender, htender, rfl⟩ := h
    refine ⟨hversion.1, tender, js "activate", htender, rfl, ?_⟩
    simp [versionPath, ProtectedAction.tenderVersion, js_eq, encodeChar, encodePoint]
  | bidSubmit tenderId tenderVersion bidId =>
    simp only [ProtectedAction.resource, bidSubmitResource, assertVersion, bind_eq_ok, require_eq_ok, encoded_eq_ok,
      pure_eq_ok] at h
    obtain ⟨_, _, _, _, _, hversion, tender, htender, bid, hbid, rfl⟩ := h
    refine ⟨hversion.1, tender, js "bids/" ++ bid, htender, ⟨bid, hbid, rfl⟩, ?_⟩
    simp [versionPath, ProtectedAction.tenderVersion, js_eq, encodeChar, encodePoint]

/-- The segments of a path are found again between its slashes. -/
theorem versionPath_injective {tender tender' ending ending' : JsString} {version version' : Int} (ht : 0x2F ∉ tender)
    (ht' : 0x2F ∉ tender') (h : versionPath tender version ending = versionPath tender' version' ending') :
    tender = tender' ∧ version = version' ∧ ending = ending' := by
  have hdigit : isDigit 0x2F = false := by decide
  have hrest := List.append_cancel_left h
  obtain ⟨htender, hrest⟩ := (append_cons_inj ht ht').mp hrest
  have hrest := List.append_cancel_left hrest
  obtain ⟨hversion, hending⟩ := (append_cons_inj (not_mem_decimalInt hdigit (by decide))
    (not_mem_decimalInt hdigit (by decide))).mp hrest
  exact ⟨htender, decimalInt_inj hversion, hending⟩

theorem ending_injective {a b : ProtectedAction} {ending : JsString} (ht : a.tenderId = b.tenderId)
    (hv : a.tenderVersion = b.tenderVersion) (ha : a.Ending ending) (hb : b.Ending ending) : a = b := by
  have hne (bid : JsString) : js "activate" ≠ js "bids/" ++ bid := by simp [js_eq, encodeChar, encodePoint]
  cases a with
  | tenderActivate tenderId version =>
    cases b with
    | tenderActivate tenderId' version' => rw [show tenderId = tenderId' from ht, show version = version' from hv]
    | bidSubmit tenderId' version' bidId' =>
      obtain ⟨bid, _, hbid⟩ := hb
      exact absurd (ha.symm.trans hbid) (hne bid)
  | bidSubmit tenderId version bidId =>
    obtain ⟨bid, hencoded, hbid⟩ := ha
    cases b with
    | tenderActivate tenderId' version' => exact absurd (hb.symm.trans hbid) (hne bid)
    | bidSubmit tenderId' version' bidId' =>
      obtain ⟨bid', hencoded', hbid'⟩ := hb
      have hsame : bid = bid' := List.append_cancel_left (hbid.symm.trans hbid')
      rw [show tenderId = tenderId' from ht, show version = version' from hv,
        encodeURIComponent_injective hencoded (hsame ▸ hencoded')]

/-- Equal resources are those of equal arguments, and of one kind of action. -/
theorem resource_injective {a b : ProtectedAction} {r : JsString} (ha : a.resource = .ok r) (hb : b.resource = .ok r) :
    a = b := by
  obtain ⟨-, tender, ending, htender, hending, hr⟩ := resource_spec ha
  obtain ⟨-, tender', ending', htender', hending', hr'⟩ := resource_spec hb
  obtain ⟨rfl, hversion, rfl⟩ := versionPath_injective (slash_notMem_encodeURIComponent htender)
    (slash_notMem_encodeURIComponent htender') (hr.symm.trans hr')
  exact ending_injective (encodeURIComponent_injective htender htender') hversion hending hending'

/-- Two bindings with the resources of protected actions: the resources are equal only for one action, and
one payment is accepted for both only when it is one action. -/
theorem payment_binds_one_action (config : AccessConfig) (payload : PaymentPayload) {first second : AccessActionBinding}
    {a b : ProtectedAction} (ha : a.resource = .ok first.resource) (hb : b.resource = .ok second.resource) :
    (first.resource = second.resource → a = b) ∧
      (assertBinding config payload first = .ok () → assertBinding config payload second = .ok () → a = b) := by
  refine ⟨fun hr => resource_injective ha (hr ▸ hb), fun hfirst hsecond => ?_⟩
  have hresource := (resource_of_assertBinding hfirst).symm.trans (resource_of_assertBinding hsecond)
  rw [Option.some.injEq] at hresource
  exact resource_injective ha (hresource ▸ hb)

/-- An identifier that spells a part of the path. -/
theorem payment_binds_one_action_spelled :
    assertBinding ⟨js "0.0.9", js "0.0.1", js "1000"⟩
        ⟨⟨js "exact", js "hedera:testnet", js "0.0.1", js "1000", js "0.0.9"⟩, some (js "/api/v2/tenders/v/v/1/bids/a%20b")⟩
        ⟨.bidSubmit, js "v", 1, some (js "a b"), js "/api/v2/tenders/v/v/1/bids/a%20b"⟩ = .ok () ∧
      ProtectedAction.bidSubmit (js "v") 1 (js "a b") = .bidSubmit (js "v") 1 (js "a b") := by
  have hpaid : assertBinding ⟨js "0.0.9", js "0.0.1", js "1000"⟩
      ⟨⟨js "exact", js "hedera:testnet", js "0.0.1", js "1000", js "0.0.9"⟩, some (js "/api/v2/tenders/v/v/1/bids/a%20b")⟩
      ⟨.bidSubmit, js "v", 1, some (js "a b"), js "/api/v2/tenders/v/v/1/bids/a%20b"⟩ = .ok () := by decide
  have hresource : (ProtectedAction.bidSubmit (js "v") 1 (js "a b")).resource = .ok (js "/api/v2/tenders/v/v/1/bids/a%20b") := by
    decide
  exact ⟨hpaid, (payment_binds_one_action _ _ hresource hresource).2 hpaid hpaid⟩

end RouteGuard.Access
