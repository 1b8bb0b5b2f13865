import RouteGuard.Escrow.Accepts
import RouteGuard.Escrow.Plans
import RouteGuard.Schemas.Tender

/-!
# Which tenders can be escrowed

The tender schema, the plan builders and the contract each bound ids, versions and amounts in their own way.
`Escrowable` says that an accepted tender passes all of them, from registration to the allocation of a winner;
`escrowable_iff` says exactly which accepted tenders do.
-/

namespace RouteGuard.Escrow
open JsString Guarded Access

/-! ## The property -/

/-- The parties and the hashes of a registration, as texts. -/
structure Registration where
  shipperAddress : JsString
  escrowTokenAddress : JsString
  creationAuthorizationHash : JsString
  manifestHash : Option JsString
  deriving DecidableEq, Repr

structure Registration.Valid (r : Registration) : Prop where
  shipper : IsAddress r.shipperAddress
  token : IsAddress r.escrowTokenAddress
  creation : IsAuthorization r.creationAuthorizationHash
  manifest : ∀ m ∈ r.manifestHash, isBytes32 m

/-- A reachable world where the tender key is unregistered and nothing but the tender can be in the way: the
authorization is unused, the token is the contract's, and the shipper holds the budget. -/
structure Unregistered (d : Deployment) (r : Registration) (tenderKey : Bytes32) (budget : Nat) (w : World) : Prop where
  reachable : ∃ ls, (escrowSystem d).Run ls w
  state : (w.tenders tenderKey).state = .unregistered
  fresh : w.authorizationHashUsed (hashWord r.creationAuthorizationHash) = false
  token : addressWord r.escrowTokenAddress = d.escrowToken
  operator : w.owner ≠ d.self
  shipper : addressWord r.shipperAddress ≠ d.self
  holds : budget ≤ w.ledger (addressWord r.shipperAddress)
  room : w.totalEscrowedAmount + budget < 2 ^ 256

section Escrowable
variable (e : Ethers) (d : Deployment) (B : TokenBoundary d.self) (t : V2FreightTender)

/-- A winner can be allocated in `w`, for every amount up to the budget. -/
def Allocatable (w : World) : Prop :=
  ∀ winner winning manifest authorization : JsString, IsAddress winner → isPositiveAtomicString winning →
    digitsValue winning ≤ digitsValue t.maximumFreightBudgetAtomic → IsAuthorization manifest →
    IsAuthorization authorization →
    ∃ allocation call, buildAllocateWinnerPlan e t.tenderId t.version winner t.maximumFreightBudgetAtomic winning
        manifest authorization = .ok allocation ∧ allocation.plan.call = some call ∧
      (w.authorizationHashUsed (hashWord authorization) = false → ∃ w', exec d B w.owner call w = .ok w')

/-- The plans of the tender can be built, and the contract accepts them. -/
def Escrowable : Prop :=
  ∀ r : Registration, r.Valid →
    ∃ registration funding registerCall fundCall,
      buildRegisterTenderPlan e t.tenderId t.version r.shipperAddress t.maximumFreightBudgetAtomic
        r.escrowTokenAddress r.creationAuthorizationHash r.manifestHash = .ok registration ∧
      registration.call = some registerCall ∧
      buildFundTenderPlan e t.tenderId t.version t.maximumFreightBudgetAtomic = .ok funding ∧
      funding.call = some fundCall ∧
      ∀ w, Unregistered d r registerCall.tenderKey (digitsValue t.maximumFreightBudgetAtomic) w →
        ∃ registered, exec d B w.owner registerCall w = .ok registered ∧
          ∃ funded, exec d B (addressWord r.shipperAddress) fundCall registered = .ok funded ∧
            Allocatable e d B t funded

end Escrowable

/-! ## The tenders that can be escrowed -/

section Sufficient
variable {e : Ethers} {d : Deployment} {B : TokenBoundary d.self} {t : V2FreightTender}

theorem ofInt_ne_zero {v : Int} (h1 : 1 ≤ v) (hmax : v ≤ 0xffffffff) : BitVec.ofInt 32 v ≠ 0 := by
  intro h0
  have hnat := congrArg BitVec.toNat h0
  rw [BitVec.toNat_ofInt] at hnat
  have hmod : v % (2 ^ 32 : Nat) = v := Int.emod_eq_of_lt (by omega) (by norm_num; omega)
  rw [hmod] at hnat
  simp at hnat
  omega

theorem toNat_ofInt_of_uint32 {v : Int} (h1 : 1 ≤ v) (hmax : v ≤ 0xffffffff) :
    (BitVec.ofInt 32 v).toNat = v.toNat := by
  rw [BitVec.toNat_ofInt]
  congr 1
  exact Int.emod_eq_of_lt (by omega) (by norm_num; omega)

/-- The two separators are the same bytes. -/
theorem domainBytes_eq : "ROUTEGUARD_V2_FREIGHT_ESCROW_TENDER_KEY_V1".toByteArray.data.toList.map UInt8.toNat =
    ESCROW_TENDER_KEY_DOMAIN_STRING.map UInt16.toNat := by decide

theorem Ethers.Deploys.domain (hd : e.Deploys d) : d.TENDER_KEY_DOMAIN = tenderKeyDomain e := by
  rw [Deployment.TENDER_KEY_DOMAIN, hd, domainBytes_eq, tenderKeyDomain]

/-- The key that the application derives is the contract's. -/
theorem Ethers.Deploys.tenderKey (hd : e.Deploys d) {v : Int} (h1 : 1 ≤ v) (hmax : v ≤ 0xffffffff)
    (identity : Bytes32) : tenderKeyOf e identity v = d.computeTenderKey identity (BitVec.ofInt 32 v) := by
  rw [Deployment.computeTenderKey, hd.domain, hd, toNat_ofInt_of_uint32 h1 hmax, tenderKeyOf]

theorem digitsValue_ne_zero {value : JsString} (h : isPositiveAtomicString value) : digitsValue value ≠ 0 := by
  simp only [isPositiveAtomicString, Bool.and_eq_true] at h
  exact Nat.pos_iff_ne_zero.mp (digitsValue_pos h.2)

/-- What a registration leaves: a registered tender, and no token moved. -/
theorem registerTender_registered {caller : Address} {k i : Bytes32} {v : BitVec 32} {s : Address} {m : Nat}
    {tok : Address} {c h : Bytes32} {w w' : World} (hex : registerTender d caller k i v s m tok c h w = .ok w') :
    (w'.tenders k).state = .registered ∧ (w'.tenders k).shipper = s ∧ (w'.tenders k).maxBudget = toUint64 m ∧
      w'.totalEscrowedAmount = w.totalEscrowedAmount ∧ w'.ledger = w.ledger := by
  simp only [registerTender, onlyOwner, bind_eq_ok, require_eq_ok, exists_const, nonReentrant_eq_ok,
    consumeAuthorizationHash_eq_ok, pure_eq_ok] at hex
  obtain ⟨-, -, w₁, ⟨-, -, -, -, -, -, -, -, w₂, ⟨-, rfl⟩, rfl⟩, rfl⟩ := hex
  simp [World.setTender, World.emit]

theorem fundTender_funded {caller : Address} {k : Bytes32} {a : Nat} {w w' : World} (hself : caller ≠ d.self)
    (hex : fundTender d B caller k a w = .ok w') :
    w'.tenders k = { w.tenders k with state := .funded, fundedAmount := toUint64 a } := by
  obtain ⟨t', paid, hstep, hc⟩ := fundTender_ok hself hex
  cases hstep with
  | fund _ _ _ =>
    rw [hc.tenders]
    exact Function.update_self _ _ _

/-- What funding leaves of the tender, once it is registered. -/
structure Funded (t : V2FreightTender) (shipper : Address) (tender : TenderEscrow) : Prop where
  state : tender.state = .funded
  shipper : tender.shipper = shipper
  amount : tender.fundedAmount = digitsValue t.maximumFreightBudgetAtomic

theorem Funded.allocatable (hB : B.Honours) {w : World} (hs : Solvent d w) {identity : Bytes32} {shipper : Address}
    (hid : Identified e t.tenderId t.version identity) (hpositive : isPositiveAtomicString t.maximumFreightBudgetAtomic)
    (hbudget : digitsValue t.maximumFreightBudgetAtomic ≤ maxHtsAmount) (hzero : shipper ≠ 0)
    (hf : Funded t shipper (w.tenders (tenderKeyOf e identity t.version))) : Allocatable e d B t w := by
  intro winner winning manifest authorization hwinner hwinning hle hmanifest hauthorization
  obtain ⟨allocation, hbuild, -, hcall⟩ := buildAllocateWinnerPlan_eq_ok hid hwinner hpositive hbudget hwinning hle
    hmanifest hauthorization
  refine ⟨allocation, _, hbuild, hcall, fun hfresh => ?_⟩
  exact (allocateWinner_accepts hs hB rfl hf.state (by rw [hf.shipper]; exact hzero) hwinner.hexValue_eq.2 (digitsValue_ne_zero hwinning)
    (hle.trans hbudget) (by rw [hf.amount]; exact hle) hmanifest.hashWord_ne_zero hauthorization.hashWord_ne_zero
    hfresh).exists_ok

theorem escrowable_of_bounds (hd : e.Deploys d) (hB : B.Honours) {identity : Bytes32}
    (hid : Identified e t.tenderId t.version identity) (hidentity : identity ≠ 0)
    (hpositive : isPositiveAtomicString t.maximumFreightBudgetAtomic)
    (hbudget : digitsValue t.maximumFreightBudgetAtomic ≤ maxHtsAmount) : Escrowable e d B t := by
  intro r hr
  obtain ⟨registration, hregistration, hregister⟩ := buildRegisterTenderPlan_eq_ok hid hr.shipper hpositive hbudget
    hr.token hr.creation hr.manifest
  obtain ⟨funding, hfunding, hfund⟩ := buildFundTenderPlan_eq_ok hid hpositive hbudget
  refine ⟨registration, funding, _, _, hregistration, hregister, hfunding, hfund, fun w hw => ?_⟩
  obtain ⟨ls, hrun⟩ := hw.reachable
  have hs := solvent_of_run hrun
  have hpos := digitsValue_ne_zero hpositive
  obtain ⟨registered, hregistered⟩ := (registerTender_accepts (d := d) (h := hashWord (r.manifestHash.getD ZERO_HASH))
    hs.idle rfl hw.state hr.shipper.hexValue_eq.2 hw.token hidentity hr.creation.hashWord_ne_zero
    (ofInt_ne_zero hid.version.1 hid.version.2) hpos hbudget (hd.tenderKey hid.version.1 hid.version.2 identity)
    hw.fresh).exists_ok
  refine ⟨registered, hregistered, ?_⟩
  have hs' := @Solvent.success d B _ (.registerTender _ _ _ _ _ _ _ _) _ _ hs hw.operator hregistered
  obtain ⟨hstate, hshipper, hmax, htotal, hledger⟩ := registerTender_registered hregistered
  obtain ⟨funded, hfunded⟩ := (fundTender_accepts hB hs'.idle hstate hshipper.symm hr.shipper.hexValue_eq.2 hw.shipper
    (hmax.trans (toUint64_eq hbudget)).symm (by rw [htotal]; exact hw.room) (by rw [hledger]; exact hw.holds)).exists_ok
  refine ⟨funded, hfunded, ?_⟩
  have hs'' := @Solvent.success d B _ (.fundTender _ _) _ _ hs' hw.shipper hfunded
  refine Funded.allocatable hB hs'' hid hpositive hbudget hr.shipper.hexValue_eq.2 ?_
  have htender := fundTender_funded hw.shipper hfunded
  refine ⟨?_, ?_, ?_⟩
  · exact congrArg TenderEscrow.state htender
  · exact (congrArg TenderEscrow.shipper htender).trans hshipper
  · exact (congrArg TenderEscrow.fundedAmount htender).trans (toUint64_eq hbudget)

end Sufficient

/-! ## The tenders that cannot -/

section Necessary
variable {e : Ethers} {d : Deployment} {B : TokenBoundary d.self} {t : V2FreightTender}

/-- The text of an address. -/
def addressText (a : Address) : JsString := js "0x" ++ Keccak.toHex 40 a.toNat

theorem lowerAscii_addressText (a : Address) : lowerAscii (addressText a) = addressText a := by
  have hdigits : (Keccak.toHex 40 a.toNat).map (fun u => if 0x41 ≤ u && u ≤ 0x5A then u + 0x20 else u) =
      Keccak.toHex 40 a.toNat := by
    conv_rhs => rw [← List.map_id (Keccak.toHex 40 a.toNat)]
    refine List.map_congr_left fun u hu => ?_
    have hlower := List.all_eq_true.mp (all_isLowerHex_toHex 40 a.toNat) u hu
    simp only [isLowerHex, Bool.or_eq_true, Bool.and_eq_true, decide_eq_true_eq, UInt16.le_iff_toNat_le,
      UInt16.reduceToNat] at hlower
    refine if_neg fun hu => ?_
    simp only [Bool.and_eq_true, decide_eq_true_eq, UInt16.le_iff_toNat_le, UInt16.reduceToNat] at hu
    omega
  rw [addressText, lowerAscii, List.map_append, hdigits]
  rfl

theorem hexValue_addressText (a : Address) : hexValue 160 (addressText a) = some a := by
  have hlt : a.toNat < 16 ^ 40 := lt_of_lt_of_eq a.isLt (by norm_num)
  have hdrop : (addressText a).drop 2 = Keccak.toHex 40 a.toNat := List.drop_left' (by rfl)
  rw [hexValue, hdrop, Keccak.radixValue_toHex, Nat.mod_eq_of_lt hlt, Option.map_some, BitVec.ofNat_toNat,
    BitVec.setWidth_eq]

theorem addressWord_addressText (a : Address) : addressWord (addressText a) = a := by
  rw [addressWord, lowerAscii_addressText, hexValue_addressText, Option.getD_some]

theorem isAddress_addressText {a : Address} (h : a ≠ 0) : IsAddress (addressText a) := by
  have hlen : (addressText a).length = 42 := by
    rw [addressText, List.length_append, Keccak.length_toHex]
    rfl
  have htake : (addressText a).take 2 = js "0x" := List.take_left' (by rfl)
  have hdrop : (addressText a).drop 2 = Keccak.toHex 40 a.toNat := List.drop_left' (by rfl)
  have hhex : (Keccak.toHex 40 a.toNat).all isHex := by
    rw [List.all_eq_true]
    exact fun u hu => isLowerHex_isHex (List.all_eq_true.mp (all_isLowerHex_toHex 40 a.toNat) u hu)
  constructor
  · rw [isEvmAddress, hlen, htake, hdrop, hhex]
    rfl
  · intro hzero
    rw [lowerAscii_addressText] at hzero
    have hword := hexValue_addressText a
    rw [hzero] at hword
    have hzero' : hexValue 160 ZERO_ADDRESS = some 0 := by decide
    exact h (Option.some.inj (hword.symm.trans hzero'))

theorem isAuthorization_bytes32Text {h : Bytes32} (hne : h ≠ 0) : IsAuthorization (bytes32Text h) := by
  refine ⟨isBytes32_bytes32Text h, fun hzero => ?_⟩
  have hword := hexValue_bytes32Text h
  rw [hzero] at hword
  have hzero' : hexValue 256 ZERO_HASH = some 0 := by decide
  exact hne (Option.some.inj (hword.symm.trans hzero'))

/-- Two accounts, one of which is not the contract. -/
def otherAccount (self : Address) : Address := if self = 1 then 2 else 1

theorem otherAccount_ne (self : Address) : otherAccount self ≠ self ∧ otherAccount self ≠ 0 := by
  unfold otherAccount
  split
  next h =>
    subst h
    decide
  next h => exact ⟨fun h' => h h'.symm, by decide⟩

/-- A registration that the contract has nothing against. -/
def plainRegistration (d : Deployment) : Registration where
  shipperAddress := addressText (otherAccount d.self)
  escrowTokenAddress := addressText d.escrowToken
  creationAuthorizationHash := bytes32Text 1
  manifestHash := none

theorem plainRegistration_valid (htoken : d.escrowToken ≠ 0) : (plainRegistration d).Valid where
  shipper := isAddress_addressText (otherAccount_ne d.self).2
  token := isAddress_addressText htoken
  creation := isAuthorization_bytes32Text (by decide)
  manifest := by
    intro m hm
    cases hm

/-- A fresh deployment where every account holds the budget. -/
theorem unregistered_deployed (k : Bytes32) {budget : Nat} (hbudget : budget ≤ maxHtsAmount) :
    Unregistered d (plainRegistration d) k budget (deployed (otherAccount d.self) fun _ => budget) where
  reachable := ⟨[], System.Run.start ⟨rfl, rfl, rfl, rfl, rfl, rfl⟩⟩
  state := rfl
  fresh := rfl
  token := addressWord_addressText _
  operator := (otherAccount_ne d.self).1
  shipper := by
    rw [plainRegistration, addressWord_addressText]
    exact (otherAccount_ne d.self).1
  holds := le_rfl
  room := by
    show 0 + budget < 2 ^ 256
    have hmax : maxHtsAmount < 2 ^ 64 := maxHtsAmount_lt
    omega

theorem bounds_of_escrowable (htoken : d.escrowToken ≠ 0) (hesc : Escrowable e d B t) :
    ∃ identity, Identified e t.tenderId t.version identity ∧ identity ≠ 0 ∧
      digitsValue t.maximumFreightBudgetAtomic ≤ maxHtsAmount := by
  have hvalid := plainRegistration_valid htoken
  obtain ⟨registration, funding, registerCall, fundCall, hregistration, hregister, hfunding, -, haccepts⟩ :=
    hesc _ hvalid
  have hneeds := hfunding
  simp only [buildFundTenderPlan, bind_eq_ok, escrowTenderKey_eq_ok, assertTenderVersion_eq_ok,
    assertPositiveEscrowAmount, assertEscrowAmount_eq_ok, pure_eq_ok] at hneeds
  obtain ⟨_, ⟨-, rfl⟩, _, ⟨identity, hid, -⟩, _, ⟨hpositive, hbudget, -⟩, -⟩ := hneeds
  refine ⟨identity, hid, ?_, hbudget⟩
  -- the call is the one that the builder returns for this identity
  obtain ⟨p, hp, hcall⟩ := buildRegisterTenderPlan_eq_ok hid hvalid.shipper hpositive hbudget hvalid.token
    hvalid.creation hvalid.manifest
  rw [hregistration, Except.ok.injEq] at hp
  subst hp
  rw [hregister, Option.some.injEq] at hcall
  subst hcall
  obtain ⟨w', hex, -⟩ := haccepts _ (unregistered_deployed _ hbudget)
  simp only [exec, registerTender, onlyOwner, bind_eq_ok, require_eq_ok, exists_const, nonReentrant_eq_ok] at hex
  obtain ⟨-, -, _, ⟨-, -, -, ⟨hidentity, -⟩, -⟩, -⟩ := hex
  exact hidentity

end Necessary

/-! ## The result -/

/-- **Which accepted tenders can be escrowed**: those whose version is a `uint32`, whose budget is within the token's
transfer range, and whose id can be encoded (and does not hash to the zero word, which the contract takes for a missing
hash). -/
theorem escrowable_iff (e : Ethers) (d : Deployment) (B : TokenBoundary d.self) (hd : e.Deploys d) (hB : B.Honours)
    (htoken : d.escrowToken ≠ 0) (input : V2FreightTenderInput) (t : V2FreightTender)
    (ht : parseV2FreightTender input = some t) :
    Escrowable e d B t ↔
      t.version ≤ 0xffffffff ∧ digitsValue t.maximumFreightBudgetAtomic ≤ maxHtsAmount ∧
        ∃ bytes, e.toUtf8Bytes t.tenderId = some bytes ∧ e.keccak256 bytes ≠ 0 := by
  obtain ⟨hlen, hversion, hpositive⟩ := parseV2FreightTender_escrowed ht
  simp only [bounded, isSafePositiveInteger, Bool.and_eq_true, decide_eq_true_eq] at hlen hversion
  constructor
  · intro hesc
    obtain ⟨identity, hid, hidentity, hbudget⟩ := bounds_of_escrowable htoken hesc
    obtain ⟨bytes, hbytes, rfl⟩ := hid.encoded
    exact ⟨hid.version.2, hbudget, bytes, hbytes, hidentity⟩
  · rintro ⟨hmax, hbudget, bytes, hbytes, hidentity⟩
    have hid : Identified e t.tenderId t.version (e.keccak256 bytes) :=
      ⟨⟨by omega, hlen.2⟩, ⟨bytes, hbytes, rfl⟩, hversion.1, hmax⟩
    exact escrowable_of_bounds hd hB hid hidentity hpositive hbudget

/-! ## A sample tender -/

/-- Keccak-256, and the UTF-8 encoding of ASCII texts. -/
def asciiEthers : Ethers where
  keccak256 bytes := BitVec.ofNat 256 (Keccak.keccak256 bytes)
  toUtf8Bytes s := if s.all (· < 0x80) then some (s.map UInt16.toNat) else none

namespace Sample

/-- The contract, where Keccak-256 is computed. -/
def keyedDeployment : Deployment where
  self := 0xE5C20
  escrowToken := 0x0DC
  keccak256 := asciiEthers.keccak256

theorem deploys_keyedDeployment : asciiEthers.Deploys keyedDeployment := rfl

def tender (version : Int) (budget : JsString) : V2FreightTenderInput where
  tenderId := js "tender-1"
  shipperId := js "shipper-1"
  origin := js "Hamburg"
  destination := js "Milan"
  cargo := ⟨js "machinery", 12000, 18, false⟩
  requiredEquipment := js "curtain-sider"
  pickupWindow := ⟨js "2026-08-02T08:00:00Z", js "2026-08-02T12:00:00Z"⟩
  deliveryDeadline := js "2026-08-04T18:00:00Z"
  auctionEndsAt := js "2026-08-01T12:00:00Z"
  maximumFreightBudgetAtomic := budget
  freightPriceCentsLegacy := none
  version := version
  reviewWindowSeconds := none
  correctionWindowSeconds := none
  postResubmitReviewWindowSeconds := none
  escrowContractId := none
  shipperAccountId := some (js "0.0.500")

end Sample

theorem escrowable_iff_sample :
    Escrowable asciiEthers Sample.keyedDeployment (mockLedger Sample.keyedDeployment 0 none)
      (Sample.tender 1 (js "1000000")).withDefaults := by
  have hparse : parseV2FreightTender (Sample.tender 1 (js "1000000")) =
      some (Sample.tender 1 (js "1000000")).withDefaults := by decide
  refine (escrowable_iff _ _ _ Sample.deploys_keyedDeployment (honours_mockLedger _ _) (by decide) _ _ hparse).mpr
    ⟨by decide, by decide, (js "tender-1").map UInt16.toNat, by decide, ?_⟩
  decide +kernel

/-- A version beyond `uint32` and a budget beyond the transfer range are accepted, and cannot be escrowed. -/
theorem accepted_not_escrowable :
    (parseV2FreightTender (Sample.tender 4294967296 (js "1000000")) =
        some (Sample.tender 4294967296 (js "1000000")).withDefaults ∧
      ¬ Escrowable asciiEthers Sample.keyedDeployment (mockLedger Sample.keyedDeployment 0 none)
        (Sample.tender 4294967296 (js "1000000")).withDefaults) ∧
    (parseV2FreightTender (Sample.tender 1 (js "9223372036854775808")) =
        some (Sample.tender 1 (js "9223372036854775808")).withDefaults ∧
      ¬ Escrowable asciiEthers Sample.keyedDeployment (mockLedger Sample.keyedDeployment 0 none)
        (Sample.tender 1 (js "9223372036854775808")).withDefaults) := by
  refine ⟨⟨by decide, fun hesc => ?_⟩, ⟨by decide, fun hesc => ?_⟩⟩
  · obtain ⟨identity, hid, -, -⟩ := bounds_of_escrowable (by decide) hesc
    exact absurd hid.version.2 (by decide)
  · obtain ⟨identity, -, -, hbudget⟩ := bounds_of_escrowable (by decide) hesc
    exact absurd hbudget (by decide)

end RouteGuard.Escrow
