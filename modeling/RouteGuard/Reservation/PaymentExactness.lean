import RouteGuard.Reservation.TransactionIds

/-!
# What an accepted payment moved

* `assetEntries` : the entries of the selected asset, in the list it is moved in;
* `SingleEntry`, `total` : one entry of an amount, and what entries add up to;
* `ExactPayment` : the payer paid and the carrier received the fee, and nothing else was moved;
* `verifyTransfers_eq_ok_iff` : the verification accepts exactly this;
* `verifyMirrorPayment_exact` : its sums, and that order and third parties' HBAR entries do not matter.
-/

namespace RouteGuard.Reservation
open JsString Guarded

/-! ## Entries -/

/-- HBAR moves in the one list without a token, USDC in the other under its id. -/
def assetEntries (selected : SelectedPaymentOption) (confirmation : MirrorConfirmation) : List MirrorTransfer :=
  match selected.optionId with
  | .hbar => confirmation.hbarTransfers.filter fun t => !hasToken t
  | .usdc => confirmation.tokenTransfers.filter fun t => t.tokenId = some USDC_TESTNET_ASSET

/-- The entries of an account in the selected asset. -/
def accountEntries (selected : SelectedPaymentOption) (confirmation : MirrorConfirmation) (account : JsString) :
    List MirrorTransfer :=
  (assetEntries selected confirmation).filter fun t => t.account = account

/-- What entries add up to. -/
def total (entries : List MirrorTransfer) : Int := (entries.map fun t => (bigInt t.amount).getD 0).sum

/-- One entry, of one amount. -/
def SingleEntry (entries : List MirrorTransfer) (amount : Int) : Prop :=
  ∃ leg, entries = [leg] ∧ bigInt leg.amount = some amount

theorem SingleEntry.total {entries : List MirrorTransfer} {amount : Int} (h : SingleEntry entries amount) :
    total entries = amount := by
  obtain ⟨leg, rfl, hleg⟩ := h
  simp [Reservation.total, hleg]

theorem SingleEntry.perm {entries entries' : List MirrorTransfer} {amount : Int} (h : SingleEntry entries amount)
    (hperm : entries'.Perm entries) : SingleEntry entries' amount := by
  obtain ⟨leg, rfl, hleg⟩ := h
  exact ⟨leg, List.perm_singleton.mp hperm, hleg⟩

/-! ## The payment -/

/-- The asset and the fee of an option. -/
def feeOf : ReservationOptionId → JsString × JsString × Int
  | .hbar => (HBAR_ASSET, HBAR_RESERVATION_OPTION.amountAtomic, 1000000)
  | .usdc => (USDC_TESTNET_ASSET, USDC_RESERVATION_OPTION.amountAtomic, 10000)

/-- A token that is not the selected asset. Beside USDC, an entry without a token id is no movement of a token. -/
def OtherToken (selected : SelectedPaymentOption) (t : MirrorTransfer) : Prop :=
  match selected.optionId with
  | .hbar => True
  | .usdc => hasToken t ∧ t.tokenId ≠ some USDC_TESTNET_ASSET

/-- One entry from the payer and one to the carrier, and no other movement. -/
structure ExactPayment (selected : SelectedPaymentOption) (confirmation : MirrorConfirmation) (amount : Int) : Prop where
  paid : SingleEntry (accountEntries selected confirmation selected.payerAccount) (-amount)
  received : SingleEntry (accountEntries selected confirmation selected.payTo) amount
  others : ∀ t ∈ confirmation.tokenTransfers, isParty selected t → OtherToken selected t → bigInt t.amount = some 0
  thirdParties : selected.optionId = .usdc → ∀ t ∈ confirmation.tokenTransfers,
    t.tokenId = some USDC_TESTNET_ASSET → ¬ isParty selected t → bigInt t.amount = some 0

theorem amountOf_eq_ok {amount : JsString} {n : Int} : amountOf amount = .ok n ↔ bigInt amount = some n := by
  unfold amountOf
  cases bigInt amount <;> simp

theorem assertLeg_eq_ok {asset side text : String} {legs : List MirrorTransfer} {expected : Int} {u : Unit} :
    assertLeg asset side text legs expected = .ok u ↔ SingleEntry legs expected := by
  unfold assertLeg SingleEntry
  split
  · next leg =>
    simp [bind_eq_ok, amountOf_eq_ok]
  · next hne =>
    constructor
    · intro h
      cases h
    · rintro ⟨leg, rfl, -⟩
      exact absurd rfl (hne leg)

section Transfers
variable {selected : SelectedPaymentOption} {confirmation : MirrorConfirmation}

theorem accountEntries_hbar (h : selected.optionId = .hbar) (account : JsString) :
    accountEntries selected confirmation account = hbarEntries confirmation.hbarTransfers account := by
  rw [accountEntries, assetEntries, h, hbarEntries]
  exact List.filter_filter

theorem accountEntries_usdc (h : selected.optionId = .usdc) (account : JsString) :
    accountEntries selected confirmation account =
      tokenEntries confirmation.tokenTransfers account USDC_TESTNET_ASSET := by
  rw [accountEntries, assetEntries, h, tokenEntries]
  exact List.filter_filter

/-- A party's entry passes the filter of the HBAR branch where its amount is zero. -/
theorem partyToken_eq_ok {t : MirrorTransfer} :
    (if isParty selected t && t.amount ≠ js "0" then do
      let amount ← amountOf t.amount
      pure (amount ≠ 0 : Bool)
    else pure false) = .ok false ↔ (isParty selected t → bigInt t.amount = some 0) := by
  by_cases hparty : isParty selected t
  · by_cases hzero : t.amount = js "0"
    · have hvalue : bigInt (js "0") = some 0 := by decide
      simp [hzero, hvalue, pure_eq_ok]
    · simp [hparty, hzero, map_eq_ok, amountOf_eq_ok]
  · simp [hparty, pure_eq_ok]

theorem verifyHbar_eq_ok_iff (h : selected.optionId = .hbar) :
    verifyHbar selected confirmation = .ok () ↔
      (selected.asset = HBAR_ASSET ∧ selected.amountAtomic = HBAR_RESERVATION_OPTION.amountAtomic) ∧
        ExactPayment selected confirmation 1000000 := by
  simp only [verifyHbar, bind_eq_ok, require_eq_ok, assertLeg_eq_ok, exists_const, exists_eq_right, and_assoc,
    and_congr_right_iff]
  intro _ _
  rw [← accountEntries_hbar h, ← accountEntries_hbar h]
  constructor
  · rintro ⟨hpaid, hreceived, hkept⟩
    rw [filterM_eq_nil] at hkept
    refine ⟨hpaid, hreceived, fun t ht hparty _ => partyToken_eq_ok.mp (hkept t ht) hparty, fun husdc => ?_⟩
    rw [h] at husdc
    cases husdc
  · intro hexact
    refine ⟨hexact.paid, hexact.received, filterM_eq_nil.mpr fun t ht => ?_⟩
    refine partyToken_eq_ok.mpr fun hparty => hexact.others t ht hparty ?_
    rw [OtherToken, h]
    trivial

theorem verifyUsdc_eq_ok_iff (h : selected.optionId = .usdc) :
    verifyUsdc selected confirmation = .ok () ↔
      (selected.asset = USDC_TESTNET_ASSET ∧ selected.amountAtomic = USDC_RESERVATION_OPTION.amountAtomic) ∧
        ExactPayment selected confirmation 10000 := by
  have hother (t : MirrorTransfer) : OtherToken selected t ↔ hasToken t ∧ t.tokenId ≠ some USDC_TESTNET_ASSET := by
    rw [OtherToken, h]
  simp only [verifyUsdc, bind_eq_ok, require_eq_ok, assertLeg_eq_ok, each_eq_ok, provided_eq_ok, amountOf_eq_ok,
    exists_const, exists_eq_right, and_assoc, and_congr_right_iff]
  intro _ _
  rw [← accountEntries_usdc h, ← accountEntries_usdc h]
  constructor
  · rintro ⟨hothers, hpaid, hreceived, hthird⟩
    exact ⟨hpaid, hreceived, fun t ht hparty htoken => hothers t ht ⟨hparty, (hother t).mp htoken⟩,
      fun _ t ht htoken hparty => hthird t ht ⟨htoken, hparty⟩⟩
  · intro hexact
    exact ⟨fun t ht hc => hexact.others t ht hc.1 ((hother t).mpr hc.2), hexact.paid, hexact.received,
      fun t ht hc => hexact.thirdParties h t ht hc.1 hc.2⟩

/-- The verification of the transfers accepts the fixed fee of the option, exactly paid. -/
theorem verifyTransfers_eq_ok_iff :
    verifyTransfers selected confirmation = .ok () ↔
      (selected.asset = (feeOf selected.optionId).1 ∧ selected.amountAtomic = (feeOf selected.optionId).2.1) ∧
        ExactPayment selected confirmation (feeOf selected.optionId).2.2 := by
  unfold verifyTransfers
  cases h : selected.optionId with
  | hbar => exact verifyHbar_eq_ok_iff h
  | usdc => exact verifyUsdc_eq_ok_iff h

/-- The entries of a party in another order, beside more entries of third parties. -/
theorem accountEntries_reorder {hbarTransfers tokenTransfers fees : List MirrorTransfer} {account : JsString}
    (haccount : account = selected.payerAccount ∨ account = selected.payTo) (hfees : ∀ t ∈ fees, ¬ isParty selected t)
    (hhbar : hbarTransfers.Perm (confirmation.hbarTransfers ++ fees))
    (htoken : tokenTransfers.Perm confirmation.tokenTransfers) :
    (accountEntries selected { confirmation with hbarTransfers, tokenTransfers } account).Perm
      (accountEntries selected confirmation account) := by
  have hnone : (fees.filter fun t => !hasToken t).filter (fun t => t.account = account) = [] := by
    refine List.filter_eq_nil_iff.mpr fun t ht heq => hfees t (List.mem_of_mem_filter ht) ?_
    rw [decide_eq_true_eq] at heq
    simpa [isParty, heq] using haccount
  unfold accountEntries assetEntries
  cases selected.optionId with
  | hbar =>
    have := (hhbar.filter fun t => !hasToken t).filter fun t => t.account = account
    rwa [List.filter_append, List.filter_append, hnone, List.append_nil] at this
  | usdc => exact (htoken.filter _).filter _

theorem exactPayment_reorder (amount : Int) {hbarTransfers tokenTransfers fees : List MirrorTransfer}
    (hfees : ∀ t ∈ fees, ¬ isParty selected t) (hhbar : hbarTransfers.Perm (confirmation.hbarTransfers ++ fees))
    (htoken : tokenTransfers.Perm confirmation.tokenTransfers) :
    ExactPayment selected { confirmation with hbarTransfers, tokenTransfers } amount ↔
      ExactPayment selected confirmation amount := by
  have hpayer := accountEntries_reorder (.inl rfl) hfees hhbar htoken
  have hcarrier := accountEntries_reorder (.inr rfl) hfees hhbar htoken
  constructor
  · intro h
    exact ⟨h.paid.perm hpayer.symm, h.received.perm hcarrier.symm, fun t ht => h.others t (htoken.mem_iff.mpr ht),
      fun husdc t ht => h.thirdParties husdc t (htoken.mem_iff.mpr ht)⟩
  · intro h
    exact ⟨h.paid.perm hpayer, h.received.perm hcarrier, fun t ht => h.others t (htoken.mem_iff.mp ht),
      fun husdc t ht => h.thirdParties husdc t (htoken.mem_iff.mp ht)⟩

/-! ## The whole verification -/

/-- What is asked of a confirmation before its transfers. -/
structure Reports (selected : SelectedPaymentOption) (confirmation : MirrorConfirmation) (id : JsString) : Prop where
  status : confirmation.status = .success
  result : truthy confirmation.result → confirmation.result = some (js "SUCCESS")
  present : confirmation.transactionId ≠ [] ∧ id ≠ []
  same : confirmation.transactionId = id
  consensus : ∃ t, consensusOf confirmation "Consensus timestamp required" = .ok t
  parties : selected.payerAccount ≠ selected.payTo

theorem verifyMirrorPayment_accepts_iff {id : JsString} :
    (∃ v, verifyMirrorPayment selected confirmation id = .ok v) ↔
      Reports selected confirmation id ∧ verifyTransfers selected confirmation = .ok () := by
  simp only [verifyMirrorPayment, bind_eq_ok, require_eq_ok, exists_const, pure_eq_ok]
  constructor
  · rintro ⟨v, hstatus, hresult, hpresent, hsame, t, ht, hparties, u, htransfers, -⟩
    exact ⟨⟨hstatus, hresult, hpresent, hsame, ⟨t, ht⟩, hparties⟩, htransfers⟩
  · rintro ⟨h, htransfers⟩
    obtain ⟨t, ht⟩ := h.consensus
    exact ⟨_, h.status, h.result, h.present, h.same, t, ht, h.parties, (), htransfers, rfl⟩

theorem bigInt_feeOf (option : ReservationOptionId) : bigInt (feeOf option).2.1 = some (feeOf option).2.2 := by
  cases option <;> decide

end Transfers

/-- An accepted payment moved exactly the amount of the option from the payer to the carrier, each in one entry, and
nothing else; the order of the entries does not matter, nor do HBAR entries of third parties. -/
theorem verifyMirrorPayment_exact (selected : SelectedPaymentOption) (confirmation : MirrorConfirmation) (id : JsString) :
    ((∃ v, verifyMirrorPayment selected confirmation id = .ok v) →
      ∃ amount, bigInt selected.amountAtomic = some amount ∧ ExactPayment selected confirmation amount ∧
        total (accountEntries selected confirmation selected.payerAccount) = -amount ∧
        total (accountEntries selected confirmation selected.payTo) = amount) ∧
    ∀ hbarTransfers tokenTransfers fees : List MirrorTransfer, (∀ t ∈ fees, ¬ isParty selected t ∧ ¬ hasToken t) →
      hbarTransfers.Perm (confirmation.hbarTransfers ++ fees) → tokenTransfers.Perm confirmation.tokenTransfers →
      ((∃ v, verifyMirrorPayment selected confirmation id = .ok v) ↔
        ∃ v, verifyMirrorPayment selected { confirmation with hbarTransfers, tokenTransfers } id = .ok v) := by
  refine ⟨fun haccepted => ?_, fun hbarTransfers tokenTransfers fees hfees hhbar htoken => ?_⟩
  · obtain ⟨-, htransfers⟩ := verifyMirrorPayment_accepts_iff.mp haccepted
    obtain ⟨⟨-, hamount⟩, hexact⟩ := verifyTransfers_eq_ok_iff.mp htransfers
    exact ⟨_, hamount ▸ bigInt_feeOf _, hexact, hexact.paid.total, hexact.received.total⟩
  · have hexact := exactPayment_reorder (feeOf selected.optionId).2.2 (fun t ht => (hfees t ht).1) hhbar htoken
    rw [verifyMirrorPayment_accepts_iff, verifyMirrorPayment_accepts_iff, verifyTransfers_eq_ok_iff,
      verifyTransfers_eq_ok_iff, hexact]
    refine and_congr_left fun _ => ?_
    exact ⟨fun h => ⟨h.status, h.result, h.present, h.same, h.consensus, h.parties⟩,
      fun h => ⟨h.status, h.result, h.present, h.same, h.consensus, h.parties⟩⟩

/-- The plain payment of one HBAR, also with its entries the other way round and a node's fee between them. -/
theorem verifyMirrorPayment_exact_plain :
    let id := js "0.0.1@1700000000.5"
    let fee : MirrorTransfer := ⟨js "0.0.3", js "42", none⟩
    let reordered := [⟨js "0.0.2", js "1000000", none⟩, fee, ⟨js "0.0.1", js "-1000000", none⟩]
    (∃ v, verifyMirrorPayment plainPayment (plainConfirmation id) id = .ok v) ∧
      (∃ amount, bigInt plainPayment.amountAtomic = some amount ∧
        total (accountEntries plainPayment (plainConfirmation id) plainPayment.payerAccount) = -amount) ∧
      ∃ v, verifyMirrorPayment plainPayment
        { plainConfirmation id with hbarTransfers := reordered, tokenTransfers := [] } id = .ok v := by
  intro id fee reordered
  have haccepted : ∃ v, verifyMirrorPayment plainPayment (plainConfirmation id) id = .ok v :=
    ⟨verifiedResult plainPayment (plainConfirmation id) id (js "2026-07-15T12:00:00Z"), by decide⟩
  obtain ⟨hexact, horder⟩ := verifyMirrorPayment_exact plainPayment (plainConfirmation id) id
  obtain ⟨amount, hamount, -, hpaid, -⟩ := hexact haccepted
  exact ⟨haccepted, ⟨amount, hamount, hpaid⟩,
    (horder reordered [] [fee] (by decide) (by decide) (List.Perm.refl _)).mp haccepted⟩

/-- Each list is read for its own kind of asset: a token entry in the HBAR list moves five units of another token for the
payer, and a token entry without a token id moves five for the payer beside a USDC payment. Both are accepted. -/
theorem misplaced_entries_are_not_read :
    let id := js "0.0.1@1700000000.5"
    let inHbarList : MirrorTransfer := ⟨js "0.0.1", js "-5", some (js "0.0.9")⟩
    let withoutToken : MirrorTransfer := ⟨js "0.0.1", js "-5", none⟩
    let usdcPayment := { plainPayment with
      optionId := .usdc
      asset := USDC_TESTNET_ASSET
      amountAtomic := USDC_RESERVATION_OPTION.amountAtomic }
    let hbarConfirmation := { plainConfirmation id with
      hbarTransfers := inHbarList :: (plainConfirmation id).hbarTransfers }
    let usdcConfirmation := { plainConfirmation id with
      tokenTransfers := [⟨js "0.0.1", js "-10000", some USDC_TESTNET_ASSET⟩,
        ⟨js "0.0.2", js "10000", some USDC_TESTNET_ASSET⟩, withoutToken] }
    (inHbarList.account = plainPayment.payerAccount ∧ hasToken inHbarList ∧ bigInt inHbarList.amount = some (-5) ∧
      (verifyMirrorPayment plainPayment hbarConfirmation id).toOption.isSome) ∧
    (withoutToken.account = usdcPayment.payerAccount ∧ bigInt withoutToken.amount = some (-5) ∧
      (verifyMirrorPayment usdcPayment usdcConfirmation id).toOption.isSome) := by
  decide

end RouteGuard.Reservation
