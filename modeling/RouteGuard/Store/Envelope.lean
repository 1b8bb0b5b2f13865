import RouteGuard.Store.Accepted

/-!
# The persisted envelope

What the filesystem store writes for one tender: the record, the trust snapshot and the action index once
more, and the hashes that tie them together.

* `LifecycleRecord.toJson` : the record as the integrity hash sees it;
* `buildPersistedLifecycleEnvelope`, `assertValidPersistedLifecycleEnvelope` : writing and reading back;
* `assertValidPersistedLifecycleEnvelope_build` : what is written reads back as it is.
-/

namespace RouteGuard.Lifecycle
open JsString Json Trust

/-! ## The record as JSON -/

/-- A nullable string field. -/
def optField (name : String) (value : Option JsString) : JsString × Json := (js name, ofOption .str value)

def LifecycleTransitionRecord.toJson (h : LifecycleTransitionRecord) : Json :=
  .obj
    ([strField "from" h.source.text, strField "to" h.target.text, strField "eventType" h.eventType.text,
      strField "actionId" h.actionId, strField "at" h.at_] ++ (h.reason.map (strField "reason")).toList)

def ProcessedActionRecord.fields (a : ProcessedActionRecord) : List (JsString × Json) :=
  [strField "actionId" a.actionId, strField "eventType" a.eventType.text,
   strField "eventPayloadHash" a.eventPayloadHash, strField "resultingState" a.resultingState.text,
   (js "recordVersionAfter", .num a.recordVersionAfter), strField "at" a.at_]

def LifecycleAccessReceipt.toJson (r : LifecycleAccessReceipt) : Json :=
  .obj
    [strField "accessActionType" (AccessActionType.text .tenderActivate), strField "asset" r.asset,
     strField "amountAtomic" r.amountAtomic, strField "resource" r.resource, strField "payTo" r.payTo,
     strField "payerAccount" r.payerAccount, strField "paymentTransactionId" r.paymentTransactionId,
     strField "paymentPayloadHash" r.paymentPayloadHash, strField "paidAt" r.paidAt]

def LifecycleAccessPayment.toJson (payment : LifecycleAccessPayment) : Json :=
  .obj
    [strField "accessActionType" payment.accessActionType.text, strField "actionId" payment.actionId,
     optField "bidId" payment.bidId, strField "asset" payment.asset,
     strField "amountAtomic" payment.amountAtomic, strField "resource" payment.resource,
     strField "payTo" payment.payTo, strField "payerAccount" payment.payerAccount,
     strField "paymentTransactionId" payment.paymentTransactionId,
     strField "paymentPayloadHash" payment.paymentPayloadHash, strField "settledAt" payment.settledAt]

def LifecycleBidEntry.toJson (bid : LifecycleBidEntry) : Json :=
  .obj
    [strField "bidId" bid.bidId, strField "carrierId" bid.carrierId,
     strField "carrierAccountId" bid.carrierAccountId, strField "bidHash" bid.bidHash,
     strField "signedBidEnvelopeHash" bid.signedBidEnvelopeHash,
     strField "commitmentPayloadHash" bid.commitmentPayloadHash,
     strField "carrierKeyFingerprint" bid.carrierKeyFingerprint,
     strField "bidAuthPayloadHash" bid.bidAuthPayloadHash, strField "accessPaymentTxId" bid.accessPaymentTxId,
     strField "actionId" bid.actionId, strField "acceptedAt" bid.acceptedAt]

def TenderBinding.fields (b : TenderBinding) : List (JsString × Json) :=
  [strField "tenderId" b.tenderId, (js "tenderVersion", .num b.tenderVersion), strField "tenderHash" b.tenderHash,
   strField "maximumFreightBudgetAtomic" b.maximumFreightBudgetAtomic, strField "auctionEndsAt" b.auctionEndsAt,
   strField "createdAt" b.createdAt, (js "trust", b.trust.toJson)]

def Progress.fields (g : Progress) : List (JsString × Json) :=
  [strField "state" g.state.text, (js "recordVersion", .num g.recordVersion), strField "updatedAt" g.updatedAt,
   optField "lastActionId" g.lastActionId,
   (js "history", .arr (g.history.map LifecycleTransitionRecord.toJson)),
   (js "processedActions", .obj (g.processedActions.entries.map fun e => (e.1, .obj e.2.fields)))]

def FundingFields.fields (f : FundingFields) : List (JsString × Json) :=
  [optField "fundingTxId" f.fundingTxId, optField "fundedAmountAtomic" f.fundedAmountAtomic,
   optField "activationPaymentTxId" f.activationPaymentTxId,
   (js "accessReceipt", ofOption LifecycleAccessReceipt.toJson f.accessReceipt),
   (js "accessPayments", .arr (f.accessPayments.map LifecycleAccessPayment.toJson)),
   (js "bidRegistry", .arr (f.bidRegistry.map LifecycleBidEntry.toJson))]

def AuctionFields.fields (a : AuctionFields) : List (JsString × Json) :=
  [optField "closureProofRef" a.closureProofRef, optField "authoritativeBidSetHash" a.authoritativeBidSetHash,
   optField "decisionManifestHash" a.decisionManifestHash, optField "winningBidId" a.winningBidId,
   optField "winningCarrierId" a.winningCarrierId, optField "winningCarrierAccount" a.winningCarrierAccount,
   optField "winningAmountAtomic" a.winningAmountAtomic, optField "lockedAmountAtomic" a.lockedAmountAtomic,
   optField "excessRefundAtomic" a.excessRefundAtomic, optField "allocateTxId" a.allocateTxId,
   optField "refundExcessTxId" a.refundExcessTxId, optField "reservationEvidenceRef" a.reservationEvidenceRef]

def PodFields.fields (d : PodFields) : List (JsString × Json) :=
  [optField "podId" d.podId, (js "podVersion", ofOption .num d.podVersion),
   optField "podContentHash" d.podContentHash, optField "podCiphertextHash" d.podCiphertextHash,
   optField "reviewStartedAt" d.reviewStartedAt, optField "reviewDeadlineAt" d.reviewDeadlineAt,
   optField "correctionDeadlineAt" d.correctionDeadlineAt,
   (js "shipperActionTaken", .bool d.shipperActionTaken), optField "advisoryReportHash" d.advisoryReportHash,
   optField "disputeId" d.disputeId, optField "lastShipperAuthPayloadHash" d.lastShipperAuthPayloadHash,
   optField "lastShipperKeyFingerprint" d.lastShipperKeyFingerprint]

def SettlementFields.fields (x : SettlementFields) : List (JsString × Json) :=
  [optField "refereeResolution" x.refereeResolution, optField "releaseAmountAtomic" x.releaseAmountAtomic,
   optField "refundAmountAtomic" x.refundAmountAtomic, optField "resolutionPayloadHash" x.resolutionPayloadHash,
   optField "refereeId" x.refereeId, optField "refereeKeyFingerprint" x.refereeKeyFingerprint,
   optField "releaseTxId" x.releaseTxId, optField "refundTxId" x.refundTxId]

def LIFECYCLE_RECORD_SCHEMA : JsString := js "routeguard-lifecycle-1.0"

def LifecycleRecord.toJson (r : LifecycleRecord) : Json :=
  .obj (strField "schemaVersion" LIFECYCLE_RECORD_SCHEMA :: r.toTenderBinding.fields ++ r.toProgress.fields ++
    r.toFundingFields.fields ++ r.toAuctionFields.fields ++ r.toPodFields.fields ++ r.toSettlementFields.fields)

end RouteGuard.Lifecycle

namespace RouteGuard.Store
open JsString Json Guarded Trust Lifecycle

/-! ## Envelopes -/

/-- A processed action, once more at the level of the envelope. -/
structure PersistedActionEntry extends ProcessedActionRecord where
  tenderId : JsString
  tenderVersion : Int
  deriving DecidableEq

/-- The envelope; its schema, its version and the hash algorithm are constants. -/
structure PersistedLifecycleEnvelope where
  tenderId : JsString
  tenderVersion : Int
  recordVersion : Int
  createdAt : JsString
  updatedAt : JsString
  record : LifecycleRecord
  trustPolicy : TrustPolicySnapshot
  actions : List PersistedActionEntry
  recordHash : JsString
  actionsHash : JsString
  deriving DecidableEq

def PersistedActionEntry.toJson (a : PersistedActionEntry) : Json :=
  .obj (strField "tenderId" a.tenderId :: (js "tenderVersion", .num a.tenderVersion) ::
    a.toProcessedActionRecord.fields)

/-- The processed actions in the order of their keys. -/
def actionEntriesFromRecord (r : LifecycleRecord) : List PersistedActionEntry :=
  (r.processedActions.keys.insertionSort (· ≤ ·)).filterMap fun actionId =>
    (r.processedActions.lookup actionId).map fun a => ⟨a, r.tenderId, r.tenderVersion⟩

def actionsHash (p : Platform) (r : LifecycleRecord) : JsString :=
  canonicalSha256 p.sha256Hex (.arr ((actionEntriesFromRecord r).map PersistedActionEntry.toJson))

def buildPersistedLifecycleEnvelope (p : Platform) (r : LifecycleRecord) : PersistedLifecycleEnvelope where
  tenderId := r.tenderId
  tenderVersion := r.tenderVersion
  recordVersion := r.recordVersion
  createdAt := r.createdAt
  updatedAt := r.updatedAt
  record := r
  trustPolicy := r.trust
  actions := actionEntriesFromRecord r
  recordHash := canonicalSha256 p.sha256Hex r.toJson
  actionsHash := actionsHash p r

section Read
variable (p : Platform) (t : JsString)

/-- An entry of the action index against the record. -/
def validateActionEntry (r : LifecycleRecord) (earlier : List PersistedActionEntry) (a : PersistedActionEntry) :
    Except StoreError Unit := do
  let field := indexed (js "envelope.actions") earlier.length
  let named (reason : String) :=
    StoreError.corrupt t (js "envelope.actions entry \"" ++ a.actionId ++ js "\" " ++ js reason)
  str t 128 (field ".actionId") a.actionId
  require (¬ earlier.any fun a' => a'.actionId = a.actionId)
    (.corrupt t (js "envelope.actions contains duplicate actionId \"" ++ a.actionId ++ js "\""))
  require (a.tenderId = r.tenderId ∧ a.tenderVersion = r.tenderVersion)
    (named "belongs to a different tender or tender version")
  match r.processedActions.read a.actionId with
  | .undefined => .error (named "has no matching processed-action record")
  | .inherited => .error (named "does not match its processed-action record")
  | .value persisted =>
    require (a.eventType = persisted.eventType ∧ a.eventPayloadHash = persisted.eventPayloadHash ∧
      a.resultingState = persisted.resultingState ∧ a.recordVersionAfter = persisted.recordVersionAfter ∧
      a.at_ = persisted.at_) (named "does not match its processed-action record")

/-- The record of a well-formed envelope. -/
def assertValidPersistedLifecycleEnvelope (e : PersistedLifecycleEnvelope) : Except StoreError LifecycleRecord := do
  assertSafeTenderId t
  let record ← assertValidLifecycleRecord p t e.record
  assertSafeTenderId e.tenderId
  expect t (e.tenderId = record.tenderId) "envelope tenderId does not match the lifecycle record"
  safeInt t 1 (js "envelope.tenderVersion") e.tenderVersion
  expect t (e.tenderVersion = record.tenderVersion) "envelope tenderVersion does not match the lifecycle record"
  safeInt t 1 (js "envelope.recordVersion") e.recordVersion
  expect t (e.recordVersion = record.recordVersion) "envelope recordVersion does not match the lifecycle record"
  utc t (js "envelope.createdAt") e.createdAt
  utc t (js "envelope.updatedAt") e.updatedAt
  expectNotAfter t e.createdAt e.updatedAt "envelope createdAt must be <= updatedAt"
  expect t (e.createdAt = record.createdAt ∧ e.updatedAt = record.updatedAt)
    "envelope timestamps do not match the lifecycle record"
  validateTrustSnapshot p t (js "envelope.trustPolicy") e.trustPolicy
  expect t (canonicalSha256 p.sha256Hex e.trustPolicy.toJson = canonicalSha256 p.sha256Hex record.trust.toJson)
    "envelope trust-policy snapshot does not match the record trust binding"
  eachAfter (validateActionEntry t record) [] e.actions
  expect t (e.actions.length = record.processedActions.keys.length)
    "envelope.actions does not cover every processed action"
  hash t (js "envelope.integrity.recordHash") e.recordHash
  hash t (js "envelope.integrity.actionsHash") e.actionsHash
  expect t (e.recordHash = canonicalSha256 p.sha256Hex record.toJson)
    "envelope.integrity.recordHash does not recompute over the record"
  expect t (e.actionsHash = actionsHash p record)
    "envelope.integrity.actionsHash does not recompute over the action index"
  pure record

end Read

/-! ## What is written reads back -/

/-- The name of the checked field is only in the errors. -/
theorem validateTrustSnapshot_field {p : Platform} {t : JsString} (field field' : JsString)
    {trust : TrustPolicySnapshot} (h : validateTrustSnapshot p t field trust = .ok ()) :
    validateTrustSnapshot p t field' trust = .ok () := by
  simp only [validateTrustSnapshot, check_eq_ok, str_eq_ok, require_eq_ok, fingerprint_eq_ok, account_eq_ok] at h ⊢
  obtain ⟨h1, h2, h3, h4, h5, h6, h7, h8, h9⟩ := h
  refine ⟨h1, h2, h3, h4, h5, h6, h7, h8, (eachAfter_congr ?_).mp h9⟩
  intro before r
  simp only [validateReferee, check_eq_ok, str_eq_ok, require_eq_ok]

section ReadBack
variable {p : Platform} {t : JsString} {r : LifecycleRecord}

/-- The action index has every processed action under its own id, once. -/
theorem map_actionId_actionEntries (h : ∀ e ∈ r.processedActions.entries, e.2.actionId = e.1) :
    (actionEntriesFromRecord r).map (·.actionId) = r.processedActions.keys.insertionSort (· ≤ ·) := by
  have hkeys : ∀ k ∈ r.processedActions.keys.insertionSort (· ≤ ·),
      ∃ a, r.processedActions.lookup k = some a ∧ a.actionId = k := by
    intro k hk
    obtain ⟨a, ha⟩ := Option.isSome_iff_exists.mp (AList.lookup_isSome.mpr
      (AList.mem_keys.mpr ((List.mem_insertionSort _).mp hk)))
    exact ⟨a, ha, h ⟨k, a⟩ (AList.mem_lookup_iff.mp ha)⟩
  unfold actionEntriesFromRecord
  generalize r.processedActions.keys.insertionSort (· ≤ ·) = l at hkeys
  induction l with
  | nil => rfl
  | cons k l ih =>
    obtain ⟨a, ha, hid⟩ := hkeys k (List.mem_cons_self ..)
    have ih' := ih fun k' hk' => hkeys k' (List.mem_cons_of_mem _ hk')
    rw [List.filterMap_cons_some (by rw [ha]; rfl), List.map_cons, ih']
    exact congrArg (· :: l) hid

theorem mem_actionEntries {a : PersistedActionEntry} (h : a ∈ actionEntriesFromRecord r) :
    ∃ k, r.processedActions.lookup k = some a.toProcessedActionRecord ∧ a.tenderId = r.tenderId ∧
      a.tenderVersion = r.tenderVersion := by
  obtain ⟨k, -, hk⟩ := List.mem_filterMap.mp h
  obtain ⟨b, hb, rfl⟩ := Option.map_eq_some_iff.mp hk
  exact ⟨k, hb, rfl, rfl⟩

theorem validateActions_actionEntries
    (h : ∀ e ∈ r.processedActions.entries, ActionFormat r.recordVersion e.1 e.2) :
    eachAfter (validateActionEntry t r) [] (actionEntriesFromRecord r) = .ok () := by
  have hnodup : ((actionEntriesFromRecord r).map (·.actionId)).Nodup := by
    rw [map_actionId_actionEntries fun e he => (h e he).key]
    exact ((List.perm_insertionSort _ _).nodup_iff).mpr (AList.keys_nodup _)
  refine eachAfter_eq_ok.mpr fun before a after heq => ?_
  have hmem : a ∈ actionEntriesFromRecord r := by
    rw [heq]
    simp
  obtain ⟨k, hk, ht, hv⟩ := mem_actionEntries hmem
  have hformat := h ⟨k, a.toProcessedActionRecord⟩ (AList.mem_lookup_iff.mp hk)
  have hread : r.processedActions.read a.actionId = .value a.toProcessedActionRecord :=
    PlainObject.read_eq_value.mpr (hformat.key ▸ hk)
  rw [heq, List.map_append, List.map_cons, List.nodup_append] at hnodup
  have hfresh : ¬ before.any fun a' => a'.actionId = a.actionId := by
    simp only [List.any_eq_true, decide_eq_true_eq, not_exists, not_and]
    intro a' ha' hid
    exact hnodup.2.2 _ (List.mem_map_of_mem ha') _ (List.mem_cons_self ..) hid
  simp only [validateActionEntry, check_eq_ok, str_eq_ok, require_eq_ok, List.nil_append, hread]
  exact ⟨hformat.text, hfresh, ⟨ht, hv⟩, by simp⟩

/-- **What is written reads back**: an accepted record comes back from its envelope. -/
theorem assertValidPersistedLifecycleEnvelope_build (hp : p.HexDigest) (h : Accepted p t r) :
    assertValidPersistedLifecycleEnvelope p t (buildPersistedLifecycleEnvelope p r) = .ok r := by
  have hb := h.binding
  have hg := h.progress
  have hlength : (actionEntriesFromRecord r).length = r.processedActions.keys.length := by
    have hids := congrArg List.length (map_actionId_actionEntries fun e he => (hg.actions e he).key)
    rwa [List.length_map, List.length_insertionSort] at hids
  simp only [assertValidPersistedLifecycleEnvelope, bind_eq_ok, assertSafeTenderId_eq_ok, exists_const, pure_eq_ok,
    assertValidLifecycleRecord_eq_ok, expect_eq_ok, safeInt_eq_ok, utc_eq_ok, expectNotAfter_eq_ok, hash_eq_ok]
  refine ⟨h.safeId, r, ⟨h, rfl⟩, hb.safe, rfl, hb.tenderVersion, rfl, hg.version, rfl, hb.createdAt, hg.updated,
    hg.order, ⟨rfl, rfl⟩, (), validateTrustSnapshot_field _ _ h.trust, rfl, (), ?_⟩
  exact ⟨validateActions_actionEntries hg.actions, hlength, isSha256_canonicalSha256 hp _,
    isSha256_canonicalSha256 hp _, rfl, rfl, rfl⟩

/-- A read envelope has an accepted record. -/
theorem assertValidPersistedLifecycleEnvelope_ok {e : PersistedLifecycleEnvelope}
    (h : assertValidPersistedLifecycleEnvelope p t e = .ok r) : Accepted p t r ∧ e.record = r := by
  simp only [assertValidPersistedLifecycleEnvelope, bind_eq_ok, assertSafeTenderId_eq_ok, exists_const, pure_eq_ok,
    assertValidLifecycleRecord_eq_ok, expect_eq_ok, safeInt_eq_ok, utc_eq_ok, expectNotAfter_eq_ok, hash_eq_ok] at h
  obtain ⟨-, r', ⟨hr, rfl⟩, -, -, -, -, -, -, -, -, -, -, -, -, -, -, -, -, -, -, -, -, rfl⟩ := h
  exact ⟨hr, rfl⟩

end ReadBack

end RouteGuard.Store
