import RouteGuard.Hcs.V2Envelope
import RouteGuard.Store.BidBodyStore
import RouteGuard.Store.CheckedRuns

/-!
# Evidence of paid actions

The opening of a tender and the commitments of its bids are rebuilt from the stored record. The routes take any
identifier that fits the record; the messages take shorter ones of fewer characters.

* `buildTenderOpenedEnvelope`, `pendingBidCommitmentEnvelopes` : what is rebuilt;
* `RouteCall`, `routeSystem` : the events that the activation and bid routes commit;
* `anchorable_iff` : all of it can be rebuilt exactly when every identifier is a public one.
-/

namespace RouteGuard.Hcs.V2
open JsString Json Guarded Access Store Lifecycle Sorting

section Outbox
variable (p : Platform)

def bidCommitmentPayload (bidId carrierId bidHash accessPaymentTxId : JsString) : HcsV2Payload :=
  [(js "bidId", .str bidId), (js "carrierId", .str carrierId), (js "bidHash", .str bidHash),
   (js "accessPaymentTxId", .str accessPaymentTxId)]

/-- Computed before the commit, so that the entry binds the evidence that is published. -/
def bidCommitmentPayloadHash (bidId carrierId bidHash accessPaymentTxId : JsString) : JsString :=
  canonicalSha256 p.sha256Hex (.obj (bidCommitmentPayload bidId carrierId bidHash accessPaymentTxId))

def tenderOpenedPayload (accessPaymentTxId maxBudgetAtomic auctionEndsAt : JsString) : HcsV2Payload :=
  [(js "accessPaymentTxId", .str accessPaymentTxId), (js "maxBudgetAtomic", .str maxBudgetAtomic),
   (js "auctionEndsAt", .str auctionEndsAt), (js "selectionPolicy", .str (js "LOWEST_QUALIFIED_PRICE_V1"))]

/-- The message of a record, of the given type and payload. -/
def messageOf (record : LifecycleRecord) (messageType : HcsV2MessageType) (createdAt : JsString)
    (payload : HcsV2Payload) : BuildHcsV2EnvelopeInput where
  messageType := messageType
  tenderId := record.tenderId
  tenderVersion := record.tenderVersion
  tenderHash := record.tenderHash
  createdAt := createdAt
  payload := payload

def buildTenderOpenedEnvelope (record : LifecycleRecord) : Except JsString HcsV2Envelope :=
  match record.accessReceipt, present record.activationPaymentTxId with
  | some receipt, some activationPaymentTxId =>
    buildHcsV2Envelope p
      (messageOf record .TENDER_OPENED receipt.paidAt
        (tenderOpenedPayload activationPaymentTxId record.maximumFreightBudgetAtomic record.auctionEndsAt))
  | _, _ => .error (js "tender is not activated")

def buildBidCommitmentEnvelope (record : LifecycleRecord) (entry : LifecycleBidEntry) :
    Except JsString HcsV2Envelope := do
  let envelope ← buildHcsV2Envelope p
    (messageOf record .BID_COMMITMENT entry.acceptedAt
      (bidCommitmentPayload entry.bidId entry.carrierId entry.bidHash entry.accessPaymentTxId))
  require (envelope.payloadHash = entry.commitmentPayloadHash)
    (js "bid commitment payload hash does not match durable entry")
  pure envelope

def pendingBidCommitmentEnvelopes (record : LifecycleRecord) : Except JsString (List HcsV2Envelope) :=
  record.bidRegistry.mapM (buildBidCommitmentEnvelope p record)

/-! ## The routes -/

/-- The payment fields of an event, from the settlement. -/
def accessPaid (accessActionType : AccessActionType) (settled : SettledAccessPayment) : AccessPaid where
  accessActionType := accessActionType
  asset := settled.asset
  amountAtomic := settled.amountAtomic
  resource := settled.resource
  paymentTransactionId := settled.transactionId
  paymentPayloadHash := settled.paymentPayloadHash
  payerAccount := settled.payerAccount
  payTo := settled.payTo

/-- The event of `commitActivation`. -/
def commitActivation (actionId : JsString) (settled : SettledAccessPayment) : LifecycleEvent where
  actionId := actionId
  eventTime := settled.settledAt
  body := .tenderActivationPaid ⟨accessPaid .tenderActivate settled⟩

/-- The event of `commitBid`. -/
def commitBid (actionId signedAt : JsString) (stored : StoredBidBody) (settled : SettledAccessPayment) :
    LifecycleEvent where
  actionId := actionId
  eventTime := settled.settledAt
  body := .bidSubmissionPaid
    { toAccessPaid := accessPaid .bidSubmit settled
      bidId := stored.signed.bid.bidId
      carrierId := stored.signed.bid.carrierId
      carrierAccountId := stored.signed.bid.carrierAccountId
      bidHash := stored.bidHash
      signedBidEnvelopeHash := stored.signedBidEnvelopeHash
      commitmentPayloadHash := bidCommitmentPayloadHash p stored.signed.bid.bidId stored.signed.bid.carrierId
        stored.bidHash settled.transactionId
      carrierSignature := stored.signed.signature
      signedAt := signedAt }

/-- What is committed on a record: by the activation route, by the bid route, or another event. -/
inductive RouteCall where
  | activate (actionId : JsString) (settled : SettledAccessPayment)
  | bid (actionId signedAt : JsString) (stored : StoredBidBody) (settled : SettledAccessPayment)
  | other (event : LifecycleEvent)

def RouteCall.event : RouteCall → LifecycleEvent
  | .activate actionId settled => commitActivation actionId settled
  | .bid actionId signedAt stored settled => commitBid p actionId signedAt stored settled
  | .other event => event

/-- Paid events come from the routes only. -/
def RouteCall.Unpaid : RouteCall → Prop
  | .other event => event.type ≠ .tenderActivationPaid ∧ event.type ≠ .bidSubmissionPaid
  | _ => True

instance : (call : RouteCall) → Decidable call.Unpaid
  | .other _ => inferInstanceAs (Decidable (_ ∧ _))
  | .activate _ _ => inferInstanceAs (Decidable True)
  | .bid _ _ _ _ => inferInstanceAs (Decidable True)

/-- Calls that the store accepts, on a created record. -/
def routeSystem (carriers : Option CarrierRegistry) : System LifecycleRecord RouteCall where
  init := (applySystem p carriers).init
  step r call r' := call.Unpaid ∧ Applies p carriers r (call.event p) r'

end Outbox

/-- The identifiers that a call brings into the evidence of the tender are public ones. -/
def RouteCall.Public (tenderId : JsString) : RouteCall → Prop
  | .activate _ settled => isPublicId tenderId ∧ isPublicId settled.transactionId
  | .bid _ _ stored settled => isPublicId tenderId ∧ isPublicId stored.signed.bid.bidId ∧
      isPublicId stored.signed.bid.carrierId ∧ isPublicId settled.transactionId
  | .other _ => True

/-- Both builders succeed on the record, with one envelope for each entry under the hash of the entry. -/
structure Anchorable (p : Platform) (record : LifecycleRecord) : Prop where
  opened : record.accessReceipt.isSome → ∃ envelope, buildTenderOpenedEnvelope p record = .ok envelope
  commitments : ∃ envelopes, pendingBidCommitmentEnvelopes p record = .ok envelopes ∧
    envelopes.map HcsV2Envelope.payloadHash = record.bidRegistry.map LifecycleBidEntry.commitmentPayloadHash

/-! ## The two messages -/

section Messages
variable {p : Platform}

/-- Nothing is prohibited in an object of texts and numbers under other names. -/
theorem assertFieldsPublicSafe_eq_ok {path : JsString} {fields : List (JsString × Json)}
    (hkeys : fields.all (fun f => !isProhibited f.1) = true)
    (hvalues : ∀ f ∈ fields, ∀ path, assertHcsV2PublicSafe path f.2 = .ok ()) :
    assertFieldsPublicSafe path fields = .ok () := by
  induction fields with
  | nil => rfl
  | cons f rest ih =>
    rw [List.all_cons, Bool.and_eq_true, Bool.not_eq_true'] at hkeys
    rw [List.forall_mem_cons] at hvalues
    simp only [assertFieldsPublicSafe, check_eq_ok, require_eq_ok]
    exact ⟨hkeys.1, hvalues.1 _, ih hkeys.2 hvalues.2⟩

theorem publicSafe_str (s path : JsString) : assertHcsV2PublicSafe path (.str s) = .ok () := rfl

theorem publicSafe_num (n : Int) (path : JsString) : assertHcsV2PublicSafe path (.num n) = .ok () := rfl

theorem publicSafe_bidCommitment (bidId carrierId bidHash tx path : JsString) :
    assertHcsV2PublicSafe path (.obj (bidCommitmentPayload bidId carrierId bidHash tx)) = .ok () := by
  refine assertFieldsPublicSafe_eq_ok ?_ ?_
  · show [js "bidId", js "carrierId", js "bidHash", js "accessPaymentTxId"].all (fun k => !isProhibited k) = true
    decide
  · simp only [bidCommitmentPayload, List.forall_mem_cons, publicSafe_str, implies_true, List.not_mem_nil,
      false_implies, and_self]

theorem publicSafe_tenderOpened (tx budget auctionEndsAt path : JsString) :
    assertHcsV2PublicSafe path (.obj (tenderOpenedPayload tx budget auctionEndsAt)) = .ok () := by
  refine assertFieldsPublicSafe_eq_ok ?_ ?_
  · show [js "accessPaymentTxId", js "maxBudgetAtomic", js "auctionEndsAt", js "selectionPolicy"].all
      (fun k => !isProhibited k) = true
    decide
  · simp only [tenderOpenedPayload, List.forall_mem_cons, publicSafe_str, implies_true, List.not_mem_nil,
      false_implies, and_self]

theorem publicSafe_envelope {e : HcsV2Envelope} {path : JsString}
    (h : ∀ path, assertHcsV2PublicSafe path (.obj e.payload) = .ok ()) :
    assertHcsV2PublicSafe path (.obj e.fields) = .ok () := by
  refine assertFieldsPublicSafe_eq_ok ?_ ?_
  · show [js "schemaVersion", js "messageType", js "tenderId", js "tenderVersion", js "tenderHash", js "createdAt",
      js "payloadHash", js "payload"].all (fun k => !isProhibited k) = true
    decide
  · simp only [HcsV2Envelope.fields, List.forall_mem_cons, publicSafe_str, publicSafe_num, h, implies_true,
      List.not_mem_nil, false_implies, and_self]

theorem validatePayload_bidCommitment {bidId carrierId bidHash tx : JsString} :
    validatePayload .BID_COMMITMENT (bidCommitmentPayload bidId carrierId bidHash tx) = .ok () ↔
      isPublicId bidId ∧ isPublicId carrierId ∧ isSha256 bidHash ∧ isPublicId tx := by
  have h1 : fieldText (bidCommitmentPayload bidId carrierId bidHash tx) (js "bidId") = .ok bidId := rfl
  have h2 : fieldText (bidCommitmentPayload bidId carrierId bidHash tx) (js "carrierId") = .ok carrierId := rfl
  have h3 : fieldText (bidCommitmentPayload bidId carrierId bidHash tx) (js "bidHash") = .ok bidHash := rfl
  have h4 : fieldText (bidCommitmentPayload bidId carrierId bidHash tx) (js "accessPaymentTxId") = .ok tx := rfl
  have hkeys : (bidCommitmentPayload bidId carrierId bidHash tx).map Prod.fst = PAYLOAD_KEYS .BID_COMMITMENT := rfl
  simp only [validatePayload, assertExactPayloadKeys, hkeys, validateFields, checkId, checkHash, h1, h2, h3, h4,
    assertId, assertHash, bind_eq_ok, require_eq_ok, exists_const, Except.ok.injEq, exists_eq_left', true_and]

theorem validatePayload_tenderOpened {tx budget auctionEndsAt : JsString} :
    validatePayload .TENDER_OPENED (tenderOpenedPayload tx budget auctionEndsAt) = .ok () ↔
      isPublicId tx ∧ isPositiveAtomicString budget ∧ isUtcIsoTimestamp auctionEndsAt := by
  have h1 : fieldText (tenderOpenedPayload tx budget auctionEndsAt) (js "accessPaymentTxId") = .ok tx := rfl
  have h2 : fieldText (tenderOpenedPayload tx budget auctionEndsAt) (js "maxBudgetAtomic") = .ok budget := rfl
  have h3 : fieldText (tenderOpenedPayload tx budget auctionEndsAt) (js "auctionEndsAt") = .ok auctionEndsAt := rfl
  have h4 : checkOneOf (tenderOpenedPayload tx budget auctionEndsAt) (js "selectionPolicy")
      [js "LOWEST_QUALIFIED_PRICE_V1"] (js "selectionPolicy invalid") = .ok () := rfl
  have hkeys : (tenderOpenedPayload tx budget auctionEndsAt).map Prod.fst = PAYLOAD_KEYS .TENDER_OPENED := rfl
  simp only [validatePayload, assertExactPayloadKeys, hkeys, validateFields, checkId, checkPositiveAtomic, checkUtc,
    checkText, h1, h2, h3, h4, assertId, bind_eq_ok, require_eq_ok, exists_const, Except.ok.injEq, exists_eq_left',
    true_and, and_true]

/-! ### Sizes -/

theorem measured_publicId {s : JsString} (h : isPublicId s = true) : Measured (.str s) 66 :=
  measured_str (plain_of_isPublicId h).1 (plain_of_isPublicId h).2

theorem measured_sha256 {s : JsString} (h : isSha256 s = true) : Measured (.str s) 73 :=
  measured_str (plain_of_isSha256 h).1 (plain_of_isSha256 h).2

theorem measured_utc {s : JsString} (h : isUtcIsoTimestamp s = true) : Measured (.str s) 32 :=
  measured_str (plain_of_isUtcIsoTimestamp h).1 (plain_of_isUtcIsoTimestamp h).2

/-- A text of a message that is a constant. -/
theorem measured_const {s : JsString} {n : Nat} (h : s.all isPlain = true ∧ s.length ≤ n) : Measured (.str s) (n + 2) :=
  measured_str h.1 h.2

theorem measured_bidCommitment {bidId carrierId bidHash tx : JsString} (hbid : isPublicId bidId = true)
    (hcarrier : isPublicId carrierId = true) (hhash : isSha256 bidHash = true) (htx : isPublicId tx = true) :
    Measured (.obj (bidCommitmentPayload bidId carrierId bidHash tx)) 330 := by
  have h4 := measuredFields_cons (k := js "accessPaymentTxId") (by decide) rfl (measured_publicId htx) measuredFields_nil
  have h3 := measuredFields_cons (k := js "bidHash") (by decide) rfl (measured_sha256 hhash) h4
  have h2 := measuredFields_cons (k := js "carrierId") (by decide) rfl (measured_publicId hcarrier) h3
  have h1 := measuredFields_cons (k := js "bidId") (by decide) rfl (measured_publicId hbid) h2
  exact (measured_obj h1).mono (by decide)

theorem measured_tenderOpened {tx budget auctionEndsAt : JsString} (htx : isPublicId tx = true)
    (hbudget : isPositiveAtomicString budget = true) (hends : isUtcIsoTimestamp auctionEndsAt = true) :
    Measured (.obj (tenderOpenedPayload tx budget auctionEndsAt)) 330 := by
  have hplain := plain_of_positiveAtomic hbudget
  have h4 := measuredFields_cons (k := js "selectionPolicy") (by decide) rfl
    (measured_const (s := js "LOWEST_QUALIFIED_PRICE_V1") (n := 25) (by decide)) measuredFields_nil
  have h3 := measuredFields_cons (k := js "auctionEndsAt") (by decide) rfl (measured_utc hends) h4
  have h2 := measuredFields_cons (k := js "maxBudgetAtomic") (by decide) rfl (measured_str hplain.1 hplain.2) h3
  have h1 := measuredFields_cons (k := js "accessPaymentTxId") (by decide) rfl (measured_publicId htx) h2
  exact (measured_obj h1).mono (by decide)

theorem plain_messageType (messageType : HcsV2MessageType) :
    messageType.text.all isPlain = true ∧ messageType.text.length ≤ 21 := by
  cases messageType <;> decide

/-- The shell of a small payload leaves room below the limit. -/
theorem withinLimit_of_measured {e : HcsV2Envelope} (htender : isPublicId e.tenderId = true)
    (hversion : isSafePositiveInteger e.tenderVersion = true) (hhash : isSha256 e.tenderHash = true)
    (hcreated : isUtcIsoTimestamp e.createdAt = true) (hpayloadHash : isSha256 e.payloadHash = true)
    (hpayload : Measured (.obj e.payload) 330) :
    utf8ByteLength (serializeHcsV2Envelope e) < HCS_V2_MAX_MESSAGE_BYTES := by
  simp only [isSafePositiveInteger, Bool.and_eq_true, decide_eq_true_eq] at hversion
  have hmax : e.tenderVersion < 10 ^ 16 := lt_of_le_of_lt hversion.2 (by decide)
  have hnum : Measured (.num e.tenderVersion) 16 := measured_num (by decide) (by omega) hmax
  have h8 := measuredFields_cons (k := js "payload") (by decide) rfl hpayload measuredFields_nil
  have h7 := measuredFields_cons (k := js "payloadHash") (by decide) rfl (measured_sha256 hpayloadHash) h8
  have h6 := measuredFields_cons (k := js "createdAt") (by decide) rfl (measured_utc hcreated) h7
  have h5 := measuredFields_cons (k := js "tenderHash") (by decide) rfl (measured_sha256 hhash) h6
  have h4 := measuredFields_cons (k := js "tenderVersion") (by decide) rfl hnum h5
  have h3 := measuredFields_cons (k := js "tenderId") (by decide) rfl (measured_publicId htender) h4
  have h2 := measuredFields_cons (k := js "messageType") (by decide) rfl (measured_const (plain_messageType e.messageType)) h3
  have h1 := measuredFields_cons (k := js "schemaVersion") (by decide) rfl
    (measured_const (s := HCS_V2_SCHEMA_VERSION) (n := 18) (by decide)) h2
  have hbytes := (measured_obj h1).byteLength
  exact lt_of_le_of_lt hbytes (by decide)

end Messages

/-! ## Records -/

section Records
variable {p : Platform} {t : JsString} {record : LifecycleRecord}

theorem isSafePositive_of_accepted (h : Accepted p t record) : isSafePositiveInteger record.tenderVersion = true := by
  simp only [isSafePositiveInteger, Bool.and_eq_true, decide_eq_true_eq]
  exact h.binding.tenderVersion

theorem paidAt_of_accepted (h : Accepted p t record) {receipt : LifecycleAccessReceipt}
    (hr : record.accessReceipt = some receipt) : isUtcIsoTimestamp receipt.paidAt = true := by
  have hvalid := h.funding.accessReceipt receipt hr
  simp only [validateAccessReceipt, bind_eq_ok, utc_eq_ok] at hvalid
  tauto

theorem entry_of_accepted (h : Accepted p t record) {entry : LifecycleBidEntry} (hentry : entry ∈ record.bidRegistry) :
    isSha256 entry.bidHash = true ∧ isUtcIsoTimestamp entry.acceptedAt = true := by
  have hvalid := h.funding.bidRegistry
  simp only [validateBidRegistry, check_eq_ok] at hvalid
  obtain ⟨before, after, heq⟩ := List.append_of_mem hentry
  have hbid := eachAfter_eq_ok.mp hvalid.2 before entry after heq
  simp only [validateBid, check_eq_ok, hash_eq_ok, utc_eq_ok] at hbid
  tauto

/-- The opening of an activated tender is built exactly from public identifiers. -/
theorem buildTenderOpened_iff (hp : p.HexDigest) (h : Accepted p t record) {receipt : LifecycleAccessReceipt}
    {tx : JsString} (hreceipt : record.accessReceipt = some receipt) (htx : record.activationPaymentTxId = some tx) :
    (∃ envelope, buildTenderOpenedEnvelope p record = .ok envelope) ↔ isPublicId record.tenderId ∧ isPublicId tx := by
  have hpresent : present record.activationPaymentTxId = some tx := by
    have htext := h.funding.activationPaymentTxId tx htx
    rw [htx]
    cases tx with
    | nil => exact absurd htext (by decide)
    | cons u rest => rfl
  simp only [buildTenderOpenedEnvelope, hreceipt, hpresent, buildHcsV2Envelope_eq_ok]
  constructor
  · rintro ⟨_, hbuildable, -⟩
    exact ⟨hbuildable.tenderId, (validatePayload_tenderOpened.mp hbuildable.payload).1⟩
  · rintro ⟨htender, hpublic⟩
    refine ⟨_, ⟨htender, isSafePositive_of_accepted h, h.binding.tenderHash, paidAt_of_accepted h hreceipt,
      publicSafe_tenderOpened _ _ _ _,
      validatePayload_tenderOpened.mpr ⟨hpublic, h.binding.budget, h.binding.auctionEndsAt⟩,
      publicSafe_envelope fun _ => publicSafe_tenderOpened _ _ _ _, ?_⟩, rfl⟩
    exact withinLimit_of_measured htender (isSafePositive_of_accepted h) h.binding.tenderHash
      (paidAt_of_accepted h hreceipt) (isSha256_canonicalSha256 hp _)
      (measured_tenderOpened hpublic h.binding.budget h.binding.auctionEndsAt)

/-- The identifiers of an entry are public ones. -/
def PublicEntry (tenderId : JsString) (entry : LifecycleBidEntry) : Prop :=
  isPublicId tenderId ∧ isPublicId entry.bidId ∧ isPublicId entry.carrierId ∧ isPublicId entry.accessPaymentTxId

/-- The entry holds the hash of its own evidence. -/
def Committed (p : Platform) (entry : LifecycleBidEntry) : Prop :=
  entry.commitmentPayloadHash =
    bidCommitmentPayloadHash p entry.bidId entry.carrierId entry.bidHash entry.accessPaymentTxId

theorem buildBidCommitment_iff (hp : p.HexDigest) (h : Accepted p t record) {entry : LifecycleBidEntry}
    (hentry : entry ∈ record.bidRegistry) (hcommitted : Committed p entry) :
    (∃ envelope, buildBidCommitmentEnvelope p record entry = .ok envelope) ↔ PublicEntry record.tenderId entry := by
  obtain ⟨hhash, haccepted⟩ := entry_of_accepted h hentry
  simp only [buildBidCommitmentEnvelope, bind_eq_ok, buildHcsV2Envelope_eq_ok, require_eq_ok, exists_const, pure_eq_ok]
  constructor
  · rintro ⟨_, _, ⟨hbuildable, -⟩, -⟩
    obtain ⟨hbid, hcarrier, -, htx⟩ := validatePayload_bidCommitment.mp hbuildable.payload
    exact ⟨hbuildable.tenderId, hbid, hcarrier, htx⟩
  · rintro ⟨htender, hbid, hcarrier, htx⟩
    refine ⟨_, _, ⟨⟨htender, isSafePositive_of_accepted h, h.binding.tenderHash, haccepted,
      publicSafe_bidCommitment _ _ _ _ _, validatePayload_bidCommitment.mpr ⟨hbid, hcarrier, hhash, htx⟩,
      publicSafe_envelope fun _ => publicSafe_bidCommitment _ _ _ _ _, ?_⟩, rfl⟩, hcommitted.symm, rfl⟩
    exact withinLimit_of_measured htender (isSafePositive_of_accepted h) h.binding.tenderHash haccepted
      (isSha256_canonicalSha256 hp _) (measured_bidCommitment hbid hcarrier hhash htx)

/-- A commitment that is built has the hash of its entry. -/
theorem payloadHash_of_built {entry : LifecycleBidEntry} {envelope : HcsV2Envelope}
    (h : buildBidCommitmentEnvelope p record entry = .ok envelope) :
    envelope.payloadHash = entry.commitmentPayloadHash := by
  simp only [buildBidCommitmentEnvelope, bind_eq_ok, require_eq_ok, exists_const, pure_eq_ok] at h
  obtain ⟨_, -, heq, rfl⟩ := h
  exact heq

theorem pending_iff (hp : p.HexDigest) (h : Accepted p t record)
    (hcommitted : ∀ entry ∈ record.bidRegistry, Committed p entry) :
    (∃ envelopes, pendingBidCommitmentEnvelopes p record = .ok envelopes ∧
      envelopes.map HcsV2Envelope.payloadHash = record.bidRegistry.map LifecycleBidEntry.commitmentPayloadHash) ↔
      ∀ entry ∈ record.bidRegistry, PublicEntry record.tenderId entry := by
  have hbuilt : (∃ envelopes, pendingBidCommitmentEnvelopes p record = .ok envelopes) ↔
      ∀ entry ∈ record.bidRegistry, PublicEntry record.tenderId entry := by
    rw [pendingBidCommitmentEnvelopes, exists_mapM_eq_ok]
    exact forall₂_congr fun entry hentry => buildBidCommitment_iff hp h hentry (hcommitted entry hentry)
  rw [← hbuilt]
  constructor
  · rintro ⟨envelopes, henvelopes, -⟩
    exact ⟨envelopes, henvelopes⟩
  · rintro ⟨envelopes, henvelopes⟩
    exact ⟨envelopes, henvelopes, map_eq_of_forall₂ (mapM_eq_ok.mp henvelopes) fun _ _ => payloadHash_of_built⟩

end Records

/-! ## Runs -/

/-- The transaction of an activation. -/
def RouteCall.activationTx : RouteCall → Option JsString
  | .activate _ settled => some settled.transactionId
  | _ => none

/-- The identifiers of a bid. -/
def RouteCall.bidIds : RouteCall → Option (JsString × JsString × JsString)
  | .bid _ _ stored settled => some (stored.signed.bid.bidId, stored.signed.bid.carrierId, settled.transactionId)
  | _ => none

def entryIds (entry : LifecycleBidEntry) : JsString × JsString × JsString :=
  (entry.bidId, entry.carrierId, entry.accessPaymentTxId)

/-- What the record holds of the paid calls that led to it. -/
structure Routed (p : Platform) (calls : List RouteCall) (record : LifecycleRecord) : Prop where
  activation : record.activationPaymentTxId.toList = calls.filterMap RouteCall.activationTx
  receipt : record.accessReceipt.isSome = record.activationPaymentTxId.isSome
  bids : record.bidRegistry.map entryIds = calls.filterMap RouteCall.bidIds
  committed : ∀ entry ∈ record.bidRegistry, Committed p entry

section Runs
variable {p : Platform} {carriers : Option CarrierRegistry} {calls : List RouteCall} {record next : LifecycleRecord}

/-- An event that is not a payment leaves the payments as they are. -/
theorem unpaid_keeps {context : LifecycleReduceContext p} {event : LifecycleEvent}
    (h : reduceLifecycle p record event context = .ok next) (hactivation : event.type ≠ .tenderActivationPaid)
    (hbid : event.type ≠ .bidSubmissionPaid) :
    next.activationPaymentTxId = record.activationPaymentTxId ∧ next.accessReceipt = record.accessReceipt ∧
      next.bidRegistry = record.bidRegistry := by
  obtain ⟨-, -, hreduces⟩ := reduceLifecycle_ok h
  have htype : event.type = event.body.type := rfl
  rw [htype] at hactivation hbid
  generalize event.body = b at hreduces hactivation hbid
  cases hreduces with
  | tenderActivationPaid => exact absurd rfl hactivation
  | bidSubmissionPaid => exact absurd rfl hbid
  | _ => exact ⟨rfl, rfl, rfl⟩

theorem routed_activate (h : Routed p calls record) (haccepted : Accepted p record.tenderId record)
    {actionId : JsString} {settled : SettledAccessPayment}
    (happlies : Applies p carriers record (commitActivation actionId settled) next) :
    Routed p (calls ++ [.activate actionId settled]) next := by
  obtain ⟨auth, -, hreduce⟩ := happlies.reduces
  obtain ⟨-, -, hreduces⟩ := reduceLifecycle_ok hreduce
  have hbody : (commitActivation actionId settled).body = .tenderActivationPaid ⟨accessPaid .tenderActivate settled⟩ := rfl
  rw [hbody] at hreduces
  cases hreduces with
  | tenderActivationPaid hstate htype hpaid =>
    -- a tender that is not open has no activation yet
    have hnone := (haccepted.activated.unactivated (by rw [hstate]; decide)).1
    have hactivations := h.activation
    rw [hnone] at hactivations
    refine ⟨?_, rfl, ?_, h.committed⟩
    · rw [List.filterMap_append, ← hactivations]
      rfl
    · rw [List.filterMap_append, ← h.bids]
      exact (List.append_nil _).symm

theorem routed_bid (h : Routed p calls record) {actionId signedAt : JsString} {stored : StoredBidBody}
    {settled : SettledAccessPayment} (happlies : Applies p carriers record (commitBid p actionId signedAt stored settled) next) :
    Routed p (calls ++ [.bid actionId signedAt stored settled]) next := by
  obtain ⟨auth, -, hreduce⟩ := happlies.reduces
  obtain ⟨-, -, hreduces⟩ := reduceLifecycle_ok hreduce
  unfold commitBid at hreduces
  cases hreduces with
  | bidSubmissionPaid hstate htype hbid hpaid =>
    refine ⟨?_, h.receipt, ?_, ?_⟩
    · rw [List.filterMap_append, ← h.activation]
      exact (List.append_nil _).symm
    · rw [List.filterMap_append, ← h.bids]
      exact List.map_append
    · intro entry hentry
      rcases List.mem_append.mp hentry with hentry | hentry
      · exact h.committed entry hentry
      · rw [List.mem_singleton.mp hentry]
        rfl

theorem routed_other (h : Routed p calls record) {event : LifecycleEvent}
    (hunpaid : (RouteCall.other event).Unpaid) (happlies : Applies p carriers record event next) :
    Routed p (calls ++ [.other event]) next := by
  obtain ⟨auth, -, hreduce⟩ := happlies.reduces
  obtain ⟨hactivation, hreceipt, hbids⟩ := unpaid_keeps hreduce hunpaid.1 hunpaid.2
  refine ⟨?_, ?_, ?_, ?_⟩
  · rw [hactivation, h.activation, List.filterMap_append]
    exact (List.append_nil _).symm
  · rw [hreceipt, hactivation, h.receipt]
  · rw [hbids, h.bids, List.filterMap_append]
    exact (List.append_nil _).symm
  · rw [hbids]
    exact h.committed

/-- The calls of the routes are calls of the service. -/
theorem applies_of_routes (h : (routeSystem p carriers).Run calls record) :
    (applySystem p carriers).Run (calls.map (RouteCall.event p)) record := by
  refine System.Run.induction (S := routeSystem p carriers)
    (I := fun calls record => (applySystem p carriers).Run (calls.map (RouteCall.event p)) record) ?_ ?_ h
  · exact fun _ hinit => .start hinit
  · rintro calls record call next _ hrun ⟨-, happlies⟩
    rw [List.map_append]
    exact hrun.snoc happlies

theorem accepted_of_routes (h : (routeSystem p carriers).Run calls record) : Accepted p record.tenderId record :=
  applySystem_accepted (applies_of_routes h)

theorem routed_of_run (h : (routeSystem p carriers).Run calls record) : Routed p calls record := by
  refine System.Run.induction (S := routeSystem p carriers) (I := fun calls record => Routed p calls record) ?_ ?_ h
  · rintro record ⟨⟨input, hcreate⟩, -⟩
    simp only [createLifecycleRecord, check_eq_ok, pure_eq_ok] at hcreate
    obtain ⟨-, rfl⟩ := hcreate
    exact ⟨rfl, rfl, rfl, fun entry hentry => absurd hentry List.not_mem_nil⟩
  · rintro calls record call next hrun ih ⟨hunpaid, happlies⟩
    cases call with
    | activate actionId settled => exact routed_activate ih (accepted_of_routes hrun) happlies
    | bid actionId signedAt stored settled => exact routed_bid ih happlies
    | other event => exact routed_other ih hunpaid happlies

/-- The public calls are those whose activation and whose bids are public. -/
theorem public_iff {tenderId : JsString} :
    (∀ call ∈ calls, call.Public tenderId) ↔
      (∀ tx ∈ calls.filterMap RouteCall.activationTx, isPublicId tenderId ∧ isPublicId tx) ∧
      ∀ ids ∈ calls.filterMap RouteCall.bidIds,
        isPublicId tenderId ∧ isPublicId ids.1 ∧ isPublicId ids.2.1 ∧ isPublicId ids.2.2 := by
  simp only [List.mem_filterMap]
  constructor
  · intro h
    constructor
    · rintro tx ⟨call, hcall, htx⟩
      cases call with
      | activate actionId settled =>
        have hpublic := h _ hcall
        rw [← Option.some.inj htx]
        exact hpublic
      | bid actionId signedAt stored settled => exact absurd htx (by simp [RouteCall.activationTx])
      | other event => exact absurd htx (by simp [RouteCall.activationTx])
    · rintro ids ⟨call, hcall, hids⟩
      cases call with
      | bid actionId signedAt stored settled =>
        have hpublic := h _ hcall
        rw [← Option.some.inj hids]
        exact hpublic
      | activate actionId settled => exact absurd hids (by simp [RouteCall.bidIds])
      | other event => exact absurd hids (by simp [RouteCall.bidIds])
  · rintro ⟨hactivation, hbids⟩ call hcall
    cases call with
    | activate actionId settled => exact hactivation _ ⟨_, hcall, rfl⟩
    | bid actionId signedAt stored settled => exact hbids _ ⟨_, hcall, rfl⟩
    | other event => trivial

/-- **The evidence of a record can be rebuilt exactly when the paid calls that led to it brought public identifiers
only.** -/
theorem anchorable_iff (hp : p.HexDigest) (h : (routeSystem p carriers).Run calls record) :
    Anchorable p record ↔ ∀ call ∈ calls, call.Public record.tenderId := by
  have haccepted := accepted_of_routes h
  have hrouted := routed_of_run h
  have hopened : (record.accessReceipt.isSome → ∃ envelope, buildTenderOpenedEnvelope p record = .ok envelope) ↔
      ∀ tx ∈ calls.filterMap RouteCall.activationTx, isPublicId record.tenderId ∧ isPublicId tx := by
    rw [← hrouted.activation]
    have hreceipt := hrouted.receipt
    cases htx : record.activationPaymentTxId with
    | none =>
      rw [htx] at hreceipt
      simp [hreceipt]
    | some tx =>
      rw [htx] at hreceipt
      obtain ⟨receipt, hsome⟩ := Option.isSome_iff_exists.mp hreceipt
      rw [buildTenderOpened_iff hp haccepted hsome htx]
      simp [hsome]
  have hcommitments := pending_iff hp haccepted hrouted.committed
  have hentries : (∀ entry ∈ record.bidRegistry, PublicEntry record.tenderId entry) ↔
      ∀ ids ∈ calls.filterMap RouteCall.bidIds, isPublicId record.tenderId ∧ isPublicId ids.1 ∧ isPublicId ids.2.1 ∧
        isPublicId ids.2.2 := by
    rw [← hrouted.bids, List.forall_mem_map]
    exact Iff.rfl
  rw [public_iff, ← hopened, ← hentries, ← hcommitments]
  exact ⟨fun hanchorable => ⟨hanchorable.opened, hanchorable.commitments⟩, fun ⟨h1, h2⟩ => ⟨h1, h2⟩⟩

/-! ### Two tenders -/

/-- One call, with the conditions on the event in place of the validator. -/
def checkedRoute (p : Platform) (carriers : Option CarrierRegistry) (record : LifecycleRecord) (call : RouteCall) :
    Option LifecycleRecord :=
  if call.Unpaid then checkedStep p carriers record (call.event p) else none

theorem run_of_checkedRoute (hp : p.HexDigest) {input : CreateLifecycleInput} (hinput : InputFormat input)
    (h : ((createLifecycleRecord p input).toOption.bind (System.execute (checkedRoute p carriers) calls)) = some record) :
    (routeSystem p carriers).Run calls record := by
  obtain ⟨created, hcreated, hexec⟩ := Option.bind_eq_some_iff.mp h
  have hcreate := toOption_eq_some.mp hcreated
  have hinit : (routeSystem p carriers).init created := ⟨⟨input, hcreate⟩, accepted_created hp hinput hcreate⟩
  refine ⟨created, hinit, (System.Run.start hinit).steps_of_execute ?_ hexec⟩
  intro calls record call next hrun hstep
  unfold checkedRoute at hstep
  split at hstep
  next hunpaid => exact ⟨hunpaid, applies_of_checked hp (applies_of_routes hrun) hstep⟩
  next => exact absurd hstep (by simp)

end Runs

namespace Sample
open Lifecycle.Sample

/-- A tender of the given id. -/
def tender (tenderId : JsString) : CreateLifecycleInput := { input with tenderId := tenderId }

/-- An id of 65 characters. -/
def longId : JsString := List.replicate 65 0x61

def funded (tenderId : JsString) : RouteCall :=
  .other
    ⟨js "a01", js "2026-01-01T01:00:00Z",
     .escrowFundingConfirmed ⟨js "0.0.5001@1767225600.1", js "0.0.429274", js "5000000", tenderId, 1⟩⟩

def settled (tenderId : JsString) : SettledAccessPayment where
  transactionId := paid.paymentTransactionId
  payerAccount := paid.payerAccount
  payTo := paid.payTo
  asset := paid.asset
  amountAtomic := paid.amountAtomic
  resource := js "/api/v2/tenders/" ++ tenderId ++ js "/v/1/activate"
  paymentPayloadHash := paid.paymentPayloadHash
  consensusTimestamp := js "1767232800.000000000"
  settledAt := js "2026-01-01T02:00:00Z"

def activation (tenderId : JsString) : List RouteCall := [funded tenderId, .activate (js "a02") (settled tenderId)]

def activated (tenderId : JsString) : Option LifecycleRecord :=
  (createLifecycleRecord platform (tender tenderId)).toOption.bind
    (System.execute (checkedRoute platform none) (activation tenderId))

theorem longFormat : InputFormat (tender longId) := by
  refine ⟨?_, ?_, ?_, ?_, ?_, ?_, ?_, ?_⟩ <;> decide

theorem long_activated : ∃ record ∈ activated longId, record.accessReceipt.isSome ∧ record.tenderId = longId := by
  decide +kernel

end Sample

open Lifecycle.Sample Sample in
/-- The activation of a tender with a long id is paid, and its opening cannot be built. -/
theorem long_tender_not_anchorable :
    ∃ record calls, (routeSystem platform none).Run calls record ∧ ¬ Anchorable platform record := by
  obtain ⟨record, hrecord, hreceipt, htender⟩ := long_activated
  have hrun := run_of_checkedRoute (hexDigest_asciiPlatform _) longFormat hrecord
  refine ⟨record, _, hrun, ?_⟩
  intro hanchorable
  obtain ⟨envelope, henvelope⟩ := hanchorable.opened hreceipt
  unfold buildTenderOpenedEnvelope at henvelope
  split at henvelope
  · have hbuildable := (buildHcsV2Envelope_eq_ok.mp henvelope).1
    have hpublic : isPublicId record.tenderId = true := hbuildable.tenderId
    rw [htender] at hpublic
    exact absurd hpublic (by decide)
  · exact absurd henvelope (by simp)

/-! ### A tender with a bid -/

namespace Sample
open Auth Lifecycle.Sample Store.Sample

def bid : V2CarrierBid := SharedFile.bid (js "T-1") 1 (js "bid-1")

def carrierRecord : CarrierRecord where
  carrierId := bid.carrierId
  carrierAccountId := bid.carrierAccountId
  signingPublicKey := js "carrier-key"
  active := true

/-- The stored body of the bid. -/
def bidBody : StoredBidBody where
  bidHash := manifest
  signedBidEnvelopeHash := manifest
  signed := ⟨bid, signature⟩
  storedAt := js "2026-01-01T04:00:00Z"

def bidPayload : CarrierBidSignPayload where
  tenderId := js "T-1"
  tenderVersion := 1
  bidId := bid.bidId
  carrierId := bid.carrierId
  carrierAccountId := bid.carrierAccountId
  bidHash := bidBody.bidHash
  signedAt := js "2026-01-01T03:30:00Z"
  actionId := js "a04"

/-- The carrier signed the bid. -/
def signedBid : Platform := signing [(carrierRecord.signingPublicKey, bidPayload.toJson.canonicalize, signature)]

def registry : CarrierRegistry := fun id => if id = carrierRecord.carrierId then some carrierRecord else none

def settledBid : SettledAccessPayment :=
  { settled (js "T-1") with
    transactionId := js "0.0.6001@1767236400.000000001"
    payerAccount := bid.carrierAccountId
    resource := js "/api/v2/tenders/T-1/v/1/bids/bid-1"
    settledAt := js "2026-01-01T04:00:00Z" }

/-- The bidding starts, and a bid is paid. -/
def bidding : List RouteCall :=
  activation (js "T-1") ++
    [.other ⟨js "a03", js "2026-01-01T03:00:00Z", .biddingStarted⟩, .bid (js "a04") bidPayload.signedAt bidBody settledBid]

def submitted : Option LifecycleRecord :=
  (createLifecycleRecord signedBid input).toOption.bind
    (System.execute (checkedRoute signedBid (some registry)) bidding)

theorem bid_submitted : ∃ record ∈ submitted, record.tenderId = js "T-1" ∧ record.bidRegistry.length = 1 := by
  decide +kernel

end Sample

open Lifecycle.Sample Store.Sample Sample in
/-- The opening of the sample tender and the commitment of its bid can be anchored. -/
theorem anchorable_bidding : ∃ record, (routeSystem signedBid (some registry)).Run bidding record ∧
    record.bidRegistry.length = 1 ∧ Anchorable signedBid record := by
  obtain ⟨record, hrecord, htender, hbid⟩ := bid_submitted
  have hrun := run_of_checkedRoute (hexDigest_asciiPlatform _) inputFormat hrecord
  refine ⟨record, hrun, hbid, (anchorable_iff (hexDigest_asciiPlatform _) hrun).mpr ?_⟩
  rw [htender]
  intro call hcall
  simp only [bidding, activation, List.cons_append, List.nil_append, List.mem_cons, List.not_mem_nil, or_false] at hcall
  rcases hcall with rfl | rfl | rfl | rfl
  · trivial
  · exact ⟨by decide, by decide⟩
  · trivial
  · exact ⟨by decide, by decide, by decide, by decide⟩

end RouteGuard.Hcs.V2
