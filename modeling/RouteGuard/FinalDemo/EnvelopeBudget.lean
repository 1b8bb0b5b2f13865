import RouteGuard.Hcs.BarrierSize
import RouteGuard.Reservation.Outbox

/-!
# The budget of the reserved route's message

Before it pays, the final demo measures the ROUTE_RESERVED message it will publish, with the longest transaction id and the
longest timestamps in the place of those the payment will bring. The measure is an upper bound.

* `measureFinalDemoConservativeEnvelope`, `measureFinalDemoActualEnvelope` : the measures;
* `EnvelopeInput.Creatable` : what a message must meet beside its size;
* `measure_mono` : the size grows with the texts that are not known before the payment;
* `conservative_bounds_actual` : the bound, and what it means for the publication.
-/

namespace RouteGuard.FinalDemo
open JsString Json Guarded Store Reservation Hcs

/-! ## The measures -/

def FINAL_DEMO_PAYER_ACCOUNT : JsString := js "0.0.9197513"

def FINAL_DEMO_USDC_TOKEN : JsString := js "0.0.429274"

def FINAL_DEMO_USDC_AMOUNT_ATOMIC : JsString := js "10000"

def MAX_TX_ID : JsString := js "0.0.999999999@9999999999.999999999"

def MAX_CONSENSUS_TS : JsString := js "2026-12-31T23:59:59.123456789Z"

def MAX_TOPIC_ID : JsString := js "0.0.999999999"

/-- A `FinalDemoError`, or an error of the reservation's documents. -/
inductive BudgetError where
  | finalDemo (code message : JsString)
  | service (e : ServiceError)
  deriving DecidableEq, Repr

/-- What both measures are given. -/
structure RouteIdentifiers where
  reservationId : JsString
  tenderId : JsString
  tenderVersion : Int
  tenderHash : JsString
  winningBidId : JsString
  winningBidHash : JsString
  carrierId : JsString
  carrierAccount : JsString
  decisionManifestHash : JsString
  evaluatedBidSetHash : JsString
  deriving DecidableEq, Repr

/-- The record of the demo's reservation, without its hash. -/
def RouteIdentifiers.body (ids : RouteIdentifiers) (topicId transactionId consensusTimestamp : JsString) :
    RouteReservedRecord where
  schemaVersion := RESERVATION_SCHEMA_VERSION
  reservationId := ids.reservationId
  tenderId := ids.tenderId
  tenderVersion := ids.tenderVersion
  tenderHash := ids.tenderHash
  winningBidId := ids.winningBidId
  winningBidHash := ids.winningBidHash
  carrierId := ids.carrierId
  carrierAccount := ids.carrierAccount
  selectedOptionId := .usdc
  paymentNetwork := RESERVATION_NETWORK
  paymentAsset := FINAL_DEMO_USDC_TOKEN
  paymentAmountAtomic := FINAL_DEMO_USDC_AMOUNT_ATOMIC
  payerAccount := FINAL_DEMO_PAYER_ACCOUNT
  transactionId := transactionId
  consensusTimestamp := consensusTimestamp
  decisionManifestHash := ids.decisionManifestHash
  evaluatedBidSetHash := ids.evaluatedBidSetHash
  hcsAuctionTopicId := topicId
  closeBarrierSequence := 4
  reservedAt := consensusTimestamp
  reservationRecordHash := []

structure EnvelopeMeasure where
  byteCount : Nat
  margin : Nat
  deriving DecidableEq, Repr

section Measures
variable (c : Crypto) (ids : RouteIdentifiers)

/-- What the message of a record is created from. -/
def RouteIdentifiers.envelopeInput (rr : RouteReservedRecord) (createdAt : JsString) : EnvelopeInput where
  runId := js "reservation-" ++ ids.reservationId
  tenderId := ids.tenderId
  tenderVersion := ids.tenderVersion
  tenderHash := ids.tenderHash
  createdAt := createdAt
  payload := buildRouteReservedPayload rr ids.carrierId

/-- The size of the message; `label` starts the text of the error. -/
def measureEnvelope (label : String) (topicId transactionId consensusTimestamp createdAt : JsString) :
    Except BudgetError EnvelopeMeasure := do
  let rr ← (createRouteReservedRecord c (ids.body topicId transactionId consensusTimestamp)).mapError .service
  let envelope ← (routeReservedEvidence c (ids.envelopeInput rr createdAt)).mapError .service
  let byteCount := measureRouteReservedEnvelope envelope
  require (byteCount < HCS_MAX_MESSAGE_BYTES)
    (.finalDemo (js "HCS_MESSAGE_TOO_LARGE")
      (js label ++ js " ROUTE_RESERVED envelope " ++ decimal byteCount ++ js " exceeds " ++ decimal HCS_MAX_MESSAGE_BYTES))
  pure ⟨byteCount, HCS_MAX_MESSAGE_BYTES - byteCount⟩

/-- The measure, with the run id of the message. -/
def measureFinalDemoConservativeEnvelope (hcsTopicId : Option JsString) :
    Except BudgetError (EnvelopeMeasure × JsString) := do
  let measure ← measureEnvelope c ids "Conservative" (hcsTopicId.getD MAX_TOPIC_ID) MAX_TX_ID MAX_CONSENSUS_TS MAX_CONSENSUS_TS
  pure (measure, js "reservation-" ++ ids.reservationId)

def measureFinalDemoActualEnvelope (hcsTopicId transactionId consensusTimestamp createdAt : JsString) :
    Except BudgetError EnvelopeMeasure :=
  measureEnvelope c ids "Actual" hcsTopicId transactionId consensusTimestamp createdAt

end Measures

/-! ## Creating a message -/

section Creation
variable {c c' : Crypto}

/-- What the creation asks for beside the size. -/
structure Creatable (input : EnvelopeInput) : Prop where
  payload : input.payload.valid = true
  createdAt : isUtcIsoTimestamp input.createdAt = true
  tenderVersion : isSafePositiveInteger input.tenderVersion = true
  tenderHash : isSha256 input.tenderHash = true

/-- The message it makes. -/
def routeEnvelope (c : Crypto) (input : EnvelopeInput) : RouteReservedEnvelope where
  schemaVersion := HCS_SCHEMA_VERSION
  messageType := ROUTE_RESERVED_EVENT_TYPE
  runId := input.runId
  tenderId := input.tenderId
  tenderVersion := input.tenderVersion
  tenderHash := input.tenderHash
  createdAt := input.createdAt
  payloadHash := hashOf c input.payload.toJson
  payload := input.payload

theorem routeReservedEvidence_eq_ok {input : EnvelopeInput} {envelope : RouteReservedEnvelope} :
    routeReservedEvidence c input = .ok envelope ↔
      Creatable input ∧ measureRouteReservedEnvelope (routeEnvelope c input) < HCS_MAX_MESSAGE_BYTES ∧
        routeEnvelope c input = envelope := by
  simp only [routeReservedEvidence, createRouteReservedEnvelope, assertMessageSize, check_eq_ok, require_eq_ok, pure_eq_ok]
  constructor
  · rintro ⟨hpayload, hcreated, hversion, hhash, hsize, heq⟩
    exact ⟨⟨hpayload, hcreated, hversion, hhash⟩, hsize, heq⟩
  · rintro ⟨⟨hpayload, hcreated, hversion, hhash⟩, hsize, heq⟩
    exact ⟨hpayload, hcreated, hversion, hhash, hsize, heq⟩

/-- Texts that are not longer make a message that is not longer, whatever the digests are. -/
theorem measure_mono (hc : c.toPlatform.HexDigest) (hc' : c'.toPlatform.HexDigest) {input input' : EnvelopeInput}
    (hsame : { input with createdAt := [], payload := input'.payload } = { input' with createdAt := [] })
    (hcreated : quotedLength input.createdAt ≤ quotedLength input'.createdAt)
    (hpayload : byteLength input.payload.toJson ≤ byteLength input'.payload.toJson) :
    measureRouteReservedEnvelope (routeEnvelope c input) ≤ measureRouteReservedEnvelope (routeEnvelope c' input') := by
  simp only [EnvelopeInput.mk.injEq, and_true] at hsame
  obtain ⟨hrun, htender, hversion, hhash⟩ := hsame
  have hdigest (payload : RouteReservedPayload) : quotedLength (hashOf c payload.toJson) = 73 :=
    quotedLength_sha256 (isSha256_canonicalSha256 hc _)
  have hdigest' (payload : RouteReservedPayload) : quotedLength (hashOf c' payload.toJson) = 73 :=
    quotedLength_sha256 (isSha256_canonicalSha256 hc' _)
  unfold measureRouteReservedEnvelope
  show byteLength (routeEnvelope c input).toJson ≤ byteLength (routeEnvelope c' input').toJson
  rw [RouteReservedEnvelope.toJson, RouteReservedEnvelope.toJson]
  refine byteLength_obj_le (List.cons_ne_nil _ _) (by simp only [List.map_cons, List.map_nil]) ?_
  simp only [routeEnvelope, List.map_cons, List.map_nil, List.forall₂_cons, byteLength_str, hdigest, hdigest', hrun, htender,
    hversion, hhash, hcreated, hpayload, le_refl, true_and]
  exact .nil

end Creation

/-! ## The texts a payment brings -/

/-- `0.0.A@S.N`, with at most nine, ten and nine digits. -/
def IsPaymentTransactionId (t : JsString) : Prop :=
  ∃ account seconds nanos : JsString, t = js "0.0." ++ account ++ js "@" ++ seconds ++ js "." ++ nanos ∧
    (account.all isDigit = true ∧ account.length ≤ 9) ∧ (seconds.all isDigit = true ∧ seconds.length ≤ 10) ∧
    (nanos.all isDigit = true ∧ nanos.length ≤ 9)

theorem IsPaymentTransactionId.length_le {t : JsString} (h : IsPaymentTransactionId t) :
    1 ≤ t.length ∧ t.length ≤ MAX_TX_ID.length := by
  obtain ⟨account, seconds, nanos, rfl, ⟨-, haccount⟩, ⟨-, hseconds⟩, -, hnanos⟩ := h
  have hmax : MAX_TX_ID.length = 34 := by decide
  have hparts : (js "0.0.").length = 4 ∧ (js "@").length = 1 ∧ (js ".").length = 1 := by decide
  simp only [List.length_append, hparts, hmax]
  omega

theorem IsPaymentTransactionId.mem {t : JsString} (h : IsPaymentTransactionId t) :
    ∀ u ∈ t, isDigit u = true ∨ u ∈ js ".@" := by
  obtain ⟨account, seconds, nanos, rfl, ⟨haccount, -⟩, ⟨hseconds, -⟩, hnanos, -⟩ := h
  have hconst (part : JsString) (h : (part.all fun u => isDigit u || u ∈ js ".@") = true) :
      ∀ u ∈ part, isDigit u = true ∨ u ∈ js ".@" := by
    intro u hu
    simpa using List.all_eq_true.mp h u hu
  rw [List.all_eq_true] at haccount hseconds hnanos
  intro u hu
  simp only [List.mem_append] at hu
  rcases hu with ((((hu | hu) | hu) | hu) | hu) | hu
  · exact hconst (js "0.0.") (by decide) u hu
  · exact .inl (haccount u hu)
  · exact hconst (js "@") (by decide) u hu
  · exact .inl (hseconds u hu)
  · exact hconst (js ".") (by decide) u hu
  · exact .inl (hnanos u hu)

theorem IsPaymentTransactionId.plain {t : JsString} (h : IsPaymentTransactionId t) : Plain t := by
  have hmarks : (js ".@").all isPlain = true := by decide
  rw [Plain, List.all_eq_true]
  intro u hu
  rcases h.mem u hu with hdigit | hmark
  · have hplain := plain_of_isDigit (s := [u]) (by simpa using hdigit)
    simpa using hplain
  · exact List.all_eq_true.mp hmarks u hmark

theorem IsPaymentTransactionId.trim_ne_nil {t : JsString} (h : IsPaymentTransactionId t) : trim t ≠ [] := by
  have hmarks : (js ".@").all (fun u => !isWhitespace u) = true := by decide
  have htrim : trim t = t := by
    refine trim_of_not_whitespace fun u hu => (h.mem u hu).elim not_isWhitespace_of_isDigit fun hmark => ?_
    simpa using List.all_eq_true.mp hmarks u hmark
  rw [htrim]
  intro hnil
  have hlength := h.length_le.1
  rw [hnil] at hlength
  exact absurd hlength (by decide)

theorem quotedLength_transactionId {t : JsString} (h : IsPaymentTransactionId t) :
    quotedLength t ≤ quotedLength MAX_TX_ID := by
  have hmax : Plain MAX_TX_ID := by decide
  rw [quotedLength_of_plain h.plain, quotedLength_of_plain hmax]
  exact Nat.add_le_add_right h.length_le.2 2

theorem quotedLength_timestamp {t : JsString} (h : isUtcIsoTimestamp t = true) :
    quotedLength t ≤ quotedLength MAX_CONSENSUS_TS := by
  have hmax : quotedLength MAX_CONSENSUS_TS = 32 := by decide
  rw [quotedLength_utc h, hmax]
  exact Nat.add_le_add_right (V2.plain_of_isUtcIsoTimestamp h).2 2

/-! ## The bound -/

section Bound
variable {c c' : Crypto} {ids : RouteIdentifiers} {label : String} {topicId transactionId consensusTimestamp createdAt : JsString}

/-- The record of the reserved route, with its hash. -/
def RouteIdentifiers.reserved (c : Crypto) (ids : RouteIdentifiers) (topicId transactionId consensusTimestamp : JsString) :
    RouteReservedRecord :=
  { ids.body topicId transactionId consensusTimestamp with
    reservationRecordHash := hashOf c (routeReservedRecordBody (ids.body topicId transactionId consensusTimestamp)) }

/-- The size of the message. -/
def RouteIdentifiers.bytes (c : Crypto) (ids : RouteIdentifiers)
    (topicId transactionId consensusTimestamp createdAt : JsString) : Nat :=
  measureRouteReservedEnvelope (routeEnvelope c
    (ids.envelopeInput (ids.reserved c topicId transactionId consensusTimestamp) createdAt))

theorem createRouteReservedRecord_eq_ok {body rr : RouteReservedRecord} :
    createRouteReservedRecord c body = .ok rr ↔
      checkRouteReservedRecordBody body = .ok () ∧
        { body with reservationRecordHash := hashOf c (routeReservedRecordBody body) } = rr := by
  rw [createRouteReservedRecord, check_eq_ok, pure_eq_ok]

theorem measureEnvelope_eq_ok {measure : EnvelopeMeasure} :
    measureEnvelope c ids label topicId transactionId consensusTimestamp createdAt = .ok measure ↔
      checkRouteReservedRecordBody (ids.body topicId transactionId consensusTimestamp) = .ok () ∧
      Creatable (ids.envelopeInput (ids.reserved c topicId transactionId consensusTimestamp) createdAt) ∧
      ids.bytes c topicId transactionId consensusTimestamp createdAt < HCS_MAX_MESSAGE_BYTES ∧
      (⟨ids.bytes c topicId transactionId consensusTimestamp createdAt,
        HCS_MAX_MESSAGE_BYTES - ids.bytes c topicId transactionId consensusTimestamp createdAt⟩ : EnvelopeMeasure) =
          measure := by
  simp only [measureEnvelope, bind_eq_ok, mapError_eq_ok, createRouteReservedRecord_eq_ok,
    routeReservedEvidence_eq_ok, require_eq_ok, exists_const, pure_eq_ok]
  constructor
  · rintro ⟨_, ⟨hbody, rfl⟩, _, ⟨hcreatable, hsize, rfl⟩, -, heq⟩
    exact ⟨hbody, hcreatable, hsize, heq⟩
  · rintro ⟨hbody, hcreatable, hsize, heq⟩
    exact ⟨_, ⟨hbody, rfl⟩, _, ⟨hcreatable, hsize, rfl⟩, hsize, heq⟩

/-- The checks of the record under other texts of the payment. -/
theorem checkBody_actual (htx : IsPaymentTransactionId transactionId) (hts : isUtcIsoTimestamp consensusTimestamp = true)
    {otherTopic otherTx otherTs : JsString}
    (h : checkRouteReservedRecordBody (ids.body otherTopic otherTx otherTs) = .ok ()) :
    checkRouteReservedRecordBody (ids.body topicId transactionId consensusTimestamp) = .ok () := by
  simp only [checkRouteReservedRecordBody, check_eq_ok, require_eq_ok] at h ⊢
  obtain ⟨htender, hbid, hmanifest, hset, hcarrier, hpayer, -⟩ := h
  exact ⟨htender, hbid, hmanifest, hset, hcarrier, hpayer, hts, hts, htx.trim_ne_nil⟩

/-- What is asked of a message beside its size, under other texts of the payment. -/
theorem creatable_actual (hc : c.toPlatform.HexDigest) (htx : IsPaymentTransactionId transactionId)
    (hts : isUtcIsoTimestamp consensusTimestamp = true) (hcreated : isUtcIsoTimestamp createdAt = true)
    {otherTopic otherTx otherTs otherCreated : JsString}
    (h : Creatable (ids.envelopeInput (ids.reserved c' otherTopic otherTx otherTs) otherCreated)) :
    Creatable (ids.envelopeInput (ids.reserved c topicId transactionId consensusTimestamp) createdAt) := by
  refine ⟨?_, hcreated, h.tenderVersion, h.tenderHash⟩
  have hvalid := h.payload
  have hhash : isSha256 (hashOf c (routeReservedRecordBody (ids.body topicId transactionId consensusTimestamp))) = true :=
    isSha256_canonicalSha256 hc _
  have hlength := length_of_isSha256 hhash
  have hid := htx.length_le
  have hmax : MAX_TX_ID.length = 34 := by decide
  have htime := (V2.plain_of_isUtcIsoTimestamp hts).2
  have hlower := length_of_isUtcIsoTimestamp hts
  simp only [RouteReservedPayload.valid, bounded, Bool.and_eq_true, decide_eq_true_eq, and_assoc] at hvalid ⊢
  obtain ⟨hreservation, hreservation', hbid, hbid', hcarrier, hcarrier', haccount, haccount', hasset, hasset', hamount,
    hamount', hpayer, hpayer', -, -, -, -, -, -, hversion, hsequence, -, hvalidCarrier, hvalidPayer, -⟩ := hvalid
  have hdigest : 1 ≤ (hashOf c (routeReservedRecordBody (ids.body topicId transactionId consensusTimestamp))).length ∧
      (hashOf c (routeReservedRecordBody (ids.body topicId transactionId consensusTimestamp))).length ≤ 80 := by omega
  exact ⟨hreservation, hreservation', hbid, hbid', hcarrier, hcarrier', haccount, haccount', hasset, hasset', hamount,
    hamount', hpayer, hpayer', hid.1, hid.2.trans (by rw [hmax]; decide), le_trans (by decide) hlower,
    htime.trans (by decide), hdigest.1, hdigest.2, hversion, hsequence, hhash, hvalidCarrier, hvalidPayer, hts⟩

theorem payload_le (hc : c.toPlatform.HexDigest) (hc' : c'.toPlatform.HexDigest) (htx : IsPaymentTransactionId transactionId)
    (hts : isUtcIsoTimestamp consensusTimestamp = true) (otherTopic : JsString) :
    byteLength (buildRouteReservedPayload (ids.reserved c topicId transactionId consensusTimestamp) ids.carrierId).toJson ≤
      byteLength (buildRouteReservedPayload (ids.reserved c' otherTopic MAX_TX_ID MAX_CONSENSUS_TS) ids.carrierId).toJson := by
  have hdigest (value : Json) : quotedLength (hashOf c value) = 73 := quotedLength_sha256 (isSha256_canonicalSha256 hc _)
  have hdigest' (value : Json) : quotedLength (hashOf c' value) = 73 := quotedLength_sha256 (isSha256_canonicalSha256 hc' _)
  rw [RouteReservedPayload.toJson, RouteReservedPayload.toJson, RouteReservedPayload.fields, RouteReservedPayload.fields]
  refine byteLength_obj_le (List.cons_ne_nil _ _) (by simp only [List.map_cons, List.map_nil]) ?_
  simp only [buildRouteReservedPayload, RouteIdentifiers.reserved, RouteIdentifiers.body, List.map_cons, List.map_nil,
    List.forall₂_cons, byteLength_str, hdigest, hdigest', quotedLength_transactionId htx, quotedLength_timestamp hts, le_refl,
    true_and]
  exact .nil

/-- The message of the payment is not longer than the one measured before it. -/
theorem bytes_le (hc : c.toPlatform.HexDigest) (hc' : c'.toPlatform.HexDigest) (htx : IsPaymentTransactionId transactionId)
    (hts : isUtcIsoTimestamp consensusTimestamp = true) (hcreated : isUtcIsoTimestamp createdAt = true)
    (otherTopic : JsString) :
    ids.bytes c topicId transactionId consensusTimestamp createdAt ≤
      ids.bytes c' otherTopic MAX_TX_ID MAX_CONSENSUS_TS MAX_CONSENSUS_TS :=
  measure_mono hc hc' rfl (quotedLength_timestamp hcreated) (payload_le hc hc' htx hts otherTopic)

/-- The measure before the payment does not depend on the digests. -/
theorem conservative_of_digests (hc : c.toPlatform.HexDigest) (hc' : c'.toPlatform.HexDigest) {checkedTopic : Option JsString}
    {budget : EnvelopeMeasure × JsString} (h : measureFinalDemoConservativeEnvelope c' ids checkedTopic = .ok budget) :
    measureFinalDemoConservativeEnvelope c ids checkedTopic = .ok budget := by
  have htx : IsPaymentTransactionId MAX_TX_ID :=
    ⟨js "999999999", js "9999999999", js "999999999", by decide, by decide, by decide, by decide⟩
  have hts : isUtcIsoTimestamp MAX_CONSENSUS_TS = true := by decide
  simp only [measureFinalDemoConservativeEnvelope, bind_eq_ok, pure_eq_ok, measureEnvelope_eq_ok] at h ⊢
  obtain ⟨measure, ⟨hbody, hcreatable, hsize, hmeasure⟩, hbudget⟩ := h
  have hbytes := le_antisymm (@bytes_le c c' ids _ _ _ _ hc hc' htx hts hts (checkedTopic.getD MAX_TOPIC_ID))
    (bytes_le hc' hc htx hts hts (checkedTopic.getD MAX_TOPIC_ID))
  rw [← hbytes] at hsize hmeasure
  exact ⟨measure, ⟨hbody, creatable_actual hc htx hts hts hcreatable, hsize, hmeasure⟩, hbudget⟩

end Bound

/-! ## The publication -/

/-- A reservation of the demo's route: the identifiers of the check, and the only option the demo pays. -/
structure MadeFrom (ids : RouteIdentifiers) (record : ReservationRecord) (selected : SelectedPaymentOption) : Prop where
  identifiers : ids =
    { reservationId := record.reservationId, tenderId := record.tenderId, tenderVersion := record.tenderVersion,
      tenderHash := record.tenderHash, winningBidId := record.winningBidId, winningBidHash := record.winningBidHash,
      carrierId := record.winningCarrierId, carrierAccount := record.winningCarrierAccount,
      decisionManifestHash := record.decisionManifestHash, evaluatedBidSetHash := record.evaluatedBidSetHash }
  closeBarrierSequence : record.closeBarrierSequence = 4
  optionId : selected.optionId = .usdc
  asset : selected.asset = FINAL_DEMO_USDC_TOKEN
  amountAtomic : selected.amountAtomic = FINAL_DEMO_USDC_AMOUNT_ATOMIC
  payerAccount : selected.payerAccount = FINAL_DEMO_PAYER_ACCOUNT

theorem MadeFrom.routeReservedOf {ids : RouteIdentifiers} {record : ReservationRecord} {selected : SelectedPaymentOption}
    (h : MadeFrom ids record selected) (transactionId consensusTimestamp : JsString) :
    routeReservedOf record selected transactionId consensusTimestamp =
      ids.body record.hcsTopicId transactionId consensusTimestamp := by
  obtain ⟨rfl, hbarrier, hoption, hasset, hamount, hpayer⟩ := h
  rw [Reservation.routeReservedOf, RouteIdentifiers.body, hbarrier, hoption, hasset, hamount, hpayer]

/-- The bounds of the decoder on the texts of a message. -/
def ShellBounds (e : RouteReservedEnvelope) : Prop :=
  bounded 64 e.schemaVersion ∧ bounded 128 e.runId ∧ bounded 128 e.tenderId ∧ bounded 80 e.tenderHash ∧
    bounded 256 e.createdAt ∧ bounded 80 e.payloadHash

instance (e : RouteReservedEnvelope) : Decidable (ShellBounds e) :=
  inferInstanceAs (Decidable (_ ∧ _ ∧ _ ∧ _ ∧ _ ∧ _))

section Claim
variable {c : Crypto} {input : EnvelopeInput}

theorem decode_routeEnvelope (hc : c.toPlatform.HexDigest) (h : Creatable input)
    (hsize : measureRouteReservedEnvelope (routeEnvelope c input) < HCS_MAX_MESSAGE_BYTES)
    (hbounds : ShellBounds (routeEnvelope c input)) :
    decodeRouteReservedEnvelope c (routeEnvelope c input) = .ok () := by
  have hhash : isSha256 (hashOf c input.payload.toJson) = true := isSha256_canonicalSha256 hc _
  simp only [decodeRouteReservedEnvelope, assertMessageSize, check_eq_ok, require_eq_ok]
  exact ⟨hbounds, rfl, h.tenderVersion, h.createdAt, ⟨h.tenderHash, hhash⟩, rfl, rfl, h.payload, hsize⟩

/-- The checks before a claim: a created message passes them, or a text of its shell is too long for the decoder. -/
theorem assertClaimable_routeEnvelope (hc : c.toPlatform.HexDigest) (h : Creatable input)
    (hsize : measureRouteReservedEnvelope (routeEnvelope c input) < HCS_MAX_MESSAGE_BYTES) {rr : RouteReservedRecord}
    (hrr : input.payload.reservationRecordHash = rr.reservationRecordHash) :
    assertClaimableRouteReservedPublication c (routeEnvelope c input) rr.hcsAuctionTopicId rr rr.hcsAuctionTopicId =
      if ShellBounds (routeEnvelope c input) then
        .ok (routeReservedEnvelopeHash c (routeEnvelope c input), measureRouteReservedEnvelope (routeEnvelope c input))
      else .error (envelopeError "Malformed HCS envelope") := by
  have hrr' : (routeEnvelope c input).payload.reservationRecordHash = rr.reservationRecordHash := hrr
  by_cases hbounds : ShellBounds (routeEnvelope c input)
  · rw [if_pos hbounds]
    simp only [assertClaimableRouteReservedPublication, check_eq_ok, require_eq_ok, pure_eq_ok]
    exact ⟨rfl, trivial, trivial, hrr', decode_routeEnvelope hc h hsize hbounds, hsize, trivial⟩
  · rw [if_neg hbounds]
    have hdecode : decodeRouteReservedEnvelope c (routeEnvelope c input) =
        .error (envelopeError "Malformed HCS envelope") := by
      rw [decodeRouteReservedEnvelope, bind_eq_error]
      exact .inl (require_eq_error.mpr ⟨hbounds, rfl⟩)
    simp only [assertClaimableRouteReservedPublication, bind_eq_error, require_eq_error, require_eq_ok, exists_const]
    exact .inr ⟨rfl, .inr ⟨trivial, .inr ⟨trivial, .inr ⟨hrr', .inl hdecode⟩⟩⟩⟩

end Claim

/-- What the service is about to publish is claimed with its size, or a text of its shell is too long for the decoder. -/
theorem claimable_of_fits {deps : ServiceDeps} (hc : deps.crypto.toPlatform.HexDigest) {ids : RouteIdentifiers}
    {record : ReservationRecord} {selected : SelectedPaymentOption} (h : MadeFrom ids record selected)
    {rr : RouteReservedRecord} (htopic : rr.hcsAuctionTopicId = record.hcsTopicId) {createdAt : JsString}
    (hcreatable : Creatable (ids.envelopeInput rr createdAt))
    (hsize : measureRouteReservedEnvelope (routeEnvelope deps.crypto (ids.envelopeInput rr createdAt)) <
      HCS_MAX_MESSAGE_BYTES) :
    (∃ claimable, claimableEnvelope deps record rr createdAt = .ok claimable ∧
      claimable.encodedByteCount =
        measureRouteReservedEnvelope (routeEnvelope deps.crypto (ids.envelopeInput rr createdAt))) ∨
    claimableEnvelope deps record rr createdAt = .error (envelopeError "Malformed HCS envelope") := by
  have hinput : EnvelopeInput.mk (js "reservation-" ++ record.reservationId) record.tenderId record.tenderVersion
      record.tenderHash createdAt (buildRouteReservedPayload rr record.winningCarrierId) = ids.envelopeInput rr createdAt := by
    rw [h.identifiers]
    rfl
  have hcreated := (routeReservedEvidence_eq_ok (c := deps.crypto)).mpr ⟨hcreatable, hsize, rfl⟩
  have hchecked := @assertClaimable_routeEnvelope _ _ hc hcreatable hsize rr rfl
  rw [htopic] at hchecked
  rw [claimableEnvelope, hinput, hcreated]
  generalize henvelope : routeEnvelope deps.crypto (ids.envelopeInput rr createdAt) = envelope at hchecked ⊢
  by_cases hbounds : ShellBounds envelope
  · rw [if_pos hbounds] at hchecked
    refine .inl ⟨⟨envelope, routeReservedEnvelopeHash deps.crypto envelope, measureRouteReservedEnvelope envelope⟩, ?_, ?_⟩
    · refine bind_eq_ok.mpr ⟨_, rfl, bind_eq_ok.mpr ⟨_, hchecked, ?_⟩⟩
      dsimp only
      rfl
    · dsimp only
  · rw [if_neg hbounds] at hchecked
    exact .inr (bind_eq_error.mpr (.inr ⟨_, rfl, bind_eq_error.mpr (.inl hchecked)⟩))

/-- **The budget is an upper bound.** Where the measure before the payment succeeds, the measure of the same route with any
transaction id of the payment, any timestamp of the network and any time of creation succeeds and is not larger; and for a
reservation made from the route, the message that is about to be published never fails because of its size. -/
theorem conservative_bounds_actual {deps : ServiceDeps} (hc : deps.crypto.toPlatform.HexDigest) {ids : RouteIdentifiers}
    {checkedTopic : Option JsString} {budget : EnvelopeMeasure × JsString}
    (h : measureFinalDemoConservativeEnvelope deps.crypto ids checkedTopic = .ok budget) {topicId transactionId : JsString}
    (htx : IsPaymentTransactionId transactionId) {consensusTimestamp createdAt : JsString}
    (hts : isUtcIsoTimestamp consensusTimestamp = true) (hcreated : isUtcIsoTimestamp createdAt = true) :
    (∃ actual, measureFinalDemoActualEnvelope deps.crypto ids topicId transactionId consensusTimestamp createdAt = .ok actual ∧
      actual.byteCount ≤ budget.1.byteCount) ∧
    ∀ record selected rr, MadeFrom ids record selected →
      createRouteReservedRecord deps.crypto (routeReservedOf record selected transactionId consensusTimestamp) = .ok rr →
      (∃ claimable, claimableEnvelope deps record rr createdAt = .ok claimable ∧
        claimable.encodedByteCount ≤ budget.1.byteCount) ∨
      claimableEnvelope deps record rr createdAt = .error (envelopeError "Malformed HCS envelope") := by
  simp only [measureFinalDemoConservativeEnvelope, bind_eq_ok, pure_eq_ok, measureEnvelope_eq_ok] at h
  obtain ⟨measure, ⟨hbody, hcreatable, hsize, hmeasure⟩, hbudget⟩ := h
  have hcount : ids.bytes deps.crypto (checkedTopic.getD MAX_TOPIC_ID) MAX_TX_ID MAX_CONSENSUS_TS MAX_CONSENSUS_TS =
      budget.1.byteCount := by rw [← hbudget, ← hmeasure]
  rw [hcount] at hsize
  have hle (topic : JsString) :
      ids.bytes deps.crypto topic transactionId consensusTimestamp createdAt ≤ budget.1.byteCount :=
    hcount ▸ bytes_le hc hc htx hts hcreated _
  have hcreatable' (topic : JsString) : Creatable
      (ids.envelopeInput (ids.reserved deps.crypto topic transactionId consensusTimestamp) createdAt) :=
    creatable_actual hc htx hts hcreated hcreatable
  have hfits (topic : JsString) : ids.bytes deps.crypto topic transactionId consensusTimestamp createdAt <
      HCS_MAX_MESSAGE_BYTES := (hle topic).trans_lt hsize
  have hactual : measureFinalDemoActualEnvelope deps.crypto ids topicId transactionId consensusTimestamp createdAt =
      .ok ⟨ids.bytes deps.crypto topicId transactionId consensusTimestamp createdAt,
        HCS_MAX_MESSAGE_BYTES - ids.bytes deps.crypto topicId transactionId consensusTimestamp createdAt⟩ := by
    rw [measureFinalDemoActualEnvelope, measureEnvelope_eq_ok]
    exact ⟨checkBody_actual htx hts hbody, hcreatable' topicId, hfits topicId, rfl⟩
  refine ⟨⟨_, hactual, hle topicId⟩, fun record selected rr hmade hrr => ?_⟩
  rw [hmade.routeReservedOf, createRouteReservedRecord_eq_ok] at hrr
  obtain ⟨-, hreserved⟩ := hrr
  have htopic : rr.hcsAuctionTopicId = record.hcsTopicId := hreserved ▸ rfl
  have hcreatable'' := hcreatable' record.hcsTopicId
  have hfits' := hfits record.hcsTopicId
  have hle' := hle record.hcsTopicId
  rw [RouteIdentifiers.bytes, RouteIdentifiers.reserved, hreserved] at hfits' hle'
  rw [RouteIdentifiers.reserved, hreserved] at hcreatable''
  rcases claimable_of_fits hc hmade htopic hcreatable'' hfits' with ⟨claimable, hclaimable, hsame⟩ | hmalformed
  · exact .inl ⟨claimable, hclaimable, hsame.trans_le hle'⟩
  · exact .inr hmalformed

namespace DemoRoute

def crypto : Crypto where
  toPlatform := asciiPlatform fun _ _ _ => false
  sign := fun _ _ => []

/-- The same, with digests that are quickly computed. -/
def plainCrypto : Crypto := { crypto with sha256Hex := fun _ => List.replicate 64 0x61 }

theorem hexDigest_plainCrypto : plainCrypto.toPlatform.HexDigest := by
  intro text
  have hall : (List.replicate 64 (0x61 : UInt16)).all isLowerHex = true := by decide
  exact ⟨List.length_replicate, hall⟩

/-- A digest of one digit. -/
def hash (digit : Char) : JsString := js "sha256:" ++ js (String.ofList (List.replicate 64 digit))

def identifiers : RouteIdentifiers where
  reservationId := js "reservation-demo-1"
  tenderId := js "tender-1"
  tenderVersion := 1
  tenderHash := hash 'a'
  winningBidId := js "bid-1"
  winningBidHash := hash 'b'
  carrierId := js "carrier-1"
  carrierAccount := js "0.0.1001"
  decisionManifestHash := hash 'c'
  evaluatedBidSetHash := hash 'd'

def deps : ServiceDeps where
  crypto := crypto
  webhookSigningPrivateKey := js "key"
  confirmationTimeoutMs := 60000
  mirrorPollIntervalMs := 1000
  hasHcsResolver := true
  depth := 2

end DemoRoute

/-- The message of a route of the demo, measured before and after its payment. -/
theorem conservative_bounds_actual_demo : ∃ budget actual,
    measureFinalDemoConservativeEnvelope DemoRoute.crypto DemoRoute.identifiers none = .ok budget ∧
      measureFinalDemoActualEnvelope DemoRoute.crypto DemoRoute.identifiers (js "0.0.5005") (js "0.0.1001@1767225600.5")
        (js "2026-01-01T00:00:01.25Z") (js "2026-01-01T00:00:02.000Z") = .ok actual ∧
      actual.byteCount ≤ budget.1.byteCount := by
  have hplain : (measureFinalDemoConservativeEnvelope DemoRoute.plainCrypto DemoRoute.identifiers none).toOption.isSome =
      true := by decide +kernel
  obtain ⟨budget, hplain⟩ := Option.isSome_iff_exists.mp hplain
  have hbudget := @conservative_of_digests DemoRoute.crypto _ _ (hexDigest_asciiPlatform _) DemoRoute.hexDigest_plainCrypto _ _
    (toOption_eq_some.mp hplain)
  have htx : IsPaymentTransactionId (js "0.0.1001@1767225600.5") :=
    ⟨js "1001", js "1767225600", js "5", by decide, by decide, by decide, by decide⟩
  obtain ⟨⟨actual, hactual, hle⟩, -⟩ := @conservative_bounds_actual DemoRoute.deps (hexDigest_asciiPlatform _)
    DemoRoute.identifiers none budget hbudget (js "0.0.5005") _ htx (js "2026-01-01T00:00:01.25Z")
    (js "2026-01-01T00:00:02.000Z") (by decide) (by decide)
  exact ⟨budget, actual, hbudget, hactual, hle⟩

end RouteGuard.FinalDemo
