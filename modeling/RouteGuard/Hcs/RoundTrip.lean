import RouteGuard.Hcs.Envelope
import RouteGuard.Store.Accepted

/-!
# What is published can be read back

The constructors bound every field of a payload but not the two identifiers that only the shell holds; the decoder
bounds those as well. Below that bound decoding is the inverse of encoding.

* `decodeFields_sorted` : the decoder on the fields of an envelope in key order;
* `decode_encode_iff` : when a created envelope is read back.
-/

namespace RouteGuard.Hcs
open JsString Json Guarded Reservation Store

/-! ## Bounds that the formats imply -/

theorem length_of_takeDigits {n : Nat} {s d rest : JsString} (h : takeDigits n s = some (d, rest)) :
    s.length = n + rest.length := by
  unfold takeDigits at h
  split at h
  next hc =>
    rw [Option.some.injEq, Prod.mk.injEq] at h
    have htake := hc.1
    rw [List.length_take] at htake
    rw [← h.2, List.length_drop]
    omega
  next => exact absurd h (by simp)

theorem length_of_takeUnit {u : UInt16} {s rest : JsString} (h : takeUnit u s = some rest) :
    s.length = rest.length + 1 := by
  cases s with
  | nil => exact absurd h (by simp [takeUnit])
  | cons v s =>
    simp only [takeUnit] at h
    split at h
    next => rw [← Option.some.inj h, List.length_cons]
    next => exact absurd h (by simp)

theorem length_of_takeFraction {s frac : JsString} (h : takeFraction s = some frac) : s.length ≤ 11 := by
  cases s with
  | nil => exact Nat.zero_le _
  | cons u rest =>
    simp only [takeFraction] at h
    split at h
    next =>
      split at h
      next hnil => simp [hnil]
      next => exact absurd h (by simp)
    next =>
      split at h
      next =>
        split at h
        next hc =>
          have hlen := congrArg List.length hc.2.2
          rw [List.length_drop, List.length_singleton] at hlen
          rw [List.length_cons]
          omega
        next => exact absurd h (by simp)
      next => exact absurd h (by simp)

theorem length_of_matchUtcIso {s : JsString} {m : UtcIsoMatch} (h : matchUtcIso s = some m) :
    19 ≤ s.length ∧ s.length ≤ 30 := by
  simp only [matchUtcIso, Option.bind_eq_bind, Option.bind_eq_some_iff, Prod.exists] at h
  obtain ⟨_, s1, h1, s2, h2, _, s3, h3, s4, h4, _, s5, h5, s6, h6, _, s7, h7, s8, h8, _, s9, h9, s10, h10, _, s11,
    h11, frac, hfrac, -⟩ := h
  have e1 := length_of_takeDigits h1
  have e2 := length_of_takeUnit h2
  have e3 := length_of_takeDigits h3
  have e4 := length_of_takeUnit h4
  have e5 := length_of_takeDigits h5
  have e6 := length_of_takeUnit h6
  have e7 := length_of_takeDigits h7
  have e8 := length_of_takeUnit h8
  have e9 := length_of_takeDigits h9
  have e10 := length_of_takeUnit h10
  have e11 := length_of_takeDigits h11
  have e12 := length_of_takeFraction hfrac
  omega

theorem bounded_of_isUtcIsoTimestamp {s : JsString} (h : isUtcIsoTimestamp s = true) : bounded 256 s = true := by
  obtain ⟨n, hn⟩ := isUtcIsoTimestamp_iff.mp h
  obtain ⟨parsed, hp, -⟩ := instant_eq_some.mp hn
  simp only [parseUtcTimestamp, check_eq_ok] at hp
  obtain ⟨-, hp⟩ := hp
  split at hp
  next => exact absurd hp (by simp)
  next m hm =>
    have hlen := length_of_matchUtcIso hm
    simp only [bounded, Bool.and_eq_true, decide_eq_true_eq]
    omega

theorem bounded_of_isSha256 {s : JsString} (h : isSha256 s = true) : bounded 80 s = true := by
  simp only [isSha256, Bool.and_eq_true, decide_eq_true_eq] at h
  have hlen : (s.drop 7).length = 64 := h.1.2
  rw [List.length_drop] at hlen
  simp only [bounded, Bool.and_eq_true, decide_eq_true_eq]
  omega

/-! ## Encoding -/

theorem AuctionOpenPayload.keys_nodup (p : AuctionOpenPayload) : (p.fields.map Prod.fst).Nodup := by
  simp only [AuctionOpenPayload.fields, List.map_cons, List.map_nil]
  decide

theorem BidCommitmentPayload.keys_nodup (p : BidCommitmentPayload) : (p.fields.map Prod.fst).Nodup := by
  simp only [BidCommitmentPayload.fields, List.map_cons, List.map_nil]
  decide

theorem AuctionCloseBarrierPayload.keys_nodup (p : AuctionCloseBarrierPayload) : (p.fields.map Prod.fst).Nodup := by
  simp only [AuctionCloseBarrierPayload.fields, List.map_cons, List.map_nil]
  decide

theorem RouteReservedPayload.keys_nodup (p : RouteReservedPayload) : (p.fields.map Prod.fst).Nodup := by
  simp only [RouteReservedPayload.fields, List.map_cons, List.map_nil]
  decide

theorem HcsPayload.keys_nodup (payload : HcsPayload) : (payload.fields.map Prod.fst).Nodup := by
  cases payload with
  | auctionOpen p => exact p.keys_nodup
  | bidCommitment p => exact p.keys_nodup
  | auctionCloseBarrier p => exact p.keys_nodup
  | routeReserved p => exact RouteReservedPayload.keys_nodup p

theorem distinctItems_str (l : List JsString) : DistinctItems (l.map .str) := by
  induction l with
  | nil => trivial
  | cons s rest ih => exact ⟨trivial, ih⟩

theorem HcsPayload.distinct (payload : HcsPayload) : Distinct (.obj payload.fields) := by
  refine ⟨payload.keys_nodup, ?_⟩
  cases payload with
  | auctionOpen p => simp [HcsPayload.fields, AuctionOpenPayload.fields, DistinctFields, Distinct]
  | bidCommitment p => simp [HcsPayload.fields, BidCommitmentPayload.fields, DistinctFields, Distinct]
  | auctionCloseBarrier p =>
    simp [HcsPayload.fields, AuctionCloseBarrierPayload.fields, DistinctFields, Distinct, distinctItems_str]
  | routeReserved p => simp [HcsPayload.fields, RouteReservedPayload.fields, DistinctFields, Distinct]

theorem HcsEnvelope.keys_nodup (e : HcsEnvelope) : (e.fields.map Prod.fst).Nodup := by
  simp only [HcsEnvelope.fields, List.map_cons, List.map_nil]
  decide

theorem HcsEnvelope.distinct (e : HcsEnvelope) : Distinct e.toJson := by
  refine ⟨e.keys_nodup, ?_⟩
  have hpayload := e.payload.distinct
  simpa [HcsEnvelope.fields, DistinctFields, Distinct] using hpayload

/-- The text of a message is read back as its fields in key order. -/
theorem decodeHcsEnvelopeFromBytes_encode (p : Platform) (e : HcsEnvelope) :
    decodeHcsEnvelopeFromBytes p (encodeHcsEnvelopeUtf8 e) = decodeFields p (sorted e.fields) := by
  have hprint : e.toJson.canonicalize = print (.obj (sorted e.fields)) := canonicalize_eq_print e.toJson
  have hdecode : TextCodec.decodeUtf8 (encodeHcsEnvelopeUtf8 e) = some e.toJson.canonicalize := by
    rw [encodeHcsEnvelopeUtf8, hprint, TextCodec.decodeUtf8_print_obj]
  have hparse : parse e.toJson.canonicalize = some (.obj (sorted e.fields)) := parse_canonicalize e.distinct
  simp only [decodeHcsEnvelopeFromBytes, hdecode, decodeHcsEnvelope, hparse]

theorem decodeHcsEnvelopeFromBase64_encode (p : Platform) (e : HcsEnvelope) :
    decodeHcsEnvelopeFromBase64 p (TextCodec.toBase64 (encodeHcsEnvelopeUtf8 e)) =
      decodeHcsEnvelopeFromBytes p (encodeHcsEnvelopeUtf8 e) := by
  have hbytes : ∀ b ∈ encodeHcsEnvelopeUtf8 e, b < 256 := TextCodec.utf8_lt _
  rw [decodeHcsEnvelopeFromBase64, TextCodec.fromBase64_toBase64 hbytes]

/-! ## Reading the fields back -/

theorem mapM_asStr_str (l : List JsString) : (l.map Json.str).mapM asStr = some l := by
  induction l with
  | nil => rfl
  | cons s rest ih => simp [ih, asStr]

theorem onlyFields_sorted (known : List JsString) (fields : List (JsString × Json))
    (h : (fields.map Prod.fst).all known.contains = true) : onlyFields known (sorted fields) = some () := by
  rw [onlyFields, if_pos]
  rw [List.all_eq_true] at h ⊢
  intro f hf
  exact h _ ((keys_sorted fields).mem_iff.mp (List.mem_map.mpr ⟨f, hf, rfl⟩))

theorem assertNoProhibitedFields_sorted {messageType : HcsMessageType} {prohibited : List JsString}
    {fields : List (JsString × Json)} (h : prohibited.all (fun k => !(fields.map Prod.fst).contains k) = true) :
    assertNoProhibitedFields messageType prohibited (sorted fields) = .ok () := by
  have hnone : (prohibited.find? fun k => ((sorted fields).map Prod.fst).contains k) = none := by
    rw [List.find?_eq_none]
    intro k hk hin
    rw [List.contains_iff_mem, (keys_sorted fields).mem_iff] at hin
    have hout := List.all_eq_true.mp h k hk
    rw [Bool.not_eq_true', ← Bool.not_eq_true, List.contains_iff_mem] at hout
    exact hout hin
  rw [assertNoProhibitedFields, hnone]

theorem readAuctionOpenPayload_sorted {p : AuctionOpenPayload} (h : p.valid = true) :
    readAuctionOpenPayload (sorted p.fields) = some p := by
  have hn := p.keys_nodup
  simp only [readAuctionOpenPayload, readStr_sorted hn, readNum_sorted hn, readConstant_sorted hn]
  show (if p.valid = true then some p else none) = some p
  rw [if_pos h]

theorem readBidCommitmentPayload_sorted {p : BidCommitmentPayload} (h : p.valid = true) :
    readBidCommitmentPayload (sorted p.fields) = some p := by
  have hn := p.keys_nodup
  have honly := onlyFields_sorted [js "bidId", js "carrierId", js "bidHash", js "acceptanceReceiptHash",
    js "bidVersion", js "commitmentSchemaVersion"] p.fields rfl
  simp only [readBidCommitmentPayload, readStr_sorted hn, readNum_sorted hn, readConstant_sorted hn, honly]
  show (if p.valid = true then some p else none) = some p
  rw [if_pos h]

theorem readAuctionCloseBarrierPayload_sorted {p : AuctionCloseBarrierPayload} (h : p.valid = true) :
    readAuctionCloseBarrierPayload (sorted p.fields) = some p := by
  have hn := p.keys_nodup
  have hhashes : readStrs p.fields (js "commitmentEnvelopeHashes") = some p.commitmentEnvelopeHashes :=
    mapM_asStr_str p.commitmentEnvelopeHashes
  simp only [readAuctionCloseBarrierPayload, readStr_sorted hn, readNum_sorted hn, readConstant_sorted hn,
    readStrs_sorted hn, hhashes]
  show (if p.valid = true then some p else none) = some p
  rw [if_pos h]

theorem readOptionId_text (id : ReservationOptionId) : readOptionId id.text = some id := by
  cases id <;> rfl

theorem readRouteReservedPayload_sorted {p : RouteReservedPayload} (h : p.valid = true) :
    readRouteReservedPayload (sorted p.fields) = some p := by
  have hn := RouteReservedPayload.keys_nodup p
  have hoption : (readStr p.fields (js "selectedOptionId")).bind readOptionId = some p.selectedOptionId :=
    readOptionId_text p.selectedOptionId
  have honly := onlyFields_sorted [js "reservationId", js "winningBidId", js "carrierId", js "carrierAccount",
    js "selectedOptionId", js "paymentAsset", js "paymentAmountAtomic", js "payerAccount", js "paymentTransactionId",
    js "paymentConsensusTimestamp", js "reservationRecordHash", js "closeBarrierSequence",
    js "reservationEvidenceVersion"] p.fields rfl
  simp only [readRouteReservedPayload, readStr_sorted hn, readNum_sorted hn, hoption, honly]
  show (if p.valid = true then some p else none) = some p
  rw [if_pos h]

/-! ## The shell -/

/-- The shell that the decoder reads from an envelope's fields in key order. -/
def HcsEnvelope.shell (e : HcsEnvelope) : EnvelopeShell where
  schemaVersion := HCS_SCHEMA_VERSION
  messageType := e.messageType
  runId := e.runId
  tenderId := e.tenderId
  tenderVersion := e.tenderVersion
  tenderHash := e.tenderHash
  createdAt := e.createdAt
  payloadHash := e.payloadHash
  payload := sorted e.payload.fields

theorem readMessageType_text (t : HcsMessageType) : readMessageType t.text = some t := by
  cases t <;> rfl

theorem readEnvelopeShell_sorted (e : HcsEnvelope) :
    readEnvelopeShell (sorted e.fields) = if e.shell.bounds then some e.shell else none := by
  have hn := e.keys_nodup
  have htype : (readStr e.fields (js "messageType")).bind readMessageType = some e.messageType :=
    readMessageType_text e.messageType
  simp only [readEnvelopeShell, readStr_sorted hn, readNum_sorted hn, readObj_sorted hn, htype]
  rfl

/-- What a payload repeats of its shell. -/
def HcsPayload.Bound (tenderId : JsString) (tenderVersion : Int) (tenderHash : JsString) : HcsPayload → Prop
  | .auctionOpen p => p.tenderId = tenderId ∧ p.tenderVersion = tenderVersion ∧ p.tenderHash = tenderHash
  | .bidCommitment _ => True
  | .auctionCloseBarrier p => p.tenderId = tenderId ∧ p.tenderVersion = tenderVersion ∧ p.tenderHash = tenderHash
  | .routeReserved _ => True

theorem assertPayloadTender_eq_ok {label tenderId : JsString} {tenderVersion : Int} {tenderHash shellTenderId : JsString}
    {shellTenderVersion : Int} {shellTenderHash : JsString} {u : Unit} :
    assertPayloadTender label tenderId tenderVersion tenderHash shellTenderId shellTenderVersion shellTenderHash = .ok u ↔
      tenderId = shellTenderId ∧ tenderVersion = shellTenderVersion ∧ tenderHash = shellTenderHash := by
  simp only [assertPayloadTender, check_eq_ok, require_eq_ok]

theorem readPayload_shell {e : HcsEnvelope} (hv : e.payload.valid = true)
    (hb : e.payload.Bound e.tenderId e.tenderVersion e.tenderHash) : readPayload e.shell = .ok e.payload := by
  obtain ⟨runId, tenderId, tenderVersion, tenderHash, createdAt, payloadHash, payload⟩ := e
  cases payload with
  | auctionOpen p =>
    have hread : readAuctionOpenPayload (sorted p.fields) = some p := readAuctionOpenPayload_sorted hv
    have htender : assertPayloadTender (js "OPEN") p.tenderId p.tenderVersion p.tenderHash tenderId tenderVersion
        tenderHash = .ok () := assertPayloadTender_eq_ok.mpr hb
    simp only [readPayload, HcsEnvelope.shell, HcsEnvelope.messageType, HcsPayload.messageType, HcsPayload.fields, hread,
      htender]
    rfl
  | bidCommitment p =>
    have hread : readBidCommitmentPayload (sorted p.fields) = some p := readBidCommitmentPayload_sorted hv
    have hclean : assertNoProhibitedFields .BID_COMMITMENT PROHIBITED_COMMITMENT_PAYLOAD_FIELDS (sorted p.fields) =
        .ok () := assertNoProhibitedFields_sorted rfl
    simp only [readPayload, HcsEnvelope.shell, HcsEnvelope.messageType, HcsPayload.messageType, HcsPayload.fields, hread,
      hclean]
    rfl
  | auctionCloseBarrier p =>
    have hread : readAuctionCloseBarrierPayload (sorted p.fields) = some p := readAuctionCloseBarrierPayload_sorted hv
    have htender : assertPayloadTender (js "BARRIER") p.tenderId p.tenderVersion p.tenderHash tenderId tenderVersion
        tenderHash = .ok () := assertPayloadTender_eq_ok.mpr hb
    simp only [readPayload, HcsEnvelope.shell, HcsEnvelope.messageType, HcsPayload.messageType, HcsPayload.fields, hread,
      htender]
    rfl
  | routeReserved p =>
    have hread : readRouteReservedPayload (sorted p.fields) = some p := readRouteReservedPayload_sorted hv
    have hclean : assertNoProhibitedFields .ROUTE_RESERVED PROHIBITED_ROUTE_RESERVED_PAYLOAD_FIELDS
        (sorted p.fields) = .ok () := assertNoProhibitedFields_sorted rfl
    simp only [readPayload, HcsEnvelope.shell, HcsEnvelope.messageType, HcsPayload.messageType, HcsPayload.fields, hread,
      hclean]
    rfl

/-! ## Created envelopes -/

section Created
variable {p : Platform} {header : EnvelopeHeader} {payload : HcsPayload} {e : HcsEnvelope}

/-- The constructor of the payload's message type. -/
def createEnvelope (p : Platform) (header : EnvelopeHeader) : HcsPayload → Except HcsEnvelopeError HcsEnvelope
  | .auctionOpen payload => createAuctionOpenEnvelope p header payload
  | .bidCommitment payload => createBidCommitmentEnvelope p header payload
  | .auctionCloseBarrier payload => createCloseBarrierEnvelope p header payload
  | .routeReserved payload => createHcsRouteReservedEnvelope p header payload

/-- The envelope of a header and a payload. -/
def envelopeOf (p : Platform) (header : EnvelopeHeader) (payload : HcsPayload) : HcsEnvelope where
  runId := header.runId
  tenderId := header.tenderId
  tenderVersion := header.tenderVersion
  tenderHash := header.tenderHash
  createdAt := header.createdAt
  payloadHash := computePayloadHash p payload.fields
  payload := payload

/-- What every constructor checks. -/
structure Creatable (p : Platform) (header : EnvelopeHeader) (payload : HcsPayload) : Prop where
  valid : payload.valid = true
  bound : payload.Bound header.tenderId header.tenderVersion header.tenderHash
  createdAt : isUtcIsoTimestamp header.createdAt = true
  tenderVersion : isSafePositiveInteger header.tenderVersion = true
  tenderHash : isSha256 header.tenderHash = true
  size : exceedsHcsMessageLimit (measureHcsMessageBytes (envelopeOf p header payload)) = false

theorem buildEnvelopeShell_eq_ok : buildEnvelopeShell p header payload = .ok e ↔
    isUtcIsoTimestamp header.createdAt = true ∧ isSafePositiveInteger header.tenderVersion = true ∧
      isSha256 header.tenderHash = true ∧ envelopeOf p header payload = e := by
  simp only [buildEnvelopeShell, check_eq_ok, require_eq_ok, pure_eq_ok]
  rfl

/-- The reservation evidence is created as the other messages are. -/
theorem createHcsRouteReservedEnvelope_eq_ok {payload : RouteReservedPayload} :
    createHcsRouteReservedEnvelope p header payload = .ok e ↔ payload.valid = true ∧
      ∃ built, buildEnvelopeShell p header (.routeReserved payload) = .ok built ∧
        exceedsHcsMessageLimit (measureHcsMessageBytes built) = false ∧ built = e := by
  simp only [createHcsRouteReservedEnvelope, createRouteReservedEnvelope, assertMessageSize, bind_eq_ok, require_eq_ok,
    exists_const, pure_eq_ok, buildEnvelopeShell_eq_ok, exceedsHcsMessageLimit, decide_eq_false_iff_not, not_le]
  -- both measures are of the same bytes
  unfold measureRouteReservedEnvelope
  constructor
  · rintro ⟨_, ⟨hvalid, hcreated, hversion, hhash, hsize, rfl⟩, rfl⟩
    exact ⟨hvalid, _, ⟨hcreated, hversion, hhash, rfl⟩, hsize, rfl⟩
  · rintro ⟨hvalid, _, ⟨hcreated, hversion, hhash, rfl⟩, hsize, rfl⟩
    exact ⟨_, ⟨hvalid, hcreated, hversion, hhash, hsize, rfl⟩, rfl⟩

theorem createEnvelope_eq_ok :
    createEnvelope p header payload = .ok e ↔ Creatable p header payload ∧ envelopeOf p header payload = e := by
  have hiff : createEnvelope p header payload = .ok e ↔ payload.valid = true ∧
      payload.Bound header.tenderId header.tenderVersion header.tenderHash ∧
        ∃ built, buildEnvelopeShell p header payload = .ok built ∧
          exceedsHcsMessageLimit (measureHcsMessageBytes built) = false ∧ built = e := by
    cases payload <;>
      simp only [createEnvelope, createAuctionOpenEnvelope, createBidCommitmentEnvelope, createCloseBarrierEnvelope,
        createHcsRouteReservedEnvelope_eq_ok, HcsPayload.valid, HcsPayload.Bound, assertHcsMessageSize, bind_eq_ok,
        require_eq_ok, exists_const, pure_eq_ok, assertPayloadTender_eq_ok, true_and]
  rw [hiff]
  constructor
  · rintro ⟨hv, hb, built, hbuilt, hsize, rfl⟩
    obtain ⟨hc, ht, hh, rfl⟩ := buildEnvelopeShell_eq_ok.mp hbuilt
    exact ⟨⟨hv, hb, hc, ht, hh, hsize⟩, rfl⟩
  · rintro ⟨h, rfl⟩
    exact ⟨h.valid, h.bound, _, buildEnvelopeShell_eq_ok.mpr ⟨h.createdAt, h.tenderVersion, h.tenderHash, rfl⟩,
      h.size, rfl⟩

theorem shell_bounds_iff (hp : p.HexDigest) (h : Creatable p header payload) :
    (envelopeOf p header payload).shell.bounds = true ↔ bounded 128 header.runId ∧ bounded 128 header.tenderId := by
  have hversion : bounded 64 HCS_SCHEMA_VERSION = true := by decide
  have hhash : bounded 80 (computePayloadHash p payload.fields) = true :=
    bounded_of_isSha256 (isSha256_canonicalSha256 hp _)
  simp only [EnvelopeShell.bounds, HcsEnvelope.shell, envelopeOf, hversion, hhash, bounded_of_isSha256 h.tenderHash,
    bounded_of_isUtcIsoTimestamp h.createdAt, Bool.and_true, Bool.true_and, Bool.and_eq_true]

/-- The decoder on the fields of a created envelope: past the shell's bounds nothing is rejected or altered. -/
theorem decodeFields_sorted (hp : p.HexDigest) (h : Creatable p header payload) :
    decodeFields p (sorted (envelopeOf p header payload).fields) = .ok (envelopeOf p header payload) ↔
      bounded 128 header.runId ∧ bounded 128 header.tenderId := by
  rw [← shell_bounds_iff hp h, decodeFields, readEnvelopeShell_sorted]
  by_cases hbounds : (envelopeOf p header payload).shell.bounds = true
  · have hpayload : readPayload (envelopeOf p header payload).shell = .ok payload := readPayload_shell h.valid h.bound
    have hrehash : computePayloadHash p (sorted payload.fields) = computePayloadHash p payload.fields :=
      congrArg (fun text => js "sha256:" ++ p.sha256Hex text) (canonicalize_normalize (.obj payload.fields))
    simp only [hbounds, if_true, iff_true, assertHcsMessageSize, bind_eq_ok, require_eq_ok, exists_const, pure_eq_ok]
    exact ⟨rfl, h.tenderVersion, h.createdAt, ⟨h.tenderHash, isSha256_canonicalSha256 hp _⟩, hrehash, payload, hpayload,
      h.size, rfl⟩
  · simp [hbounds]

end Created

/-- A created envelope is read back from its bytes and from their base64 form exactly where its run and tender
identifiers are within the bounds of the decoder's shell. -/
theorem decode_encode_iff {p : Platform} (hp : p.HexDigest) {header : EnvelopeHeader} {payload : HcsPayload}
    {e : HcsEnvelope} (h : createEnvelope p header payload = .ok e) :
    (decodeHcsEnvelopeFromBytes p (encodeHcsEnvelopeUtf8 e) = .ok e ∧
      decodeHcsEnvelopeFromBase64 p (TextCodec.toBase64 (encodeHcsEnvelopeUtf8 e)) = .ok e) ↔
      bounded 128 header.runId ∧ bounded 128 header.tenderId := by
  obtain ⟨hcreatable, rfl⟩ := createEnvelope_eq_ok.mp h
  rw [decodeHcsEnvelopeFromBase64_encode, and_self, decodeHcsEnvelopeFromBytes_encode]
  exact decodeFields_sorted hp hcreatable

/-! ### A commitment of a run with a long identifier -/

namespace LongRun

def digest : JsString := js "sha256:" ++ List.replicate 64 0x61

def commitment : BidCommitmentPayload where
  bidId := js "bid-1"
  carrierId := js "carrier-1"
  bidHash := digest
  acceptanceReceiptHash := digest
  bidVersion := 1

def header (runId : JsString) : EnvelopeHeader where
  runId := runId
  tenderId := js "tender-1"
  tenderVersion := 1
  tenderHash := digest
  createdAt := js "2026-01-01T00:00:00Z"

def runId : JsString := List.replicate 129 0x72

end LongRun

/-- The constructor takes a run identifier of 129 units, and what it returns is not read back. -/
theorem created_not_decoded : ∃ e, createEnvelope (asciiPlatform fun _ _ _ => false) (LongRun.header LongRun.runId)
      (.bidCommitment LongRun.commitment) = .ok e ∧
    decodeHcsEnvelopeFromBytes (asciiPlatform fun _ _ _ => false) (encodeHcsEnvelopeUtf8 e) ≠ .ok e ∧
    decodeHcsEnvelopeFromBase64 (asciiPlatform fun _ _ _ => false) (TextCodec.toBase64 (encodeHcsEnvelopeUtf8 e)) ≠
      .ok e := by
  have hcreatable : Creatable (asciiPlatform fun _ _ _ => false) (LongRun.header LongRun.runId)
      (.bidCommitment LongRun.commitment) :=
    ⟨by decide, trivial, by decide, by decide, by decide, by decide +kernel⟩
  have hnot := mt (decodeFields_sorted (hexDigest_asciiPlatform _) hcreatable).mp (by decide +kernel)
  refine ⟨_, createEnvelope_eq_ok.mpr ⟨hcreatable, rfl⟩, ?_, ?_⟩
  · rwa [decodeHcsEnvelopeFromBytes_encode]
  · rwa [decodeHcsEnvelopeFromBase64_encode, decodeHcsEnvelopeFromBytes_encode]

theorem decode_encode_iff_sample : ∃ e, createEnvelope (asciiPlatform fun _ _ _ => false) (LongRun.header (js "run-1"))
      (.bidCommitment LongRun.commitment) = .ok e ∧
    decodeHcsEnvelopeFromBytes (asciiPlatform fun _ _ _ => false) (encodeHcsEnvelopeUtf8 e) = .ok e ∧
    decodeHcsEnvelopeFromBase64 (asciiPlatform fun _ _ _ => false) (TextCodec.toBase64 (encodeHcsEnvelopeUtf8 e)) =
      .ok e := by
  have hcreatable : Creatable (asciiPlatform fun _ _ _ => false) (LongRun.header (js "run-1"))
      (.bidCommitment LongRun.commitment) :=
    ⟨by decide, trivial, by decide, by decide, by decide, by decide +kernel⟩
  have hcreate := createEnvelope_eq_ok.mpr ⟨hcreatable, rfl⟩
  exact ⟨_, hcreate, (decode_encode_iff (hexDigest_asciiPlatform _) hcreate).mpr (by decide)⟩

end RouteGuard.Hcs
