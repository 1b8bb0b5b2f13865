import RouteGuard.Hcs.V2Envelope
import RouteGuard.Lib.ByteLength

/-!
# The size of a close barrier

A close barrier lists the hashes of the commitments. Its schema admits 32 of them, and a message has a limit in
bytes; the two limits are not one.

* `barrierBytes` : the size of the message, from the header and the payload;
* `closeBarrier_created_iff` : an auction that the schema admits is closed exactly when that is below the limit;
* `barrierBytes_lt`, `le_barrierBytes` : under plain identifiers of 32 units three commitments always fit, and six
  never do.
-/

namespace RouteGuard.Hcs
open JsString Json TextCodec Store Reservation Guarded V2

/-- What the schema and the header's own checks admit. -/
structure Closing (header : EnvelopeHeader) (payload : AuctionCloseBarrierPayload) : Prop where
  valid : payload.valid = true
  tenderId : payload.tenderId = header.tenderId
  tenderVersion : payload.tenderVersion = header.tenderVersion
  tenderHash : payload.tenderHash = header.tenderHash
  createdAt : isUtcIsoTimestamp header.createdAt = true

/-- The bytes of the message: keys, constants, the three digests of the shell and the payload, and what the inputs
add. -/
def barrierBytes (header : EnvelopeHeader) (payload : AuctionCloseBarrierPayload) : Nat :=
  558 + quotedLength header.runId + 2 * quotedLength header.tenderId + quotedLength payload.barrierId +
    header.createdAt.length + payload.auctionEndsAt.length + 2 * (decimalInt header.tenderVersion).length +
    (decimalInt payload.expectedCommitmentCount).length + 74 * payload.commitmentEnvelopeHashes.length

section Sizes
variable {p : Platform} {header : EnvelopeHeader} {payload : AuctionCloseBarrierPayload}

theorem length_of_isSha256 {s : JsString} (h : isSha256 s = true) : s.length = 71 := by
  simp only [isSha256, Bool.and_eq_true, decide_eq_true_eq] at h
  obtain ⟨⟨hhead, hlength⟩, -⟩ := h
  obtain ⟨digest, rfl⟩ := List.isPrefixOf_iff_prefix.mp hhead
  have hseven : (js "sha256:").length = 7 := by decide
  rw [List.length_drop, List.length_append] at hlength
  rw [List.length_append]
  omega

theorem quotedLength_sha256 {s : JsString} (h : isSha256 s = true) : quotedLength s = 73 := by
  rw [quotedLength_of_plain (plain_of_isSha256 h).1, length_of_isSha256 h]

theorem quotedLength_utc {s : JsString} (h : isUtcIsoTimestamp s = true) : quotedLength s = s.length + 2 :=
  quotedLength_of_plain (plain_of_isUtcIsoTimestamp h).1

theorem Closing.creatable_iff (h : Closing header payload) :
    Creatable p header (.auctionCloseBarrier payload) ↔
      measureHcsMessageBytes (envelopeOf p header (.auctionCloseBarrier payload)) < HCS_MAX_MESSAGE_BYTES := by
  have hvalid := h.valid
  simp only [AuctionCloseBarrierPayload.valid, Bool.and_eq_true] at hvalid
  obtain ⟨⟨⟨⟨⟨⟨-, hversion⟩, -⟩, -⟩, -⟩, hhash⟩, -⟩ := hvalid
  rw [h.tenderVersion] at hversion
  rw [h.tenderHash] at hhash
  have hlimit : exceedsHcsMessageLimit (measureHcsMessageBytes (envelopeOf p header (.auctionCloseBarrier payload))) = false ↔
      measureHcsMessageBytes (envelopeOf p header (.auctionCloseBarrier payload)) < HCS_MAX_MESSAGE_BYTES := by
    rw [exceedsHcsMessageLimit, decide_eq_false_iff_not, Nat.not_le]
  rw [← hlimit]
  constructor
  · exact Creatable.size
  · intro hsize
    exact ⟨h.valid, ⟨h.tenderId, h.tenderVersion, h.tenderHash⟩, h.createdAt, hversion, hhash, hsize⟩

/-- The hashes on the topic, at least one. -/
theorem byteLength_hashes (h : payload.valid = true) :
    byteLength (.arr (payload.commitmentEnvelopeHashes.map .str)) =
      1 + 74 * payload.commitmentEnvelopeHashes.length := by
  simp only [AuctionCloseBarrierPayload.valid, Bool.and_eq_true, decide_eq_true_eq, isSafePositiveInteger,
    List.all_eq_true] at h
  obtain ⟨⟨⟨⟨⟨-, hcount, -⟩, heq⟩, -⟩, -⟩, hhashes⟩ := h
  have hne : payload.commitmentEnvelopeHashes ≠ [] := by
    intro hnil
    rw [hnil] at heq
    simp only [List.length_nil, Nat.cast_zero] at heq
    omega
  exact byteLength_strs hne fun t ht => ⟨(plain_of_isSha256 (hhashes t ht)).1, length_of_isSha256 (hhashes t ht)⟩

theorem byteLength_barrierPayload (h : payload.valid = true) :
    byteLength (.obj payload.fields) =
      243 + quotedLength payload.barrierId + quotedLength payload.tenderId + (decimalInt payload.tenderVersion).length +
        payload.auctionEndsAt.length + (decimalInt payload.expectedCommitmentCount).length +
        74 * payload.commitmentEnvelopeHashes.length := by
  have hhashes := byteLength_hashes h
  simp only [AuctionCloseBarrierPayload.valid, Bool.and_eq_true, decide_eq_true_eq, isSafePositiveInteger] at h
  obtain ⟨⟨⟨⟨⟨⟨-, hversion, -⟩, hcount, -⟩, -⟩, hends⟩, hhash⟩, -⟩ := h
  have hkeys : ((payload.fields.map Prod.fst).map fun k => quotedLength k + 2).sum = 143 := by
    show ([js "barrierId", js "tenderId", js "tenderVersion", js "tenderHash", js "auctionEndsAt",
      js "expectedCommitmentCount", js "commitmentEnvelopeHashes", js "closePolicy"].map fun k => quotedLength k + 2).sum = 143
    decide
  have hpolicy : quotedLength CLOSE_POLICY = 23 := by decide
  have hne : payload.fields ≠ [] := List.cons_ne_nil _ _
  rw [byteLength_obj_keys hne, hkeys]
  simp only [AuctionCloseBarrierPayload.fields, List.map_cons, List.map_nil, List.sum_cons, List.sum_nil, byteLength_str,
    byteLength_num (Int.le_trans (by decide) hversion), byteLength_num (Int.le_trans (by decide) hcount), hhashes,
    quotedLength_sha256 hhash, quotedLength_utc hends, hpolicy]
  omega

/-- The size of the message. -/
theorem measure_barrier (hp : p.HexDigest) (h : Closing header payload) :
    measureHcsMessageBytes (envelopeOf p header (.auctionCloseBarrier payload)) = barrierBytes header payload := by
  have hvalid := h.valid
  simp only [AuctionCloseBarrierPayload.valid, Bool.and_eq_true, isSafePositiveInteger, decide_eq_true_eq] at hvalid
  obtain ⟨⟨⟨⟨⟨⟨-, hversion, -⟩, -⟩, -⟩, -⟩, hhash⟩, -⟩ := hvalid
  rw [h.tenderVersion] at hversion
  rw [h.tenderHash] at hhash
  have hkeys : (((envelopeOf p header (.auctionCloseBarrier payload)).fields.map Prod.fst).map fun k =>
      quotedLength k + 2).sum = 123 := by
    show ([js "schemaVersion", js "messageType", js "runId", js "tenderId", js "tenderVersion", js "tenderHash",
      js "createdAt", js "payloadHash", js "payload"].map fun k => quotedLength k + 2).sum = 123
    decide
  have hschema : quotedLength HCS_SCHEMA_VERSION = 20 := by decide
  have htype : quotedLength HcsMessageType.AUCTION_CLOSE_BARRIER.text = 23 := by decide
  have hdigest : quotedLength (computePayloadHash p payload.fields) = 73 :=
    quotedLength_sha256 (isSha256_canonicalSha256 hp _)
  have hpayload := byteLength_barrierPayload h.valid
  rw [h.tenderId, h.tenderVersion] at hpayload
  have hbytes : measureHcsMessageBytes (envelopeOf p header (.auctionCloseBarrier payload)) =
      byteLength (.obj (envelopeOf p header (.auctionCloseBarrier payload)).fields) := rfl
  have hne : (envelopeOf p header (.auctionCloseBarrier payload)).fields ≠ [] := List.cons_ne_nil _ _
  rw [hbytes, byteLength_obj_keys hne, hkeys, barrierBytes]
  simp only [HcsEnvelope.fields, HcsEnvelope.messageType, HcsPayload.messageType, HcsPayload.fields, envelopeOf,
    List.map_cons, List.map_nil, List.sum_cons, List.sum_nil, byteLength_str,
    byteLength_num (Int.le_trans (by decide) hversion), quotedLength_sha256 hhash, quotedLength_utc h.createdAt, hschema,
    htype, hdigest, hpayload]
  omega

theorem two_le_quotedLength (s : JsString) : 2 ≤ quotedLength s := by
  have hq : WellFormed (js "\"") := wellFormed_ascii (by decide)
  have hone : (Sha256.utf8 (js "\"")).length = 1 := by decide
  rw [quotedLength, quote, length_utf8_append (hq.append (wellFormed_quoteUnits s)), length_utf8_append hq, hone]
  omega

theorem length_decimalInt_le {n : Int} {k : Nat} (hk : 0 < k) (hpos : 1 ≤ n) (hlt : n < 10 ^ k) :
    (decimalInt n).length ≤ k := by
  obtain ⟨m, rfl⟩ := Int.eq_ofNat_of_zero_le (Int.le_trans (by decide) hpos)
  have hm : m < 10 ^ k := by exact_mod_cast hlt
  exact (length_decimal_le_iff hk).mpr hm

/-- Three commitments fit under any plain identifiers of 32 units. -/
theorem barrierBytes_lt (h : Closing header payload) (hrun : Plain header.runId ∧ header.runId.length ≤ 32)
    (htender : Plain header.tenderId ∧ header.tenderId.length ≤ 32)
    (hbarrier : Plain payload.barrierId ∧ payload.barrierId.length ≤ 32)
    (hcount : payload.commitmentEnvelopeHashes.length ≤ 3) : barrierBytes header payload < HCS_MAX_MESSAGE_BYTES := by
  have hvalid := h.valid
  simp only [AuctionCloseBarrierPayload.valid, Bool.and_eq_true, isSafePositiveInteger, decide_eq_true_eq] at hvalid
  obtain ⟨⟨⟨⟨⟨⟨-, hpos, hsafe⟩, hone, -⟩, hlength⟩, hends⟩, -⟩, -⟩ := hvalid
  rw [h.tenderVersion] at hpos hsafe
  have hmax : (Lifecycle.MAX_SAFE_INTEGER : Int) < 10 ^ 16 := by decide
  have hversion := length_decimalInt_le (k := 16) (by decide) hpos (lt_of_le_of_lt hsafe hmax)
  have hdigits := length_decimalInt_le (k := 1) (by decide) hone (by omega)
  have hcreated := (plain_of_isUtcIsoTimestamp h.createdAt).2
  have hauction := (plain_of_isUtcIsoTimestamp hends).2
  rw [barrierBytes, quotedLength_of_plain hrun.1, quotedLength_of_plain htender.1, quotedLength_of_plain hbarrier.1]
  have hlimit : HCS_MAX_MESSAGE_BYTES = 1024 := rfl
  omega

theorem length_of_isUtcIsoTimestamp {s : JsString} (h : isUtcIsoTimestamp s = true) : 19 ≤ s.length := by
  obtain ⟨n, hn⟩ := isUtcIsoTimestamp_iff.mp h
  obtain ⟨parsed, hp, -⟩ := instant_eq_some.mp hn
  simp only [parseUtcTimestamp, check_eq_ok] at hp
  obtain ⟨-, hp⟩ := hp
  split at hp
  next => exact absurd hp (by simp)
  next m hm => exact (length_of_matchUtcIso hm).1

/-- Six commitments are too many, whatever the identifiers. -/
theorem le_barrierBytes (h : Closing header payload) (hcount : 6 ≤ payload.commitmentEnvelopeHashes.length) :
    HCS_MAX_MESSAGE_BYTES ≤ barrierBytes header payload := by
  have hvalid := h.valid
  simp only [AuctionCloseBarrierPayload.valid, Bool.and_eq_true] at hvalid
  obtain ⟨⟨⟨-, hends⟩, -⟩, -⟩ := hvalid
  have hcreated := length_of_isUtcIsoTimestamp h.createdAt
  have hauction := length_of_isUtcIsoTimestamp hends
  have hrun := two_le_quotedLength header.runId
  have htender := two_le_quotedLength header.tenderId
  have hbarrier := two_le_quotedLength payload.barrierId
  have hlimit : HCS_MAX_MESSAGE_BYTES = 1024 := rfl
  rw [barrierBytes]
  omega

end Sizes

theorem creatable_of_created {p : Platform} {header : EnvelopeHeader} {payload : AuctionCloseBarrierPayload}
    {e : HcsEnvelope} (h : createCloseBarrierEnvelope p header payload = .ok e) :
    Creatable p header (.auctionCloseBarrier payload) := by
  have hcreated : createEnvelope p header (.auctionCloseBarrier payload) = .ok e := h
  exact (createEnvelope_eq_ok.mp hcreated).1

/-- An auction that the schema admits is closed exactly when what its barrier adds up to is below the limit. -/
theorem closeBarrier_created_iff {p : Platform} (hp : p.HexDigest) {header : EnvelopeHeader}
    {payload : AuctionCloseBarrierPayload} (h : Closing header payload) :
    (∃ e, createCloseBarrierEnvelope p header payload = .ok e) ↔
      barrierBytes header payload < HCS_MAX_MESSAGE_BYTES := by
  rw [← measure_barrier hp h, ← h.creatable_iff]
  constructor
  · rintro ⟨e, he⟩
    exact creatable_of_created he
  · intro hcreatable
    exact ⟨_, createEnvelope_eq_ok.mpr ⟨hcreatable, rfl⟩⟩

/-! ### Six commitments, and two -/

namespace ClosingTender

def digest (last : UInt16) : JsString := js "sha256:" ++ List.replicate 63 0x61 ++ [last]

def header : EnvelopeHeader where
  runId := js "run-1"
  tenderId := js "tender-1"
  tenderVersion := 1
  tenderHash := digest 0x30
  createdAt := js "2026-01-01T00:00:00Z"

/-- The barrier over a list of commitments. -/
def payload (hashes : List JsString) : AuctionCloseBarrierPayload where
  barrierId := js "barrier-1"
  tenderId := js "tender-1"
  tenderVersion := 1
  tenderHash := digest 0x30
  auctionEndsAt := js "2026-01-01T00:00:00Z"
  expectedCommitmentCount := hashes.length
  commitmentEnvelopeHashes := hashes

def six : List JsString := [0x31, 0x32, 0x33, 0x34, 0x35, 0x36].map digest

def two : List JsString := [0x31, 0x32].map digest

end ClosingTender

/-- The schema admits an auction of six commitments under short identifiers, and no barrier closes it. -/
theorem six_commitments_not_closed : Closing ClosingTender.header (ClosingTender.payload ClosingTender.six) ∧
    ClosingTender.header.runId.length ≤ 32 ∧ ClosingTender.header.tenderId.length ≤ 32 ∧
    (ClosingTender.payload ClosingTender.six).barrierId.length ≤ 32 ∧ ClosingTender.six.Nodup ∧
    ¬ ∃ e, createCloseBarrierEnvelope (asciiPlatform fun _ _ _ => false) ClosingTender.header
      (ClosingTender.payload ClosingTender.six) = .ok e := by
  have hclosing : Closing ClosingTender.header (ClosingTender.payload ClosingTender.six) :=
    ⟨by decide, rfl, rfl, rfl, by decide⟩
  refine ⟨hclosing, by decide, by decide, by decide, by decide, ?_⟩
  rintro ⟨e, he⟩
  have hsize := hclosing.creatable_iff.mp (creatable_of_created he)
  rw [measure_barrier (hexDigest_asciiPlatform _) hclosing] at hsize
  exact absurd hsize (by decide)

theorem two_commitments_closed : ∃ e, createCloseBarrierEnvelope (asciiPlatform fun _ _ _ => false)
    ClosingTender.header (ClosingTender.payload ClosingTender.two) = .ok e :=
  (closeBarrier_created_iff (hexDigest_asciiPlatform _) ⟨by decide, rfl, rfl, rfl, by decide⟩).mpr
    (by decide)

end RouteGuard.Hcs
