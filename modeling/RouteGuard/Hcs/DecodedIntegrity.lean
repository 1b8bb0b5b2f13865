import RouteGuard.Hcs.RoundTrip
import RouteGuard.Lib.ObjectFields

/-!
# What a decoded message keeps of the received one

The decoder checks the payload hash of the received payload and returns the payload that the schema left. A strict
schema refuses a key it does not name; the shell and the payloads of `AUCTION_OPEN` and `AUCTION_CLOSE_BARRIER` have
schemas that drop it.

* `received` : the object that the decoder reads;
* `OnlyKnownKeys` : the message has no key but those of the schemas;
* `decoded_integrity_iff` : when the decoded envelope has the payload hash and the canonical text of the message.
-/

namespace RouteGuard.Hcs
open JsString Json Guarded Reservation Store

/-! ## The received object -/

/-- The object that `decodeHcsEnvelope` reads: a text is parsed first. -/
def received : Json → Option (List (JsString × Json))
  | .str text => (Json.parse text).bind asObj
  | value => asObj value

/-- The keys of `EnvelopeShellSchema`. -/
def ENVELOPE_SHELL_KEYS : List JsString :=
  [js "schemaVersion", js "messageType", js "runId", js "tenderId", js "tenderVersion", js "tenderHash",
   js "createdAt", js "payloadHash", js "payload"]

/-- The keys of the payload schemas. -/
def HcsMessageType.payloadKeys : HcsMessageType → List JsString
  | .AUCTION_OPEN =>
    [js "tenderId", js "tenderVersion", js "tenderHash", js "auctionEndsAt", js "selectionPolicy", js "engineVersion",
     js "rulesHash"]
  | .BID_COMMITMENT =>
    [js "bidId", js "carrierId", js "bidHash", js "acceptanceReceiptHash", js "bidVersion",
     js "commitmentSchemaVersion"]
  | .AUCTION_CLOSE_BARRIER =>
    [js "barrierId", js "tenderId", js "tenderVersion", js "tenderHash", js "auctionEndsAt",
     js "expectedCommitmentCount", js "commitmentEnvelopeHashes", js "closePolicy"]
  | .ROUTE_RESERVED =>
    [js "reservationId", js "winningBidId", js "carrierId", js "carrierAccount", js "selectedOptionId",
     js "paymentAsset", js "paymentAmountAtomic", js "payerAccount", js "paymentTransactionId",
     js "paymentConsensusTimestamp", js "reservationRecordHash", js "closeBarrierSequence",
     js "reservationEvidenceVersion"]

/-- The message has no key that the schema of its shell, or that of its message type, does not name. -/
structure OnlyKnownKeys (fields : List (JsString × Json)) : Prop where
  shell : ∀ key ∈ fields.map Prod.fst, key ∈ ENVELOPE_SHELL_KEYS
  payload : ∀ messageType payload, readStr fields (js "messageType") = some (HcsMessageType.text messageType) →
    readObj fields (js "payload") = some payload → ∀ key ∈ payload.map Prod.fst, key ∈ messageType.payloadKeys

/-- The envelope against the message it was decoded from. -/
structure KeepsIntegrity (p : Platform) (fields : List (JsString × Json)) (e : HcsEnvelope) : Prop where
  payloadHash : e.payloadHash = computePayloadHash p e.payload.fields
  encoding : e.toJson.canonicalize = (Json.obj fields).canonicalize
  envelopeHash : hcsEnvelopeHash p e = canonicalSha256 p.sha256Hex (.obj fields)

theorem HcsPayload.keys (payload : HcsPayload) : payload.fields.map Prod.fst = payload.messageType.payloadKeys := by
  cases payload <;> rfl

theorem HcsEnvelope.keys (e : HcsEnvelope) : e.fields.map Prod.fst = ENVELOPE_SHELL_KEYS := rfl

theorem received_distinct {raw : JsonValue} {fields : List (JsString × Json)} (h : received raw.json = some fields) :
    Distinct (.obj fields) := by
  obtain ⟨json, hd⟩ := raw
  cases json with
  | str text =>
    obtain ⟨v, hparse, hv⟩ := Option.bind_eq_some_iff.mp h
    rw [← asObj_eq_some.mp hv]
    exact distinct_of_parse hparse
  | obj inner => exact Option.some.inj h ▸ hd
  | null => exact absurd h (by simp [received, asObj])
  | bool b => exact absurd h (by simp [received, asObj])
  | num n => exact absurd h (by simp [received, asObj])
  | arr items => exact absurd h (by simp [received, asObj])

theorem received_of_decode {p : Platform} {raw : Json} {e : HcsEnvelope} (h : decodeHcsEnvelope p raw = .ok e) :
    ∃ fields, received raw = some fields ∧ decodeFields p fields = .ok e := by
  cases raw with
  | str text =>
    cases hparse : Json.parse text with
    | none => exact absurd h (by simp [decodeHcsEnvelope, hparse])
    | some v =>
      cases v with
      | obj fields =>
        simp only [decodeHcsEnvelope, hparse] at h
        exact ⟨fields, by simp only [received, hparse, Option.bind_some, asObj], h⟩
      | null => exact absurd h (by simp [decodeHcsEnvelope, hparse])
      | bool b => exact absurd h (by simp [decodeHcsEnvelope, hparse])
      | num n => exact absurd h (by simp [decodeHcsEnvelope, hparse])
      | str s => exact absurd h (by simp [decodeHcsEnvelope, hparse])
      | arr items => exact absurd h (by simp [decodeHcsEnvelope, hparse])
  | obj fields => exact ⟨fields, rfl, h⟩
  | null => exact absurd h (by simp [decodeHcsEnvelope])
  | bool b => exact absurd h (by simp [decodeHcsEnvelope])
  | num n => exact absurd h (by simp [decodeHcsEnvelope])
  | arr items => exact absurd h (by simp [decodeHcsEnvelope])

/-! ## What the readers found -/

section Readers
variable {fields : List (JsString × Json)}

theorem lookup_of_readAuctionOpenPayload {payload : AuctionOpenPayload}
    (h : readAuctionOpenPayload fields = some payload) : ∀ f ∈ payload.fields, fields.lookup f.1 = some f.2 := by
  simp only [readAuctionOpenPayload, Option.bind_eq_bind, Option.bind_eq_some_iff, readStr_eq_some, readNum_eq_some,
    readConstant_eq_some, Option.ite_none_right_eq_some, Option.some.injEq] at h
  obtain ⟨_, h1, _, h2, _, h3, _, h4, _, h5, _, h6, _, h7, -, rfl⟩ := h
  simp only [AuctionOpenPayload.fields, List.forall_mem_cons]
  exact ⟨h1, h2, h3, h4, h5, h6, h7, List.forall_mem_nil _⟩

theorem lookup_of_readBidCommitmentPayload {payload : BidCommitmentPayload}
    (h : readBidCommitmentPayload fields = some payload) : ∀ f ∈ payload.fields, fields.lookup f.1 = some f.2 := by
  simp only [readBidCommitmentPayload, Option.bind_eq_bind, Option.bind_eq_some_iff, readStr_eq_some, readNum_eq_some,
    readConstant_eq_some, Option.ite_none_right_eq_some, Option.some.injEq] at h
  obtain ⟨_, h1, _, h2, _, h3, _, h4, _, h5, _, h6, _, -, -, rfl⟩ := h
  simp only [BidCommitmentPayload.fields, List.forall_mem_cons]
  exact ⟨h1, h2, h3, h4, h5, h6, List.forall_mem_nil _⟩

theorem lookup_of_readAuctionCloseBarrierPayload {payload : AuctionCloseBarrierPayload}
    (h : readAuctionCloseBarrierPayload fields = some payload) :
    ∀ f ∈ payload.fields, fields.lookup f.1 = some f.2 := by
  simp only [readAuctionCloseBarrierPayload, Option.bind_eq_bind, Option.bind_eq_some_iff, readStr_eq_some,
    readNum_eq_some, readStrs_eq_some, readConstant_eq_some, Option.ite_none_right_eq_some, Option.some.injEq] at h
  obtain ⟨_, h1, _, h2, _, h3, _, h4, _, h5, _, h6, _, h7, _, h8, -, rfl⟩ := h
  simp only [AuctionCloseBarrierPayload.fields, List.forall_mem_cons]
  exact ⟨h1, h2, h3, h4, h5, h6, h7, h8, List.forall_mem_nil _⟩

theorem text_of_readOptionId {text : JsString} {id : ReservationOptionId} (h : readOptionId text = some id) :
    text = id.text := by
  unfold readOptionId at h
  split at h
  next htext => rw [htext, ← Option.some.inj h]; rfl
  split at h
  next htext => rw [htext, ← Option.some.inj h]; rfl
  next => exact absurd h (by simp)

theorem lookup_of_readRouteReservedPayload {payload : RouteReservedPayload}
    (h : readRouteReservedPayload fields = some payload) :
    ∀ f ∈ payload.fields, fields.lookup f.1 = some f.2 := by
  unfold readRouteReservedPayload at h
  obtain ⟨_, h1, h⟩ := Option.bind_eq_some_iff.mp h
  obtain ⟨_, h2, h⟩ := Option.bind_eq_some_iff.mp h
  obtain ⟨_, h3, h⟩ := Option.bind_eq_some_iff.mp h
  obtain ⟨_, h4, h⟩ := Option.bind_eq_some_iff.mp h
  obtain ⟨_, h5, h⟩ := Option.bind_eq_some_iff.mp h
  obtain ⟨_, h6, h⟩ := Option.bind_eq_some_iff.mp h
  obtain ⟨_, h7, h⟩ := Option.bind_eq_some_iff.mp h
  obtain ⟨_, h8, h⟩ := Option.bind_eq_some_iff.mp h
  obtain ⟨_, h9, h⟩ := Option.bind_eq_some_iff.mp h
  obtain ⟨_, h10, h⟩ := Option.bind_eq_some_iff.mp h
  obtain ⟨_, h11, h⟩ := Option.bind_eq_some_iff.mp h
  obtain ⟨_, h12, h⟩ := Option.bind_eq_some_iff.mp h
  obtain ⟨_, h13, h⟩ := Option.bind_eq_some_iff.mp h
  obtain ⟨_, -, h⟩ := Option.bind_eq_some_iff.mp h
  obtain ⟨-, hpayload⟩ := Option.ite_none_right_eq_some.mp h
  obtain ⟨text, htext, hid⟩ := Option.bind_eq_some_iff.mp h5
  rw [← Option.some.inj hpayload]
  simp only [readStr_eq_some, readNum_eq_some] at h1 h2 h3 h4 htext h6 h7 h8 h9 h10 h11 h12 h13
  rw [text_of_readOptionId hid] at htext
  simp only [RouteReservedPayload.fields, List.forall_mem_cons]
  exact ⟨h1, h2, h3, h4, htext, h6, h7, h8, h9, h10, h11, h12, h13, List.forall_mem_nil _⟩

end Readers

/-- The payload is of the shell's message type, and each of its fields stands in the received payload. -/
theorem lookup_of_readPayload {shell : EnvelopeShell} {payload : HcsPayload} (h : readPayload shell = .ok payload) :
    payload.messageType = shell.messageType ∧
      ∀ f ∈ payload.fields, shell.payload.lookup f.1 = some f.2 := by
  unfold readPayload at h
  cases htype : shell.messageType with
  | AUCTION_OPEN =>
    simp only [htype] at h
    cases hread : readAuctionOpenPayload shell.payload with
    | none => simp [hread] at h
    | some read =>
      simp only [hread, bind_eq_ok, pure_eq_ok] at h
      obtain ⟨-, -, rfl⟩ := h
      exact ⟨rfl, lookup_of_readAuctionOpenPayload hread⟩
  | BID_COMMITMENT =>
    simp only [htype, bind_eq_ok] at h
    obtain ⟨-, -, h⟩ := h
    cases hread : readBidCommitmentPayload shell.payload with
    | none => simp [hread] at h
    | some read =>
      simp only [hread, pure_eq_ok] at h
      subst h
      exact ⟨rfl, lookup_of_readBidCommitmentPayload hread⟩
  | AUCTION_CLOSE_BARRIER =>
    simp only [htype] at h
    cases hread : readAuctionCloseBarrierPayload shell.payload with
    | none => simp [hread] at h
    | some read =>
      simp only [hread, bind_eq_ok, pure_eq_ok] at h
      obtain ⟨-, -, rfl⟩ := h
      exact ⟨rfl, lookup_of_readAuctionCloseBarrierPayload hread⟩
  | ROUTE_RESERVED =>
    simp only [htype, bind_eq_ok] at h
    obtain ⟨-, -, h⟩ := h
    cases hread : readRouteReservedPayload shell.payload with
    | none => simp [hread] at h
    | some read =>
      simp only [hread, pure_eq_ok] at h
      subst h
      exact ⟨rfl, lookup_of_readRouteReservedPayload hread⟩

theorem text_of_readMessageType {text : JsString} {t : HcsMessageType} (h : readMessageType text = some t) :
    text = t.text := by
  have hfound := List.find?_some h
  exact (of_decide_eq_true hfound).symm

/-! ## Accepted messages -/

/-- The fields of an envelope around the payload as it was received. -/
def HcsEnvelope.fieldsAround (e : HcsEnvelope) (payload : List (JsString × Json)) : List (JsString × Json) :=
  [(js "schemaVersion", .str HCS_SCHEMA_VERSION), (js "messageType", .str e.messageType.text),
   (js "runId", .str e.runId), (js "tenderId", .str e.tenderId), (js "tenderVersion", .num e.tenderVersion),
   (js "tenderHash", .str e.tenderHash), (js "createdAt", .str e.createdAt), (js "payloadHash", .str e.payloadHash),
   (js "payload", .obj payload)]

/-- What acceptance says of the received fields, `payload` being the received payload. -/
structure AcceptedFields (p : Platform) (fields payload : List (JsString × Json)) (e : HcsEnvelope) : Prop where
  shell : ∀ f ∈ e.fieldsAround payload, fields.lookup f.1 = some f.2
  hash : computePayloadHash p payload = e.payloadHash
  payload : ∀ f ∈ e.payload.fields, payload.lookup f.1 = some f.2

theorem accepted_of_decodeFields {p : Platform} {fields : List (JsString × Json)} {e : HcsEnvelope}
    (h : decodeFields p fields = .ok e) : ∃ payload, AcceptedFields p fields payload e := by
  unfold decodeFields at h
  cases hshell : readEnvelopeShell fields with
  | none => simp [hshell] at h
  | some shell =>
    simp only [hshell, bind_eq_ok, require_eq_ok, exists_const, pure_eq_ok] at h
    obtain ⟨hversion, -, -, -, hhash, payload, hpayload, -, -, rfl⟩ := h
    obtain ⟨htype, hlookup⟩ := lookup_of_readPayload hpayload
    simp only [readEnvelopeShell, Option.bind_eq_bind, Option.bind_eq_some_iff, readStr_eq_some, readNum_eq_some,
      readObj_eq_some, Option.ite_none_right_eq_some, Option.some.injEq] at hshell
    obtain ⟨_, h1, _, ⟨text, h2, hread⟩, _, h3, _, h4, _, h5, _, h6, _, h7, _, h8, _, h9, -, rfl⟩ := hshell
    simp only at htype
    subst hversion htype
    rw [text_of_readMessageType hread] at h2
    refine ⟨_, ?_, hhash, hlookup⟩
    simp only [HcsEnvelope.fieldsAround, List.forall_mem_cons]
    exact ⟨h1, h2, h3, h4, h5, h6, h7, h8, h9, List.forall_mem_nil _⟩

theorem HcsMessageType.text_injective {t t' : HcsMessageType} (h : t.text = t'.text) : t = t' := by
  have hread := readMessageType_text t
  rw [h, readMessageType_text] at hread
  exact (Option.some.inj hread).symm

section Accepted
variable {p : Platform} {fields payload : List (JsString × Json)} {e : HcsEnvelope}

theorem AcceptedFields.messageType (h : AcceptedFields p fields payload e) :
    readStr fields (js "messageType") = some e.messageType.text := by
  have hshell := h.shell
  simp only [HcsEnvelope.fieldsAround, List.forall_mem_cons] at hshell
  exact readStr_eq_some.mpr hshell.2.1

theorem AcceptedFields.readPayload (h : AcceptedFields p fields payload e) :
    readObj fields (js "payload") = some payload := by
  have hshell := h.shell
  simp only [HcsEnvelope.fieldsAround, List.forall_mem_cons] at hshell
  exact readObj_eq_some.mpr hshell.2.2.2.2.2.2.2.2.1

theorem AcceptedFields.distinct (h : AcceptedFields p fields payload e) (hd : Distinct (.obj fields)) :
    Distinct (.obj payload) := by
  have hmem := (lookup_eq_some_iff hd.1).mp (readObj_eq_some.mp h.readPayload)
  exact (distinctFields_iff fields).mp hd.2 _ hmem

theorem AcceptedFields.payload_perm (h : AcceptedFields p fields payload e) (hd : Distinct (.obj fields))
    (hknown : OnlyKnownKeys fields) : payload.Perm e.payload.fields := by
  refine perm_of_lookup (h.distinct hd).1 e.payload.keys_nodup h.payload ?_
  rw [HcsPayload.keys]
  exact hknown.payload e.messageType payload h.messageType h.readPayload

theorem AcceptedFields.shell_perm (h : AcceptedFields p fields payload e) (hd : Distinct (.obj fields))
    (hknown : OnlyKnownKeys fields) : fields.Perm (e.fieldsAround payload) :=
  perm_of_lookup hd.1 e.keys_nodup h.shell hknown.shell

theorem canonicalize_fieldsAround (h : canonicalize (.obj payload) = canonicalize (.obj e.payload.fields)) :
    canonicalize (.obj (e.fieldsAround payload)) = e.toJson.canonicalize := by
  have hfields : canonicalizeFields (e.fieldsAround payload) = canonicalizeFields e.fields := by
    simp only [canonicalizeFields_eq_map, HcsEnvelope.fieldsAround, HcsEnvelope.fields, List.map_cons, List.map_nil, h]
  rw [HcsEnvelope.toJson, canonicalize, canonicalize, hfields]

theorem AcceptedFields.keepsIntegrity (h : AcceptedFields p fields payload e) (hd : Distinct (.obj fields))
    (hknown : OnlyKnownKeys fields) : KeepsIntegrity p fields e := by
  have hpayload := canonicalize_obj_perm (h.distinct hd).1 (h.payload_perm hd hknown)
  have hencoding : e.toJson.canonicalize = (Json.obj fields).canonicalize := by
    rw [canonicalize_obj_perm hd.1 (h.shell_perm hd hknown), canonicalize_fieldsAround hpayload]
  have hhash := h.hash
  rw [computePayloadHash, canonicalSha256, hpayload] at hhash
  exact ⟨hhash.symm, hencoding, by rw [hcsEnvelopeHash, canonicalSha256, hencoding, canonicalSha256]⟩

/-- Equal canonical texts have equal keys, in the shell and in the payload. -/
theorem AcceptedFields.onlyKnownKeys (h : AcceptedFields p fields payload e) (hd : Distinct (.obj fields))
    (hencoding : e.toJson.canonicalize = (Json.obj fields).canonicalize) : OnlyKnownKeys fields := by
  have hsorted : sorted e.fields = sorted fields := sorted_eq_of_canonicalize_eq e.distinct hd hencoding
  refine ⟨?_, ?_⟩
  · intro key hkey
    have hkeys := (keys_perm_of_sorted_eq hsorted).mem_iff.mpr hkey
    rwa [HcsEnvelope.keys] at hkeys
  · intro messageType inner htype hread key hkey
    have hsame : messageType = e.payload.messageType := by
      rw [h.messageType] at htype
      exact (HcsMessageType.text_injective (Option.some.inj htype)).symm
    have hpayloads : sorted e.payload.fields = sorted inner := by
      have hread' := readObj_sorted e.keys_nodup (js "payload")
      rw [hsorted, readObj_sorted hd.1, hread] at hread'
      exact (Option.some.inj hread').symm
    have hkeys := (keys_perm_of_sorted_eq hpayloads).mem_iff.mpr hkey
    rwa [HcsPayload.keys, ← hsame] at hkeys

end Accepted

/-- A decoded envelope has the payload hash and the canonical text of its message exactly where no schema dropped a
key, and two such messages with one envelope have one canonical text. -/
theorem decoded_integrity_iff {p : Platform} {raw : JsonValue} {e : HcsEnvelope}
    (h : decodeHcsEnvelope p raw.json = .ok e) :
    ∃ fields, received raw.json = some fields ∧ (KeepsIntegrity p fields e ↔ OnlyKnownKeys fields) ∧
      ∀ (raw' : JsonValue) (fields' : List (JsString × Json)), received raw'.json = some fields' →
        decodeHcsEnvelope p raw'.json = .ok e → OnlyKnownKeys fields → OnlyKnownKeys fields' →
        (Json.obj fields).canonicalize = (Json.obj fields').canonicalize := by
  obtain ⟨fields, hreceived, hdecode⟩ := received_of_decode h
  obtain ⟨payload, haccepted⟩ := accepted_of_decodeFields hdecode
  have hd := received_distinct hreceived
  refine ⟨fields, hreceived, ⟨fun hkeeps => haccepted.onlyKnownKeys hd hkeeps.encoding,
    haccepted.keepsIntegrity hd⟩, ?_⟩
  intro raw' fields' hreceived' h' hknown hknown'
  obtain ⟨fields'', hreceived'', hdecode'⟩ := received_of_decode h'
  obtain rfl : fields'' = fields' := Option.some.inj (hreceived''.symm.trans hreceived')
  obtain ⟨payload', haccepted'⟩ := accepted_of_decodeFields hdecode'
  have hkeeps' := haccepted'.keepsIntegrity (received_distinct hreceived') hknown'
  rw [← (haccepted.keepsIntegrity hd hknown).encoding, hkeeps'.encoding]

/-! ### An announcement with a note -/

namespace Noted

def platform : Platform := asciiPlatform fun _ _ _ => false

def announcement : AuctionOpenPayload where
  tenderId := js "tender-1"
  tenderVersion := 1
  tenderHash := LongRun.digest
  auctionEndsAt := js "2026-01-02T00:00:00Z"
  rulesHash := LongRun.digest

/-- The envelope of the payload without the note, under the hash of the received payload. -/
def envelope (received : List (JsString × Json)) : HcsEnvelope where
  runId := js "run-1"
  tenderId := js "tender-1"
  tenderVersion := 1
  tenderHash := LongRun.digest
  createdAt := js "2026-01-01T00:00:00Z"
  payloadHash := computePayloadHash platform received
  payload := .auctionOpen announcement

def noted : List (JsString × Json) := announcement.fields ++ [(js "note", .str (js "reserve 900"))]

/-- The message around a payload, its hash taken over that payload. -/
def message (payload : List (JsString × Json)) : List (JsString × Json) := (envelope payload).fieldsAround payload

end Noted

/-- A note in the payload of an announcement is hashed, accepted and dropped. -/
theorem noted_announcement_loses_integrity :
    decodeHcsEnvelope Noted.platform (.obj (Noted.message Noted.noted)) = .ok (Noted.envelope Noted.noted) ∧
      ¬ KeepsIntegrity Noted.platform (Noted.message Noted.noted) (Noted.envelope Noted.noted) := by
  have hdecode : decodeHcsEnvelope Noted.platform (.obj (Noted.message Noted.noted)) =
      .ok (Noted.envelope Noted.noted) := by decide +kernel
  refine ⟨hdecode, ?_⟩
  intro hkeeps
  have hhash := hkeeps.payloadHash
  exact absurd hhash (by decide +kernel)

theorem decoded_integrity_iff_announcement :
    KeepsIntegrity Noted.platform (Noted.message Noted.announcement.fields)
      (Noted.envelope Noted.announcement.fields) := by
  have hd : Distinct (.obj (Noted.message Noted.announcement.fields)) :=
    (Noted.envelope Noted.announcement.fields).distinct
  have hdecode : decodeHcsEnvelope Noted.platform (.obj (Noted.message Noted.announcement.fields)) =
      .ok (Noted.envelope Noted.announcement.fields) := by decide +kernel
  obtain ⟨fields, hreceived, hiff, -⟩ := @decoded_integrity_iff Noted.platform ⟨_, hd⟩ _ hdecode
  obtain rfl := Option.some.inj hreceived
  refine hiff.mpr ⟨by decide, ?_⟩
  intro messageType payload htype hpayload
  have htext : HcsMessageType.text .AUCTION_OPEN = messageType.text := Option.some.inj htype
  rw [← HcsMessageType.text_injective htext, ← Option.some.inj hpayload]
  decide

end RouteGuard.Hcs
