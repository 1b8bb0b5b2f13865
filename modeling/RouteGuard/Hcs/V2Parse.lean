import RouteGuard.Hcs.V2Envelope
import RouteGuard.Lib.ObjectFields
import RouteGuard.Lib.ToNumber

/-!
# Reading public evidence

A message is read by building it again from its fields, which are converted to the types that the builder takes.

* `parseHcsV2Envelope` : the parser;
* `PAYLOAD_TYPES` : the declared type of each field of a payload;
* `Exact` : a value that has the form of the envelope read from it, field by field;
* `Uncoerced` : a value without a further key, with no field that is converted and none that is not looked at;
* `parse_exact_iff` : what is built is read back, and what is read is exact when nothing was coerced.
-/

namespace RouteGuard.Hcs.V2
open JsString Json Guarded Access Store Sorting

def HCS_V2_MESSAGE_TYPES : List HcsV2MessageType :=
  [.TENDER_OPENED, .BID_COMMITMENT, .AUCTION_CLOSE_BARRIER, .WINNER_SELECTED, .WINNER_ALLOCATED, .ROUTE_RESERVED,
   .POD_SUBMITTED, .POD_ADVISORY_ANCHORED, .POD_REVIEW_ACTION, .POD_DEEMED_ACCEPTED, .DISPUTE_OPENED,
   .REFEREE_RESOLUTION, .ESCROW_RELEASED, .ESCROW_PARTIAL, .ESCROW_REFUNDED, .TENDER_COMPLETED]

def messageTypeOf (text : JsString) : Option HcsV2MessageType := HCS_V2_MESSAGE_TYPES.find? fun t => t.text = text

/-- `Number(obj.key)`, where it is an integer. -/
def fieldNumber (fields : List (JsString × Json)) (key : JsString) : Except JsString (Option Int) :=
  match ((fields.lookup key).map toNumber).getD (some none) with
  | some n => .ok n
  | none => .error (js "Cannot convert object to primitive value")

/-- The fields of a payload. A text, a number or an array has none that a message has, and null is no object. -/
def payloadFields (value : Option Json) : HcsV2Payload := (value.bind asObj).getD []

/-- A version that is no integer is as little a positive one as zero. -/
def parseHcsV2Envelope (p : Platform) : Json → Except JsString HcsV2Envelope
  | .obj fields => do
    assertHcsV2PublicSafe (js "$") (.obj fields)
    require (readStr fields (js "schemaVersion") = some HCS_V2_SCHEMA_VERSION)
      (js "schemaVersion must be " ++ HCS_V2_SCHEMA_VERSION)
    match (readStr fields (js "messageType")).bind messageTypeOf with
    | none => .error (js "invalid messageType")
    | some messageType => do
      let tenderId ← fieldText fields (js "tenderId")
      let tenderVersion ← fieldNumber fields (js "tenderVersion")
      let tenderHash ← fieldText fields (js "tenderHash")
      let createdAt ← fieldText fields (js "createdAt")
      let rebuilt ← buildHcsV2Envelope p
        { messageType := messageType
          tenderId := tenderId
          tenderVersion := tenderVersion.getD 0
          tenderHash := tenderHash
          createdAt := createdAt
          payload := payloadFields (fields.lookup (js "payload")) }
      require ((readStr fields (js "payloadHash")).all fun hash => hash = rebuilt.payloadHash) (js "payloadHash mismatch")
      pure rebuilt
  | _ => .error (js "envelope must be an object")

/-! ## Declared types -/

/-- The type that a payload type of the source declares for a field. -/
inductive FieldType where
  | text
  | integer
  | textOrNull
  | oneOf (texts : List JsString)
  deriving DecidableEq, Repr

def FieldType.Holds : FieldType → Option Json → Prop
  | .text, value => ∃ text, value = some (.str text)
  | .integer, value => ∃ n, value = some (.num n)
  | .textOrNull, value => value = some .null ∨ ∃ text, value = some (.str text)
  | .oneOf texts, value => ∃ text ∈ texts, value = some (.str text)

def PAYLOAD_TYPES : HcsV2MessageType → List (JsString × FieldType)
  | .TENDER_OPENED =>
    [(js "accessPaymentTxId", .text), (js "maxBudgetAtomic", .text), (js "auctionEndsAt", .text),
     (js "selectionPolicy", .oneOf [js "LOWEST_QUALIFIED_PRICE_V1"])]
  | .BID_COMMITMENT =>
    [(js "bidId", .text), (js "carrierId", .text), (js "bidHash", .text), (js "accessPaymentTxId", .text)]
  | .AUCTION_CLOSE_BARRIER =>
    [(js "barrierId", .text), (js "auctionEndsAt", .text), (js "expectedCommitmentCount", .integer),
     (js "bidSetHash", .text)]
  | .WINNER_SELECTED =>
    [(js "winningBidId", .text), (js "carrierId", .text), (js "winningAmountAtomic", .text),
     (js "decisionManifestHash", .text)]
  | .WINNER_ALLOCATED =>
    [(js "winningBidId", .text), (js "winnerAccount", .text), (js "winningAmountAtomic", .text),
     (js "excessRefundAtomic", .text), (js "allocateTxId", .text), (js "refundTxId", .textOrNull),
     (js "decisionManifestHash", .text)]
  | .ROUTE_RESERVED =>
    [(js "reservationId", .text), (js "winningBidId", .text), (js "carrierAccount", .text),
     (js "lockedAmountAtomic", .text), (js "allocateTxId", .text), (js "reservationRecordHash", .text)]
  | .POD_SUBMITTED =>
    [(js "podId", .text), (js "podVersion", .integer), (js "contentHash", .text), (js "ciphertextHash", .text),
     (js "sizeBytes", .integer)]
  | .POD_ADVISORY_ANCHORED =>
    [(js "podId", .text), (js "reportHash", .text), (js "binding", .oneOf [js "NON_BINDING_ADVISORY"])]
  | .POD_REVIEW_ACTION =>
    [(js "podId", .text), (js "action", .oneOf [js "ACCEPT", js "REQUEST_CORRECTION", js "REJECT_DISPUTE"]),
     (js "reviewDeadlineAt", .text)]
  | .POD_DEEMED_ACCEPTED => [(js "podId", .text), (js "reviewDeadlineAt", .text), (js "tickActionId", .text)]
  | .DISPUTE_OPENED =>
    [(js "disputeId", .text), (js "podId", .text), (js "reasonCode", .oneOf HCS_V2_DISPUTE_REASON_CODES)]
  | .REFEREE_RESOLUTION =>
    [(js "disputeId", .text), (js "podId", .text),
     (js "resolution", .oneOf [js "RELEASE_FULL", js "REFUND_FULL", js "PARTIAL"]), (js "releaseAmountAtomic", .text),
     (js "refundAmountAtomic", .text), (js "resolutionHash", .text)]
  | .ESCROW_RELEASED => [(js "releaseTxId", .text), (js "amountAtomic", .text), (js "winnerAccount", .text)]
  | .ESCROW_PARTIAL =>
    [(js "releaseTxId", .text), (js "refundTxId", .text), (js "releaseAmountAtomic", .text),
     (js "refundAmountAtomic", .text)]
  | .ESCROW_REFUNDED => [(js "refundTxId", .text), (js "amountAtomic", .text), (js "shipperAccount", .text)]
  | .TENDER_COMPLETED =>
    [(js "finalState", .oneOf [js "PAYMENT_RELEASED", js "PARTIAL_RELEASE", js "REFUNDED", js "TENDER_COMPLETED"]),
     (js "completionRef", .text)]

/-- The fields whose type the validation does not look at: the texts, which go through `String`, and two that no check
reads. -/
def FieldType.unchecked (messageType : HcsV2MessageType) : FieldType → Bool
  | .text => true
  | .integer => false
  | .textOrNull => true
  | .oneOf _ => messageType = .TENDER_COMPLETED

def ENVELOPE_KEYS : List JsString :=
  [js "schemaVersion", js "messageType", js "tenderId", js "tenderVersion", js "tenderHash", js "createdAt",
   js "payloadHash", js "payload"]

/-- The value has the form of the envelope: its keys and no others, the declared type in every field, the hash of its
payload, and the same canonical text. -/
structure ExactFields (p : Platform) (fields : List (JsString × Json)) (e : HcsV2Envelope) : Prop where
  keys : (fields.map Prod.fst).Perm ENVELOPE_KEYS
  texts : ∀ key ∈ [js "schemaVersion", js "messageType", js "tenderId", js "tenderHash", js "createdAt"],
    FieldType.text.Holds (fields.lookup key)
  tenderVersion : FieldType.integer.Holds (fields.lookup (js "tenderVersion"))
  payload : ∃ payload, fields.lookup (js "payload") = some (.obj payload) ∧
    (payload.map Prod.fst).Perm (PAYLOAD_KEYS e.messageType) ∧
    (∀ f ∈ PAYLOAD_TYPES e.messageType, f.2.Holds (payload.lookup f.1)) ∧
    fields.lookup (js "payloadHash") = some (.str (canonicalSha256 p.sha256Hex (.obj payload)))
  encoding : canonicalize (.obj fields) = serializeHcsV2Envelope e

def Exact (p : Platform) : Json → HcsV2Envelope → Prop
  | .obj fields, e => ExactFields p fields e
  | _, _ => False

/-- Nothing but the envelope's keys, and no field that `String`, `Number` or the lack of a check lets pass: the three
texts and the version of the shell, a payload hash to compare, and the unchecked fields of the payload. -/
structure UncoercedFields (fields : List (JsString × Json)) (messageType : HcsV2MessageType) : Prop where
  keys : ∀ key ∈ fields.map Prod.fst, key ∈ ENVELOPE_KEYS
  texts : ∀ key ∈ [js "tenderId", js "tenderHash", js "createdAt", js "payloadHash"],
    FieldType.text.Holds (fields.lookup key)
  tenderVersion : FieldType.integer.Holds (fields.lookup (js "tenderVersion"))
  payload : ∀ f ∈ PAYLOAD_TYPES messageType, f.2.unchecked messageType = true →
    f.2.Holds ((payloadFields (fields.lookup (js "payload"))).lookup f.1)

def Uncoerced : Json → HcsV2MessageType → Prop
  | .obj fields, messageType => UncoercedFields fields messageType
  | _, _ => False

/-! ## Reading -/

section Reading
variable {p : Platform} {fields : List (JsString × Json)} {e : HcsV2Envelope}

theorem messageTypeOf_text (messageType : HcsV2MessageType) : messageTypeOf messageType.text = some messageType := by
  cases messageType <;> decide

theorem text_of_messageTypeOf {text : JsString} {messageType : HcsV2MessageType} (h : messageTypeOf text = some messageType) :
    text = messageType.text := by
  have hfound := List.find?_some h
  exact (of_decide_eq_true hfound).symm

/-- What the parser hands to the builder. -/
structure Parsed (p : Platform) (fields : List (JsString × Json)) (e : HcsV2Envelope) : Prop where
  schemaVersion : fields.lookup (js "schemaVersion") = some (.str HCS_V2_SCHEMA_VERSION)
  messageType : fields.lookup (js "messageType") = some (.str e.messageType.text)
  tenderId : fieldText fields (js "tenderId") = .ok e.tenderId
  tenderVersion : fieldNumber fields (js "tenderVersion") = .ok (some e.tenderVersion)
  tenderHash : fieldText fields (js "tenderHash") = .ok e.tenderHash
  createdAt : fieldText fields (js "createdAt") = .ok e.createdAt
  payload : payloadFields (fields.lookup (js "payload")) = e.payload
  payloadHash : ∀ hash, fields.lookup (js "payloadHash") = some (.str hash) → hash = e.payloadHash
  validated : validatePayload e.messageType e.payload = .ok ()
  hash : e.payloadHash = canonicalSha256 p.sha256Hex (.obj e.payload)

theorem parsed_of_parse (h : parseHcsV2Envelope p (.obj fields) = .ok e) : Parsed p fields e := by
  simp only [parseHcsV2Envelope, check_eq_ok, require_eq_ok] at h
  obtain ⟨-, hschema, h⟩ := h
  cases htype : (readStr fields (js "messageType")).bind messageTypeOf with
  | none =>
    rw [htype] at h
    cases h
  | some messageType =>
    rw [htype] at h
    obtain ⟨text, htext, hmessage⟩ := Option.bind_eq_some_iff.mp htype
    simp only [bind_eq_ok, pure_eq_ok, require_eq_ok] at h
    obtain ⟨tenderId, hid, tenderVersion, hversion, tenderHash, hhash, createdAt, hcreated, built, hbuilt, _, hsame, rfl⟩ := h
    obtain ⟨hbuildable, rfl⟩ := buildHcsV2Envelope_eq_ok.mp hbuilt
    have hsome : tenderVersion = some (tenderVersion.getD 0) := by
      cases tenderVersion with
      | some n => rfl
      | none =>
        have hzero : isSafePositiveInteger 0 = true := hbuildable.tenderVersion
        exact absurd hzero (by decide)
    refine ⟨readStr_eq_some.mp hschema, ?_, hid, ?_, hhash, hcreated, rfl, ?_, hbuildable.payload, rfl⟩
    · rw [text_of_messageTypeOf hmessage] at htext
      exact readStr_eq_some.mp htext
    · rw [hversion, hsome]
      rfl
    · intro hash hlookup
      rw [readStr_eq_some.mpr hlookup] at hsame
      exact of_decide_eq_true hsame

/-! ### The types that a check looks at -/

theorem checkOneOf_eq_ok {key message : JsString} {texts : List JsString} :
    checkOneOf fields key texts message = .ok () ↔ (FieldType.oneOf texts).Holds (fields.lookup key) := by
  rw [checkOneOf, require_eq_ok, Option.any_eq_true]
  simp only [Option.bind_eq_some_iff, asStr_eq_some, exists_eq_right, decide_eq_true_eq, FieldType.Holds]
  constructor
  · rintro ⟨text, hlookup, hmem⟩
    exact ⟨text, hmem, hlookup⟩
  · rintro ⟨text, hmem, hlookup⟩
    exact ⟨text, hlookup, hmem⟩

theorem integer_of_checkSafePositive {key : JsString} (h : checkSafePositive fields key = .ok ()) :
    FieldType.integer.Holds (fields.lookup key) := by
  rw [checkSafePositive, require_eq_ok, Option.any_eq_true] at h
  obtain ⟨n, hn, -⟩ := h
  obtain ⟨v, hv, hnum⟩ := Option.bind_eq_some_iff.mp hn
  rw [asNum_eq_some.mp hnum] at hv
  exact ⟨n, hv⟩

/-- A validated payload has the declared type in every field that is checked. -/
theorem typed_of_validated {messageType : HcsV2MessageType} (h : validateFields fields messageType = .ok ())
    (hunchecked : ∀ f ∈ PAYLOAD_TYPES messageType, f.2.unchecked messageType = true → f.2.Holds (fields.lookup f.1)) :
    ∀ f ∈ PAYLOAD_TYPES messageType, f.2.Holds (fields.lookup f.1) := by
  cases messageType <;>
    simp only [PAYLOAD_TYPES, List.forall_mem_cons, List.not_mem_nil, false_implies, implies_true, and_true,
      FieldType.unchecked, Bool.false_eq_true, true_implies, true_and, decide_true, decide_false, reduceCtorEq] at hunchecked ⊢
  case AUCTION_CLOSE_BARRIER =>
    simp only [validateFields, check_eq_ok] at h
    obtain ⟨-, -, hcount, -⟩ := h
    exact ⟨hunchecked.1, hunchecked.2.1, integer_of_checkSafePositive hcount, hunchecked.2.2⟩
  case POD_SUBMITTED =>
    simp only [validateFields, check_eq_ok] at h
    obtain ⟨-, hversion, -, -, hsize⟩ := h
    exact ⟨hunchecked.1, integer_of_checkSafePositive hversion, hunchecked.2.1, hunchecked.2.2,
      integer_of_checkSafePositive hsize⟩
  -- the types with a constant among their fields
  case TENDER_OPENED | POD_ADVISORY_ANCHORED | POD_REVIEW_ACTION | DISPUTE_OPENED | REFEREE_RESOLUTION =>
    simp only [validateFields, check_eq_ok, checkOneOf_eq_ok] at h
    tauto
  -- and those of which every field is unchecked
  all_goals exact hunchecked

/-! ### From the conversions back to the fields -/

theorem fieldText_of_str {key text : JsString} (h : fields.lookup key = some (.str text)) :
    fieldText fields key = .ok text := by
  rw [fieldText, h]
  rfl

theorem fieldNumber_of_num {key : JsString} {n : Int} (h : fields.lookup key = some (.num n)) :
    fieldNumber fields key = .ok (some n) := by
  rw [fieldNumber, h]
  rfl

/-- A payload without the keys of a message is not validated. -/
theorem keys_of_validated {messageType : HcsV2MessageType} (h : validatePayload messageType fields = .ok ()) :
    (fields.map Prod.fst).Perm (PAYLOAD_KEYS messageType) := by
  simp only [validatePayload, check_eq_ok, assertExactPayloadKeys, require_eq_ok] at h
  exact (perm_sortOn id _).symm.trans (h.1 ▸ perm_sortOn id _)

theorem Parsed.lookup_payload (h : Parsed p fields e) : fields.lookup (js "payload") = some (.obj e.payload) := by
  have hne : e.payload ≠ [] := by
    intro hnil
    have hkeys := (keys_of_validated h.validated).length_eq
    rw [hnil] at hkeys
    revert hkeys
    cases e.messageType <;> decide
  have hpayload := h.payload
  rw [payloadFields] at hpayload
  cases hobj : (fields.lookup (js "payload")).bind asObj with
  | none =>
    rw [hobj] at hpayload
    exact absurd hpayload.symm hne
  | some payload =>
    rw [hobj] at hpayload
    obtain ⟨v, hv, hasObj⟩ := Option.bind_eq_some_iff.mp hobj
    rw [hv, asObj_eq_some.mp hasObj, ← hpayload]
    rfl

/-- What was read without a conversion has the fields of the envelope. -/
theorem Parsed.perm (h : Parsed p fields e) (hn : (fields.map Prod.fst).Nodup)
    (hun : UncoercedFields fields e.messageType) : fields.Perm e.fields := by
  have hkeys : e.fields.map Prod.fst = ENVELOPE_KEYS := rfl
  refine perm_of_lookup hn (hkeys ▸ by decide) ?_ (hkeys ▸ hun.keys)
  obtain ⟨n, hn⟩ := hun.tenderVersion
  have htexts := hun.texts
  simp only [List.forall_mem_cons, List.not_mem_nil, false_implies, implies_true, and_true] at htexts
  obtain ⟨⟨tenderId, hid⟩, ⟨tenderHash, hhash⟩, ⟨createdAt, hcreated⟩, payloadHash, hpayloadHash⟩ := htexts
  have hidEq := Except.ok.inj ((fieldText_of_str hid).symm.trans h.tenderId)
  have hhashEq := Except.ok.inj ((fieldText_of_str hhash).symm.trans h.tenderHash)
  have hcreatedEq := Except.ok.inj ((fieldText_of_str hcreated).symm.trans h.createdAt)
  have hversionEq := Option.some.inj (Except.ok.inj ((fieldNumber_of_num hn).symm.trans h.tenderVersion))
  have hpayloadHashEq := h.payloadHash _ hpayloadHash
  simp only [HcsV2Envelope.fields, List.forall_mem_cons, List.not_mem_nil, false_implies, implies_true, and_true]
  exact ⟨h.schemaVersion, h.messageType, hidEq ▸ hid, hversionEq ▸ hn, hhashEq ▸ hhash, hcreatedEq ▸ hcreated,
    hpayloadHashEq ▸ hpayloadHash, h.lookup_payload⟩

theorem Parsed.exact (h : Parsed p fields e) (hn : (fields.map Prod.fst).Nodup)
    (hun : UncoercedFields fields e.messageType) : ExactFields p fields e := by
  have hperm := h.perm hn hun
  have hkeys : e.fields.map Prod.fst = ENVELOPE_KEYS := rfl
  have hlookup (f : JsString × Json) (hf : f ∈ e.fields) : fields.lookup f.1 = some f.2 :=
    (lookup_eq_some_iff hn).mpr (hperm.mem_iff.mpr hf)
  have htexts := hun.texts
  simp only [List.forall_mem_cons, List.not_mem_nil, false_implies, implies_true, and_true] at htexts
  have hvalidated := h.validated
  simp only [validatePayload, check_eq_ok] at hvalidated
  have hpayload := hun.payload
  rw [h.payload] at hpayload
  obtain ⟨hash, hhash⟩ := htexts.2.2.2
  refine ⟨hkeys ▸ hperm.map Prod.fst, ?_, hun.tenderVersion, ?_, canonicalize_obj_perm hn hperm⟩
  · simp only [List.forall_mem_cons, List.not_mem_nil, false_implies, implies_true, and_true]
    exact ⟨⟨_, h.schemaVersion⟩, ⟨_, h.messageType⟩, htexts.1, htexts.2.1, htexts.2.2.1⟩
  · refine ⟨e.payload, h.lookup_payload, keys_of_validated h.validated, typed_of_validated hvalidated.2 hpayload, ?_⟩
    rw [hhash, h.payloadHash _ hhash, h.hash]

theorem ExactFields.uncoerced (h : ExactFields p fields e) : UncoercedFields fields e.messageType := by
  obtain ⟨payload, hpayload, -, htyped, hhash⟩ := h.payload
  have htexts := h.texts
  simp only [List.forall_mem_cons, List.not_mem_nil, false_implies, implies_true, and_true] at htexts
  refine ⟨fun key hkey => h.keys.mem_iff.mp hkey, ?_, h.tenderVersion, ?_⟩
  · simp only [List.forall_mem_cons, List.not_mem_nil, false_implies, implies_true, and_true]
    exact ⟨htexts.2.2.1, htexts.2.2.2.1, htexts.2.2.2.2, _, hhash⟩
  · intro f hf _
    have hfields : payloadFields (fields.lookup (js "payload")) = payload := by
      rw [hpayload]
      rfl
    rw [hfields]
    exact htyped f hf

/-- What is built is read back. -/
theorem parse_build {input : BuildHcsV2EnvelopeInput} (h : buildHcsV2Envelope p input = .ok e) :
    parseHcsV2Envelope p (.obj e.fields) = .ok e := by
  obtain ⟨hbuildable, rfl⟩ := buildHcsV2Envelope_eq_ok.mp h
  have htype : (readStr (input.envelope p).fields (js "messageType")).bind messageTypeOf = some input.messageType :=
    messageTypeOf_text input.messageType
  simp only [parseHcsV2Envelope, check_eq_ok, require_eq_ok, htype]
  refine ⟨hbuildable.envelopeSafe, rfl, ?_⟩
  simp only [bind_eq_ok, pure_eq_ok, require_eq_ok]
  refine ⟨input.tenderId, rfl, some input.tenderVersion, rfl, input.tenderHash, rfl, input.createdAt, rfl,
    input.envelope p, h, (), ?_, rfl⟩
  exact decide_eq_true rfl

end Reading

/-- What is built is read back as it is, and a value that is read has the form of the envelope exactly when none of its
fields was converted or not looked at. -/
theorem parse_exact_iff (p : Platform) :
    (∀ input e, buildHcsV2Envelope p input = .ok e → parseHcsV2Envelope p (.obj e.fields) = .ok e) ∧
      ∀ (v : JsonValue) (e : HcsV2Envelope), parseHcsV2Envelope p v.json = .ok e →
        (Exact p v.json e ↔ Uncoerced v.json e.messageType) := by
  refine ⟨fun _ _ h => parse_build h, ?_⟩
  rintro ⟨v, hd⟩ e h
  cases v with
  | obj fields =>
    constructor
    · intro hexact
      exact ExactFields.uncoerced hexact
    · intro hun
      exact (parsed_of_parse h).exact hd.1 hun
  | null => cases h
  | bool b => cases h
  | num n => cases h
  | str s => cases h
  | arr items => cases h

/-! ### A completed tender -/

namespace Completed

def platform : Platform := asciiPlatform fun _ _ _ => false

def digest : JsString := js "sha256:" ++ List.replicate 64 0x61

def input : BuildHcsV2EnvelopeInput where
  messageType := .TENDER_COMPLETED
  tenderId := js "tender-1"
  tenderVersion := 1
  tenderHash := digest
  createdAt := js "2026-07-01T10:00:00Z"
  payload := [(js "finalState", .str (js "REFUNDED")), (js "completionRef", .str (js "ref-1"))]

/-- The same without the tender's id and the payload's hash, with a truth value for the version and numbers in the
payload. -/
def loose : Json :=
  .obj [(js "schemaVersion", .str HCS_V2_SCHEMA_VERSION), (js "messageType", .str (js "TENDER_COMPLETED")),
    (js "tenderVersion", .bool true), (js "tenderHash", .str digest), (js "createdAt", .str (js "2026-07-01T10:00:00Z")),
    (js "payload", .obj [(js "finalState", .num 7), (js "completionRef", .num 1)])]

end Completed

/-- The parser takes the loose message, for a tender named `undefined`. -/
theorem loose_message_read : ∃ e, parseHcsV2Envelope Completed.platform Completed.loose = .ok e ∧
    e.tenderId = js "undefined" ∧ ¬ Exact Completed.platform Completed.loose e := by
  have hread : (parseHcsV2Envelope Completed.platform Completed.loose).toOption.map HcsV2Envelope.tenderId =
      some (js "undefined") := by decide +kernel
  obtain ⟨e, he, hid⟩ := Option.map_eq_some_iff.mp hread
  refine ⟨e, toOption_eq_some.mp he, hid, ?_⟩
  intro hexact
  have hkeys := hexact.keys.length_eq
  revert hkeys
  decide

theorem completed_read_exactly : ∃ e, buildHcsV2Envelope Completed.platform Completed.input = .ok e ∧
    parseHcsV2Envelope Completed.platform (.obj e.fields) = .ok e ∧ Exact Completed.platform (.obj e.fields) e := by
  have hbuild : buildHcsV2Envelope Completed.platform Completed.input =
      .ok (Completed.input.envelope Completed.platform) :=
    buildHcsV2Envelope_eq_ok.mpr
      ⟨⟨by decide, by decide, by decide, by decide, rfl, by decide, rfl, by decide +kernel⟩, rfl⟩
  have hparse := (parse_exact_iff Completed.platform).1 _ _ hbuild
  have hd : Distinct (.obj (Completed.input.envelope Completed.platform).fields) :=
    ⟨by decide, trivial, trivial, trivial, trivial, trivial, trivial, trivial, ⟨by decide, trivial, trivial, trivial⟩, trivial⟩
  refine ⟨_, hbuild, hparse, ((parse_exact_iff Completed.platform).2 ⟨_, hd⟩ _ hparse).mpr ?_⟩
  refine ⟨fun key hkey => hkey, ?_, ⟨1, rfl⟩, ?_⟩
  · simp only [List.forall_mem_cons, List.not_mem_nil, false_implies, implies_true, and_true]
    exact ⟨⟨_, rfl⟩, ⟨_, rfl⟩, ⟨_, rfl⟩, _, rfl⟩
  · intro f hf _
    rcases List.mem_cons.mp hf with rfl | hf
    · exact ⟨js "REFUNDED", by decide, rfl⟩
    · rcases List.mem_singleton.mp hf with rfl
      exact ⟨_, rfl⟩

end RouteGuard.Hcs.V2
