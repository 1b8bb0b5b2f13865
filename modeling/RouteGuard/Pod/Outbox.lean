import RouteGuard.Hcs.Outbox
import RouteGuard.Pod.Manifest

/-!
# The outbox items of a POD

The messages of the POD workflow, built from the record that a transition has committed.

* `buildPodSubmittedEnvelope` .. `buildDisputeOpenedEnvelope` : the four messages;
* `buildMessage_iff` : a small message of an accepted record is built exactly when its identifiers are public ones;
* `buildPodSubmitted_iff` .. `buildDisputeOpened_iff` : the four cases.
-/

namespace RouteGuard.Pod
open JsString Json Guarded Lifecycle Store Hcs.V2

inductive PodOutboxKind where
  | POD_SUBMITTED | POD_ADVISORY_ANCHORED | POD_REVIEW_ACTION | DISPUTE_OPENED
  deriving DecidableEq, Repr

structure PodOutboxItem where
  kind : PodOutboxKind
  envelope : HcsV2Envelope

/-! ## The messages -/

def podSubmittedPayload (podId : JsString) (podVersion : Int) (contentHash ciphertextHash : JsString)
    (sizeBytes : Int) : HcsV2Payload :=
  [(js "podId", .str podId), (js "podVersion", .num podVersion), (js "contentHash", .str contentHash),
   (js "ciphertextHash", .str ciphertextHash), (js "sizeBytes", .num sizeBytes)]

def podAdvisoryAnchoredPayload (podId reportHash : JsString) : HcsV2Payload :=
  [(js "podId", .str podId), (js "reportHash", .str reportHash), (js "binding", .str (js "NON_BINDING_ADVISORY"))]

def podReviewActionPayload (podId : JsString) (action : Auth.ShipperReviewActionKind) (reviewDeadlineAt : JsString) :
    HcsV2Payload :=
  [(js "podId", .str podId), (js "action", .str action.text), (js "reviewDeadlineAt", .str reviewDeadlineAt)]

def disputeOpenedPayload (disputeId podId reasonCode : JsString) : HcsV2Payload :=
  [(js "disputeId", .str disputeId), (js "podId", .str podId), (js "reasonCode", .str reasonCode)]

section Builders
variable (p : Platform) (record : LifecycleRecord)

def buildPodSubmittedEnvelope (sizeBytes : Int) : Except JsString HcsV2Envelope :=
  match present record.podId, record.podVersion with
  | some podId, some podVersion =>
    match present record.podContentHash, present record.podCiphertextHash with
    | some contentHash, some ciphertextHash =>
      buildHcsV2Envelope p
        (messageOf record .POD_SUBMITTED record.updatedAt
          (podSubmittedPayload podId podVersion contentHash ciphertextHash sizeBytes))
    | _, _ => .error (js "pod hashes missing on lifecycle record")
  | _, _ => .error (js "pod identity missing on lifecycle record")

/-- The item that is sent once an advisory is anchored. -/
def buildPodAdvisoryAnchoredEnvelope (reportHash : JsString) : Except JsString HcsV2Envelope :=
  match present record.podId with
  | none => .error (js "pod identity missing on lifecycle record")
  | some podId =>
    buildHcsV2Envelope p
      (messageOf record .POD_ADVISORY_ANCHORED record.updatedAt (podAdvisoryAnchoredPayload podId reportHash))

def buildPodReviewActionEnvelope (action : Auth.ShipperReviewActionKind) (reviewDeadlineAt : JsString) :
    Except JsString HcsV2Envelope :=
  match present record.podId with
  | none => .error (js "pod identity missing on lifecycle record")
  | some podId =>
    buildHcsV2Envelope p
      (messageOf record .POD_REVIEW_ACTION record.updatedAt (podReviewActionPayload podId action reviewDeadlineAt))

def buildDisputeOpenedEnvelope (disputeId reasonCode : JsString) : Except JsString HcsV2Envelope :=
  match present record.podId with
  | none => .error (js "pod identity missing on lifecycle record")
  | some podId =>
    buildHcsV2Envelope p
      (messageOf record .DISPUTE_OPENED record.updatedAt (disputeOpenedPayload disputeId podId reasonCode))

end Builders

/-! ## When they are built -/

section Built
variable {p : Platform} {t podId reportHash reviewDeadlineAt disputeId reasonCode contentHash ciphertextHash : JsString}
  {podVersion sizeBytes : Int} {record : LifecycleRecord} {action : Auth.ShipperReviewActionKind}

/-- A small message of an accepted record that names nothing private is built exactly when its payload is valid and the
tender id public. -/
theorem buildMessage_iff (hp : p.HexDigest) (h : Accepted p t record) {messageType : HcsV2MessageType}
    {payload : HcsV2Payload} (hsafe : ∀ path, assertHcsV2PublicSafe path (.obj payload) = .ok ())
    (hsmall : validatePayload messageType payload = .ok () → Measured (.obj payload) 330) :
    (∃ envelope, buildHcsV2Envelope p (messageOf record messageType record.updatedAt payload) = .ok envelope) ↔
      isPublicId record.tenderId ∧ validatePayload messageType payload = .ok () := by
  simp only [buildHcsV2Envelope_eq_ok]
  constructor
  · rintro ⟨_, hbuildable, -⟩
    exact ⟨hbuildable.tenderId, hbuildable.payload⟩
  · rintro ⟨htender, hvalid⟩
    refine ⟨_, ⟨htender, isSafePositive_of_accepted h, h.binding.tenderHash, h.progress.updated, hsafe _, hvalid,
      publicSafe_envelope hsafe, ?_⟩, rfl⟩
    exact withinLimit_of_measured htender (isSafePositive_of_accepted h) h.binding.tenderHash h.progress.updated
      (isSha256_canonicalSha256 hp _) (hsmall hvalid)

theorem present_some {s : JsString} (h : s ≠ []) : present (some s) = some s := by
  cases s with
  | nil => exact absurd rfl h
  | cons u rest => rfl

/-- The POD of an accepted record has a name. -/
theorem present_podId (h : Accepted p t record) (hpod : record.podId = some podId) :
    present record.podId = some podId := by
  rw [hpod]
  exact present_some (h.pod.podId podId hpod).1

/-! ### Payloads -/

theorem publicSafe_podSubmitted (path : JsString) :
    assertHcsV2PublicSafe path (.obj (podSubmittedPayload podId podVersion contentHash ciphertextHash sizeBytes)) =
      .ok () := by
  refine assertFieldsPublicSafe_eq_ok ?_ ?_
  · show [js "podId", js "podVersion", js "contentHash", js "ciphertextHash", js "sizeBytes"].all
      (fun k => !isProhibited k) = true
    decide
  · simp only [podSubmittedPayload, List.forall_mem_cons, publicSafe_str, publicSafe_num, implies_true,
      List.not_mem_nil, false_implies, and_self]

theorem publicSafe_podAdvisoryAnchored (podId reportHash path : JsString) :
    assertHcsV2PublicSafe path (.obj (podAdvisoryAnchoredPayload podId reportHash)) = .ok () := by
  refine assertFieldsPublicSafe_eq_ok ?_ ?_
  · show [js "podId", js "reportHash", js "binding"].all (fun k => !isProhibited k) = true
    decide
  · simp only [podAdvisoryAnchoredPayload, List.forall_mem_cons, publicSafe_str, implies_true, List.not_mem_nil,
      false_implies, and_self]

theorem publicSafe_podReviewAction (path : JsString) :
    assertHcsV2PublicSafe path (.obj (podReviewActionPayload podId action reviewDeadlineAt)) = .ok () := by
  refine assertFieldsPublicSafe_eq_ok ?_ ?_
  · show [js "podId", js "action", js "reviewDeadlineAt"].all (fun k => !isProhibited k) = true
    decide
  · simp only [podReviewActionPayload, List.forall_mem_cons, publicSafe_str, implies_true, List.not_mem_nil,
      false_implies, and_self]

theorem publicSafe_disputeOpened (path : JsString) :
    assertHcsV2PublicSafe path (.obj (disputeOpenedPayload disputeId podId reasonCode)) = .ok () := by
  refine assertFieldsPublicSafe_eq_ok ?_ ?_
  · show [js "disputeId", js "podId", js "reasonCode"].all (fun k => !isProhibited k) = true
    decide
  · simp only [disputeOpenedPayload, List.forall_mem_cons, publicSafe_str, implies_true, List.not_mem_nil,
      false_implies, and_self]

theorem validatePayload_podSubmitted :
    validatePayload .POD_SUBMITTED (podSubmittedPayload podId podVersion contentHash ciphertextHash sizeBytes) =
        .ok () ↔
      isPublicId podId ∧ isSafePositiveInteger podVersion ∧ isSha256 contentHash ∧ isSha256 ciphertextHash ∧
        isSafePositiveInteger sizeBytes := by
  let payload := podSubmittedPayload podId podVersion contentHash ciphertextHash sizeBytes
  have h1 : fieldText payload (js "podId") = .ok podId := rfl
  have h2 : payload.lookup (js "podVersion") = some (.num podVersion) := rfl
  have h3 : fieldText payload (js "contentHash") = .ok contentHash := rfl
  have h4 : fieldText payload (js "ciphertextHash") = .ok ciphertextHash := rfl
  have h5 : payload.lookup (js "sizeBytes") = some (.num sizeBytes) := rfl
  have hkeys : payload.map Prod.fst = PAYLOAD_KEYS .POD_SUBMITTED := rfl
  show validatePayload .POD_SUBMITTED payload = .ok () ↔ _
  simp only [validatePayload, assertExactPayloadKeys, hkeys, validateFields, checkId, checkHash, checkSafePositive, h1,
    h2, h3, h4, h5, assertId, assertHash, bind_eq_ok, require_eq_ok, exists_const, Except.ok.injEq, exists_eq_left',
    true_and, Option.bind_some, asNum, Option.any_some]

theorem validatePayload_podAdvisoryAnchored :
    validatePayload .POD_ADVISORY_ANCHORED (podAdvisoryAnchoredPayload podId reportHash) = .ok () ↔
      isPublicId podId ∧ isSha256 reportHash := by
  have h1 : fieldText (podAdvisoryAnchoredPayload podId reportHash) (js "podId") = .ok podId := rfl
  have h2 : fieldText (podAdvisoryAnchoredPayload podId reportHash) (js "reportHash") = .ok reportHash := rfl
  have h3 : checkOneOf (podAdvisoryAnchoredPayload podId reportHash) (js "binding") [js "NON_BINDING_ADVISORY"]
      (js "binding must be NON_BINDING_ADVISORY") = .ok () := rfl
  have hkeys : Sorting.sortOn id ((podAdvisoryAnchoredPayload podId reportHash).map Prod.fst) =
      Sorting.sortOn id (PAYLOAD_KEYS .POD_ADVISORY_ANCHORED) := by
    show Sorting.sortOn id [js "podId", js "reportHash", js "binding"] = _
    decide
  simp only [validatePayload, assertExactPayloadKeys, hkeys, validateFields, checkId, checkHash, h1, h2, h3, assertId,
    assertHash, bind_eq_ok, require_eq_ok, exists_const, Except.ok.injEq, exists_eq_left', true_and, and_true]

theorem validatePayload_podReviewAction :
    validatePayload .POD_REVIEW_ACTION (podReviewActionPayload podId action reviewDeadlineAt) = .ok () ↔
      isPublicId podId ∧ isUtcIsoTimestamp reviewDeadlineAt := by
  let payload := podReviewActionPayload podId action reviewDeadlineAt
  have h1 : fieldText payload (js "podId") = .ok podId := rfl
  have h2 : checkOneOf payload (js "action") [js "ACCEPT", js "REQUEST_CORRECTION", js "REJECT_DISPUTE"]
      (js "action invalid") = .ok () := by
    cases action <;> rfl
  have h3 : fieldText payload (js "reviewDeadlineAt") = .ok reviewDeadlineAt := rfl
  have hkeys : payload.map Prod.fst = PAYLOAD_KEYS .POD_REVIEW_ACTION := rfl
  show validatePayload .POD_REVIEW_ACTION payload = .ok () ↔ _
  simp only [validatePayload, assertExactPayloadKeys, hkeys, validateFields, checkId, checkUtc, checkText, h1, h2, h3,
    assertId, bind_eq_ok, require_eq_ok, exists_const, Except.ok.injEq, exists_eq_left', true_and]

theorem validatePayload_disputeOpened (hreason : reasonCode ∈ HCS_V2_DISPUTE_REASON_CODES) :
    validatePayload .DISPUTE_OPENED (disputeOpenedPayload disputeId podId reasonCode) = .ok () ↔
      isPublicId disputeId ∧ isPublicId podId := by
  let payload := disputeOpenedPayload disputeId podId reasonCode
  have h1 : fieldText payload (js "disputeId") = .ok disputeId := rfl
  have h2 : fieldText payload (js "podId") = .ok podId := rfl
  have h3 : payload.lookup (js "reasonCode") = some (.str reasonCode) := rfl
  have hkeys : payload.map Prod.fst = PAYLOAD_KEYS .DISPUTE_OPENED := rfl
  show validatePayload .DISPUTE_OPENED payload = .ok () ↔ _
  simp only [validatePayload, assertExactPayloadKeys, hkeys, validateFields, checkId, checkOneOf, h1, h2, h3, assertId,
    bind_eq_ok, require_eq_ok, exists_const, Except.ok.injEq, exists_eq_left', true_and, Option.bind_some, asStr,
    Option.any_some, decide_eq_true_eq, hreason, and_true]

/-! ### Sizes -/

theorem measured_safePositive {n : Int} (h : isSafePositiveInteger n = true) : Measured (.num n) 16 := by
  simp only [isSafePositiveInteger, Bool.and_eq_true, decide_eq_true_eq] at h
  exact measured_num (by decide) (by omega) (lt_of_le_of_lt h.2 (by decide))

theorem measured_podSubmitted (hpod : isPublicId podId = true) (hversion : isSafePositiveInteger podVersion = true)
    (hcontent : isSha256 contentHash = true) (hciphertext : isSha256 ciphertextHash = true)
    (hsize : isSafePositiveInteger sizeBytes = true) :
    Measured (.obj (podSubmittedPayload podId podVersion contentHash ciphertextHash sizeBytes)) 330 := by
  have h5 := measuredFields_cons (k := js "sizeBytes") (by decide) rfl (measured_safePositive hsize) measuredFields_nil
  have h4 := measuredFields_cons (k := js "ciphertextHash") (by decide) rfl (measured_sha256 hciphertext) h5
  have h3 := measuredFields_cons (k := js "contentHash") (by decide) rfl (measured_sha256 hcontent) h4
  have h2 := measuredFields_cons (k := js "podVersion") (by decide) rfl (measured_safePositive hversion) h3
  have h1 := measuredFields_cons (k := js "podId") (by decide) rfl (measured_publicId hpod) h2
  exact (measured_obj h1).mono (by decide)

theorem measured_podAdvisoryAnchored (hpod : isPublicId podId = true) (hhash : isSha256 reportHash = true) :
    Measured (.obj (podAdvisoryAnchoredPayload podId reportHash)) 330 := by
  have h3 := measuredFields_cons (k := js "binding") (by decide) rfl
    (measured_const (s := js "NON_BINDING_ADVISORY") (n := 20) (by decide)) measuredFields_nil
  have h2 := measuredFields_cons (k := js "reportHash") (by decide) rfl (measured_sha256 hhash) h3
  have h1 := measuredFields_cons (k := js "podId") (by decide) rfl (measured_publicId hpod) h2
  exact (measured_obj h1).mono (by decide)

theorem measured_podReviewAction (hpod : isPublicId podId = true) (hdeadline : isUtcIsoTimestamp reviewDeadlineAt = true) :
    Measured (.obj (podReviewActionPayload podId action reviewDeadlineAt)) 330 := by
  have haction : Measured (.str action.text) 20 := measured_const (n := 18) (by cases action <;> decide)
  have h3 := measuredFields_cons (k := js "reviewDeadlineAt") (by decide) rfl (measured_utc hdeadline) measuredFields_nil
  have h2 := measuredFields_cons (k := js "action") (by decide) rfl haction h3
  have h1 := measuredFields_cons (k := js "podId") (by decide) rfl (measured_publicId hpod) h2
  exact (measured_obj h1).mono (by decide)

theorem measured_disputeOpened (hreason : reasonCode ∈ HCS_V2_DISPUTE_REASON_CODES)
    (hdispute : isPublicId disputeId = true) (hpod : isPublicId podId = true) :
    Measured (.obj (disputeOpenedPayload disputeId podId reasonCode)) 330 := by
  have hshort : ∀ code ∈ HCS_V2_DISPUTE_REASON_CODES, code.all isPlain = true ∧ code.length ≤ 18 := by decide
  have h3 := measuredFields_cons (k := js "reasonCode") (by decide) rfl (measured_const (hshort _ hreason))
    measuredFields_nil
  have h2 := measuredFields_cons (k := js "podId") (by decide) rfl (measured_publicId hpod) h3
  have h1 := measuredFields_cons (k := js "disputeId") (by decide) rfl (measured_publicId hdispute) h2
  exact (measured_obj h1).mono (by decide)

/-! ### The four messages -/

/-- A submission is announced exactly from public identifiers and a size that is a positive safe integer. -/
theorem buildPodSubmitted_iff (hp : p.HexDigest) (h : Accepted p t record) (hpod : record.podId = some podId)
    (hversion : record.podVersion = some podVersion) (hcontent : record.podContentHash = some contentHash)
    (hciphertext : record.podCiphertextHash = some ciphertextHash) :
    (∃ envelope, buildPodSubmittedEnvelope p record sizeBytes = .ok envelope) ↔
      isPublicId record.tenderId ∧ isPublicId podId ∧ isSafePositiveInteger sizeBytes := by
  have hne {s : JsString} (hs : isSha256 s) : s ≠ [] := by
    rintro rfl
    exact absurd hs (by decide)
  have hcontentHash := h.pod.podContentHash _ hcontent
  have hciphertextHash := h.pod.podCiphertextHash _ hciphertext
  have hsafe : isSafePositiveInteger podVersion = true := by
    simp only [isSafePositiveInteger, Bool.and_eq_true, decide_eq_true_eq]
    exact h.pod.podVersion _ hversion
  simp only [buildPodSubmittedEnvelope, present_podId h hpod, hversion, hcontent, hciphertext,
    present_some (hne hcontentHash), present_some (hne hciphertextHash)]
  refine (buildMessage_iff hp h publicSafe_podSubmitted fun hvalid => ?_).trans ?_
  · obtain ⟨hpublic, -, -, -, hsize⟩ := validatePayload_podSubmitted.mp hvalid
    exact measured_podSubmitted hpublic hsafe hcontentHash hciphertextHash hsize
  · rw [validatePayload_podSubmitted]
    simp only [hsafe, hcontentHash, hciphertextHash, true_and]

/-- The item is built exactly from public identifiers. -/
theorem buildPodAdvisoryAnchored_iff (hp : p.HexDigest) (h : Accepted p t record) (hpod : record.podId = some podId)
    (hhash : isSha256 reportHash) :
    (∃ envelope, buildPodAdvisoryAnchoredEnvelope p record reportHash = .ok envelope) ↔
      isPublicId record.tenderId ∧ isPublicId podId := by
  rw [buildPodAdvisoryAnchoredEnvelope, present_podId h hpod]
  have hiff : validatePayload .POD_ADVISORY_ANCHORED (podAdvisoryAnchoredPayload podId reportHash) = .ok () ↔
      isPublicId podId ∧ isSha256 reportHash := validatePayload_podAdvisoryAnchored
  refine (buildMessage_iff hp h (publicSafe_podAdvisoryAnchored _ _) fun hvalid => ?_).trans ?_
  · exact measured_podAdvisoryAnchored (hiff.mp hvalid).1 hhash
  · rw [hiff, and_iff_left hhash]

/-- A review is announced exactly from public identifiers. -/
theorem buildPodReviewAction_iff (hp : p.HexDigest) (h : Accepted p t record) (hpod : record.podId = some podId)
    (hdeadline : isUtcIsoTimestamp reviewDeadlineAt) :
    (∃ envelope, buildPodReviewActionEnvelope p record action reviewDeadlineAt = .ok envelope) ↔
      isPublicId record.tenderId ∧ isPublicId podId := by
  rw [buildPodReviewActionEnvelope, present_podId h hpod]
  have hiff : validatePayload .POD_REVIEW_ACTION (podReviewActionPayload podId action reviewDeadlineAt) = .ok () ↔
      isPublicId podId ∧ isUtcIsoTimestamp reviewDeadlineAt := validatePayload_podReviewAction
  refine (buildMessage_iff hp h publicSafe_podReviewAction fun hvalid => ?_).trans ?_
  · exact measured_podReviewAction (hiff.mp hvalid).1 hdeadline
  · rw [hiff, and_iff_left hdeadline]

/-- A dispute is announced exactly from public identifiers, its own among them. -/
theorem buildDisputeOpened_iff (hp : p.HexDigest) (h : Accepted p t record) (hpod : record.podId = some podId)
    (hreason : reasonCode ∈ HCS_V2_DISPUTE_REASON_CODES) :
    (∃ envelope, buildDisputeOpenedEnvelope p record disputeId reasonCode = .ok envelope) ↔
      isPublicId record.tenderId ∧ isPublicId disputeId ∧ isPublicId podId := by
  rw [buildDisputeOpenedEnvelope, present_podId h hpod]
  have hiff : validatePayload .DISPUTE_OPENED (disputeOpenedPayload disputeId podId reasonCode) = .ok () ↔
      isPublicId disputeId ∧ isPublicId podId := validatePayload_disputeOpened hreason
  refine (buildMessage_iff hp h publicSafe_disputeOpened fun hvalid => ?_).trans ?_
  · exact measured_disputeOpened hreason (hiff.mp hvalid).1 (hiff.mp hvalid).2
  · rw [hiff]

end Built

end RouteGuard.Pod
