import RouteGuard.Domain.TimestampText
import RouteGuard.Pod.Manifest
import RouteGuard.Schemas.Bid

/-!
# The assurance adviser

* `PodAdvisoryReport` : a report that binds nobody, with its hash;
* `advise` : the rules of `DeterministicPodAssuranceAdviser`;
* `datesInconsistent_iff` : when a report finds the dates inconsistent;
* `deliveryDates_by_instant_iff` : which pairs of timestamps the bid schema and the adviser order as instants.
-/

namespace RouteGuard.Pod
open JsString Json Sorting

/-! ## Reports -/

inductive PodAdvisoryRecommendation where
  | ACCEPT | REQUEST_CORRECTION | MANUAL_REVIEW
  deriving DecidableEq, Repr

def PodAdvisoryRecommendation.text : PodAdvisoryRecommendation → JsString
  | .ACCEPT => js "ACCEPT"
  | .REQUEST_CORRECTION => js "REQUEST_CORRECTION"
  | .MANUAL_REVIEW => js "MANUAL_REVIEW"

inductive FindingCode where
  | INCOMPLETE | INCONSISTENT_IDENTIFIER | MISSING_RECIPIENT_CONFIRMATION | INCONSISTENT_DATES | DUPLICATE | ANOMALY
  | COMPLETE
  deriving DecidableEq, Repr

def FindingCode.text : FindingCode → JsString
  | .INCOMPLETE => js "INCOMPLETE"
  | .INCONSISTENT_IDENTIFIER => js "INCONSISTENT_IDENTIFIER"
  | .MISSING_RECIPIENT_CONFIRMATION => js "MISSING_RECIPIENT_CONFIRMATION"
  | .INCONSISTENT_DATES => js "INCONSISTENT_DATES"
  | .DUPLICATE => js "DUPLICATE"
  | .ANOMALY => js "ANOMALY"
  | .COMPLETE => js "COMPLETE"

inductive Severity where
  | INFO | WARN | FAIL
  deriving DecidableEq, Repr

def Severity.text : Severity → JsString
  | .INFO => js "INFO"
  | .WARN => js "WARN"
  | .FAIL => js "FAIL"

structure PodAdvisoryFinding where
  code : FindingCode
  severity : Severity
  message : JsString
  evidenceRef : Option JsString
  deriving DecidableEq, Repr

def ADVISER_ENGINE_ID : JsString := js "routeguard-deterministic-pod-assurance-v1"

/-- A report before it is hashed; its `binding` is always `NON_BINDING_ADVISORY`. -/
structure PodAdvisoryBody where
  reportId : JsString
  podId : JsString
  podVersion : Int
  tenderId : JsString
  engine : JsString
  recommendation : PodAdvisoryRecommendation
  findings : List PodAdvisoryFinding
  createdAt : JsString
  deriving DecidableEq, Repr

structure PodAdvisoryReport extends PodAdvisoryBody where
  reportHash : JsString
  deriving DecidableEq, Repr

def PodAdvisoryFinding.toJson (f : PodAdvisoryFinding) : Json :=
  .obj ([(js "code", .str f.code.text), (js "severity", .str f.severity.text), (js "message", .str f.message)] ++
    (f.evidenceRef.map fun ref => (js "evidenceRef", Json.str ref)).toList)

def PodAdvisoryBody.toJson (b : PodAdvisoryBody) : Json :=
  .obj
    [(js "reportId", .str b.reportId), (js "podId", .str b.podId), (js "podVersion", .num b.podVersion),
     (js "tenderId", .str b.tenderId), (js "engine", .str b.engine), (js "binding", .str (js "NON_BINDING_ADVISORY")),
     (js "recommendation", .str b.recommendation.text), (js "findings", .arr (b.findings.map PodAdvisoryFinding.toJson)),
     (js "createdAt", .str b.createdAt)]

/-! ## The rules -/

structure PodAssuranceAdviserInput where
  fields : PodPackageFields
  manifest : PodCanonicalManifest
  requiredDocumentTypes : Option (List JsString)
  expectedTenderId : JsString
  expectedTenderVersion : Int
  expectedWinningBidId : JsString
  expectedEscrowTenderKey : JsString
  deliveryDeadlineAt : Option JsString
  createdAt : JsString
  reportId : JsString
  deriving DecidableEq, Repr

def defaultRequiredDocumentTypes : List JsString := [js "ELECTRONIC_DELIVERY_RECEIPT", js "RECIPIENT_CONFIRMATION"]

/-- A finding that is made when `c` holds. -/
def findWhen (c : Prop) [Decidable c] (code : FindingCode) (severity : Severity) (message evidenceRef : JsString) :
    List PodAdvisoryFinding := if c then [⟨code, severity, message, some evidenceRef⟩] else []

def incompleteFindings (input : PodAssuranceAdviserInput) : List PodAdvisoryFinding :=
  (input.requiredDocumentTypes.getD defaultRequiredDocumentTypes).flatMap fun req =>
    findWhen (req ∉ input.manifest.entries.map PodManifestEntry.documentType) .INCOMPLETE .FAIL
      (js "required document type missing: " ++ req) (js "doc:" ++ req)

def identifierFindings (input : PodAssuranceAdviserInput) : List PodAdvisoryFinding :=
  findWhen (input.fields.tenderId ≠ input.expectedTenderId) .INCONSISTENT_IDENTIFIER .FAIL
      (js "tenderId does not match expected tender") (js "field:tenderId") ++
    findWhen (input.fields.tenderVersion ≠ input.expectedTenderVersion) .INCONSISTENT_IDENTIFIER .FAIL
      (js "tenderVersion does not match expected tender") (js "field:tenderVersion") ++
    findWhen (input.fields.winningBidId ≠ input.expectedWinningBidId) .INCONSISTENT_IDENTIFIER .FAIL
      (js "winningBidId does not match bound winner") (js "field:winningBidId") ++
    findWhen (input.fields.escrowTenderKey ≠ input.expectedEscrowTenderKey) .INCONSISTENT_IDENTIFIER .FAIL
      (js "escrowTenderKey does not match expected key") (js "field:escrowTenderKey")

/-- An empty deadline is none; the two timestamps are compared as strings. -/
def dateFindings (input : PodAssuranceAdviserInput) : List PodAdvisoryFinding :=
  findWhen (∃ deadline ∈ input.deliveryDeadlineAt, deadline ≠ [] ∧ deadline < input.fields.deliveryTimestamp)
    .INCONSISTENT_DATES .WARN (js "delivery timestamp is after delivery deadline") (js "field:deliveryTimestamp")

/-- The hashes of the package that occur more than once, in the order in which they occur first. -/
def duplicateFindings (input : PodAssuranceAdviserInput) : List PodAdvisoryFinding :=
  let hashes := input.manifest.entries.map PodManifestEntry.plaintextSha256
  hashes.eraseDups.flatMap fun h =>
    findWhen (1 < hashes.count h) .DUPLICATE .WARN (js "duplicate file content hash within package") h

def anomalyFindings (input : PodAssuranceAdviserInput) : List PodAdvisoryFinding :=
  findWhen ((∃ code ∈ input.fields.exceptionCodes, code ≠ js "NONE") ∨ input.fields.cargoConditionCode = js "DAMAGED")
    .ANOMALY .WARN (js "cargo exception or damage declared") (js "field:exceptionCodes")

def structuredFindings (input : PodAssuranceAdviserInput) : List PodAdvisoryFinding :=
  incompleteFindings input ++ identifierFindings input ++
    findWhen (¬ input.fields.recipientConfirmationPresent) .MISSING_RECIPIENT_CONFIRMATION .WARN
      (js "recipient confirmation flag is false") (js "field:recipientConfirmationPresent") ++
    dateFindings input ++ duplicateFindings input ++ anomalyFindings input

/-- The text that findings are sorted by. -/
def PodAdvisoryFinding.key (f : PodAdvisoryFinding) : JsString :=
  f.code.text ++ js "|" ++ f.severity.text ++ js "|" ++ f.message ++ js "|" ++ f.evidenceRef.getD []

def findings (input : PodAssuranceAdviserInput) : List PodAdvisoryFinding :=
  let found := structuredFindings input
  sortOn PodAdvisoryFinding.key
    (if found = [] then [⟨.COMPLETE, .INFO, js "no structured anomalies detected", none⟩] else found)

def recommendationOf (findings : List PodAdvisoryFinding) : PodAdvisoryRecommendation :=
  if ∃ f ∈ findings, f.severity = .FAIL then .REQUEST_CORRECTION
  else if ∃ f ∈ findings, f.severity = .WARN then .MANUAL_REVIEW
  else .ACCEPT

def advise (p : Platform) (input : PodAssuranceAdviserInput) : PodAdvisoryReport :=
  let body : PodAdvisoryBody :=
    ⟨input.reportId, input.fields.podId, input.fields.podVersion, input.fields.tenderId, ADVISER_ENGINE_ID,
      recommendationOf (findings input), findings input, input.createdAt⟩
  { body with reportHash := canonicalSha256 p.sha256Hex body.toJson }

/-! ## Inconsistent dates -/

@[simp] theorem mem_findWhen {c : Prop} [Decidable c] {code : FindingCode} {severity : Severity}
    {message evidenceRef : JsString} {f : PodAdvisoryFinding} :
    f ∈ findWhen c code severity message evidenceRef ↔ c ∧ f = ⟨code, severity, message, some evidenceRef⟩ := by
  unfold findWhen
  split <;> simp_all

/-- The report finds the dates inconsistent. -/
def DatesInconsistent (report : PodAdvisoryReport) : Prop := ∃ f ∈ report.findings, f.code = .INCONSISTENT_DATES

/-- Only one rule makes the finding, and it looks at the strings. -/
theorem datesInconsistent_iff {p : Platform} {input : PodAssuranceAdviserInput} :
    DatesInconsistent (advise p input) ↔
      ∃ deadline ∈ input.deliveryDeadlineAt, deadline ≠ [] ∧ deadline < input.fields.deliveryTimestamp := by
  have hfound : (∃ f ∈ structuredFindings input, f.code = .INCONSISTENT_DATES) ↔
      ∃ deadline ∈ input.deliveryDeadlineAt, deadline ≠ [] ∧ deadline < input.fields.deliveryTimestamp := by
    constructor
    · rintro ⟨f, hf, hcode⟩
      simp only [structuredFindings, incompleteFindings, identifierFindings, dateFindings, duplicateFindings,
        anomalyFindings, List.mem_append, List.mem_flatMap, mem_findWhen] at hf
      rcases hf with ((((⟨_, _, _, rfl⟩ | (((⟨_, rfl⟩ | ⟨_, rfl⟩) | ⟨_, rfl⟩) | ⟨_, rfl⟩)) | ⟨_, rfl⟩) | ⟨hdates, rfl⟩) |
        ⟨_, _, _, rfl⟩) | ⟨_, rfl⟩
      all_goals first | exact hdates | cases hcode
    · intro hdates
      refine ⟨⟨.INCONSISTENT_DATES, .WARN, js "delivery timestamp is after delivery deadline",
        some (js "field:deliveryTimestamp")⟩, ?_, rfl⟩
      simp only [structuredFindings, List.mem_append]
      exact .inl (.inl (.inr (mem_findWhen.mpr ⟨hdates, rfl⟩)))
  rw [← hfound]
  show (∃ f ∈ findings input, _) ↔ _
  simp only [findings, mem_sortOn]
  split_ifs with hnone
  · simp [hnone]
  · rfl

/-! ## Strings and instants -/

/-- `compareUtc(a, b) < 0`. -/
def IsEarlier (a b : JsString) : Prop := compareUtc a b = .ok (-1)

theorem isEarlier_iff {a b : JsString} {x y : Int} (ha : instant a = some x) (hb : instant b = some y) :
    IsEarlier a b ↔ x < y := by
  have hcompare : compareUtc a b = .ok (if x < y then -1 else if x > y then 1 else 0) :=
    compareUtc_eq_ok.mpr ⟨x, y, ha, hb, rfl⟩
  rw [IsEarlier, hcompare, Except.ok.injEq]
  split_ifs with hlt hgt
  · exact iff_of_true rfl hlt
  · exact iff_of_false (by decide) hlt
  · exact iff_of_false (by decide) hlt

theorem lt_iff_isEarlier_iff {a b : JsString} (ha : isUtcIsoTimestamp a) (hb : isUtcIsoTimestamp b) :
    (a < b ↔ IsEarlier a b) ↔ ¬ Misordered a b := by
  obtain ⟨x, hx⟩ := isUtcIsoTimestamp_iff.mp ha
  obtain ⟨y, hy⟩ := isUtcIsoTimestamp_iff.mp hb
  rw [isEarlier_iff hx hy]
  exact lt_iff_earlier_iff hx hy

/-- The bid passes every check that does not compare its two delivery times. -/
def OtherwiseValid (b : V2CarrierBid) : Prop :=
  V2CarrierBid.valid { b with estimatedDelivery := b.proposedPickupAt } ∧ isUtcIsoTimestamp b.estimatedDelivery

theorem parseV2CarrierBid_iff {b : V2CarrierBid} (h : OtherwiseValid b) :
    parseV2CarrierBid b = some b ↔ ¬ b.estimatedDelivery < b.proposedPickupAt := by
  obtain ⟨hvalid, hdelivery⟩ := h
  have hiff : b.valid = true ↔ ¬ b.estimatedDelivery < b.proposedPickupAt := by
    simp only [V2CarrierBid.valid, Bool.and_eq_true, Bool.not_eq_true', decide_eq_false_iff_not] at hvalid ⊢
    tauto
  rw [parseV2CarrierBid, ← hiff]
  split_ifs with hb <;> simp [hb]

/-- The bid schema accepts an otherwise valid bid exactly when its delivery is no earlier instant than its pickup, and the
adviser finds the dates inconsistent exactly when the delivery is a later instant than the deadline: this holds of the
pairs of timestamps that are not misordered, and of no other pair. -/
theorem deliveryDates_by_instant_iff (p : Platform) :
    (∀ b : V2CarrierBid, OtherwiseValid b →
        ((parseV2CarrierBid b = some b ↔ ¬ IsEarlier b.estimatedDelivery b.proposedPickupAt) ↔
          ¬ Misordered b.estimatedDelivery b.proposedPickupAt)) ∧
      ∀ (input : PodAssuranceAdviserInput) (deadline : JsString), input.deliveryDeadlineAt = some deadline →
        isUtcIsoTimestamp deadline → isUtcIsoTimestamp input.fields.deliveryTimestamp →
          ((DatesInconsistent (advise p input) ↔ IsEarlier deadline input.fields.deliveryTimestamp) ↔
            ¬ Misordered deadline input.fields.deliveryTimestamp) := by
  constructor
  · intro b hb
    have hpickup : isUtcIsoTimestamp b.proposedPickupAt := by
      have hvalid := hb.1
      simp only [V2CarrierBid.valid, Bool.and_eq_true] at hvalid
      tauto
    rw [parseV2CarrierBid_iff hb, not_iff_not, lt_iff_isEarlier_iff hb.2 hpickup]
  · intro input deadline hdeadline hvalid hdelivery
    have hne : deadline ≠ [] := by
      rintro rfl
      exact absurd hvalid (by decide)
    rw [datesInconsistent_iff, hdeadline, ← lt_iff_isEarlier_iff hvalid hdelivery]
    simp [hne]

/-! ## Half a second -/

namespace HalfSecond

/-- A bid that is picked up half a second after a full second. -/
def bid (estimatedDelivery : JsString) : V2CarrierBid where
  bidId := js "b"
  tenderId := js "t"
  tenderVersion := 1
  carrierId := js "c"
  carrierAccountId := js "0.0.7"
  freightAmountAtomic := js "5"
  equipment := js "e"
  proposedPickupAt := js "2026-01-02T00:00:00.5Z"
  estimatedDelivery := estimatedDelivery
  capacityConfirmed := true
  bidValidUntil := js "2026-01-03T00:00:00Z"
  commitmentSalt := List.replicate 64 0x61
  nonce := js "n"
  version := 1

/-- A delivery on the second, with a deadline written in milliseconds. -/
def review : PodAssuranceAdviserInput where
  fields :=
    { podId := js "p", podVersion := 1, tenderId := js "t", tenderVersion := 1, winningBidId := js "b",
      escrowTenderKey := js "k", carrierId := js "c", carrierAccountId := js "0.0.7",
      deliveryTimestamp := js "2026-01-02T00:00:00Z", recipientConfirmationPresent := true,
      cargoConditionCode := js "GOOD", exceptionCodes := [], submittedAt := js "2026-01-02T01:00:00Z", actionId := js "a" }
  manifest := ⟨[], 0, 0⟩
  requiredDocumentTypes := some []
  expectedTenderId := js "t"
  expectedTenderVersion := 1
  expectedWinningBidId := js "b"
  expectedEscrowTenderKey := js "k"
  deliveryDeadlineAt := some (js "2026-01-02T00:00:00.000Z")
  createdAt := js "2026-01-02T01:00:00Z"
  reportId := js "r"

theorem otherwiseValid : OtherwiseValid (bid (js "2026-01-02T00:00:00Z")) ∧ OtherwiseValid (bid (js "2026-01-02T00:00:00.7Z")) := by
  refine ⟨⟨?_, ?_⟩, ?_, ?_⟩ <;> decide

end HalfSecond

/-- Delivered half a second after the pickup, in one width of fractions. -/
theorem deliveryDates_by_instant_iff_one_width :
    parseV2CarrierBid (HalfSecond.bid (js "2026-01-02T00:00:00.7Z")) = some (HalfSecond.bid (js "2026-01-02T00:00:00.7Z")) := by
  have hmatch : matchUtcIso (js "2026-01-02T00:00:00.7Z") =
      some ⟨js "2026", js "01", js "02", js "00", js "00", js "00", js "7"⟩ := by decide
  have hmatch' : matchUtcIso (js "2026-01-02T00:00:00.5Z") =
      some ⟨js "2026", js "01", js "02", js "00", js "00", js "00", js "5"⟩ := by decide
  have hordered : ¬ Misordered (js "2026-01-02T00:00:00.7Z") (js "2026-01-02T00:00:00.5Z") := by
    rintro ⟨m, k, hm, hk, -, hmis⟩
    obtain rfl := Option.some.inj (hmatch.symm.trans hm)
    obtain rfl := Option.some.inj (hmatch'.symm.trans hk)
    exact not_misplaced_of_head (by decide) hmis
  have hlater : ¬ IsEarlier (js "2026-01-02T00:00:00.7Z") (js "2026-01-02T00:00:00.5Z") := by
    unfold IsEarlier
    decide
  exact (((deliveryDates_by_instant_iff (asciiPlatform fun _ _ _ => false)).1 _ HalfSecond.otherwiseValid.2).mpr
    hordered).mpr hlater

/-- A bid that is delivered before its pickup passes, and a delivery at the very deadline is found late. -/
theorem string_order_misses_instants :
    (OtherwiseValid (HalfSecond.bid (js "2026-01-02T00:00:00Z")) ∧
        parseV2CarrierBid (HalfSecond.bid (js "2026-01-02T00:00:00Z")) = some (HalfSecond.bid (js "2026-01-02T00:00:00Z")) ∧
        IsEarlier (js "2026-01-02T00:00:00Z") (js "2026-01-02T00:00:00.5Z")) ∧
      (DatesInconsistent (advise (asciiPlatform fun _ _ _ => false) HalfSecond.review) ∧
        compareUtc (js "2026-01-02T00:00:00.000Z") HalfSecond.review.fields.deliveryTimestamp = .ok 0) := by
  refine ⟨⟨HalfSecond.otherwiseValid.1, by decide, ?_⟩, ?_, by decide⟩
  · unfold IsEarlier
    decide
  · rw [datesInconsistent_iff]
    decide

end RouteGuard.Pod
