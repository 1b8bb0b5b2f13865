import RouteGuard.Hcs.MirrorTimestamp
import RouteGuard.Hcs.RoundTrip
import RouteGuard.Lib.ToNumber
import RouteGuard.Reservation.Calls

/-!
# The live publication resolver

The resolver looks for the reservation evidence of one hash on the topic, in the first page of messages that the Mirror
node returns. A topic can hold more messages than a page.

* `LiveHcsPublicationResolver.resolvePublication` : the resolver, given the response of the node;
* `TopicMessage`, `firstPage` : a message of a topic, and what the node lists of it;
* `Conclusive` : what a result says about the whole topic;
* `resolvePublication_conclusive_iff` : a result is right exactly when nothing that counts lies past the first page.
-/

namespace RouteGuard.Reservation
open JsString Json Guarded Hcs

/-! ## The resolver -/

def PHASE6B_HCS_TOPIC : JsString := js "0.0.9587459"

/-- The response of the node: its status, and the fields of each entry of its list. -/
structure MirrorMessagesResponse where
  ok : Bool
  messages : Option (List (List (JsString × Json)))

section Resolver
variable (p : Platform) (topicId envelopeHash : JsString)

/-- What one entry publishes: nothing where the loop continues or an error is skipped. -/
def publicationOf (raw : List (JsString × Json)) : Option HcsPublicationResolveResult := do
  let b64 ← (raw.lookup (js "message")).bind asStr
  guard (b64 ≠ [])
  let env ← (decodeHcsEnvelopeFromBase64 p b64).toOption
  guard (env.messageType = .ROUTE_RESERVED)
  let hash := hcsEnvelopeHash p env
  guard (hash = envelopeHash)
  let seq ← ((raw.lookup (js "sequence_number")).bind toNumber).join
  let ts ← (raw.lookup (js "consensus_timestamp")).bind asStr
  let ts ← (mirrorTimestampToUtcIso ts).toOption
  guard (isSafePositiveInteger seq ∧ ts ≠ [])
  pure (.found { topicId := topicId, sequence := seq, transactionId := none, consensusTimestamp := ts } hash)

/-- `resolvePublication`: one page is read. -/
def LiveHcsPublicationResolver.resolvePublication (response : MirrorMessagesResponse) :
    Except JsString HcsPublicationResolveResult := do
  require (topicId = PHASE6B_HCS_TOPIC) (js "Resolver topic mismatch")
  if response.ok then
    pure (match (response.messages.getD []).filterMap (publicationOf p topicId envelopeHash) with
      | [] => .notFoundConclusive
      | [found] => found
      | _ => .ambiguous)
  else pure .ambiguous

end Resolver

/-! ## A topic and its first page -/

/-- A message of a topic: its contents in base64, the number and the consensus timestamp that the node gives it, and
the other fields of its entry. -/
structure TopicMessage where
  message : JsString
  sequenceNumber : Int
  consensusTimestamp : JsString
  consensusAt : JsString
  others : List (JsString × Json)
  numbered : isSafePositiveInteger sequenceNumber = true
  dated : mirrorTimestampToUtcIso consensusTimestamp = .ok consensusAt

def TopicMessage.entry (m : TopicMessage) : List (JsString × Json) :=
  (js "consensus_timestamp", .str m.consensusTimestamp) :: (js "message", .str m.message) ::
    (js "sequence_number", .num m.sequenceNumber) :: m.others

/-- `order=asc&limit=100`. -/
def PAGE_LIMIT : Nat := 100

def firstPage (ok : Bool) (topic : List TopicMessage) : MirrorMessagesResponse where
  ok := ok
  messages := some ((topic.take PAGE_LIMIT).map TopicMessage.entry)

/-- The message decodes to reservation evidence of the hash. -/
def TopicMessage.publishes (p : Platform) (envelopeHash : JsString) (m : TopicMessage) : Bool :=
  (decodeHcsEnvelopeFromBase64 p m.message).toOption.any fun env =>
    env.messageType = .ROUTE_RESERVED && hcsEnvelopeHash p env = envelopeHash

/-- What a result says about the whole topic. -/
def Conclusive (p : Platform) (envelopeHash : JsString) (topic : List TopicMessage) : HcsPublicationResolveResult → Prop
  | .notFoundConclusive => topic.filter (TopicMessage.publishes p envelopeHash) = []
  | .found result hash => ∃ m, topic.filter (TopicMessage.publishes p envelopeHash) = [m] ∧
      result.sequence = m.sequenceNumber ∧ result.consensusTimestamp = m.consensusAt ∧ hash = envelopeHash
  | .ambiguous => True

section Topic
variable {p : Platform} {topicId envelopeHash : JsString}

/-- What a message publishes, if it does. -/
def TopicMessage.result (topicId envelopeHash : JsString) (m : TopicMessage) : HcsPublicationResolveResult :=
  .found { topicId := topicId, sequence := m.sequenceNumber, transactionId := none, consensusTimestamp := m.consensusAt }
    envelopeHash

/-- A converted timestamp is not empty. -/
theorem converted_ne_nil {ts iso : JsString} (h : mirrorTimestampToUtcIso ts = .ok iso) : iso ≠ [] := by
  cases hm : matchMirrorTimestamp (trim ts) with
  | some m =>
    obtain ⟨hlength, hdigits⟩ := isDigits_of_matchMirrorTimestamp hm
    obtain ⟨hnine, hall⟩ := padEnd_digits hlength hdigits
    obtain ⟨-, -, -, t, ht⟩ := takeFraction_fractionSuffix hnine hall
    rw [mirrorTimestampToUtcIso_of_match hm h, ht]
    simp
  | none =>
    rw [mirrorTimestampToUtcIso, hm] at h
    simp only at h
    split_ifs at h with hutc
    cases h
    rintro rfl
    exact absurd hutc (by decide)

theorem decode_nil (p : Platform) : (decodeHcsEnvelopeFromBase64 p []).toOption = none := rfl

theorem publicationOf_entry (m : TopicMessage) :
    publicationOf p topicId envelopeHash m.entry =
      if m.publishes p envelopeHash then some (m.result topicId envelopeHash) else none := by
  have hmessage : m.entry.lookup (js "message") = some (.str m.message) := by
    simp only [TopicMessage.entry, List.lookup_cons]
    rfl
  have hnumber : m.entry.lookup (js "sequence_number") = some (.num m.sequenceNumber) := by
    simp only [TopicMessage.entry, List.lookup_cons]
    rfl
  have htimestamp : m.entry.lookup (js "consensus_timestamp") = some (.str m.consensusTimestamp) := by
    simp only [TopicMessage.entry, List.lookup_cons]
    rfl
  cases hdecode : (decodeHcsEnvelopeFromBase64 p m.message).toOption with
  | none => simp [publicationOf, TopicMessage.publishes, hmessage, asStr, hdecode]
  | some env =>
    have hne : m.message ≠ [] := by
      intro hnil
      rw [hnil, decode_nil] at hdecode
      cases hdecode
    have hdated : (mirrorTimestampToUtcIso m.consensusTimestamp).toOption = some m.consensusAt := by
      rw [m.dated]
      rfl
    simp only [publicationOf, TopicMessage.publishes, hmessage, hnumber, htimestamp, Option.bind_eq_bind, Option.bind_some,
      asStr, hdecode, toNumber, Option.join_some, hdated, m.numbered, guard]
    by_cases htype : env.messageType = .ROUTE_RESERVED
    · by_cases hhash : hcsEnvelopeHash p env = envelopeHash
      · simp [htype, hhash, hne, converted_ne_nil m.dated, TopicMessage.result]
      · simp [htype, hhash]
    · simp [htype]

theorem filterMap_entries (messages : List TopicMessage) :
    (messages.map TopicMessage.entry).filterMap (publicationOf p topicId envelopeHash) =
      (messages.filter (TopicMessage.publishes p envelopeHash)).map (TopicMessage.result topicId envelopeHash) := by
  induction messages with
  | nil => rfl
  | cons m rest ih =>
    rw [List.map_cons, List.filterMap_cons, publicationOf_entry, List.filter_cons]
    split_ifs with hm
    · rw [List.map_cons, ← ih]
    · exact ih

theorem filter_pages (p : Platform) (envelopeHash : JsString) (topic : List TopicMessage) :
    topic.filter (TopicMessage.publishes p envelopeHash) =
      (topic.take PAGE_LIMIT).filter (TopicMessage.publishes p envelopeHash) ++
        (topic.drop PAGE_LIMIT).filter (TopicMessage.publishes p envelopeHash) := by
  rw [← List.filter_append, List.take_append_drop]

/-- The result by the messages of a page that count. -/
def verdict (topicId envelopeHash : JsString) : List TopicMessage → HcsPublicationResolveResult
  | [] => .notFoundConclusive
  | [m] => m.result topicId envelopeHash
  | _ => .ambiguous

theorem resolvePublication_eq_ok {ok : Bool} {topic : List TopicMessage} {result : HcsPublicationResolveResult} :
    LiveHcsPublicationResolver.resolvePublication p topicId envelopeHash (firstPage ok topic) = .ok result ↔
      topicId = PHASE6B_HCS_TOPIC ∧ result =
        if ok then verdict topicId envelopeHash ((topic.take PAGE_LIMIT).filter (TopicMessage.publishes p envelopeHash))
        else .ambiguous := by
  simp only [LiveHcsPublicationResolver.resolvePublication, firstPage, Option.getD_some, filterMap_entries, check_eq_ok,
    require_eq_ok]
  refine and_congr_right fun _ => ?_
  cases ok with
  | false => exact pure_eq_ok.trans eq_comm
  | true =>
    rcases (topic.take PAGE_LIMIT).filter (TopicMessage.publishes p envelopeHash) with _ | ⟨m, _ | ⟨m', rest⟩⟩
    · exact pure_eq_ok.trans eq_comm
    · exact pure_eq_ok.trans eq_comm
    · exact pure_eq_ok.trans eq_comm

end Topic

/-- A result holds of the whole topic exactly where it comes from an error of the node or from two messages of the
first page, or no message past the first page counts. -/
theorem resolvePublication_conclusive_iff {p : Platform} {topicId envelopeHash : JsString} {ok : Bool}
    {topic : List TopicMessage} {result : HcsPublicationResolveResult}
    (h : LiveHcsPublicationResolver.resolvePublication p topicId envelopeHash (firstPage ok topic) = .ok result) :
    Conclusive p envelopeHash topic result ↔
      ok = false ∨ 2 ≤ (topic.take PAGE_LIMIT).countP (TopicMessage.publishes p envelopeHash) ∨
        ∀ m ∈ topic.drop PAGE_LIMIT, m.publishes p envelopeHash = false := by
  obtain ⟨-, rfl⟩ := resolvePublication_eq_ok.mp h
  have hsplit := filter_pages p envelopeHash topic
  have hlater : (∀ m ∈ topic.drop PAGE_LIMIT, m.publishes p envelopeHash = false) ↔
      (topic.drop PAGE_LIMIT).filter (TopicMessage.publishes p envelopeHash) = [] := by
    simp only [List.filter_eq_nil_iff, Bool.not_eq_true]
  rw [hlater, List.countP_eq_length_filter]
  clear h
  generalize (topic.drop PAGE_LIMIT).filter (TopicMessage.publishes p envelopeHash) = later at hsplit ⊢
  generalize (topic.take PAGE_LIMIT).filter (TopicMessage.publishes p envelopeHash) = page at hsplit ⊢
  cases ok with
  | false => simp [Conclusive]
  | true =>
    rcases page with _ | ⟨m, _ | ⟨m', rest⟩⟩
    · simp [verdict, Conclusive, hsplit]
    · constructor
      · rintro ⟨m', hm', -⟩
        rw [hsplit, List.cons_append, List.nil_append, List.cons.injEq] at hm'
        exact .inr (.inr hm'.2)
      · rintro (hok | htwo | hnil)
        · cases hok
        · exact absurd htwo (by simp)
        · rw [hnil] at hsplit
          exact ⟨m, hsplit, rfl, rfl, rfl⟩
    · simp [verdict, Conclusive]

/-! ### Evidence behind a full page -/

namespace FullPage

def platform : Platform := asciiPlatform fun _ _ _ => false

def digest : JsString := js "sha256:" ++ List.replicate 64 0x61

def payload : RouteReservedPayload where
  reservationId := js "reservation-1"
  winningBidId := js "bid-1"
  carrierId := js "carrier-1"
  carrierAccount := js "0.0.1001"
  selectedOptionId := .usdc
  paymentAsset := js "0.0.429274"
  paymentAmountAtomic := js "15000000"
  payerAccount := js "0.0.1002"
  paymentTransactionId := js "0.0.1002@1782900000.000000001"
  paymentConsensusTimestamp := js "2026-07-01T10:00:01Z"
  reservationRecordHash := digest
  closeBarrierSequence := 4
  reservationEvidenceVersion := ROUTE_RESERVED_EVIDENCE_VERSION

def header : EnvelopeHeader where
  runId := js "run-1"
  tenderId := js "tender-1"
  tenderVersion := 1
  tenderHash := digest
  createdAt := js "2026-07-01T10:00:02Z"

def evidence : HcsEnvelope := envelopeOf platform header (.routeReserved payload)

def evidenceHash : JsString := hcsEnvelopeHash platform evidence

/-- A consensus timestamp for each of the first messages, and what it is converted to. -/
def stamp (i : Fin 100) : JsString := decimal (1782900000 + i) ++ js ".000000000"

def stampIso (i : Fin 100) : JsString := Lifecycle.formatDateTime (1782900000 + i : Nat) ++ js "Z"

theorem dated_stamp (i : Fin 100) : mirrorTimestampToUtcIso (stamp i) = .ok (stampIso i) := by
  have hsmall : 1782900000 + (i : Nat) < 8640000000000 := by omega
  exact mirrorTimestampToUtcIso_seconds hsmall

/-- A message of another kind. -/
def other (i : Fin 100) : TopicMessage where
  message := []
  sequenceNumber := i + 1
  consensusTimestamp := stamp i
  consensusAt := stampIso i
  others := []
  numbered := by revert i; decide
  dated := dated_stamp i

def published : TopicMessage where
  message := TextCodec.toBase64 (encodeHcsEnvelopeUtf8 evidence)
  sequenceNumber := 101
  consensusTimestamp := js "1782900100.000000000"
  consensusAt := js "2026-07-01T10:01:40Z"
  others := []
  numbered := by decide
  dated := by decide

/-- A hundred messages, and the evidence after them. -/
def topic : List TopicMessage := (List.finRange 100).map other ++ [published]

theorem creatable_evidence : Creatable platform header (.routeReserved payload) :=
  ⟨by decide, trivial, by decide, by decide, by decide, by decide +kernel⟩

theorem decode_published : decodeHcsEnvelopeFromBase64 platform published.message = .ok evidence := by
  have hmessage : published.message = TextCodec.toBase64 (encodeHcsEnvelopeUtf8 evidence) := rfl
  rw [hmessage, decodeHcsEnvelopeFromBase64_encode, decodeHcsEnvelopeFromBytes_encode]
  exact (decodeFields_sorted (hexDigest_asciiPlatform _) creatable_evidence).mpr ⟨by decide, by decide⟩

theorem published_publishes : published.publishes platform evidenceHash = true := by
  have htype : evidence.messageType = .ROUTE_RESERVED := rfl
  have hhash : hcsEnvelopeHash platform evidence = evidenceHash := rfl
  rw [TopicMessage.publishes, decode_published, Except.toOption, Option.any_some, htype, hhash, Bool.and_eq_true]
  exact ⟨decide_eq_true rfl, decide_eq_true rfl⟩

theorem filter_first : (topic.take PAGE_LIMIT).filter (TopicMessage.publishes platform evidenceHash) = [] := by
  have htake : topic.take PAGE_LIMIT = (List.finRange 100).map other :=
    List.take_left' (by rw [List.length_map, List.length_finRange]; rfl)
  rw [htake, List.filter_eq_nil_iff]
  intro m hm
  obtain ⟨i, -, rfl⟩ := List.mem_map.mp hm
  rw [TopicMessage.publishes, other, decode_nil]
  exact Bool.false_ne_true

end FullPage

/-- The evidence is the message after the first hundred, and the resolver says that it is not there. -/
theorem evidence_behind_page :
    LiveHcsPublicationResolver.resolvePublication FullPage.platform PHASE6B_HCS_TOPIC FullPage.evidenceHash
      (firstPage true FullPage.topic) = .ok .notFoundConclusive ∧
    FullPage.published ∈ FullPage.topic ∧ FullPage.published.publishes FullPage.platform FullPage.evidenceHash = true := by
  refine ⟨resolvePublication_eq_ok.mpr ⟨rfl, ?_⟩, ?_, FullPage.published_publishes⟩
  · rw [if_pos rfl, FullPage.filter_first]
    rfl
  · exact List.mem_append_right _ List.mem_cons_self

/-- On a topic of one message the result is right. -/
theorem evidence_on_page : Conclusive FullPage.platform FullPage.evidenceHash [FullPage.published]
    (FullPage.published.result PHASE6B_HCS_TOPIC FullPage.evidenceHash) := by
  have hresult : LiveHcsPublicationResolver.resolvePublication FullPage.platform PHASE6B_HCS_TOPIC FullPage.evidenceHash
      (firstPage true [FullPage.published]) = .ok (FullPage.published.result PHASE6B_HCS_TOPIC FullPage.evidenceHash) := by
    refine resolvePublication_eq_ok.mpr ⟨rfl, ?_⟩
    rw [if_pos rfl, List.take_of_length_le (by decide), List.filter_cons_of_pos FullPage.published_publishes,
      List.filter_nil]
    rfl
  exact (resolvePublication_conclusive_iff hresult).mpr (.inr (.inr fun m hm => absurd hm List.not_mem_nil))

end RouteGuard.Reservation
