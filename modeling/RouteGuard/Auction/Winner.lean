import RouteGuard.Auction.Manifest
import RouteGuard.Store.Accepted

/-!
# The winner

The manifest names the least qualified bid: least in price, then in the instant of its delivery, then in the instant of
its commitment, then in its bid id.

* `QualifiedBid` : a commitment and a bid that satisfy every condition;
* `rank` : the order of the ranking;
* `buildDecisionManifest_winner` : the manifest's winner.
-/

namespace RouteGuard.Auction
open JsString Json Guarded Sorting

/-! ## The comparison -/

def RankedBid.key (b : RankedBid) : Int ×ₗ Int ×ₗ Int ×ₗ JsString :=
  toLex (b.freightPriceCents, toLex ((instant b.estimatedDelivery).getD 0,
    toLex ((instant b.consensusTimestamp).getD 0, b.bidId)))

/-- The two times of a ranked bid are timestamps. -/
def RankedBid.Timed (b : RankedBid) : Prop :=
  isUtcIsoTimestamp b.estimatedDelivery = true ∧ isUtcIsoTimestamp b.consensusTimestamp = true

theorem exists_instant {value : JsString} (h : isUtcIsoTimestamp value = true) :
    ∃ parsed, parseUtcTimestamp value = .ok parsed ∧ (instant value).getD 0 = parsed.epochNanoseconds := by
  obtain ⟨n, hn⟩ := isUtcIsoTimestamp_iff.mp h
  obtain ⟨parsed, hparsed, rfl⟩ := instant_eq_some.mp hn
  exact ⟨parsed, hparsed, by rw [hn]; rfl⟩

theorem compareCodePointStrings_nonpos {a b : JsString} : compareCodePointStrings a b ≤ 0 ↔ a ≤ b := by
  unfold compareCodePointStrings
  rcases lt_trichotomy a b with h | rfl | h
  · rw [if_pos h]
    exact iff_of_true (by decide) h.le
  · rw [if_neg (lt_irrefl a), if_neg (lt_irrefl a)]
    exact iff_of_true (le_refl 0) (le_refl a)
  · rw [if_neg h.not_gt, if_pos h]
    exact iff_of_false (by decide) h.not_ge

/-- Between timed bids the comparison answers by the key. -/
theorem compareRankedBids_eq {a b : RankedBid} (ha : a.Timed) (hb : b.Timed) :
    ∃ c, compareRankedBids a b = .ok c ∧ (c ≤ 0 ↔ a.key ≤ b.key) := by
  obtain ⟨delA, hdelA, hA⟩ := exists_instant ha.1
  obtain ⟨delB, hdelB, hB⟩ := exists_instant hb.1
  obtain ⟨consA, hconsA, hcA⟩ := exists_instant ha.2
  obtain ⟨consB, hconsB, hcB⟩ := exists_instant hb.2
  have hkey : a.key ≤ b.key ↔ a.freightPriceCents < b.freightPriceCents ∨ a.freightPriceCents = b.freightPriceCents ∧
      (delA.epochNanoseconds < delB.epochNanoseconds ∨ delA.epochNanoseconds = delB.epochNanoseconds ∧
        (consA.epochNanoseconds < consB.epochNanoseconds ∨ consA.epochNanoseconds = consB.epochNanoseconds ∧
          a.bidId ≤ b.bidId)) := by
    simp only [RankedBid.key, Prod.Lex.toLex_le_toLex, hA, hB, hcA, hcB]
  rw [hkey, compareRankedBids]
  by_cases hprice : a.freightPriceCents = b.freightPriceCents
  · simp only [hprice, ne_eq, not_true, if_false, hdelA, hdelB, hconsA, hconsB, bind, Except.bind, pure, Except.pure,
      lt_irrefl, false_or, true_and]
    split_ifs with h1 h2 h3 h4
    · exact ⟨-1, rfl, iff_of_true (by decide) (.inl h1)⟩
    · exact ⟨1, rfl, iff_of_false (by decide) (by omega)⟩
    · exact ⟨-1, rfl, iff_of_true (by decide) (by omega)⟩
    · exact ⟨1, rfl, iff_of_false (by decide) (by omega)⟩
    · refine ⟨_, rfl, ?_⟩
      rw [compareCodePointStrings_nonpos]
      constructor
      · intro h
        exact .inr ⟨by omega, .inr ⟨by omega, h⟩⟩
      · rintro (h | ⟨-, h | ⟨-, h⟩⟩)
        · omega
        · omega
        · exact h
  · rw [if_pos hprice]
    exact ⟨_, rfl, by omega⟩

theorem rankQualifiedBids_eq {results : List EligibilityResult}
    (h : ∀ b ∈ (results.filter isRankable).filterMap rankedBid, b.Timed) :
    rankQualifiedBids results = .ok (sortOn RankedBid.key ((results.filter isRankable).filterMap rankedBid)) :=
  sortWith_eq fun a ha b hb => compareRankedBids_eq (h a ha) (h b hb)

/-! ## Qualified bids -/

section Qualified
variable (p : Platform)

/-- The bid of a commitment as it enters the ranking. -/
def rankedOf (c : CommitmentEvidence) (bid : CarrierBid) : RankedBid where
  bidId := c.bidId
  carrierId := c.carrierId
  freightPriceCents := bid.freightPriceCents
  estimatedDelivery := bid.estimatedDelivery
  consensusTimestamp := c.consensusTimestamp
  hcsSequence := c.hcsSequence
  bidHash := canonicalSha256 p.sha256Hex bid.toJson

/-- Evidence submitted for the commitment shows that its bid qualifies. -/
def QualifiesIn (terms : EvaluationTerms) (fullBids receipts : List (JsString × Json)) (c : CommitmentEvidence)
    (bid : CarrierBid) : Prop :=
  ∃ signed raw, evidenceFor fullBids c = some signed ∧ evidenceFor receipts c = some raw ∧
    Qualifies p terms signed raw c bid

/-- The results of the commitments. -/
def Results (terms : EvaluationTerms) (fullBids receipts : List (JsString × Json)) (cs : List CommitmentEvidence)
    (rs : List EligibilityResult) : Prop :=
  List.Forall₂ (fun c r => evaluateParsed p terms c (evidenceFor fullBids c) (evidenceFor receipts c) = .ok r) cs rs

end Qualified

section Ranked
variable {p : Platform} {terms : EvaluationTerms} {fullBids receipts : List (JsString × Json)}
  {cs : List CommitmentEvidence} {rs : List EligibilityResult}

theorem rankedBid_eq {c : CommitmentEvidence} {bid : CarrierBid} {r : EligibilityResult} (hc : Concerns c r)
    (hq : Quotes (p := p) bid r) : rankedBid r = some (rankedOf p c bid) := by
  simp only [rankedBid, hq.freightPriceCents, hq.estimatedDelivery, hq.bidHash, hc.bidId, hc.carrierId,
    hc.consensusTimestamp, hc.hcsSequence]
  rfl

theorem QualifiesIn.bid_eq {c : CommitmentEvidence} {bid bid' : CarrierBid}
    (h : QualifiesIn p terms fullBids receipts c bid) (h' : QualifiesIn p terms fullBids receipts c bid') : bid = bid' := by
  obtain ⟨signed, raw, hsigned, -, hq⟩ := h
  obtain ⟨signed', raw', hsigned', -, hq'⟩ := h'
  obtain rfl : signed = signed' := Option.some.inj (hsigned.symm.trans hsigned')
  exact Option.some.inj (hq.read.symm.trans hq'.read)

/-- The ranking holds the qualified bids. -/
theorem mem_ranked (h : Results p terms fullBids receipts cs rs) {b : RankedBid} :
    b ∈ (rs.filter isRankable).filterMap rankedBid ↔
      ∃ c ∈ cs, ∃ bid, QualifiesIn p terms fullBids receipts c bid ∧ rankedOf p c bid = b := by
  simp only [List.mem_filterMap, List.mem_filter]
  constructor
  · rintro ⟨r, ⟨hr, hrank⟩, hb⟩
    obtain ⟨c, hc, heval⟩ := exists_of_mem_right h hr
    have hevaluated := evaluateParsed_eq_ok heval
    obtain ⟨signed, raw, bid, hsigned, hraw, hq, hquotes⟩ := hevaluated.quotes hrank
    rw [rankedBid_eq hevaluated.concerns hquotes] at hb
    exact ⟨c, hc, bid, ⟨signed, raw, hsigned, hraw, hq⟩, Option.some.inj hb⟩
  · rintro ⟨c, hc, bid, hbid, rfl⟩
    obtain ⟨r, hr, heval⟩ := exists_of_mem_left h hc
    have hevaluated := evaluateParsed_eq_ok heval
    obtain ⟨signed, raw, hsigned, hraw, hq⟩ := hbid
    have hrank := hevaluated.rankable signed raw bid hsigned hraw hq
    obtain ⟨signed', raw', bid', hsigned', hraw', hq', hquotes⟩ := hevaluated.quotes hrank
    obtain rfl : bid = bid' := QualifiesIn.bid_eq ⟨signed, raw, hsigned, hraw, hq⟩ ⟨signed', raw', hsigned', hraw', hq'⟩
    exact ⟨r, ⟨hr, hrank⟩, rankedBid_eq hevaluated.concerns hquotes⟩

theorem timed_of_qualifies {c : CommitmentEvidence} {bid : CarrierBid} (hq : QualifiesIn p terms fullBids receipts c bid) :
    (rankedOf p c bid).Timed := by
  obtain ⟨signed, raw, -, -, hq⟩ := hq
  obtain ⟨x, _, hx, -⟩ := hq.timely
  obtain ⟨y, _, hy, -⟩ := hq.terms.delivery
  exact ⟨isUtcIsoTimestamp_iff.mpr ⟨y, hy⟩, isUtcIsoTimestamp_iff.mpr ⟨x, hx⟩⟩

/-- The winner is the least of the qualified bids, and there is none only where no bid qualifies. -/
theorem selectWinner_eq_ok (h : Results p terms fullBids receipts cs rs) :
    ∃ winner, selectWinner rs = .ok winner ∧
      (winner = none ↔ ∀ c ∈ cs, ∀ bid, ¬ QualifiesIn p terms fullBids receipts c bid) ∧
        ∀ b, winner = some b → ∃ c ∈ cs, ∃ bid, QualifiesIn p terms fullBids receipts c bid ∧ rankedOf p c bid = b ∧
          ∀ c' ∈ cs, ∀ bid', QualifiesIn p terms fullBids receipts c' bid' → b.key ≤ (rankedOf p c' bid').key := by
  have htimed : ∀ b ∈ (rs.filter isRankable).filterMap rankedBid, b.Timed := by
    intro b hb
    obtain ⟨c, -, bid, hq, rfl⟩ := (mem_ranked h).mp hb
    exact timed_of_qualifies hq
  refine ⟨(sortOn RankedBid.key ((rs.filter isRankable).filterMap rankedBid)).head?, ?_, ?_, ?_⟩
  · rw [selectWinner, rankQualifiedBids_eq htimed]
    rfl
  · rw [head_sortOn_eq_none, List.eq_nil_iff_forall_not_mem]
    constructor
    · intro hnone c hc bid hq
      exact hnone _ ((mem_ranked h).mpr ⟨c, hc, bid, hq, rfl⟩)
    · intro hnone b hb
      obtain ⟨c, hc, bid, hq, -⟩ := (mem_ranked h).mp hb
      exact hnone c hc bid hq
  · intro b hb
    obtain ⟨hmem, hleast⟩ := head_sortOn hb
    obtain ⟨c, hc, bid, hq, heq⟩ := (mem_ranked h).mp hmem
    exact ⟨c, hc, bid, hq, heq, fun c' hc' bid' hq' => hleast _ ((mem_ranked h).mpr ⟨c', hc', bid', hq', rfl⟩)⟩

end Ranked

/-! ## Reconciled evidence -/

section Reconciled
variable {p : Platform} {terms : EvaluationTerms} {input : ReconciliationInput} {cs : List CommitmentEvidence}
  {rs : List EligibilityResult}

theorem Reconciled.mem_iff (h : Reconciled input cs) {c : CommitmentEvidence} :
    c ∈ cs ↔ ∃ raw ∈ input.commitments, parseCommitmentEvidence raw = some c := by
  have hparsed := mapM_eq_some.mp h.parsed
  constructor
  · intro hc
    exact exists_of_mem_right hparsed hc
  · rintro ⟨raw, hraw, hc⟩
    obtain ⟨c', hc', heq⟩ := exists_of_mem_left hparsed hraw
    rw [hc] at heq
    rwa [Option.some.inj heq]

theorem Reconciled.valid (h : Reconciled input cs) {c : CommitmentEvidence} (hc : c ∈ cs) : c.valid = true := by
  obtain ⟨raw, -, hraw⟩ := h.mem_iff.mp hc
  exact valid_of_parseCommitmentEvidence hraw

theorem submitted_of_isObject {v : Json} (h : isObject v = true) : submitted (some v) = some v := by
  cases v <;> first | rfl | exact absurd h (by simp [isObject])

theorem submitted_eq_some {v : Option Json} {w : Json} (h : submitted v = some w) : v = some w := by
  rcases v with _ | v
  · exact absurd h (by simp [submitted])
  · cases v <;> first | exact h | exact absurd h (by simp [submitted])

/-- The evidence of a commitment is the entry under its bid id. -/
theorem evidenceFor_eq_some {entries : List (JsString × Json)} (hn : (entries.map Prod.fst).Nodup)
    (hobject : ∀ e ∈ entries, isObject e.2 = true) {c : CommitmentEvidence} {v : Json} :
    evidenceFor entries c = some v ↔ (c.bidId, v) ∈ entries := by
  rw [evidenceFor, ← lookup_eq_some_iff hn]
  constructor
  · exact submitted_eq_some
  · intro h
    rw [h]
    exact submitted_of_isObject (hobject _ ((lookup_eq_some_iff hn).mp h))

theorem Reconciled.fullBid_iff (h : Reconciled input cs) {c : CommitmentEvidence} {v : Json} :
    evidenceFor (input.fullBids.map FullBidEntry.entry) c = some v ↔
      ∃ e ∈ input.fullBids, e.bidId = c.bidId ∧ e.signed = v := by
  rw [evidenceFor_eq_some, List.mem_map]
  · simp only [FullBidEntry.entry, Prod.mk.injEq]
  · rw [List.map_map]
    exact h.fullBids.bidIds
  · intro e he
    obtain ⟨entry, hentry, rfl⟩ := List.mem_map.mp he
    exact (h.fullBids.keyed entry hentry).isObject

theorem Reconciled.receipt_iff (h : Reconciled input cs) {c : CommitmentEvidence} {v : Json} :
    evidenceFor (input.acceptanceReceipts.map ReceiptEntry.entry) c = some v ↔
      ∃ e ∈ input.acceptanceReceipts, e.bidId = c.bidId ∧ e.receipt = v := by
  rw [evidenceFor_eq_some, List.mem_map]
  · simp only [ReceiptEntry.entry, Prod.mk.injEq]
  · rw [List.map_map]
    exact h.receipts.bidIds
  · intro e he
    obtain ⟨entry, hentry, rfl⟩ := List.mem_map.mp he
    exact (h.receipts.keyed entry hentry).isObject

/-- The results of reconciled commitments, in the order of their sequences. -/
def ReconciledResults (p : Platform) (terms : EvaluationTerms) (input : ReconciliationInput) (cs : List CommitmentEvidence)
    (rs : List EligibilityResult) : Prop :=
  Results p terms (input.fullBids.map FullBidEntry.entry) (input.acceptanceReceipts.map ReceiptEntry.entry)
    (sortOn CommitmentEvidence.key cs) rs

theorem evaluateReconciled_eq_ok (h : Reconciled input cs) :
    evaluateReconciled p terms (input.validated cs) = .ok rs ↔ ReconciledResults p terms input cs rs :=
  evaluateAllCommitments_eq_ok (fun _ hc => h.valid ((mem_sortOn _).mp hc)) (pairwise_sortOn _ cs)

theorem ReconciledResults.keys (h : ReconciledResults p terms input cs rs) :
    rs.map EligibilityResult.key = (sortOn CommitmentEvidence.key cs).map CommitmentEvidence.key := by
  refine map_eq_of_forall₂ h fun c r hr => ?_
  have hconcerns := (evaluateParsed_eq_ok hr).concerns
  rw [EligibilityResult.key, hconcerns.hcsSequence, hconcerns.bidId]
  rfl

theorem ReconciledResults.sorted (h : ReconciledResults p terms input cs rs) : sortOn EligibilityResult.key rs = rs := by
  refine sortOn_eq_self _ ?_
  rw [← List.pairwise_map, h.keys, List.pairwise_map]
  exact pairwise_sortOn _ cs

end Reconciled

/-! ## When a bid can be evaluated -/

/-- The signature of a bid that parses, from a registered carrier, has a text. -/
def Convertible (terms : EvaluationTerms) (signed : Json) : Prop :=
  ∀ bid, parseCarrierBid (bidBody signed) = some bid → terms.registry bid.carrierId ≠ none →
    signatureText signed ≠ some none

/-- The auction's own data are in order, and every signature that is checked has a text. -/
structure Evaluable (terms : EvaluationTerms) (input : ReconciliationInput) : Prop where
  evaluationTimestamp : isUtcIsoTimestamp terms.evaluationTimestamp = true
  tender : terms.tender.valid = true
  signatures : ∀ raw ∈ input.commitments, ∀ c, parseCommitmentEvidence raw = some c →
    ∀ e ∈ input.fullBids, e.bidId = c.bidId → Convertible terms e.signed

theorem exists_isBeforeUtc {a b : JsString} (ha : isUtcIsoTimestamp a = true) (hb : isUtcIsoTimestamp b = true) :
    ∃ r, isBeforeUtc a b = .ok r := by
  obtain ⟨x, hx⟩ := isUtcIsoTimestamp_iff.mp ha
  obtain ⟨y, hy⟩ := isUtcIsoTimestamp_iff.mp hb
  exact ⟨decide (x < y), isBeforeUtc_eq_ok.mpr ⟨x, y, hx, hy, by simp⟩⟩

theorem exists_isBeforeOrEqualUtc {a b : JsString} (ha : isUtcIsoTimestamp a = true) (hb : isUtcIsoTimestamp b = true) :
    ∃ r, isBeforeOrEqualUtc a b = .ok r := by
  obtain ⟨x, hx⟩ := isUtcIsoTimestamp_iff.mp ha
  obtain ⟨y, hy⟩ := isUtcIsoTimestamp_iff.mp hb
  exact ⟨decide (x ≤ y), isBeforeOrEqualUtc_eq_ok.mpr ⟨x, y, hx, hy, by simp⟩⟩

section Exists
variable {p : Platform} {terms : EvaluationTerms}

theorem exists_reviewTerms {bid : CarrierBid} (hbid : bid.valid = true) (htender : terms.tender.valid = true)
    (htime : isUtcIsoTimestamp terms.evaluationTimestamp = true) : ∃ codes, reviewTerms terms bid = .ok codes := by
  simp only [CarrierBid.valid, Bool.and_eq_true] at hbid
  simp only [FreightTender.valid, Bool.and_eq_true] at htender
  obtain ⟨expired, hexpired⟩ : ∃ r, isBeforeUtc bid.bidValidUntil terms.evaluationTimestamp = .ok r :=
    exists_isBeforeUtc (by tauto) htime
  obtain ⟨missed, hmissed⟩ : ∃ r, isBeforeUtc terms.tender.deliveryDeadline bid.estimatedDelivery = .ok r :=
    exists_isBeforeUtc (by tauto) (by tauto)
  obtain ⟨early, hearly⟩ : ∃ r, isBeforeUtc bid.proposedPickupAt terms.tender.pickupWindow.earliest = .ok r :=
    exists_isBeforeUtc (by tauto) (by tauto)
  obtain ⟨late, hlate⟩ : ∃ r, isBeforeUtc terms.tender.pickupWindow.latest bid.proposedPickupAt = .ok r :=
    exists_isBeforeUtc (by tauto) (by tauto)
  have hpickup : ∃ r, pickupInfeasible terms.tender.pickupWindow bid.proposedPickupAt = .ok r := by
    cases early with
    | true => exact ⟨true, bind_eq_ok.mpr ⟨true, hearly, rfl⟩⟩
    | false => exact ⟨late, bind_eq_ok.mpr ⟨false, hearly, hlate⟩⟩
  obtain ⟨infeasible, hinfeasible⟩ := hpickup
  simp only [reviewTerms, bind_eq_ok, pure_eq_ok]
  exact ⟨_, expired, hexpired, infeasible, hinfeasible, missed, hmissed, rfl⟩

theorem exists_reviewCarrier {signed : Json} {bid : CarrierBid} :
    (∃ review, reviewCarrier p terms signed bid = .ok review) ↔
      (terms.registry bid.carrierId ≠ none → signatureText signed ≠ some none) := by
  unfold reviewCarrier
  cases terms.registry bid.carrierId with
  | none => simp
  | some carrier =>
    simp only [bidSignature]
    rcases signatureText signed with _ | _ | text <;> simp [bind, Except.bind, pure, Except.pure]

theorem exists_evaluateParsed {c : CommitmentEvidence} {signedBid receipt : Option Json} (hc : c.valid = true)
    (htender : terms.tender.valid = true) (htime : isUtcIsoTimestamp terms.evaluationTimestamp = true) :
    (∃ r, evaluateParsed p terms c signedBid receipt = .ok r) ↔ ∀ signed, signedBid = some signed → Convertible terms signed := by
  have hdeadline : isUtcIsoTimestamp terms.tender.auctionEndsAt = true := by
    simp only [FreightTender.valid, Bool.and_eq_true] at htender
    tauto
  have hconsensus : isUtcIsoTimestamp c.consensusTimestamp = true := by
    simp only [CommitmentEvidence.valid, Bool.and_eq_true] at hc
    tauto
  obtain ⟨timely, htimely⟩ : ∃ r, isCommitmentTimely c.consensusTimestamp terms.tender.auctionEndsAt = .ok r :=
    exists_isBeforeOrEqualUtc hconsensus hdeadline
  rw [evaluateParsed, htimely]
  cases signedBid with
  | none => exact iff_of_true ⟨_, rfl⟩ fun _ hsigned => absurd hsigned (by simp)
  | some signed =>
    simp only [Option.some.injEq, forall_eq']
    cases hread : readSubmittedBid p signed with
    | none =>
      refine iff_of_true ⟨_, rfl⟩ fun bid hbid => ?_
      obtain ⟨read, hsome, -⟩ := exists_readSubmittedBid (p := p) hbid
      rw [hread] at hsome
      exact absurd hsome (by simp)
    | some read =>
      obtain ⟨hparse, -⟩ := readSubmittedBid_eq_some hread
      obtain ⟨codes, hcodes⟩ := exists_reviewTerms (valid_of_parseCarrierBid hparse) htender htime
      have hconvertible : Convertible terms signed ↔ ∃ review, reviewCarrier p terms signed read.bid = .ok review := by
        rw [exists_reviewCarrier]
        constructor
        · intro h
          exact h read.bid hparse
        · intro h bid hbid
          obtain rfl : read.bid = bid := Option.some.inj (hparse.symm.trans hbid)
          exact h
      rw [hconvertible]
      simp only [evaluateReadBid, hcodes, Except.mapError, bind_eq_ok, pure_eq_ok, Except.ok.injEq]
      constructor
      · rintro ⟨r, _, -, review, hreview, -⟩
        exact ⟨review, hreview⟩
      · rintro ⟨review, hreview⟩
        exact ⟨_, _, rfl, review, hreview, _, rfl, rfl⟩

theorem exists_results {input : ReconciliationInput} {cs : List CommitmentEvidence} (h : Reconciled input cs)
    (htender : terms.tender.valid = true) (htime : isUtcIsoTimestamp terms.evaluationTimestamp = true) :
    (∃ rs, ReconciledResults p terms input cs rs) ↔ Evaluable terms input := by
  have hmapM : (∃ rs, ReconciledResults p terms input cs rs) ↔ ∀ c ∈ sortOn CommitmentEvidence.key cs,
      ∃ r, evaluateParsed p terms c (evidenceFor (input.fullBids.map FullBidEntry.entry) c)
        (evidenceFor (input.acceptanceReceipts.map ReceiptEntry.entry) c) = .ok r := by
    rw [← exists_mapM_eq_ok]
    simp only [mapM_eq_ok]
    rfl
  rw [hmapM]
  constructor
  · intro hall
    refine ⟨htime, htender, fun raw hraw c hc e he hid => ?_⟩
    have hmem := h.mem_iff.mpr ⟨raw, hraw, hc⟩
    exact (exists_evaluateParsed (h.valid hmem) htender htime).mp (hall c ((mem_sortOn _).mpr hmem)) _
      (h.fullBid_iff.mpr ⟨e, he, hid, rfl⟩)
  · intro heval c hc
    have hmem := (mem_sortOn _).mp hc
    obtain ⟨raw, hraw, hparse⟩ := h.mem_iff.mp hmem
    refine (exists_evaluateParsed (h.valid hmem) htender htime).mpr fun signed hsigned => ?_
    obtain ⟨e, he, hid, rfl⟩ := h.fullBid_iff.mp hsigned
    exact heval.signatures raw hraw c hparse e he hid

end Exists

/-! ## The manifest -/

section Built
variable {p : Platform}

/-- The body with a given winner and given hashes. -/
def bodyOf (p : Platform) (tender : FreightTender) (rs : List EligibilityResult) (evaluationTimestamp : JsString)
    (barrierSequence : Int) (reconciliationReference : JsString) (winner : Option RankedBid) (hash setHash : JsString) :
    ManifestBody where
  tenderId := tender.tenderId
  tenderVersion := tender.version
  tenderHash := hash
  engineVersion := Hcs.ENGINE_VERSION
  selectionPolicy := Hcs.SELECTION_POLICY
  rulesHash := computeRulesHash p
  evaluationTimestamp := evaluationTimestamp
  barrierSequence := barrierSequence
  reconciliationReference := reconciliationReference
  commitments := rs.map EligibilityResult.manifestEntry
  winningBidId := winner.map RankedBid.bidId
  winningBidHash := winner.map RankedBid.bidHash
  evaluatedBidSetHash := setHash

theorem tenderHashOrThrow_eq_ok {tender : FreightTender} {hash : JsString} :
    tenderHashOrThrow p tender = .ok hash ↔ tenderHash p tender = some hash := by
  unfold tenderHashOrThrow
  cases tenderHash p tender with
  | none => simp
  | some found => simp

theorem reconstructExpectedManifestBody_eq_ok {tender : FreightTender} {rs : List EligibilityResult}
    {evaluationTimestamp : JsString} {barrierSequence : Int} {reconciliationReference : JsString} {body : ManifestBody}
    (hsorted : sortOn EligibilityResult.key rs = rs) :
    reconstructExpectedManifestBody p tender rs evaluationTimestamp barrierSequence reconciliationReference = .ok body ↔
      ∃ winner hash setHash, selectWinner rs = .ok winner ∧ tenderHash p tender = some hash ∧
        computeEvaluatedBidSetHash p tender rs = .ok setHash ∧
          bodyOf p tender rs evaluationTimestamp barrierSequence reconciliationReference winner hash setHash = body := by
  simp only [reconstructExpectedManifestBody, hsorted, bind_eq_ok, pure_eq_ok, tenderHashOrThrow_eq_ok]
  constructor
  · rintro ⟨winner, hwinner, hash, htender, setHash, hset, rfl⟩
    exact ⟨winner, hash, setHash, hwinner, htender, hset, rfl⟩
  · rintro ⟨winner, hash, setHash, hwinner, htender, hset, rfl⟩
    exact ⟨winner, hwinner, hash, htender, setHash, hset, rfl⟩

/-- What a manifest was built from. -/
structure Built (p : Platform) (input : AuctionInput) (cs : List CommitmentEvidence) (rs : List EligibilityResult)
    (body : ManifestBody) : Prop where
  evaluationTimestamp : isUtcIsoTimestamp input.terms.evaluationTimestamp = true
  reconciled : Reconciled input.evidence cs
  results : ReconciledResults p input.terms input.evidence cs rs
  body : reconstructExpectedManifestBody p input.terms.tender rs input.terms.evaluationTimestamp input.barrierSequence
    input.reconciliationReference = .ok body

theorem buildDecisionManifest_eq_ok {input : AuctionInput} {manifest : DecisionManifest} :
    buildDecisionManifest p input = .ok manifest ↔
      ∃ cs rs body, Built p input cs rs body ∧ ⟨body, body.hash p⟩ = manifest := by
  simp only [buildDecisionManifest, bind_eq_ok, require_eq_ok, exists_const, mapError_eq_ok, pure_eq_ok,
    validateReconciliationInputs_eq_ok]
  constructor
  · rintro ⟨htime, _, ⟨cs, hreconciled, rfl⟩, rs, hrs, body, hbody, rfl⟩
    exact ⟨cs, rs, body, ⟨htime, hreconciled, (evaluateReconciled_eq_ok hreconciled).mp hrs, hbody⟩, rfl⟩
  · rintro ⟨cs, rs, body, h, rfl⟩
    exact ⟨h.evaluationTimestamp, _, ⟨cs, h.reconciled, rfl⟩, rs, (evaluateReconciled_eq_ok h.reconciled).mpr h.results, body,
      h.body, rfl⟩

/-- The hash of the evaluated bids is taken where the tender is valid. -/
theorem exists_setHash {terms : EvaluationTerms} {input : ReconciliationInput} {cs : List CommitmentEvidence}
    {rs : List EligibilityResult} (hreconciled : Reconciled input cs) (h : ReconciledResults p terms input cs rs)
    {tender : FreightTender} (htender : tender.valid = true) :
    ∃ setHash, computeEvaluatedBidSetHash p tender rs = .ok setHash := by
  have hdeadline : isUtcIsoTimestamp tender.auctionEndsAt = true := by
    simp only [FreightTender.valid, Bool.and_eq_true] at htender
    tauto
  have hentries : ∃ entries, rs.mapM (evaluatedEntry tender) = .ok entries := by
    rw [exists_mapM_eq_ok]
    intro r hr
    obtain ⟨c, hc, heval⟩ := exists_of_mem_right h hr
    have hvalid := hreconciled.valid ((mem_sortOn _).mp hc)
    have hconsensus : isUtcIsoTimestamp c.consensusTimestamp = true := by
      simp only [CommitmentEvidence.valid, Bool.and_eq_true] at hvalid
      tauto
    obtain ⟨timely, htimely⟩ := exists_isBeforeOrEqualUtc hconsensus hdeadline
    simp only [evaluatedEntry, (evaluateParsed_eq_ok heval).concerns.commitment, evaluatedCommitmentJson, commitmentJson,
      isCommitmentTimely, htimely, bind_eq_ok, pure_eq_ok]
    exact ⟨_, _, ⟨timely, rfl, rfl⟩, rfl⟩
  obtain ⟨entries, hentries⟩ := hentries
  simp only [computeEvaluatedBidSetHash, buildEvaluatedBidSetInput, h.sorted, hentries, bind_eq_ok, pure_eq_ok]
  exact ⟨_, _, ⟨entries, rfl, rfl⟩, rfl⟩

/-- The manifest is built from reconciled evidence exactly where the evidence can be evaluated. -/
theorem exists_manifest {input : AuctionInput} {cs : List CommitmentEvidence} (h : Reconciled input.evidence cs) :
    (∃ manifest, buildDecisionManifest p input = .ok manifest) ↔ Evaluable input.terms input.evidence := by
  simp only [buildDecisionManifest_eq_ok]
  constructor
  · rintro ⟨_, cs', rs, body, hbuilt, rfl⟩
    obtain ⟨winner, hash, setHash, -, htender, -⟩ :=
      (reconstructExpectedManifestBody_eq_ok hbuilt.results.sorted).mp hbuilt.body
    have hvalid : input.terms.tender.valid = true := by
      rw [tenderHash] at htender
      split at htender
      next hv => exact hv
      next => exact absurd htender (by simp)
    exact (exists_results hbuilt.reconciled hvalid hbuilt.evaluationTimestamp).mp ⟨rs, hbuilt.results⟩
  · intro heval
    obtain ⟨rs, hrs⟩ := (exists_results (p := p) h heval.tender heval.evaluationTimestamp).mpr heval
    obtain ⟨winner, hwinner, -⟩ := selectWinner_eq_ok hrs
    obtain ⟨setHash, hset⟩ := exists_setHash h hrs heval.tender
    have hhash : tenderHash p input.terms.tender = some (canonicalSha256 p.sha256Hex input.terms.tender.toJson) :=
      if_pos heval.tender
    exact ⟨_, cs, rs, _, ⟨heval.evaluationTimestamp, h, hrs, (reconstructExpectedManifestBody_eq_ok hrs.sorted).mpr
      ⟨winner, _, setHash, hwinner, hhash, hset, rfl⟩⟩, rfl⟩

end Built

/-! ## The specification -/

/-- A commitment of the auction and the bid submitted for it satisfy every condition. -/
def QualifiedBid (p : Platform) (input : AuctionInput) (c : CommitmentEvidence) (bid : CarrierBid) : Prop :=
  ∃ raw ∈ input.evidence.commitments, parseCommitmentEvidence raw = some c ∧
    ∃ entry ∈ input.evidence.fullBids, entry.bidId = c.bidId ∧
      ∃ receipt ∈ input.evidence.acceptanceReceipts, receipt.bidId = c.bidId ∧
        Qualifies p input.terms entry.signed receipt.receipt c bid

/-- Price, instant of delivery, instant of the commitment, bid id; the times of a qualified bid are timestamps. -/
def rank (c : CommitmentEvidence) (bid : CarrierBid) : Int ×ₗ Int ×ₗ Int ×ₗ JsString :=
  toLex (bid.freightPriceCents, toLex ((instant bid.estimatedDelivery).getD 0,
    toLex ((instant c.consensusTimestamp).getD 0, c.bidId)))

/-- The bid is qualified, and every other qualified bid ranks after it. -/
def Wins (p : Platform) (input : AuctionInput) (c : CommitmentEvidence) (bid : CarrierBid) : Prop :=
  QualifiedBid p input c bid ∧ ∀ c' bid', QualifiedBid p input c' bid' → (c' = c ∧ bid' = bid) ∨ rank c bid < rank c' bid'

theorem qualifiedBid_iff {p : Platform} {input : AuctionInput} {cs : List CommitmentEvidence}
    (h : Reconciled input.evidence cs) {c : CommitmentEvidence} {bid : CarrierBid} :
    QualifiedBid p input c bid ↔ c ∈ sortOn CommitmentEvidence.key cs ∧
      QualifiesIn p input.terms (input.evidence.fullBids.map FullBidEntry.entry)
        (input.evidence.acceptanceReceipts.map ReceiptEntry.entry) c bid := by
  rw [mem_sortOn, h.mem_iff]
  constructor
  · rintro ⟨raw, hraw, hparse, entry, hentry, hid, receipt, hreceipt, hid', hq⟩
    exact ⟨⟨raw, hraw, hparse⟩, entry.signed, receipt.receipt, h.fullBid_iff.mpr ⟨entry, hentry, hid, rfl⟩,
      h.receipt_iff.mpr ⟨receipt, hreceipt, hid', rfl⟩, hq⟩
  · rintro ⟨⟨raw, hraw, hparse⟩, signed, body, hsigned, hbody, hq⟩
    obtain ⟨entry, hentry, hid, rfl⟩ := h.fullBid_iff.mp hsigned
    obtain ⟨receipt, hreceipt, hid', rfl⟩ := h.receipt_iff.mp hbody
    exact ⟨raw, hraw, hparse, entry, hentry, hid, receipt, hreceipt, hid', hq⟩

theorem bidId_of_rank_eq {c c' : CommitmentEvidence} {bid bid' : CarrierBid} (h : rank c bid = rank c' bid') :
    c.bidId = c'.bidId :=
  congrArg (fun key : Int ×ₗ Int ×ₗ Int ×ₗ JsString => (ofLex (ofLex (ofLex key).2).2).2) h

/-- Of two winners neither can rank before the other. -/
theorem Wins.unique {p : Platform} {input : AuctionInput} {c c' : CommitmentEvidence} {bid bid' : CarrierBid}
    (h : Wins p input c bid) (h' : Wins p input c' bid') : c' = c ∧ bid' = bid := by
  rcases h.2 c' bid' h'.1 with heq | hlt
  · exact heq
  · rcases h'.2 c bid h.1 with ⟨rfl, rfl⟩ | hlt'
    · exact ⟨rfl, rfl⟩
    · exact absurd hlt hlt'.not_gt

/-- A manifest is returned exactly where the evidence can be evaluated, and it names the one least qualified bid, or none
where no bid qualifies. -/
theorem buildDecisionManifest_winner {p : Platform} {input : AuctionInput} {set : ValidatedReconciliationSet}
    (h : validateReconciliationInputs input.evidence = .ok set) :
    ((∃ manifest, buildDecisionManifest p input = .ok manifest) ↔ Evaluable input.terms input.evidence) ∧
      ∀ manifest, buildDecisionManifest p input = .ok manifest →
        ((manifest.body.winningBidId = none ↔ ¬ ∃ c bid, QualifiedBid p input c bid) ∧
          (manifest.body.winningBidHash = none ↔ ¬ ∃ c bid, QualifiedBid p input c bid)) ∧
        ((∃ c bid, QualifiedBid p input c bid) → ∃ c bid, Wins p input c bid ∧
          (∀ c' bid', Wins p input c' bid' → c' = c ∧ bid' = bid) ∧
          manifest.body.winningBidId = some c.bidId ∧ manifest.body.winningBidHash = some c.bidHash) := by
  obtain ⟨cs₀, hcs₀, -⟩ := validateReconciliationInputs_eq_ok.mp h
  refine ⟨exists_manifest hcs₀, fun manifest hmanifest => ?_⟩
  obtain ⟨cs, rs, body, hbuilt, rfl⟩ := buildDecisionManifest_eq_ok.mp hmanifest
  obtain ⟨winner, hash, setHash, hwinner, -, -, rfl⟩ :=
    (reconstructExpectedManifestBody_eq_ok hbuilt.results.sorted).mp hbuilt.body
  obtain ⟨winner', hwinner', hnone, hleast⟩ := selectWinner_eq_ok hbuilt.results
  obtain rfl : winner' = winner := Except.ok.inj (hwinner'.symm.trans hwinner)
  have hqualified (c : CommitmentEvidence) (bid : CarrierBid) : QualifiedBid p input c bid ↔ _ :=
    qualifiedBid_iff hbuilt.reconciled
  have hexists : winner' = none ↔ ¬ ∃ c bid, QualifiedBid p input c bid := by
    rw [hnone]
    constructor
    · rintro hno ⟨c, bid, hq⟩
      exact hno c ((hqualified c bid).mp hq).1 bid ((hqualified c bid).mp hq).2
    · intro hno c hc bid hq
      exact hno ⟨c, bid, (hqualified c bid).mpr ⟨hc, hq⟩⟩
  refine ⟨⟨?_, ?_⟩, fun hsome => ?_⟩
  · rw [← hexists]
    exact Option.map_eq_none_iff
  · rw [← hexists]
    exact Option.map_eq_none_iff
  · obtain ⟨b, rfl⟩ := Option.ne_none_iff_exists'.mp fun hn => (hexists.mp hn) hsome
    obtain ⟨c, hc, bid, hq, rfl, hbefore⟩ := hleast b rfl
    have hwins : Wins p input c bid := by
      refine ⟨(hqualified c bid).mpr ⟨hc, hq⟩, fun c' bid' hq' => ?_⟩
      obtain ⟨hc', hin⟩ := (hqualified c' bid').mp hq'
      have hle : rank c bid ≤ rank c' bid' := hbefore c' hc' bid' hin
      rcases hle.lt_or_eq with hlt | heq
      · exact .inr hlt
      · obtain rfl : c' = c := List.inj_on_of_nodup_map hbuilt.reconciled.commitments.bidIds ((mem_sortOn _).mp hc')
          ((mem_sortOn _).mp hc) (bidId_of_rank_eq heq.symm)
        exact .inl ⟨rfl, hin.bid_eq hq⟩
    obtain ⟨signed, raw, -, -, hqualifies⟩ := hq
    exact ⟨c, bid, hwins, fun c' bid' h' => hwins.unique h', rfl, congrArg some hqualifies.hash⟩

/-! ### An auction with one bid -/

namespace OneBid

/-- Every well-formed signature verifies. -/
def platform : Platform := asciiPlatform fun _ _ _ => true

def tender : FreightTender where
  tenderId := js "tender-1"
  shipperId := js "shipper-1"
  origin := js "Gdansk"
  destination := js "Lyon"
  cargo := { type := js "paper", weightKg := 1200, pallets := 4, dangerousGoods := false }
  requiredEquipment := js "BOX"
  pickupWindow := { earliest := js "2026-01-02T00:00:00Z", latest := js "2026-01-03T00:00:00Z" }
  deliveryDeadline := js "2026-01-06T00:00:00Z"
  auctionEndsAt := js "2026-01-01T00:00:00Z"
  maximumFreightPriceCents := 200000
  version := 1

def bid : CarrierBid where
  bidId := js "bid-1"
  tenderId := js "tender-1"
  carrierId := js "carrier-1"
  carrierAccountId := js "0.0.1001"
  freightPriceCents := 150000
  equipment := js "BOX"
  proposedPickupAt := js "2026-01-02T08:00:00Z"
  estimatedDelivery := js "2026-01-05T08:00:00Z"
  capacityConfirmed := true
  bidValidUntil := js "2026-01-02T00:00:00Z"
  reservationPaymentOptions :=
    [{ optionId := .usdc, asset := USDC_TESTNET_ASSET, amountAtomic := js "1000000", payTo := js "0.0.1001" }]
  commitmentSalt := List.replicate 64 0x61
  nonce := js "nonce-1"
  version := 1

def bidDigest : JsString := canonicalSha256 platform.sha256Hex bid.toJson

def receipt : AcceptanceReceiptBody where
  receiptId := js "receipt-1"
  tenderId := js "tender-1"
  bidId := js "bid-1"
  bidHash := bidDigest
  acceptedAt := js "2025-12-31T10:00:00Z"
  version := 1

def signature : JsString := List.replicate 128 0x61

def commitment : CommitmentEvidence where
  tenderId := js "tender-1"
  bidId := js "bid-1"
  carrierId := js "carrier-1"
  bidHash := bidDigest
  acceptanceReceiptHash := canonicalSha256 platform.sha256Hex receipt.toJson
  bidVersion := 1
  hcsSequence := 2
  consensusTimestamp := js "2025-12-31T11:00:00Z"

def carrier : CarrierRecord where
  carrierId := js "carrier-1"
  carrierAccountId := js "0.0.1001"
  signingPublicKey := js "key-1"
  active := true
  allowedEquipment := [js "BOX"]

def evidence : ReconciliationInput where
  commitments := [.obj commitment.fields]
  fullBids :=
    [{ bidId := js "bid-1", object := 0, signed := .obj [(js "bid", bid.toJson), (js "signature", .str signature)] }]
  acceptanceReceipts :=
    [{ bidId := js "bid-1", receipt := .obj [(js "receipt", receipt.toJson), (js "signature", .str signature)] }]

def input : AuctionInput where
  terms :=
    { tender := tender
      registry := fun id => if id = js "carrier-1" then some carrier else none
      routeGuardPublicKey := js "key-0"
      evaluationTimestamp := js "2026-01-01T00:01:00Z" }
  evidence := evidence
  barrierSequence := 3
  reconciliationReference := js "run-1"

end OneBid

/-! ### An auction with three bids -/

namespace ThreeBids
open OneBid (platform tender signature)

/-- The bid of another carrier, told by its digit, at another price. -/
def bidOf (digit : JsString) (freightPriceCents : Int) : CarrierBid :=
  { OneBid.bid with
    bidId := js "bid-" ++ digit
    carrierId := js "carrier-" ++ digit
    carrierAccountId := js "0.0.100" ++ digit
    freightPriceCents := freightPriceCents
    reservationPaymentOptions :=
      [{ optionId := .usdc, asset := USDC_TESTNET_ASSET, amountAtomic := js "1000000", payTo := js "0.0.100" ++ digit }] }

def first : CarrierBid := bidOf (js "1") 150000

def second : CarrierBid := bidOf (js "2") 140000

/-- The cheapest bid has no capacity. -/
def third : CarrierBid := { bidOf (js "3") 130000 with capacityConfirmed := false }

/-- The bids, each with the sequence of its commitment. -/
def placed : List (CarrierBid × Int) := [(first, 2), (second, 3), (third, 4)]

def digest (bid : CarrierBid) : JsString := canonicalSha256 platform.sha256Hex bid.toJson

def receiptOf (bid : CarrierBid) : AcceptanceReceiptBody :=
  { OneBid.receipt with bidId := bid.bidId, bidHash := digest bid }

def commitmentOf (entry : CarrierBid × Int) : CommitmentEvidence :=
  { OneBid.commitment with
    bidId := entry.1.bidId
    carrierId := entry.1.carrierId
    bidHash := digest entry.1
    acceptanceReceiptHash := canonicalSha256 platform.sha256Hex (receiptOf entry.1).toJson
    hcsSequence := entry.2 }

def signedOf (bid : CarrierBid) : Json := .obj [(js "bid", bid.toJson), (js "signature", .str signature)]

def rawReceiptOf (bid : CarrierBid) : Json :=
  .obj [(js "receipt", (receiptOf bid).toJson), (js "signature", .str signature)]

def carrierOf (bid : CarrierBid) : CarrierRecord :=
  { OneBid.carrier with carrierId := bid.carrierId, carrierAccountId := bid.carrierAccountId }

def evidence : ReconciliationInput where
  commitments := placed.map fun entry => .obj (commitmentOf entry).fields
  fullBids := placed.map fun entry => ⟨entry.1.bidId, entry.2.toNat, signedOf entry.1⟩
  acceptanceReceipts := placed.map fun entry => ⟨entry.1.bidId, rawReceiptOf entry.1⟩

def input : AuctionInput where
  terms :=
    { OneBid.input.terms with
      registry := fun id => (placed.find? fun entry => entry.1.carrierId = id).map fun entry => carrierOf entry.1 }
  evidence := evidence
  barrierSequence := 5
  reconciliationReference := js "run-1"

end ThreeBids

/-! ### What the auctions show -/

namespace OneBid

/-- What is computed of the bid, its digests apart. -/
structure Computed : Prop where
  evaluationTimestamp : isUtcIsoTimestamp input.terms.evaluationTimestamp = true
  tender : tender.valid = true
  signature : isSignatureHex signature = true
  tenderId : bounded 128 bid.tenderId = true
  bidId : bounded 128 bid.bidId = true
  carrierId : bounded 128 bid.carrierId = true
  receiptId : bounded 128 receipt.receiptId = true
  version : isSafePositiveInteger bid.version = true
  sequence : isSafePositiveInteger commitment.hcsSequence = true
  consensusTimestamp : isUtcIsoTimestamp commitment.consensusTimestamp = true
  acceptedAt : isUtcIsoTimestamp receipt.acceptedAt = true
  timely : isBeforeUtc OneBid.tender.auctionEndsAt commitment.consensusTimestamp = .ok false
  validity : isBeforeUtc bid.bidValidUntil input.terms.evaluationTimestamp = .ok false
  earliest : isBeforeUtc bid.proposedPickupAt OneBid.tender.pickupWindow.earliest = .ok false
  latest : isBeforeUtc OneBid.tender.pickupWindow.latest bid.proposedPickupAt = .ok false
  delivery : isBeforeUtc OneBid.tender.deliveryDeadline bid.estimatedDelivery = .ok false
  read : parseCarrierBid (bidBody (.obj [(js "bid", bid.toJson), (js "signature", .str OneBid.signature)])) = some bid
  registered : input.terms.registry bid.carrierId = some carrier

theorem computed : Computed := by
  constructor
  case signature =>
    rw [isSignatureHex, OneBid.signature, List.length_replicate, List.all_replicate]
    decide
  all_goals decide

theorem evaluationTimestamp_valid : isUtcIsoTimestamp input.terms.evaluationTimestamp = true :=
  computed.evaluationTimestamp

theorem tender_valid : tender.valid = true := computed.tender

theorem verified (value : Json) (key : JsString) : verifyCanonicalPayload platform value signature key = true := by
  rw [verifyCanonicalPayload, Bool.and_eq_true]
  exact ⟨computed.signature, rfl⟩

theorem isSha256_bidDigest : Store.isSha256 bidDigest = true := Store.isSha256_canonicalSha256 (hexDigest_asciiPlatform _) _

theorem commitment_valid : commitment.valid = true := by
  have hreceipt : Store.isSha256 commitment.acceptanceReceiptHash = true :=
    Store.isSha256_canonicalSha256 (hexDigest_asciiPlatform _) _
  have hbid : Store.isSha256 commitment.bidHash = true := isSha256_bidDigest
  have h := computed
  simp only [CommitmentEvidence.valid, hreceipt, hbid, Bool.and_true, Bool.and_eq_true]
  exact ⟨⟨⟨⟨⟨h.tenderId, h.bidId⟩, h.carrierId⟩, h.version⟩, h.sequence⟩, h.consensusTimestamp⟩

theorem reconciled : Reconciled evidence [commitment] where
  parsed := by
    rw [mapM_eq_some]
    exact .cons (by rw [parseCommitmentEvidence_fields, if_pos commitment_valid]) .nil
  commitments := ⟨List.nodup_singleton _, List.nodup_singleton _, List.nodup_singleton _⟩
  fullBids := ⟨List.nodup_singleton _, List.nodup_singleton _, by
    intro e he
    obtain rfl := List.mem_singleton.mp he
    exact ⟨bid.toJson, rfl, rfl⟩⟩
  receipts := ⟨List.nodup_singleton _, by
    intro e he
    obtain rfl := List.mem_singleton.mp he
    exact ⟨receipt.toJson, rfl, rfl⟩⟩

theorem notAfter {a b : JsString} (h : isBeforeUtc b a = .ok false) : NotAfter a b := isBeforeUtc_eq_false.mp h

theorem receipt_valid : receipt.valid = true := by
  have hbid : Store.isSha256 receipt.bidHash = true := isSha256_bidDigest
  have h := computed
  simp only [AcceptanceReceiptBody.valid, hbid, Bool.and_true, Bool.and_eq_true]
  exact ⟨⟨⟨⟨h.receiptId, h.tenderId⟩, h.bidId⟩, h.acceptedAt⟩, h.version⟩

theorem parse_receipt : parseAcceptanceReceiptBody
    (receiptBody (.obj [(js "receipt", receipt.toJson), (js "signature", .str signature)])) = some receipt := by
  have hbody : receiptBody (.obj [(js "receipt", receipt.toJson), (js "signature", .str signature)]) = receipt.toJson := rfl
  rw [hbody, parseAcceptanceReceiptBody_toJson, if_pos receipt_valid]

theorem qualifies : Qualifies platform input.terms (.obj [(js "bid", bid.toJson), (js "signature", .str signature)])
    (.obj [(js "receipt", receipt.toJson), (js "signature", .str signature)]) commitment bid where
  timely := notAfter computed.timely
  tender := rfl
  read := computed.read
  version := rfl
  hash := rfl
  bidTender := rfl
  bidId := rfl
  carrierId := rfl
  receipt := ⟨receipt, signature, parse_receipt, rfl, rfl, rfl, rfl, rfl, verified _ _⟩
  carrier := ⟨carrier, signature, computed.registered, rfl, rfl, rfl, rfl, verified _ _, by decide⟩
  terms :=
    { validity := notAfter computed.validity
      equipment := rfl
      capacity := rfl
      pickup := ⟨notAfter computed.earliest, notAfter computed.latest⟩
      delivery := notAfter computed.delivery
      price := by decide
      recipients := by decide }

theorem evaluable : Evaluable input.terms evidence := by
  refine ⟨evaluationTimestamp_valid, tender_valid, fun raw _ c _ e he _ bid _ _ => ?_⟩
  obtain rfl := List.mem_singleton.mp he
  decide

end OneBid

namespace ThreeBids
open OneBid (platform tender signature verified)

theorem isSha256_canonical (value : Json) : Store.isSha256 (canonicalSha256 platform.sha256Hex value) = true :=
  Store.isSha256_canonicalSha256 (hexDigest_asciiPlatform _) _

/-- What is computed of a bid, its digests apart. -/
structure Computed (entry : CarrierBid × Int) : Prop where
  read : parseCarrierBid (bidBody (signedOf entry.1)) = some entry.1
  bidId : bounded 128 entry.1.bidId = true
  carrierId : bounded 128 entry.1.carrierId = true
  sequence : isSafePositiveInteger entry.2 = true
  found : (placed.find? fun e => e.1.carrierId = entry.1.carrierId) = some entry
  version : entry.1.version = 1
  tenderId : entry.1.tenderId = tender.tenderId
  equipment : entry.1.equipment = OneBid.bid.equipment
  validity : entry.1.bidValidUntil = OneBid.bid.bidValidUntil
  pickup : entry.1.proposedPickupAt = OneBid.bid.proposedPickupAt
  delivery : entry.1.estimatedDelivery = OneBid.bid.estimatedDelivery
  price : entry.1.freightPriceCents ≤ tender.maximumFreightPriceCents
  recipients : ∀ option ∈ entry.1.reservationPaymentOptions, option.payTo = entry.1.carrierAccountId
  /-- The price decides among the bids with capacity. -/
  cheapest : entry.1.capacityConfirmed = true → entry.1.freightPriceCents ≤ second.freightPriceCents → entry.1 = second

theorem computed {entry : CarrierBid × Int} (h : entry ∈ placed) : Computed entry := by
  simp only [placed, List.mem_cons, List.not_mem_nil, or_false] at h
  rcases h with rfl | rfl | rfl <;> constructor <;> decide

theorem commitment_valid {entry : CarrierBid × Int} (h : entry ∈ placed) : (commitmentOf entry).valid = true := by
  have hbid := computed h
  have hone := OneBid.computed
  simp only [CommitmentEvidence.valid, commitmentOf, digest, isSha256_canonical, hbid.bidId, hbid.carrierId,
    hbid.sequence, Bool.and_true, Bool.and_eq_true]
  exact ⟨⟨hone.tenderId, hone.version⟩, hone.consensusTimestamp⟩

theorem parse_receipt {entry : CarrierBid × Int} (h : entry ∈ placed) :
    parseAcceptanceReceiptBody (receiptBody (rawReceiptOf entry.1)) = some (receiptOf entry.1) := by
  have hvalid : (receiptOf entry.1).valid = true := by
    have hone := OneBid.computed
    simp only [AcceptanceReceiptBody.valid, receiptOf, digest, isSha256_canonical, (computed h).bidId, Bool.and_true,
      Bool.and_eq_true]
    exact ⟨⟨⟨hone.receiptId, hone.tenderId⟩, hone.acceptedAt⟩, hone.version⟩
  have hbody : receiptBody (rawReceiptOf entry.1) = (receiptOf entry.1).toJson := rfl
  rw [hbody, parseAcceptanceReceiptBody_toJson, if_pos hvalid]

theorem reconciled : Reconciled evidence (placed.map commitmentOf) where
  parsed := by
    rw [mapM_eq_some]
    refine List.forall₂_map_left_iff.mpr (List.forall₂_map_right_iff.mpr (List.forall₂_same.mpr fun entry h => ?_))
    rw [parseCommitmentEvidence_fields, if_pos (commitment_valid h)]
  commitments := ⟨by decide, by decide, by decide⟩
  fullBids := ⟨by decide, by decide, by
    intro e he
    obtain ⟨entry, -, rfl⟩ := List.mem_map.mp he
    exact ⟨entry.1.toJson, rfl, rfl⟩⟩
  receipts := ⟨by decide, by
    intro e he
    obtain ⟨entry, -, rfl⟩ := List.mem_map.mp he
    exact ⟨(receiptOf entry.1).toJson, rfl, rfl⟩⟩

theorem evaluable : Evaluable input.terms input.evidence := by
  refine ⟨OneBid.evaluationTimestamp_valid, OneBid.tender_valid, fun raw _ c _ e he _ bid _ _ => ?_⟩
  obtain ⟨entry, -, rfl⟩ := List.mem_map.mp he
  have hsignature : signatureText (signedOf entry.1) = some (some signature) := rfl
  rw [hsignature]
  exact fun h => Option.some_ne_none _ (Option.some.inj h)

theorem qualified {entry : CarrierBid × Int} (h : entry ∈ placed) (hcapacity : entry.1.capacityConfirmed = true) :
    QualifiedBid platform input (commitmentOf entry) entry.1 := by
  have hbid := computed h
  have hone := OneBid.qualifies
  have hregistry : input.terms.registry entry.1.carrierId = some (carrierOf entry.1) :=
    congrArg (Option.map fun e : CarrierBid × Int => carrierOf e.1) hbid.found
  refine ⟨_, List.mem_map_of_mem h, by rw [parseCommitmentEvidence_fields, if_pos (commitment_valid h)], _,
    List.mem_map_of_mem h, rfl, _, List.mem_map_of_mem h, rfl, ?_⟩
  exact
    { timely := hone.timely
      tender := rfl
      read := hbid.read
      version := hbid.version
      hash := rfl
      bidTender := hbid.tenderId
      bidId := rfl
      carrierId := rfl
      receipt := ⟨receiptOf entry.1, signature, parse_receipt h, rfl, rfl, rfl, rfl, rfl, verified _ _⟩
      carrier := ⟨carrierOf entry.1, signature, hregistry, rfl, rfl, rfl, rfl, verified _ _,
        hbid.equipment ▸ List.mem_singleton_self _⟩
      terms :=
        { validity := hbid.validity ▸ hone.terms.validity
          equipment := hbid.equipment
          capacity := hcapacity
          pickup := hbid.pickup ▸ hone.terms.pickup
          delivery := hbid.delivery ▸ hone.terms.delivery
          price := hbid.price
          recipients := hbid.recipients } }

end ThreeBids

/-- The cheaper of the qualified bids wins; the cheapest bid is rejected. -/
theorem buildDecisionManifest_winner_threeBids :
    QualifiedBid OneBid.platform ThreeBids.input (ThreeBids.commitmentOf (ThreeBids.first, 2)) ThreeBids.first ∧
      ThreeBids.third.freightPriceCents < ThreeBids.second.freightPriceCents ∧
      ∃ manifest, buildDecisionManifest OneBid.platform ThreeBids.input = .ok manifest ∧
        manifest.body.winningBidId = some (js "bid-2") ∧
        manifest.body.winningBidHash = some (ThreeBids.digest ThreeBids.second) := by
  obtain ⟨hexists, hwinner⟩ := @buildDecisionManifest_winner OneBid.platform ThreeBids.input _
    (validateReconciliationInputs_eq_ok.mpr ⟨_, ThreeBids.reconciled, rfl⟩)
  obtain ⟨manifest, hmanifest⟩ := hexists.mpr ThreeBids.evaluable
  have hfirst : (ThreeBids.first, 2) ∈ ThreeBids.placed := List.mem_cons_self
  have hsecond : (ThreeBids.second, 3) ∈ ThreeBids.placed := List.mem_cons_of_mem _ List.mem_cons_self
  have hin := ThreeBids.qualified hsecond rfl
  obtain ⟨c, bid, hwins, -, hid, hhash⟩ := (hwinner manifest hmanifest).2 ⟨_, _, hin⟩
  obtain ⟨raw, -, -, e, he, -, r, -, -, hq⟩ := hwins.1
  obtain ⟨entry, hentry, rfl⟩ := List.mem_map.mp he
  obtain rfl : entry.1 = bid := Option.some.inj ((ThreeBids.computed hentry).read.symm.trans hq.read)
  have hprice : entry.1.freightPriceCents ≤ ThreeBids.second.freightPriceCents := by
    rcases hwins.2 _ _ hin with ⟨-, heq⟩ | hlt
    · rw [← heq]
    · rcases Prod.Lex.lt_iff.mp hlt with hless | ⟨heq, -⟩
      · exact hless.le
      · exact heq.le
  have heq := (ThreeBids.computed hentry).cheapest hq.terms.capacity hprice
  refine ⟨ThreeBids.qualified hfirst rfl, by decide, manifest, hmanifest, ?_, ?_⟩
  · rw [hid, ← hq.bidId, heq]
    rfl
  · rw [hhash, ← hq.hash, heq]
    rfl

end RouteGuard.Auction
