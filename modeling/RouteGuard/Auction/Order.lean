import RouteGuard.Auction.Winner

/-!
# Submission order

The commitments, the bids and the receipts of an auction may be given in any order: validation passes on one order where
it passes on another, and what it lets through has unique keys, so that every sort gives one list.

* `Reconciled.reorder` : reconciled evidence in another order;
* `evaluateAuction_reorder` : the outcome of the auction is the same.
-/

namespace RouteGuard.Auction
open JsString Json Guarded Sorting

/-- The same evidence in another order. -/
structure Reordered (e e' : ReconciliationInput) : Prop where
  commitments : e.commitments.Perm e'.commitments
  fullBids : e.fullBids.Perm e'.fullBids
  acceptanceReceipts : e.acceptanceReceipts.Perm e'.acceptanceReceipts

section Reorder
variable {e e' : ReconciliationInput} {cs : List CommitmentEvidence}

theorem Reordered.symm (h : Reordered e e') : Reordered e' e :=
  ⟨h.commitments.symm, h.fullBids.symm, h.acceptanceReceipts.symm⟩

theorem DistinctCommitments.perm {cs' : List CommitmentEvidence} (h : DistinctCommitments cs) (hp : cs.Perm cs') :
    DistinctCommitments cs' where
  sequences := (hp.map _).nodup_iff.mp h.sequences
  bidIds := (hp.map _).nodup_iff.mp h.bidIds
  identities := (hp.map _).nodup_iff.mp h.identities

theorem DistinctBids.perm {bids bids' : List FullBidEntry} (h : DistinctBids bids) (hp : bids.Perm bids') :
    DistinctBids bids' where
  bidIds := (hp.map _).nodup_iff.mp h.bidIds
  objects := (hp.map _).nodup_iff.mp h.objects
  keyed entry hentry := h.keyed entry (hp.mem_iff.mpr hentry)

theorem DistinctReceipts.perm {receipts receipts' : List ReceiptEntry} (h : DistinctReceipts receipts)
    (hp : receipts.Perm receipts') : DistinctReceipts receipts' where
  bidIds := (hp.map _).nodup_iff.mp h.bidIds
  keyed entry hentry := h.keyed entry (hp.mem_iff.mpr hentry)

/-- The reordered evidence is reconciled, and its commitments are the same ones. -/
theorem Reconciled.reorder (h : Reconciled e cs) (hr : Reordered e e') : ∃ cs', cs.Perm cs' ∧ Reconciled e' cs' := by
  have hparsed := mapM_eq_some.mp h.parsed
  obtain ⟨cs', hparsed', hperm⟩ : ∃ cs', List.Forall₂ (fun raw c => parseCommitmentEvidence raw = some c) e'.commitments cs' ∧
      cs'.Perm cs := List.perm_comp_forall₂ hr.commitments.symm hparsed
  exact ⟨cs', hperm.symm, mapM_eq_some.mpr hparsed', h.commitments.perm hperm.symm, h.fullBids.perm hr.fullBids,
    h.receipts.perm hr.acceptanceReceipts⟩

/-- No two commitments have one key, so their order is the order of the keys. -/
theorem Reconciled.sort_eq {cs' : List CommitmentEvidence} (h : Reconciled e cs) (hp : cs.Perm cs') :
    sortOn CommitmentEvidence.key cs = sortOn CommitmentEvidence.key cs' := by
  refine sortOn_congr hp ?_
  have hsequences := h.commitments.sequences
  have hfst : cs.map CommitmentEvidence.hcsSequence = (cs.map CommitmentEvidence.key).map fun key => (ofLex key).1 := by
    rw [List.map_map]
    rfl
  rw [hfst] at hsequences
  exact hsequences.of_map _

/-- A commitment finds the same evidence. -/
theorem Reconciled.evidenceFor_eq (h : Reconciled e cs) (hr : Reordered e e') :
    evidenceFor (e.fullBids.map FullBidEntry.entry) = evidenceFor (e'.fullBids.map FullBidEntry.entry) ∧
      evidenceFor (e.acceptanceReceipts.map ReceiptEntry.entry) =
        evidenceFor (e'.acceptanceReceipts.map ReceiptEntry.entry) := by
  constructor
  · funext c
    have hkeys : ((e.fullBids.map FullBidEntry.entry).map Prod.fst).Nodup := by
      rw [List.map_map]
      exact h.fullBids.bidIds
    rw [evidenceFor, evidenceFor, lookup_perm (hr.fullBids.map _) hkeys]
  · funext c
    have hkeys : ((e.acceptanceReceipts.map ReceiptEntry.entry).map Prod.fst).Nodup := by
      rw [List.map_map]
      exact h.receipts.bidIds
    rw [evidenceFor, evidenceFor, lookup_perm (hr.acceptanceReceipts.map _) hkeys]

end Reorder

section Auction
variable {p : Platform} {terms : EvaluationTerms} {e e' : ReconciliationInput} {barrierSequence : Int}
  {reconciliationReference : JsString}

theorem evaluateAuction_of_reorder (hr : Reordered e e') {manifest : DecisionManifest}
    (h : evaluateAuction p ⟨terms, e, barrierSequence, reconciliationReference⟩ = .ok manifest) :
    evaluateAuction p ⟨terms, e', barrierSequence, reconciliationReference⟩ = .ok manifest := by
  obtain ⟨cs, rs, body, hbuilt, rfl⟩ := buildDecisionManifest_eq_ok.mp h
  obtain ⟨cs', hperm, hreconciled⟩ := hbuilt.reconciled.reorder hr
  have hresults : ReconciledResults p terms e' cs' rs := by
    have hrs := hbuilt.results
    rw [ReconciledResults, Results, hbuilt.reconciled.sort_eq hperm, (hbuilt.reconciled.evidenceFor_eq hr).1,
      (hbuilt.reconciled.evidenceFor_eq hr).2] at hrs
    exact hrs
  exact buildDecisionManifest_eq_ok.mpr ⟨cs', rs, body, ⟨hbuilt.evaluationTimestamp, hreconciled, hresults, hbuilt.body⟩, rfl⟩

/-- In both orders the auction fails, or it gives one manifest. -/
theorem evaluateAuction_reorder (hcommitments : e.commitments.Perm e'.commitments) (hbids : e.fullBids.Perm e'.fullBids)
    (hreceipts : e.acceptanceReceipts.Perm e'.acceptanceReceipts) :
    (evaluateAuction p ⟨terms, e, barrierSequence, reconciliationReference⟩).toOption =
      (evaluateAuction p ⟨terms, e', barrierSequence, reconciliationReference⟩).toOption := by
  have hr : Reordered e e' := ⟨hcommitments, hbids, hreceipts⟩
  ext manifest
  rw [toOption_eq_some, toOption_eq_some]
  constructor
  · exact evaluateAuction_of_reorder hr
  · exact evaluateAuction_of_reorder hr.symm

end Auction

namespace OneBid

/-- A second commitment, whose bid was never submitted. -/
def unsubmitted : CommitmentEvidence := { commitment with bidId := js "bid-2", hcsSequence := 3 }

end OneBid

theorem evaluateAuction_reorder_swapped :
    (evaluateAuction OneBid.platform ⟨OneBid.input.terms,
        { OneBid.evidence with commitments := [.obj OneBid.commitment.fields, .obj OneBid.unsubmitted.fields] }, 4,
        js "run-1"⟩).toOption =
      (evaluateAuction OneBid.platform ⟨OneBid.input.terms,
        { OneBid.evidence with commitments := [.obj OneBid.unsubmitted.fields, .obj OneBid.commitment.fields] }, 4,
        js "run-1"⟩).toOption :=
  evaluateAuction_reorder (.swap _ _ _) (.refl _) (.refl _)

end RouteGuard.Auction
