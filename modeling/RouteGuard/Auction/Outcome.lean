import RouteGuard.Auction.Closure

/-!
# The outcome of an auction

Contexts are values: a call is made on any context returned before it, and a call that fails returns none.

* `AuctionWorld`, `runCalls` : the authentic proofs and the contexts after a sequence of calls;
* `Sound` : what every context returned by the machine satisfies;
* `auction_outcome` : the terminal states are decided by the proof.
-/

namespace RouteGuard.Auction
open JsString Json Guarded Sorting AuctionState

/-! ## Calls -/

inductive Transition where
  | toOpen
  | toBidding
  | toReconciliation (now : JsString)
  | toClosed (proof : ProofValue)
  | toIncompleteHcsWindow (proof : ProofValue)
  | toWinnerSelected
  | toNoQualifiedBid
  | toClosedWithBooleans (closeBarrierPresent reconciledRangeComplete : Bool)

def Transition.run (registry : List ProofObject) (ctx : AuctionMachineContext) :
    Transition → Except AuctionError AuctionMachineContext
  | toOpen => transitionToOpen ctx
  | toBidding => transitionToBidding ctx
  | toReconciliation now => transitionToReconciliation ctx now
  | toClosed proof => transitionToClosed registry ctx proof
  | toIncompleteHcsWindow proof => transitionToIncompleteHcsWindow registry ctx proof
  | toWinnerSelected => transitionToWinnerSelected registry ctx
  | toNoQualifiedBid => transitionToNoQualifiedBid registry ctx
  | toClosedWithBooleans present complete => transitionToClosedWithBooleans ctx present complete

/-- The authentic proofs and the contexts returned so far. -/
structure AuctionWorld where
  registry : List ProofObject
  contexts : List AuctionMachineContext

/-- A call; a transition is made on the context of the given number. -/
inductive AuctionCall where
  | createProof (input : ClosureInput)
  | createMachine (auctionEndsAt : JsString)
  | transition (context : Nat) (transition : Transition)

section Run
variable (p : Platform)

def AuctionWorld.call (w : AuctionWorld) : AuctionCall → Except AuctionError AuctionWorld
  | .createProof input => do
    let proof ← createAuctionClosureProof p input
    pure { w with registry := w.registry ++ [⟨w.registry.length, proof⟩] }
  | .createMachine auctionEndsAt => do
    let ctx ← createAuctionMachine auctionEndsAt
    pure { w with contexts := w.contexts ++ [ctx] }
  | .transition context transition =>
    match w.contexts[context]? with
    | none => .error typeError
    | some ctx => do
      let ctx' ← transition.run w.registry ctx
      pure { w with contexts := w.contexts ++ [ctx'] }

/-- A call that throws returns nothing. -/
def AuctionWorld.step (w : AuctionWorld) (call : AuctionCall) : AuctionWorld :=
  match w.call p call with
  | .ok w' => w'
  | .error _ => w

def runCalls (calls : List AuctionCall) : AuctionWorld := calls.foldl (AuctionWorld.step p) ⟨[], []⟩

end Run

/-! ## Transitions -/

theorem legal_closed {s : AuctionState} : AUCTION_CLOSED ∈ s.legal ↔ s = AUCTION_RECONCILIATION_PENDING := by
  cases s <;> decide

theorem legal_incomplete {s : AuctionState} : INCOMPLETE_HCS_WINDOW ∈ s.legal ↔ s = AUCTION_RECONCILIATION_PENDING := by
  cases s <;> decide

theorem legal_winner {s : AuctionState} : WINNER_SELECTED ∈ s.legal ↔ s = AUCTION_CLOSED := by
  cases s <;> decide

theorem legal_noBid {s : AuctionState} : NO_QUALIFIED_BID ∈ s.legal ↔ s = AUCTION_CLOSED := by
  cases s <;> decide

section Transitions
variable {registry : List ProofObject} {ctx ctx' : AuctionMachineContext}

theorem storedProof_eq_ok {target : AuctionState} {proof : AuctionClosureProof} :
    storedProof registry ctx target = .ok proof ↔
      ∃ object ∈ registry, ctx.closureProof = some object ∧ object.proof = proof := by
  unfold storedProof
  cases ctx.closureProof with
  | none => simp
  | some object =>
    simp only [Option.some.injEq]
    split
    next hin =>
      rw [Except.ok.injEq]
      constructor
      · rintro rfl
        exact ⟨object, hin, rfl, rfl⟩
      · rintro ⟨_, -, rfl, h⟩
        exact h
    next hout =>
      refine iff_of_false (by simp) ?_
      rintro ⟨_, hin, rfl, -⟩
      exact hout hin

/-- What selecting a winner checks of the proof. -/
structure Selects (ctx : AuctionMachineContext) (object : ProofObject) (winner : RankedBid) : Prop where
  state : ctx.state = AUCTION_CLOSED
  proof : ctx.closureProof = some object
  ranking : selectWinner object.proof.results = .ok (some winner)
  checked : checkWinner ctx object.proof winner = .ok ()

theorem transitionToWinnerSelected_eq_ok : transitionToWinnerSelected registry ctx = .ok ctx' ↔
    ∃ object ∈ registry, (∃ winner, Selects ctx object winner) ∧
      { ctx with state := WINNER_SELECTED, decisionManifest := some object.proof.manifest } = ctx' := by
  simp only [transitionToWinnerSelected, assertLegal, bind_eq_ok, require_eq_ok, exists_const, mapError_eq_ok,
    storedProof_eq_ok, legal_winner]
  constructor
  · rintro ⟨hstate, _, ⟨object, hin, hproof, rfl⟩, winner, hwinner, h⟩
    cases winner with
    | none => exact absurd h (by simp)
    | some winner =>
      simp only [bind_eq_ok, pure_eq_ok] at h
      obtain ⟨_, hchecked, rfl⟩ := h
      exact ⟨object, hin, ⟨winner, hstate, hproof, hwinner, hchecked⟩, rfl⟩
  · rintro ⟨object, hin, ⟨winner, h⟩, rfl⟩
    refine ⟨h.state, object.proof, ⟨object, hin, h.proof, rfl⟩, some winner, h.ranking, ?_⟩
    simp only [bind_eq_ok, pure_eq_ok]
    exact ⟨(), h.checked, trivial⟩

/-- What selecting no bid checks of the proof. -/
structure SelectsNone (ctx : AuctionMachineContext) (object : ProofObject) : Prop where
  state : ctx.state = AUCTION_CLOSED
  proof : ctx.closureProof = some object
  winner : selectWinner object.proof.results = .ok none
  manifest : object.proof.manifest.body.winningBidId = none ∧ object.proof.manifest.body.winningBidHash = none
  qualified : (object.proof.results.filter isRankable).length = 0

theorem transitionToNoQualifiedBid_eq_ok : transitionToNoQualifiedBid registry ctx = .ok ctx' ↔
    ∃ object ∈ registry, SelectsNone ctx object ∧
      { ctx with state := NO_QUALIFIED_BID, decisionManifest := some object.proof.manifest } = ctx' := by
  simp only [transitionToNoQualifiedBid, assertLegal, bind_eq_ok, require_eq_ok, exists_const, mapError_eq_ok,
    storedProof_eq_ok, legal_noBid, pure_eq_ok]
  constructor
  · rintro ⟨hstate, _, ⟨object, hin, hproof, rfl⟩, winner, hwinner, rfl, hmanifest, hqualified, rfl⟩
    exact ⟨object, hin, ⟨hstate, hproof, hwinner, hmanifest, hqualified⟩, rfl⟩
  · rintro ⟨object, hin, h, rfl⟩
    exact ⟨h.state, object.proof, ⟨object, hin, h.proof, rfl⟩, none, h.winner, rfl, h.manifest, h.qualified, rfl⟩

theorem transitionToIncompleteHcsWindow_eq_ok {value : ProofValue} :
    transitionToIncompleteHcsWindow registry ctx value = .ok ctx' ↔
      ∃ object, value = .object object ∧ ctx.state = AUCTION_RECONCILIATION_PENDING ∧ object ∈ registry ∧
        object.proof.complete = false ∧
          { ctx with
            state := INCOMPLETE_HCS_WINDOW
            closureProof := some object
            decisionManifest := some object.proof.manifest } = ctx' := by
  simp only [transitionToIncompleteHcsWindow, assertLegal, bind_eq_ok, require_eq_ok, exists_const, pure_eq_ok,
    requireAuthenticProof_eq_ok, legal_incomplete]
  constructor
  · rintro ⟨hstate, object, ⟨rfl, hin⟩, hincomplete, rfl⟩
    exact ⟨object, rfl, hstate, hin, hincomplete, rfl⟩
  · rintro ⟨object, rfl, hstate, hin, hincomplete, rfl⟩
    exact ⟨hstate, object, ⟨rfl, hin⟩, hincomplete, rfl⟩

theorem requireNotAfter_ne {a b message message' : JsString} {source target : AuctionState} (h : message ≠ message') :
    requireNotAfter a b (.illegal source target message) ≠ .error (.illegal source target message') := by
  simp only [requireNotAfter, Ne, bind_eq_error, require_eq_error]
  rintro (hparse | ⟨_, -, -, heq⟩)
  · cases hcompare : isBeforeOrEqualUtc a b with
    | ok r => exact absurd hparse (by simp [hcompare, Except.mapError])
    | error e => exact absurd hparse (by simp [hcompare, Except.mapError])
  · exact h (by injection heq)

theorem requireAuthenticProof_ne {target : AuctionState} {value : ProofValue} :
    requireAuthenticProof registry ctx target value ≠ .error (.illegal ctx.state target INCOMPLETE_RANGE) := by
  have hmessage : js "Closure proof is not an authentic factory-verified proof (plain/spread/JSON objects are rejected)" ≠
      INCOMPLETE_RANGE := by decide
  unfold requireAuthenticProof
  cases value with
  | object object =>
    by_cases hin : object ∈ registry
    · simp [hin]
    · simpa [hin] using hmessage
  | other => simpa using hmessage

/-- Closing fails for incompleteness exactly where the incomplete window is accepted. -/
theorem incomplete_iff {value : ProofValue} :
    transitionToClosed registry ctx value = .error (.illegal ctx.state AUCTION_CLOSED INCOMPLETE_RANGE) ↔
      ∃ ctx', transitionToIncompleteHcsWindow registry ctx value = .ok ctx' := by
  have hlegal : js "Illegal auction state transition: " ++ ctx.state.text ++ js " → " ++ AUCTION_CLOSED.text ≠
      INCOMPLETE_RANGE := by
    intro heq
    have hhead : (some 0x49 : Option UInt16) = some 0x53 := congrArg List.head? heq
    exact absurd hhead (by decide)
  simp only [transitionToIncompleteHcsWindow_eq_ok]
  constructor
  · intro h
    simp only [transitionToClosed, assertLegal, bind_eq_error, require_eq_error, require_eq_ok, exists_const,
      requireAuthenticProof_eq_ok, legal_closed, AuctionError.illegal.injEq, true_and] at h
    rcases h with ⟨-, heq⟩ | ⟨hstate, h⟩
    · exact absurd heq hlegal
    rcases h with h | ⟨object, ⟨rfl, hin⟩, h⟩
    · exact absurd h requireAuthenticProof_ne
    rcases h with ⟨hincomplete, -⟩ | ⟨-, h⟩
    · exact ⟨_, object, rfl, hstate, hin, by simpa using hincomplete, rfl⟩
    -- no other check reports an incomplete range
    rcases h with ⟨-, heq⟩ | ⟨-, ⟨-, heq⟩ | ⟨-, ⟨-, heq⟩ | ⟨-, heq | ⟨_, -, heq | ⟨_, -, heq⟩⟩⟩⟩⟩
    · exact absurd heq (by decide)
    · exact absurd heq (by decide)
    · exact absurd heq (by decide)
    · exact absurd heq (requireNotAfter_ne (by decide))
    · exact absurd heq (requireNotAfter_ne (by decide))
    · exact absurd heq pure_ne_error
  · rintro ⟨_, object, rfl, hstate, hin, hincomplete, -⟩
    simp only [transitionToClosed, assertLegal, bind_eq_error, require_eq_error, require_eq_ok, exists_const,
      requireAuthenticProof_eq_ok, legal_closed]
    exact .inr ⟨hstate, .inr ⟨object, ⟨rfl, hin⟩, .inl ⟨by simp [hincomplete], trivial⟩⟩⟩

end Transitions

/-! ## The outcome under a made proof -/

section Outcome
variable {p : Platform} {registry : List ProofObject} {ctx : AuctionMachineContext} {object : ProofObject}

/-- The manifest of a made proof names the winner of its results. -/
theorem exists_winner {proof : AuctionClosureProof} (h : ∃ input, createAuctionClosureProof p input = .ok proof) :
    ∃ winner, selectWinner proof.results = .ok winner ∧ proof.manifest.body.winningBidId = winner.map RankedBid.bidId ∧
      proof.manifest.body.winningBidHash = winner.map RankedBid.bidHash ∧
        (winner = none ↔ proof.results.filter isRankable = []) ∧
          ∀ b, winner = some b → (proof.manifest.body.commitments.find? (isWinnerEntry b)).isSome := by
  obtain ⟨input, hproof⟩ := h
  obtain ⟨cs, rs, body, hprovable, rfl⟩ := createAuctionClosureProof_eq_ok.mp hproof
  have hresults : ReconciledResults p input.terms input.evidence cs rs := hprovable.built.results
  obtain ⟨winner, hash, setHash, hwinner, -, -, rfl⟩ :=
    (reconstructExpectedManifestBody_eq_ok hresults.sorted).mp hprovable.built.body
  refine ⟨winner, hwinner, rfl, rfl, hresults.winner_iff hwinner, ?_⟩
  rintro b rfl
  obtain ⟨entry, hentry, his⟩ := hresults.winner_entry hwinner
  exact List.find?_isSome.mpr ⟨entry, hentry, his⟩

/-- From a closed context a winner is selected exactly where the manifest names one, and no bid exactly where it names
none. -/
theorem outcome_iff (hmade : ∃ input, createAuctionClosureProof p input = .ok object.proof) (hin : object ∈ registry)
    (hstate : ctx.state = AUCTION_CLOSED) (hproof : ctx.closureProof = some object) :
    ((∃ ctx', transitionToWinnerSelected registry ctx = .ok ctx') ↔ object.proof.manifest.body.winningBidId ≠ none) ∧
      ((∃ ctx', transitionToNoQualifiedBid registry ctx = .ok ctx') ↔ object.proof.manifest.body.winningBidId = none) := by
  obtain ⟨winner, hwinner, hid, hhash, hrankable, hentry⟩ := exists_winner hmade
  have hsame {object' : ProofObject} (h : ctx.closureProof = some object') : object' = object :=
    Option.some.inj (h.symm.trans hproof)
  rw [hid]
  constructor
  · simp only [transitionToWinnerSelected_eq_ok, Ne, Option.map_eq_none_iff]
    constructor
    · rintro ⟨_, object', -, ⟨b, h⟩, -⟩ rfl
      obtain rfl := hsame h.proof
      have hsome := h.ranking
      rw [hwinner] at hsome
      exact absurd hsome (by simp)
    · intro hne
      obtain ⟨b, rfl⟩ := Option.ne_none_iff_exists'.mp hne
      have hlength : 1 ≤ (object.proof.results.filter isRankable).length :=
        List.length_pos_iff.mpr fun hnil => hne (hrankable.mpr hnil)
      refine ⟨_, object, hin, ⟨b, hstate, hproof, hwinner, ?_⟩, rfl⟩
      simp only [checkWinner, check_eq_ok, require_eq_ok]
      exact ⟨hid, hhash, hlength, hentry b rfl⟩
  · simp only [transitionToNoQualifiedBid_eq_ok, Option.map_eq_none_iff]
    constructor
    · rintro ⟨_, object', -, h, -⟩
      obtain rfl := hsame h.proof
      exact Except.ok.inj (hwinner.symm.trans h.winner)
    · rintro rfl
      exact ⟨_, object, hin, ⟨hstate, hproof, hwinner, ⟨hid, hhash⟩, by rw [hrankable.mp rfl]; rfl⟩, rfl⟩

end Outcome

/-! ## Runs -/

/-- The proof of the context was made by the factory, with a complete range, for the deadline of its machine. -/
def DecidedBy (p : Platform) (registry : List ProofObject) (ctx : AuctionMachineContext) (object : ProofObject) : Prop :=
  ctx.closureProof = some object ∧ object ∈ registry ∧
    (∃ input, createAuctionClosureProof p input = .ok object.proof) ∧ object.proof.complete = true ∧
      object.proof.auctionEndsAt = ctx.auctionEndsAt

/-- The context comes from a closed one under the same proof. -/
def Decided (p : Platform) (w : AuctionWorld) (ctx : AuctionMachineContext) : Prop :=
  ∃ previous ∈ w.contexts, ∃ object, previous.state = AUCTION_CLOSED ∧ DecidedBy p w.registry previous object ∧
    DecidedBy p w.registry ctx object ∧
      (ctx.state = WINNER_SELECTED ∧ transitionToWinnerSelected w.registry previous = .ok ctx ∨
        ctx.state = NO_QUALIFIED_BID ∧ transitionToNoQualifiedBid w.registry previous = .ok ctx)

/-- What the machine keeps of every context it returned. -/
structure Sound (p : Platform) (w : AuctionWorld) : Prop where
  proofs : ∀ object ∈ w.registry, ∃ input, createAuctionClosureProof p input = .ok object.proof
  closed : ∀ ctx ∈ w.contexts, ctx.state = AUCTION_CLOSED → ∃ object, DecidedBy p w.registry ctx object
  terminal : ∀ ctx ∈ w.contexts, ctx.state = WINNER_SELECTED ∨ ctx.state = NO_QUALIFIED_BID → Decided p w ctx

section Runs
variable {p : Platform} {w w' : AuctionWorld}

/-- The proofs and the contexts only grow. -/
structure Grows (w w' : AuctionWorld) : Prop where
  registry : w.registry ⊆ w'.registry
  contexts : w.contexts ⊆ w'.contexts

theorem DecidedBy.mono {registry registry' : List ProofObject} {ctx : AuctionMachineContext} {object : ProofObject}
    (h : DecidedBy p registry ctx object) (hsub : registry ⊆ registry') : DecidedBy p registry' ctx object :=
  ⟨h.1, hsub h.2.1, h.2.2⟩

theorem Decided.mono {ctx : AuctionMachineContext} (h : Decided p w ctx) (hg : Grows w w') : Decided p w' ctx := by
  obtain ⟨previous, hprevious, object, hstate, hby, hby', hmove⟩ := h
  refine ⟨previous, hg.contexts hprevious, object, hstate, hby.mono hg.registry, hby'.mono hg.registry, ?_⟩
  rcases hmove with ⟨hs, hrun⟩ | ⟨hs, hrun⟩
  · obtain ⟨made, hin, hselects, heq⟩ := transitionToWinnerSelected_eq_ok.mp hrun
    exact .inl ⟨hs, transitionToWinnerSelected_eq_ok.mpr ⟨made, hg.registry hin, hselects, heq⟩⟩
  · obtain ⟨made, hin, hselects, heq⟩ := transitionToNoQualifiedBid_eq_ok.mp hrun
    exact .inr ⟨hs, transitionToNoQualifiedBid_eq_ok.mpr ⟨made, hg.registry hin, hselects, heq⟩⟩

/-- A new context is none of the three, or it is closed under a made proof, or decided by a closed one. -/
theorem run_decided (hs : Sound p w) {ctx ctx' : AuctionMachineContext} (hctx : ctx ∈ w.contexts) {t : Transition}
    (h : t.run w.registry ctx = .ok ctx') :
    (ctx'.state = AUCTION_CLOSED → ∃ object, DecidedBy p w.registry ctx' object) ∧
      (ctx'.state = WINNER_SELECTED ∨ ctx'.state = NO_QUALIFIED_BID → Decided p w ctx') := by
  cases t with
  | toOpen =>
    simp only [Transition.run, transitionToOpen, bind_eq_ok, pure_eq_ok] at h
    obtain ⟨_, -, rfl⟩ := h
    exact ⟨by simp, by simp⟩
  | toBidding =>
    simp only [Transition.run, transitionToBidding, bind_eq_ok, pure_eq_ok] at h
    obtain ⟨_, -, rfl⟩ := h
    exact ⟨by simp, by simp⟩
  | toReconciliation now =>
    simp only [Transition.run, transitionToReconciliation, bind_eq_ok, pure_eq_ok] at h
    obtain ⟨_, -, _, -, _, -, rfl⟩ := h
    exact ⟨by simp, by simp⟩
  | toClosed value =>
    obtain ⟨object, rfl, hcloses, rfl⟩ := transitionToClosed_eq_ok.mp h
    exact ⟨fun _ => ⟨object, rfl, hcloses.authentic, hs.proofs object hcloses.authentic, hcloses.complete,
      hcloses.auctionEndsAt⟩, by simp [AuctionMachineContext.closedWith]⟩
  | toIncompleteHcsWindow value =>
    obtain ⟨object, -, -, -, -, rfl⟩ := transitionToIncompleteHcsWindow_eq_ok.mp h
    exact ⟨by simp, by simp⟩
  | toWinnerSelected =>
    have hrun : transitionToWinnerSelected w.registry ctx = .ok ctx' := h
    obtain ⟨object, -, ⟨b, hselects⟩, rfl⟩ := transitionToWinnerSelected_eq_ok.mp hrun
    obtain ⟨object', hby⟩ := hs.closed ctx hctx hselects.state
    exact ⟨by simp, fun _ => ⟨ctx, hctx, object', hselects.state, hby, hby, .inl ⟨rfl, hrun⟩⟩⟩
  | toNoQualifiedBid =>
    have hrun : transitionToNoQualifiedBid w.registry ctx = .ok ctx' := h
    obtain ⟨object, -, hselects, rfl⟩ := transitionToNoQualifiedBid_eq_ok.mp hrun
    obtain ⟨object', hby⟩ := hs.closed ctx hctx hselects.state
    exact ⟨by simp, fun _ => ⟨ctx, hctx, object', hselects.state, hby, hby, .inr ⟨rfl, hrun⟩⟩⟩
  | toClosedWithBooleans present complete => exact absurd h (by simp [Transition.run, transitionToClosedWithBooleans])

theorem Sound.add (hs : Sound p w) {ctx : AuctionMachineContext}
    (hclosed : ctx.state = AUCTION_CLOSED → ∃ object, DecidedBy p w.registry ctx object)
    (hterminal : ctx.state = WINNER_SELECTED ∨ ctx.state = NO_QUALIFIED_BID → Decided p w ctx) :
    Sound p { w with contexts := w.contexts ++ [ctx] } := by
  have hg : Grows w { w with contexts := w.contexts ++ [ctx] } := ⟨fun _ h => h, List.subset_append_left _ _⟩
  refine ⟨hs.proofs, fun c hc hstate => ?_, fun c hc hstate => ?_⟩
  · rcases List.mem_append.mp hc with hc | hc
    · exact hs.closed c hc hstate
    · obtain rfl := List.mem_singleton.mp hc
      exact hclosed hstate
  · rcases List.mem_append.mp hc with hc | hc
    · exact (hs.terminal c hc hstate).mono hg
    · obtain rfl := List.mem_singleton.mp hc
      exact (hterminal hstate).mono hg

theorem Sound.call (hs : Sound p w) {call : AuctionCall} (h : w.call p call = .ok w') : Sound p w' := by
  cases call with
  | createProof input =>
    simp only [AuctionWorld.call, bind_eq_ok, pure_eq_ok] at h
    obtain ⟨proof, hproof, rfl⟩ := h
    have hg : Grows w { w with registry := w.registry ++ [⟨w.registry.length, proof⟩] } :=
      ⟨List.subset_append_left _ _, fun _ h => h⟩
    refine ⟨fun object hobject => ?_, fun c hc hstate => ?_, fun c hc hstate => (hs.terminal c hc hstate).mono hg⟩
    · rcases List.mem_append.mp hobject with hold | hnew
      · exact hs.proofs object hold
      · obtain rfl := List.mem_singleton.mp hnew
        exact ⟨input, hproof⟩
    · obtain ⟨object, hby⟩ := hs.closed c hc hstate
      exact ⟨object, hby.mono hg.registry⟩
  | createMachine auctionEndsAt =>
    simp only [AuctionWorld.call, createAuctionMachine, bind_eq_ok, pure_eq_ok] at h
    obtain ⟨ctx, ⟨_, -, rfl⟩, rfl⟩ := h
    exact hs.add (by simp) (by simp)
  | transition context t =>
    simp only [AuctionWorld.call] at h
    cases hctx : w.contexts[context]? with
    | none => exact absurd h (by simp [hctx])
    | some ctx =>
      simp only [hctx, bind_eq_ok, pure_eq_ok] at h
      obtain ⟨ctx', hrun, rfl⟩ := h
      obtain ⟨hclosed, hterminal⟩ := run_decided hs (List.mem_of_getElem? hctx) hrun
      exact hs.add hclosed hterminal

theorem Sound.step (hs : Sound p w) (call : AuctionCall) : Sound p (w.step p call) := by
  unfold AuctionWorld.step
  split
  next h => exact hs.call h
  next => exact hs

theorem sound_runCalls (calls : List AuctionCall) : Sound p (runCalls p calls) := by
  induction calls using List.reverseRecOn with
  | nil =>
    have hnone {α : Type} (a : α) : a ∉ ([] : List α) := List.not_mem_nil
    exact ⟨fun o ho => absurd ho (hnone o), fun c hc => absurd hc (hnone c), fun c hc => absurd hc (hnone c)⟩
  | append_singleton calls call ih =>
    rw [runCalls, List.foldl_append]
    exact ih.step call

end Runs

/-- Over every sequence of calls: the terminal states come from a closed context under a complete proof for the machine's
deadline; a closed context has exactly one of the two outcomes, decided by the manifest; an incomplete range is what the
incomplete window accepts; and a call that fails changes nothing. -/
theorem auction_outcome (p : Platform) (calls : List AuctionCall) :
    (∀ ctx ∈ (runCalls p calls).contexts, ctx.state = WINNER_SELECTED ∨ ctx.state = NO_QUALIFIED_BID →
      Decided p (runCalls p calls) ctx) ∧
    (∀ ctx ∈ (runCalls p calls).contexts, ctx.state = AUCTION_CLOSED →
      ∃ object, DecidedBy p (runCalls p calls).registry ctx object ∧
        ((∃ ctx', transitionToWinnerSelected (runCalls p calls).registry ctx = .ok ctx') ↔
          object.proof.manifest.body.winningBidId ≠ none) ∧
        ((∃ ctx', transitionToNoQualifiedBid (runCalls p calls).registry ctx = .ok ctx') ↔
          object.proof.manifest.body.winningBidId = none)) ∧
    (∀ ctx ∈ (runCalls p calls).contexts, ∀ value,
      transitionToClosed (runCalls p calls).registry ctx value =
          .error (.illegal ctx.state AUCTION_CLOSED INCOMPLETE_RANGE) ↔
        ∃ ctx', transitionToIncompleteHcsWindow (runCalls p calls).registry ctx value = .ok ctx') ∧
    (∀ call e, (runCalls p calls).call p call = .error e → runCalls p (calls ++ [call]) = runCalls p calls) := by
  have hsound := sound_runCalls (p := p) calls
  refine ⟨hsound.terminal, fun ctx hctx hstate => ?_, fun ctx _ value => incomplete_iff, fun call e he => ?_⟩
  · obtain ⟨object, hby⟩ := hsound.closed ctx hctx hstate
    exact ⟨object, hby, outcome_iff hby.2.2.1 hby.2.1 hstate hby.1⟩
  · rw [runCalls, List.foldl_append]
    show AuctionWorld.step p (runCalls p calls) call = runCalls p calls
    rw [AuctionWorld.step, he]

end RouteGuard.Auction
