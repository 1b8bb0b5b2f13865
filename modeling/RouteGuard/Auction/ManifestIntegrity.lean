import RouteGuard.Auction.Closure

/-!
# Which manifests are accepted

The verification compares a manifest with the one it reconstructs, field by field and entry by entry, and then its hash.
An empty evaluation timestamp or reference counts as none, and the manifest's own stands in for it.

* `verifyDecisionManifestIntegrity_eq_nil` : the verification without its list of errors;
* `Genuine` : the reconstructed manifest with its hash;
* `manifest_accepted_iff_genuine_iff` : when the two are the same.
-/

namespace RouteGuard.Auction
open JsString Json Guarded Sorting

/-! ## No errors -/

theorem messageIf_eq_nil {c : Bool} {message : JsString} : messageIf c message = [] ↔ c = false := by
  cases c <;> simp [messageIf]

theorem entryErrors_eq_nil {i : Nat} {actual expected : Option ManifestEntry} :
    entryErrors i actual expected = [] ↔ actual = expected ∧ actual.isSome = true := by
  cases actual with
  | none => simp [entryErrors]
  | some a =>
    cases expected with
    | none => simp [entryErrors]
    | some b =>
      simp only [entryErrors, List.append_eq_nil_iff, messageIf_eq_nil, decide_eq_false_iff_not, not_not,
        Option.some.injEq, Option.isSome_some, and_true]
      constructor
      · rintro ⟨⟨⟨⟨⟨h1, h2⟩, h3⟩, h4⟩, h5⟩, h6⟩
        cases a
        cases b
        simp_all only
      · rintro rfl
        exact ⟨⟨⟨⟨⟨rfl, rfl⟩, rfl⟩, rfl⟩, rfl⟩, rfl⟩

theorem bodyErrors_eq_nil {body expected : ManifestBody} : bodyErrors body expected = [] ↔ body = expected := by
  constructor
  · intro h
    simp only [bodyErrors, List.append_eq_nil_iff, messageIf_eq_nil, decide_eq_false_iff_not, not_not,
      List.flatMap_eq_nil_iff, List.mem_range, entryErrors_eq_nil] at h
    obtain ⟨⟨⟨⟨⟨⟨⟨⟨⟨⟨⟨⟨⟨h1, h2⟩, h3⟩, h4⟩, h5⟩, h6⟩, h7⟩, h8⟩, h9⟩, h10⟩, h11⟩, h12⟩, hlength⟩, hentries⟩ := h
    have hcommitments : body.commitments = expected.commitments := by
      refine List.ext_getElem? fun i => ?_
      by_cases hi : i < max body.commitments.length expected.commitments.length
      · exact (hentries i hi).1
      · rw [List.getElem?_eq_none (by omega), List.getElem?_eq_none (by omega)]
    cases body
    cases expected
    simp_all only
  · rintro rfl
    exact bodyErrors_self body

/-! ## Reconstruction -/

section Reconstruction
variable {p : Platform} {terms : EvaluationTerms} {input : ReconciliationInput} {cs : List CommitmentEvidence}
  {rs : List EligibilityResult} {tender : FreightTender} {evaluationTimestamp reconciliationReference : JsString}
  {barrierSequence : Int} {body : ManifestBody}

/-- What the reconstruction takes from its arguments. -/
theorem reconstructed_arguments (h : ReconciledResults p terms input cs rs)
    (hbody : reconstructExpectedManifestBody p tender rs evaluationTimestamp barrierSequence reconciliationReference =
      .ok body) :
    body.evaluationTimestamp = evaluationTimestamp ∧ body.reconciliationReference = reconciliationReference := by
  obtain ⟨winner, hash, setHash, -, -, -, rfl⟩ := (reconstructExpectedManifestBody_eq_ok h.sorted).mp hbody
  exact ⟨rfl, rfl⟩

/-- The body is reconstructed exactly where the tender is valid. -/
theorem exists_reconstructed (hreconciled : Reconciled input cs) (h : ReconciledResults p terms input cs rs) :
    (∃ body, reconstructExpectedManifestBody p tender rs evaluationTimestamp barrierSequence reconciliationReference =
      .ok body) ↔ tender.valid = true := by
  simp only [reconstructExpectedManifestBody_eq_ok h.sorted]
  constructor
  · rintro ⟨_, winner, hash, setHash, -, htender, -⟩
    rw [tenderHash] at htender
    split at htender
    next hv => exact hv
    next => exact absurd htender (by simp)
  · intro hvalid
    obtain ⟨winner, hwinner, -⟩ := selectWinner_eq_ok h
    obtain ⟨setHash, hset⟩ := exists_setHash hreconciled h hvalid
    exact ⟨_, winner, _, setHash, hwinner, if_pos hvalid, hset, rfl⟩

/-- A manifest is accepted where it is the reconstructed one, an empty argument read from the manifest. -/
theorem verifyDecisionManifestIntegrity_eq_nil (hreconciled : Reconciled input cs)
    (h : ReconciledResults p terms input cs rs) {manifest : DecisionManifest} :
    verifyDecisionManifestIntegrity p manifest tender rs evaluationTimestamp barrierSequence reconciliationReference =
        .ok [] ↔
      reconstructExpectedManifestBody p tender rs
          (if evaluationTimestamp = [] then manifest.body.evaluationTimestamp else evaluationTimestamp) barrierSequence
          (if reconciliationReference = [] then manifest.body.reconciliationReference else reconciliationReference) =
          .ok manifest.body ∧
        manifest.decisionManifestHash = manifest.body.hash p := by
  simp only [verifyDecisionManifestIntegrity, bind_eq_ok, pure_eq_ok, List.append_eq_nil_iff, bodyErrors_eq_nil,
    messageIf_eq_nil, decide_eq_false_iff_not, not_not]
  constructor
  · rintro ⟨expected, hexpected, ⟨⟨⟨rfl, -⟩, -⟩, hhash⟩, -⟩
    exact ⟨hexpected, hhash⟩
  · rintro ⟨hexpected, hhash⟩
    obtain ⟨winner, hash, setHash, hwinner, -, -, hbody⟩ :=
      (reconstructExpectedManifestBody_eq_ok h.sorted).mp hexpected
    refine ⟨manifest.body, hexpected, ⟨⟨⟨rfl, ?_⟩, ?_⟩, hhash⟩, by simp⟩
    · rw [← hbody]
      exact h.duplicateErrors hreconciled
    · rw [← hbody]
      exact h.winnerErrors hwinner

end Reconstruction

/-! ## Genuine manifests -/

/-- The reconstructed body with its hash. -/
def Genuine (p : Platform) (tender : FreightTender) (rs : List EligibilityResult) (evaluationTimestamp : JsString)
    (barrierSequence : Int) (reconciliationReference : JsString) (manifest : DecisionManifest) : Prop :=
  ∃ body, reconstructExpectedManifestBody p tender rs evaluationTimestamp barrierSequence reconciliationReference =
    .ok body ∧ manifest = ⟨body, body.hash p⟩

/-- The value, or one of its own where it is empty. -/
def orOwn (value : JsString) : JsString := if value = [] then js "own" else value

theorem ite_orOwn (value : JsString) : (if value = [] then orOwn value else value) = orOwn value := by
  unfold orOwn
  split <;> rfl

theorem ne_nil_of_orOwn {value : JsString} (h : orOwn value = value) : value ≠ [] := by
  rintro rfl
  exact absurd h (by decide)

theorem genuine_iff {p : Platform} {tender : FreightTender} {rs : List EligibilityResult}
    {evaluationTimestamp reconciliationReference : JsString} {barrierSequence : Int} {manifest : DecisionManifest} :
    Genuine p tender rs evaluationTimestamp barrierSequence reconciliationReference manifest ↔
      reconstructExpectedManifestBody p tender rs evaluationTimestamp barrierSequence reconciliationReference =
          .ok manifest.body ∧
        manifest.decisionManifestHash = manifest.body.hash p := by
  constructor
  · rintro ⟨body, hbody, rfl⟩
    exact ⟨hbody, rfl⟩
  · rintro ⟨hbody, hhash⟩
    refine ⟨manifest.body, hbody, ?_⟩
    rw [← hhash]

/-- The verification accepts the genuine manifest and no other exactly where neither the evaluation timestamp nor the
reference is empty; for a tender that is not valid there is no genuine manifest, and none is accepted. -/
theorem manifest_accepted_iff_genuine_iff {p : Platform} {terms : EvaluationTerms} {input : ReconciliationInput}
    {set : ValidatedReconciliationSet} {rs : List EligibilityResult}
    (hset : validateReconciliationInputs input = .ok set) (hrs : evaluateReconciled p terms set = .ok rs)
    {tender : FreightTender} {evaluationTimestamp reconciliationReference : JsString} {barrierSequence : Int} :
    (∀ manifest : DecisionManifest,
      verifyDecisionManifestIntegrity p manifest tender rs evaluationTimestamp barrierSequence reconciliationReference =
          .ok [] ↔
        Genuine p tender rs evaluationTimestamp barrierSequence reconciliationReference manifest) ↔
      (tender.valid = true → evaluationTimestamp ≠ [] ∧ reconciliationReference ≠ []) := by
  obtain ⟨cs, hreconciled, rfl⟩ := validateReconciliationInputs_eq_ok.mp hset
  have hresults := (evaluateReconciled_eq_ok hreconciled).mp hrs
  simp only [genuine_iff, verifyDecisionManifestIntegrity_eq_nil hreconciled hresults]
  constructor
  · intro hsame hvalid
    -- a manifest with a timestamp and a reference of its own where the argument is empty
    have hexists : ∃ body, reconstructExpectedManifestBody p tender rs (orOwn evaluationTimestamp) barrierSequence
        (orOwn reconciliationReference) = .ok body := (exists_reconstructed hreconciled hresults).mpr hvalid
    obtain ⟨body, hbody⟩ := hexists
    obtain ⟨htime, hreference⟩ := reconstructed_arguments hresults hbody
    have haccepted := (hsame ⟨body, body.hash p⟩).mp (by
      rw [htime, hreference, ite_orOwn, ite_orOwn]
      exact ⟨hbody, rfl⟩)
    obtain ⟨htime', hreference'⟩ := reconstructed_arguments hresults haccepted.1
    exact ⟨ne_nil_of_orOwn (htime.symm.trans htime'), ne_nil_of_orOwn (hreference.symm.trans hreference')⟩
  · intro hgiven manifest
    by_cases hvalid : tender.valid = true
    · obtain ⟨htime, hreference⟩ := hgiven hvalid
      rw [if_neg htime, if_neg hreference]
    · refine iff_of_false (fun h => hvalid ?_) (fun h => hvalid ?_)
      · exact (exists_reconstructed hreconciled hresults).mp ⟨_, h.1⟩
      · exact (exists_reconstructed hreconciled hresults).mp ⟨_, h.1⟩

/-! ### An empty reference -/

theorem OneBid.exists_rs : ∃ rs,
    ReconciledResults OneBid.platform OneBid.input.terms OneBid.evidence [OneBid.commitment] rs :=
  (exists_results OneBid.reconciled OneBid.tender_valid OneBid.evaluationTimestamp_valid).mpr OneBid.evaluable

/-- The manifest names another run than the auction, whose reference is empty, and is accepted. -/
theorem foreign_reference_accepted : ∃ set rs manifest,
    validateReconciliationInputs OneBid.evidence = .ok set ∧
      evaluateReconciled OneBid.platform OneBid.input.terms set = .ok rs ∧
      verifyDecisionManifestIntegrity OneBid.platform manifest OneBid.tender rs (js "2026-01-01T00:01:00Z") 3 [] =
        .ok [] ∧
      manifest.body.reconciliationReference = js "run-9" ∧
      ¬ Genuine OneBid.platform OneBid.tender rs (js "2026-01-01T00:01:00Z") 3 [] manifest := by
  obtain ⟨rs, hrs⟩ := OneBid.exists_rs
  have hexists : ∃ body, reconstructExpectedManifestBody OneBid.platform OneBid.tender rs (js "2026-01-01T00:01:00Z") 3
      (js "run-9") = .ok body := (exists_reconstructed OneBid.reconciled hrs).mpr OneBid.tender_valid
  obtain ⟨body, hbody⟩ := hexists
  obtain ⟨-, hreference⟩ := reconstructed_arguments hrs hbody
  refine ⟨_, rs, ⟨body, body.hash OneBid.platform⟩, validateReconciliationInputs_eq_ok.mpr ⟨_, OneBid.reconciled, rfl⟩,
    (evaluateReconciled_eq_ok OneBid.reconciled).mpr hrs, ?_, hreference, ?_⟩
  · refine (verifyDecisionManifestIntegrity_eq_nil OneBid.reconciled hrs).mpr ⟨?_, rfl⟩
    rw [if_pos rfl, hreference]
    exact hbody
  · intro hgenuine
    obtain ⟨-, hempty⟩ := reconstructed_arguments hrs (genuine_iff.mp hgenuine).1
    exact absurd (hreference.symm.trans hempty) (by decide)

theorem manifest_accepted_iff_genuine_iff_oneBid : ∃ set rs,
    validateReconciliationInputs OneBid.evidence = .ok set ∧
      evaluateReconciled OneBid.platform OneBid.input.terms set = .ok rs ∧
      ∀ manifest,
        verifyDecisionManifestIntegrity OneBid.platform manifest OneBid.tender rs (js "2026-01-01T00:01:00Z") 3
            (js "run-1") = .ok [] ↔
          Genuine OneBid.platform OneBid.tender rs (js "2026-01-01T00:01:00Z") 3 (js "run-1") manifest := by
  obtain ⟨rs, hrs⟩ := OneBid.exists_rs
  have hset := validateReconciliationInputs_eq_ok.mpr ⟨_, OneBid.reconciled, rfl⟩
  have hresults := (evaluateReconciled_eq_ok OneBid.reconciled).mpr hrs
  exact ⟨_, rs, hset, hresults, (manifest_accepted_iff_genuine_iff hset hresults).mpr fun _ => ⟨by decide, by decide⟩⟩

end RouteGuard.Auction
