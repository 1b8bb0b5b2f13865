import RouteGuard.Pod.ReviewAnswers

/-!
# Calls that fail

A review or a submission is answered after its event is committed. When the answer cannot be built, the call throws and
the record has moved on.

* `Commits` : the call commits an event;
* `Admissible` : the answer can be built;
* `failed_call_keeps_iff` : a call that fails leaves the record as it is exactly when it commits nothing or can be answered.
-/

namespace RouteGuard.Pod
open JsString Guarded Lifecycle Store Auth Hcs.V2

/-! ## Calls that commit -/

namespace PodService
variable (s : PodService) (w : PodWorld)

/-- The call passes its checks, and its event is applied. -/
def Commits : PodServiceCall → Prop
  | .review input => ∃ reviewDeadlineAt next, ReviewCommits s w.record input reviewDeadlineAt next
  | .submit input secrets => ∃ checked stored packages next,
    SubmitCommits s ⟨w.record, w.packages⟩ input secrets checked stored packages next

/-- What the answer asks of the call. -/
def Admissible : PodServiceCall → Prop
  | .review input => ReviewAdmissible s w.record input
  | .submit input _ => isPublicId w.record.tenderId ∧ isPublicId input.package.podId ∧
    (totalLength input.package.files : Int) ≤ MAX_SAFE_INTEGER

end PodService

section Failed
variable {s : PodService} {w : PodWorld} {call : PodServiceCall} {r next : LifecycleRecord}

/-- An applied event counts the version of the record. -/
theorem ne_of_applies {p : Platform} {carriers : Option CarrierRegistry} {event : LifecycleEvent}
    (h : Applies p carriers r event next) : next ≠ r := by
  rintro rfl
  obtain ⟨_, -, hreduce⟩ := h.reduces
  obtain ⟨-, _, hprogress⟩ := reduceLifecycle_progress hreduce
  have hversion : next.recordVersion = next.recordVersion + 1 := congrArg Progress.recordVersion hprogress
  omega

theorem record_of_commits (h : s.Commits w call) : (s.serve call w).2.record ≠ w.record := by
  cases call with
  | review input =>
    obtain ⟨reviewDeadlineAt, next, hcommits⟩ := h
    show (s.review input ⟨w.record, w.plans⟩).2.record ≠ w.record
    rw [review_of_commits hcommits]
    exact ne_of_applies hcommits.applies
  | submit input secrets =>
    obtain ⟨checked, stored, packages, next, hcommits⟩ := h
    show (s.submit input secrets ⟨w.record, w.packages⟩).2.record ≠ w.record
    rw [submit_of_commits hcommits]
    exact ne_of_applies (applies_of_applyRecord hcommits.fresh hcommits.applied).2

theorem record_of_not_commits (h : ¬ s.Commits w call) : (s.serve call w).2.record = w.record := by
  cases call with
  | review input =>
    show (s.review input ⟨w.record, w.plans⟩).2.record = w.record
    rcases review_cases (s := s) input ⟨w.record, w.plans⟩ with ⟨e, hrefused⟩ | ⟨hfound, hprocessed⟩ | hcommits
    · rw [hrefused]
    · rw [review_of_processed hfound hprocessed]
    · exact absurd hcommits h
  | submit input secrets => exact (submit_cases input secrets ⟨w.record, w.packages⟩).resolve_right h

/-! ## Answers -/

/-- A committed review is answered exactly when it is admissible. -/
theorem review_answered_iff {input : ShipperReviewInput} (hp : s.p.HexDigest) {ls : List PodLabel}
    (hrun : (podSystem s).Run ls w) (h : s.Commits w (.review input)) :
    (∃ result, (s.serve (.review input) w).1 = .ok result) ↔ s.Admissible w (.review input) := by
  obtain ⟨reviewDeadlineAt, next, hcommits⟩ := h
  have hfresh := plansOwned_of_run hrun _ hcommits.fresh
  rw [(recordOf_eq_ok.mp hcommits.found).1] at hfresh
  have hanswer : (∃ result, (answerReview s.p s.ethers s.sha256Hex s.bindings w.record next input reviewDeadlineAt .applied
      w.plans).1 = .ok result) ↔ ReviewAdmissible s w.record input :=
    answerReview_iff hp (accepted_of_run hrun) hcommits hfresh
  rw [PodService.Admissible, ← hanswer]
  have hserve : (s.serve (.review input) w).1 = .reviewed <$> (s.review input ⟨w.record, w.plans⟩).1 := rfl
  have hreview := review_of_commits (w := ⟨w.record, w.plans⟩) hcommits
  simp only [hserve, hreview, map_eq_ok]
  constructor
  · rintro ⟨_, result, hresult, -⟩
    exact ⟨result, hresult⟩
  · rintro ⟨result, hresult⟩
    exact ⟨_, result, hresult, rfl⟩

/-- The POD that a submission leaves on the record. -/
theorem pod_of_submitted {p : Platform} {carriers : Option CarrierRegistry} {fields : PodPackageFields}
    {contentHash ciphertextHash : JsString}
    (h : Applies p carriers r (submissionEvent fields contentHash ciphertextHash) next) :
    next.podId = some fields.podId ∧ next.podVersion = some fields.podVersion ∧
      next.podContentHash = some contentHash ∧ next.podCiphertextHash = some ciphertextHash := by
  obtain ⟨_, -, hreduce⟩ := h.reduces
  obtain ⟨-, -, hreduces⟩ := reduceLifecycle_ok hreduce
  have hbody : (submissionEvent fields contentHash ciphertextHash).body =
      .podPackageSubmitted ⟨fields.podId, fields.podVersion, contentHash, ciphertextHash⟩ := rfl
  rw [hbody] at hreduces
  cases hreduces
  exact ⟨rfl, rfl, rfl, rfl⟩

/-- The checks of a submission accept its files and count their bytes. -/
theorem totalBytes_of_checked {input : SubmitPodInput} {checked : CheckedPackage}
    (h : checkSubmission s.p s.ethers s.sha256Hex s.deps w.record input = .ok checked) :
    checked.manifest.totalBytes = totalLength input.package.files ∧ 0 < totalLength input.package.files := by
  simp only [checkSubmission, bind_eq_ok, mapError_eq_ok, pure_eq_ok, buildCanonicalManifest_eq_ok] at h
  obtain ⟨_, -, _, -, _, -, _, -, _, -, _, -, _, -, _, -, _, -, _, -, manifest, ⟨hfiles, rfl⟩, _, -, _, -, _, -, rfl⟩ := h
  refine ⟨rfl, ?_⟩
  obtain ⟨file, rest, hlist⟩ := List.exists_cons_of_ne_nil (List.ne_nil_of_length_pos (Nat.pos_of_ne_zero hfiles.nonempty))
  have hfile := (hfiles.each file (by rw [hlist]; exact List.mem_cons_self)).nonempty
  rw [hlist]
  simp only [totalLength, List.map_cons, List.sum_cons]
  omega

/-- A committed submission is answered exactly when it is admissible. -/
theorem submit_answered_iff {input : SubmitPodInput} {secrets : RecordSecrets} (hp : s.p.HexDigest)
    (h : s.Commits w (.submit input secrets)) :
    (∃ result, (s.serve (.submit input secrets) w).1 = .ok result) ↔ s.Admissible w (.submit input secrets) := by
  obtain ⟨checked, stored, packages, next, hcommits⟩ := h
  obtain ⟨-, happlies⟩ := applies_of_applyRecord hcommits.fresh hcommits.applied
  obtain ⟨hpodId, hpodVersion, hcontent, hciphertext⟩ := pod_of_submitted happlies
  obtain ⟨htotal, hpositive⟩ := totalBytes_of_checked (w := w) hcommits.checks
  have hsafe : isSafePositiveInteger (checked.manifest.totalBytes : Int) = true ↔
      (totalLength input.package.files : Int) ≤ MAX_SAFE_INTEGER := by
    rw [htotal, isSafePositiveInteger, Bool.and_eq_true, decide_eq_true_eq, decide_eq_true_eq, and_iff_right (by omega)]
  have hbuilt : (∃ envelope, buildPodSubmittedEnvelope s.p next checked.manifest.totalBytes = .ok envelope) ↔
      isPublicId next.tenderId ∧ isPublicId input.package.podId ∧ isSafePositiveInteger checked.manifest.totalBytes :=
    buildPodSubmitted_iff hp happlies.accepted hpodId hpodVersion hcontent hciphertext
  rw [hsafe, tenderId_of_applies happlies] at hbuilt
  rw [PodService.Admissible, ← hbuilt]
  have hserve : (s.serve (.submit input secrets) w).1 =
      .submitted <$> (s.submit input secrets ⟨w.record, w.packages⟩).1 := rfl
  simp only [hserve, submit_of_commits hcommits, map_eq_ok, submitted, submissionItem, bind_eq_ok, pure_eq_ok]
  constructor
  · rintro ⟨_, _, ⟨item, hitem, -⟩, -⟩
    obtain ⟨envelope, henvelope, -⟩ := map_eq_ok.mp hitem
    exact ⟨envelope, mapError_eq_ok.mp henvelope⟩
  · rintro ⟨envelope, henvelope⟩
    exact ⟨_, _, ⟨_, map_eq_ok.mpr ⟨envelope, mapError_eq_ok.mpr henvelope, rfl⟩, rfl⟩, rfl⟩

theorem answered_iff (hp : s.p.HexDigest) {ls : List PodLabel} (hrun : (podSystem s).Run ls w) (h : s.Commits w call) :
    (∃ result, (s.serve call w).1 = .ok result) ↔ s.Admissible w call := by
  cases call with
  | review input => exact review_answered_iff hp hrun h
  | submit input secrets => exact submit_answered_iff hp h

end Failed

/-- **When a failed call changes nothing.** In every state of a run and for every review or submission: if the call
fails, then the record is what it was, exactly when a call that commits is one that can be answered. -/
theorem failed_call_keeps_iff {s : PodService} (hp : s.p.HexDigest) {ls : List PodLabel} {w : PodWorld}
    (hrun : (podSystem s).Run ls w) (call : PodServiceCall) :
    (∀ e, (s.serve call w).1 = .error e → (s.serve call w).2.record = w.record) ↔
      (s.Commits w call → s.Admissible w call) := by
  by_cases hcommits : s.Commits w call
  · have hchanged := record_of_commits hcommits
    rw [imp_iff_right hcommits, ← answered_iff hp hrun hcommits]
    cases hanswer : (s.serve call w).1 with
    | error e => simp only [Except.error.injEq, forall_eq', hchanged, reduceCtorEq, exists_false]
    | ok result => simp only [reduceCtorEq, false_implies, implies_true, Except.ok.injEq, exists_eq']
  · have hsame := record_of_not_commits hcommits
    exact iff_of_true (fun _ _ => hsame) fun h => absurd h hcommits

namespace ReviewSample
open Lifecycle.Sample Store.Sample

/-- A dispute id of 65 characters, which the record takes. -/
def longId : JsString := List.replicate 65 0x64

/-- The record under review takes a rejection with the long id. -/
theorem long_rejection : ∃ r ls, (podSystem service).Run ls ⟨r, .empty, fun _ => none⟩ ∧
    service.Commits ⟨r, .empty, fun _ => none⟩ (.review (rejectInput longId)) := by
  have h : ∃ r ∈ checkedRun signedDecisions none input (events.take 11), decisionCheck (rejectInput longId) r := by
    decide +kernel
  obtain ⟨r, hr, hcheck⟩ := h
  obtain ⟨-, ⟨ls, hrun⟩, hcommits⟩ := commits_of_check hr hcheck
  exact ⟨r, ls, hrun, hcommits⟩

end ReviewSample

open ReviewSample in
/-- An acceptance that is committed and answered. -/
theorem failed_call_keeps_acceptance : ∃ ls w, (podSystem service).Run ls w ∧ service.Commits w (.review acceptInput) ∧
    ∀ e, (service.serve (.review acceptInput) w).1 = .error e →
      (service.serve (.review acceptInput) w).2.record = w.record := by
  obtain ⟨r, ls, hrun, hcommits, hadmissible⟩ := ReviewSample.acceptance
  exact ⟨ls, _, hrun, hcommits, (failed_call_keeps_iff (s := service) (hexDigest_asciiPlatform _) hrun
    (.review acceptInput)).mpr fun _ => hadmissible⟩

open ReviewSample in
/-- A rejection whose dispute id has 65 characters throws, and the tender is in dispute. -/
theorem long_dispute_throws : ∃ ls w e, (podSystem service).Run ls w ∧
    (service.serve (.review (rejectInput longId)) w).1 = .error e ∧
    (service.serve (.review (rejectInput longId)) w).2.record ≠ w.record := by
  obtain ⟨r, ls, hrun, hcommits⟩ := long_rejection
  have hanswered := review_answered_iff (hexDigest_asciiPlatform _) hrun hcommits
  have hlong : ¬ isPublicId (disputeIdOf (rejectInput longId)) := by decide
  cases hanswer : (service.serve (.review (rejectInput longId)) ⟨r, .empty, fun _ => none⟩).1 with
  | error e => exact ⟨ls, _, e, hrun, hanswer, record_of_commits hcommits⟩
  | ok result => exact absurd ((hanswered.mp ⟨result, hanswer⟩).dispute rfl).1 hlong

end RouteGuard.Pod
