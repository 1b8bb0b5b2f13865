import RouteGuard.Escrow.Escrowable
import RouteGuard.Pod.ReviewStart

/-!
# Reviews whose advisory is anchored

A start that returns promises a review under way whose advisory is anchored. A replay does not look whether the second
commit was made, so the promise needs that no start is taken up where another one stopped.

* `JustStarted`, `NamesStart`, `Unhindered` : the starts that are left out, and the others;
* `AnchoredReview` : the invariant;
* `startReview_ends` : what a start does to it;
* `advisory_anchored` : in runs of such starts, a start that returns leaves the advisory anchored.
-/

namespace RouteGuard.Pod
open JsString Guarded Lifecycle Store Hcs.V2

/-! ## The starts -/

/-- The last commit was the start of a review. -/
def JustStarted (record : LifecycleRecord) : Prop :=
  ∃ entry ∈ record.history.getLast?, entry.eventType = .podReviewStarted

instance (record : LifecycleRecord) : Decidable (JustStarted record) :=
  inferInstanceAs (Decidable (∃ entry ∈ record.history.getLast?, entry.eventType = .podReviewStarted))

/-- The action id is that of an earlier start: its first commit is in the index, or its second one. -/
def NamesStart (p : Platform) (record : LifecycleRecord) (actionId : JsString) : Prop :=
  (∃ prior, record.processedActions.read actionId = .value prior ∧
    prior.eventPayloadHash = eventPayloadHash p (reviewStarted actionId prior.at_)) ∨
  ∃ prior eventTime reportHash, record.processedActions.read (advisoryActionId actionId) = .value prior ∧
    prior.eventPayloadHash = eventPayloadHash p (advisoryAnchored actionId eventTime reportHash)

/-- The journal's advisory of the POD that is bound now. -/
def journalAdvisory (w : ReviewWorld) : Option PodAdvisoryReport :=
  match boundPod w.record with
  | .ok (podId, podVersion) => w.reports.getByPod w.record.tenderId podId podVersion
  | .error _ => none

/-- A replay finds both commits made and the advisory still in the journal; any other start has an action id of its
own. -/
structure Unhindered (p : Platform) (w : ReviewWorld) (actionId : JsString) : Prop where
  replay : isReplaying w.record actionId → ¬ JustStarted w.record ∧ ∃ advisory, journalAdvisory w = some advisory
  fresh : w.record.state ≠ .podUnderReview → ¬ NamesStart p w.record actionId

/-- The steps of a run whose starts are unhindered. -/
def StartsUnhindered (p : Platform) (w : ReviewWorld) : ReviewLabel → Prop
  | .startReview input _ => Unhindered p w input.actionId
  | _ => True

/-- The advisory of the record is anchored, and the journal has no other one of its POD. -/
def Anchors (w : ReviewWorld) (reportHash : JsString) : Prop :=
  w.record.advisoryReportHash = some reportHash ∧ ∀ advisory ∈ journalAdvisory w, advisory.reportHash = reportHash

/-- Every review under way has its advisory anchored, but for one that stopped after its first commit. -/
def AnchoredReview (w : ReviewWorld) : Prop :=
  w.record.state = .podUnderReview → ¬ JustStarted w.record → ∃ reportHash, Anchors w reportHash

/-! ## Commits -/

section Commits
variable {p : Platform} {carriers : Option CarrierRegistry} {r next : LifecycleRecord} {event : LifecycleEvent}

theorem justStarted_advance {g : Progress} {target : V2LifecycleState} {reason : Option JsString}
    (h : next.toProgress = g.advance p target event reason) : JustStarted next ↔ event.type = .podReviewStarted := by
  have hhistory : next.history = g.history ++ [⟨g.state, target, event.type, event.actionId, event.eventTime, reason⟩] :=
    congrArg Progress.history h
  simp only [JustStarted, hhistory, List.getLast?_append, List.getLast?_singleton, Option.some_or, Option.mem_def,
    Option.some.injEq, exists_eq_left']

theorem justStarted_of_applies (h : Applies p carriers r event next) :
    JustStarted next ↔ event.type = .podReviewStarted := by
  obtain ⟨_, -, hreduce⟩ := h.reduces
  obtain ⟨-, _, hprogress⟩ := reduceLifecycle_progress hreduce
  exact justStarted_advance hprogress

/-- Any other event ends the review. -/
theorem not_underReview_of_applies (hother : ¬ OfReviewStart event) (h : Applies p carriers r event next) :
    next.state ≠ .podUnderReview := by
  obtain ⟨_, -, hreduce⟩ := h.reduces
  obtain ⟨-, -, hreduces⟩ := reduceLifecycle_ok hreduce
  rw [OfReviewStart, LifecycleEvent.type] at hother
  generalize event.body = b at hother hreduces
  cases hreduces with
  | podReviewStarted => exact absurd (.inl rfl) hother
  | podAdvisoryAnchored => exact absurd (.inr rfl) hother
  | _ => exact fun h => (by cases h)

/-- The fields that name the POD of a record. -/
def podOf (record : LifecycleRecord) : JsString × Int × Option JsString × Option Int :=
  (record.tenderId, record.tenderVersion, record.podId, record.podVersion)

theorem boundPod_eq_of_podOf {r' : LifecycleRecord} (h : podOf r = podOf r') : boundPod r = boundPod r' := by
  simp only [podOf, Prod.mk.injEq] at h
  simp only [boundPod, h.2.2.1, h.2.2.2]

theorem journalAdvisory_of_podOf {w w' : ReviewWorld} (hpod : podOf w.record = podOf w'.record)
    (hreports : w.reports = w'.reports) : journalAdvisory w = journalAdvisory w' := by
  have htender : w.record.tenderId = w'.record.tenderId := congrArg Prod.fst hpod
  simp only [journalAdvisory, boundPod_eq_of_podOf hpod, htender, hreports]

/-- The first commit. -/
theorem reviewStarted_of_applies {actionId eventTime : JsString}
    (h : Applies p carriers r (reviewStarted actionId eventTime) next) :
    next.state = .podUnderReview ∧ podOf next = podOf r ∧
      ∃ action, next.processedActions = r.processedActions.insert actionId action := by
  obtain ⟨_, -, hreduce⟩ := h.reduces
  obtain ⟨-, -, hreduces⟩ := reduceLifecycle_ok hreduce
  have hbody : (reviewStarted actionId eventTime).body = .podReviewStarted := rfl
  rw [hbody] at hreduces
  cases hreduces with
  | podReviewStarted => exact ⟨rfl, rfl, _, rfl⟩

/-- The second commit. -/
theorem advisoryAnchored_of_applies {actionId eventTime reportHash : JsString}
    (h : Applies p carriers r (advisoryAnchored actionId eventTime reportHash) next) :
    next.state = r.state ∧ podOf next = podOf r ∧ next.advisoryReportHash = some reportHash := by
  obtain ⟨_, -, hreduce⟩ := h.reduces
  obtain ⟨-, -, hreduces⟩ := reduceLifecycle_ok hreduce
  have hbody : (advisoryAnchored actionId eventTime reportHash).body =
      .podAdvisoryAnchored ⟨reportHash, js "NON_BINDING_ADVISORY"⟩ := rfl
  rw [hbody] at hreduces
  cases hreduces with
  | podAdvisoryAnchored => exact ⟨rfl, rfl, rfl⟩

theorem advisoryActionId_ne (actionId : JsString) : advisoryActionId actionId ≠ actionId := by
  intro h
  have hlength := congrArg List.length h
  simp only [advisoryActionId, List.length_append, Nat.add_eq_left] at hlength
  exact absurd hlength (by decide)

end Commits

/-! ## Calls -/

section Calls
variable {p : Platform} {carriers : Option CarrierRegistry} {pods : StoredPods}
  {w : ReviewWorld} {E : ReviewError → ReviewWorld → Prop} {Z : ReviewWorld → Prop}

theorem ends_check {α : Type} {Q : α → ReviewWorld → Prop} {x : Except ReviewError α} (hQ : ∀ a, x = .ok a → Q a w)
    (hE : ∀ e, E e w) : Prog.EndsM (ReviewEffect p carriers pods) Q E Z (check x) w :=
  Prog.EndsM.ofExcept hQ fun e _ => hE e

/-- A call that reads one value and changes nothing. -/
theorem ends_read {α : Type} {Q : α → ReviewWorld → Prop} (op : ReviewOp) {x : ReviewM α}
    (g : op.Ans → Except ReviewError α) {v : α} (hx : x = ExceptT.mk (Prog.call op fun r => .ret (g r)))
    (hread : ∀ r w', ReviewEffect p carriers pods w op r w' → w' = w ∧ ∀ a, g r = .ok a → a = v) (hZ : Z w) (hQ : Q v w)
    (hE : ∀ e, E e w) : Prog.EndsM (ReviewEffect p carriers pods) Q E Z x w := by
  refine Prog.EndsM.call op g hx hZ ?_ ?_
  · intro r w' a heffect hr
    obtain ⟨rfl, hvalue⟩ := hread r w' heffect
    rw [hvalue a hr]
    exact hQ
  · intro r w' e heffect _
    obtain ⟨rfl, -⟩ := hread r w' heffect
    exact hE e

theorem ends_getRecord {Q : Option LifecycleRecord → ReviewWorld → Prop} {t : JsString} (hZ : Z w)
    (hQ : Q (if w.record.tenderId = t then some w.record else none) w) (hE : ∀ e, E e w) :
    Prog.EndsM (ReviewEffect p carriers pods) Q E Z (getRecord t) w := by
  refine ends_read (.getRecord t) id rfl ?_ hZ hQ hE
  intro r w' heffect
  cases heffect with
  | getRecord => exact ⟨rfl, fun a ha => (Except.ok.inj ha).symm⟩
  | getRecordFails => exact ⟨rfl, fun a ha => (by cases ha)⟩

theorem ends_getPod {Q : Option StoredPod → ReviewWorld → Prop} {t podId : JsString} {version podVersion : Int} (hZ : Z w)
    (hQ : Q (pods t version podId podVersion) w) (hE : ∀ e, E e w) :
    Prog.EndsM (ReviewEffect p carriers pods) Q E Z (getPod t version podId podVersion) w := by
  refine ends_read (.getPod t version podId podVersion) id rfl ?_ hZ hQ hE
  intro r w' heffect
  cases heffect with
  | getPod => exact ⟨rfl, fun a ha => (Except.ok.inj ha).symm⟩
  | getPodFails => exact ⟨rfl, fun a ha => (by cases ha)⟩

theorem ends_getByPod {Q : Option PodAdvisoryReport → ReviewWorld → Prop} {t podId : JsString} {podVersion : Int}
    (hZ : Z w) (hQ : Q (w.reports.getByPod t podId podVersion) w) (hE : ∀ e, E e w) :
    Prog.EndsM (ReviewEffect p carriers pods) Q E Z (getByPod t podId podVersion) w := by
  refine ends_read (.getByPod t podId podVersion) id rfl ?_ hZ hQ hE
  intro r w' heffect
  cases heffect with
  | getByPod => exact ⟨rfl, fun a ha => (Except.ok.inj ha).symm⟩
  | getByPodFails => exact ⟨rfl, fun a ha => (by cases ha)⟩

theorem ends_now {Q : JsString → ReviewWorld → Prop} (hZ : Z w) (hQ : ∀ time, Q time w) :
    Prog.EndsM (ReviewEffect p carriers pods) Q E Z now w := by
  refine Prog.EndsM.call .now id rfl hZ ?_ ?_
  · intro r w' a heffect hr
    cases heffect
    exact hQ a
  · intro r w' e heffect hr
    cases heffect
    cases hr

theorem ends_put {Q : Unit → ReviewWorld → Prop} {report : PodAdvisoryReport} (hZ : Z w)
    (hQ : ∀ reports, w.reports.put report = .ok reports → Q () { w with reports := reports }) (hE : ∀ e, E e w) :
    Prog.EndsM (ReviewEffect p carriers pods) Q E Z (putReport report) w := by
  refine Prog.EndsM.call (.put report) id rfl hZ ?_ ?_
  · intro r w' a heffect hr
    cases heffect with
    | put h => exact hQ _ h
    | putFails => cases hr
  · intro r w' e heffect hr
    cases heffect with
    | put => cases hr
    | putFails => exact hE e

/-- An event is applied, maybe without an answer, or replayed; otherwise the call throws. -/
theorem ends_applyEvent {Q : ApplyLifecycleResult → ReviewWorld → Prop} {t : JsString} {event : LifecycleEvent}
    (hZ : Z w) (hE : ∀ e, E e w)
    (happlied : ∀ next, Applies p carriers w.record event next →
      Q ⟨next, .applied⟩ { w with record := next } ∧ ∀ e, E e { w with record := next })
    (hreplayed : preparedEvent p carriers w.record event = .ok none → Q ⟨w.record, .replayed⟩ w) :
    Prog.EndsM (ReviewEffect p carriers pods) Q E Z (applyEvent t event) w := by
  refine Prog.EndsM.call (.apply t event) id rfl hZ ?_ ?_
  · intro r w' a heffect hr
    cases heffect with
    | apply hanswer =>
      cases hanswer with
      | applied h =>
        cases hr
        exact (happlied _ h).1
      | replayed h =>
        cases hr
        exact hreplayed h
      | refused => cases hr
      | unanswered => cases hr
    | applyFails => cases hr
  · intro r w' e heffect hr
    cases heffect with
    | apply hanswer =>
      cases hanswer with
      | applied => cases hr
      | replayed => cases hr
      | refused => exact hE e
      | unanswered h => exact (happlied _ h).2 e
    | applyFails => exact hE e

end Calls

/-! ## A start -/

section Start
variable {p : Platform} {ethers : Escrow.Ethers} {carriers : Option CarrierRegistry} {pods : StoredPods}
  {w : ReviewWorld}

/-- A journal that gets its first advisory of a POD has no other one of it. -/
theorem getByPod_of_put {reports reports' : AdvisoryReports} {report advisory : PodAdvisoryReport} {t podId : JsString}
    {podVersion : Int} (h : reports.put report = .ok reports') (hnone : reports.getByPod t podId podVersion = none)
    (hfound : reports'.getByPod t podId podVersion = some advisory) : advisory = report := by
  unfold AdvisoryReports.put at h
  split at h
  · split at h
    · cases h
    · cases h
      rw [hnone] at hfound
      cases hfound
  · cases h
    simp only [AdvisoryReports.getByPod, Function.update_apply] at hnone hfound
    split at hfound
    · cases hfound
    · next id hid =>
      split at hfound
      · cases hfound
      · next hne =>
        split at hfound
        · exact (Option.some.inj hfound).symm
        · next hother =>
          split at hid
          · exact absurd (Option.some.inj hid).symm hother
          · simp only [hid, hne, if_false] at hnone
            rw [hnone] at hfound
            cases hfound

/-- The advisory is that of the journal; a new one is then the only one of its POD. -/
theorem ends_advisoryOf {Q : PodAdvisoryReport → ReviewWorld → Prop} {E : ReviewError → ReviewWorld → Prop}
    {Z : ReviewWorld → Prop} {record : LifecycleRecord} {podId eventTime : JsString} {podVersion : Int}
    {stored : StoredPod} (hZ : Z w) (hE : ∀ e, E e w)
    (hfound : ∀ advisory, w.reports.getByPod record.tenderId podId podVersion = some advisory → Q advisory w)
    (hnew : ∀ advisory reports, w.reports.getByPod record.tenderId podId podVersion = none →
      (∀ found, reports.getByPod record.tenderId podId podVersion = some found → found = advisory) →
        Q advisory { w with reports := reports }) :
    Prog.EndsM (ReviewEffect p carriers pods) Q E Z (advisoryOf p ethers record podId podVersion stored eventTime) w := by
  refine Prog.EndsM.bind (ends_getByPod hZ ?_ hE)
  cases hread : w.reports.getByPod record.tenderId podId podVersion with
  | some advisory => exact Prog.EndsM.pure (hfound advisory hread)
  | none =>
    refine Prog.EndsM.bind (ends_check ?_ hE)
    intro key _
    refine Prog.EndsM.bind (ends_put hZ ?_ hE)
    intro reports hput
    exact Prog.EndsM.pure (hnew _ reports hread fun found hfound => getByPod_of_put hput hread hfound)

/-- The two commits of a start with an action id of its own. -/
theorem ends_commitStart {t actionId eventTime reportHash : JsString} (hstate : w.record.state ≠ .podUnderReview)
    (hfresh : ¬ NamesStart p w.record actionId)
    (htime : ∀ prior, w.record.processedActions.read actionId = .value prior → eventTime = prior.at_)
    (hjournal : ∀ advisory ∈ journalAdvisory w, advisory.reportHash = reportHash) :
    Prog.EndsM (ReviewEffect p carriers pods)
      (fun _ w' => w'.record.state = .podUnderReview ∧ ¬ JustStarted w'.record ∧ Anchors w' reportHash)
      (fun _ => AnchoredReview) AnchoredReview (commitStart t actionId eventTime reportHash) w := by
  have hinv : AnchoredReview w := fun hreview => absurd hreview hstate
  refine Prog.EndsM.bind (ends_applyEvent hinv (fun _ => hinv) ?_ ?_)
  · intro r1 hfirst
    obtain ⟨hreview, hpod, action, hindex⟩ := reviewStarted_of_applies hfirst
    have hhalf : AnchoredReview { w with record := r1 } := fun _ hnot =>
      absurd ((justStarted_of_applies hfirst).mpr rfl) hnot
    refine ⟨?_, fun _ => hhalf⟩
    refine Prog.EndsM.bind (ends_applyEvent hhalf (fun _ => hhalf) ?_ ?_)
    · intro r2 hsecond
      obtain ⟨hkept, hpod2, hhash⟩ := advisoryAnchored_of_applies hsecond
      have hnot : ¬ JustStarted r2 := fun h => (by cases (justStarted_of_applies hsecond).mp h)
      have hsame : journalAdvisory { w with record := r2 } = journalAdvisory w :=
        journalAdvisory_of_podOf (hpod2.trans hpod) rfl
      have hanchors : Anchors { w with record := r2 } reportHash := ⟨hhash, hsame ▸ hjournal⟩
      exact ⟨Prog.EndsM.pure ⟨hkept.trans hreview, hnot, hanchors⟩, fun _ _ _ => ⟨reportHash, hanchors⟩⟩
    · intro hreplay
      obtain ⟨prior, hread, hhash⟩ := preparedEvent_eq_none.mp hreplay
      have hread' : w.record.processedActions.read (advisoryActionId actionId) = .value prior := by
        rw [PlainObject.read_eq_value] at hread ⊢
        rw [hindex] at hread
        exact (AList.lookup_insert_ne (advisoryActionId_ne actionId)).symm.trans hread
      exact absurd (.inr ⟨prior, eventTime, reportHash, hread', hhash⟩) hfresh
  · intro hreplay
    obtain ⟨prior, hread, hhash⟩ := preparedEvent_eq_none.mp hreplay
    have hat := htime prior hread
    exact absurd (.inl ⟨prior, hread, hat ▸ hhash⟩) hfresh

/-- A result is about the record as it is. -/
theorem ends_startedResult {Q : PodReviewStartResult → ReviewWorld → Prop} {E : ReviewError → ReviewWorld → Prop}
    {Z : ReviewWorld → Prop} {t : JsString} {advisory : PodAdvisoryReport} (hZ : Z w) (hE : ∀ e, E e w)
    (hQ : ∀ envelope, Q ⟨w.record, advisory, envelope⟩ w) :
    Prog.EndsM (ReviewEffect p carriers pods) Q E Z (startedResult p t advisory) w := by
  refine Prog.EndsM.bind (ends_getRecord hZ ?_ hE)
  by_cases ht : w.record.tenderId = t
  · rw [if_pos ht]
    refine Prog.EndsM.bind (ends_check ?_ hE)
    intro envelope _
    exact Prog.EndsM.pure (hQ envelope)
  · rw [if_neg ht]
    exact ends_check (fun _ h => (by cases h)) hE

/-- The time of a start is that of the action, if it is in the index. -/
theorem ends_reviewTime {Q : JsString → ReviewWorld → Prop} {E : ReviewError → ReviewWorld → Prop}
    {Z : ReviewWorld → Prop} {priorReview : Property ProcessedActionRecord} {eventTime : Option JsString} (hZ : Z w)
    (hQ : ∀ time, (∀ prior, priorReview = .value prior → time = prior.at_) → Q time w) :
    Prog.EndsM (ReviewEffect p carriers pods) Q E Z (reviewTime priorReview eventTime) w := by
  unfold reviewTime
  split
  · refine Prog.EndsM.pure (hQ _ ?_)
    rintro _ ⟨⟩
    rfl
  · next hnone => exact Prog.EndsM.pure (hQ _ fun prior hprior => absurd hprior (hnone prior))
  · next hnone => exact ends_now hZ fun time => hQ _ fun prior hprior => absurd hprior (hnone prior)

/-- What a start that returns promises. -/
def Promised (result : PodReviewStartResult) (w : ReviewWorld) : Prop :=
  w.record = result.record ∧ result.record.state = .podUnderReview ∧
    result.record.advisoryReportHash = some result.advisory.reportHash

/-- The end of a start: the two commits, unless it is a replay, and the result. -/
theorem ends_finish {t actionId eventTime : JsString} {advisory : PodAdvisoryReport} (hinv : AnchoredReview w)
    (h : Unhindered p w actionId) (hallowed : isReplaying w.record actionId ∨ w.record.state ≠ .podUnderReview)
    (htime : ∀ prior, w.record.processedActions.read actionId = .value prior → eventTime = prior.at_)
    (hjournal : ∀ found ∈ journalAdvisory w, found.reportHash = advisory.reportHash) :
    Prog.EndsM (ReviewEffect p carriers pods) (fun result w' => Promised result w' ∧ AnchoredReview w')
      (fun _ => AnchoredReview) AnchoredReview
      (do
        if isReplaying w.record actionId then pure ()
        else commitStart t actionId eventTime advisory.reportHash
        startedResult p t advisory) w := by
  by_cases hreplay : isReplaying w.record actionId = true
  · have hreview : w.record.state = .podUnderReview := of_decide_eq_true (Bool.and_eq_true_iff.mp hreplay).2
    obtain ⟨hnot, held, hheld⟩ := h.replay hreplay
    obtain ⟨reportHash, hhash, honly⟩ := hinv hreview hnot
    have hsame : reportHash = advisory.reportHash := (honly held hheld).symm.trans (hjournal held hheld)
    rw [if_pos hreplay]
    refine ends_startedResult hinv (fun _ => hinv) ?_
    intro envelope
    exact ⟨⟨rfl, hreview, hhash.trans (congrArg some hsame)⟩, hinv⟩
  · have hstate := hallowed.resolve_left hreplay
    rw [if_neg hreplay]
    refine Prog.EndsM.bind ((ends_commitStart hstate (h.fresh hstate) htime hjournal).mono ?_)
    rintro (e | _) w' hcommitted
    · exact hcommitted
    · obtain ⟨hreview, hnot, hanchors⟩ := hcommitted
      have hinv' : AnchoredReview w' := fun _ _ => ⟨advisory.reportHash, hanchors⟩
      refine ends_startedResult hinv' (fun _ => hinv') ?_
      intro envelope
      exact ⟨⟨rfl, hreview, hanchors.1⟩, hinv'⟩

/-- **An unhindered start.** It keeps the invariant wherever it ends, and keeps its promise when it returns. -/
theorem startReview_ends {input : StartReviewInput} (hinv : AnchoredReview w) (h : Unhindered p w input.actionId) :
    Prog.EndsM (ReviewEffect p carriers pods) (fun result w' => Promised result w' ∧ AnchoredReview w')
      (fun _ => AnchoredReview) AnchoredReview (startReview p ethers input) w := by
  have hE : ∀ _ : ReviewError, AnchoredReview w := fun _ => hinv
  refine Prog.EndsM.bind (Prog.EndsM.bind (ends_getRecord hinv ?_ hE))
  by_cases ht : w.record.tenderId = input.tenderId
  · rw [if_pos ht]
    refine Prog.EndsM.bind (ends_check ?_ hE)
    intro _ _
    refine Prog.EndsM.pure (Prog.EndsM.bind (ends_check ?_ hE))
    intro _ hallowed
    have hallowed : isReplaying w.record input.actionId ∨ w.record.state ≠ .podUnderReview := by
      rcases require_eq_ok.mp hallowed with hreplay | hs | hs
      · exact .inl hreplay
      · exact .inr fun hreview => (by cases hs.symm.trans hreview)
      · exact .inr fun hreview => (by cases hs.symm.trans hreview)
    refine Prog.EndsM.bind (ends_check ?_ hE)
    rintro ⟨podId, podVersion⟩ hbound
    have hjournal (reports : AdvisoryReports) : journalAdvisory ⟨w.record, reports⟩ =
        reports.getByPod w.record.tenderId podId podVersion := by
      simp only [journalAdvisory, hbound]
    refine Prog.EndsM.bind (ends_getPod hinv ?_ hE)
    cases pods w.record.tenderId w.record.tenderVersion podId podVersion with
    | none => exact ends_check (fun _ h => (by cases h)) hE
    | some stored =>
      refine Prog.EndsM.bind (ends_reviewTime hinv ?_)
      intro eventTime htime
      refine Prog.EndsM.bind (ends_advisoryOf hinv hE ?_ ?_)
      · intro advisory hfound
        have hheld : journalAdvisory w = some advisory := (hjournal w.reports).trans hfound
        refine ends_finish hinv h hallowed htime ?_
        intro found hmem
        rw [Option.some.inj (hheld.symm.trans hmem)]
      · intro advisory reports hnone honly
        -- A replay has an advisory in the journal, so the review is not under way.
        have hnew : ¬ isReplaying w.record input.actionId := by
          intro hreplay
          obtain ⟨-, held, hheld⟩ := h.replay hreplay
          cases (hjournal w.reports).symm.trans hheld |>.symm.trans hnone
        have hstate := hallowed.resolve_left hnew
        refine ends_finish (w := ⟨w.record, reports⟩) (fun hreview => absurd hreview hstate)
          ⟨fun hreplay => absurd hreplay hnew, h.fresh⟩ hallowed htime ?_
        intro found hmem
        rw [honly found ((hjournal reports).symm.trans hmem)]
  · rw [if_neg ht]
    exact ends_check (fun _ h => (by cases h)) hE

end Start

/-! ## Runs -/

section Runs
variable {p : Platform} {ethers : Escrow.Ethers} {carriers : Option CarrierRegistry} {pods : StoredPods}
  {w w' : ReviewWorld}

theorem startReview_step {input : StartReviewInput} {ended : Option (Except ReviewError PodReviewStartResult)}
    (hinv : AnchoredReview w) (h : Unhindered p w input.actionId)
    (hstep : ReviewStep p ethers carriers pods w (.startReview input ended) w') :
    AnchoredReview w' ∧ ∀ result, ended = some (.ok result) → Promised result w' := by
  cases hstep with
  | startReview hruns =>
    obtain ⟨hreturned, hstopped⟩ := (startReview_ends hinv h).of_runs hruns
    rcases ended with _ | e | result
    · exact ⟨hstopped rfl, fun _ h => (by cases h)⟩
    · exact ⟨hreturned _ rfl, fun _ h => (by cases h)⟩
    · obtain ⟨hpromised, hinv'⟩ := hreturned _ rfl
      refine ⟨hinv', ?_⟩
      rintro _ ⟨⟩
      exact hpromised

theorem anchoredReview_of_run {ls : List ReviewLabel}
    (hrun : ((reviewSystem p ethers carriers pods).restrict (StartsUnhindered p)).Run ls w) : AnchoredReview w := by
  refine System.Run.induction (S := (reviewSystem p ethers carriers pods).restrict (StartsUnhindered p))
    (I := fun _ w => AnchoredReview w) ?_ ?_ hrun
  · rintro w ⟨⟨⟨input, hcreate⟩, -⟩, -⟩ hreview
    simp only [createLifecycleRecord, bind_eq_ok, require_eq_ok, exists_const, pure_eq_ok] at hcreate
    obtain ⟨-, hrecord⟩ := hcreate
    rw [← hrecord] at hreview
    cases hreview
  · rintro _ w l w' _ hinv ⟨hstep, hunhindered⟩
    cases l with
    | event event =>
      cases hstep with
      | event hother happlies => exact fun hreview => absurd hreview (not_underReview_of_applies hother happlies)
    | restarted =>
      cases hstep
      intro hreview hnot
      obtain ⟨reportHash, hhash, -⟩ := hinv hreview hnot
      refine ⟨reportHash, hhash, ?_⟩
      intro advisory hheld
      unfold journalAdvisory at hheld
      split at hheld <;> cases hheld
    | startReview input ended => exact (startReview_step hinv hunhindered hstep).1

/-- **A start leaves its advisory anchored.** In every run whose starts are unhindered, a start that returns leaves the
review under way and the hash of the advisory it returns on the record. -/
theorem advisory_anchored {ls : List ReviewLabel} {input : StartReviewInput} {result : PodReviewStartResult}
    (hrun : ((reviewSystem p ethers carriers pods).restrict (StartsUnhindered p)).Run ls w)
    (hstep : ((reviewSystem p ethers carriers pods).restrict (StartsUnhindered p)).step w
      (.startReview input (some (.ok result))) w') :
    w'.record = result.record ∧ result.record.state = .podUnderReview ∧
      result.record.advisoryReportHash = some result.advisory.reportHash :=
  (startReview_step (anchoredReview_of_run hrun) hstep.2 hstep.1).2 result rfl

/-- The events of a tender before its first review. -/
theorem run_of_events {es : List LifecycleEvent} {r : LifecycleRecord} (hrun : (applySystem p carriers).Run es r)
    (hother : ∀ event ∈ es, ¬ OfReviewStart event) :
    ((reviewSystem p ethers carriers pods).restrict (StartsUnhindered p)).Run (es.map .event) ⟨r, .empty⟩ := by
  refine System.Run.induction (S := applySystem p carriers) (I := fun es r => (∀ event ∈ es, ¬ OfReviewStart event) →
    ((reviewSystem p ethers carriers pods).restrict (StartsUnhindered p)).Run (es.map .event) ⟨r, .empty⟩) ?_ ?_ hrun hother
  · intro r hinit _
    exact .start ⟨hinit, rfl⟩
  · intro es r event next _ ih happlies hother
    rw [List.map_append, List.map_singleton]
    have hstep : ReviewStep p ethers carriers pods ⟨r, .empty⟩ (.event event) ⟨next, .empty⟩ :=
      .event (hother event (by simp)) happlies
    exact (ih fun e he => hother e (List.mem_append_left _ he)).snoc ⟨hstep, trivial⟩

end Runs

/-! ## Starts that return or stop -/

section Returned
variable {p : Platform} {ethers : Escrow.Ethers} {carriers : Option CarrierRegistry} {pods : StoredPods}
  {w : ReviewWorld} {r next : LifecycleRecord} {input : StartReviewInput} {podId eventTime : JsString}
  {podVersion : Int} {stored : StoredPod} {advisory : PodAdvisoryReport}

/-- The advisory of a POD that has none yet, and the journal with it. -/
theorem put_new {reports : AdvisoryReports} (h : reports.byId advisory.reportId = none) (hid : advisory.reportId ≠ []) :
    ∃ reports', reports.put advisory = .ok reports' ∧
      reports'.getByPod advisory.tenderId advisory.podId advisory.podVersion = some advisory := by
  refine ⟨_, by rw [AdvisoryReports.put, h], ?_⟩
  simp only [AdvisoryReports.getByPod, Function.update_self, hid, if_false]

theorem runs_getRecord {t : JsString} (ht : w.record.tenderId = t) :
    (getRecord t).run.Runs (ReviewEffect p carriers pods) w (some (.ok (some w.record))) w := by
  have heffect : ReviewEffect p carriers pods w (.getRecord t)
      (.ok (if w.record.tenderId = t then some w.record else none)) w := .getRecord t
  rw [if_pos ht] at heffect
  exact .call heffect (.ret _ _)

variable (pods) in
theorem runs_applyEvent {t : JsString} {event : LifecycleEvent} (ht : w.record.tenderId = t)
    (h : Applies p carriers w.record event next) :
    (applyEvent t event).run.Runs (ReviewEffect p carriers pods) w (some (.ok ⟨next, .applied⟩))
      { w with record := next } := by
  subst ht
  exact .call (.apply (.applied h)) (.ret _ _)

theorem runs_check {α : Type} {x : Except ReviewError α} {a : α} (hx : x = .ok a) :
    (check x).run.Runs (ReviewEffect p carriers pods) w (some (.ok a)) w := by
  subst hx
  exact .ret _ _

/-- The way to the two commits. -/
theorem startReview_runs {w1 w' : ReviewWorld} {o : Option (Except ReviewError PodReviewStartResult)}
    (hinput : w.record.tenderId = input.tenderId ∧ w.record.tenderVersion = input.tenderVersion)
    (hallowed : isReplaying w.record input.actionId ∨ w.record.state = .podSubmitted ∨ w.record.state = .podResubmitted)
    (hbound : boundPod w.record = .ok (podId, podVersion))
    (hstored : pods w.record.tenderId w.record.tenderVersion podId podVersion = some stored)
    (htime : (reviewTime (w.record.processedActions.read input.actionId) input.eventTime).run.Runs
      (ReviewEffect p carriers pods) w (some (.ok eventTime)) w)
    (hadvisory : (advisoryOf p ethers w.record podId podVersion stored eventTime).run.Runs
      (ReviewEffect p carriers pods) w (some (.ok advisory)) w1)
    (hfinish : (do
        if isReplaying w.record input.actionId then pure ()
        else commitStart input.tenderId input.actionId eventTime advisory.reportHash
        startedResult p input.tenderId advisory : ReviewM PodReviewStartResult).run.Runs
      (ReviewEffect p carriers pods) w1 o w') :
    (startReview p ethers input).run.Runs (ReviewEffect p carriers pods) w o w' := by
  have hrecord : (requireRecord input.tenderId input.tenderVersion).run.Runs (ReviewEffect p carriers pods) w
      (some (.ok w.record)) w := by
    refine (runs_getRecord hinput.1).bindM ?_
    exact (runs_check (a := ()) (require_eq_ok.mpr hinput.2)).bindM (.ret _ _)
  refine hrecord.bindM ((runs_check (a := ()) (require_eq_ok.mpr hallowed)).bindM ((runs_check hbound).bindM ?_))
  have hpod : ReviewEffect p carriers pods w (.getPod w.record.tenderId w.record.tenderVersion podId podVersion)
      (.ok (some stored)) w := hstored ▸ .getPod ..
  refine Prog.Runs.bindM (a := some stored) (.call hpod (.ret _ _)) ?_
  exact htime.bindM (hadvisory.bindM hfinish)

variable (carriers pods eventTime) in
/-- The advisory of a POD that is reviewed for the first time. -/
theorem runs_advisoryOf {key : JsString} (hempty : w.reports = .empty) (hkey : tenderKeyOf ethers w.record = .ok key)
    (hpod : stored.fields.tenderId = w.record.tenderId ∧ stored.fields.podId = podId ∧
      stored.fields.podVersion = podVersion) :
    ∃ advisory reports,
      (advisoryOf p ethers w.record podId podVersion stored eventTime).run.Runs (ReviewEffect p carriers pods) w
        (some (.ok advisory)) { w with reports := reports } ∧
      reports.getByPod w.record.tenderId podId podVersion = some advisory ∧
      ∃ value, advisory.reportHash = canonicalSha256 p.sha256Hex value := by
  obtain ⟨htender, rfl, rfl⟩ := hpod
  let input := adviserInput p w.record stored.fields.podId stored.fields.podVersion stored eventTime key
  have hid : (advise p input).reportId ≠ [] := List.append_ne_nil_of_left_ne_nil (by decide) _
  obtain ⟨reports, hput, hfound⟩ := put_new (show AdvisoryReports.empty.byId _ = none from rfl) hid
  have hheld : reports.getByPod w.record.tenderId stored.fields.podId stored.fields.podVersion = some (advise p input) := by
    rw [← htender]
    exact hfound
  refine ⟨advise p input, reports, ?_, hheld, _, rfl⟩
  have hnone : ReviewEffect p carriers pods w
      (.getByPod w.record.tenderId stored.fields.podId stored.fields.podVersion)
      (.ok (w.reports.getByPod w.record.tenderId stored.fields.podId stored.fields.podVersion)) w := .getByPod ..
  rw [hempty] at hnone
  refine Prog.Runs.bindM (a := none) (.call hnone (.ret _ _)) ((runs_check hkey).bindM ?_)
  exact Prog.Runs.bindM (a := ()) (.call (.put (hempty ▸ hput)) (.ret _ _)) (.ret _ _)

/-- The anchoring of an advisory on a record that takes it. -/
theorem anchored_applies {es : List LifecycleEvent} {actionId reportHash : JsString} (hp : p.HexDigest)
    (hrun : (applySystem p carriers).Run es r) (hopen : r.state ≠ .tenderCompleted)
    (hlen : r.history.length < MAX_HISTORY) (htime : isUtcIsoTimestamp eventTime ∧ NotAfter r.updatedAt eventTime)
    (hid : Text 128 (advisoryActionId actionId) ∧ r.processedActions.read (advisoryActionId actionId) = .undefined)
    (hhash : isSha256 reportHash) :
    ∃ next, Applies p carriers r (advisoryAnchored actionId eventTime reportHash) next := by
  obtain ⟨hlookup, hplain⟩ := PlainObject.read_eq_undefined.mp hid.2
  have hreduce : reduceLifecycle p r (advisoryAnchored actionId eventTime reportHash) ⟨none⟩ = .ok
      { r with
        advisoryReportHash := some reportHash
        toProgress := r.toProgress.advance p r.state (advisoryAnchored actionId eventTime reportHash)
          (some (js "NON_BINDING_ADVISORY_HASH_ONLY")) } := by
    simp only [reduceLifecycle, requireUtc, bind_eq_ok, require_eq_ok, exists_const, requireBeforeOrEqual_eq_ok]
    refine ⟨htime.1, htime.2, ?_⟩
    show reducePodAdvisoryAnchored p r _ ⟨reportHash, js "NON_BINDING_ADVISORY"⟩ = _
    rw [reducePodAdvisoryAnchored, require, if_pos rfl, require, if_pos hopen]
    rfl
  have hformat : EventFormat (advisoryAnchored actionId eventTime reportHash) := ⟨hid.1, htime.1, hhash⟩
  have hpersistable : Persistable r (advisoryAnchored actionId eventTime reportHash) := by
    refine ⟨?_, ?_, fun h => (by cases h), ?_, fun _ h => (by cases h)⟩
    · exact fun h => absurd (AList.mem_keys.mp h) (AList.lookup_eq_none.mp hlookup)
    · intro h
      have hname : advisoryActionId actionId = protoName := h
      rw [hname] at hplain
      exact hplain (by decide)
    · intro window hwindow
      simp only [deadlineWindow] at hwindow
      cases hwindow
  have haccepted := (accepted_iff_persistable hp (applySystem_accepted hrun) (bookkeeping_of_applies hrun) hformat hlen
    hreduce).mpr hpersistable
  exact ⟨_, preparedEvent_eq_some.mpr ⟨hid.2, none, rfl, hreduce⟩, haccepted⟩

variable (carriers pods) in
/-- The result of a start on a record whose identifiers are public. -/
theorem runs_startedResult {t : JsString} (hp : p.HexDigest) (ht : w.record.tenderId = t) (h : Accepted p t w.record)
    (hpod : w.record.podId = some podId) (hpublic : isPublicId w.record.tenderId ∧ isPublicId podId)
    (hhash : isSha256 advisory.reportHash) :
    ∃ envelope, (startedResult p t advisory).run.Runs (ReviewEffect p carriers pods) w
      (some (.ok ⟨w.record, advisory, envelope⟩)) w := by
  obtain ⟨envelope, hbuilt⟩ := (buildPodAdvisoryAnchored_iff hp h hpod hhash).mpr hpublic
  refine ⟨envelope, (runs_getRecord ht).bindM ((runs_check ?_).bindM (.ret _ _))⟩
  rw [hbuilt]
  rfl

end Returned

/-! ## The first review of a tender -/

namespace FirstReview
open Lifecycle.Sample

def stored : StoredPod where
  fields :=
    { podId := js "pod-1", podVersion := 1, tenderId := js "T-1", tenderVersion := 1, winningBidId := js "bid-1",
      escrowTenderKey := js "k", carrierId := js "carrier-1", carrierAccountId := js "0.0.6001",
      deliveryTimestamp := js "2026-01-04T00:00:00Z", recipientConfirmationPresent := true,
      cargoConditionCode := js "GOOD", exceptionCodes := [], submittedAt := js "2026-01-04T01:00:00Z", actionId := js "a10" }
  publicManifest := ⟨[], 0, 0⟩
  plaintextPackageHash := manifest

/-- The package of the first version, and no other. -/
def pods (tenderId : JsString) (tenderVersion : Int) (podId : JsString) (podVersion : Int) : Option StoredPod :=
  if tenderId = js "T-1" ∧ tenderVersion = 1 ∧ podId = js "pod-1" ∧ podVersion = 1 then some stored else none

def start : StartReviewInput := ⟨js "T-1", 1, js "a11", some (js "2026-01-04T02:00:00Z")⟩

/-- What the start reads of the record that awaits its first review. -/
structure Submitted (r : LifecycleRecord) : Prop where
  tender : r.tenderId = js "T-1" ∧ r.tenderVersion = 1
  pod : r.podId = some (js "pod-1") ∧ r.podVersion = some 1
  state : r.state = .podSubmitted
  unnamed : r.processedActions.read (js "a11") = .undefined ∧ r.processedActions.read (js "a11:advisory") = .undefined

/-- What the first commit leaves. -/
structure Started (r : LifecycleRecord) : Prop where
  open_ : r.state = .podUnderReview ∧ r.history.length < MAX_HISTORY
  updated : r.updatedAt = js "2026-01-04T02:00:00Z"
  named : ∃ prior, r.processedActions.read (js "a11") = .value prior
  unanchored : r.processedActions.read (js "a11:advisory") = .undefined ∧ r.advisoryReportHash = none

def started : LifecycleEvent := reviewStarted (js "a11") (js "2026-01-04T02:00:00Z")

/-- What is computed of the two records. -/
def startCheck (r r1 : LifecycleRecord) : Prop :=
  ((r.tenderId = js "T-1" ∧ r.tenderVersion = 1) ∧ (r.podId = some (js "pod-1") ∧ r.podVersion = some 1) ∧
      r.state = .podSubmitted ∧
      r.processedActions.read (js "a11") = .undefined ∧ r.processedActions.read (js "a11:advisory") = .undefined) ∧
    (r1.state = .podUnderReview ∧ r1.history.length < MAX_HISTORY) ∧ r1.updatedAt = js "2026-01-04T02:00:00Z" ∧
    r1.processedActions.read (js "a11") ≠ .undefined ∧ r1.processedActions.read (js "a11") ≠ .inherited ∧
    r1.processedActions.read (js "a11:advisory") = .undefined ∧ r1.advisoryReportHash = none

instance (r r1 : LifecycleRecord) : Decidable (startCheck r r1) := inferInstanceAs (Decidable (_ ∧ _))

theorem firstCommit :
    ∃ r r1, (applySystem platform none).Run (events.take 10) r ∧ Applies platform none r started r1 ∧ Submitted r ∧
      Started r1 := by
  have h : ∃ r ∈ checkedRun platform none input (events.take 10), ∃ r1 ∈ checkedStep platform none r started,
      startCheck r r1 := by
    decide
  obtain ⟨r, hr, r1, hr1, ⟨htender, hpod, hstate, hunnamed⟩, hopen, hupdated, hdefined, hown, hunanchored⟩ := h
  have hp : platform.HexDigest := hexDigest_asciiPlatform _
  have hrun := run_of_checked hp Store.Sample.inputFormat hr
  have hnamed : ∃ prior, r1.processedActions.read (js "a11") = .value prior := by
    cases hread : r1.processedActions.read (js "a11") with
    | value prior => exact ⟨prior, rfl⟩
    | inherited => exact absurd hread hown
    | undefined => exact absurd hread hdefined
  exact ⟨r, r1, hrun, applies_of_checked hp hrun hr1, ⟨htender, hpod, hstate, hunnamed⟩,
    ⟨hopen, hupdated, hnamed, hunanchored⟩⟩

/-- The system of the tender and its package. -/
abbrev system : System ReviewWorld ReviewLabel := reviewSystem platform Escrow.asciiEthers none pods

/-- The runs of the start's two commits are runs of the start. -/
theorem start_runs {r : LifecycleRecord} (hr : Submitted r) :
    ∃ advisory reports, reports.getByPod (js "T-1") (js "pod-1") 1 = some advisory ∧ isSha256 advisory.reportHash ∧
      ∀ o w', (do
          commitStart (js "T-1") (js "a11") (js "2026-01-04T02:00:00Z") advisory.reportHash
          startedResult platform (js "T-1") advisory : ReviewM PodReviewStartResult).run.Runs
            (ReviewEffect platform none pods) ⟨r, reports⟩ o w' →
        (startReview platform Escrow.asciiEthers start).run.Runs (ReviewEffect platform none pods) ⟨r, .empty⟩ o w' := by
  obtain ⟨⟨htender, hversion⟩, ⟨hpodId, hpodVersion⟩, hstate, hunnamed, -⟩ := hr
  have hkey : ∃ key, tenderKeyOf Escrow.asciiEthers r = .ok key := by
    rw [tenderKeyOf, htender, hversion]
    have hid : Escrow.Identified Escrow.asciiEthers (js "T-1") 1
        (Escrow.asciiEthers.keccak256 ((js "T-1").map UInt16.toNat)) := ⟨by decide, ⟨_, by decide, rfl⟩, by decide⟩
    exact ⟨_, mapError_eq_ok.mpr hid.tenderKey⟩
  obtain ⟨key, hkey⟩ := hkey
  have hbound : boundPod r = .ok (js "pod-1", 1) := by
    rw [boundPod, hpodId, hpodVersion]
    rfl
  obtain ⟨advisory, reports, hruns, hheld, value, hhash⟩ := runs_advisoryOf (p := platform) (w := ⟨r, .empty⟩) none pods
    (js "2026-01-04T02:00:00Z") rfl hkey (show _ ∧ stored.fields.podId = _ ∧ stored.fields.podVersion = _ from
      ⟨htender.symm, rfl, rfl⟩)
  refine ⟨advisory, reports, htender ▸ hheld, hhash ▸ isSha256_canonicalSha256 (hexDigest_asciiPlatform _) _, ?_⟩
  intro o w' hfinish
  have hnot : ¬ isReplaying (ReviewWorld.mk r .empty).record start.actionId = true := by
    simp [isReplaying, hstate]
  refine startReview_runs ⟨htender, hversion⟩ (.inr (.inl hstate)) hbound ?_ ?_ hruns ?_
  · rw [htender, hversion]
    exact if_pos ⟨rfl, rfl, rfl, rfl⟩
  · show (reviewTime (r.processedActions.read (js "a11")) _).run.Runs _ _ _ _
    rw [hunnamed]
    exact .ret _ _
  · rw [if_neg hnot]
    exact hfinish

/-- A start that stops after its first commit. -/
theorem start_stops {r r1 : LifecycleRecord} (hr : Submitted r) (hfirst : Applies platform none r started r1) :
    ∃ advisory reports, reports.getByPod (js "T-1") (js "pod-1") 1 = some advisory ∧ isSha256 advisory.reportHash ∧
      system.step ⟨r, .empty⟩ (.startReview start none) ⟨r1, reports⟩ := by
  obtain ⟨advisory, reports, hheld, hhash, hruns⟩ := start_runs hr
  refine ⟨advisory, reports, hheld, hhash, .startReview (hruns _ _ ?_)⟩
  have hcommit := runs_applyEvent pods (w := ⟨r, reports⟩) hr.tender.1 hfirst
  exact Prog.Runs.bindM_stopped (hcommit.bindM (Prog.Runs.bindM_stopped .stopped))

/-- The fields that the first commit keeps. -/
theorem tender_of_started {r r1 : LifecycleRecord} (hr : Submitted r) (hfirst : Applies platform none r started r1) :
    (r1.tenderId = js "T-1" ∧ r1.tenderVersion = 1) ∧ r1.podId = some (js "pod-1") ∧ r1.podVersion = some 1 := by
  obtain ⟨-, hpod, -⟩ := reviewStarted_of_applies hfirst
  simp only [podOf, Prod.mk.injEq, hr.tender.1, hr.tender.2, hr.pod.1, hr.pod.2] at hpod
  exact ⟨⟨hpod.1, hpod.2.1⟩, hpod.2.2⟩

/-- A start that makes both commits and returns. -/
theorem start_returns {r r1 : LifecycleRecord} (hrun : (applySystem platform none).Run (events.take 10) r)
    (hr : Submitted r) (hfirst : Applies platform none r started r1) (hr1 : Started r1) :
    ∃ w result, system.step ⟨r, .empty⟩ (.startReview start (some (.ok result))) w := by
  obtain ⟨advisory, reports, -, hhash, hruns⟩ := start_runs hr
  obtain ⟨⟨htender, -⟩, hpodId, -⟩ := tender_of_started hr hfirst
  have hp : platform.HexDigest := hexDigest_asciiPlatform _
  have hrun1 := hrun.snoc hfirst
  have htime : NotAfter r1.updatedAt (js "2026-01-04T02:00:00Z") := by
    rw [hr1.updated]
    obtain ⟨x, hx⟩ := isUtcIsoTimestamp_iff.mp (show isUtcIsoTimestamp (js "2026-01-04T02:00:00Z") = true by decide)
    exact ⟨x, x, hx, hx, le_refl x⟩
  have hid : Text 128 (advisoryActionId (js "a11")) ∧
      r1.processedActions.read (advisoryActionId (js "a11")) = .undefined := ⟨by decide, hr1.unanchored.1⟩
  obtain ⟨r2, hsecond⟩ := anchored_applies hp hrun1 (by rw [hr1.open_.1]; decide) hr1.open_.2
    ⟨by decide, htime⟩ hid hhash
  obtain ⟨-, hpod2, -⟩ := advisoryAnchored_of_applies hsecond
  simp only [podOf, Prod.mk.injEq, htender, hpodId] at hpod2
  have haccepted : Accepted platform (js "T-1") r2 := hpod2.1 ▸ applySystem_accepted (hrun1.snoc hsecond)
  obtain ⟨envelope, hresult⟩ := runs_startedResult none pods (w := ⟨r2, reports⟩) hp hpod2.1
    haccepted hpod2.2.2.1 (by rw [hpod2.1]; decide) hhash
  have hcommit1 := runs_applyEvent pods (w := ⟨r, reports⟩) hr.tender.1 hfirst
  have hcommit2 := runs_applyEvent pods (w := ⟨r1, reports⟩) htender hsecond
  exact ⟨_, _, .startReview (hruns _ _ ((hcommit1.bindM (hcommit2.bindM (.ret _ _))).bindM hresult))⟩

/-- The replay of a start that stopped. -/
theorem start_replayed {r1 : LifecycleRecord} {advisory : PodAdvisoryReport} {reports : AdvisoryReports}
    (haccepted : Accepted platform (js "T-1") r1) (hr1 : Started r1)
    (htender : (r1.tenderId = js "T-1" ∧ r1.tenderVersion = 1) ∧ r1.podId = some (js "pod-1") ∧ r1.podVersion = some 1)
    (hheld : reports.getByPod (js "T-1") (js "pod-1") 1 = some advisory) (hhash : isSha256 advisory.reportHash) :
    ∃ envelope, system.step ⟨r1, reports⟩ (.startReview start (some (.ok ⟨r1, advisory, envelope⟩))) ⟨r1, reports⟩ := by
  obtain ⟨⟨htender, hversion⟩, hpodId, hpodVersion⟩ := htender
  obtain ⟨prior, hprior⟩ := hr1.named
  obtain ⟨envelope, hresult⟩ := runs_startedResult none pods (w := ⟨r1, reports⟩)
    (hexDigest_asciiPlatform _) htender haccepted hpodId (by rw [htender]; decide) hhash
  have hreplay : isReplaying (ReviewWorld.mk r1 reports).record start.actionId = true := by
    have hread : r1.processedActions.read start.actionId = .value prior := hprior
    simp [isReplaying, isProcessed, hread, hr1.open_.1]
  have hbound : boundPod r1 = .ok (js "pod-1", 1) := by
    rw [boundPod, hpodId, hpodVersion]
    rfl
  have hget : ReviewEffect platform none pods ⟨r1, reports⟩ (.getByPod r1.tenderId (js "pod-1") 1)
      (.ok (some advisory)) ⟨r1, reports⟩ := by
    rw [htender, ← hheld]
    exact .getByPod ..
  have hstored : pods r1.tenderId r1.tenderVersion (js "pod-1") 1 = some stored := by
    rw [htender, hversion]
    exact if_pos ⟨rfl, rfl, rfl, rfl⟩
  have htime : (reviewTime (r1.processedActions.read (js "a11")) start.eventTime).run.Runs
      (ReviewEffect platform none pods) ⟨r1, reports⟩ (some (.ok prior.at_)) ⟨r1, reports⟩ := by
    rw [hprior]
    exact .ret _ _
  refine ⟨envelope, .startReview ?_⟩
  refine startReview_runs ⟨htender, hversion⟩ (.inl hreplay) hbound hstored htime
    (Prog.Runs.bindM (a := some advisory) (.call hget (.ret _ _)) (.ret _ _)) ?_
  rw [if_pos hreplay]
  exact hresult

/-- No event before the first review is of a review's start. -/
theorem other_events : ∀ event ∈ events.take 10, ¬ OfReviewStart event := by
  have h : ∀ event ∈ events.take 10, ¬ (event.type = .podReviewStarted ∨ event.type = .podAdvisoryAnchored) := by decide
  exact h

/-- The action id of the start is its own. -/
theorem unhindered {r : LifecycleRecord} (hr : Submitted r) : Unhindered platform ⟨r, .empty⟩ (js "a11") := by
  refine ⟨fun hreplay => ?_, fun _ hnames => ?_⟩
  · have hreview : r.state = .podUnderReview := of_decide_eq_true (Bool.and_eq_true_iff.mp hreplay).2
    cases hr.state.symm.trans hreview
  · rcases hnames with ⟨prior, hread, -⟩ | ⟨prior, _, _, hread, -⟩
    · cases hr.unnamed.1.symm.trans hread
    · cases hr.unnamed.2.symm.trans hread

end FirstReview

open FirstReview in
/-- A first start that makes both commits. -/
theorem advisory_anchored_first :
    ∃ ls w result w', (system.restrict (StartsUnhindered Lifecycle.Sample.platform)).Run ls w ∧
      system.step w (.startReview start (some (.ok result))) w' ∧ w'.record = result.record ∧
      result.record.state = .podUnderReview ∧
      result.record.advisoryReportHash = some result.advisory.reportHash := by
  obtain ⟨r, r1, hrun, hfirst, hr, hr1⟩ := firstCommit
  obtain ⟨w, result, hstep⟩ := start_returns hrun hr hfirst hr1
  have hevents : (system.restrict (StartsUnhindered Lifecycle.Sample.platform)).Run _ _ := run_of_events hrun other_events
  exact ⟨_, _, result, w, hevents, hstep, advisory_anchored hevents ⟨hstep, unhindered hr⟩⟩

open FirstReview in
/-- The start stops between its two commits; its replay returns, and nothing is anchored. -/
theorem replay_leaves_unanchored :
    ∃ ls w result w', system.Run ls w ∧ system.step w (.startReview start (some (.ok result))) w' ∧
      start.actionId.length ≤ 128 ∧ result.record.state = .podUnderReview ∧ result.record.advisoryReportHash = none := by
  obtain ⟨r, r1, hrun, hfirst, hr, hr1⟩ := firstCommit
  obtain ⟨advisory, reports, hheld, hhash, hstopped⟩ := start_stops hr hfirst
  have htender := tender_of_started hr hfirst
  have haccepted : Accepted Lifecycle.Sample.platform (js "T-1") r1 := htender.1.1 ▸ applySystem_accepted (hrun.snoc hfirst)
  obtain ⟨envelope, hreplayed⟩ := start_replayed haccepted hr1 htender hheld hhash
  have hevents : system.Run _ _ := (run_of_events hrun other_events).of_restrict
  exact ⟨_, _, _, _, hevents.snoc hstopped, hreplayed, by decide, hr1.open_.1, hr1.unanchored.2⟩

end RouteGuard.Pod
