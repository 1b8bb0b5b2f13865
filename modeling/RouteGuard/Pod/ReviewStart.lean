import RouteGuard.Escrow.Plans
import RouteGuard.Lib.Alone
import RouteGuard.Pod.Adviser
import RouteGuard.Pod.Outbox

/-!
# The start of a review

`PodService.startReview` commits two events, the start of the review and then the hash of the advisory. A replay is
recognised by the first one alone.

* `AdvisoryReports` : the journal of advisories;
* `startReview` : the service method, as a program over the record of a tender and the journal;
* `ReviewEffect` : what its calls do; a call may fail at any time;
* `reviewSystem` : the runs of one tender: other events, restarts, and starts of reviews that return, throw or stop.
-/

namespace RouteGuard.Pod
open JsString Guarded Lifecycle Store

/-! ## The journal of advisories -/

/-- `MemoryAdvisoryReportStore`. -/
structure AdvisoryReports where
  byId : JsString → Option PodAdvisoryReport
  byPod : JsString → Option JsString

namespace AdvisoryReports

def empty : AdvisoryReports := ⟨fun _ => none, fun _ => none⟩

/-- `${tenderId}|${podId}|${podVersion}`. -/
def podKey (tenderId podId : JsString) (podVersion : Int) : JsString :=
  tenderId ++ js "|" ++ podId ++ js "|" ++ decimalInt podVersion

def put (reports : AdvisoryReports) (report : PodAdvisoryReport) : Except PodError AdvisoryReports :=
  match reports.byId report.reportId with
  | some existing =>
    if existing.reportHash ≠ report.reportHash then .error ⟨.ACTION_ID_CONFLICT, js "advisory report conflict"⟩
    else .ok reports
  | none =>
    .ok ⟨Function.update reports.byId report.reportId (some report),
      Function.update reports.byPod (podKey report.tenderId report.podId report.podVersion) (some report.reportId)⟩

/-- An empty id counts as none. -/
def getByPod (reports : AdvisoryReports) (tenderId podId : JsString) (podVersion : Int) : Option PodAdvisoryReport :=
  match reports.byPod (podKey tenderId podId podVersion) with
  | none => none
  | some id => if id = [] then none else reports.byId id

end AdvisoryReports

/-! ## The program -/

/-- What the service throws: an error of its own, of the lifecycle service, or of another call. -/
inductive ReviewError where
  | pod (e : PodError)
  | service (e : ServiceError)
  | failed (message : JsString)

/-- What is read of a stored package once it is decrypted. -/
structure StoredPod where
  fields : PodPackageFields
  publicManifest : PodCanonicalManifest
  plaintextPackageHash : JsString
  deriving DecidableEq, Repr

/-- `get` of the store of packages, which keeps what is put. -/
abbrev StoredPods :=
  (tenderId : JsString) → (tenderVersion : Int) → (podId : JsString) → (podVersion : Int) → Option StoredPod

inductive ReviewOp where
  | getRecord (tenderId : JsString)
  | getPod (tenderId : JsString) (tenderVersion : Int) (podId : JsString) (podVersion : Int)
  | now
  | getByPod (tenderId podId : JsString) (podVersion : Int)
  | put (report : PodAdvisoryReport)
  | apply (tenderId : JsString) (event : LifecycleEvent)

def ReviewOp.Ans : ReviewOp → Type
  | .getRecord _ => Except ReviewError (Option LifecycleRecord)
  | .getPod .. => Except ReviewError (Option StoredPod)
  | .now => Except ReviewError JsString
  | .getByPod .. => Except ReviewError (Option PodAdvisoryReport)
  | .put _ => Except ReviewError Unit
  | .apply .. => Except ReviewError ApplyLifecycleResult

abbrev ReviewM (α : Type) := ExceptT ReviewError (Prog ReviewOp ReviewOp.Ans) α

def getRecord (tenderId : JsString) : ReviewM (Option LifecycleRecord) :=
  ExceptT.mk (Prog.call (.getRecord tenderId) fun r => .ret r)

def getPod (tenderId : JsString) (tenderVersion : Int) (podId : JsString) (podVersion : Int) :
    ReviewM (Option StoredPod) :=
  ExceptT.mk (Prog.call (.getPod tenderId tenderVersion podId podVersion) fun r => .ret r)

def now : ReviewM JsString := ExceptT.mk (Prog.call .now fun r => .ret r)

def getByPod (tenderId podId : JsString) (podVersion : Int) : ReviewM (Option PodAdvisoryReport) :=
  ExceptT.mk (Prog.call (.getByPod tenderId podId podVersion) fun r => .ret r)

def putReport (report : PodAdvisoryReport) : ReviewM Unit := ExceptT.mk (Prog.call (.put report) fun r => .ret r)

def applyEvent (tenderId : JsString) (event : LifecycleEvent) : ReviewM ApplyLifecycleResult :=
  ExceptT.mk (Prog.call (.apply tenderId event) fun r => .ret r)

/-- A check of the program. -/
def check {α : Type} (x : Except ReviewError α) : ReviewM α := ExceptT.mk (pure x)

def requireRecord (tenderId : JsString) (tenderVersion : Int) : ReviewM LifecycleRecord := do
  match ← getRecord tenderId with
  | none => check (.error (.pod ⟨.POD_NOT_FOUND, js "tender not found"⟩))
  | some record => do
    check (require (record.tenderVersion = tenderVersion) (.pod ⟨.POD_INVALID, js "tender version mismatch"⟩))
    pure record

structure StartReviewInput where
  tenderId : JsString
  tenderVersion : Int
  actionId : JsString
  eventTime : Option JsString
  deriving DecidableEq, Repr

structure PodReviewStartResult where
  record : LifecycleRecord
  advisory : PodAdvisoryReport
  outbox : Hcs.V2.HcsV2Envelope

section Service
variable (p : Platform) (ethers : Escrow.Ethers)

/-- The POD of a record; an empty id counts as none. -/
def boundPod (record : LifecycleRecord) : Except ReviewError (JsString × Int) :=
  match present record.podId, record.podVersion with
  | some podId, some podVersion => .ok (podId, podVersion)
  | _, _ => .error (.pod ⟨.POD_NOT_FOUND, js "POD not bound on lifecycle"⟩)

/-- `priorReview?.at ?? input.eventTime ?? now()`; an inherited property has no `at`. -/
def reviewTime (priorReview : Property ProcessedActionRecord) (eventTime : Option JsString) : ReviewM JsString :=
  match priorReview, eventTime with
  | .value prior, _ => pure prior.at_
  | _, some eventTime => pure eventTime
  | _, none => now

def deterministicReportId (seed : JsString) : JsString := js "adv-" ++ (p.sha256Hex seed).take 16

def reportIdOf (record : LifecycleRecord) (podId : JsString) (podVersion : Int) (stored : StoredPod) : JsString :=
  deterministicReportId p
    (record.tenderId ++ js "|" ++ podId ++ js "|v" ++ decimalInt podVersion ++ js "|" ++ stored.plaintextPackageHash)

/-- The input of the adviser; the tender key is that of the record. -/
def adviserInput (record : LifecycleRecord) (podId : JsString) (podVersion : Int) (stored : StoredPod)
    (createdAt escrowTenderKey : JsString) : PodAssuranceAdviserInput where
  fields := stored.fields
  manifest := stored.publicManifest
  requiredDocumentTypes := none
  expectedTenderId := record.tenderId
  expectedTenderVersion := record.tenderVersion
  expectedWinningBidId := record.winningBidId.getD []
  expectedEscrowTenderKey := escrowTenderKey
  deliveryDeadlineAt := none
  createdAt := createdAt
  reportId := reportIdOf p record podId podVersion stored

def tenderKeyOf (record : LifecycleRecord) : Except ReviewError JsString :=
  (Escrow.escrowTenderKey ethers record.tenderId record.tenderVersion).mapError fun _ => .failed (js "escrow tender key")

/-- The advisory of the POD: the one of the journal, or a new one that is put there. -/
def advisoryOf (record : LifecycleRecord) (podId : JsString) (podVersion : Int) (stored : StoredPod)
    (eventTime : JsString) : ReviewM PodAdvisoryReport := do
  match ← getByPod record.tenderId podId podVersion with
  | some advisory => pure advisory
  | none => do
    let key ← check (tenderKeyOf ethers record)
    let advisory := advise p (adviserInput p record podId podVersion stored eventTime key)
    putReport advisory
    pure advisory

def reviewStarted (actionId eventTime : JsString) : LifecycleEvent := ⟨actionId, eventTime, .podReviewStarted⟩

def advisoryActionId (actionId : JsString) : JsString := actionId ++ js ":advisory"

def advisoryAnchored (actionId eventTime reportHash : JsString) : LifecycleEvent :=
  ⟨advisoryActionId actionId, eventTime, .podAdvisoryAnchored ⟨reportHash, js "NON_BINDING_ADVISORY"⟩⟩

/-- The two commits. -/
def commitStart (tenderId actionId eventTime reportHash : JsString) : ReviewM Unit := do
  let _ ← applyEvent tenderId (reviewStarted actionId eventTime)
  let _ ← applyEvent tenderId (advisoryAnchored actionId eventTime reportHash)
  pure ()

/-- The record as it is now, and what is sent about it. -/
def startedResult (tenderId : JsString) (advisory : PodAdvisoryReport) : ReviewM PodReviewStartResult := do
  match ← getRecord tenderId with
  | none => check (.error (.failed (js "Cannot read properties of null")))
  | some next => do
    let envelope ← check ((buildPodAdvisoryAnchoredEnvelope p next advisory.reportHash).mapError .failed)
    pure ⟨next, advisory, envelope⟩

/-- The action is in the index of the record, or its name is one that every object has. -/
def isProcessed (record : LifecycleRecord) (actionId : JsString) : Bool :=
  record.processedActions.read actionId ≠ .undefined

/-- The review is under way, and the action is taken for the one that started it. -/
def isReplaying (record : LifecycleRecord) (actionId : JsString) : Bool :=
  isProcessed record actionId && record.state = .podUnderReview

def startReview (input : StartReviewInput) : ReviewM PodReviewStartResult := do
  let record ← requireRecord input.tenderId input.tenderVersion
  check (require (isReplaying record input.actionId ∨ record.state = .podSubmitted ∨ record.state = .podResubmitted)
    (.pod ⟨.POD_REVIEW_NOT_ALLOWED, js "review start not allowed"⟩))
  let (podId, podVersion) ← check (boundPod record)
  match ← getPod record.tenderId record.tenderVersion podId podVersion with
  | none => check (.error (.pod ⟨.POD_NOT_FOUND, js "encrypted POD missing"⟩))
  | some stored => do
    let eventTime ← reviewTime (record.processedActions.read input.actionId) input.eventTime
    let advisory ← advisoryOf p ethers record podId podVersion stored eventTime
    if isReplaying record input.actionId then pure ()
    else commitStart input.tenderId input.actionId eventTime advisory.reportHash
    startedResult p input.tenderId advisory

end Service

/-- A replay is an action of the index with the very event. -/
theorem preparedEvent_eq_none {p : Platform} {carriers : Option CarrierRegistry} {r : LifecycleRecord}
    {event : LifecycleEvent} :
    preparedEvent p carriers r event = .ok none ↔
      ∃ prior, r.processedActions.read event.actionId = .value prior ∧ prior.eventPayloadHash = eventPayloadHash p event := by
  unfold preparedEvent
  cases hread : r.processedActions.read event.actionId with
  | value prior =>
    simp only [check_eq_ok, require_eq_ok, pure_eq_ok, and_true, Property.value.injEq, exists_eq_left']
  | inherited => simp only [reduceCtorEq, false_and, exists_false]
  | undefined => simp only [map_eq_ok, reduceCtorEq, and_false, false_and, exists_false]

/-! ## What the calls do -/

/-- The record of the tender, and the journal. -/
structure ReviewWorld where
  record : LifecycleRecord
  reports : AdvisoryReports

section System
variable (p : Platform) (ethers : Escrow.Ethers) (carriers : Option CarrierRegistry)
  (pods : StoredPods)

/-- `LifecycleService.apply` on the record: a fresh action that is reduced and accepted, a replay, or an error. An error
may hide that the event was applied. -/
inductive ApplyAnswer (r : LifecycleRecord) (event : LifecycleEvent) :
    Except ReviewError ApplyLifecycleResult → LifecycleRecord → Prop
  | applied {next : LifecycleRecord} (h : Applies p carriers r event next) :
      ApplyAnswer r event (.ok ⟨next, .applied⟩) next
  | replayed (h : preparedEvent p carriers r event = .ok none) : ApplyAnswer r event (.ok ⟨r, .replayed⟩) r
  | refused (e : ReviewError) : ApplyAnswer r event (.error e) r
  | unanswered {next : LifecycleRecord} (h : Applies p carriers r event next) (e : ReviewError) :
      ApplyAnswer r event (.error e) next

/-- The calls of a start. -/
inductive ReviewEffect (w : ReviewWorld) : (op : ReviewOp) → op.Ans → ReviewWorld → Prop
  | getRecord (tenderId : JsString) :
      ReviewEffect w (.getRecord tenderId) (.ok (if w.record.tenderId = tenderId then some w.record else none)) w
  | getPod (tenderId : JsString) (tenderVersion : Int) (podId : JsString) (podVersion : Int) :
      ReviewEffect w (.getPod tenderId tenderVersion podId podVersion)
        (.ok (pods tenderId tenderVersion podId podVersion)) w
  | now (time : JsString) : ReviewEffect w .now (.ok time) w
  | getByPod (tenderId podId : JsString) (podVersion : Int) :
      ReviewEffect w (.getByPod tenderId podId podVersion) (.ok (w.reports.getByPod tenderId podId podVersion)) w
  | put {report : PodAdvisoryReport} {reports : AdvisoryReports} (h : w.reports.put report = .ok reports) :
      ReviewEffect w (.put report) (.ok ()) { w with reports := reports }
  | apply {event : LifecycleEvent} {answer : Except ReviewError ApplyLifecycleResult} {next : LifecycleRecord}
      (h : ApplyAnswer p carriers w.record event answer next) :
      ReviewEffect w (.apply w.record.tenderId event) answer { w with record := next }
  | getRecordFails (tenderId : JsString) (e : ReviewError) : ReviewEffect w (.getRecord tenderId) (.error e) w
  | getPodFails (tenderId : JsString) (tenderVersion : Int) (podId : JsString) (podVersion : Int) (e : ReviewError) :
      ReviewEffect w (.getPod tenderId tenderVersion podId podVersion) (.error e) w
  | getByPodFails (tenderId podId : JsString) (podVersion : Int) (e : ReviewError) :
      ReviewEffect w (.getByPod tenderId podId podVersion) (.error e) w
  | putFails (report : PodAdvisoryReport) (e : ReviewError) : ReviewEffect w (.put report) (.error e) w
  | applyFails (tenderId : JsString) (event : LifecycleEvent) (e : ReviewError) :
      ReviewEffect w (.apply tenderId event) (.error e) w

/-- An event that is not of a review's start, a restart of the process, or a start with how it ended: with a result, with
an error, or not at all. -/
inductive ReviewLabel where
  | event (event : LifecycleEvent)
  | restarted
  | startReview (input : StartReviewInput) (ended : Option (Except ReviewError PodReviewStartResult))

/-- The events that only `startReview` commits. -/
def OfReviewStart (event : LifecycleEvent) : Prop := event.type = .podReviewStarted ∨ event.type = .podAdvisoryAnchored

/-- The journal is in memory, and is lost with the process. -/
inductive ReviewStep (w : ReviewWorld) : ReviewLabel → ReviewWorld → Prop
  | event {event : LifecycleEvent} {next : LifecycleRecord} (hother : ¬ OfReviewStart event)
      (h : Applies p carriers w.record event next) : ReviewStep w (.event event) { w with record := next }
  | restarted : ReviewStep w .restarted { w with reports := .empty }
  | startReview {input : StartReviewInput} {ended : Option (Except ReviewError PodReviewStartResult)} {w' : ReviewWorld}
      (h : Prog.Runs (ReviewEffect p carriers pods) (startReview p ethers input).run w ended w') :
      ReviewStep w (.startReview input ended) w'

/-- One tender from its creation, with the packages that are stored. Calls of the tender do not overlap. -/
def reviewSystem : System ReviewWorld ReviewLabel where
  init w := (applySystem p carriers).init w.record ∧ w.reports = .empty
  step := ReviewStep p ethers carriers pods

end System

end RouteGuard.Pod
