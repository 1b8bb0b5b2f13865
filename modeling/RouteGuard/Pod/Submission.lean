import RouteGuard.Pod.Package
import RouteGuard.Pod.ShipperReview

/-!
# The submission of a POD

`PodService.submitPod` stores the encrypted package, commits the submission and then builds the message that announces it.

* `PodServiceDeps` : the parts of the service that a submission uses;
* `checkSubmission` : the checks of a signed package;
* `submitPod` : the service method, on the record of a tender and the stored packages.
-/

namespace RouteGuard.Pod
open JsString Guarded Access Lifecycle Store Auth

/-- The store of encrypted packages; `getPublicMeta` finds what `get` finds. -/
structure PodEncryptedStore where
  put : Packages → StoredPodRecord → Except PodError Unit × Packages
  get : Packages → PodKey → Except PodError (Option StoredPodRecord)

def memoryPodStore (p : Platform) : PodEncryptedStore := ⟨MemoryPodEncryptedStore.put p, MemoryPodEncryptedStore.get p⟩

def filePodStore (p : Platform) : PodEncryptedStore := ⟨FilePodEncryptedStore.put p, FilePodEncryptedStore.get p⟩

structure PodServiceDeps where
  podStore : PodEncryptedStore
  keyProtector : AesGcmMasterKeyProtector
  carriers : CarrierRegistry
  scanner : PodContentScanner
  filePolicy : PodFilePolicy

structure SignedPodPackage extends PodPackageFields where
  files : List PodFileInput
  carrierSignature : JsString
  manifestHash : Option JsString
  packageContentHash : Option JsString

structure SubmitPodInput where
  tenderId : JsString
  tenderVersion : Int
  podId : JsString
  package : SignedPodPackage

structure PublicPodReceipt where
  podId : JsString
  podVersion : Int
  tenderId : JsString
  tenderVersion : Int
  state : V2LifecycleState
  manifestHash : JsString
  packageContentHash : JsString
  ciphertextHash : JsString
  submittedAt : JsString
  reviewEligible : Bool
  deriving DecidableEq, Repr

structure PodSubmitResult where
  receipt : PublicPodReceipt
  outcome : ApplyOutcome
  outbox : List PodOutboxItem

/-- What the checks of a package compute. -/
structure CheckedPackage where
  manifest : PodCanonicalManifest
  manifestHash : JsString
  packageContentHash : JsString
  deriving DecidableEq, Repr

/-- The record of a tender, and the stored packages. -/
structure Submitted where
  record : LifecycleRecord
  packages : Packages

section Service
variable (p : Platform) (lifecycleCarriers : Option CarrierRegistry) (ethers : Escrow.Ethers)
  (sha256Hex : List UInt8 → JsString) (deps : PodServiceDeps)

/-! ## The checks -/

def assertWinningCarrier (record : LifecycleRecord) (carrierId carrierAccountId : JsString) : Except PodError Unit := do
  require (present record.winningCarrierId = some carrierId ∧ record.winningCarrierAccount = some carrierAccountId)
    ⟨.CARRIER_NOT_WINNER, js "caller is not the winning carrier"⟩
  require ((present record.lockedAmountAtomic).isSome ∧ (present record.winningAmountAtomic).isSome)
    ⟨.POD_STATE_INVALID, js "escrow allocation not confirmed"⟩

/-- What the carrier has signed. -/
def submissionSigned (fields : PodPackageFields) (manifestHash packageContentHash : JsString) :
    CarrierPodSubmissionSignPayload where
  podId := fields.podId
  podVersion := fields.podVersion
  tenderId := fields.tenderId
  tenderVersion := fields.tenderVersion
  winningBidId := fields.winningBidId
  escrowTenderKey := fields.escrowTenderKey
  carrierId := fields.carrierId
  carrierAccountId := fields.carrierAccountId
  deliveryTimestamp := fields.deliveryTimestamp
  manifestHash := manifestHash
  packageContentHash := packageContentHash
  submittedAt := fields.submittedAt
  actionId := fields.actionId

/-- A declared hash is the computed one; an empty one counts as none. -/
def Declares (declared : Option JsString) (computed : JsString) : Prop := ∀ hash ∈ declared, hash = [] ∨ hash = computed

instance (declared : Option JsString) (computed : JsString) : Decidable (Declares declared computed) :=
  inferInstanceAs (Decidable (∀ hash ∈ declared, hash = [] ∨ hash = computed))

/-- The signature of a carrier that the registry trusts. -/
def checkCarrier (pkg : SignedPodPackage) (manifestHash packageContentHash : JsString) : Except ReviewError Unit :=
  match deps.carriers pkg.carrierId with
  | none => .error (podFailed .POD_SIGNATURE_INVALID "carrier not trusted")
  | some carrier => do
    require (carrier.active ∧ carrier.signingPublicKey ≠ []) (podFailed .POD_SIGNATURE_INVALID "carrier not trusted")
    let _ ← (verifyCarrierPodSubmission p carrier.signingPublicKey
      (submissionSigned pkg.toPodPackageFields manifestHash packageContentHash) pkg.carrierSignature).mapError
      fun _ => podFailed .POD_SIGNATURE_INVALID "carrier signature invalid"
    pure ()

/-- The checks of a submission, with the manifest and the hashes of the package. -/
def checkSubmission (record : LifecycleRecord) (input : SubmitPodInput) : Except ReviewError CheckedPackage := do
  let pkg := input.package
  require (pkg.podId = input.podId) (podFailed .POD_INVALID "podId path/body mismatch")
  require (pkg.tenderId = input.tenderId ∧ pkg.tenderVersion = input.tenderVersion)
    (podFailed .POD_INVALID "tender path/body mismatch")
  (assertPackageFields pkg.toPodPackageFields).mapError .pod
  require (record.state ≠ .podCorrectionRequested)
    (podFailed .POD_STATE_INVALID "use resubmission for correction-requested state")
  require (record.state = .deliveryReported ∨ record.state = .podSubmitted)
    (podFailed .POD_STATE_INVALID "POD submission not allowed in this state")
  (assertWinningCarrier record pkg.carrierId pkg.carrierAccountId).mapError .pod
  let expectedKey ← tenderKeyOf ethers record
  require (pkg.escrowTenderKey = expectedKey) (podFailed .POD_INVALID "escrow tender key mismatch")
  require (record.winningBidId = some pkg.winningBidId) (podFailed .POD_INVALID "winning bid mismatch")
  require (¬ (pkg.podVersion ≠ 1 ∧ record.state = .deliveryReported))
    (podFailed .POD_VERSION_CONFLICT "initial POD version must be 1")
  let manifest ← (buildCanonicalManifest sha256Hex deps.filePolicy (some deps.scanner) pkg.files).mapError .pod
  let mHash := Pod.manifestHash p manifest
  let pHash := Pod.packageContentHash p pkg.toPodPackageFields manifest
  require (Declares pkg.manifestHash mHash) (podFailed .POD_MANIFEST_MISMATCH "declared manifest hash mismatch")
  require (Declares pkg.packageContentHash pHash) (podFailed .POD_HASH_MISMATCH "declared package hash mismatch")
  checkCarrier p deps pkg mHash pHash
  pure ⟨manifest, mHash, pHash⟩

/-! ## The answers -/

def isReviewEligible (state : V2LifecycleState) : Bool := state = .podSubmitted || state = .podResubmitted

def submissionItem (record : LifecycleRecord) (sizeBytes : Int) : Except ReviewError PodOutboxItem :=
  ((buildPodSubmittedEnvelope p record sizeBytes).mapError .failed).map (⟨.POD_SUBMITTED, ·⟩)

/-- The receipt of a package, and the message that announces it. -/
def submitted (record : LifecycleRecord) (fields : PodPackageFields) (manifestHash packageContentHash ciphertextHash
    submittedAt : JsString) (totalBytes : Nat) (outcome : ApplyOutcome) : Except ReviewError PodSubmitResult := do
  let item ← submissionItem p record totalBytes
  pure
    { receipt :=
        { podId := fields.podId, podVersion := fields.podVersion, tenderId := fields.tenderId,
          tenderVersion := fields.tenderVersion, state := record.state, manifestHash, packageContentHash,
          ciphertextHash, submittedAt, reviewEligible := isReviewEligible record.state }
      outcome := outcome
      outbox := [item] }

/-- The answer to a package whose action is processed. -/
def replaySubmission (record : LifecycleRecord) (pkg : SignedPodPackage) (checked : CheckedPackage)
    (packages : Packages) : Except ReviewError PodSubmitResult := do
  match ← (deps.podStore.get packages pkg.toPodPackageFields.key).mapError .pod with
  | none => .error (podFailed .PERSISTENCE_CONFLICT "lifecycle claims POD without storage")
  | some prior => do
    let envelope := prior.envelope
    require (envelope.plaintextPackageHash = checked.packageContentHash) (podFailed .ACTION_ID_CONFLICT "actionId conflict")
    submitted p record pkg.toPodPackageFields envelope.manifestHash envelope.plaintextPackageHash
      envelope.ciphertextHash envelope.createdAt envelope.publicManifest.totalBytes .replayed

/-! ## The submission -/

/-- The encrypted record of a checked package. -/
def encryptSubmission (pkg : SignedPodPackage) (checked : CheckedPackage) (secrets : RecordSecrets) :
    Except PodError StoredPodRecord :=
  encryptAndBuildRecord p sha256Hex deps.keyProtector secrets
    { plaintext := encodePlaintextPackage
        { fields := pkg.toPodPackageFields, files := pkg.files, carrierSignature := pkg.carrierSignature,
          manifestHash := checked.manifestHash, packageContentHash := checked.packageContentHash }
      fields := pkg.toPodPackageFields
      manifest := checked.manifest
      manifestHash := checked.manifestHash
      packageContentHash := checked.packageContentHash
      createdAt := pkg.submittedAt }

def submissionEvent (fields : PodPackageFields) (contentHash ciphertextHash : JsString) : LifecycleEvent where
  actionId := fields.actionId
  eventTime := fields.submittedAt
  body := .podPackageSubmitted ⟨fields.podId, fields.podVersion, contentHash, ciphertextHash⟩

/-- `/conflict|CONFLICT|Action/i` and `/Illegal|state|transition/i`. -/
def submitApplyError (e : ServiceError) : ReviewError :=
  let message := Escrow.lowerAscii e.message
  if includes (js "conflict") message ∨ includes (js "action") message then
    podFailed .ACTION_ID_CONFLICT "actionId conflict"
  else if includes (js "illegal") message ∨ includes (js "state") message ∨ includes (js "transition") message then
    podFailed .POD_STATE_INVALID "invalid lifecycle state for POD"
  else .service e

/-- The package is stored before the submission is committed. -/
def commitSubmission (pkg : SignedPodPackage) (checked : CheckedPackage) (stored : StoredPodRecord) (w : Submitted) :
    Except ReviewError PodSubmitResult × Submitted :=
  match deps.podStore.put w.packages stored with
  | (.error e, packages) => (.error (.pod e), { w with packages })
  | (.ok (), packages) =>
    match applyRecord p lifecycleCarriers w.record
        (submissionEvent pkg.toPodPackageFields checked.packageContentHash stored.envelope.ciphertextHash) with
    | .error e => (.error (submitApplyError e), { w with packages })
    | .ok applied =>
      (submitted p applied.record pkg.toPodPackageFields checked.manifestHash checked.packageContentHash
        stored.envelope.ciphertextHash pkg.submittedAt checked.manifest.totalBytes applied.outcome,
       ⟨applied.record, packages⟩)

/-- `secrets` are drawn at random. -/
def submitPod (secrets : RecordSecrets) (input : SubmitPodInput) (w : Submitted) :
    Except ReviewError PodSubmitResult × Submitted :=
  match recordOf w.record input.tenderId input.tenderVersion with
  | .error e => (.error e, w)
  | .ok () =>
    match checkSubmission p ethers sha256Hex deps w.record input with
    | .error e => (.error e, w)
    | .ok checked =>
      if isProcessed w.record input.package.actionId then
        (replaySubmission p deps w.record input.package checked w.packages, w)
      else
        match encryptSubmission p sha256Hex deps input.package checked secrets with
        | .error e => (.error (.pod e), w)
        | .ok stored =>
          match deps.podStore.get w.packages input.package.toPodPackageFields.key with
          | .error e => (.error (.pod e), w)
          | .ok (some _) => (.error (podFailed .POD_ALREADY_EXISTS "POD storage already exists"), w)
          | .ok none => commitSubmission p lifecycleCarriers deps input.package checked stored w

end Service

end RouteGuard.Pod
