import RouteGuard.Store.Envelope

/-!
# The lifecycle store

Compare-and-set persistence of lifecycle records, in memory and in the file system.

* `assertCasPreconditions`, `withStoreVersion` : what both adapters check and write;
* `InMemoryLifecycleStore` : a map by tender;
* `FileLifecycleStore` : one envelope file per tender, replaced by renaming a temporary file over it.

A call is one step: the in-process mutex and the lock file serialize the calls on a tender. What the file
system does during a call is an argument of the call.
-/

namespace RouteGuard.Store
open JsString Json Guarded Trust Lifecycle

/-! ## Compare and set -/

def assertRecordVersion (value : Int) (ctx : String) : Except StoreError Unit :=
  require (1 ≤ value ∧ value ≤ MAX_SAFE_INTEGER) (.failed (js ctx ++ js ": invalid recordVersion"))

def actionConflictMessage (actionId : JsString) : JsString :=
  js "actionId \"" ++ actionId ++ js "\" was already used with a different payload"

/-- An already committed action must be in the next index, with the same payload, version and state. -/
def assertActionKept (nextActions : PlainObject ProcessedActionRecord) (actionId : JsString)
    (committed : ProcessedActionRecord) : Except StoreError Unit :=
  match nextActions.read actionId with
  | .undefined => .error (.actionConflict actionId
      (js "actionId \"" ++ actionId ++ js "\" is already committed and cannot be dropped"))
  | .inherited => .error (.actionConflict actionId (actionConflictMessage actionId))
  | .value next =>
    require (next.eventPayloadHash = committed.eventPayloadHash ∧
      next.recordVersionAfter = committed.recordVersionAfter ∧ next.resultingState = committed.resultingState)
      (.actionConflict actionId (actionConflictMessage actionId))

def assertCasPreconditions (p : Platform) (t : JsString) (current : LifecycleRecord) (expectedVersion : Int)
    (nextRecord : LifecycleRecord) : Except StoreError Unit := do
  let immutable (field : String) := StoreError.immutableField t (js field)
  assertRecordVersion current.recordVersion "stored"
  require (current.recordVersion = expectedVersion) (.versionConflict t expectedVersion current.recordVersion)
  require (current.tenderId = nextRecord.tenderId) (immutable "tenderId")
  require (current.tenderVersion = nextRecord.tenderVersion) (immutable "tenderVersion")
  require (current.tenderHash = nextRecord.tenderHash) (immutable "tenderHash")
  require (current.maximumFreightBudgetAtomic = nextRecord.maximumFreightBudgetAtomic)
    (immutable "maximumFreightBudgetAtomic")
  require (canonicalSha256 p.sha256Hex current.trust.toJson = canonicalSha256 p.sha256Hex nextRecord.trust.toJson)
    (immutable "trust")
  nullable (fun receipt : LifecycleAccessReceipt =>
    require (canonicalSha256 p.sha256Hex receipt.toJson =
        canonicalSha256 p.sha256Hex (ofOption LifecycleAccessReceipt.toJson nextRecord.accessReceipt))
      (immutable "accessReceipt")) current.accessReceipt
  each (fun e : Sigma fun _ : JsString => ProcessedActionRecord =>
    assertActionKept nextRecord.processedActions e.1 e.2) current.processedActions.entries

/-- The next record with the next version. -/
def withStoreVersion (nextRecord : LifecycleRecord) (expectedVersion : Int) : LifecycleRecord :=
  if nextRecord.recordVersion = expectedVersion + 1 then nextRecord
  else { nextRecord with recordVersion := expectedVersion + 1 }

/-- The record to persist over the current one, if every check passes. -/
def preparedRecord (p : Platform) (t : JsString) (current : Option LifecycleRecord) (expectedVersion : Int)
    (nextRecord : LifecycleRecord) : Except StoreError LifecycleRecord :=
  match current with
  | none => .error (.notFound t)
  | some current => do
    assertCasPreconditions p t current expectedVersion nextRecord
    assertValidLifecycleRecord p t (withStoreVersion nextRecord expectedVersion)

/-- The record to persist for a new tender. -/
def createdRecord (p : Platform) (taken : Bool) (input : CreateLifecycleInput) :
    Except StoreError LifecycleRecord := do
  require (taken = false) (.failed (js "Lifecycle already exists: " ++ input.tenderId))
  let record ← (createLifecycleRecord p input).mapError .failed
  assertValidLifecycleRecord p input.tenderId record

/-- The interface of both adapters: a call answers or throws, and leaves the store in some state. -/
structure LifecycleStore (σ : Type) where
  create : CreateLifecycleInput → σ → Except StoreError LifecycleRecord × σ
  get : JsString → σ → Except StoreError (Option LifecycleRecord)
  compareAndSet : JsString → Int → LifecycleRecord → σ → Except StoreError LifecycleRecord × σ

/-! ## In memory -/

/-- The record of each tender. -/
abbrev Records := JsString → Option LifecycleRecord

namespace InMemoryLifecycleStore
variable (p : Platform)

/-- Keep the record, if there is one to keep. -/
def keep (t : JsString) (prepared : Except StoreError LifecycleRecord) (records : Records) :
    Except StoreError LifecycleRecord × Records :=
  match prepared with
  | .ok record => (.ok record, Function.update records t (some record))
  | .error e => (.error e, records)

def create (input : CreateLifecycleInput) (records : Records) : Except StoreError LifecycleRecord × Records :=
  keep input.tenderId (do
    assertSafeTenderId input.tenderId
    createdRecord p (records input.tenderId).isSome input) records

def get (t : JsString) (records : Records) : Except StoreError (Option LifecycleRecord) :=
  match records t with
  | none => .ok none
  | some record => some <$> assertValidLifecycleRecord p t record

def compareAndSet (t : JsString) (expectedVersion : Int) (nextRecord : LifecycleRecord) (records : Records) :
    Except StoreError LifecycleRecord × Records :=
  keep t (do
    assertSafeTenderId t
    preparedRecord p t (records t) expectedVersion nextRecord) records

end InMemoryLifecycleStore

def inMemoryLifecycleStore (p : Platform) : LifecycleStore Records where
  create := InMemoryLifecycleStore.create p
  get := InMemoryLifecycleStore.get p
  compareAndSet := InMemoryLifecycleStore.compareAndSet p

/-! ## In the file system -/

/-- What a file holds: the text of an envelope, or bytes that are none, with the error of reading them. -/
inductive FileContent where
  | document (envelope : PersistedLifecycleEnvelope)
  | unreadable (e : StoreError)

/-- The authoritative file of a tender, and temporary files. -/
inductive StorePath where
  | record (tenderId : JsString)
  | temporary (name : JsString)
  deriving DecidableEq

/-- The directory of the store, with a count of the authoritative files ever replaced. -/
structure Disk where
  files : StorePath → Option FileContent
  replacements : Nat

/-- What the file system and the lock do during one call. -/
structure FileOutcome where
  lock : Option StoreError
  read : Option StoreError
  temporaryName : JsString
  writeFails : Bool
  /-- What a failed write leaves in the temporary file. -/
  partialContent : Option FileContent
  renameFails : Bool
  unlinkFails : Bool
  readBack : Option StoreError
  release : Option StoreError

/-- Nothing fails. -/
def FileOutcome.quiet (temporaryName : JsString) : FileOutcome where
  lock := none
  read := none
  temporaryName := temporaryName
  writeFails := false
  partialContent := none
  renameFails := false
  unlinkFails := false
  readBack := none
  release := none

namespace Disk

def write (disk : Disk) (path : StorePath) (content : Option FileContent) : Disk :=
  { disk with files := Function.update disk.files path content }

/-- `renameSync(tmp, fp)`. -/
def rename (disk : Disk) (source target : StorePath) : Disk where
  files := Function.update (Function.update disk.files target (disk.files source)) source none
  replacements := disk.replacements + 1

/-- `removeOwnedTemp`. -/
def removeTemporary (disk : Disk) (io : FileOutcome) : Disk :=
  if io.unlinkFails then disk else disk.write (.temporary io.temporaryName) none

end Disk

namespace FileLifecycleStore
variable (p : Platform) (io : FileOutcome)

def parsePersistedLifecycleEnvelope (t : JsString) : FileContent → Except StoreError LifecycleRecord
  | .document envelope => assertValidPersistedLifecycleEnvelope p t envelope
  | .unreadable e => .error e

def readRecord (t : JsString) (disk : Disk) : Except StoreError (Option LifecycleRecord) := do
  assertSafeTenderId t
  match io.read with
  | some e => .error e
  | none =>
    match disk.files (.record t) with
    | none => .ok none
    | some content => some <$> parsePersistedLifecycleEnvelope p t content

/-- A persistence error goes through; any other is an atomic-write error. -/
def readBackError (t : JsString) : StoreError → StoreError
  | .failed _ => .atomicWrite t (js "written record failed read-back verification")
  | e => e

/-- The authoritative file reloads with the written version. -/
def verifyWritten (t : JsString) (record : LifecycleRecord) (disk : Disk) : Except StoreError Unit :=
  Except.mapError (readBackError t) do
    let verified ← readRecord p { io with read := io.readBack } t disk
    require (verified.map (·.recordVersion) = some record.recordVersion)
      (.failed (js "verified record version mismatch"))

/-- Write a temporary file, rename it over the authoritative one, and verify. -/
def writeAtomic (t : JsString) (record : LifecycleRecord) (disk : Disk) : Except StoreError Unit × Disk :=
  let tmp := StorePath.temporary io.temporaryName
  if (disk.files tmp).isSome then
    (.error (.atomicWrite t (js "temporary write failed")), disk.removeTemporary io)
  else if io.writeFails then
    (.error (.atomicWrite t (js "temporary write failed")), (disk.write tmp io.partialContent).removeTemporary io)
  else
    let written := disk.write tmp (some (.document (buildPersistedLifecycleEnvelope p record)))
    if io.renameFails then
      (.error (.atomicWrite t (js "atomic replacement failed")), written.removeTemporary io)
    else
      let replaced := written.rename tmp (.record t)
      (verifyWritten p io t record replaced, replaced)

/-- What happens between acquiring and releasing the lock. -/
def whileLocked (body : Disk → Except StoreError LifecycleRecord × Disk) (disk : Disk) :
    Except StoreError LifecycleRecord × Disk :=
  match io.lock with
  | some e => (.error e, disk)
  | none =>
    match io.release with
    | some e => (.error e, (body disk).2)
    | none => body disk

/-- Write the record, if there is one to write. -/
def persist (t : JsString) (prepared : Except StoreError LifecycleRecord) (disk : Disk) :
    Except StoreError LifecycleRecord × Disk :=
  match prepared with
  | .error e => (.error e, disk)
  | .ok record =>
    let written := writeAtomic p io t record disk
    (written.1.map fun _ => record, written.2)

def create (input : CreateLifecycleInput) (disk : Disk) : Except StoreError LifecycleRecord × Disk :=
  match assertSafeTenderId input.tenderId with
  | .error e => (.error e, disk)
  | .ok () =>
    whileLocked io (fun disk =>
      persist p io input.tenderId (createdRecord p (disk.files (.record input.tenderId)).isSome input) disk) disk

def compareAndSet (t : JsString) (expectedVersion : Int) (nextRecord : LifecycleRecord) (disk : Disk) :
    Except StoreError LifecycleRecord × Disk :=
  match assertSafeTenderId t with
  | .error e => (.error e, disk)
  | .ok () =>
    whileLocked io (fun disk =>
      persist p io t (do
        let current ← readRecord p io t disk
        preparedRecord p t current expectedVersion nextRecord) disk) disk

end FileLifecycleStore

def fileLifecycleStore (p : Platform) (io : FileOutcome) : LifecycleStore Disk where
  create := FileLifecycleStore.create p io
  get := FileLifecycleStore.readRecord p io
  compareAndSet := FileLifecycleStore.compareAndSet p io

end RouteGuard.Store
