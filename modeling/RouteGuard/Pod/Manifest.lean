import RouteGuard.Access.Resource
import RouteGuard.Domain.Signature
import RouteGuard.Lib.Sorting

/-!
# POD packages

* `PodFileInput`, `PodFilePolicy`, `PodContentScanner` : the files of a package and what is asked of them;
* `buildCanonicalManifest` : the manifest, its entries in the order of their file ids;
* `manifestHash`, `packageContentHash` : the hashes of a manifest and of a package;
* `assertPackageFields` : the checks of the signed fields.
-/

namespace RouteGuard.Pod
open JsString Json Guarded Access Sorting

inductive PodErrorCode where
  | POD_INVALID | POD_TOO_LARGE | POD_FILE_TYPE_REJECTED | POD_SIGNATURE_INVALID | POD_ALREADY_EXISTS
  | POD_VERSION_CONFLICT | POD_STORAGE_CORRUPT | POD_ENCRYPTION_FAILED | POD_DECRYPTION_FAILED | POD_REVIEW_NOT_ALLOWED
  | POD_REVIEW_DEADLINE_EXPIRED | SHIPPER_AUTHORIZATION_INVALID | ESCROW_PLAN_BINDING_FAILED | ACTION_ID_CONFLICT
  | PERSISTENCE_CONFLICT | POD_NOT_FOUND | POD_STATE_INVALID | CARRIER_NOT_WINNER | POD_MANIFEST_MISMATCH
  | POD_HASH_MISMATCH | POD_SCAN_REJECTED
  deriving DecidableEq, Repr

structure PodError where
  code : PodErrorCode
  message : JsString
  deriving DecidableEq, Repr

/-! ## Files -/

def POD_DOCUMENT_TYPES : List JsString :=
  [js "ELECTRONIC_DELIVERY_RECEIPT", js "ECMR_EPOD", js "RECIPIENT_CONFIRMATION", js "DELIVERY_IMAGE",
   js "CARGO_CONDITION_EVIDENCE", js "EXCEPTION_DOCUMENT", js "STRUCTURED_DELIVERY_METADATA"]

def POD_CARGO_CONDITION_CODES : List JsString :=
  [js "GOOD", js "DAMAGED", js "PARTIAL", js "SEAL_BROKEN", js "OTHER"]

def POD_EXCEPTION_CODES : List JsString :=
  [js "NONE", js "DAMAGED", js "SHORTAGE", js "LATE", js "SEAL_MISMATCH", js "OTHER_STRUCTURED"]

structure PodFileInput where
  fileId : JsString
  documentType : JsString
  filename : JsString
  mimeType : JsString
  bytes : List UInt8
  deriving DecidableEq, Repr

structure PodManifestEntry where
  fileId : JsString
  documentType : JsString
  storageName : JsString
  mimeType : JsString
  byteLength : Nat
  plaintextSha256 : JsString
  deriving DecidableEq, Repr

structure PodCanonicalManifest where
  entries : List PodManifestEntry
  documentCount : Nat
  totalBytes : Nat
  deriving DecidableEq, Repr

structure PodPackageFields where
  podId : JsString
  podVersion : Int
  tenderId : JsString
  tenderVersion : Int
  winningBidId : JsString
  escrowTenderKey : JsString
  carrierId : JsString
  carrierAccountId : JsString
  deliveryTimestamp : JsString
  recipientConfirmationPresent : Bool
  cargoConditionCode : JsString
  exceptionCodes : List JsString
  submittedAt : JsString
  actionId : JsString
  deriving DecidableEq, Repr

/-! ## The file policy -/

structure PodFilePolicy where
  maxFiles : Nat
  maxFileBytes : Nat
  maxPackageBytes : Nat
  allowedMimeTypes : List JsString
  deriving DecidableEq, Repr

def DEFAULT_POD_FILE_POLICY : PodFilePolicy where
  maxFiles := 10
  maxFileBytes := 10 * 1024 * 1024
  maxPackageBytes := 25 * 1024 * 1024
  allowedMimeTypes := [js "application/pdf", js "image/jpeg", js "image/png", js "application/json"]

/-- What a scanner is shown of a file. -/
structure PodScanInput where
  fileId : JsString
  mimeType : JsString
  bytes : List UInt8

inductive PodScanResult where
  | ok
  | rejected (reason : JsString)
  deriving DecidableEq, Repr

abbrev PodContentScanner := PodScanInput → PodScanResult

/-- `DeterministicSafePodScanner`, given the texts that `JSON.parse` accepts. -/
def deterministicSafeScan (isJson : List UInt8 → Bool) : PodContentScanner := fun input =>
  if input.bytes = [] then .rejected (js "empty file")
  else if input.bytes.take 2 = [0x4D, 0x5A] ∨ input.bytes.take 4 = [0x7F, 0x45, 0x4C, 0x46] then
    .rejected (js "executable content")
  -- the ASCII decoder drops the top bit of each byte
  else if input.mimeType = js "application/pdf" ∧
      (input.bytes.take 5).map (· &&& 0x7F) ≠ [0x25, 0x50, 0x44, 0x46, 0x2D] then
    .rejected (js "pdf magic mismatch")
  else if input.mimeType = js "image/png" ∧ input.bytes.take 4 ≠ [0x89, 0x50, 0x4E, 0x47] then
    .rejected (js "png magic mismatch")
  else if input.mimeType = js "image/jpeg" ∧ input.bytes.take 2 ≠ [0xFF, 0xD8] then
    .rejected (js "jpeg magic mismatch")
  else if input.mimeType = js "application/json" ∧ ¬ isJson input.bytes then .rejected (js "invalid json")
  else .ok

/-- `[A-Za-z0-9]`. -/
def isAlphanumeric (u : UInt16) : Bool :=
  (0x30 ≤ u && u ≤ 0x39) || (0x41 ≤ u && u ≤ 0x5A) || (0x61 ≤ u && u ≤ 0x7A)

/-- `[A-Za-z0-9._@+-]`. -/
def isFilenameUnit (u : UInt16) : Bool := isAlphanumeric u || u ∈ js "._@+-"

/-- `[A-Za-z0-9._-]`. -/
def isFileIdUnit (u : UInt16) : Bool := isAlphanumeric u || u ∈ js "._-"

/-- `idRe`: an alphanumeric unit and up to 127 units of `[A-Za-z0-9._@:-]`. -/
def isPackageId : JsString → Bool
  | [] => false
  | u :: rest => isAlphanumeric u && rest.length ≤ 127 && rest.all fun v => isAlphanumeric v || v ∈ js "._@:-"

def assertSafeFilename (name : JsString) : Except PodError JsString := do
  require (name.length ≠ 0 ∧ name.length ≤ 128) ⟨.POD_INVALID, js "filename length invalid"⟩
  require (¬ includes [0x00] name) ⟨.POD_INVALID, js "filename contains null byte"⟩
  require (¬ (includes (js "..") name ∨ includes (js "/") name ∨ includes (js "\\") name))
    ⟨.POD_INVALID, js "path traversal filename rejected"⟩
  require (name.all isFilenameUnit) ⟨.POD_INVALID, js "filename charset rejected"⟩
  pure name

def assertMimeAllowed (mimeType : JsString) (policy : PodFilePolicy) : Except PodError Unit :=
  require (mimeType ∈ policy.allowedMimeTypes) ⟨.POD_FILE_TYPE_REJECTED, js "MIME type not permitted"⟩

/-! ## The manifest -/

section Manifest
variable (sha256Hex : List UInt8 → JsString) (policy : PodFilePolicy) (scanner : Option PodContentScanner)

def sha256Digest (bytes : List UInt8) : JsString := js "sha256:" ++ sha256Hex bytes

def storageNameFor (file : PodFileInput) : Except PodError JsString := do
  let safe ← assertSafeFilename file.filename
  pure (file.fileId ++ js "__" ++ safe)

/-- The scan of a file, when there is a scanner. -/
def scanFile (file : PodFileInput) : Except PodError Unit :=
  nullable (fun scan => require (scan ⟨file.fileId, file.mimeType, file.bytes⟩ = .ok)
    ⟨.POD_SCAN_REJECTED, js "content scan rejected file"⟩) scanner

/-- One round of the loop: the checks of a file after the files with the `seenIds`, which are `totalBytes` long. -/
def buildEntry (seenIds : List JsString) (totalBytes : Nat) (file : PodFileInput) : Except PodError PodManifestEntry := do
  require (1 ≤ file.fileId.length ∧ file.fileId.length ≤ 64 ∧ file.fileId.all isFileIdUnit)
    ⟨.POD_INVALID, js "fileId invalid"⟩
  require (file.fileId ∉ seenIds) ⟨.POD_INVALID, js "duplicate fileId"⟩
  require (file.documentType ∈ POD_DOCUMENT_TYPES) ⟨.POD_INVALID, js "documentType not permitted"⟩
  assertMimeAllowed file.mimeType policy
  let _ ← assertSafeFilename file.filename
  require (file.bytes.length ≠ 0) ⟨.POD_INVALID, js "empty file rejected"⟩
  require (file.bytes.length ≤ policy.maxFileBytes) ⟨.POD_TOO_LARGE, js "per-file size limit exceeded"⟩
  require (totalBytes + file.bytes.length ≤ policy.maxPackageBytes)
    ⟨.POD_TOO_LARGE, js "total package size limit exceeded"⟩
  scanFile scanner file
  let storageName ← storageNameFor file
  pure ⟨file.fileId, file.documentType, storageName, file.mimeType, file.bytes.length, sha256Digest sha256Hex file.bytes⟩

/-- The loop over the files, with the entries in the order of the files and the bytes in all. -/
def buildEntries (seenIds : List JsString) (totalBytes : Nat) :
    List PodFileInput → Except PodError (List PodManifestEntry × Nat)
  | [] => pure ([], totalBytes)
  | file :: rest => do
    let entry ← buildEntry sha256Hex policy scanner seenIds totalBytes file
    let (entries, total) ← buildEntries (file.fileId :: seenIds) (totalBytes + file.bytes.length) rest
    pure (entry :: entries, total)

def buildCanonicalManifest (files : List PodFileInput) : Except PodError PodCanonicalManifest := do
  require (files.length ≠ 0) ⟨.POD_INVALID, js "POD package requires at least one file"⟩
  require (files.length ≤ policy.maxFiles) ⟨.POD_TOO_LARGE, js "file count exceeds policy limit"⟩
  let (built, totalBytes) ← buildEntries sha256Hex policy scanner [] 0 files
  pure ⟨sortOn PodManifestEntry.fileId built, built.length, totalBytes⟩

end Manifest

/-! ## Hashes -/

def PodManifestEntry.toJson (e : PodManifestEntry) : Json :=
  .obj
    [(js "fileId", .str e.fileId), (js "documentType", .str e.documentType), (js "storageName", .str e.storageName),
     (js "mimeType", .str e.mimeType), (js "byteLength", .num e.byteLength), (js "plaintextSha256", .str e.plaintextSha256)]

def PodCanonicalManifest.toJson (m : PodCanonicalManifest) : Json :=
  .obj
    [(js "documentCount", .num m.documentCount), (js "totalBytes", .num m.totalBytes),
     (js "entries", .arr (m.entries.map PodManifestEntry.toJson))]

section Hashes
variable (p : Platform)

def manifestHash (manifest : PodCanonicalManifest) : JsString := canonicalSha256 p.sha256Hex manifest.toJson

/-- A file in the package hash. -/
def fileJson (e : PodManifestEntry) : Json :=
  .obj [(js "fileId", .str e.fileId), (js "plaintextSha256", .str e.plaintextSha256), (js "byteLength", .num e.byteLength)]

def packageJson (fields : PodPackageFields) (manifest : PodCanonicalManifest) : Json :=
  .obj
    [(js "podId", .str fields.podId), (js "podVersion", .num fields.podVersion), (js "tenderId", .str fields.tenderId),
     (js "tenderVersion", .num fields.tenderVersion), (js "winningBidId", .str fields.winningBidId),
     (js "escrowTenderKey", .str fields.escrowTenderKey), (js "carrierId", .str fields.carrierId),
     (js "carrierAccountId", .str fields.carrierAccountId), (js "deliveryTimestamp", .str fields.deliveryTimestamp),
     (js "recipientConfirmationPresent", .bool fields.recipientConfirmationPresent),
     (js "cargoConditionCode", .str fields.cargoConditionCode),
     (js "exceptionCodes", .arr ((sortOn id fields.exceptionCodes).map .str)), (js "submittedAt", .str fields.submittedAt),
     (js "actionId", .str fields.actionId), (js "manifestHash", .str (manifestHash p manifest)),
     (js "files", .arr (manifest.entries.map fileJson))]

/-- The same for every order of the files and of the exception codes. -/
def packageContentHash (fields : PodPackageFields) (manifest : PodCanonicalManifest) : JsString :=
  canonicalSha256 p.sha256Hex (packageJson p fields manifest)

end Hashes

/-! ## The signed fields -/

def assertPackageFields (fields : PodPackageFields) : Except PodError Unit := do
  each (fun entry : JsString × JsString => require (isPackageId entry.2) ⟨.POD_INVALID, entry.1 ++ js " invalid"⟩)
    [(js "podId", fields.podId), (js "tenderId", fields.tenderId), (js "winningBidId", fields.winningBidId),
     (js "carrierId", fields.carrierId), (js "carrierAccountId", fields.carrierAccountId),
     (js "actionId", fields.actionId)]
  require (1 ≤ fields.podVersion ∧ fields.podVersion ≤ 0xffff) ⟨.POD_INVALID, js "podVersion invalid"⟩
  require (1 ≤ fields.tenderVersion) ⟨.POD_INVALID, js "tenderVersion invalid"⟩
  require (fields.escrowTenderKey.length = 66 ∧ fields.escrowTenderKey.take 2 = js "0x" ∧
      (fields.escrowTenderKey.drop 2).all isLowerHex)
    ⟨.POD_INVALID, js "escrowTenderKey must be bytes32 hex"⟩
  require (fields.cargoConditionCode ∈ POD_CARGO_CONDITION_CODES) ⟨.POD_INVALID, js "cargoConditionCode invalid"⟩
  each (fun code => require (code ∈ POD_EXCEPTION_CODES) ⟨.POD_INVALID, js "exception code invalid"⟩) fields.exceptionCodes

end RouteGuard.Pod
