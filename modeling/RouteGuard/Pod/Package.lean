import RouteGuard.Lib.ObjectFields
import RouteGuard.Lib.Utf8Text
import RouteGuard.Pod.Encrypt
import RouteGuard.Pod.PackageHash

/-!
# The plaintext of a POD package

* `encodePlaintextPackage` : the canonical JSON text of a package, in UTF-8;
* `decodePlaintextPackage` : the package in a plaintext, with the values that stand there;
* `DecodedPackage.package` : a decoded package whose values have the declared types;
* `decode_encode` : a package is decoded as it was encoded.
-/

namespace RouteGuard.Pod
open JsString Json Guarded

structure PodPlaintextPackage where
  fields : PodPackageFields
  files : List PodFileInput
  carrierSignature : JsString
  manifestHash : JsString
  packageContentHash : JsString
  deriving DecidableEq, Repr

/-! ## Encoding -/

def plaintextFileFields (file : PodFileInput) : List (JsString × Json) :=
  [(js "fileId", .str file.fileId), (js "documentType", .str file.documentType), (js "filename", .str file.filename),
   (js "mimeType", .str file.mimeType), (js "contentBase64", .str (encodeBase64 file.bytes))]

def PodPlaintextPackage.body (pkg : PodPlaintextPackage) : List (JsString × Json) :=
  [(js "fields", pkg.fields.toJson), (js "files", .arr (pkg.files.map fun file => .obj (plaintextFileFields file))),
   (js "carrierSignature", .str pkg.carrierSignature), (js "manifestHash", .str pkg.manifestHash),
   (js "packageContentHash", .str pkg.packageContentHash)]

def encodePlaintextPackage (pkg : PodPlaintextPackage) : List UInt8 := utf8Bytes (canonicalize (.obj pkg.body))

/-! ## Decoding -/

/-- What `decodePlaintextPackage` throws: a `PodError`, or a `TypeError` of a file without its content. -/
inductive DecodeError where
  | pod (error : PodError)
  | typeError
  deriving DecidableEq, Repr

/-- A decoded file; a property that is not there is undefined. -/
structure DecodedFile where
  fileId : Option Json
  documentType : Option Json
  filename : Option Json
  mimeType : Option Json
  bytes : List UInt8

structure DecodedPackage where
  fields : Json
  files : List DecodedFile
  carrierSignature : Option Json
  manifestHash : Option Json
  packageContentHash : Option Json

/-- A value that counts as true. -/
def isTruthy : Json → Bool
  | .null => false
  | .bool b => b
  | .num n => n ≠ 0
  | .str s => s ≠ []
  | .arr _ | .obj _ => true

def decryptionFailed (message : String) : DecodeError := .pod ⟨.POD_DECRYPTION_FAILED, js message⟩

def decodeFile (f : Json) : Except DecodeError DecodedFile :=
  match property (js "contentBase64") f with
  | some (.str contentBase64) =>
    .ok
      { fileId := property (js "fileId") f, documentType := property (js "documentType") f,
        filename := property (js "filename") f, mimeType := property (js "mimeType") f,
        bytes := AesGcm.ofNats (TextCodec.fromBase64 contentBase64) }
  | _ => .error .typeError

def decodeFiles : List Json → Except DecodeError (List DecodedFile)
  | [] => .ok []
  | f :: rest => do
    let file ← decodeFile f
    let files ← decodeFiles rest
    pure (file :: files)

def decodePlaintextPackage (bytes : List UInt8) : Except DecodeError DecodedPackage :=
  match Json.parse (TextCodec.toText (AesGcm.toNats bytes)) with
  | none => .error (decryptionFailed "plaintext package JSON invalid")
  | some (.obj fields) =>
    match fields.lookup (js "fields"), fields.lookup (js "files") with
    | some podFields, some (.arr items) =>
      if isTruthy podFields then do
        let files ← decodeFiles items
        pure
          { fields := podFields, files, carrierSignature := fields.lookup (js "carrierSignature"),
            manifestHash := fields.lookup (js "manifestHash"),
            packageContentHash := fields.lookup (js "packageContentHash") }
      else .error (decryptionFailed "plaintext package incomplete")
    | _, _ => .error (decryptionFailed "plaintext package incomplete")
  | some (.arr _) => .error (decryptionFailed "plaintext package incomplete")
  | some _ => .error (decryptionFailed "plaintext package shape invalid")

/-! ## The declared types -/

/-- The fields of a package, where the object holds them all. -/
def packageFields (fields : List (JsString × Json)) : Option PodPackageFields := do
  let podId ← readStr fields (js "podId")
  let podVersion ← readNum fields (js "podVersion")
  let tenderId ← readStr fields (js "tenderId")
  let tenderVersion ← readNum fields (js "tenderVersion")
  let winningBidId ← readStr fields (js "winningBidId")
  let escrowTenderKey ← readStr fields (js "escrowTenderKey")
  let carrierId ← readStr fields (js "carrierId")
  let carrierAccountId ← readStr fields (js "carrierAccountId")
  let deliveryTimestamp ← readStr fields (js "deliveryTimestamp")
  let recipientConfirmationPresent ← readBool fields (js "recipientConfirmationPresent")
  let cargoConditionCode ← readStr fields (js "cargoConditionCode")
  let exceptionCodes ← readStrs fields (js "exceptionCodes")
  let submittedAt ← readStr fields (js "submittedAt")
  let actionId ← readStr fields (js "actionId")
  pure
    { podId, podVersion, tenderId, tenderVersion, winningBidId, escrowTenderKey, carrierId, carrierAccountId,
      deliveryTimestamp, recipientConfirmationPresent, cargoConditionCode, exceptionCodes, submittedAt, actionId }

def DecodedFile.file (f : DecodedFile) : Option PodFileInput := do
  let fileId ← f.fileId.bind asStr
  let documentType ← f.documentType.bind asStr
  let filename ← f.filename.bind asStr
  let mimeType ← f.mimeType.bind asStr
  pure { fileId, documentType, filename, mimeType, bytes := f.bytes }

def DecodedPackage.package (d : DecodedPackage) : Option PodPlaintextPackage := do
  let fields ← (asObj d.fields).bind packageFields
  let files ← d.files.mapM DecodedFile.file
  let carrierSignature ← d.carrierSignature.bind asStr
  let manifestHash ← d.manifestHash.bind asStr
  let packageContentHash ← d.packageContentHash.bind asStr
  pure { fields, files, carrierSignature, manifestHash, packageContentHash }

/-! ## A package is decoded as it was encoded -/

theorem toText_utf8Bytes {v : Json} : TextCodec.toText (AesGcm.toNats (utf8Bytes (canonicalize v))) = canonicalize v := by
  rw [utf8Bytes, AesGcm.toNats_ofNats (TextCodec.utf8_lt _), canonicalize_eq_print]
  exact TextCodec.toText_utf8 (TextCodec.wellFormed_print _)

theorem fromBase64_encodeBase64 (bytes : List UInt8) :
    AesGcm.ofNats (TextCodec.fromBase64 (encodeBase64 bytes)) = bytes := by
  rw [encodeBase64, TextCodec.fromBase64_toBase64 AesGcm.toNats_lt, AesGcm.ofNats_toNats]

theorem keys_plaintextFileFields (file : PodFileInput) : ((plaintextFileFields file).map Prod.fst).Nodup := by
  show [js "fileId", js "documentType", js "filename", js "mimeType", js "contentBase64"].Nodup
  decide

theorem keys_body (pkg : PodPlaintextPackage) : (pkg.body.map Prod.fst).Nodup := by
  show [js "fields", js "files", js "carrierSignature", js "manifestHash", js "packageContentHash"].Nodup
  decide

theorem distinct_fieldsJson (fields : PodPackageFields) : Distinct fields.toJson := by
  refine ⟨?_, trivial, trivial, trivial, trivial, trivial, trivial, trivial, trivial, trivial, trivial, trivial,
    distinct_arr (f := .str) (fun _ => trivial) _, trivial, trivial, trivial⟩
  show [js "podId", js "podVersion", js "tenderId", js "tenderVersion", js "winningBidId", js "escrowTenderKey",
    js "carrierId", js "carrierAccountId", js "deliveryTimestamp", js "recipientConfirmationPresent",
    js "cargoConditionCode", js "exceptionCodes", js "submittedAt", js "actionId"].Nodup
  decide

theorem distinct_body (pkg : PodPlaintextPackage) : Distinct (.obj pkg.body) := by
  refine ⟨keys_body pkg, distinct_fieldsJson pkg.fields, distinct_arr (fun file => ?_) _, trivial, trivial, trivial,
    trivial⟩
  exact ⟨keys_plaintextFileFields file, trivial, trivial, trivial, trivial, trivial, trivial⟩

/-- The file as it comes out of the text. -/
def readBack (file : PodFileInput) : DecodedFile where
  fileId := some (.str file.fileId)
  documentType := some (.str file.documentType)
  filename := some (.str file.filename)
  mimeType := some (.str file.mimeType)
  bytes := file.bytes

theorem decodeFile_normalize (file : PodFileInput) :
    decodeFile (normalize (.obj (plaintextFileFields file))) = .ok (readBack file) := by
  have hlookup (key : JsString) : property key (normalize (.obj (plaintextFileFields file))) =
      ((plaintextFileFields file).lookup key).map normalize := lookup_sorted (keys_plaintextFileFields file) key
  have hcontent : property (js "contentBase64") (normalize (.obj (plaintextFileFields file))) =
      some (.str (encodeBase64 file.bytes)) := by
    rw [hlookup]
    rfl
  unfold decodeFile
  rw [hcontent]
  simp only [hlookup, fromBase64_encodeBase64]
  rfl

theorem decodeFiles_normalize (files : List PodFileInput) :
    decodeFiles (normalizeItems (files.map fun file => .obj (plaintextFileFields file))) =
      .ok (files.map readBack) := by
  induction files with
  | nil => rfl
  | cons file rest ih =>
    rw [List.map_cons, normalizeItems, decodeFiles, decodeFile_normalize, ih]
    rfl

theorem packageFields_normalize (fields : PodPackageFields) :
    (asObj (Json.normalize fields.toJson)).bind packageFields = some fields := by
  obtain ⟨l, hl⟩ : ∃ l, fields.toJson = .obj l := ⟨_, rfl⟩
  have hn : (l.map Prod.fst).Nodup := (hl ▸ distinct_fieldsJson fields : Distinct (.obj l)).1
  have hsorted : asObj (Json.normalize (.obj l)) = some (sorted l) := rfl
  have hcodes : readStrs l (js "exceptionCodes") = some fields.exceptionCodes := by
    cases hl
    exact readStrs_eq_some.mpr rfl
  rw [hl, hsorted, Option.bind_some, packageFields]
  simp only [readStr_sorted hn, readNum_sorted hn, readBool_sorted hn, readStrs_sorted hn, hcodes]
  cases hl
  rfl

theorem mapM_readBack (files : List PodFileInput) : (files.map readBack).mapM DecodedFile.file = some files := by
  induction files with
  | nil => rfl
  | cons file rest ih =>
    rw [List.map_cons, List.mapM_cons, ih]
    rfl

/-- A package is decoded as it was encoded. -/
theorem decode_encode (pkg : PodPlaintextPackage) :
    ∃ d, decodePlaintextPackage (encodePlaintextPackage pkg) = .ok d ∧ d.package = some pkg := by
  have hlookup (key : JsString) : (sorted pkg.body).lookup key = (pkg.body.lookup key).map normalize :=
    lookup_sorted (keys_body pkg) key
  have hfields : (sorted pkg.body).lookup (js "fields") = some (normalize pkg.fields.toJson) := by
    rw [hlookup]
    rfl
  have hfiles : (sorted pkg.body).lookup (js "files") =
      some (.arr (normalizeItems (pkg.files.map fun file => .obj (plaintextFileFields file)))) := by
    rw [hlookup]
    rfl
  have htruthy : isTruthy (normalize pkg.fields.toJson) = true := rfl
  have hparse : Json.parse (canonicalize (.obj pkg.body)) = some (.obj (sorted pkg.body)) :=
    parse_canonicalize (distinct_body pkg)
  refine ⟨⟨normalize pkg.fields.toJson, pkg.files.map readBack, some (.str pkg.carrierSignature),
    some (.str pkg.manifestHash), some (.str pkg.packageContentHash)⟩, ?_, ?_⟩
  · rw [decodePlaintextPackage, encodePlaintextPackage, toText_utf8Bytes, hparse]
    simp only [hfields, hfiles, htruthy, if_true, decodeFiles_normalize, hlookup]
    rfl
  · simp only [DecodedPackage.package, packageFields_normalize, mapM_readBack, Option.bind_eq_bind, Option.bind_some, asStr]
    rfl

end RouteGuard.Pod
