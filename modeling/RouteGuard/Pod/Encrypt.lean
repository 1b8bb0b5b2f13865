import RouteGuard.Lib.AesGcm
import RouteGuard.Lib.TextCodec
import RouteGuard.Pod.Storage

/-!
# Encrypted POD records

A package is encrypted under a key of its own, which is wrapped under the master key. The identifiers of the package and
its manifest hash are authenticated with both ciphertexts; the other fields of the envelope are covered by its integrity
hash alone.

* `encryptPodPayload`, `decryptPodPayload` : the payload;
* `AesGcmMasterKeyProtector` : the master key, which wraps the keys of the packages;
* `encryptAndBuildRecord`, `decryptStoredRecord` : a stored record and its plaintext.
-/

namespace RouteGuard.Pod
open JsString Json Guarded

/-! ## Base64 -/

def encodeBase64 (bytes : List UInt8) : JsString := TextCodec.toBase64 (AesGcm.toNats bytes)

def decodeBase64 (value : JsString) : Except PodError (List UInt8) := do
  let buf := AesGcm.ofNats (TextCodec.fromBase64 value)
  require (¬ (buf = [] ∧ value ≠ [])) ⟨.POD_STORAGE_CORRUPT, js "invalid base64"⟩
  pure buf

/-! ## The payload -/

def POD_CONTENT_ALG : JsString := js "AES-256-GCM"

def POD_IV_BYTES : Nat := 12

def POD_KEY_BYTES : Nat := 32

structure PodAadBinding extends PodKey where
  manifestHash : JsString
  deriving DecidableEq, Repr

/-- The identifiers and the manifest hash, as they stand in both authenticated texts. -/
def PodAadBinding.context (aad : PodAadBinding) : JsString :=
  aad.tenderId ++ js "|" ++ decimalInt aad.tenderVersion ++ js "|" ++ aad.podId ++ js "|" ++ decimalInt aad.podVersion ++
    js "|" ++ aad.manifestHash

/-- `Buffer.from(text, "utf8")`. -/
def utf8Bytes (text : JsString) : List UInt8 := AesGcm.ofNats (Sha256.utf8 text)

def buildAadBytes (aad : PodAadBinding) : List UInt8 := utf8Bytes (js "ROUTEGUARD_V2_POD_AAD_V1|" ++ aad.context)

structure PodEncryptResult where
  ciphertext : List UInt8
  iv : List UInt8
  authTag : List UInt8
  dataKey : List UInt8
  ciphertextHash : JsString
  aadHash : JsString
  aadBytes : List UInt8
  deriving DecidableEq, Repr

section Payload
variable (sha256Hex : List UInt8 → JsString)

/-- The key and the initialization vector are drawn at random where the caller gives none. -/
def encryptPodPayload (dataKey iv plaintext : List UInt8) (aad : PodAadBinding) : Except PodError PodEncryptResult := do
  require (dataKey.length = POD_KEY_BYTES) ⟨.POD_ENCRYPTION_FAILED, js "data key length invalid"⟩
  require (iv.length = POD_IV_BYTES) ⟨.POD_ENCRYPTION_FAILED, js "iv length invalid"⟩
  let aadBytes := buildAadBytes aad
  let (ciphertext, authTag) := AesGcm.encrypt dataKey iv aadBytes plaintext
  pure
    { ciphertext, iv, authTag, dataKey, ciphertextHash := sha256Digest sha256Hex ciphertext,
      aadHash := sha256Digest sha256Hex aadBytes, aadBytes }

end Payload

def decryptPodPayload (ciphertext iv authTag dataKey : List UInt8) (aad : PodAadBinding) : Except PodError (List UInt8) :=
  match AesGcm.decrypt dataKey iv (buildAadBytes aad) authTag ciphertext with
  | some plaintext => .ok plaintext
  | none => .error ⟨.POD_DECRYPTION_FAILED, js "decryption or authentication failed"⟩

/-! ## The keys of the packages -/

def POD_WRAP_ALG : JsString := js "AES-256-GCM-WRAP-V1"

/-- The constructor accepts a master key of 32 bytes only. -/
structure AesGcmMasterKeyProtector where
  masterKey : List UInt8
  length_masterKey : masterKey.length = POD_KEY_BYTES

def wrapAadBytes (context : JsString) : List UInt8 := utf8Bytes (js "POD_KEY_WRAP|" ++ context)

namespace AesGcmMasterKeyProtector
variable (protector : AesGcmMasterKeyProtector)

def wrapKey (iv dataKey : List UInt8) (context : JsString) : Except PodError WrappedPodDataKey := do
  require (dataKey.length = POD_KEY_BYTES) ⟨.POD_ENCRYPTION_FAILED, js "data key length invalid"⟩
  let (enc, tag) := AesGcm.encrypt protector.masterKey iv (wrapAadBytes context) dataKey
  pure
    { wrapAlg := POD_WRAP_ALG, wrappedKeyB64 := encodeBase64 enc, wrapIvB64 := encodeBase64 iv,
      wrapTagB64 := encodeBase64 tag }

def unwrapKey (wrapped : WrappedPodDataKey) (context : JsString) : Except PodError (List UInt8) := do
  require (wrapped.wrapAlg = POD_WRAP_ALG) ⟨.POD_DECRYPTION_FAILED, js "unsupported wrap algorithm"⟩
  let iv ← decodeBase64 wrapped.wrapIvB64
  let tag ← decodeBase64 wrapped.wrapTagB64
  let ciphertext ← decodeBase64 wrapped.wrappedKeyB64
  match AesGcm.decrypt protector.masterKey iv (wrapAadBytes context) tag ciphertext with
  | none => .error ⟨.POD_DECRYPTION_FAILED, js "key unwrap failed"⟩
  | some key => do
    require (key.length = POD_KEY_BYTES) ⟨.POD_DECRYPTION_FAILED, js "unwrapped key length invalid"⟩
    pure key

end AesGcmMasterKeyProtector

/-! ## Records -/

/-- What is drawn at random for one record. -/
structure RecordSecrets where
  dataKey : List UInt8
  iv : List UInt8
  wrapIv : List UInt8
  length_dataKey : dataKey.length = POD_KEY_BYTES
  length_iv : iv.length = POD_IV_BYTES
  length_wrapIv : wrapIv.length = POD_IV_BYTES

structure RecordInput where
  plaintext : List UInt8
  fields : PodPackageFields
  manifest : PodCanonicalManifest
  manifestHash : JsString
  packageContentHash : JsString
  createdAt : JsString

def PodPackageFields.key (fields : PodPackageFields) : PodKey where
  tenderId := fields.tenderId
  tenderVersion := fields.tenderVersion
  podId := fields.podId
  podVersion := fields.podVersion

def RecordInput.aad (input : RecordInput) : PodAadBinding := ⟨input.fields.key, input.manifestHash⟩

def PodStorageEnvelope.aad (envelope : PodStorageEnvelope) : PodAadBinding := ⟨envelope.toPodKey, envelope.manifestHash⟩

section Records
variable (p : Platform) (sha256Hex : List UInt8 → JsString) (protector : AesGcmMasterKeyProtector)

def ciphertextRefOf (k : PodKey) : JsString :=
  js "pod://" ++ k.tenderId ++ js "/v" ++ decimalInt k.tenderVersion ++ js "/" ++ k.podId ++ js "/v" ++
    decimalInt k.podVersion

def encryptAndBuildRecord (secrets : RecordSecrets) (input : RecordInput) : Except PodError StoredPodRecord := do
  let enc ← encryptPodPayload sha256Hex secrets.dataKey secrets.iv input.plaintext input.aad
  let wrapped ← protector.wrapKey secrets.wrapIv enc.dataKey input.aad.context
  let envelope := sealEnvelope p
    { input.fields.key with
      schemaVersion := POD_STORE_SCHEMA, ciphertextRef := ciphertextRefOf input.fields.key,
      ciphertextHash := enc.ciphertextHash, plaintextPackageHash := input.packageContentHash,
      manifestHash := input.manifestHash, encryptionAlg := POD_CONTENT_ALG, ivB64 := encodeBase64 enc.iv,
      authTagB64 := encodeBase64 enc.authTag, wrappedKey := wrapped, wrapAlg := wrapped.wrapAlg, aadHash := enc.aadHash,
      ciphertextBytes := enc.ciphertext.length, plaintextBytes := input.plaintext.length, createdAt := input.createdAt,
      integrityHash := [], publicFields := input.fields, publicManifest := input.manifest }
  pure ⟨envelope, encodeBase64 enc.ciphertext⟩

def decryptStoredRecord (record : StoredPodRecord) : Except PodError (List UInt8) := do
  assertEnvelopeIntegrity p record.envelope
  let env := record.envelope
  let dataKey ← protector.unwrapKey env.wrappedKey env.aad.context
  let ciphertext ← decodeBase64 record.ciphertextB64
  require (sha256Digest sha256Hex ciphertext = env.ciphertextHash) ⟨.POD_STORAGE_CORRUPT, js "ciphertext hash mismatch"⟩
  let iv ← decodeBase64 env.ivB64
  let authTag ← decodeBase64 env.authTagB64
  decryptPodPayload ciphertext iv authTag dataKey env.aad

end Records

end RouteGuard.Pod
